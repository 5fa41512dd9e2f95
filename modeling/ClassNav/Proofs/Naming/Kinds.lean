import ClassNav.Naming.Words
import ClassNav.Proofs.Character.Ascii

/-!
What a character is to the word splitter, told from its code point.
-/

namespace ClassNav.Naming

open Character

/-- Latin-1 symbols and general punctuation. -/
def IsSymbol (c : Char) : Prop :=
  (0x80 ≤ c.toNat ∧ c.toNat ≤ 0xBF) ∨ c = '×' ∨ c = '÷' ∨ (0x2000 ≤ c.toNat ∧ c.toNat ≤ 0x206F)

instance (c : Char) : Decidable (IsSymbol c) := inferInstanceAs (Decidable (_ ∨ _ ∨ _ ∨ _))

theorem IsSymbol.beyond {c : Char} (symbol : IsSymbol c) : 128 ≤ c.toNat := by
  obtain latin | rfl | rfl | mark := symbol
  · exact latin.1
  · decide
  · decide
  · omega

theorem kind_of_isDigit {c : Char} (digit : c.isDigit = true) : kind c = .digit := if_pos digit

theorem kind_of_symbol {c : Char} (symbol : IsSymbol c) : kind c = .boundary := by
  have digit : c.isDigit ≠ true := fun digit => by
    have range := toNat_of_isDigit digit
    have beyond := symbol.beyond
    omega
  exact (if_neg digit).trans (if_pos symbol)

/-- Where no special rule applies, the case of a letter is its kind. -/
theorem kind_of_plain {c : Char} (digit : c.isDigit = false) (symbol : ¬ IsSymbol c) :
    kind c = if isUppercase c then .upper else if c.toNat < 128 ∧ ¬ c.isAlpha then .boundary
      else .lower :=
  (if_neg (by simp [digit])).trans (if_neg symbol)

theorem kind_of_letter {c : Char} (letter : c.isAlpha = true) :
    kind c = if c.isUpper then .upper else .lower := by
  have range := toNat_of_isAlpha letter
  have ascii : c.toNat < 128 := by omega
  have digit : c.isDigit = false := by
    rw [← Bool.not_eq_true]
    intro digit
    have range' := toNat_of_isDigit digit
    omega
  have symbol : ¬ IsSymbol c := fun symbol => by
    have beyond := symbol.beyond
    omega
  rw [kind_of_plain digit symbol, isUppercase, if_pos ascii]
  simp [letter]

theorem kind_of_isUpper {c : Char} (upper : c.isUpper = true) : kind c = .upper := by
  rw [kind_of_letter (isAlpha_iff.2 (.inl upper)), if_pos upper]

theorem kind_of_isLower {c : Char} (lower : c.isLower = true) : kind c = .lower := by
  have upper : ¬ c.isUpper = true := fun upper => by
    have range := isLower_iff.1 lower
    have range' := isUpper_iff.1 upper
    simp only [UInt32.le_iff_toNat_le, Char.toNat_val] at range range'
    have last : 'Z'.toNat = 90 := rfl
    have first : 'a'.toNat = 97 := rfl
    omega
  rw [kind_of_letter (isAlpha_iff.2 (.inr lower)), if_neg upper]

/-- What belongs to no word: symbols, and of ASCII all but letters and digits. -/
theorem kind_eq_boundary_iff {c : Char} :
    kind c = .boundary ↔ IsSymbol c ∨ c.toNat < 128 ∧ c.isAlphanum = false := by
  by_cases symbol : IsSymbol c
  · simp [kind_of_symbol symbol, symbol]
  cases digit : c.isDigit with
  | true => simp [kind_of_isDigit digit, symbol, Char.isAlphanum, digit]
  | false =>
    rw [kind_of_plain digit symbol, isUppercase]
    by_cases ascii : c.toNat < 128
    · have letter : c.isAlpha = (c.isUpper || c.isLower) := rfl
      cases upper : c.isUpper <;> simp [ascii, symbol, upper, Char.isAlphanum, letter, digit]
    · simp only [ascii, if_false, false_and, symbol, or_self, iff_false]
      split <;> simp

/-- No letter or digit of ASCII is a boundary. -/
theorem kind_of_isAlphanum {c : Char} (kept : c.isAlphanum = true) : kind c ≠ .boundary := by
  intro boundary
  obtain symbol | ⟨-, other⟩ := kind_eq_boundary_iff.1 boundary
  · have beyond := symbol.beyond
    have ascii := toNat_lt_of_isAlphanum kept
    omega
  · simp [kept] at other

/-- A combining mark counts as a letter, so no boundary is one. -/
theorem mark_of_boundary {c : Char} (boundary : kind c = .boundary) :
    ¬ (0x300 ≤ c.toNat ∧ c.toNat ≤ 0x36F) := by
  rintro ⟨low, high⟩
  obtain (latin | rfl | rfl | mark) | ⟨ascii, -⟩ := kind_eq_boundary_iff.1 boundary
  · omega
  · simp at low
  · simp at low
  · omega
  · omega

end ClassNav.Naming
