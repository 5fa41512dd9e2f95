import ClassNav.Character.Word
import ClassNav.Document.Reference
import ClassNav.Document.Usage
import ClassNav.Naming.Dashes
import ClassNav.Stylesheet.ClassNames

/-!
The alphabets of the library side by side. Objects, referenced names, tokens and class names are each
read with an alphabet of their own; all of them are ASCII, and a reference's separator is in none.
-/

namespace ClassNav.Character

theorem isUpper_iff {c : Char} : c.isUpper = true ↔ 'A'.val ≤ c.val ∧ c.val ≤ 'Z'.val :=
  decide_eq_true_iff

theorem isLower_iff {c : Char} : c.isLower = true ↔ 'a'.val ≤ c.val ∧ c.val ≤ 'z'.val := by
  show (decide ('a'.val ≤ c.val) && decide (c.val ≤ 'z'.val)) = true ↔ _
  rw [Bool.and_eq_true, decide_eq_true_iff, decide_eq_true_iff]

theorem isAlpha_iff {c : Char} : c.isAlpha = true ↔ c.isUpper = true ∨ c.isLower = true := by
  show (c.isUpper || c.isLower) = true ↔ _
  rw [Bool.or_eq_true]

theorem toNat_of_isAlpha {c : Char} (h : c.isAlpha = true) :
    65 ≤ c.toNat ∧ c.toNat ≤ 90 ∨ 97 ≤ c.toNat ∧ c.toNat ≤ 122 := by
  simpa [isAlpha_iff, isUpper_iff, isLower_iff, UInt32.le_iff_toNat_le] using h

theorem toNat_of_isDigit {c : Char} (h : c.isDigit = true) : 48 ≤ c.toNat ∧ c.toNat ≤ 57 := by
  simpa [Char.isDigit, UInt32.le_iff_toNat_le] using h

theorem toNat_lt_of_isAlphanum {c : Char} (h : c.isAlphanum = true) : c.toNat < 128 := by
  rw [Char.isAlphanum, Bool.or_eq_true] at h
  obtain letter | digit := h
  · have range := toNat_of_isAlpha letter
    omega
  · have range := toNat_of_isDigit digit
    omega

theorem isWord_of_isJoinable {c : Char} (h : Naming.isJoinable c = true) : isWord c = true := by
  simp only [Naming.isJoinable, Bool.or_eq_true, beq_iff_eq] at h
  obtain h | rfl := h
  · exact isWord_of_isAlphanum (toNat_lt_of_isAlphanum h) h
  · rfl

/-- A token goes on exactly with a dot or a character of an object. -/
theorem isTokenChar_iff {c : Char} :
    Reference.isTokenChar c = true ↔ Naming.isJoinable c = true ∨ c = '.' := by
  simp only [Reference.isTokenChar, Naming.isJoinable, Bool.or_eq_true, beq_iff_eq]
  grind

theorem toNat_of_isTokenChar {c : Char} (h : Reference.isTokenChar c = true) : c.toNat < 128 := by
  simp only [Reference.isTokenChar, Bool.or_eq_true, beq_iff_eq] at h
  obtain (word | rfl) | rfl := h
  · exact toNat_lt_of_isAlphanum word
  · decide
  · decide

/-- What may stand before an object never belongs to its token. -/
theorem isTokenChar_of_isSeparator {c : Char} (h : Usage.isSeparator c = true) :
    Reference.isTokenChar c = false := by
  rw [← Bool.not_eq_true, isTokenChar_iff]
  rintro (joins | rfl)
  · simp [Usage.isSeparator, isWord_of_isJoinable joins] at h
  · cases h

theorem isNameChar_of_isAlphanum {c : Char} (h : c.isAlphanum = true) :
    Stylesheet.isNameChar c = true := by
  simp [Stylesheet.isNameChar, h]

theorem isNameChar_iff {c : Char} :
    Stylesheet.isNameChar c = true ↔ Naming.isJoinable c = true ∨ c = '-' := by
  simp [Stylesheet.isNameChar, Naming.isJoinable]

end ClassNav.Character
