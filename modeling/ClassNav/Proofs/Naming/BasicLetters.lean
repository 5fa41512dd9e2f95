import ClassNav.Proofs.Naming.Camel
import ClassNav.Proofs.Naming.FirstWord
import ClassNav.Proofs.Text.Lowercase

/-!
Camel case of a text of Latin letters. Nothing is left of it but ASCII letters and digits, and none of these
is lost: apart from their case they are those of the text, its Latin letters in their basic spelling.
-/

namespace ClassNav.Naming

open Character

/-- ASCII and Latin-1, combining marks, and general punctuation. -/
def IsLatin (c : Char) : Prop :=
  c.toNat ≤ 0xFF ∨ (0x300 ≤ c.toNat ∧ c.toNat ≤ 0x36F) ∨ (0x2000 ≤ c.toNat ∧ c.toNat ≤ 0x206F)

/-- A letter of Latin-1 beyond ASCII. The two signs among them are none. -/
def IsLatinLetter (c : Char) : Prop :=
  0xC0 ≤ c.toNat ∧ c.toNat ≤ 0xFF ∧ c ≠ '×' ∧ c ≠ '÷'

instance (c : Char) : Decidable (IsLatinLetter c) := inferInstanceAs (Decidable (_ ∧ _ ∧ _ ∧ _))

/-- The letters and digits of a text: apostrophes and combining marks go, letters of Latin-1 are spelled
with ASCII letters, and nothing else but ASCII letters and digits stays. -/
def basicLetters (t : Text) : Text :=
  ((t.filter fun c => !isSilent c).flatMap fun c =>
    if IsLatinLetter c then basicSpelling c else [c]).filter Char.isAlphanum

theorem listed_of_isLatinLetter {c : Char} (letter : IsLatinLetter c) :
    ∃ entry ∈ basicSpellings, entry.1 ≤ c ∧ c ≤ entry.2.1 := by
  obtain ⟨first, last, times, obelus⟩ := letter
  have times : c.toNat ≠ 0xD7 := fun same => times (Char.toNat_inj.1 same)
  have obelus : c.toNat ≠ 0xF7 := fun same => obelus (Char.toNat_inj.1 same)
  simp [basicSpellings, Char.le_def, UInt32.le_iff_toNat_le]
  omega

/-- Every letter of Latin-1 has a spelling, of ASCII letters only. -/
theorem isAlpha_basicSpelling {c : Char} (letter : IsLatinLetter c) :
    basicSpelling c ≠ [] ∧ ∀ d ∈ basicSpelling c, d.isAlpha = true := by
  have spelled : ∀ entry ∈ basicSpellings, entry.2.2.toList ≠ [] ∧
      ∀ d ∈ entry.2.2.toList, d.isAlpha = true := by
    simp [basicSpellings]
  obtain ⟨entry, listed, range⟩ := listed_of_isLatinLetter letter
  have inside : ¬ (c.toNat < 0xC0 ∨ 0xFF < c.toNat) := by
    have := letter.1
    have := letter.2.1
    omega
  rw [basicSpelling, if_neg inside]
  split
  next first last spelling found => exact spelled _ (List.mem_of_find?_eq_some found)
  next none =>
    have absent := List.find?_eq_none.1 none entry listed
    simp [range] at absent

theorem basicSpelling_of_other {c : Char} (other : ¬ IsLatinLetter c) : basicSpelling c = [c] := by
  by_cases outside : c.toNat < 0xC0 ∨ 0xFF < c.toNat
  · rw [basicSpelling, if_pos outside]
  · have sign : c = '×' ∨ c = '÷' := by
      by_contra neither
      rw [not_or] at neither
      exact other ⟨by omega, by omega, neither⟩
    obtain rfl | rfl := sign <;> decide

theorem basicLetters_eq (t : Text) : basicLetters t = (simplify t).filter Char.isAlphanum := by
  have same : (fun c => if IsLatinLetter c then basicSpelling c else [c]) = basicSpelling := by
    funext c
    split
    · rfl
    next other => exact (basicSpelling_of_other other).symm
  rw [basicLetters, same, simplify]

section
variable {t : Text} (latin : ∀ c ∈ t, IsLatin c)
include latin

/-- What a text of Latin letters is made of once it is simplified. -/
theorem isAlphanum_of_mem_simplify {c : Char} (found : c ∈ simplify t) :
    c.isAlphanum = true ∨ kind c = .boundary := by
  obtain ⟨d, heard, spelled⟩ := List.mem_flatMap.1 found
  obtain ⟨listed, loud⟩ := List.mem_filter.1 heard
  by_cases letter : IsLatinLetter d
  · have alpha := (isAlpha_basicSpelling letter).2 c spelled
    exact .inl (by simp [Char.isAlphanum, alpha])
  · rw [basicSpelling_of_other letter, List.mem_singleton] at spelled
    subst spelled
    cases kept : c.isAlphanum with
    | true => exact .inl rfl
    | false =>
      right
      have mark : ¬ (0x300 ≤ c.toNat ∧ c.toNat ≤ 0x36F) := by
        rintro ⟨low, high⟩
        simp [isSilent, low, high] at loud
      rw [kind_eq_boundary_iff]
      by_cases ascii : c.toNat < 128
      · exact .inr ⟨ascii, kept⟩
      · left
        by_contra plain
        simp only [IsSymbol, not_or] at plain
        obtain low | marked | punctuation := latin c listed
        · exact letter ⟨by omega, low, plain.2.1, plain.2.2.1⟩
        · exact mark marked
        · exact plain.2.2.2 punctuation

theorem flatten_words_simplify : (words (simplify t)).flatten = basicLetters t := by
  rw [(split_words _).flatten, basicLetters_eq, innerPart]
  apply List.filter_congr
  intro c found
  obtain kept | boundary := isAlphanum_of_mem_simplify latin found
  · simp [kept, kind_of_isAlphanum kept]
  · have dropped : c.isAlphanum = false := by
      rw [← Bool.not_eq_true]
      exact fun kept => kind_of_isAlphanum kept boundary
    simp [dropped, boundary]

theorem isAlphanum_of_mem_words {w : Text} (word : w ∈ words (simplify t)) :
    ∀ c ∈ w, c.isAlphanum = true := by
  intro c found
  have listed : c ∈ basicLetters t := by
    rw [← flatten_words_simplify latin]
    exact List.mem_flatten.2 ⟨w, word, found⟩
  exact (List.mem_filter.1 listed).2

end

section
variable {ws : List Text} (kept : ∀ w ∈ ws, ∀ c ∈ w, c.isAlphanum = true)
include kept

theorem isAlphanum_joinWords : ∀ c ∈ joinWords ws, c.isAlphanum = true := by
  cases ws with
  | nil => exact fun c found => absurd found (List.not_mem_nil)
  | cons first rest =>
    intro c found
    rw [joinWords, Text.lowercase_of_alphanum (kept first (List.mem_cons_self ..))] at found
    obtain opening | later := List.mem_append.1 found
    · exact Text.isAlphanum_lowerAscii (kept first (List.mem_cons_self ..)) c opening
    · obtain ⟨w, listed, inside⟩ := List.mem_flatMap.1 later
      exact Text.isAlphanum_capitalize (kept w (List.mem_cons_of_mem _ listed)) c inside

/-- Joining words changes nothing but the case of their letters. -/
theorem lowerAscii_joinWords : Text.lowerAscii (joinWords ws) = Text.lowerAscii ws.flatten := by
  have raised (ws : List Text) (kept : ∀ w ∈ ws, ∀ c ∈ w, c.isAlphanum = true) :
      Text.lowerAscii (ws.flatMap Text.capitalize) = Text.lowerAscii ws.flatten := by
    induction ws with
    | nil => rfl
    | cons w ws ih =>
      have ascii : ∀ c ∈ w, c.toNat < 128 := fun c found =>
        toNat_lt_of_isAlphanum (kept w (List.mem_cons_self ..) c found)
      rw [List.flatMap_cons, List.flatten_cons, Text.lowerAscii_append, Text.lowerAscii_append,
        Text.lowerAscii_capitalize ascii, ih fun v listed => kept v (List.mem_cons_of_mem _ listed)]
  cases ws with
  | nil => rfl
  | cons first rest =>
    rw [joinWords, Text.lowercase_of_alphanum (kept first (List.mem_cons_self ..)), Text.lowerAscii_append,
      Text.lowerAscii_lowerAscii, raised rest fun v listed => kept v (List.mem_cons_of_mem _ listed),
      List.flatten_cons, Text.lowerAscii_append]

theorem head_joinWords (some : ∀ w ∈ ws, w ≠ []) : ∀ c ∈ (joinWords ws).head?, c.isUpper = false := by
  cases ws with
  | nil => simp [joinWords]
  | cons first rest =>
    obtain ⟨d, r, rfl⟩ := List.exists_cons_of_ne_nil (some first (List.mem_cons_self ..))
    rw [joinWords, Text.lowercase_of_alphanum (kept _ (List.mem_cons_self ..))]
    rintro c ⟨⟩
    exact Char.isUpper_toLower_eq_false d

end

/-- **Camel case keeps every letter and digit and nothing else.** A text of Latin letters comes to ASCII
letters and digits, the first of them no capital, and up to their case they are the basic letters of the
text. -/
theorem camelCase_keeps_basicLetters (t : Text) (latin : ∀ c ∈ t, IsLatin c) :
    (∀ c ∈ camelCase t, c.isAlphanum = true) ∧ (∀ c ∈ (camelCase t).head?, c.isUpper = false) ∧
    Text.lowerAscii (camelCase t) = Text.lowerAscii (basicLetters t) ∧
    ∀ c, IsLatinLetter c → basicSpelling c ≠ [] ∧ ∀ d ∈ basicSpelling c, d.isAlpha = true := by
  have kept (w : Text) (word : w ∈ words (simplify t)) := isAlphanum_of_mem_words latin word
  refine ⟨isAlphanum_joinWords kept, head_joinWords kept (split_words _).ne_nil, ?_,
    fun c letter => isAlpha_basicSpelling letter⟩
  rw [camelCase, lowerAscii_joinWords kept, flatten_words_simplify latin]

/-- A ligature, a sharp s, a combining accent and a sign between words. -/
theorem camelCase_keeps_basicLetters_of_signs :
    (∀ c ∈ (".Ærø×Cafe\u0301 2nd’Straße" : Text), IsLatin c) ∧
    Text.lowerAscii (camelCase ".Ærø×Cafe\u0301 2nd’Straße") = "aerocafe2ndstrasse".toList := by
  have latin : ∀ c ∈ (".Ærø×Cafe\u0301 2nd’Straße" : Text), IsLatin c := by
    simp [IsLatin]
  obtain ⟨-, -, same, -⟩ := camelCase_keeps_basicLetters _ latin
  exact ⟨latin, same.trans (by decide)⟩

end ClassNav.Naming
