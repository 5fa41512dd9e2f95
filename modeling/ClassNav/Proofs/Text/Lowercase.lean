import ClassNav.Proofs.Character.Ascii
import ClassNav.Text.Lowercase
import Mathlib

/-!
Lower case and raised initials of ASCII letters and digits, which come one by one.
-/

namespace ClassNav

namespace Character

theorem isAlphanum_toLower {c : Char} (kept : c.isAlphanum = true) : c.toLower.isAlphanum = true := by
  by_cases upper : c.isUpper = true
  · simp [Char.isAlphanum, Char.isAlpha, upper]
  · rwa [Char.toLower_eq_of_not_isUpper upper]

theorem isAlphanum_toUpper {c : Char} (kept : c.isAlphanum = true) : c.toUpper.isAlphanum = true := by
  by_cases lower : c.isLower = true
  · simp [Char.isAlphanum, Char.isAlpha, lower]
  · rwa [Char.toUpper_eq_of_not_isLower lower]

theorem toNat_toLower_lt {c : Char} (ascii : c.toNat < 128) : c.toLower.toNat < 128 := by
  by_cases upper : c.isUpper = true
  · have letter : c.toLower.isAlphanum = true :=
      isAlphanum_toLower (by simp [Char.isAlphanum, Char.isAlpha, upper])
    exact toNat_lt_of_isAlphanum letter
  · rwa [Char.toLower_eq_of_not_isUpper upper]

end Character

namespace Text

open Character

/-- No character of ASCII looks at its neighbours to find its lower case. -/
theorem lowercase_of_ascii {w : Text} (ascii : ∀ c ∈ w, c.toNat < 128) : lowercase w = lowerAscii w := by
  have after (before w : Text) (ascii : ∀ c ∈ w, c.toNat < 128) :
      lowercaseAfter before w = lowerAscii w := by
    induction w generalizing before with
    | nil => rfl
    | cons c r ih =>
      have small := ascii c (List.mem_cons_self ..)
      have sigma : c ≠ 'Σ' := by
        rintro rfl
        simp at small
      rw [lowercaseAfter, if_neg sigma, toLower_of_ascii small,
        ih _ fun d found => ascii d (List.mem_cons_of_mem _ found)]
      rfl
  exact after [] w ascii

theorem capitalize_of_ascii {c : Char} {r : Text} (ascii : ∀ d ∈ c :: r, d.toNat < 128) :
    capitalize (c :: r) = c.toUpper :: lowerAscii r := by
  have lower : lowercase (c :: r) = c.toLower :: lowerAscii r := lowercase_of_ascii ascii
  have small : c.toLower.toNat < 128 := toNat_toLower_lt (ascii c (List.mem_cons_self ..))
  rw [capitalize, lower]
  show toUpper c.toLower ++ lowerAscii r = _
  rw [toUpper_of_ascii small, Char.toUpper_toLower_eq_toUpper]
  rfl

theorem lowerAscii_append (a b : Text) : lowerAscii (a ++ b) = lowerAscii a ++ lowerAscii b :=
  List.map_append ..

theorem lowerAscii_lowerAscii (t : Text) : lowerAscii (lowerAscii t) = lowerAscii t := by
  simp [lowerAscii, Char.toLower_toLower_eq_toLower]

theorem lowerAscii_capitalize {w : Text} (ascii : ∀ c ∈ w, c.toNat < 128) :
    lowerAscii (capitalize w) = lowerAscii w := by
  cases w with
  | nil => rfl
  | cons c r =>
    rw [capitalize_of_ascii ascii]
    show c.toUpper.toLower :: lowerAscii (lowerAscii r) = c.toLower :: lowerAscii r
    rw [Char.toLower_toUpper_eq_toLower, lowerAscii_lowerAscii]

section
variable {w : Text} (kept : ∀ c ∈ w, c.isAlphanum = true)
include kept

theorem isAlphanum_lowerAscii : ∀ c ∈ lowerAscii w, c.isAlphanum = true := by
  intro c found
  obtain ⟨d, listed, rfl⟩ := List.mem_map.1 found
  exact isAlphanum_toLower (kept d listed)

theorem lowercase_of_alphanum : lowercase w = lowerAscii w :=
  lowercase_of_ascii fun c found => toNat_lt_of_isAlphanum (kept c found)

theorem isAlphanum_capitalize : ∀ c ∈ capitalize w, c.isAlphanum = true := by
  cases w with
  | nil => simp [capitalize, lowercase, lowercaseAfter]
  | cons c r =>
    rw [capitalize_of_ascii fun d found => toNat_lt_of_isAlphanum (kept d found)]
    intro d found
    obtain rfl | later := List.mem_cons.1 found
    · exact isAlphanum_toUpper (kept c (List.mem_cons_self ..))
    · exact isAlphanum_lowerAscii (fun e rest => kept e (List.mem_cons_of_mem _ rest)) d later

end

end Text

end ClassNav
