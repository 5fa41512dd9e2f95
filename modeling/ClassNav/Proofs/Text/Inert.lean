import ClassNav.Proofs.Character.Ascii
import ClassNav.Text.Trim
import Mathlib.Data.List.Basic

/-!
Text that a terminal only shows. What is cut from such text or put together from it is such text again.
-/

namespace ClassNav.Text

/-- No escape character, which opens all that a terminal obeys. -/
def Inert (t : Text) : Prop := '\x1b' ∉ t

instance (t : Text) : Decidable (Inert t) := inferInstanceAs (Decidable (_ ∉ _))

@[simp] theorem inert_nil : Inert [] := List.not_mem_nil

@[simp] theorem inert_cons_iff {c : Char} {t : Text} : Inert (c :: t) ↔ c ≠ '\x1b' ∧ Inert t := by
  simp [Inert, eq_comm]

@[simp] theorem inert_append_iff {a b : Text} : Inert (a ++ b) ↔ Inert a ∧ Inert b := by
  simp [Inert, not_or]

theorem Inert.of_subset {a b : Text} (inert : Inert b) (within : a ⊆ b) : Inert a :=
  fun found => inert (within found)

theorem Inert.append {a b : Text} (first : Inert a) (second : Inert b) : Inert (a ++ b) :=
  inert_append_iff.2 ⟨first, second⟩

theorem Inert.between {a t b : Text} (first : Inert a) (inner : Inert t) (last : Inert b) :
    Inert (a ++ t ++ b) :=
  (first.append inner).append last

theorem inert_flatMap_iff {α : Type} {f : α → Text} {items : List α} :
    Inert (items.flatMap f) ↔ ∀ a ∈ items, Inert (f a) := by
  simp [Inert]

theorem inert_of_isAlphanum {t : Text} (chars : ∀ c ∈ t, c.isAlphanum = true) : Inert t :=
  fun found => absurd (chars _ found) (by decide)

@[simp] theorem inert_decimal (n : Nat) : Inert (decimal n) := by
  refine inert_of_isAlphanum fun c found => ?_
  have digit : c.isDigit = true := Nat.isDigit_of_mem_toDigits (by decide) (by decide) found
  simp [Char.isAlphanum, digit]

theorem inert_joinWith {separator : Text} {parts : List Text} (between : Inert separator)
    (each : ∀ part ∈ parts, Inert part) : Inert (joinWith separator parts) := by
  induction parts with
  | nil => exact inert_nil
  | cons part parts ih =>
    have first := each part (List.mem_cons_self ..)
    have rest := ih fun other found => each other (List.mem_cons_of_mem _ found)
    cases parts with
    | nil => simpa [joinWith] using first
    | cons =>
      rw [joinWith, List.intercalate_cons_cons]
      exact first.between between rest

theorem inert_trimEnd {t : Text} (inert : Inert t) : Inert (trimEnd t) := by
  refine inert.of_subset fun c found => ?_
  exact List.mem_reverse.1 ((List.dropWhile_subset _) (List.mem_reverse.1 found))

end ClassNav.Text
