import ClassNav.Text.Trim
import Mathlib.Data.List.TakeWhile

/-!
Runs of characters of one class at the front of a text, words beside a character, and texts without blanks.
-/

namespace ClassNav.Text

open Character

section
variable {p : Char → Bool} {a b : Text} (inside : ∀ c ∈ a, p c = true)
  (stops : ∀ c ∈ b.head?, p c = false)
include inside stops

/-- A run ends where a character of another class follows. -/
theorem takeWhile_append_stop : (a ++ b).takeWhile p = a := by
  rw [List.takeWhile_append_of_pos inside]
  cases b with
  | nil => simp
  | cons c r => simp [stops c rfl]

theorem dropWhile_append_stop : (a ++ b).dropWhile p = b := by
  rw [List.dropWhile_append_of_pos inside]
  cases b with
  | nil => rfl
  | cons c r => simp [stops c rfl]

end

/-- A run takes nothing of a text that it cannot begin. -/
theorem takeWhile_append_of_stop {p : Char → Bool} (a : Text) {b : Text}
    (stops : ∀ c ∈ b.head?, p c = false) : (a ++ b).takeWhile p = a.takeWhile p := by
  induction a with
  | nil => exact takeWhile_append_stop (by simp) stops
  | cons c r ih => by_cases inside : p c = true <;> simp [inside, ih]

/-- What follows the longest run does not go on with it. -/
theorem stops_dropWhile (p : Char → Bool) (t : Text) : ∀ c ∈ (t.dropWhile p).head?, p c = false := by
  intro c found
  have stopped := List.head?_dropWhile_not p t
  rw [Option.mem_def.1 found] at stopped
  simpa using stopped

theorem drop_takeWhile_length (p : Char → Bool) (t : Text) :
    t.drop (t.takeWhile p).length = t.dropWhile p := by
  induction t with
  | nil => rfl
  | cons c r ih => by_cases h : p c = true <;> simp [h, ih]

/-- A word stands before or behind a character that it has not. -/
theorem before_or_behind {a b before word rest : Text} {c : Char} (nonempty : word ≠ [])
    (absent : c ∉ word) (same : a ++ c :: b = before ++ (word ++ rest)) :
    (∃ between, a = before ++ (word ++ between) ∧ rest = between ++ c :: b) ∨
      ∃ between, before = a ++ c :: between ∧ b = between ++ (word ++ rest) := by
  obtain ⟨between, rfl, inner⟩ | ⟨behind, rfl, inner⟩ := List.append_eq_append_iff.1 same
  · cases between with
    | nil =>
      obtain ⟨d, word, rfl⟩ := List.exists_cons_of_ne_nil nonempty
      obtain ⟨rfl, -⟩ := List.cons.inj inner
      exact absurd (List.mem_cons_self ..) absent
    | cons d between =>
      obtain ⟨rfl, tail⟩ := List.cons.inj inner
      exact .inr ⟨between, rfl, tail⟩
  · obtain ⟨between, rfl, whole⟩ | ⟨cut, rfl, whole⟩ := List.append_eq_append_iff.1 inner
    · exact .inl ⟨between, rfl, whole⟩
    · cases cut with
      | nil => exact .inl ⟨[], by simp, by simpa using whole.symm⟩
      | cons d cut =>
        obtain ⟨rfl, -⟩ := List.cons.inj whole
        exact absurd (by simp) absent

/-- A text without blanks. -/
def IsSolid (t : Text) : Prop := ∀ c ∈ t, isBlank c = false

theorem isSolid_of_any {t : Text} (h : t.any isBlank = false) : IsSolid t :=
  fun c found => Bool.eq_false_iff.2 (List.any_eq_false.1 h c found)

end ClassNav.Text
