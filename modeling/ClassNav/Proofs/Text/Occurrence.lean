import ClassNav.Text.Basic
import Mathlib.Data.List.Basic

/-!
Where one text stands in another. `find?` is the first of these places, so a search succeeds exactly
when the text occurs at all.
-/

namespace ClassNav.Text

theorem stripPrefix?_eq_some_iff {lead t rest : Text} :
    stripPrefix? lead t = some rest ↔ t = lead ++ rest := by
  rw [stripPrefix?, List.isPrefixOf?_eq_some_iff_append_eq, eq_comm]

@[simp] theorem byteLength_reverse (t : Text) : byteLength t.reverse = byteLength t := by
  induction t with
  | nil => rfl
  | cons c r ih => simp [ih, Nat.add_comm]

/-- `key` stands in the text at a byte offset. -/
def OccursAt (key t : Text) (offset : Nat) : Prop :=
  ∃ before after, t = before ++ key ++ after ∧ byteLength before = offset

theorem occursAt_zero_iff {key t : Text} : OccursAt key t 0 ↔ key <+: t := by
  constructor
  · rintro ⟨before, after, rfl, none_before⟩
    cases before with
    | nil => exact ⟨after, rfl⟩
    | cons c r =>
      have positive := c.utf8Size_pos
      simp only [byteLength_cons] at none_before
      omega
  · rintro ⟨after, rfl⟩
    exact ⟨[], after, rfl, rfl⟩

theorem occursAt_cons_iff {key r : Text} {c : Char} {offset : Nat} :
    OccursAt key (c :: r) offset ↔
      offset = 0 ∧ key <+: c :: r ∨ ∃ n, offset = c.utf8Size + n ∧ OccursAt key r n := by
  constructor
  · rintro ⟨before, after, whole, rfl⟩
    cases before with
    | nil => exact .inl ⟨rfl, after, by simpa using whole.symm⟩
    | cons d before =>
      obtain ⟨rfl, rest⟩ := List.cons.inj (by simpa using whole)
      exact .inr ⟨byteLength before, rfl, before, after, by simpa using rest, rfl⟩
  · rintro (⟨rfl, found⟩ | ⟨n, rfl, before, after, rfl, rfl⟩)
    · exact occursAt_zero_iff.2 found
    · exact ⟨c :: before, after, rfl, rfl⟩

theorem find?_nil (key : Text) : find? key [] = if key = [] then some 0 else none := by
  simp [find?]

theorem find?_cons (key r : Text) (c : Char) :
    find? key (c :: r) =
      if key <+: c :: r then some 0 else (find? key r).map (c.utf8Size + ·) := by
  simp [find?]

/-- The search finds the first occurrence. -/
theorem find?_eq_some_iff {key t : Text} {offset : Nat} :
    find? key t = some offset ↔
      OccursAt key t offset ∧ ∀ n < offset, ¬ OccursAt key t n := by
  induction t generalizing offset with
  | nil =>
    have here (n : Nat) : OccursAt key [] n ↔ key = [] ∧ n = 0 := by
      simp only [OccursAt, List.nil_eq, List.append_eq_nil_iff]
      constructor
      · rintro ⟨_, _, ⟨⟨rfl, rfl⟩, rfl⟩, rfl⟩
        exact ⟨rfl, rfl⟩
      · rintro ⟨rfl, rfl⟩
        exact ⟨[], [], by simp, rfl⟩
    rw [find?_nil]
    simp only [here]
    grind
  | cons c r ih =>
    have positive := c.utf8Size_pos
    rw [find?_cons]
    by_cases first : key <+: c :: r
    · rw [if_pos first]
      constructor
      · rintro ⟨⟩
        exact ⟨occursAt_zero_iff.2 first, by simp⟩
      · rintro ⟨_, least⟩
        cases offset with
        | zero => rfl
        | succ n => exact absurd (occursAt_zero_iff.2 first) (least 0 (by omega))
    · rw [if_neg first, Option.map_eq_some_iff]
      simp only [occursAt_cons_iff, first, and_false, false_or, ih]
      constructor
      · rintro ⟨n, ⟨found, least⟩, rfl⟩
        refine ⟨⟨n, rfl, found⟩, ?_⟩
        rintro m before ⟨k, rfl, again⟩
        exact least k (by omega) again
      · rintro ⟨⟨n, rfl, found⟩, least⟩
        exact ⟨n, ⟨found, fun k before again => least _ (by omega) ⟨k, rfl, again⟩⟩, rfl⟩

/-- `key` stands at the offset, and at no smaller one. -/
def FirstAt (key t : Text) (offset : Nat) : Prop :=
  OccursAt key t offset ∧ ∀ n < offset, ¬ OccursAt key t n

theorem find?_isSome_iff {key t : Text} : (find? key t).isSome ↔ key <:+: t := by
  induction t with
  | nil => by_cases h : key = [] <;> simp [find?_nil, h]
  | cons c r ih =>
    rw [find?_cons, List.infix_cons_iff]
    by_cases first : key <+: c :: r
    · simp [first]
    · simpa [first] using ih

theorem contains_iff {t key : Text} : contains t key = true ↔ key <:+: t := by
  rw [contains, find?_isSome_iff]

end ClassNav.Text
