import ClassNav.Naming.Dashes

/-!
Dash joining looks no further than one character ahead, so it can be done part by part.
-/

namespace ClassNav.Naming

/-- Parts are joined on their own unless a dash ends the one and the other begins with a character
that it raises. -/
theorem joinDashes_append {a b : Text}
    (apart : a.getLast? = some '-' → ∀ c ∈ b.head?, isJoinable c = false) :
    joinDashes (a ++ b) = joinDashes a ++ joinDashes b := by
  fun_induction joinDashes a with
  | case1 => rfl
  | case2 c =>
    cases b with
    | nil => simp [joinDashes]
    | cons d r =>
      have kept : ¬ (c = '-' ∧ isJoinable d = true) := by
        rintro ⟨rfl, joins⟩
        have closed := apart rfl d rfl
        simp [joins] at closed
      simp [joinDashes, kept]
  | case3 c d r joins ih =>
    have rest : r.getLast? = some '-' → ∀ x ∈ b.head?, isJoinable x = false := by
      intro last
      exact apart (by simp [List.getLast?_cons, last])
    simp [joinDashes, joins, ih rest]
  | case4 c d r keeps ih =>
    have rest : (d :: r).getLast? = some '-' → ∀ x ∈ b.head?, isJoinable x = false := by
      intro last
      exact apart (by simpa [List.getLast?_cons] using last)
    have joined := ih rest
    simp only [List.cons_append] at joined
    simp [joinDashes, keeps, joined]

/-- Whatever surrounds a part, it is joined as on its own, as long as no dash stands before it and
nothing after it can be raised. -/
theorem joinDashes_within {before part after : Text} (opens : before.getLast? ≠ some '-')
    (closes : ∀ c ∈ after.head?, isJoinable c = false) :
    joinDashes (before ++ part ++ after) =
      joinDashes before ++ joinDashes part ++ joinDashes after := by
  rw [joinDashes_append fun _ => closes, joinDashes_append fun last => absurd last opens]

end ClassNav.Naming
