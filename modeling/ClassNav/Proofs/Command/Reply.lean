import ClassNav.Command.Run

/-!
Answers in the form that is asked for. An answer has no JSON form exactly if it would show a path that is no
text; without JSON it is always there.
-/

namespace ClassNav.Command

variable {foreign : Path → Bool} {shown : List Path}

theorem json_of_foreign (unprintable : ∃ p ∈ shown, foreign p = true) (j : Json) :
    json foreign shown j = .error (.malformedJson "path contains invalid UTF-8 characters") :=
  if_pos (List.any_eq_true.2 unprintable)

theorem json_of_printable (printable : ∀ p ∈ shown, foreign p = false) (j : Json) :
    json foreign shown j = .ok (asLine (Json.print j)) := by
  refine if_neg fun unprintable => ?_
  obtain ⟨p, listed, strange⟩ := List.any_eq_true.1 unprintable
  rw [printable p listed] at strange
  cases strange

/-- Text always, JSON if all paths are text, and else a failure. -/
theorem reply_cases (foreign : Path → Bool) (asJson : Bool) (shown : List Path) (j : Json) (text : Text)
    (store : Store) :
    (asJson = false ∧ reply foreign asJson shown j text store = .ok (text, store)) ∨
    (asJson = true ∧ (∀ p ∈ shown, foreign p = false) ∧
      reply foreign asJson shown j text store = .ok (asLine (Json.print j), store)) ∨
    (asJson = true ∧ (∃ p ∈ shown, foreign p = true) ∧
      reply foreign asJson shown j text store =
        .error (.malformedJson "path contains invalid UTF-8 characters")) := by
  unfold reply
  cases asJson with
  | false => exact .inl ⟨rfl, rfl⟩
  | true =>
    by_cases unprintable : ∃ p ∈ shown, foreign p = true
    · rw [if_pos rfl, json_of_foreign unprintable]
      exact .inr (.inr ⟨rfl, unprintable, rfl⟩)
    · have printable : ∀ p ∈ shown, foreign p = false := by simpa using unprintable
      rw [if_pos rfl, json_of_printable printable]
      exact .inr (.inl ⟨rfl, printable, rfl⟩)

end ClassNav.Command
