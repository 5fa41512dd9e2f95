import ClassNav.Proofs.Character.Ascii
import ClassNav.Proofs.Naming.Dashes

/-!
Dash joining told by neighbors. What becomes of a character depends on nothing but the one before it and the
one behind it, so texts are joined part by part but where a dash is cut off from what it raises.
-/

namespace ClassNav.Naming

/-- A dash stays at the end of a part, and is gone if the next part follows it. -/
theorem joinDashes_at_dash (a : Text) {d : Char} (joins : isJoinable d = true) (b : Text) :
    joinDashes (a ++ ['-']) ++ joinDashes (d :: b) = joinDashes a ++ '-' :: d :: joinDashes b ∧
      joinDashes (a ++ ['-'] ++ d :: b) = joinDashes a ++ d.toUpper :: joinDashes b := by
  have solid : d ≠ '-' := by
    rintro rfl
    cases joins
  have dash : joinDashes (a ++ ['-']) = joinDashes a ++ ['-'] := joinDashes_append (by simp [isJoinable])
  have first : joinDashes (d :: b) = d :: joinDashes b :=
    joinDashes_append (a := [d]) (by simp [solid])
  constructor
  · rw [dash, first, List.append_assoc]
    rfl
  · rw [List.append_assoc, joinDashes_append (by simp [isJoinable])]
    simp [joinDashes, joins]

theorem joinDashes_append_iff {a b : Text} :
    joinDashes (a ++ b) = joinDashes a ++ joinDashes b ↔
      ¬ (a.getLast? = some '-' ∧ ∃ c ∈ b.head?, isJoinable c = true) := by
  constructor
  · rintro same ⟨last, d, first, joins⟩
    obtain ⟨before, rfl⟩ := List.getLast?_eq_some_iff.1 last
    obtain ⟨after, rfl⟩ := List.head?_eq_some_iff.1 first
    obtain ⟨parted, joined⟩ := joinDashes_at_dash before joins after
    -- the one has a character more
    have lengths := congrArg List.length (joined.symm.trans (same.trans parted))
    simp at lengths
  · intro apart
    refine joinDashes_append fun last c first => ?_
    rw [← Bool.not_eq_true]
    exact fun joins => apart ⟨last, c, first, joins⟩

/-- What becomes of a character between its neighbors. -/
def joinedBetween (before : Option Char) (c : Char) (after : Option Char) : Text :=
  if c = '-' ∧ after.any isJoinable = true then []
  else if before = some '-' ∧ c.isAlpha = true then [c.toUpper]
  else [c]

/-- What becomes of the character `c` at place `i` of a text. -/
def joinedAt (t : Text) (c : Char) (i : Nat) : Text :=
  joinedBetween (t.take i).getLast? c (t.drop (i + 1)).head?

/-- What becomes of the characters of `t`, which stands behind a beginning. -/
def joinedBehind (before t : Text) : Text :=
  (t.zipIdx before.length).flatMap fun (c, i) => joinedAt (before ++ t) c i

theorem joinedBehind_cons (before : Text) (c : Char) (r : Text) :
    joinedBehind before (c :: r) =
      joinedBetween before.getLast? c r.head? ++ joinedBehind (before ++ [c]) r := by
  have here : joinedAt (before ++ c :: r) c before.length = joinedBetween before.getLast? c r.head? := by
    simp [joinedAt]
  simp [joinedBehind, here]

/-- Digits and the underscore lose their dash too, but there is nothing to raise. -/
theorem joinedBetween_behind_dash {c : Char} (joins : isJoinable c = true) (after : Option Char) :
    joinedBetween (some '-') c after = [c.toUpper] := by
  have solid : c ≠ '-' := by
    rintro rfl
    cases joins
  by_cases letter : c.isAlpha = true
  · simp [joinedBetween, solid, letter]
  · have small : ¬ c.isLower = true := fun lower => letter (Character.isAlpha_iff.2 (.inr lower))
    have kept : c.toUpper = c := dif_neg (mt Character.isLower_iff.2 small)
    simp [joinedBetween, solid, letter, kept]

/-- A character stays if it neither joins the next one nor is joined to the one before. -/
theorem joinedBetween_of_apart {before after : Option Char} {c : Char}
    (behind : before = some '-' → isJoinable c = false)
    (ahead : ¬ (c = '-' ∧ after.any isJoinable = true)) : joinedBetween before c after = [c] := by
  rw [joinedBetween, if_neg ahead, if_neg]
  rintro ⟨dash, letter⟩
  simpa [isJoinable, Char.isAlphanum, letter] using behind dash

/-- A rest that nothing before it is joined to is joined as on its own. -/
theorem joinedBehind_eq (before t : Text)
    (apart : before.getLast? = some '-' → ∀ c ∈ t.head?, isJoinable c = false) :
    joinedBehind before t = joinDashes t := by
  fun_induction joinDashes t generalizing before with
  | case1 => rfl
  | case2 c =>
    rw [joinedBehind_cons, List.head?_nil, joinedBetween_of_apart (fun dash => apart dash c rfl) (by simp)]
    rfl
  | case3 c d r joins ih =>
    obtain ⟨rfl, raised⟩ := joins
    have rest : joinedBehind (before ++ ['-'] ++ [d]) r = joinDashes r := ih _ fun last => by
      obtain rfl : d = '-' := by simpa using last
      cases raised
    have dropped : joinedBetween before.getLast? '-' (some d) = [] := if_pos ⟨rfl, raised⟩
    rw [joinedBehind_cons, joinedBehind_cons, List.head?_cons, dropped, List.getLast?_concat,
      joinedBetween_behind_dash raised, rest]
    rfl
  | case4 c d r keeps ih =>
    have rest : joinedBehind (before ++ [c]) (d :: r) = joinDashes (d :: r) := ih _ fun last x first => by
      obtain rfl : c = '-' := by simpa using last
      obtain rfl : d = x := by simpa using first
      simpa using keeps
    rw [joinedBehind_cons, List.head?_cons, rest,
      joinedBetween_of_apart (fun dash => apart dash c rfl) (by simpa using keeps)]
    rfl

/-- **Dash joining rewrites each character between its neighbors.** A dash goes if a letter of ASCII, a digit
or an underscore follows it, a letter of ASCII behind a dash is raised, and all else stays as it is, in order.
So joining two parts joins their whole, unless a dash ends the one and such a character begins the other. -/
theorem joinDashes_by_neighbors :
    (∀ t, joinDashes t = t.zipIdx.flatMap fun (c, i) => joinedAt t c i) ∧
    ∀ a b, joinDashes (a ++ b) = joinDashes a ++ joinDashes b ↔
      ¬ (a.getLast? = some '-' ∧ ∃ c ∈ b.head?, isJoinable c = true) :=
  ⟨fun t => (joinedBehind_eq [] t (by simp)).symm, fun _ _ => joinDashes_append_iff⟩

example : joinDashes ".--a-b--2-_-é" = ".-AB-2_-é".toList := by decide

end ClassNav.Naming
