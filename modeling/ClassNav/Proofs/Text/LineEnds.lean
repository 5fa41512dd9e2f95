import ClassNav.Proofs.Text.Lines
import ClassNav.Proofs.Text.Occurrence
import Mathlib.Data.List.Forall2

/-!
Both kinds of line ends. A text with a carriage return before each line feed has the same lines, all but
the last with one character more, and the same runs and beginnings of other characters.
-/

namespace ClassNav.Text

/-- A text is empty, or it begins with a line feed or with another character. -/
@[elab_as_elim]
theorem newlineInduction {motive : Text → Prop} (nil : motive [])
    (newline : ∀ r, motive r → motive ('\n' :: r))
    (other : ∀ c r, c ≠ '\n' → motive r → motive (c :: r)) (t : Text) : motive t := by
  induction t with
  | nil => exact nil
  | cons c r ih =>
    by_cases same : c = '\n'
    · exact same ▸ newline r ih
    · exact other c r same ih

/-- The text with a carriage return before each line feed. -/
def withReturns (t : Text) : Text := t.flatMap fun c => if c = '\n' then ['\r', '\n'] else [c]

@[simp] theorem withReturns_nil : withReturns [] = [] := rfl

@[simp] theorem withReturns_newline (r : Text) :
    withReturns ('\n' :: r) = '\r' :: '\n' :: withReturns r := by
  simp [withReturns]

@[simp] theorem withReturns_cons_of_ne {c : Char} (plain : c ≠ '\n') (r : Text) :
    withReturns (c :: r) = c :: withReturns r := by
  simp [withReturns, plain]

@[simp] theorem withReturns_append (a b : Text) :
    withReturns (a ++ b) = withReturns a ++ withReturns b :=
  List.flatMap_append

/-- A text without line ends. -/
def IsInline (t : Text) : Prop := '\n' ∉ t ∧ '\r' ∉ t

instance (t : Text) : Decidable (IsInline t) := inferInstanceAs (Decidable (_ ∧ _))

theorem isInline_cons {c : Char} {t : Text} : IsInline (c :: t) ↔ (c ≠ '\n' ∧ c ≠ '\r') ∧ IsInline t := by
  simp only [IsInline, List.mem_cons, not_or]
  tauto

theorem isInline_of_forall {p : Char → Bool} (noNewline : p '\n' = false) (noReturn : p '\r' = false)
    {t : Text} (chars : ∀ c ∈ t, p c = true) : IsInline t := by
  constructor
  · intro found
    simpa [noNewline] using chars _ found
  · intro found
    simpa [noReturn] using chars _ found

theorem withReturns_of_not_mem {t : Text} (unbroken : '\n' ∉ t) : withReturns t = t := by
  induction t using newlineInduction with
  | nil => rfl
  | newline r => simp at unbroken
  | other c r plain ih => rw [withReturns_cons_of_ne plain, ih (by simp_all)]

/-- A line of the converted text, beside the line of the text. -/
def MayReturn (line converted : Text) : Prop := converted = line ∨ converted = line ++ ['\r']

theorem lines_withReturns (t : Text) : List.Forall₂ MayReturn (lines t) (lines (withReturns t)) := by
  induction t using newlineInduction with
  | nil => exact .cons (.inl rfl) .nil
  | newline r ih =>
    simp only [withReturns_newline, lines_cons, if_true, if_neg (show '\r' ≠ '\n' by decide),
      List.modifyHead_cons]
    exact .cons (.inr rfl) ih
  | other c r plain ih =>
    simp only [withReturns_cons_of_ne plain, lines_cons, if_neg plain]
    generalize lines r = before at ih
    generalize lines (withReturns r) = after at ih
    cases ih with
    | nil => exact .nil
    | cons first rest =>
      refine .cons ?_ rest
      obtain rfl | rfl := first
      · exact .inl rfl
      · exact .inr rfl

/-- What a carriage return at the end of a line does not change is the same on all lines. -/
theorem map_lines_withReturns {α : Type} {f : Text → α} {t : Text}
    (same : ∀ line ∈ lines t, f (line ++ ['\r']) = f line) :
    (lines (withReturns t)).map f = (lines t).map f := by
  have converted := lines_withReturns t
  generalize lines t = before at converted same
  generalize lines (withReturns t) = after at converted
  induction converted with
  | nil => rfl
  | @cons line line' _ _ first _ ih =>
    have head : f line' = f line := by
      obtain rfl | rfl := first
      · rfl
      · exact same line List.mem_cons_self
    rw [List.map_cons, List.map_cons, head, ih fun line found => same line (List.mem_cons_of_mem _ found)]

/-- A beginning without line ends is the same, and what follows it is converted. -/
theorem stripPrefix?_withReturns {lead : Text} (inline : IsInline lead) (t : Text) :
    stripPrefix? lead (withReturns t) = (stripPrefix? lead t).map withReturns := by
  induction lead generalizing t with
  | nil => simp [stripPrefix?, List.isPrefixOf?]
  | cons x lead ih =>
    obtain ⟨⟨noNewline, noReturn⟩, rest⟩ := isInline_cons.1 inline
    cases t using newlineInduction with
    | nil => rfl
    | newline r => simp [stripPrefix?, List.isPrefixOf?, noNewline, noReturn]
    | other c r plain =>
      rw [withReturns_cons_of_ne plain, stripPrefix?, stripPrefix?, List.isPrefixOf?, List.isPrefixOf?]
      split
      · exact ih rest r
      · rfl

section
variable {p : Char → Bool}

theorem dropWhile_withReturns (alike : p '\r' = p '\n') (t : Text) :
    (withReturns t).dropWhile p = withReturns (t.dropWhile p) := by
  induction t using newlineInduction with
  | nil => rfl
  | newline r ih => cases drops : p '\n' <;> simp [drops, alike, ih]
  | other c r plain ih => cases drops : p c <;> simp [drops, plain, ih]

theorem takeWhile_withReturns (noNewline : p '\n' = false) (noReturn : p '\r' = false) (t : Text) :
    (withReturns t).takeWhile p = t.takeWhile p := by
  induction t using newlineInduction with
  | nil => rfl
  | newline r => simp [noNewline, noReturn]
  | other c r plain ih => cases takes : p c <;> simp [takes, plain, ih]

end

/-- The same conversion of a text given backwards. -/
def backReturns (back : Text) : Text := (withReturns back.reverse).reverse

@[simp] theorem backReturns_nil : backReturns [] = [] := rfl

@[simp] theorem backReturns_newline (back : Text) :
    backReturns ('\n' :: back) = '\n' :: '\r' :: backReturns back := by
  simp [backReturns]

theorem backReturns_append_of_not_mem {a : Text} (unbroken : '\n' ∉ a) (back : Text) :
    backReturns (a ++ back) = a ++ backReturns back := by
  simp [backReturns, withReturns_of_not_mem (show '\n' ∉ a.reverse by simpa using unbroken)]

@[simp] theorem backReturns_cons_of_ne {c : Char} (plain : c ≠ '\n') (back : Text) :
    backReturns (c :: back) = c :: backReturns back :=
  backReturns_append_of_not_mem (a := [c]) (by simpa using Ne.symm plain) back

theorem byteLength_backReturns (back : Text) :
    byteLength (backReturns back) = byteLength back + back.count '\n' := by
  induction back using newlineInduction with
  | nil => rfl
  | newline back ih =>
    have one : '\r'.utf8Size = 1 := by decide
    simp [ih, one]
    omega
  | other c back plain ih =>
    simp [plain, ih]
    omega

theorem count_backReturns (back : Text) : (backReturns back).count '\n' = back.count '\n' := by
  induction back using newlineInduction with
  | nil => rfl
  | newline back ih => simp [ih]
  | other c back plain ih => simp [plain, ih]

/-- Back to the last line feed there is no carriage return more. -/
theorem takeWhile_backReturns (back : Text) :
    (backReturns back).takeWhile (· ≠ '\n') = back.takeWhile (· ≠ '\n') := by
  induction back using newlineInduction with
  | nil => rfl
  | newline back => simp
  | other c back plain ih => simpa [plain] using ih

end ClassNav.Text
