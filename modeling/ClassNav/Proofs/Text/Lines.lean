import ClassNav.Text.Basic

/-!
The lines of a text put together from two parts, and the line that a place in the text lies on.
-/

namespace ClassNav.Text

/-- The parts of a text hold nothing that it is split at. -/
theorem not_mem_of_mem_splitOn {c : Char} {t part : Text} (found : part ∈ t.splitOn c) :
    c ∉ part := by
  induction t generalizing part with
  | nil => simp_all
  | cons d t ih =>
    rw [List.splitOn_cons_eq_if_modifyHead] at found
    split at found
    next =>
      obtain rfl | later := List.mem_cons.1 found
      · exact List.not_mem_nil
      · exact ih later
    next other =>
      obtain ⟨head, tail, split⟩ := List.exists_cons_of_ne_nil (List.splitOn_ne_nil c t)
      rw [split, List.modifyHead_cons, List.mem_cons] at found
      obtain rfl | later := found
      · have absent : c ∉ head := ih (by simp [split])
        have different : c ≠ d := by
          rintro rfl
          simp at other
        simp [different, absent]
      · exact ih (by simp [split, later])

theorem infix_joinWith (separator : Text) {t : Text} {parts : List Text} (listed : t ∈ parts) :
    t <:+: joinWith separator parts := by
  induction parts with
  | nil => cases listed
  | cons first parts ih =>
    cases parts with
    | nil =>
      obtain rfl := List.mem_singleton.1 listed
      simp [joinWith]
    | cons =>
      rw [joinWith, List.intercalate_cons_cons]
      obtain rfl | later := List.mem_cons.1 listed
      · exact ((List.prefix_append _ _).trans (List.prefix_append _ _)).isInfix
      · exact (ih later).trans (List.suffix_append _ _).isInfix

theorem infix_of_mem_splitOn {c : Char} {t part : Text} (found : part ∈ t.splitOn c) : part <:+: t := by
  have inside := infix_joinWith [c] found
  rwa [joinWith, List.intercalate_splitOn] at inside

theorem lines_cons (c : Char) (r : Text) :
    lines (c :: r) = if c = '\n' then [] :: lines r else (lines r).modifyHead (c :: ·) := by
  simp only [lines, List.splitOn_cons_eq_if_modifyHead, beq_iff_eq]

theorem lines_append_newline (a b : Text) : lines (a ++ '\n' :: b) = lines a ++ lines b :=
  List.splitOn_append_cons_self a b

theorem lines_of_not_mem {t : Text} (unbroken : '\n' ∉ t) : lines t = [t] :=
  List.splitOn_eq_singleton unbroken

theorem length_lines (t : Text) : (lines t).length = t.count '\n' + 1 := by
  induction t with
  | nil => rfl
  | cons c r ih =>
    rw [lines_cons, List.count_cons]
    by_cases newline : c = '\n' <;> simp [newline, ih]

/-- A text ends either in its only line or in a line after its last line feed. -/
theorem last_line_cases (t : Text) :
    '\n' ∉ t ∨ ∃ before last, t = before ++ '\n' :: last ∧ '\n' ∉ last := by
  induction t with
  | nil => simp
  | cons c r ih =>
    obtain unbroken | ⟨before, last, rfl, unbroken⟩ := ih
    · by_cases newline : c = '\n'
      · exact .inr ⟨[], r, by simp [newline], unbroken⟩
      · exact .inl (by simp [Ne.symm newline, unbroken])
    · exact .inr ⟨c :: before, last, rfl, unbroken⟩

/-- A text is its first line, or that with a line feed and more behind it. -/
theorem first_line_cases (t : Text) :
    '\n' ∉ t ∨ ∃ first rest, t = first ++ '\n' :: rest ∧ '\n' ∉ first := by
  induction t with
  | nil => simp
  | cons c r ih =>
    by_cases newline : c = '\n'
    · exact .inr ⟨[], r, by simp [newline], by simp⟩
    · obtain unbroken | ⟨first, rest, rfl, unbroken⟩ := ih
      · exact .inl (by simp [Ne.symm newline, unbroken])
      · exact .inr ⟨c :: first, rest, rfl, by simp [Ne.symm newline, unbroken]⟩

/-- Text without a line feed only lengthens the last line. -/
theorem lines_append_of_not_mem (t : Text) {more : Text} (unbroken : '\n' ∉ more) :
    ∃ earlier last, lines t = earlier ++ [last] ∧ lines (t ++ more) = earlier ++ [last ++ more] := by
  obtain single | ⟨before, last, rfl, rest⟩ := last_line_cases t
  · refine ⟨[], t, lines_of_not_mem single, lines_of_not_mem ?_⟩
    simp [single, unbroken]
  · refine ⟨lines before, last, ?_, ?_⟩
    · rw [lines_append_newline, lines_of_not_mem rest]
    · have joined : '\n' ∉ last ++ more := by simp [rest, unbroken]
      rw [List.append_assoc, List.cons_append, lines_append_newline, lines_of_not_mem joined]

theorem head?_lines (t : Text) : (lines t)[0]? = some (t.takeWhile (· ≠ '\n')) := by
  induction t with
  | nil => rfl
  | cons c r ih =>
    rw [lines_cons]
    by_cases newline : c = '\n'
    · simp [newline]
    · obtain ⟨first, rest, split⟩ := List.exists_cons_of_ne_nil (lines_ne_nil r)
      simp_all

theorem infix_of_mem_lines {line t : Text} (found : line ∈ lines t) : line <:+: t :=
  infix_of_mem_splitOn found

/-- The line on which the text before, given backwards, ends: what that text has after its last line
feed, and what follows up to the next one. -/
theorem getElem?_lines_after (back t : Text) :
    (lines (back.reverse ++ t))[back.count '\n']? =
      some ((back.takeWhile (· ≠ '\n')).reverse ++ t.takeWhile (· ≠ '\n')) := by
  induction back generalizing t with
  | nil => simpa using head?_lines t
  | cons c back ih =>
    by_cases newline : c = '\n'
    · have earlier : (lines back.reverse).length = back.count '\n' + 1 := by
        rw [length_lines, List.count_reverse]
      subst newline
      simp only [List.reverse_cons, List.append_assoc, List.singleton_append,
        lines_append_newline, List.count_cons_self]
      rw [List.getElem?_append_right (by omega), ← earlier, Nat.sub_self, head?_lines]
      simp
    · have same := ih (c :: t)
      simp only [List.reverse_cons, List.append_assoc, List.singleton_append]
      rw [List.count_cons_of_ne newline, same]
      simp [newline]

end ClassNav.Text
