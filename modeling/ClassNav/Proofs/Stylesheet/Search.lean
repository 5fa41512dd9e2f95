import ClassNav.Proofs.Stylesheet.Declared
import ClassNav.Stylesheet.Search

/-!
Searching a whole text twice finds what reading it line by line does. The search for a part takes all that
counts of a line, a name has no dot in it that would begin another, and the blanks between the parts keep
names from going on.
-/

namespace ClassNav.Stylesheet

/-- A line without comma and brace has no part that counts. -/
theorem selectorPart_of_plain {line : Text} (plain : ∀ c ∈ line, isSelectorEnd c = false) :
    selectorPart line = [] :=
  selectorPart_append_plain [] plain

section
variable {line : Text} (tail : Text) (unbroken : '\n' ∉ line) (ended : ∀ c ∈ tail.head?, c = '\n')
include unbroken ended

theorem takeWhile_line : (line ++ tail).takeWhile (· ≠ '\n') = line := by
  apply Text.takeWhile_append_stop
  · intro c found
    simpa using ne_of_mem_of_not_mem found unbroken
  · intro c found
    simp [ended c found]

theorem selectorParts_plain (plain : ∀ c ∈ line, isSelectorEnd c = false) :
    selectorParts (line ++ tail) = selectorParts tail := by
  induction line with
  | nil => rfl
  | cons c r ih =>
    have here : selectorPart ((c :: (r ++ tail)).takeWhile (· ≠ '\n')) = [] := by
      rw [← List.cons_append, takeWhile_line tail unbroken ended]
      exact selectorPart_of_plain plain
    rw [List.mem_cons, not_or] at unbroken
    rw [List.cons_append, selectorParts, if_pos here]
    exact ih unbroken.2 fun d found => plain d (List.mem_cons_of_mem c found)

/-- Of each line the search takes the part that counts, if there is one. -/
theorem selectorParts_line :
    selectorParts (line ++ tail) =
      [selectorPart line].filter (· ≠ []) ++ selectorParts tail := by
  obtain ⟨more, split, plain⟩ := exists_plain_behind line
  by_cases none_counts : selectorPart line = []
  · rw [none_counts, List.nil_append] at split
    rw [selectorParts_plain tail unbroken ended (split ▸ plain), none_counts]
    rfl
  · cases line with
    | nil => exact absurd rfl none_counts
    | cons c r =>
      have whole := takeWhile_line tail unbroken ended
      have behind : (r ++ tail).drop ((selectorPart (c :: r)).length - 1) = more ++ tail := by
        obtain ⟨d, part, same⟩ := List.exists_cons_of_ne_nil none_counts
        rw [same] at split ⊢
        obtain ⟨rfl, rest⟩ := List.cons.inj split
        simp [rest]
      have rest : '\n' ∉ more := fun found => unbroken (split ▸ List.mem_append_right _ found)
      rw [List.cons_append] at whole
      rw [List.cons_append, selectorParts]
      simp only [whole, if_neg none_counts, behind]
      rw [selectorParts_plain tail rest ended plain]
      simp [none_counts]

end

/-- The first search finds the parts of the lines. -/
theorem selectorParts_eq (content : Text) :
    selectorParts content = ((Text.lines content).map selectorPart).filter (· ≠ []) := by
  induction lined : Text.lines content generalizing content with
  | nil => exact absurd lined (Text.lines_ne_nil content)
  | cons first rest ih =>
    obtain unbroken | ⟨line, more, rfl, unbroken⟩ := Text.first_line_cases content
    · have found := selectorParts_line [] unbroken (by simp)
      rw [Text.lines_of_not_mem unbroken] at lined
      obtain ⟨rfl, rfl⟩ := List.cons.inj lined
      simpa [selectorParts] using found
    · have found := selectorParts_line ('\n' :: more) unbroken (by simp)
      have newline : selectorParts ('\n' :: more) = selectorParts more := by
        rw [selectorParts]
        simp [selectorPart]
      rw [Text.lines_append_newline, Text.lines_of_not_mem unbroken] at lined
      obtain ⟨rfl, tail⟩ := List.cons.inj lined
      rw [found, newline, ih more tail, ← List.filter_append]
      rfl

/-- A name and what follows it have the dotted names of what follows. -/
theorem dottedNames_append_of_undotted {name rest : Text} (undotted : '.' ∉ name) :
    dottedNames (name ++ rest) = dottedNames rest := by
  induction name with
  | nil => rfl
  | cons c r ih =>
    rw [List.mem_cons, not_or] at undotted
    rw [List.cons_append, dottedNames]
    simp [Ne.symm undotted.1, ih undotted.2]

/-- No dotted name is lost behind another. -/
theorem classTokens_eq (t : Text) : classTokens t = dottedNames t := by
  fun_induction classTokens t with
  | case1 => rfl
  | case2 c r name begins ih =>
    have undotted : '.' ∉ name := by
      intro found
      exact absurd (List.mem_takeWhile_imp found) (by decide)
    have skipped : dottedNames (r.drop name.length) = dottedNames r := by
      rw [Text.drop_takeWhile_length, ← dottedNames_append_of_undotted undotted,
        List.takeWhile_append_dropWhile]
    rw [ih, skipped, dottedNames]
    exact (if_pos begins).symm
  | case3 c r name passes ih =>
    rw [ih, dottedNames]
    exact (if_neg passes).symm

/-- Dotted names end where a character that a name cannot have follows. -/
theorem dottedNames_append (a : Text) {b : Text} (closed : ∀ c ∈ b.head?, isNameChar c = false) :
    dottedNames (a ++ b) = dottedNames a ++ dottedNames b := by
  induction a with
  | nil => rfl
  | cons c r ih =>
    rw [List.cons_append, dottedNames, dottedNames, Text.takeWhile_append_of_stop r closed, ih]
    split <;> rfl

/-- Parts that blanks join have the dotted names of the parts. -/
theorem dottedNames_intercalate (parts : List Text) :
    dottedNames ([' '].intercalate parts) = parts.flatMap dottedNames := by
  induction parts with
  | nil => rfl
  | cons part rest ih =>
    cases rest with
    | nil => simp
    | cons next rest =>
      have blank (t : Text) : dottedNames (' ' :: t) = dottedNames t := by simp [dottedNames]
      have joined : [' '].intercalate (part :: next :: rest) =
          part ++ ' ' :: [' '].intercalate (next :: rest) := by
        simp [List.intercalate]
      have closed : ∀ c ∈ (' ' :: [' '].intercalate (next :: rest)).head?, isNameChar c = false := by
        rintro c ⟨⟩
        decide
      rw [joined, dottedNames_append part closed, blank, ih]
      rfl

theorem firstSeen_eq (names : List Text) : firstSeen names = names.eraseDups := by
  rw [← names.reverse_reverse]
  induction names.reverse with
  | nil => rfl
  | cons name names ih =>
    rw [List.reverse_cons, eraseDups_concat, ← ih, firstSeen, List.foldl_append, ← firstSeen]
    simp only [List.foldl_cons, List.foldl_nil, ih, List.contains_iff_mem, List.mem_eraseDups]
    split <;> simp

/-- Empty parts have no names. -/
theorem flatMap_dottedNames_filter (parts : List Text) :
    (parts.filter (· ≠ [])).flatMap dottedNames = parts.flatMap dottedNames := by
  induction parts with
  | nil => rfl
  | cons part parts ih =>
    by_cases empty : part = []
    · rw [List.filter_cons_of_neg (by simpa using empty), ih, empty]
      rfl
    · rw [List.filter_cons_of_pos (by simpa using empty), List.flatMap_cons, ih]
      rfl

/-- The two searches find the names of the lines. -/
theorem search_eq (content part : Text) : search content part = classNamesWith content part := by
  have names : firstSeen (classTokens ([' '].intercalate (selectorParts content))) =
      classNames content := by
    rw [classTokens_eq, dottedNames_intercalate, selectorParts_eq, flatMap_dottedNames_filter,
      firstSeen_eq, List.flatMap_map, classNames]
  unfold search
  dsimp only
  split
  next none_counts =>
    have empty : classNames content = [] := by
      rw [← names, none_counts]
      simp [classTokens, firstSeen]
    rw [classNamesWith, empty, List.filter_nil]
  next =>
    split
    next empty => rw [empty, classNamesWith_nil, names]
    next => rw [names, classNamesWith]

end ClassNav.Stylesheet
