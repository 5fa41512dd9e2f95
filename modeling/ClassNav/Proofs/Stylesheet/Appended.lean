import ClassNav.Proofs.Stylesheet.Agreement

/-!
A stylesheet before and after an empty rule is appended. The rule begins with a carriage return, which
falls on the line that was the last one; neither names nor positions are read differently for it.
-/

namespace ClassNav

/-- A character that the key lacks adds no occurrence at the end of a text. -/
theorem Text.find?_concat {key : Text} {c : Char} (absent : c ∉ key) (t : Text) :
    find? key (t ++ [c]) = find? key t := by
  have same (s : Text) : key <+: s ++ [c] ↔ key <+: s := by
    rw [List.prefix_concat_iff]
    refine ⟨fun begins => begins.resolve_left ?_, .inr⟩
    rintro rfl
    simp at absent
  induction t with
  | nil =>
    have first : key <+: [c] ↔ key = [] := by simpa using same []
    rw [List.nil_append, find?_cons, find?_nil]
    by_cases empty : key = [] <;> simp [first, empty]
  | cons d r ih =>
    have first := same (d :: r)
    rw [List.cons_append] at first
    rw [List.cons_append, find?_cons, find?_cons, ih]
    simp only [first]

namespace Naming

/-- A cut at the end of a line divides nothing. -/
theorem camelCase_concat_cut {c : Char} (cut : isCut c = true) (line : Text) :
    camelCase (line ++ [c]) = camelCase line := by
  have boundary : kind c = .boundary := by
    simp only [isCut, Bool.and_eq_true, decide_eq_true_eq] at cut
    exact cut.1
  have alone : words (simplify [c]) = [] := by
    have passed := words_simplify_wordless_append (s := [c]) (by simp [Wordless, boundary]) []
    simpa [simplify, words] using passed
  rw [camelCase, words_simplify_append line (by simpa using cut), alone, List.append_nil, camelCase]

/-- A carriage return at the end of a line goes or stays, and changes nothing before it. -/
theorem Policy.transform_concat_return (policy : Policy) (line : Text) :
    policy.transform (line ++ ['\r']) = policy.transform line ∨
      policy.transform (line ++ ['\r']) = policy.transform line ++ ['\r'] := by
  cases policy with
  | off => exact .inr rfl
  | full => exact .inl (camelCase_concat_cut (by decide) line)
  | dashesOnly =>
    right
    apply joinDashes_append
    rintro - c ⟨⟩
    rfl

end Naming

namespace Stylesheet

open Naming

theorem lineHit?_concat_return {policy : Policy} {key : Text} (absent : '\r' ∉ key) (line : Text) :
    lineHit? policy key (line ++ ['\r']) = lineHit? policy key line := by
  unfold lineHit?
  rw [Text.find?_concat absent line]
  obtain same | longer := policy.transform_concat_return line
  · rw [same]
  · rw [longer, Text.find?_concat absent]

theorem not_mem_searchKey {policy : Policy} {name : Text} {c : Char} (absent : c ∉ name)
    (other : c ≠ '.') : c ∉ searchKey policy name := by
  unfold searchKey
  split <;> simp [absent, other]

/-- The lines of a stylesheet stay where they are, the last one with a carriage return at its end. -/
theorem getElem?_lines_append_emptyRule {content name line : Text} {n : Nat} (unbroken : '\n' ∉ name)
    (here : (Text.lines content)[n]? = some line) :
    ∃ after, (Text.lines (content ++ emptyRule name))[n]? = some after ∧
      (after = line ∨ after = line ++ ['\r']) := by
  obtain ⟨earlier, last, before, glued⟩ :=
    Text.lines_append_of_not_mem content (show '\n' ∉ ['\r'] by decide)
  rw [lines_append_emptyRule content unbroken, glued, List.append_assoc]
  rw [before] at here
  obtain inside | outside := Nat.lt_or_ge n earlier.length
  · rw [List.getElem?_append_left inside] at here ⊢
    exact ⟨line, here, .inl rfl⟩
  · rw [List.getElem?_append_right outside] at here ⊢
    obtain ⟨atEnd, rfl⟩ := List.getElem?_eq_some_iff.1 here
    have first : n - earlier.length = 0 := by simpa using atEnd
    simp [first]

/-- A position stays the first one: the lines up to its own show what they showed before. -/
theorem locate?_append_emptyRule {content name other : Text} {policy : Policy} {p : Position}
    (unbroken : '\n' ∉ name) (absent : '\r' ∉ other)
    (located : locate? content other policy = some p) :
    locate? (content ++ emptyRule name) other policy = some p := by
  have lacks : '\r' ∉ searchKey policy other := not_mem_searchKey absent (by decide)
  have same {line after : Text} (grown : after = line ∨ after = line ++ ['\r']) :
      lineHit? policy (searchKey policy other) after =
        lineHit? policy (searchKey policy other) line := by
    obtain rfl | rfl := grown
    · rfl
    · exact lineHit?_concat_return lacks line
  obtain ⟨line, offset, here, hit, column, least⟩ := locate?_eq_some_iff.1 located
  obtain ⟨after, stays, grown⟩ := getElem?_lines_append_emptyRule unbroken here
  refine locate?_eq_some_iff.2 ⟨after, offset, stays, (same grown).trans hit, column, ?_⟩
  intro n before earlier at_n
  have inside : n < (Text.lines content).length :=
    before.trans (List.getElem?_eq_some_iff.1 here).1
  obtain ⟨earlier', stays', grown'⟩ :=
    getElem?_lines_append_emptyRule unbroken (List.getElem?_eq_getElem inside)
  obtain rfl : earlier' = earlier := by simpa [at_n] using stays'.symm
  rw [← lineHit?_eq_none_iff, same grown', lineHit?_eq_none_iff]
  exact least n before _ (List.getElem?_eq_getElem inside)

/-- The appended class itself has a position. -/
theorem locate?_appended (content : Text) {name : Text} (named : name ≠ [])
    (chars : ∀ c ∈ name, isNameChar c = true) (policy : Policy) :
    (locate? (content ++ emptyRule name) name policy).isSome := by
  apply locate?_of_mem_classNames
  rw [classNames_append_emptyRule content named chars]
  split <;> simp_all

/-- **An appended rule adds its class and moves nothing.** The declared names gain the new one at their
end, if they lack it; it has a position under every policy; and a name that had a position keeps it. -/
theorem append_emptyRule_monotone (content : Text) {name : Text} (named : name ≠ [])
    (chars : ∀ c ∈ name, isNameChar c = true) :
    classNamesWith (content ++ emptyRule name) [] =
        classNamesWith content [] ++ (if name ∈ classNamesWith content [] then [] else [name]) ∧
      (∀ policy, (locate? (content ++ emptyRule name) name policy).isSome) ∧
      ∀ policy other p, '\r' ∉ other → locate? content other policy = some p →
        locate? (content ++ emptyRule name) other policy = some p := by
  have unbroken : '\n' ∉ name := fun newline => absurd (chars _ newline) (by decide)
  have names := classNames_append_emptyRule content named chars
  refine ⟨?_, fun policy => ?_, fun policy other p absent located => ?_⟩
  · simp only [classNamesWith_nil, names]
  · apply locate?_of_mem_classNames
    rw [names]
    split <;> simp_all
  · exact locate?_append_emptyRule unbroken absent located

/-- A rule for `b` behind a last line without a line feed, which a dash ends. -/
theorem append_emptyRule_monotone_unterminated :
    classNamesWith (".a \x7b a-".toList ++ emptyRule "b") [] = ["a".toList, "b".toList] ∧
    (∀ policy, (locate? (".a \x7b a-".toList ++ emptyRule "b") "b" policy).isSome) ∧
    locate? (".a \x7b a-".toList ++ emptyRule "b") "a-" .dashesOnly = some ⟨0, 6⟩ := by
  obtain ⟨names, placed, kept⟩ :=
    @append_emptyRule_monotone ".a \x7b a-" "b" (by decide) (List.all_eq_true.1 (by decide))
  exact ⟨names.trans (by decide), placed, kept .dashesOnly "a-" _ (by decide) (by decide +kernel)⟩

end Stylesheet

end ClassNav
