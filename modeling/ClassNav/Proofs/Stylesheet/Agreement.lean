import ClassNav.Proofs.Character.Ascii
import ClassNav.Proofs.Naming.Camel
import ClassNav.Proofs.Naming.Dashes
import ClassNav.Proofs.Stylesheet.Declared
import ClassNav.Proofs.Stylesheet.Located

/-!
Declared names and positions. The names are read off the selectors, the positions are searched for in
whole lines that were transformed; what surrounds a name decides whether the two meet.
-/

namespace ClassNav.Stylesheet

open Naming

theorem Declares.dotted_infix {line name : Text} (declares : Declares line name) :
    '.' :: name <:+: line := by
  obtain ⟨-, -, before, after, rfl, -⟩ := declares
  exact ⟨before, after, by simp⟩

theorem searchKey_infix (policy : Policy) (name : Text) : searchKey policy name <:+: '.' :: name := by
  unfold searchKey
  split
  · exact (List.suffix_cons _ _).isInfix
  · exact List.infix_rfl

/-- The line as written shows every name that it declares. -/
theorem Declares.shows {line name : Text} (declares : Declares line name) (policy : Policy) :
    Shows policy (searchKey policy name) line := by
  have within := searchKey_infix policy name
  exact .inr (within.trans declares.dotted_infix)

theorem locate?_of_mem_classNames {content name : Text} (declared : name ∈ classNames content)
    (policy : Policy) : (locate? content name policy).isSome := by
  obtain ⟨line, found, declares⟩ := mem_classNames_iff.1 declared
  exact locate?_isSome_iff.2 ⟨line, found, declares.shows policy⟩

/-- The position of the first occurrence of a text: on no line before, and nowhere before on its
line. -/
def FirstPlace (key content : Text) (p : Position) : Prop :=
  ∃ line offset, (Text.lines content)[p.line]? = some line ∧ p.column = offset + 1 ∧
    Text.OccursAt key line offset ∧ (∀ n < offset, ¬ Text.OccursAt key line n) ∧
    ∀ n < p.line, ∀ earlier, (Text.lines content)[n]? = some earlier → ¬ key <:+: earlier

theorem shows_off_iff {name line : Text} :
    Shows .off (searchKey .off name) line ↔ '.' :: name <:+: line := by
  simp [Shows, searchKey, Policy.transforms, Policy.transform]

theorem lineHit?_off (name line : Text) :
    lineHit? .off (searchKey .off name) line = Text.find? ('.' :: name) line := by
  simp [lineHit?, searchKey, Policy.transforms, Policy.transform]

/-- Without a transformation the position is the first place of the selector. -/
theorem firstPlace_of_locate?_off {content name : Text} {p : Position}
    (located : locate? content name .off = some p) : FirstPlace ('.' :: name) content p := by
  obtain ⟨line, offset, here, hit, column, least⟩ := locate?_eq_some_iff.1 located
  rw [lineHit?_off] at hit
  obtain ⟨occurs, first⟩ := Text.find?_eq_some_iff.1 hit
  refine ⟨line, offset, here, column, occurs, first, ?_⟩
  intro n before earlier at_n
  exact fun shown => least n before earlier at_n (shows_off_iff.2 shown)

/-- The dot before a name and the character behind it keep the rest of the line from its dashes. -/
theorem Declares.shows_joinDashes {line name : Text} (declares : Declares line name) :
    Shows .dashesOnly (searchKey .dashesOnly (joinDashes name)) line := by
  obtain ⟨-, -, before, after, rfl, closed, -⟩ := declares
  have opens : (before ++ ['.']).getLast? ≠ some '-' := by simp
  have closes : ∀ c ∈ after.head?, isJoinable c = false := by
    intro c found
    have stops := closed c found
    rw [← Bool.not_eq_true, Character.isNameChar_iff, not_or] at stops
    exact Bool.eq_false_iff.2 stops.1
  have split : before ++ '.' :: name ++ after = (before ++ ['.']) ++ name ++ after := by simp
  rw [split]
  refine .inl ⟨joinDashes (before ++ ['.']), joinDashes after, ?_⟩
  exact (joinDashes_within opens closes).symm

theorem locate?_joinDashes {content name : Text} (declared : name ∈ classNames content) :
    (locate? content (joinDashes name) .dashesOnly).isSome := by
  obtain ⟨line, found, declares⟩ := mem_classNames_iff.1 declared
  exact locate?_isSome_iff.2 ⟨line, found, declares.shows_joinDashes⟩

theorem shows_full_iff {key line : Text} :
    Shows .full (searchKey .full key) line ↔ key <:+: camelCase line ∨ key <:+: line := by
  simp [Shows, searchKey, Policy.transforms, Policy.transform]

/-- A selector keeps its camel case in a line that has no word before it. Behind a word it is raised,
which does not matter where a digit begins it. -/
theorem camelCase_infix {before name after : Text}
    (closes : ∀ c ∈ after.head?, isCut c = true)
    (opens : Wordless before ∨ ∀ c ∈ (camelCase name).head?, c.isDigit) :
    camelCase name <:+: camelCase (before ++ '.' :: name ++ after) := by
  have dot : ∀ c ∈ ('.' :: name ++ after).head?, isCut c = true := by
    rintro c ⟨⟩
    decide
  have undotted (t : Text) : words (simplify ('.' :: t)) = words (simplify t) :=
    words_simplify_wordless_append (s := ['.']) (by simp [Wordless]; decide) t
  rw [List.append_assoc]
  by_cases wordless : words (simplify before) = []
  · have same : camelCase (before ++ ('.' :: name ++ after)) = camelCase (name ++ after) := by
      rw [camelCase, words_simplify_append before dot, wordless, List.nil_append, List.cons_append,
        undotted, camelCase]
    rw [same]
    have begins := camelCase_prefix name closes
    exact begins.isInfix
  · have digit : ∀ c ∈ (camelCase name).head?, c.isDigit := by
      refine opens.resolve_left fun none_before => wordless ?_
      have alone := words_simplify_wordless_append none_before []
      simpa [simplify, words] using alone
    have raised : raisedCase ('.' :: name) = camelCase name := by
      rw [raisedCase, undotted, ← raisedCase, raisedCase_eq_camelCase digit]
    rw [← raised]
    exact raisedCase_infix wordless dot closes

theorem locate?_camelCase_iff {content name : Text} :
    (locate? content (camelCase name) .full).isSome ↔ ∃ line ∈ Text.lines content,
      camelCase name <:+: camelCase line ∨ camelCase name <:+: line := by
  simp only [locate?_isSome_iff, shows_full_iff]

end ClassNav.Stylesheet
