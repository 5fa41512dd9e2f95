import ClassNav.Proofs.Engine.Answers
import ClassNav.Proofs.Stylesheet.Agreement

/-!
Where completion candidates lead. A candidate is a declared name in the form of the policy, and whether
that form has a position depends on how the policy treats whole lines.
-/

namespace ClassNav

namespace Stylesheet

theorem mem_classNames_of_mem_with {content part name : Text}
    (found : name ∈ classNamesWith content part) : name ∈ classNames content :=
  (List.mem_filter.1 found).1

/-- Unless names are camel-cased in full, the transformed form of a declared name has a position. -/
theorem locate?_transform {content name : Text} {policy : Naming.Policy} (partly : policy ≠ .full)
    (declared : name ∈ classNames content) :
    (locate? content (policy.transform name) policy).isSome := by
  cases policy with
  | off => exact locate?_of_mem_classNames declared .off
  | full => exact absurd rfl partly
  | dashesOnly => exact locate?_joinDashes declared

end Stylesheet

namespace Engine

open Stylesheet Naming

/-- **Declared names have positions.** Untransformed it is the first place of the selector; there is one
under every policy, and one for the joined form of a name with dashes. So every candidate resolves in
the stylesheet that offers it, unless names are camel-cased in full. -/
theorem declared_names_resolve :
    (∀ content name : Text, name ∈ classNamesWith content [] →
      (∃ p, locate? content name .off = some p ∧ FirstPlace ('.' :: name) content p) ∧
      (∀ policy, (locate? content name policy).isSome) ∧
      (locate? content (joinDashes name) .dashesOnly).isSome) ∧
    ∀ (policy : Policy) (store : Store) (text line : Text) (offset : Nat) (base : Path)
      (candidate : Text), policy ≠ .full →
      candidate ∈ (completionsIn policy store text line offset base).value →
      ∃ r sheet, (Cursor.atOffset? line offset).bind Cursor.reference? = some r ∧
        (stylesheetOf? store text r.object base).value = some sheet ∧
        (position? store sheet candidate policy).value.isSome := by
  constructor
  · intro content name found
    have declared := mem_classNames_of_mem_with found
    obtain ⟨p, located⟩ := Option.isSome_iff_exists.1 (locate?_of_mem_classNames declared .off)
    exact ⟨⟨p, located, firstPlace_of_locate?_off located⟩, locate?_of_mem_classNames declared,
      locate?_joinDashes declared⟩
  · intro policy store text line offset base candidate partly offered
    obtain ⟨r, sheet, content, name, reads, imports, read, found, rfl⟩ :=
      mem_completionsIn_iff.1 offered
    refine ⟨r, sheet, reads, imports, ?_⟩
    rw [position?_value, read]
    exact locate?_transform partly (mem_classNames_of_mem_with found)

/-- Both forms of a name behind another selector resolve, without the policy that raises it. -/
theorem declared_names_resolve_behind_comma :
    locate? ".a, .nav-item \x7b" "nav-item" .off = some ⟨0, 5⟩ ∧
    (locate? ".a, .nav-item \x7b" "navItem" .dashesOnly).isSome ∧
    ∃ r sheet, (Cursor.atOffset? "s." 2).bind Cursor.reference? = some r ∧
      (stylesheetOf? (.ofSheet ".a, .nav-item \x7b") (Document.importing "s.").text r.object
        ⟨['/']⟩).value = some sheet ∧
      (position? (.ofSheet ".a, .nav-item \x7b") sheet "navItem" .dashesOnly).value.isSome := by
  obtain ⟨⟨p, located, -⟩, -, joined⟩ :=
    declared_names_resolve.1 ".a, .nav-item \x7b" "nav-item" (by decide)
  have place : locate? ".a, .nav-item \x7b" "nav-item" .off = some ⟨0, 5⟩ := by decide
  refine ⟨place, joined, ?_⟩
  exact declared_names_resolve.2 .dashesOnly (.ofSheet ".a, .nav-item \x7b")
    (Document.importing "s.").text "s." 2 ⟨['/']⟩ "navItem" (by decide) (by decide +kernel)

section
variable {e : Engine} {store : Store} {d : Document} {line column : Nat} {c : Cursor} {r : Reference}
  {sheet : Path}
  (here : d.cursor line column = .ok c) (reads : c.reference? = some r)
  (imports : (stylesheetOf? store d.text r.object d.baseDir).value = some sheet)
include here reads imports

theorem definition_of_position (placed : (position? store sheet r.field e.policy).value.isSome) :
    e.HasDefinition store d line column := by
  obtain ⟨answer, defined, value⟩ := definition_of_reference e store here reads
  have found : answer.value.isSome := by simp [value, imports, placed]
  obtain ⟨target, same⟩ := Option.isSome_iff_exists.1 found
  exact ⟨answer, target, defined, same⟩

theorem position_of_definition (elsewhere : Import.onLine? c.line = none)
    (found : e.HasDefinition store d line column) :
    (position? store sheet r.field e.policy).value.isSome := by
  obtain ⟨answer, target, defined, same⟩ := found
  obtain ⟨again, defined', value⟩ := definition_of_reference e store here reads
  obtain rfl : again = answer := by simpa [defined] using defined'.symm
  have some_value : again.value.isSome := by simp [same]
  simpa [value, elsewhere, imports] using some_value

end

/-- **In full camel case a candidate is navigable exactly if a line shows it**, camel-cased as a whole or
as written. A line always shows the names that camel case leaves alone, a name before which it has no
word, and a name whose camel case begins with a digit. Other names it shows with a raised initial. -/
theorem camelCased_candidates_resolve :
    (∀ content name : Text, name ∈ classNamesWith content [] →
      ((locate? content (camelCase name) .full).isSome ↔ ∃ line ∈ Text.lines content,
        camelCase name <:+: camelCase line ∨ camelCase name <:+: line) ∧
      (camelCase name = name → (locate? content (camelCase name) .full).isSome) ∧
      ∀ before after, before ++ '.' :: name ++ after ∈ Text.lines content →
        (∀ c ∈ after.head?, isCut c = true) →
        (Wordless before ∨ ∀ c ∈ (camelCase name).head?, c.isDigit) →
        (locate? content (camelCase name) .full).isSome) ∧
    ∀ (e : Engine) (store : Store) (d : Document) (line : Text) (offset : Nat) (r : Reference)
      (candidate : Text) (n column : Nat) (c : Cursor), e.policy = .full →
      candidate ∈ (completionsIn e.policy store d.text line offset d.baseDir).value →
      (Cursor.atOffset? line offset).bind Cursor.reference? = some r →
      candidate ≠ [] → (∀ x ∈ candidate, x.isAlphanum = true) →
      d.cursor n column = .ok c → c.reference? = some ⟨r.object, candidate⟩ →
      ∃ sheet content, (stylesheetOf? store d.text r.object d.baseDir).value = some sheet ∧
        store.readText sheet = .ok content ∧
        ((e.createMissing store d n column).value = .ok none ↔
          (locate? content candidate .full).isSome) ∧
        ((locate? content candidate .full).isSome → e.HasDefinition store d n column) ∧
        (Import.onLine? c.line = none → e.HasDefinition store d n column →
          (locate? content candidate .full).isSome) := by
  constructor
  · intro content name found
    have declared := mem_classNames_of_mem_with found
    refine ⟨locate?_camelCase_iff, fun same => ?_, fun before after onLine closes opens => ?_⟩
    · rw [same]
      exact locate?_of_mem_classNames declared .full
    · have shown := camelCase_infix closes opens
      exact locate?_camelCase_iff.2 ⟨_, onLine, .inl shown⟩
  · intro e store d line offset r candidate n column c full offered asked named alnum here reads
    obtain ⟨r', sheet, content, name, asked', imports, read, -, -⟩ := mem_completionsIn_iff.1 offered
    obtain rfl : r' = r := by simpa [asked] using asked'.symm
    have undotted : '.' ∉ candidate := fun dotted => absurd (alnum _ dotted) (by decide)
    have position : (position? store sheet candidate e.policy).value =
        locate? content candidate .full := by
      rw [position?_value, read, full]
      rfl
    refine ⟨sheet, content, imports, read, ?_, fun located => ?_, fun elsewhere found => ?_⟩
    · rw [createMissing_of_reference e store here reads, ← position]
      exact createFor_eq_none_iff named undotted imports
    · rw [← position] at located
      exact definition_of_position here reads imports located
    · have placed := position_of_definition here reads imports elsewhere found
      rwa [position] at placed

/-- The first name of a line resolves in camel case, and nothing is created for it. -/
theorem camelCased_candidates_resolve_first :
    (locate? ".nav-item, .b \x7b" "navItem" .full).isSome ∧
    ((Engine.mk ⟨.full, 500, []⟩).createMissing (.ofSheet ".nav-item, .b \x7b")
      (.importing "s.navItem") 1 4).value = .ok none ∧
    (Engine.mk ⟨.full, 500, []⟩).HasDefinition (.ofSheet ".nav-item, .b \x7b")
      (.importing "s.navItem") 1 4 := by
  have declared := camelCased_candidates_resolve.1 ".nav-item, .b \x7b" "nav-item" (by decide)
  have camel : camelCase "nav-item" = "navItem" := by decide +kernel
  have located : (locate? ".nav-item, .b \x7b" "navItem" .full).isSome := by
    rw [← camel]
    exact declared.2.2 [] ", .b \x7b" (by decide) (by rintro _ ⟨⟩; decide) (.inl (by simp [Wordless]))
  obtain ⟨sheet, content, imports, read, unwritten, defined, -⟩ := camelCased_candidates_resolve.2
    ⟨⟨.full, 500, []⟩⟩ (.ofSheet ".nav-item, .b \x7b") (.importing "s.navItem") "s." 2 ⟨['s'], []⟩
    "navItem" 1 4 ⟨"s.na", "vItem"⟩ rfl (by decide +kernel) (by decide) (by decide)
    (List.all_eq_true.1 (by decide)) (by decide) (by decide)
  have imported : (stylesheetOf? (.ofSheet ".nav-item, .b \x7b")
      (Document.importing "s.navItem").text ['s'] (Document.importing "s.navItem").baseDir).value =
      some ⟨"/a.css"⟩ := by decide +kernel
  obtain rfl := Option.some.inj (imports.symm.trans imported)
  have written : (Store.ofSheet ".nav-item, .b \x7b").readText ⟨"/a.css"⟩ =
      .ok ".nav-item, .b \x7b" := by decide +kernel
  obtain rfl := Except.ok.inj (read.symm.trans written)
  exact ⟨located, unwritten.2 located, defined located⟩

/-- Not every candidate is navigable: behind another selector the whole line is one name, and the
candidate begins with a small letter. -/
theorem camelCased_candidate_unresolved :
    ¬ ∀ content name : Text, name ∈ classNamesWith content [] →
      (locate? content (camelCase name) .full).isSome := by
  intro always
  have located := always ".a, .nav-item \x7b" "nav-item" (by decide)
  have unlocated : (locate? ".a, .nav-item \x7b" (camelCase "nav-item") .full).isSome = false := by
    decide +kernel
  rw [unlocated] at located
  cases located

end Engine

end ClassNav
