import ClassNav.Proofs.Document.ImportLineEnds
import ClassNav.Proofs.Document.LineEnds
import ClassNav.Proofs.Engine.Imported
import ClassNav.Proofs.Engine.Repeated
import ClassNav.Proofs.Store.LineEnds
import ClassNav.Proofs.Stylesheet.LineEnds

/-!
The engine and line ends. Whether lines end in a line feed or in both characters, in the document, in its
stylesheets or in both, every call is answered alike; only the bytes of a reported usage move.
-/

namespace ClassNav

open Text

theorem Cursor.isInline_of_reference? {c : Cursor} {r : Reference} (reads : c.reference? = some r) :
    IsInline r.object ∧ IsInline r.field := by
  obtain ⟨object, -, field⟩ := chars_of_reference? reads
  exact ⟨isInline_of_forall (by decide) (by decide) object, isInline_of_forall (by decide) (by decide) field⟩

theorem Cursor.isInline_of_atOffset? {line : Text} {offset : Nat} {r : Reference}
    (reads : (atOffset? line offset).bind reference? = some r) : IsInline r.object ∧ IsInline r.field := by
  obtain ⟨c, -, reads⟩ := Option.bind_eq_some_iff.1 reads
  exact isInline_of_reference? reads

theorem Import.isInline_of_isIdentifier {object : Text} (names : isIdentifier object = true) :
    IsInline object :=
  isInline_of_forall (by decide) (by decide) (isKey_of_isIdentifier names).chars

/-- The report on the same document with a carriage return before each line feed. -/
def Report.shifted (r : Report) : Report := { r with missing := r.missing.map MissingClass.shifted }

/-- The call on that document. -/
def Call.withReturns : Call → Call
  | .definition d line column => .definition d.withReturns line column
  | .completions d line column => .completions d.withReturns line column
  | .createMissing d line column => .createMissing d.withReturns line column
  | .missingFor d object => .missingFor d.withReturns object
  | .missingAll d => .missingAll d.withReturns
  | .supports p => .supports p
  | .classes p part => .classes p part
  | .scaffold p name => .scaffold p name

/-- The answer with the reported bytes of that document. -/
def Answer.shifted : Answer → Answer
  | .report found => .report (found.map Report.shifted)
  | .reports found => .reports (found.map Report.shifted)
  | .supported yes => .supported yes
  | .target found => .target found
  | .candidates found => .candidates found
  | .names declared => .names declared
  | .created stylesheet => .created stylesheet
  | .scaffolded done => .scaffolded done

/-- A cursor is put into a text without carriage returns, and a report asks for a name that a script can
bind. -/
def Call.IsPlain : Call → Prop
  | .definition d _ _ | .completions d _ _ | .createMissing d _ _ => '\r' ∉ d.text
  | .missingFor _ object => Import.isIdentifier object = true
  | .missingAll _ | .supports _ | .classes _ _ | .scaffold _ _ => True

namespace Engine

open Stylesheet

/-- Which stylesheet is written to, said of what is asked of the tree. -/
theorem createFor_stylesheet (policy : Naming.Policy) (store : Store) (d : Document) (r : Reference) :
    (createFor policy store d r).value.map (Option.map Written.stylesheet) =
      if r.field = [] ∨ '.' ∈ r.field then .ok none
      else
        match (stylesheetOf? store d.text r.object d.baseDir).value with
        | none => .ok none
        | some sheet =>
          if (position? store sheet r.field policy).value.isSome then .ok none
          else
            match (store.append sheet (emptyRule r.field)).map fun _ => () with
            | .error cause => .error (.unwritableStylesheet sheet cause)
            | .ok () => .ok (some sheet) := by
  by_cases unnamed : r.field = [] ∨ '.' ∈ r.field
  · rw [createFor, if_pos unnamed, if_pos unnamed]
    rfl
  · obtain ⟨named, undotted⟩ := not_or.1 unnamed
    rw [if_neg unnamed]
    cases imports : (stylesheetOf? store d.text r.object d.baseDir).value with
    | none =>
      rw [createFor, if_neg unnamed, Logged.value_bind, imports]
      rfl
    | some sheet =>
      rw [createFor_value named undotted imports, scaffold_value]
      simp only
      cases (position? store sheet r.field policy).value with
      | some position => rfl
      | none => cases store.append sheet (emptyRule r.field) <;> rfl

/-- Two trees that no question of the engine tells apart. A name it asks for has no carriage return. -/
structure Alike (store store' : Store) : Prop where
  cwd : store'.cwd = store.cwd
  classes : ∀ p part, (Engine.classes store' p part).value = (Engine.classes store p part).value
  position : ∀ p name policy, '\r' ∉ name →
    (position? store' p name policy).value = (position? store p name policy).value
  append : ∀ p more, (store'.append p more).map (fun _ => ()) = (store.append p more).map fun _ => ()

theorem alike_withReturns (chosen : Location → Bool) (store : Store) :
    Alike store (store.withReturns chosen) where
  cwd := rfl
  classes := by
    intro p part
    rw [classes_value, classes_value]
    obtain same | ⟨content, read, converted⟩ := store.readText_withReturns chosen p
    · rw [same]
    · rw [read, converted]
      exact classNamesWith_withReturns content part
  position := by
    intro p name policy unreturned
    rw [position?_value, position?_value]
    obtain same | ⟨content, read, converted⟩ := store.readText_withReturns chosen p
    · rw [same]
    · rw [read, converted]
      exact locate?_withReturns unreturned content policy
  append := (store.sameKinds_withReturns chosen).append

section
variable {store store' : Store} (alike : Alike store store')
include alike

theorem Alike.stylesheetOf? (text object : Text) (base : Path) :
    (stylesheetOf? store' text object base).value = (stylesheetOf? store text object base).value := by
  rw [stylesheetOf?_value, stylesheetOf?_value, alike.cwd]

theorem Alike.missingFor (d : Document) (object : Text) :
    (missingFor store' d object).value = (missingFor store d object).value := by
  rw [missingFor_value, missingFor_value, alike.stylesheetOf?]
  simp only [alike.classes]

theorem Alike.definitionIn (policy : Naming.Policy) (text line : Text) (offset : Nat) (base : Path) :
    (definitionIn policy store' text line offset base).value =
      (definitionIn policy store text line offset base).value := by
  rw [definitionIn_value, definitionIn_value, alike.cwd]
  congr 1
  refine Option.bind_congr fun r reads => ?_
  have unreturned := (Cursor.isInline_of_atOffset? reads).2.2
  simp only [alike.stylesheetOf?, alike.position _ _ _ unreturned]

theorem Alike.completionsIn (policy : Naming.Policy) (text line : Text) (offset : Nat) (base : Path) :
    (completionsIn policy store' text line offset base).value =
      (completionsIn policy store text line offset base).value := by
  simp only [completionsIn_value, alike.stylesheetOf?, alike.classes]

theorem Alike.createMissing (e : Engine) (d : Document) (line column : Nat) :
    (e.createMissing store' d line column).value.map (Option.map Written.stylesheet) =
      (e.createMissing store d line column).value.map (Option.map Written.stylesheet) := by
  cases here : d.cursor line column with
  | error failure => simp [Engine.createMissing, here]
  | ok c =>
    cases reads : c.reference? with
    | none => simp [Engine.createMissing, here, reads]
    | some r =>
      have unreturned := (Cursor.isInline_of_reference? reads).2.2
      rw [createMissing_of_reference e store here reads, createMissing_of_reference e store' here reads]
      simp only [createFor_stylesheet, alike.stylesheetOf?, alike.position _ _ _ unreturned, alike.append]

/-- Each call is answered from these questions alone. -/
theorem Alike.perform (e : Engine) (call : Call) :
    (e.perform store' call).1 = (e.perform store call).1 := by
  cases call with
  | supports p => rfl
  | definition d line column =>
    simp only [Engine.perform, Engine.definition]
    cases d.cursor line column with
    | error failure => rfl
    | ok c => simp [Except.map, alike.definitionIn]
  | completions d line column =>
    simp only [Engine.perform, Engine.completions]
    cases d.cursor line column with
    | error failure => rfl
    | ok c => simp [Except.map, alike.completionsIn]
  | classes p part => simp only [Engine.perform, alike.classes]
  | missingFor d object => simp only [Engine.perform, alike.missingFor]
  | missingAll d => simp only [Engine.perform, missingAll_value, alike.missingFor]
  | createMissing d line column => rw [perform_createMissing, perform_createMissing, alike.createMissing]
  | scaffold p name =>
    have same := alike.append p (emptyRule name)
    simp only [Engine.perform, scaffold_value]
    cases written : store.append p (emptyRule name) <;>
      cases written' : store'.append p (emptyRule name) <;> simp_all [Except.map]

end

theorem stylesheetOf?_withReturns {object : Text} (inline : IsInline object) (store : Store)
    (text : Text) (base : Path) :
    (stylesheetOf? store (withReturns text) object base).value =
      (stylesheetOf? store text object base).value := by
  rw [stylesheetOf?_value, stylesheetOf?_value, Import.specifierOf?_withReturns inline]

theorem missingFor_withReturns {object : Text} (inline : IsInline object) (store : Store)
    (d : Document) : (missingFor store d.withReturns object).value =
      (missingFor store d object).value.map Report.shifted := by
  rw [missingFor_value, missingFor_value, Option.map_map]
  simp only [Document.text_withReturns, Document.baseDir_withReturns, stylesheetOf?_withReturns inline,
    MissingClass.all_withReturns inline]
  rfl

theorem missingAll_withReturns (store : Store) (d : Document) :
    (missingAll store d.withReturns).value = (missingAll store d).value.map Report.shifted := by
  rw [missingAll_value, missingAll_value, List.map_filterMap]
  simp only [Document.text_withReturns, Import.all_withReturns]
  refine List.filterMap_congr fun object listed => ?_
  obtain ⟨i, bound, rfl⟩ := List.mem_map.1 (List.mem_eraseDups.1 listed)
  have names := (List.mem_filter.1 bound).2
  exact missingFor_withReturns (Import.isInline_of_isIdentifier names) store d

theorem definitionIn_withReturns (policy : Naming.Policy) (store : Store) (text line : Text)
    (offset : Nat) (base : Path) :
    (definitionIn policy store (withReturns text) line offset base).value =
      (definitionIn policy store text line offset base).value := by
  rw [definitionIn_value, definitionIn_value]
  congr 1
  refine Option.bind_congr fun r reads => ?_
  rw [stylesheetOf?_withReturns (Cursor.isInline_of_atOffset? reads).1]

theorem completionsIn_withReturns (policy : Naming.Policy) (store : Store) (text line : Text)
    (offset : Nat) (base : Path) :
    (completionsIn policy store (withReturns text) line offset base).value =
      (completionsIn policy store text line offset base).value := by
  rw [completionsIn_value, completionsIn_value]
  congr 1
  refine Option.bind_congr fun r reads => ?_
  rw [stylesheetOf?_withReturns (Cursor.isInline_of_atOffset? reads).1]

theorem createMissing_withReturns {d : Document} (unreturned : '\r' ∉ d.text) (e : Engine)
    (store : Store) (line column : Nat) :
    (e.createMissing store d.withReturns line column).value.map (Option.map Written.stylesheet) =
      (e.createMissing store d line column).value.map (Option.map Written.stylesheet) := by
  have cursor := Document.cursor_withReturns unreturned line column
  cases here : d.cursor line column with
  | error failure => simp [createMissing, here, cursor]
  | ok c =>
    cases reads : c.reference? with
    | none => simp [createMissing, here, cursor, reads]
    | some r =>
      have inline := (Cursor.isInline_of_reference? reads).1
      rw [createMissing_of_reference e store here reads,
        createMissing_of_reference e store (cursor.trans here) reads]
      simp only [createFor_stylesheet, Document.text_withReturns, Document.baseDir_withReturns,
        stylesheetOf?_withReturns inline]

theorem perform_withReturns (e : Engine) (store : Store) {call : Call} (plain : call.IsPlain) :
    (e.perform store call.withReturns).1 = (e.perform store call).1.shifted := by
  cases call with
  | supports p => rfl
  | definition d line column =>
    simp only [perform, Call.withReturns, definition, Document.cursor_withReturns plain]
    cases d.cursor line column with
    | error failure => rfl
    | ok c => simp [Except.map, definitionIn_withReturns, Answer.shifted]
  | completions d line column =>
    simp only [perform, Call.withReturns, completions, Document.cursor_withReturns plain]
    cases d.cursor line column with
    | error failure => rfl
    | ok c => simp [Except.map, completionsIn_withReturns, Answer.shifted]
  | classes p part => rfl
  | missingFor d object =>
    simp only [perform, Call.withReturns, missingFor_withReturns (Import.isInline_of_isIdentifier plain)]
    rfl
  | missingAll d =>
    simp only [perform, Call.withReturns, missingAll_withReturns]
    rfl
  | createMissing d line column =>
    rw [Call.withReturns, perform_createMissing, perform_createMissing, createMissing_withReturns plain]
    rfl
  | scaffold p name =>
    simp only [perform, Call.withReturns]
    split <;> rfl

/-- **Line ends do not matter.** A call is answered as before when the stylesheets, its document or both
have a carriage return before each line feed. Only the bytes of a reported usage are others: they lie
one further for each line above. -/
theorem answers_across_line_ends (e : Engine) (store : Store) (chosen : Location → Bool) {call : Call}
    (plain : call.IsPlain) :
    (e.perform (store.withReturns chosen) call).1 = (e.perform store call).1 ∧
    (e.perform store call.withReturns).1 = (e.perform store call).1.shifted ∧
    (e.perform (store.withReturns chosen) call.withReturns).1 = (e.perform store call).1.shifted := by
  have alike := alike_withReturns chosen store
  have document := perform_withReturns e store plain
  exact ⟨alike.perform e call, document, (alike.perform e call.withReturns).trans document⟩

/-- A report on the third line, with both files converted. -/
theorem answers_across_line_ends_below :
    let call : Call := .missingFor (.importing "s.b\ns.cd") "s"
    call.IsPlain ∧
    ((Engine.mk .default).perform ((Store.ofSheet ".a,\n.b \x7b\n\x7d").withReturns fun _ => true)
      call.withReturns).1 =
      .report (some ⟨"s", ⟨"/a.css"⟩, [.ofUsage ⟨"cd", 32, 34, ⟨2, 2⟩, ⟨2, 4⟩⟩]⟩) := by
  intro call
  have plain : call.IsPlain := show Import.isIdentifier "s" = true by decide
  obtain ⟨-, -, both⟩ := answers_across_line_ends ⟨.default⟩ (.ofSheet ".a,\n.b \x7b\n\x7d")
    (fun _ => true) plain
  have found : (missingFor (.ofSheet ".a,\n.b \x7b\n\x7d") (.importing "s.b\ns.cd") "s").value =
      some ⟨"s", ⟨"/a.css"⟩, [.ofUsage ⟨"cd", 30, 32, ⟨2, 2⟩, ⟨2, 4⟩⟩]⟩ := by decide +kernel
  refine ⟨plain, both.trans ?_⟩
  show Answer.shifted (.report (missingFor _ _ _).value) = _
  rw [found]
  rfl

end Engine

end ClassNav
