import ClassNav.Engine.Create
import ClassNav.Engine.Report
import ClassNav.Proofs.Document.Token
import ClassNav.Proofs.Store.Append

/-!
The answers of the engine without their notes: each is a function of the imports of the text and of the
one stylesheet they lead to.
-/

namespace ClassNav

/-- A tree of one stylesheet, `/a.css`, right below the working directory. -/
def Store.ofSheet (content : Text) : Store :=
  ⟨⟨['/']⟩, [([['a', '.', 'c', 's', 's']], .file (Text.encode content))]⟩

/-- A page beside that stylesheet, imported as `s` on the first line. The code begins on the next. -/
def Document.importing (code : Text) : Document :=
  ⟨⟨"/page.js"⟩, "import s from './a.css'\n".toList ++ code⟩

namespace Engine

@[simp] theorem sheet?_value (store : Store) (p : Path) :
    (sheet? store p).value = (store.readText p).toOption := by
  unfold sheet?
  cases store.readText p <;> rfl

theorem stylesheetOf?_value (store : Store) (text object : Text) (base : Path) :
    (stylesheetOf? store text object base).value =
      (Import.specifierOf? object text).map (Path.resolve store.cwd base) := by
  unfold stylesheetOf?
  cases Import.specifierOf? object text <;> rfl

@[simp] theorem classes_value (store : Store) (p : Path) (part : Text) :
    (classes store p part).value =
      match (store.readText p).toOption with
      | some content => Stylesheet.classNamesWith content part
      | none => [] := by
  rw [classes, Logged.value_bind, sheet?_value]
  cases (store.readText p).toOption <;> rfl

theorem position?_value (store : Store) (p : Path) (name : Text) (policy : Naming.Policy) :
    (position? store p name policy).value =
      (store.readText p).toOption.bind fun content => Stylesheet.locate? content name policy := by
  rw [position?, Logged.value_bind, sheet?_value]
  cases (store.readText p).toOption <;> rfl

/-- A definition is the imported file inside an import, and the position of the class elsewhere. -/
theorem definitionIn_value (policy : Naming.Policy) (store : Store) (text line : Text) (offset : Nat)
    (base : Path) :
    (definitionIn policy store text line offset base).value =
      (((Import.onLine? line).filter fun i => i.holdsCursor line offset).map fun i =>
        ⟨Path.resolve store.cwd base i.modulePath, .start⟩).or
      (((Cursor.atOffset? line offset).bind Cursor.reference?).bind fun r =>
        (stylesheetOf? store text r.object base).value.bind fun sheet =>
          (position? store sheet r.field policy).value.map fun position => ⟨sheet, position⟩) := by
  unfold definitionIn
  cases (Import.onLine? line).filter fun i => i.holdsCursor line offset with
  | some i => rfl
  | none =>
    cases (Cursor.atOffset? line offset).bind Cursor.reference? with
    | none => rfl
    | some r =>
      simp only [Logged.value_bind, Option.map_none, Option.none_or, Option.bind_some]
      cases (stylesheetOf? store text r.object base).value <;> rfl

theorem completionsIn_value (policy : Naming.Policy) (store : Store) (text line : Text) (offset : Nat)
    (base : Path) :
    (completionsIn policy store text line offset base).value =
      (((Cursor.atOffset? line offset).bind Cursor.reference?).bind fun r =>
        (stylesheetOf? store text r.object base).value.map fun sheet =>
          ((classes store sheet r.field).value.map policy.transform).eraseDups).getD [] := by
  unfold completionsIn
  cases (Cursor.atOffset? line offset).bind Cursor.reference? with
  | none => rfl
  | some r =>
    simp only [Logged.value_bind, Option.bind_some]
    cases (stylesheetOf? store text r.object base).value <;> rfl

/-- A report names the stylesheet that the object is imported from, and what that does not declare. -/
theorem missingFor_value (store : Store) (d : Document) (object : Text) :
    (missingFor store d object).value =
      (stylesheetOf? store d.text object d.baseDir).value.map fun sheet =>
        ⟨object, sheet, MissingClass.all object d.text (classes store sheet []).value⟩ := by
  rw [missingFor, Logged.value_bind]
  cases (stylesheetOf? store d.text object d.baseDir).value <;> rfl

theorem missingFor_eq_some_iff {store : Store} {d : Document} {object : Text} {report : Report} :
    (missingFor store d object).value = some report ↔
      (stylesheetOf? store d.text object d.baseDir).value = some report.stylesheet ∧
      report.object = object ∧
      report.missing =
        MissingClass.all object d.text (classes store report.stylesheet []).value := by
  obtain ⟨object', stylesheet, missing⟩ := report
  rw [missingFor_value, Option.map_eq_some_iff]
  constructor
  · rintro ⟨sheet, imports, same⟩
    cases same
    exact ⟨imports, rfl, rfl⟩
  · rintro ⟨imports, same, missed⟩
    exact ⟨stylesheet, imports, by simp_all⟩

@[simp] theorem scaffold_value (store : Store) (p : Path) (name : Text) :
    (scaffold store p name).value =
      match store.append p (Stylesheet.emptyRule name) with
      | .error e => .error (.unwritableStylesheet p e)
      | .ok store => .ok store := by
  unfold scaffold
  cases store.append p (Stylesheet.emptyRule name) <;> rfl

section
variable {policy : Naming.Policy} {store : Store} {d : Document} {r : Reference} {sheet : Path}
  (named : r.field ≠ []) (undotted : '.' ∉ r.field)
  (imports : (stylesheetOf? store d.text r.object d.baseDir).value = some sheet)
include named undotted imports

/-- The rule of an imported class is left alone where the class has a position, and written where it
has none. -/
theorem createFor_value :
    (createFor policy store d r).value =
      match (position? store sheet r.field policy).value with
      | some _ => .ok none
      | none => (scaffold store sheet r.field).value.map fun store => some ⟨sheet, store⟩ := by
  have names : ¬ (r.field = [] ∨ '.' ∈ r.field) := by simp [named, undotted]
  rw [createFor, if_neg names, Logged.value_bind, imports]
  simp only [Logged.value_bind]
  cases (position? store sheet r.field policy).value with
  | some position => rfl
  | none =>
    simp only [Logged.value_bind]
    cases (scaffold store sheet r.field).value <;> rfl

theorem createFor_eq_none_iff :
    (createFor policy store d r).value = .ok none ↔
      (position? store sheet r.field policy).value.isSome := by
  rw [createFor_value named undotted imports]
  cases (position? store sheet r.field policy).value with
  | some position => simp
  | none =>
    simp only [scaffold_value]
    cases store.append sheet (Stylesheet.emptyRule r.field) <;> simp [Except.map]

theorem createFor_eq_some_iff {w : Written} :
    (createFor policy store d r).value = .ok (some w) ↔
      (position? store sheet r.field policy).value = none ∧ w.stylesheet = sheet ∧
      store.append sheet (Stylesheet.emptyRule r.field) = .ok w.store := by
  obtain ⟨stylesheet, after⟩ := w
  rw [createFor_value named undotted imports]
  cases (position? store sheet r.field policy).value with
  | some position => simp
  | none =>
    simp only [scaffold_value]
    cases store.append sheet (Stylesheet.emptyRule r.field) <;>
      simp [Except.map, eq_comm]

end

section
variable (e : Engine) (store : Store) {d : Document} {line column : Nat} {c : Cursor} {r : Reference}
  (here : d.cursor line column = .ok c) (reads : c.reference? = some r)
include here reads

theorem createMissing_of_reference :
    e.createMissing store d line column = createFor e.policy store d r := by
  simp [createMissing, here, reads]

theorem definition_of_reference :
    ∃ answer, e.definition store d line column = .ok answer ∧
      answer.value =
        (((Import.onLine? c.line).filter fun i => i.holdsCursor c.line c.offset).map fun i =>
          ⟨Path.resolve store.cwd d.baseDir i.modulePath, .start⟩).or
        ((stylesheetOf? store d.text r.object d.baseDir).value.bind fun sheet =>
          (position? store sheet r.field e.policy).value.map fun position => ⟨sheet, position⟩) := by
  refine ⟨definitionIn e.policy store d.text c.line c.offset d.baseDir, ?_, ?_⟩
  · rw [definition, here]
    rfl
  · rw [definitionIn_value, Cursor.atOffset?_line, Option.bind_some, reads, Option.bind_some]

end

/-- What is written is a rule for the reference at the cursor, at the end of the stylesheet that its
object is imported from. -/
theorem written_of_createMissing {e : Engine} {store : Store} {d : Document} {line column : Nat}
    {w : Written} (created : (e.createMissing store d line column).value = .ok (some w)) :
    ∃ c r, d.cursor line column = .ok c ∧ c.reference? = some r ∧ r.field ≠ [] ∧ '.' ∉ r.field ∧
      (stylesheetOf? store d.text r.object d.baseDir).value = some w.stylesheet ∧
      store.append w.stylesheet (Stylesheet.emptyRule r.field) = .ok w.store := by
  unfold createMissing at created
  cases here : d.cursor line column with
  | error failure => simp [here] at created
  | ok c =>
    cases reads : c.reference? with
    | none => simp [here, reads] at created
    | some r =>
      simp only [here, reads] at created
      by_cases unnamed : r.field = [] ∨ '.' ∈ r.field
      · simp [createFor, unnamed] at created
      · obtain ⟨named, undotted⟩ := not_or.1 unnamed
        cases imports : (stylesheetOf? store d.text r.object d.baseDir).value with
        | none => simp [createFor, unnamed, imports] at created
        | some sheet =>
          obtain ⟨-, same, appended⟩ := (createFor_eq_some_iff named undotted imports).1 created
          rw [← same] at appended
          exact ⟨c, r, rfl, reads, named, undotted, by rw [same, imports], appended⟩

/-- The engine leads somewhere from a place in the document. -/
def HasDefinition (e : Engine) (store : Store) (d : Document) (line column : Nat) : Prop :=
  ∃ answer target, e.definition store d line column = .ok answer ∧ answer.value = some target

/-- A candidate is the property name of a class of the stylesheet that the reference leads to. -/
theorem mem_completionsIn_iff {policy : Naming.Policy} {store : Store} {text line : Text}
    {offset : Nat} {base : Path} {candidate : Text} :
    candidate ∈ (completionsIn policy store text line offset base).value ↔
      ∃ r sheet content name, (Cursor.atOffset? line offset).bind Cursor.reference? = some r ∧
        (stylesheetOf? store text r.object base).value = some sheet ∧
        store.readText sheet = .ok content ∧
        name ∈ Stylesheet.classNamesWith content r.field ∧ policy.transform name = candidate := by
  rw [completionsIn_value]
  cases (Cursor.atOffset? line offset).bind Cursor.reference? with
  | none => simp
  | some r =>
    cases imports : (stylesheetOf? store text r.object base).value with
    | none => simp [imports]
    | some sheet => cases read : store.readText sheet <;> simp [read, Except.toOption, imports]

end Engine

end ClassNav
