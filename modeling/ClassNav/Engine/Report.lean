import ClassNav.Document.Missing
import ClassNav.Engine.Basic

/-!
Reports of missing classes, one for each imported stylesheet.
-/

namespace ClassNav

structure Report where
  object : Text
  stylesheet : Path
  missing : List MissingClass
  deriving DecidableEq, Repr

namespace Engine

/-- The classes used through `object` that its stylesheet does not declare. There is no report
without an import. -/
def missingFor (store : Store) (d : Document) (object : Text) : Logged (Option Report) := do
  match ← stylesheetOf? store d.text object d.baseDir with
  | none => return none
  | some sheet =>
    let declared ← classes store sheet []
    return some ⟨object, sheet, MissingClass.all object d.text declared⟩

/-- The reports of the objects, one after another. -/
def reportsOf (store : Store) (d : Document) : List Text → Logged (List Report)
  | [] => pure []
  | object :: rest => do
    let report ← missingFor store d object
    let reports ← reportsOf store d rest
    return report.toList ++ reports

/-- Imports whose key is no name are passed over, with a note. -/
def skippedNotes (text : Text) : List Note :=
  ((Import.anyKey text).filter fun i => !Import.isIdentifier i.binding).map fun i =>
    ⟨.debug, "Skipping non-identifier import binding `".toList ++ i.binding ++ ['`']⟩

/-- One report for each name that is bound to a stylesheet, in order of first import. -/
def missingAll (store : Store) (d : Document) : Logged (List Report) := do
  (⟨(), skippedNotes d.text⟩ : Logged Unit)
  reportsOf store d ((Import.all d.text).map Import.binding).eraseDups

/-- The report of one object, or of every import. -/
def reports (store : Store) (d : Document) : Option Text → Logged (List Report)
  | some object => do return (← missingFor store d object).toList
  | none => missingAll store d

end Engine

end ClassNav
