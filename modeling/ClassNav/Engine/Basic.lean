import ClassNav.Document.ImportLine
import ClassNav.Document.Imports
import ClassNav.Document.Reference
import ClassNav.Note
import ClassNav.Settings.Basic
import ClassNav.Store.Basic
import ClassNav.Stylesheet.ClassNames
import ClassNav.Stylesheet.Position

/-!
Navigation: from a reference in a document to its stylesheet, and on to the class. Nothing is kept
between two questions; each reads the document's text and the stylesheet anew.
-/

namespace ClassNav

/-- Where a definition is. -/
structure Target where
  path : Path
  position : Stylesheet.Position
  deriving DecidableEq, Repr

structure Engine where
  settings : Settings
  deriving DecidableEq, Repr

namespace Engine

/-- The stylesheet's text. One that cannot be read is none, with a note. -/
def sheet? (store : Store) (p : Path) : Logged (Option Text) :=
  match store.readText p with
  | .ok content => pure (some content)
  | .error e => do
    Logged.note .debug
      ("Cannot read stylesheet ".toList ++ p.text ++ ": ".toList ++ e.message)
    return none

/-- The stylesheet that the text imports as `object`. -/
def stylesheetOf? (store : Store) (text object : Text) (base : Path) : Logged (Option Path) :=
  match Import.specifierOf? object text with
  | some specifier => pure (some (Path.resolve store.cwd base specifier))
  | none => do
    Logged.note .debug ("No stylesheet import found for `".toList ++ object ++ ['`'])
    return none

def classes (store : Store) (p : Path) (part : Text) : Logged (List Text) := do
  match ← sheet? store p with
  | some content => return Stylesheet.classNamesWith content part
  | none => return []

def position? (store : Store) (p : Path) (name : Text) (policy : Naming.Policy) :
    Logged (Option Stylesheet.Position) := do
  match ← sheet? store p with
  | some content => return Stylesheet.locate? content name policy
  | none => return none

/-- The definition of what stands at a byte offset of a line. In the parts of an import it is the
imported file; elsewhere it is the class of the reference. -/
def definitionIn (policy : Naming.Policy) (store : Store) (text line : Text) (offset : Nat)
    (base : Path) : Logged (Option Target) :=
  match (Import.onLine? line).filter fun i => i.holdsCursor line offset with
  | some i => pure (some ⟨Path.resolve store.cwd base i.modulePath, .start⟩)
  | none =>
    match (Cursor.atOffset? line offset).bind Cursor.reference? with
    | none => pure none
    | some r => do
      match ← stylesheetOf? store text r.object base with
      | none => return none
      | some sheet =>
        let found ← position? store sheet r.field policy
        return found.map fun position => ⟨sheet, position⟩

/-- The property names that could complete the reference at a byte offset of a line. -/
def completionsIn (policy : Naming.Policy) (store : Store) (text line : Text) (offset : Nat)
    (base : Path) : Logged (List Text) :=
  match (Cursor.atOffset? line offset).bind Cursor.reference? with
  | none => pure []
  | some r => do
    match ← stylesheetOf? store text r.object base with
    | none => return []
    | some sheet =>
      let names ← classes store sheet r.field
      return (names.map policy.transform).eraseDups

def policy (e : Engine) : Naming.Policy := e.settings.camelCase

def supports (e : Engine) (p : Path) : Bool := e.settings.supports p

def definition (e : Engine) (store : Store) (d : Document) (line column : Nat) :
    Except Failure (Logged (Option Target)) :=
  (d.cursor line column).map fun c =>
    definitionIn e.policy store d.text c.line c.offset d.baseDir

def completions (e : Engine) (store : Store) (d : Document) (line column : Nat) :
    Except Failure (Logged (List Text)) :=
  (d.cursor line column).map fun c =>
    completionsIn e.policy store d.text c.line c.offset d.baseDir

end Engine

end ClassNav
