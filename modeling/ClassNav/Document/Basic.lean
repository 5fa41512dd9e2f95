import ClassNav.Error
import ClassNav.Path.Basic

/-!
Source documents and cursors in them.
-/

namespace ClassNav

structure Document where
  path : Path
  text : Text
  deriving DecidableEq, Repr

/-- A cursor within its line: what stands before it and what after. -/
structure Cursor where
  before : Text
  after : Text
  deriving DecidableEq, Repr

namespace Cursor

def line (c : Cursor) : Text := c.before ++ c.after

/-- Byte offset in the line. -/
def offset (c : Cursor) : Nat := Text.byteLength c.before

/-- The cursor at a byte offset of a line, if a character begins or the line ends there. -/
def atOffset? (line : Text) (offset : Nat) : Option Cursor :=
  (Text.splitAt? line offset).map fun (before, after) => ⟨before, after⟩

end Cursor

namespace Document

/-- Imports are resolved against the document's directory. -/
def baseDir (d : Document) : Path := d.path.parent?.getD ⟨[]⟩

def line? (d : Document) (line : Nat) : Option Text :=
  (Text.lines d.text)[line]?.map Text.dropCarriageReturn

/-- The cursor at a line and a column in characters; the end of the line counts as a column. -/
def cursor (d : Document) (line column : Nat) : Except Failure Cursor :=
  match d.line? line with
  | none => .error (.outsideDocument line column)
  | some text =>
    if column ≤ text.length then .ok ⟨text.take column, text.drop column⟩
    else .error (.outsideDocument line column)

end Document

end ClassNav
