import ClassNav.Naming.Policy

/-!
Where a class is declared in a stylesheet: the first line that shows it, in its searched form or as
written.
-/

namespace ClassNav.Stylesheet

open Naming

/-- A place in a stylesheet. The line counts from 0. The column counts bytes from 1 in the text that
was searched, which may be the transformed line; 0 stands for the file as a whole. -/
structure Position where
  line : Nat
  column : Nat
  deriving DecidableEq, Repr

def Position.start : Position := ⟨0, 0⟩

/-- What is looked for: the selector itself, or the bare name once names are transformed. -/
def searchKey (policy : Policy) (name : Text) : Text :=
  if policy.transforms then name else '.' :: name

/-- Byte offset of the key in the line's searched form, else in the line as written. -/
def lineHit? (policy : Policy) (key line : Text) : Option Nat :=
  (Text.find? key (policy.transform line)).or (Text.find? key line)

def locate? (content name : Text) (policy : Policy) : Option Position :=
  (Text.lines content).zipIdx.findSome? fun (line, index) =>
    (lineHit? policy (searchKey policy name) line).map fun offset => ⟨index, offset + 1⟩

end ClassNav.Stylesheet
