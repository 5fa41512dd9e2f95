import ClassNav.Document.Import

/-!
The import on a line, and which cursors of the line stand in it.
-/

namespace ClassNav.Import

/-- Byte offsets from the second character of the text to its end. Counting from 1, an absent text
begins at 0. -/
structure Span where
  first : Nat
  last : Nat
  deriving DecidableEq, Repr

/-- Strictly between the ends. -/
def Span.holds (s : Span) (cursor : Nat) : Bool := decide (s.first < cursor) && decide (cursor < s.last)

/-- The span of the first occurrence of `key`, counted from 1. -/
def spanOf (line key : Text) : Span :=
  let first := match Text.find? key line with
    | some offset => offset + 1
    | none => 0
  ⟨first, first + Text.byteLength key⟩

def bindingSpan (i : Import) (line : Text) : Span := spanOf line i.binding

def pathSpan (i : Import) (line : Text) : Span := spanOf line i.modulePath

def onLine? (line : Text) : Option Import := (first? line).map (·.1)

/-- Whether the cursor stands in the binding or in the module path. -/
def holdsCursor (i : Import) (line : Text) (cursor : Nat) : Bool :=
  (i.pathSpan line).holds cursor || (i.bindingSpan line).holds cursor

end ClassNav.Import
