import ClassNav.Document.Basic

/-!
The `object.field` reference at a cursor.
-/

namespace ClassNav

/-- A reference to a field of an imported object. The field keeps any further dots. -/
structure Reference where
  object : Text
  field : Text
  deriving DecidableEq, Repr

namespace Reference

def isTokenChar (c : Char) : Bool := c.isAlphanum || c == '.' || c == '_'

/-- Split at the first dot. -/
def ofToken? (token : Text) : Option Reference :=
  match token.dropWhile (· ≠ '.') with
  | [] => none
  | _ :: field => some ⟨token.takeWhile (· ≠ '.'), field⟩

end Reference

namespace Cursor

/-- The run of token characters just before the cursor. -/
def tokenBefore (c : Cursor) : Text := (c.before.reverse.takeWhile Reference.isTokenChar).reverse

/-- The whole run of token characters around the cursor, if a dot stands before the cursor in it. -/
def token? (c : Cursor) : Option Text :=
  if '.' ∈ c.tokenBefore then some (c.tokenBefore ++ c.after.takeWhile Reference.isTokenChar)
  else none

def reference? (c : Cursor) : Option Reference := c.token?.bind Reference.ofToken?

end Cursor

end ClassNav
