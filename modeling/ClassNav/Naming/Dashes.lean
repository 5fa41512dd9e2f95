import ClassNav.Text.Basic

/-!
Dash joining: `nav-item` is exported as `navItem`, and nothing but dashes is touched.
-/

namespace ClassNav.Naming

/-- ASCII letters, digits and the underscore. -/
def isJoinable (c : Char) : Bool := c.isAlphanum || c == '_'

/-- A dash before a joinable character is dropped and that character raised. -/
def joinDashes : Text → Text
  | [] => []
  | [c] => [c]
  | c :: d :: r =>
    if c = '-' ∧ isJoinable d = true then d.toUpper :: joinDashes r
    else c :: joinDashes (d :: r)

end ClassNav.Naming
