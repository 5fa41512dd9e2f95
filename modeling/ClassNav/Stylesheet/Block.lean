import ClassNav.Text.Basic

/-!
The text that declares a missing class.
-/

namespace ClassNav.Stylesheet

/-- The empty rule that is appended for a missing class. Its line ends are part of the format. -/
def emptyRule (name : Text) : Text := ("\r\n." : Text) ++ name ++ (" \x7b\r\n\r\n\x7d\r\n\r\n" : Text)

end ClassNav.Stylesheet
