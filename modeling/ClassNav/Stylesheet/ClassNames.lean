import ClassNav.Text.Basic

/-!
Class names declared in a stylesheet. A line counts up to its last comma or opening brace, and every
dotted name in that part is a declaration. This is a reading of selectors, not of the style language:
a dotted number in a value that a comma follows is listed too.
-/

namespace ClassNav.Stylesheet

/-- Characters of a class name. -/
def isNameChar (c : Char) : Bool := c.isAlphanum || c == '_' || c == '-'

/-- A comma continues a selector list and a brace opens its block. -/
def isSelectorEnd (c : Char) : Bool := c == ',' || c == '{'

/-- The line up to its last comma or opening brace; nothing if it has neither. -/
def selectorPart (line : Text) : Text := (line.reverse.dropWhile fun c => !isSelectorEnd c).reverse

/-- Every maximal name that follows a dot. -/
def dottedNames : Text → List Text
  | [] => []
  | c :: r =>
    let name := r.takeWhile isNameChar
    if c = '.' ∧ name ≠ [] then name :: dottedNames r else dottedNames r

/-- The declared names in order of first appearance. -/
def classNames (content : Text) : List Text :=
  ((Text.lines content).flatMap fun line => dottedNames (selectorPart line)).eraseDups

/-- The declared names that contain `part`. -/
def classNamesWith (content part : Text) : List Text :=
  (classNames content).filter fun name => Text.contains name part

end ClassNav.Stylesheet
