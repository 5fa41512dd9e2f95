import ClassNav.Stylesheet.ClassNames

/-!
Class names by two searches through a whole text. The first keeps the parts of lines that end in a comma
or an opening brace; the second takes dotted names out of these parts, which blanks join.
-/

namespace ClassNav.Stylesheet

/-- The parts that count. A search reads as far as it can on its line, and the next one begins behind the
part that it found. -/
def selectorParts : Text → List Text
  | [] => []
  | c :: r =>
    let part := selectorPart ((c :: r).takeWhile (· ≠ '\n'))
    if part = [] then selectorParts r else part :: selectorParts (r.drop (part.length - 1))
termination_by t => t.length
decreasing_by
  · simp
  · simp only [List.length_drop, List.length_cons]; omega

/-- The longest names behind dots. The next search begins behind the name. -/
def classTokens : Text → List Text
  | [] => []
  | c :: r =>
    let name := r.takeWhile isNameChar
    if c = '.' ∧ name ≠ [] then name :: classTokens (r.drop name.length) else classTokens r
termination_by t => t.length
decreasing_by
  · simp only [List.length_drop, List.length_cons]; omega
  · simp

/-- Each name where it is seen first. -/
def firstSeen (names : List Text) : List Text :=
  names.foldl (fun seen name => if seen.contains name then seen else seen ++ [name]) []

/-- The names found in a stylesheet; with a text `part`, those that contain it. -/
def search (content part : Text) : List Text :=
  let parts := selectorParts content
  if parts = [] then []
  else
    let names := firstSeen (classTokens ([' '].intercalate parts))
    if part = [] then names else names.filter fun name => Text.contains name part

end ClassNav.Stylesheet
