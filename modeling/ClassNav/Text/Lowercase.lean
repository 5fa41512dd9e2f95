import ClassNav.Character.Cased
import ClassNav.Character.Recase

/-!
Lower case of a whole text. Only the capital sigma looks at its neighbours: it takes its final form
after a letter and before none.
-/

namespace ClassNav.Text

open Character

/-- Whether the nearest character that is not case-ignorable has a case. -/
def meetsCased (t : Text) : Bool :=
  match t.dropWhile isCaseIgnorable with
  | c :: _ => isCased c
  | [] => false

/-- Lower case of `t` after the characters `before`, which run backwards from `t`. -/
def lowercaseAfter (before : Text) : Text → Text
  | [] => []
  | c :: r =>
    let lower :=
      if c = 'Σ' then if meetsCased before && !meetsCased r then ['ς'] else ['σ']
      else toLower c
    lower ++ lowercaseAfter (c :: before) r

def lowercase (t : Text) : Text := lowercaseAfter [] t

/-- Lower case, with the first character then raised. -/
def capitalize (t : Text) : Text :=
  match lowercase t with
  | [] => []
  | c :: r => toUpper c ++ r

end ClassNav.Text
