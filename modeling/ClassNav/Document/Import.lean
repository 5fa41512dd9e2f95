import ClassNav.Character.Blank
import ClassNav.Path.Resolve

/-!
Imports of stylesheets. An import is a key, blanks, and then `from` or a `require` call with a quoted
stylesheet name on one line:

    styles from './App.module.css'
    styles = require('./App.scss')
    styles = require<any>("./App.sass")

A stylesheet name ends in a dot, one or two characters and `ss`. Of several ends on the line the last
one counts.

Left out of account are keys so long that no expression could be built to search for them. Here every key is
searched for.
-/

namespace ClassNav

structure Import where
  binding : Text
  modulePath : Text
  deriving DecidableEq, Repr

namespace Import

open Character

def isQuote (c : Char) : Bool := c == '"' || c == '\''

/-- What follows at least one blank. -/
def skipBlanks? (t : Text) : Option Text :=
  match t with
  | c :: _ => if isBlank c then some (t.dropWhile isBlank) else none
  | [] => none

/-- What follows `from` or the opening of a `require` call. -/
def skipKeyword? (t : Text) : Option Text :=
  match Text.stripPrefix? "from" t with
  | some rest => skipBlanks? rest
  | none =>
    (Text.stripPrefix? ['='] t).bind fun rest =>
      (skipBlanks? rest).bind fun rest =>
        (Text.stripPrefix? "require" rest).bind fun rest =>
          Text.stripPrefix? ['('] ((Text.stripPrefix? "<any>" rest).getD rest)

/-- `ss` and a closing quote; what follows them. -/
def closing? : Text → Option Text
  | a :: b :: q :: rest => if a = 's' ∧ b = 's' ∧ isQuote q then some rest else none
  | _ => none

/-- The extension of a stylesheet that ends at a quote, and what follows the quote. -/
def extension? : Text → Option (Text × Text)
  | dot :: a :: rest =>
    if dot = '.' ∧ isBlank a = false then
      match closing? rest with
      | some after => some ([dot, a, 's', 's'], after)
      | none =>
        match rest with
        | b :: rest =>
          if isBlank b = false then
            (closing? rest).map fun after => ([dot, a, b, 's', 's'], after)
          else none
        | [] => none
    else none
  | _ => none

/-- The longest beginning on this line that ends in an extension, and what follows its quote. -/
def lastExtension? : Text → Option (Text × Text)
  | [] => none
  | c :: r =>
    if c = '\n' then none
    else
      match lastExtension? r with
      | some (name, after) => some (c :: name, after)
      | none => extension? (c :: r)

/-- A stylesheet name before a closing quote: something, then an extension. -/
def stylesheetName? : Text → Option (Text × Text)
  | [] => none
  | c :: r =>
    if c = '\n' then none
    else (lastExtension? r).map fun (name, after) => (c :: name, after)

/-- The stylesheet name of an import and what follows the import, read after its key. -/
def afterKey? (t : Text) : Option (Text × Text) :=
  (skipBlanks? t).bind fun rest =>
    (skipKeyword? rest).bind fun rest =>
      match rest with
      | q :: rest =>
        if isQuote q then
          (stylesheetName? rest).map fun (name, after) =>
            (name, (Text.stripPrefix? [')'] after).getD after)
        else none
      | [] => none

/-- The stylesheet name of the first import whose key is the text `identifier`. -/
def specifierOf? (identifier : Text) : Text → Option Text
  | [] => ((Text.stripPrefix? identifier []).bind afterKey?).map (·.1)
  | c :: r =>
    match (Text.stripPrefix? identifier (c :: r)).bind afterKey? with
    | some (name, _) => some name
    | none => specifierOf? identifier r

/-- An import that begins right here, with a run of other than blanks for its key. -/
def here? (t : Text) : Option (Import × Text) :=
  let key := t.takeWhile fun c => !isBlank c
  if key.isEmpty then none
  else
    (afterKey? (t.dropWhile fun c => !isBlank c)).map fun (name, after) => (⟨key, name⟩, after)

/-- The leftmost import, and what follows it. -/
def first? : Text → Option (Import × Text)
  | [] => none
  | c :: r =>
    match here? (c :: r) with
    | some found => some found
    | none => first? r

/-- A name that a script can bind. -/
def isIdentifier : Text → Bool
  | [] => false
  | c :: r => (c.isAlpha || c == '_' || c == '$') &&
      r.all fun c => c.isAlphanum || c == '_' || c == '$'

end Import

end ClassNav
