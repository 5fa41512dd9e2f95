import ClassNav.Character.Word
import ClassNav.Text.Basic

/-!
References `object.name` in a text, and where they stand.

Left out of account are objects so long that no expression could be built to search for them.
-/

namespace ClassNav

/-- A place in a text: line and character, both counted from 0. -/
structure LineCol where
  line : Nat
  character : Nat
  deriving DecidableEq, Repr

/-- The place just after a beginning of the text, given backwards. -/
def LineCol.after (back : Text) : LineCol :=
  ⟨back.count '\n', (back.takeWhile (· ≠ '\n')).length⟩

/-- The place of a byte offset, if a character begins or the text ends there. -/
def LineCol.at? (text : Text) (offset : Nat) : Option LineCol :=
  (Text.splitAt? text offset).map fun (before, _) => after before.reverse

/-- One reference: the name, its bytes from `first` up to `last`, and its places. -/
structure Usage where
  name : Text
  first : Nat
  last : Nat
  start : LineCol
  stop : LineCol
  deriving DecidableEq, Repr

namespace Usage

open Character

/-- Characters of a referenced name. -/
def isNameChar (c : Char) : Bool := c.isAlphanum

/-- A character that an object may follow. Others continue an identifier, a path or a string. -/
def isSeparator (c : Char) : Bool :=
  !(isWord c || c ∈ ['$', '.', '/', '\\', '\'', '"', '`', '-'])

/-- The usage of a name after the text `back`, given backwards. -/
def ofName (back name : Text) : Usage where
  name := name
  first := Text.byteLength back
  last := Text.byteLength back + Text.byteLength name
  start := .after back
  stop := .after (name.reverse ++ back)

/-- References found from here on, as the text before each name, backwards, and the name. Each search
begins where the reference before it ended. -/
def scan (object back : Text) : Text → List (Text × Text)
  | [] => []
  | c :: r =>
    match if isSeparator c then Text.stripPrefix? (object ++ ['.']) r else none with
    | some rest =>
      let back := '.' :: object.reverse ++ c :: back
      let name := rest.takeWhile isNameChar
      (back, name) ::
        scan object (name.reverse ++ back) (r.drop (object.length + 1 + name.length))
    | none => scan object (c :: back) r
termination_by t => t.length
decreasing_by
  · simp only [List.length_drop, List.length_cons]; omega
  · simp

/-- At the start of the text the object needs no separator. -/
def scanAll (object text : Text) : List (Text × Text) :=
  match Text.stripPrefix? (object ++ ['.']) text with
  | some rest =>
    let back := '.' :: object.reverse
    let name := rest.takeWhile isNameChar
    (back, name) :: scan object (name.reverse ++ back) (rest.drop name.length)
  | none => scan object [] text

/-- The references to a name of `object`, in order. -/
def all (object text : Text) : List Usage :=
  ((scanAll object text).filter fun found => !found.2.isEmpty).map fun (back, name) =>
    ofName back name

end Usage

end ClassNav
