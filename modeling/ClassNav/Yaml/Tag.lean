import ClassNav.Text.Bytes
import ClassNav.Yaml.Scalar
import ClassNav.Yaml.Token

/-!
Tags and directives.
-/

namespace ClassNav.Yaml

/-- Characters of a tag. With brackets in the verbatim form and in directives. -/
def isTagChar (verbatim : Bool) (c : Char) : Bool :=
  isNameChar c || c ∈ [';', '/', '?', ':', '@', '&', '=', '+', '$', '.', '!', '~', '*', '\'', '(',
    ')', '%'] || (verbatim && (c == ',' || c == '[' || c == ']'))

/-- Bytes escaped by percent signs. -/
def escapedBytes : Nat → Text → Option (List UInt8)
  | 0, _ => none
  | fuel + 1, t =>
    match t with
    | '%' :: a :: b :: rest =>
      (Json.hexNumber? [a, b]).bind fun n =>
        (escapedBytes fuel rest).map fun more => UInt8.ofNat n :: more
    | '%' :: _ => none
    | _ => some []

/-- A tag's text with its escapes undone. -/
def unescapeTag : Nat → Text → Option Text
  | 0, _ => none
  | _, [] => some []
  | fuel + 1, c :: rest =>
    if c = '%' then
      (escapedBytes (rest.length + 2) (c :: rest)).bind fun bytes =>
        (Text.decode? ⟨bytes.toArray⟩).bind fun text =>
          (unescapeTag fuel (rest.drop (3 * bytes.length - 1))).map (text ++ ·)
    else (unescapeTag fuel rest).map (c :: ·)

/-- The handle of a tag: an exclamation mark, a name, and perhaps a second mark. -/
def tagHandle? (directive : Bool) (r : Reader) : Option (Text × Reader) :=
  if !r.sees 0 '!' then none
  else
    let name := '!' :: (r.skip 1).run isNameChar
    let after := r.skip name.length
    if after.sees 0 '!' then some (name ++ ['!'], after.skip 1)
    else if directive && name != ['!'] then none
    else some (name, after)

/-- The text of a tag; `lead` is what was read of it before. -/
def tagText? (verbatim : Bool) (lead : Text) (r : Reader) : Option (Text × Reader) :=
  let text := r.run (isTagChar verbatim)
  if lead.isEmpty && text.isEmpty then none
  else
    (unescapeTag (text.length + 1) text).map fun text => (lead.drop 1 ++ text, r.skipRun (isTagChar verbatim))

/-- A tag: its handle and what follows the handle. -/
def tag? (flow : Bool) (r : Reader) : Option (Token × Reader) :=
  let found :=
    if r.sees 1 '<' then
      (tagText? true [] (r.skip 2)).bind fun (text, r) =>
        if r.sees 0 '>' then some (([], text), r.skip 1) else none
    else
      (tagHandle? false r).bind fun (handle, r) =>
        if handle.length > 1 ∧ handle.getLast? = some '!' then
          (tagText? false [] r).map fun (text, r) => ((handle, text), r)
        else
          (tagText? false handle r).map fun (text, r) =>
            (if text.isEmpty then ([], ['!']) else (['!'], text), r)
  found.bind fun ((handle, suffix), r) =>
    if r.atGap 0 || (flow && r.sees 0 ',') then some (.tag handle suffix, r) else none

/-- A name after an anchor's or an alias's sign. -/
def anchorName? (r : Reader) : Option (Text × Reader) :=
  let name := (r.skip 1).run isNameChar
  let r := r.skip (name.length + 1)
  if name.isEmpty then none
  else if r.atGap 0 ||
      r.meets 0 fun c => c ∈ ['?', ':', ',', ']', '\x7d', '%', '@', '\x60'] then some (name, r)
  else none

/-- A part of a version: at most nine digits. -/
def versionNumber? (r : Reader) : Option (Nat × Reader) :=
  let digits := r.run Char.isDigit
  if digits.isEmpty ∨ 9 < digits.length then none
  else some (Text.ofDigits digits, r.skip digits.length)

/-- A directive, which takes a line of its own. -/
def directive? (r : Reader) : Option (Token × Reader) :=
  let name := (r.skip 1).run isNameChar
  let r := r.skip (name.length + 1)
  let found :=
    if r.atGap 0 = false then none
    else if name = "YAML".toList then
      (versionNumber? (r.skipRun isSpace)).bind fun (major, r) =>
        if r.sees 0 '.' then
          (versionNumber? (r.skip 1)).map fun (minor, r) => (Token.versionDirective major minor, r)
        else none
    else if name = "TAG".toList then
      (tagHandle? true (r.skipRun isSpace)).bind fun (handle, r) =>
        if r.meets 0 isSpace then
          (tagText? true [] (r.skipRun isSpace)).bind fun (lead, r) =>
            if r.atGap 0 then some (.tagDirective handle lead, r) else none
        else none
    else none
  found.bind fun (token, r) =>
    let r := r.skipComment
    if r.atLineEnd 0 then some (token, r.skipLine) else none

end ClassNav.Yaml
