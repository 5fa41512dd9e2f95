import ClassNav.Json.Basic

/-!
JSON text with two blanks of indentation a level, one item a line.
-/

namespace ClassNav.Json

def hexDigit (n : Nat) : Char := (Nat.digitChar n)

/-- Quotes, backslashes and control characters are escaped, the common ones by a letter. -/
def escape (c : Char) : Text :=
  if c = '"' then "\\\""
  else if c = '\\' then "\\\\"
  else if c = '\n' then "\\n"
  else if c = '\r' then "\\r"
  else if c = '\t' then "\\t"
  else if c = '\x08' then "\\b"
  else if c = '\x0c' then "\\f"
  else if c.toNat < 0x20 then
    "\\u00".toList ++ [hexDigit (c.toNat / 16), hexDigit (c.toNat % 16)]
  else [c]

def quote (t : Text) : Text := '"' :: t.flatMap escape ++ ['"']

def numberText : JsonNumber → Text
  | .integer (.ofNat n) => Text.decimal n
  | .integer (.negSucc n) => '-' :: Text.decimal (n + 1)
  | .decimal literal => literal

def newline (depth : Nat) : Text := '\n' :: List.replicate (2 * depth) ' '

/-- Items between brackets, each on a line of its own. -/
def bracket (depth : Nat) (opening closing : Char) (items : List Text) : Text :=
  if items.isEmpty then [opening, closing]
  else
    opening :: newline (depth + 1) ++ Text.joinWith (',' :: newline (depth + 1)) items ++
      newline depth ++ [closing]

mutual

def render (depth : Nat) : Json → Text
  | null => "null"
  | bool true => "true"
  | bool false => "false"
  | number n => numberText n
  | string t => quote t
  | array items => bracket depth '[' ']' (renderItems (depth + 1) items)
  | object fields => bracket depth '\x7b' '\x7d' (renderFields (depth + 1) fields)

def renderItems (depth : Nat) : List Json → List Text
  | [] => []
  | item :: rest => render depth item :: renderItems depth rest

def renderFields (depth : Nat) : List (Text × Json) → List Text
  | [] => []
  | (key, value) :: rest =>
    (quote key ++ ": ".toList ++ render depth value) :: renderFields depth rest

end

def print (j : Json) : Text := render 0 j

end ClassNav.Json
