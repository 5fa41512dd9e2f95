import ClassNav.Json.Basic

/-!
Reading JSON text. The reader is strict: no comments, no trailing commas, no control characters in
strings, no numbers beyond the range of a double, and at most 127 levels of brackets.
-/

namespace ClassNav.Json

def isGap (c : Char) : Bool := c == ' ' || c == '\t' || c == '\n' || c == '\r'

def skipGap (t : Text) : Text := t.dropWhile isGap

def hexValue? (c : Char) : Option Nat :=
  if c.isDigit then some (c.toNat - '0'.toNat)
  else if 'a' ≤ c ∧ c ≤ 'f' then some (c.toNat - 'a'.toNat + 10)
  else if 'A' ≤ c ∧ c ≤ 'F' then some (c.toNat - 'A'.toNat + 10)
  else none

def hexNumber? (digits : Text) : Option Nat :=
  digits.foldl (fun n c => n.bind fun n => (hexValue? c).map (n * 16 + ·)) (some 0)

/-- The number written by the four hexadecimal digits at the front. -/
def fourHex? (t : Text) : Option (Nat × Text) :=
  if t.length < 4 then none else (hexNumber? (t.take 4)).map fun n => (n, t.drop 4)

def simpleEscape? (c : Char) : Option Char :=
  [('"', '"'), ('\\', '\\'), ('/', '/'), ('b', '\x08'), ('f', '\x0c'), ('n', '\n'), ('r', '\r'),
    ('t', '\t')].lookup c

/-- A character escaped by its number, after `\u`. Two halves of a pair make one character. -/
def numericEscape? (t : Text) : Option (Char × Text) :=
  (fourHex? t).bind fun (high, rest) =>
    if 0xD800 ≤ high ∧ high < 0xDC00 then
      (Text.stripPrefix? ['\\', 'u'] rest).bind fun rest =>
        (fourHex? rest).bind fun (low, rest) =>
          if 0xDC00 ≤ low ∧ low < 0xE000 then
            some (Char.ofNat (0x10000 + (high - 0xD800) * 0x400 + (low - 0xDC00)), rest)
          else none
    else if 0xDC00 ≤ high ∧ high < 0xE000 then none
    else some (Char.ofNat high, rest)

/-- The rest of a string after its opening quote. -/
def readString : Nat → Text → Option (Text × Text)
  | 0, _ => none
  | _, [] => none
  | fuel + 1, c :: r =>
    if c = '"' then some ([], r)
    else if c = '\\' then
      match r with
      | [] => none
      | 'u' :: r =>
        (numericEscape? r).bind fun (c, rest) =>
          (readString fuel rest).map fun (t, rest) => (c :: t, rest)
      | e :: r =>
        (simpleEscape? e).bind fun c =>
          (readString fuel r).map fun (t, rest) => (c :: t, rest)
    else if c.toNat < 0x20 then none
    else (readString fuel r).map fun (t, rest) => (c :: t, rest)

/-- The least number that no double comes near enough to: half a step above the largest. -/
def doubleBound : Nat := Nat.pow 2 1024 - Nat.pow 2 970

/-- Whether `digits` × 10 ^ `exponent` is in the range of a double. -/
def fitsDouble (digits : Text) (exponent : Int) : Bool :=
  let n := Text.ofDigits digits
  if n = 0 then true
  else if 400 < (digits.dropWhile (· = '0')).length + exponent then false
  else if 0 ≤ exponent then decide (n * Nat.pow 10 exponent.toNat < doubleBound)
  else decide (n < doubleBound * Nat.pow 10 (min (-exponent).toNat digits.length))

/-- At least one digit. -/
def digits? (t : Text) : Option (Text × Text) :=
  if (t.takeWhile Char.isDigit).isEmpty then none
  else some (t.takeWhile Char.isDigit, t.dropWhile Char.isDigit)

def fraction? (t : Text) : Option (Text × Text) :=
  match t with
  | '.' :: r => digits? r
  | _ => some ([], t)

def exponent? (t : Text) : Option (Option Int × Text) :=
  match t with
  | e :: r =>
    if e = 'e' ∨ e = 'E' then
      match r with
      | '+' :: r => (digits? r).map fun (d, rest) => (some (Text.ofDigits d : Int), rest)
      | '-' :: r => (digits? r).map fun (d, rest) => (some (-(Text.ofDigits d : Int)), rest)
      | _ => (digits? r).map fun (d, rest) => (some (Text.ofDigits d : Int), rest)
    else some (none, t)
  | [] => some (none, t)

/-- A number after its sign. Integers of more than 64 bits count as decimals. -/
def readNumber? (negative : Bool) (t : Text) : Option (JsonNumber × Text) :=
  (digits? t).bind fun (whole, rest) =>
    if whole.length > 1 ∧ whole.head? = some '0' then none
    else
      (fraction? rest).bind fun (fraction, rest) =>
        (exponent? rest).bind fun (exponent, rest') =>
          let n := Text.ofDigits whole
          let literal := (if negative then ['-'] else []) ++ t.take (t.length - rest'.length)
          if fraction.isEmpty ∧ exponent = none ∧
              (if negative then 0 < n ∧ n ≤ Nat.pow 2 63 else n < UInt64.size) then
            some (.integer (if negative then -(n : Int) else n), rest')
          else if fitsDouble (whole ++ fraction) (exponent.getD 0 - fraction.length) then
            some (.decimal literal, rest')
          else none

mutual

/-- A value at the front of the text, with `depth` levels of brackets to spare. -/
def readValue (depth : Nat) : Nat → Text → Option (Json × Text)
  | 0, _ => none
  | fuel + 1, t =>
    match skipGap t with
    | '"' :: r => (readString (r.length + 1) r).map fun (s, rest) => (string s, rest)
    | '[' :: r =>
      if depth ≤ 1 then none
      else
        match skipGap r with
        | ']' :: rest => some (array [], rest)
        | _ => (readItems (depth - 1) fuel r).map fun (items, rest) => (array items, rest)
    | '\x7b' :: r =>
      if depth ≤ 1 then none
      else
        match skipGap r with
        | '\x7d' :: rest => some (object [], rest)
        | _ => (readFields (depth - 1) fuel r).map fun (fields, rest) => (object fields, rest)
    | '-' :: r => (readNumber? true r).map fun (n, rest) => (number n, rest)
    | t =>
      match Text.stripPrefix? "null" t, Text.stripPrefix? "true" t, Text.stripPrefix? "false" t with
      | some rest, _, _ => some (null, rest)
      | _, some rest, _ => some (bool true, rest)
      | _, _, some rest => some (bool false, rest)
      | _, _, _ => (readNumber? false t).map fun (n, rest) => (number n, rest)

/-- The items of an array up to its closing bracket. -/
def readItems (depth : Nat) : Nat → Text → Option (List Json × Text)
  | 0, _ => none
  | fuel + 1, t =>
    (readValue depth fuel t).bind fun (item, rest) =>
      match skipGap rest with
      | ',' :: rest => (readItems depth fuel rest).map fun (items, rest) => (item :: items, rest)
      | ']' :: rest => some ([item], rest)
      | _ => none

/-- The fields of an object up to its closing brace. -/
def readFields (depth : Nat) : Nat → Text → Option (List (Text × Json) × Text)
  | 0, _ => none
  | fuel + 1, t =>
    match skipGap t with
    | '"' :: r =>
      (readString (r.length + 1) r).bind fun (key, rest) =>
        match skipGap rest with
        | ':' :: rest =>
          (readValue depth fuel rest).bind fun (value, rest) =>
            match skipGap rest with
            | ',' :: rest =>
              (readFields depth fuel rest).map fun (fields, rest) => ((key, value) :: fields, rest)
            | '\x7d' :: rest => some ([(key, value)], rest)
            | _ => none
        | _ => none
    | _ => none

end

/-- The value written by the whole text. -/
def parse? (t : Text) : Option Json :=
  match readValue 128 (t.length + 1) t with
  | some (value, rest) => if (skipGap rest).isEmpty then some value else none
  | none => none

end ClassNav.Json
