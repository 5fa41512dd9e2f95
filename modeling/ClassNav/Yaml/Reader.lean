import ClassNav.Text.Basic

/-!
A place in a YAML text: what is left to read, and the line, column and index reached.
-/

namespace ClassNav.Yaml

def isSpace (c : Char) : Bool := c == ' ' || c == '\t'

def isBreak (c : Char) : Bool :=
  c == '\n' || c == '\r' || c == '\x85' || c == '\u2028' || c == '\u2029'

/-- Characters of anchor names, tag handles and directive names. -/
def isNameChar (c : Char) : Bool := c.isAlphanum || c == '_' || c == '-'

/-- Characters that may stand in a YAML text at all. -/
def isPrintable (c : Char) : Bool :=
  c == '\t' || c == '\n' || c == '\r' || c == '\x85' ||
    (decide (0x20 ≤ c.toNat) && decide (c.toNat ≤ 0x7E)) ||
    (decide (0xA0 ≤ c.toNat) && decide (c.toNat ≤ 0xFFFD)) || decide (0x10000 ≤ c.toNat)

structure Reader where
  rest : Text
  line : Nat
  column : Nat
  index : Nat

namespace Reader

def start (t : Text) : Reader := ⟨t, 0, 0, 0⟩

def peek? (r : Reader) (ahead : Nat) : Option Char := r.rest[ahead]?

/-- Whether the character `ahead` is `c`. -/
def sees (r : Reader) (ahead : Nat) (c : Char) : Bool := r.peek? ahead == some c

/-- Whether the character `ahead` satisfies `p`. -/
def meets (r : Reader) (ahead : Nat) (p : Char → Bool) : Bool := (r.peek? ahead).any p

def atEnd (r : Reader) : Bool := r.rest.isEmpty

/-- A break of lines or the end. -/
def atLineEnd (r : Reader) (ahead : Nat) : Bool := (r.peek? ahead).all isBreak

/-- A space, a break of lines or the end. -/
def atGap (r : Reader) (ahead : Nat) : Bool := (r.peek? ahead).all fun c => isSpace c || isBreak c

def skip (r : Reader) (n : Nat) : Reader :=
  let n := (r.rest.take n).length
  { r with rest := r.rest.drop n, column := r.column + n, index := r.index + n }

/-- Pass over a break of lines; a carriage return and a line feed are one. -/
def skipLine (r : Reader) : Reader :=
  match r.rest with
  | '\r' :: '\n' :: rest => ⟨rest, r.line + 1, 0, r.index + 2⟩
  | c :: rest => if isBreak c then ⟨rest, r.line + 1, 0, r.index + 1⟩ else r
  | [] => r

/-- What a break of lines stands for in a scalar. -/
def lineBreak (r : Reader) : Text :=
  match r.rest with
  | c :: _ =>
    if c = '\u2028' ∨ c = '\u2029' then [c] else if isBreak c then ['\n'] else []
  | [] => []

/-- The longest run of characters that satisfy `p`. -/
def run (r : Reader) (p : Char → Bool) : Text := r.rest.takeWhile p

def skipRun (r : Reader) (p : Char → Bool) : Reader := r.skip (r.run p).length

/-- Three characters of a document marker at the start of a line, and a gap. -/
def atMarker (r : Reader) (c : Char) : Bool :=
  r.column == 0 && r.sees 0 c && r.sees 1 c && r.sees 2 c && r.atGap 3

def atDocumentMarker (r : Reader) : Bool := r.atMarker '-' || r.atMarker '.'

/-- Pass over spaces and a comment, up to the end of the line. -/
def skipComment (r : Reader) : Reader :=
  let r := r.skipRun isSpace
  if r.sees 0 '#' then r.skipRun fun c => !isBreak c else r

end Reader

end ClassNav.Yaml
