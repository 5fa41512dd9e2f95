import ClassNav.Yaml.Tag

/-!
The tokens of a YAML text. Outside brackets a line's indentation opens and closes blocks. A key on one
line is known by the colon after it, so its token is put in front of it when the colon is met.
-/

namespace ClassNav.Yaml

/-- A place where a key may have begun. It is required to be one if its block has no other use for
it. -/
structure KeyMark where
  required : Bool
  /-- How many tokens stand before it. -/
  token : Nat
  line : Nat
  column : Nat
  index : Nat

structure Tokenizer where
  reader : Reader
  tokens : Array Token
  /-- The indentation of the innermost block, -1 outside all blocks. -/
  indent : Int
  outer : List Int
  /-- Whether a key may begin here. -/
  keyAllowed : Bool
  /-- The possible key of each level of brackets, innermost first. -/
  keys : List (Option KeyMark)

namespace Tokenizer

def start (t : Text) : Tokenizer := ⟨.start t, #[], -1, [], true, [none]⟩

/-- Whether the place is between brackets. -/
def inFlow (s : Tokenizer) : Bool := decide (1 < s.keys.length)

def push (s : Tokenizer) (t : Token) : Tokenizer := { s with tokens := s.tokens.push t }

def key? (s : Tokenizer) : Option KeyMark := s.keys.head?.join

def setKey (s : Tokenizer) (k : Option KeyMark) : Tokenizer := { s with keys := k :: s.keys.drop 1 }

/-- Give up a possible key. A required one cannot be given up. -/
def dropKey (s : Tokenizer) : Option Tokenizer :=
  if s.key?.any KeyMark.required then none else some (s.setKey none)

/-- Note that a key may begin here. -/
def markKey (s : Tokenizer) : Option Tokenizer :=
  if s.keyAllowed then
    s.dropKey.map fun s => s.setKey <| some
      { required := !s.inFlow && decide (s.indent = s.reader.column)
        token := s.tokens.size
        line := s.reader.line
        column := s.reader.column
        index := s.reader.index }
  else some s

/-- A key ends on its line, within 1024 characters. -/
def isStale (r : Reader) (k : KeyMark) : Bool :=
  decide (k.line < r.line) || decide (k.index + 1024 < r.index)

/-- Possible keys that have become impossible are given up. -/
def dropStale (s : Tokenizer) : Option Tokenizer :=
  if s.keys.any fun k => k.any fun k => isStale s.reader k && k.required then none
  else some { s with keys := s.keys.map fun k => k.filter fun k => !isStale s.reader k }

/-- Open a block at a column to the right of the innermost one. -/
def openBlock (s : Tokenizer) (column place : Nat) (t : Token) : Tokenizer :=
  if !s.inFlow && decide (s.indent < column) then
    { s with
      outer := s.indent :: s.outer
      indent := column
      tokens := s.tokens.insertIdxIfInBounds place t }
  else s

/-- Close the blocks to the right of a column. -/
def closeBlocks (column : Int) : Nat → Tokenizer → Tokenizer
  | 0, s => s
  | fuel + 1, s =>
    if !s.inFlow && decide (column < s.indent) then
      closeBlocks column fuel
        { s.push .blockEnd with indent := s.outer.headD (-1), outer := s.outer.drop 1 }
    else s

def unroll (s : Tokenizer) (column : Int) : Tokenizer := closeBlocks column (s.outer.length + 1) s

/-- Pass over blanks, comments and breaks of lines. Between two keys of a block no tab may indent a
line. -/
def skipBlanks : Nat → Tokenizer → Tokenizer
  | 0, s => s
  | fuel + 1, s =>
    let r := if s.reader.column = 0 ∧ s.reader.sees 0 '\ufeff' then s.reader.skip 1 else s.reader
    let tabs := s.inFlow || !s.keyAllowed
    let r := r.skipRun fun c => c == ' ' || (tabs && c == '\t')
    let r := if r.sees 0 '#' then r.skipRun fun c => !isBreak c else r
    if r.meets 0 isBreak then
      skipBlanks fuel { s with reader := r.skipLine, keyAllowed := s.keyAllowed || !s.inFlow }
    else { s with reader := r }

/-- A token of `n` characters. -/
def take (s : Tokenizer) (n : Nat) (t : Token) : Tokenizer :=
  { s with reader := s.reader.skip n, tokens := s.tokens.push t }

def openBracket (s : Tokenizer) (t : Token) : Option Tokenizer :=
  s.markKey.map fun s => { s with keys := none :: s.keys, keyAllowed := true }.take 1 t

def closeBracket (s : Tokenizer) (t : Token) : Option Tokenizer :=
  s.dropKey.map fun s =>
    { s with keys := if s.inFlow then s.keys.drop 1 else s.keys, keyAllowed := false }.take 1 t

def entry (s : Tokenizer) : Option Tokenizer :=
  if !s.inFlow && !s.keyAllowed then none
  else
    (s.openBlock s.reader.column s.tokens.size .blockSequenceStart).dropKey.map fun s =>
      { s with keyAllowed := true }.take 1 .blockEntry

def explicitKey (s : Tokenizer) : Option Tokenizer :=
  if !s.inFlow && !s.keyAllowed then none
  else
    (s.openBlock s.reader.column s.tokens.size .blockMappingStart).dropKey.map fun s =>
      { s with keyAllowed := !s.inFlow }.take 1 .key

/-- A colon. It makes a key of what stands before it on the line, if that may be one. -/
def colon (s : Tokenizer) : Option Tokenizer :=
  match s.key? with
  | some k =>
    let s := { s with tokens := s.tokens.insertIdxIfInBounds k.token .key }
    let s := (s.openBlock k.column k.token .blockMappingStart).setKey none
    some ({ s with keyAllowed := false }.take 1 .value)
  | none =>
    if !s.inFlow && !s.keyAllowed then none
    else
      let s := s.openBlock s.reader.column s.tokens.size .blockMappingStart
      some ({ s with keyAllowed := !s.inFlow }.take 1 .value)

/-- A token that may begin a key. -/
def leaf (s : Tokenizer) (read : Reader → Option (Token × Reader)) : Option Tokenizer :=
  s.markKey.bind fun s =>
    (read s.reader).map fun (t, r) => { s.push t with reader := r, keyAllowed := false }

def documentMarker (s : Tokenizer) (t : Token) : Option Tokenizer :=
  (s.unroll (-1)).dropKey.map fun s => { s with keyAllowed := false }.take 3 t

def directive (s : Tokenizer) : Option Tokenizer :=
  (s.unroll (-1)).dropKey.bind fun s =>
    (directive? s.reader).map fun (t, r) => { s.push t with reader := r, keyAllowed := false }

def block (s : Tokenizer) (literal : Bool) : Option Tokenizer :=
  s.dropKey.bind fun s =>
    (blockScalar literal s.indent (s.reader.skip 1)).map fun (text, r) =>
      { s.push (.scalar false text) with reader := r, keyAllowed := true }

def quoted (single : Bool) (r : Reader) : Option (Token × Reader) :=
  (quotedScalar single (r.rest.length + 1) (r.skip 1)).map fun (text, r) => (.scalar false text, r)

/-- A plain scalar. A key may begin on the line after it. -/
def plain (s : Tokenizer) : Option Tokenizer :=
  s.markKey.bind fun s =>
    (plainScalar s.inFlow (s.indent + 1).toNat (s.reader.rest.length + 1) .none s.reader).map
      fun (text, broken, r) => { s.push (.scalar true text) with reader := r, keyAllowed := broken }

def isIndicator (c : Char) : Bool :=
  c ∈ ['-', '?', ':', ',', '[', ']', '\x7b', '\x7d', '#', '&', '*', '!', '|', '>', '\'', '"', '%',
    '@', '\x60']

/-- Signs that begin no scalar may begin one when no blank follows. -/
def beginsPlain (s : Tokenizer) (c : Char) : Bool :=
  (!isIndicator c && !isSpace c && !isBreak c) || (c == '-' && !s.reader.meets 1 isSpace) ||
    (!s.inFlow && (c == '?' || c == ':') && !s.reader.atGap 1)

/-- The token that begins here with the character `c`. -/
def next (s : Tokenizer) (c : Char) : Option Tokenizer :=
  let r := s.reader
  if r.column = 0 ∧ c = '%' then s.directive
  else if r.atMarker '-' then s.documentMarker .documentStart
  else if r.atMarker '.' then s.documentMarker .documentEnd
  else if c = '[' then s.openBracket .flowSequenceStart
  else if c = '\x7b' then s.openBracket .flowMappingStart
  else if c = ']' then s.closeBracket .flowSequenceEnd
  else if c = '\x7d' then s.closeBracket .flowMappingEnd
  else if c = ',' then s.dropKey.map fun s => { s with keyAllowed := true }.take 1 .flowEntry
  else if c = '-' ∧ r.atGap 1 then s.entry
  else if c = '?' ∧ (s.inFlow ∨ r.atGap 1) then s.explicitKey
  else if c = ':' ∧ (s.inFlow ∨ r.atGap 1) then s.colon
  else if c = '*' then s.leaf fun r => (anchorName? r).map fun (name, r) => (.alias name, r)
  else if c = '&' then s.leaf fun r => (anchorName? r).map fun (name, r) => (.anchor name, r)
  else if c = '!' then s.leaf (tag? s.inFlow)
  else if c = '|' ∧ s.inFlow = false then s.block true
  else if c = '>' ∧ s.inFlow = false then s.block false
  else if c = '\'' then s.leaf (quoted true)
  else if c = '"' then s.leaf (quoted false)
  else if s.beginsPlain c then s.plain
  else none

def run : Nat → Tokenizer → Option Tokenizer
  | 0, _ => none
  | fuel + 1, s =>
    (skipBlanks (s.reader.rest.length + 1) s).dropStale.bind fun s =>
      let s := s.unroll s.reader.column
      match s.reader.peek? 0 with
      | none => (s.unroll (-1)).dropKey
      | some c => (s.next c).bind (run fuel)

end Tokenizer

/-- The tokens of a text, unless it is malformed. A byte order mark at the front is passed over. -/
def tokens? (t : Text) : Option (List Token) :=
  if t.all isPrintable then
    let t := (Text.stripPrefix? ['\ufeff'] t).getD t
    (Tokenizer.run (2 * t.length + 2) (.start t)).map fun s => s.tokens.toList
  else none

end ClassNav.Yaml
