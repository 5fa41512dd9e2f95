import ClassNav.Json.Reader
import ClassNav.Yaml.Reader

/-!
The text of a scalar: plain, between quotes, or in a block. Broken lines are folded: a single break
becomes a blank, more of them lose the first.
-/

namespace ClassNav.Yaml

/-- Blanks and breaks met since the last character of a scalar. -/
structure Gap where
  blanks : Text
  broken : Bool
  first : Text
  others : Text

namespace Gap

def none : Gap := ⟨[], false, [], []⟩

/-- The text that a gap leaves in a folded scalar. -/
def fold (g : Gap) : Text :=
  if g.broken then
    if g.first.head? = some '\n' then if g.others.isEmpty then [' '] else g.others
    else g.first ++ g.others
  else g.blanks

/-- Read the blanks and breaks that follow. In a plain scalar no tab may stand to the left of
`margin` on a new line. -/
def read (margin : Option Nat) : Nat → Gap → Reader → Option (Gap × Reader)
  | 0, _, _ => Option.none
  | fuel + 1, g, r =>
    match r.peek? 0 with
    | some c =>
      if isSpace c then
        if g.broken && c == '\t' && margin.any (fun m => decide (r.column < m)) then Option.none
        else if g.broken then read margin fuel g (r.skip 1)
        else read margin fuel { g with blanks := g.blanks ++ [c] } (r.skip 1)
      else if isBreak c then
        if g.broken then read margin fuel { g with others := g.others ++ r.lineBreak } r.skipLine
        else read margin fuel ⟨[], true, r.lineBreak, g.others⟩ r.skipLine
      else some (g, r)
    | Option.none => some (g, r)

end Gap

/-- Where a plain scalar stops within a word. Between brackets their signs stop it too. -/
def endsPlain (flow : Bool) (r : Reader) : Bool :=
  (r.sees 0 ':' && r.atGap 1) ||
    (flow && r.meets 0 fun c => c == ',' || c == '[' || c == ']' || c == '\x7b' || c == '\x7d')

/-- A colon that is followed by a sign of brackets has no meaning between brackets. -/
def brokenColon (flow : Bool) (r : Reader) : Bool :=
  flow && r.sees 0 ':' && r.meets 1 fun c =>
    c == ',' || c == '?' || c == '[' || c == ']' || c == '\x7b' || c == '\x7d'

/-- One word of a plain scalar. -/
def plainWord (flow : Bool) : Nat → Reader → Option (Text × Reader)
  | 0, _ => none
  | fuel + 1, r =>
    match r.peek? 0 with
    | none => some ([], r)
    | some c =>
      if isSpace c || isBreak c then some ([], r)
      else if brokenColon flow r then none
      else if endsPlain flow r then some ([], r)
      else (plainWord flow fuel (r.skip 1)).map fun (word, r) => (c :: word, r)

/-- A plain scalar's text, whether a line was broken after it, and the place reached. -/
def plainScalar (flow : Bool) (margin : Nat) : Nat → Gap → Reader → Option (Text × Bool × Reader)
  | 0, _, _ => none
  | fuel + 1, g, r =>
    if r.atDocumentMarker || r.sees 0 '#' then some ([], g.broken, r)
    else
      (plainWord flow (r.rest.length + 1) r).bind fun (word, after) =>
        let lead := if word.isEmpty then [] else g.fold
        let g := if word.isEmpty then g else .none
        if !after.meets 0 (fun c => isSpace c || isBreak c) then some (lead ++ word, g.broken, after)
        else
          (g.read (some margin) (after.rest.length + 1) after).bind fun (g, next) =>
            if !flow && decide (next.column < margin) then some (lead ++ word, g.broken, next)
            else
              (plainScalar flow margin fuel g next).map fun (more, broken, r) =>
                (lead ++ word ++ more, broken, r)

/-- The escapes of a double-quoted scalar that stand for one character. -/
def letterEscape? (c : Char) : Option Char :=
  [('0', '\x00'), ('a', '\x07'), ('b', '\x08'), ('t', '\t'), ('\t', '\t'), ('n', '\n'),
    ('v', '\x0b'), ('f', '\x0c'), ('r', '\r'), ('e', '\x1b'), (' ', ' '), ('"', '"'), ('/', '/'),
    ('\\', '\\'), ('N', '\x85'), ('_', '\u00a0'), ('L', '\u2028'), ('P', '\u2029')].lookup c

def hexLength? (c : Char) : Option Nat := [('x', 2), ('u', 4), ('U', 8)].lookup c

/-- The character of an escape, after its backslash, and how long the escape is. -/
def escaped? (r : Reader) : Option (Char × Nat) :=
  (r.peek? 0).bind fun c =>
    match letterEscape? c with
    | some c => some (c, 1)
    | none =>
      (hexLength? c).bind fun n =>
        let digits := (r.rest.drop 1).take n
        if digits.length < n then none
        else
          (Json.hexNumber? digits).bind fun code =>
            if (0xD800 ≤ code ∧ code ≤ 0xDFFF) ∨ 0x10FFFF < code then none
            else some (Char.ofNat code, n + 1)

/-- A run of a quoted scalar without plain gaps, and whether an escaped break ended it. -/
def quotedWord (single : Bool) : Nat → Reader → Option (Text × Bool × Reader)
  | 0, _ => none
  | fuel + 1, r =>
    match r.peek? 0 with
    | none => some ([], false, r)
    | some c =>
      let more (c : Char) (r : Reader) :=
        (quotedWord single fuel r).map fun (word, cut, r) => (c :: word, cut, r)
      if isSpace c || isBreak c then some ([], false, r)
      else if single && c == '\'' && r.sees 1 '\'' then more '\'' (r.skip 2)
      else if c == (if single then '\'' else '"') then some ([], false, r)
      else if !single && c == '\\' then
        if r.meets 1 isBreak then some ([], true, (r.skip 1).skipLine)
        else (escaped? (r.skip 1)).bind fun (c, n) => more c (r.skip (n + 1))
      else more c (r.skip 1)

/-- A quoted scalar after its opening quote. -/
def quotedScalar (single : Bool) : Nat → Reader → Option (Text × Reader)
  | 0, _ => none
  | fuel + 1, r =>
    if r.atDocumentMarker || r.atEnd then none
    else
      (quotedWord single (r.rest.length + 1) r).bind fun (word, cut, r) =>
        if r.sees 0 (if single then '\'' else '"') then some (word, r.skip 1)
        else
          (Gap.read none (r.rest.length + 1) ⟨[], cut, [], []⟩ r).bind fun (g, r) =>
            (quotedScalar single fuel r).map fun (more, r) => (word ++ g.fold ++ more, r)

/-- What happens to the breaks at the end of a block scalar. -/
inductive Chomping
  | strip
  | clip
  | keep
  deriving DecidableEq, Repr

def chomping? (r : Reader) : Option Chomping :=
  if r.sees 0 '+' then some .keep else if r.sees 0 '-' then some .strip else none

/-- An indentation given by a digit. Zero is none. -/
def indentation? (r : Reader) : Option Nat :=
  match r.peek? 0 with
  | some c => if c.isDigit then some (c.toNat - '0'.toNat) else none
  | none => none

/-- The signs after the indicator of a block scalar, in either order. -/
def blockHeader (r : Reader) : Option (Chomping × Option Nat × Reader) :=
  let found :=
    match chomping? r with
    | some chomping =>
      match indentation? (r.skip 1) with
      | some n => (chomping, some n, r.skip 2)
      | none => (chomping, none, r.skip 1)
    | none =>
      match indentation? r with
      | some n =>
        match chomping? (r.skip 1) with
        | some chomping => (chomping, some n, r.skip 2)
        | none => (.clip, some n, r.skip 1)
      | none => (.clip, none, r)
  if found.2.1 = some 0 then none else some found

/-- The empty lines before a line of a block scalar. While the indentation is not known, the widest of
them is kept in `widest`. -/
def blockBreaks (indent : Option Nat) :
    Nat → (widest : Nat) → Reader → Option (Text × Nat × Reader)
  | 0, _, _ => none
  | fuel + 1, widest, r =>
    let inside (r : Reader) := indent.all fun n => decide (r.column < n)
    let spaces := (r.run (· == ' ')).length
    let r := r.skip (match indent with
      | some n => min spaces (n - r.column)
      | none => spaces)
    let widest := max widest r.column
    if inside r && r.sees 0 '\t' then none
    else if r.meets 0 isBreak then
      (blockBreaks indent fuel widest r.skipLine).map fun (breaks, widest, after) =>
        (r.lineBreak ++ breaks, widest, after)
    else some ([], widest, r)

/-- The lines of a block scalar. `first` is the break before this line, `others` the empty lines after
that break, `blank` whether the line before began with a blank. -/
def blockLines (literal : Bool) (chomping : Chomping) (indent : Nat) :
    Nat → (first others : Text) → (blank : Bool) → Reader → Option (Text × Reader)
  | 0, _, _, _, _ => none
  | fuel + 1, first, others, blank, r =>
    if r.column = indent ∧ r.atEnd = false then
      let nowBlank := r.meets 0 isSpace
      let lead :=
        if !literal && first.head? == some '\n' && !blank && !nowBlank then
          if others.isEmpty then [' '] else []
        else first
      let text := r.run fun c => !isBreak c
      let ended := r.skipRun fun c => !isBreak c
      (blockBreaks (some indent) (ended.rest.length + 1) 0 ended.skipLine).bind fun (breaks, _, next) =>
        (blockLines literal chomping indent fuel ended.lineBreak breaks nowBlank next).map
          fun (more, r) => (lead ++ others ++ text ++ more, r)
    else
      some (match chomping with
        | .strip => []
        | .clip => first
        | .keep => first ++ others, r)

/-- A block scalar after its indicator, inside a block of indentation `outer`. -/
def blockScalar (literal : Bool) (outer : Int) (r : Reader) : Option (Text × Reader) :=
  (blockHeader r).bind fun (chomping, given, r) =>
    let r := r.skipComment
    if r.atLineEnd 0 = false then none
    else
      let r := r.skipLine
      let indent := given.map fun n => if 0 ≤ outer then outer.toNat + n else n
      (blockBreaks indent (r.rest.length + 1) 0 r).bind fun (breaks, widest, next) =>
        let indent := indent.getD (max widest (max (outer + 1).toNat 1))
        blockLines literal chomping indent (next.rest.length + 1) [] breaks false next

end ClassNav.Yaml
