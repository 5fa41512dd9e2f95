import ClassNav.Document.Usage

/-!
Places looked up by byte offset. The index of a text holds where its lines begin; a search among these
gives the line of an offset, and only the part of that line before the offset is counted.
-/

namespace ClassNav

namespace Text

/-- Where the lines behind a line feed begin, in a text that itself begins at `offset`. -/
def lineStarts (offset : Nat) : Text → List Nat
  | [] => []
  | c :: r =>
    if c = '\n' then (offset + c.utf8Size) :: lineStarts (offset + c.utf8Size) r
    else lineStarts (offset + c.utf8Size) r

/-- The text between two byte offsets. There is none if they are out of order, past the end or inside a
character. -/
def slice? (t : Text) (first last : Nat) : Option Text :=
  if first ≤ last then
    (splitAt? t first).bind fun (_, rest) => (splitAt? rest (last - first)).map (·.1)
  else none

end Text

/-- A text and the byte offsets at which its lines begin. -/
structure LineIndex where
  text : Text
  starts : Array Nat
  deriving DecidableEq, Repr

namespace LineIndex

def of (text : Text) : LineIndex := ⟨text, (0 :: Text.lineStarts 0 text).toArray⟩

/-- Binary search from `low` up to `high`: the index of the key, or else the one to insert it at. -/
def search (starts : Array Nat) (key low high : Nat) (bound : high ≤ starts.size) : Except Nat Nat :=
  if h : low < high then
    let middle := low + (high - low) / 2
    have : middle < starts.size := by omega
    if starts[middle] = key then .ok middle
    else if starts[middle] < key then search starts key (middle + 1) high bound
    else search starts key low middle (by omega)
  else .error low
termination_by high - low

/-- The line that holds an offset, the last one that does not begin behind it. -/
def line? (index : LineIndex) (offset : Nat) : Option Nat :=
  match search index.starts offset 0 index.starts.size (Nat.le_refl _) with
  | .ok line => some line
  | .error 0 => none
  | .error (next + 1) => some next

/-- The place of a byte offset. There is none before the first line, and none where the text cannot be
cut. -/
def position? (index : LineIndex) (offset : Nat) : Option LineCol :=
  (index.line? offset).bind fun line =>
    index.starts[line]?.bind fun start =>
      (Text.slice? index.text start offset).map fun part => ⟨line, part.length⟩

end LineIndex

end ClassNav
