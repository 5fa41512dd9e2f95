import ClassNav.Text.Trim

/-!
Tables without rules. A cell has a blank on each side, a column is as wide as its widest cell, and
blanks at the end of a line are dropped. Widths count characters.
-/

namespace ClassNav.Terminal

structure Column where
  title : Text
  alignRight : Bool
  /-- The least width, with the blanks at both sides. -/
  least : Nat
  deriving DecidableEq, Repr

namespace Table

/-- The lines of a cell. -/
def cellLines (cell : Text) : List Text := Text.lines cell

def cellWidth (cell : Text) : Nat := ((cellLines cell).map List.length).foldl max 0

/-- The width of a column's text. -/
def width (c : Column) (cells : List Text) : Nat :=
  ((c.title :: cells).map cellWidth).foldl max (c.least - 2)

def pad (c : Column) (width : Nat) (t : Text) : Text :=
  let fill := List.replicate (width - t.length) ' '
  ' ' :: (if c.alignRight then fill ++ t else t ++ fill) ++ [' ']

/-- The lines of one row, as many as its highest cell has. -/
def rowLines (columns : List (Column × Nat)) (cells : List Text) : List Text :=
  let height := (cells.map fun cell => (cellLines cell).length).foldl max 0
  (List.range height).map fun i =>
    Text.trimEnd <| (columns.zip cells).flatMap fun ((column, width), cell) =>
      pad column width ((cellLines cell)[i]?.getD [])

/-- The table's lines, titles first. -/
def lines (columns : List Column) (rows : List (List Text)) : List Text :=
  let sized := columns.zipIdx.map fun (column, i) =>
    (column, width column (rows.map fun row => row[i]?.getD []))
  rowLines sized (columns.map Column.title) ++ rows.flatMap (rowLines sized)

/-- The table's text; nothing at all if there are no rows. -/
def render (columns : List Column) (rows : List (List Text)) : Text :=
  if rows.isEmpty then [] else Text.joinWith ['\n'] (lines columns rows)

end Table

end ClassNav.Terminal
