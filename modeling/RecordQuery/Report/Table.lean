import RecordQuery.Text.Columns
import RecordQuery.Text.Pieces

/-!
# Tables

A table of texts in a frame of lines. A column is as wide as its widest line, at
least one; every cell has a blank on either side and is filled up on the right. A row
is as high as its highest cell. A double line stands under the head, and a dashed
one between neighbouring rows.
-/

namespace RecordQuery.Report

/-- A head and rows of cells, each row with a cell for every column of the head. -/
structure Table where
  /-- The titles of the columns. -/
  head : List String
  /-- The rows. -/
  rows : List (List String)

namespace Table

/-- The lines of a cell. -/
def cellLines (cell : String) : List String :=
  (Text.pieces (· == '\n') cell.toList).map String.ofList

/-- The columns of the screen that a cell needs. -/
def cellWidth (cell : String) : Nat :=
  ((cellLines cell).map Text.displayWidth).foldl max 1

/-- The widths of the columns of a table, from the head and every row. -/
def widths (table : Table) : List Nat :=
  table.rows.foldl (fun widths row => List.zipWith max widths (row.map cellWidth))
    (table.head.map cellWidth)

/-! ### Lines -/

/-- How a line of the frame is drawn. -/
structure Rule where
  /-- The left end. -/
  left : Char
  /-- What the line is made of. -/
  fill : Char
  /-- Where a line between columns meets it. -/
  cross : Char
  /-- The right end. -/
  right : Char

/-- The line above the head. -/
def topRule : Rule := ⟨'┌', '─', '┬', '┐'⟩

/-- The line under the head. -/
def headRule : Rule := ⟨'╞', '═', '╪', '╡'⟩

/-- The line between two rows. -/
def rowRule : Rule := ⟨'├', '╌', '┼', '┤'⟩

/-- The line under the last row. -/
def bottomRule : Rule := ⟨'└', '─', '┴', '┘'⟩

/-- A line of the frame. -/
def Rule.line (rule : Rule) (widths : List Nat) : List Char :=
  rule.left :: Text.join [rule.cross] (widths.map fun width =>
    List.replicate (width + 2) rule.fill) ++ [rule.right]

/-- A line of a cell between blanks, filled up to the width of its column. -/
def padded (width : Nat) (line : String) : List Char :=
  ' ' :: line.toList ++ List.replicate (width - Text.displayWidth line) ' ' ++ [' ']

/-- One line of a row, given the line of each of its cells. -/
def textLine (widths : List Nat) (lines : List String) : List Char :=
  '│' :: Text.join ['┆'] (List.zipWith padded widths lines) ++ ['│']

/-- The lines of a row: as many as its highest cell has. -/
def rowLines (widths : List Nat) (row : List String) : List (List Char) :=
  let cells := row.map cellLines
  let height := (cells.map List.length).foldl max 0
  (List.range height).map fun index =>
    textLine widths (cells.map fun lines => (lines[index]?).getD "")

/-- The lines of all rows, with a line of the frame between neighbours. -/
def bodyLines (widths : List Nat) : List (List String) → List (List Char)
  | [] => []
  | [row] => rowLines widths row
  | row :: next :: rows =>
    rowLines widths row ++ rowRule.line widths :: bodyLines widths (next :: rows)

/-- **The lines of a table.** -/
def lines (table : Table) : List (List Char) :=
  let widths := table.widths
  topRule.line widths :: rowLines widths table.head ++
    headRule.line widths :: bodyLines widths table.rows ++ [bottomRule.line widths]

/-- The table as a text, without a line feed at its end. -/
def text (table : Table) : String :=
  String.ofList (Text.join ['\n'] table.lines)

end Table

end RecordQuery.Report
