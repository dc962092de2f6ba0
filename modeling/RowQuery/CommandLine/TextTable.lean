import RowQuery.Text.Split
import RowQuery.Text.Width

/-!
Tables in text, drawn with hyphens, bars and plus signs. A column is as wide as its widest line, and
at least one wide; a cell stands at the left of its column with a space on both sides, and a line
break in a cell begins another line of the row.
-/

namespace RowQuery.CommandLine

/-- The lines of a cell. -/
abbrev CellLines : Type := List (List Char)

/-- The lines of a text. -/
def cellLines (s : String) : CellLines := Text.splitOn '\n' s.toList

/-- A table in text: the names of the columns, and the rows, each with one cell for each column. -/
structure TextTable where
  header : List String
  rows : List (List String)

namespace TextTable

/-- The greatest number of columns that a line of the cell takes, and at least one. -/
def cellWidth (cell : CellLines) : Nat := (cell.map Text.width).foldl max 1

/-- The widths of the columns, where each row has one cell for each column. -/
def widths (rows : List (List CellLines)) : List Nat :=
  rows.foldl (fun ws row => List.zipWith max ws (row.map cellWidth))
    (((rows.head?).getD []).map cellWidth)

/-- A line of a cell as wide as its column, with a space on both sides. -/
def padLine (width : Nat) (line : List Char) : List Char :=
  ' ' :: (line ++ List.replicate (width - Text.width line) ' ' ++ [' '])

/-- The pieces between two bars, with bars between them. -/
def barred (pieces : List (List Char)) : List Char := '|' :: (Text.joinWith '|' pieces ++ ['|'])

/-- A row: as many lines as its highest cell has. -/
def rowLines (ws : List Nat) (row : List CellLines) : List (List Char) :=
  let height := (row.map List.length).foldl max 0
  (List.range height).map fun i =>
    barred (List.zipWith (fun w cell => padLine w ((cell[i]?).getD [])) ws row)

/-- A line across the table, with a character for each end and one for each crossing. -/
def rule (edge crossing fill : Char) (ws : List Nat) : List Char :=
  edge :: (Text.joinWith crossing (ws.map fun w => List.replicate (w + 2) fill) ++ [edge])

/-- The lines of the rows, with a line across the table between two rows. -/
def bodyLines (ws : List Nat) : List (List CellLines) → List (List Char)
  | [] => []
  | [row] => rowLines ws row
  | row :: rest => rowLines ws row ++ rule '|' '+' '-' ws :: bodyLines ws rest

/-- The lines of the table. -/
def lines (t : TextTable) : List (List Char) :=
  let header := t.header.map cellLines
  let rows := t.rows.map (·.map cellLines)
  let ws := widths (header :: rows)
  rule '+' '+' '-' ws :: rowLines ws header ++ rule '+' '=' '=' ws :: bodyLines ws rows
    ++ [rule '+' '+' '-' ws]

/-- The text of the table. -/
def text (t : TextTable) : String := String.ofList (Text.joinWith '\n' t.lines)

end TextTable

end RowQuery.CommandLine
