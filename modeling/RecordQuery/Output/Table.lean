import RecordQuery.Row
import RecordQuery.Text.Width

/-!
# Rows as a table

A box with a header and one row of cells for each row. Columns are as wide as their widest line,
cells are left-aligned with one column of padding on both sides, and a cell with line breaks takes
one line more than it has breaks.
-/

namespace RecordQuery.Table

/-- The lines of a cell. Every line break begins a line, also one at the end. -/
def cellLines (cell : List Char) : List (List Char) :=
  cell.splitOn '\n'

def cellText : Option Value → List Char
  | none => []
  | some value => value.cellText

/-- The width of a column with the given cells. It is at least one. -/
def columnWidth (cells : List (List Char)) : Nat :=
  (cells.flatMap cellLines).foldl (fun widest line => max widest (Text.width line)) 1

/-- The cells of a grid column by column. -/
def columnsOf (count : Nat) (grid : List (List (List Char))) : List (List (List Char)) :=
  (List.range count).map fun i => grid.filterMap fun row => row[i]?

/-- A line of a cell, padded to the width of its column. -/
def padded (width : Nat) (text : List Char) : List Char :=
  ' ' :: text ++ List.replicate (width - Text.width text) ' ' ++ [' ']

def rowLines (widths : List Nat) (cells : List (List Char)) : List (List Char) :=
  let parts := cells.map cellLines
  let height := parts.foldl (fun height lines => max height lines.length) 0
  (List.range height).map fun i =>
    let texts := List.zipWith (fun width lines => padded width (lines[i]?.getD [])) widths parts
    '│' :: List.intercalate ['┆'] texts ++ ['│']

def rule (left fill crossing right : Char) (widths : List Nat) : List Char :=
  let lines := widths.map fun width => List.replicate (width + 2) fill
  left :: List.intercalate [crossing] lines ++ [right]

/-- The rows of a table with a rule between neighbours. -/
def body (widths : List Nat) : List (List (List Char)) → List (List Char)
  | [] => []
  | [cells] => rowLines widths cells
  | cells :: next :: others =>
    rowLines widths cells ++ rule '├' '╌' '┼' '┤' widths :: body widths (next :: others)

def format (rows : List Row) : List Char :=
  if rows.isEmpty then "No records found".toList
  else
    let columns := columnUnion rows
    let header := columns.map String.toList
    let grid := rows.map fun row => columns.map fun column => cellText (row.get? column)
    let widths := (columnsOf columns.length (header :: grid)).map columnWidth
    List.intercalate ['\n'] <|
      [rule '┌' '─' '┬' '┐' widths] ++ rowLines widths header ++
        [rule '╞' '═' '╪' '╡' widths] ++ body widths grid ++ [rule '└' '─' '┴' '┘' widths]

end RecordQuery.Table
