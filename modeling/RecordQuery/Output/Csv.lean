import RecordQuery.Row

/-!
# Rows as comma-separated values

A header with the columns of all rows, then a line for each row. A cell that a row lacks, and one
with the absent value, is empty.

* `Csv.quoteCell`: a cell with a comma, a quote or a line break stands in quotes, and quotes within
  are doubled.
* `Csv.format`: the text of rows; no rows have none.
-/

namespace RecordQuery.Csv

def needsQuotes (cell : List Char) : Bool :=
  cell.any fun c => c == ',' || c == '"' || c == '\n'

def doubleQuotes (cell : List Char) : List Char :=
  cell.flatMap fun c => if c == '"' then ['"', '"'] else [c]

/-- A cell as it is written. -/
def quoteCell (cell : List Char) : List Char :=
  if needsQuotes cell then '"' :: doubleQuotes cell ++ ['"'] else cell

/-- The text of a cell before quoting. -/
def cellText : Option Value → List Char
  | none | some .nil => []
  | some value => value.cellText

def cells (columns : List String) (row : Row) : List (List Char) :=
  columns.map fun column => cellText (row.get? column)

def line (cells : List (List Char)) : List Char :=
  List.intercalate [','] (cells.map quoteCell)

def grid (rows : List Row) : List (List (List Char)) :=
  let columns := columnUnion rows
  columns.map String.toList :: rows.map (cells columns)

def format (rows : List Row) : List Char :=
  if rows.isEmpty then [] else List.intercalate ['\n'] ((grid rows).map line)

end RecordQuery.Csv
