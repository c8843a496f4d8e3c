import RecordQuery.Output.Csv
import RecordQuery.Output.Table
import RecordQuery.Request

/-!
# Output

* `OutputFormat`: the formats for rows, and `renderRows`, the text of rows in one of them.
* `Emission`: a piece of what a program prints.
* `emit`: what is printed for the deliveries of a request.
-/

namespace RecordQuery

inductive OutputFormat where
  | table
  | json
  | jsonl
  | csv
deriving DecidableEq, Repr

namespace OutputFormat

def display : OutputFormat → String
  | table => "Table"
  | json => "Json"
  | jsonl => "Jsonl"
  | csv => "Csv"

def ofName? (name : String) : Option OutputFormat :=
  if name = "table" then some table
  else if name = "json" then some json
  else if name = "jsonl" then some jsonl
  else if name = "csv" then some csv
  else none

/-- The format of a name, whatever the case of its letters. -/
def parse? (name : List Char) : Option OutputFormat :=
  ofName? (String.ofList (name.map Char.toLower))

end OutputFormat

def renderRows (rows : List Row) : OutputFormat → List Char
  | .table => Table.format rows
  | .json => (Json.array (rows.map Row.toJson)).pretty
  | .jsonl => List.intercalate ['\n'] (rows.map fun row => row.toJson.compact)
  | .csv => Csv.format rows

/-! ## Printing -/

/-- A piece of what a program prints. -/
inductive Emission where
  /-- Text on the standard output. -/
  | out (text : String)
  /-- Text on the standard error. -/
  | err (text : String)
  /-- A line with the time that the last request took. -/
  | elapsed
deriving DecidableEq, Repr

def Emission.line (text : String) : Emission :=
  out (text ++ "\n")

/-- A number and a noun, which has an `s` unless the number is one. -/
def counted (n : Nat) (noun : String) : String :=
  Nat.repr n ++ " " ++ noun ++ (if n = 1 then "" else "s")

/-- What is printed for a delivery. Only tables tell the number of their rows. -/
def Delivery.emit (format : OutputFormat) : Delivery → List Emission
  | rows found =>
    .line (String.ofList (renderRows found format)) ::
      if format = .table ∧ !found.isEmpty then [.line (counted found.length "row")] else []
  | status message => [.line message]
  | error message => [.err ("Error: " ++ message ++ "\n")]

def emit (format : OutputFormat) (deliveries : List Delivery) : List Emission :=
  deliveries.flatMap (Delivery.emit format)

end RecordQuery
