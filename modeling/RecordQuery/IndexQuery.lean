import RecordQuery.Statement

/-!
# Index queries

What a store is asked for: the records of a set, some of their bins, and a condition on one bin.
The index over numbers holds integers only, so the doubles of a statement are truncated to match.

* `IndexQuery.ofSelect`, `IndexQuery.ofDelete`: the query behind a statement.
* `BinFilter.display`: a condition as it is shown.
-/

namespace RecordQuery

inductive FilterValue where
  | str (text : String)
  | int (number : Int64)
  /-- The integer part of a double. -/
  | narrowedFloat (number : Int64)
deriving DecidableEq, Repr

namespace FilterValue

/-- What a literal is compared as. -/
def ofLiteral : Literal → FilterValue
  | .str text => str text
  | .int number => int number
  | .float number => narrowedFloat (Binary64.truncated number)

def asInt? : FilterValue → Option Int64
  | str _ => none
  | int number | narrowedFloat number => some number

end FilterValue

structure BinFilter where
  bin : String
  value : FilterValue
deriving DecidableEq, Repr

namespace BinFilter

def ofEquality (equality : Equality) : BinFilter :=
  { bin := equality.bin, value := .ofLiteral equality.value }

def display (filter : BinFilter) : String :=
  match filter.value with
  | .str text => filter.bin ++ " = '" ++ text ++ "'"
  | .int number | .narrowedFloat number =>
    filter.bin ++ " = " ++ String.ofList (Number.intText number.toInt)

/-- Whether bins satisfy a condition. A string matches only a string and an integer only an
integer. -/
def holds (filter : BinFilter) (bins : Bins) : Bool :=
  match bins.get? filter.bin, filter.value with
  | some (.str actual), .str wanted => actual == wanted
  | some (.int actual), .int wanted => actual == wanted
  | some (.int actual), .narrowedFloat wanted => actual == wanted
  | _, _ => false

end BinFilter

structure IndexQuery where
  target : SetName
  /-- The bins to return; all of them if there is no list. -/
  bins : Option (List String)
  filter : Option BinFilter
deriving DecidableEq, Repr

namespace IndexQuery

def ofSelect (statement : SelectStatement) : IndexQuery where
  target := statement.target
  bins := match statement.bins with
    | .all => none
    | .named names => some names
  filter := statement.predicate.map BinFilter.ofEquality

def ofDelete (statement : DeleteStatement) : IndexQuery where
  target := statement.target
  bins := none
  filter := some (BinFilter.ofEquality statement.predicate)

end IndexQuery

end RecordQuery
