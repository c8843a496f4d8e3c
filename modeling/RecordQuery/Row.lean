import RecordQuery.Record

/-!
# Rows

A row is what is shown of a record: its address, generation and time to live, and its bins. A bin
of the same name hides one of these.

* `Row.ofQueried`, `Row.ofScanned`: the row of a record, with its key and without.
* `columnUnion`: the columns of several rows.
-/

namespace RecordQuery

/-- The values of a row by column. -/
abbrev Row := SortedMap Value

/-- The columns that describe a record, in the order in which they are shown. -/
def metadataColumns : List String :=
  ["Namespace", "Set", "Key", "Generation", "TTL"]

namespace Row

/-- The row of a record without its key. -/
def ofScanned (record : Record) : Row :=
  (SortedMap.ofList [
    ("Namespace", Value.str record.key.space),
    ("Set", .str record.key.set),
    ("Generation", .int (Int64.ofNat record.generation.toNat)),
    ("TTL", .int record.ttlSeconds)]).insertMany record.bins.entries

def ofQueried (record : Record) : Row :=
  (SortedMap.ofList [
    ("Namespace", Value.str record.key.space),
    ("Set", .str record.key.set),
    ("Key", .str record.key.user),
    ("Generation", .int (Int64.ofNat record.generation.toNat)),
    ("TTL", .int record.ttlSeconds)]).insertMany record.bins.entries

def toJson (row : Row) : Json :=
  .object (Value.toJsonMembers row.entries)

end Row

/-- The columns of rows: first those that describe a record, then all others in ascending order. -/
def columnUnion (rows : List Row) : List String :=
  let present : SortedMap Unit :=
    .ofList (rows.flatMap fun row => row.keys.map fun name => (name, ()))
  metadataColumns.filter present.contains ++
    present.keys.filter fun name => !metadataColumns.contains name

end RecordQuery
