import RecordQuery.Narrowing
import RecordQuery.Row
import RecordQuery.Statement.Grammar
import RecordQuery.Store.Client

/-!
# The executor

An executor runs statements and single operations on a store, through its client. Each operation is
an action on the state of the store.

* `Executor.execute`: reads a statement and runs it. What cannot be run is refused before any call.
* `Executor.select`, `insert`, `delete`, `update`: the four statements.
* `Executor.browse`, `deleteRecord`, `editBin`, `truncate`, `catalogue`: the other operations.

A failure of the store is reported with the name of the operation that met it.
-/

namespace RecordQuery

/-! ## Reports -/

structure DeleteReport where
  target : SetName
  bin : String
  value : String
  /-- The number of records that the condition holds of. -/
  matched : Nat
  /-- The number of records that were deleted. -/
  deleted : Nat
  /-- The keys that could not be deleted, each with the message of the store. -/
  failures : List (RecordKey × String)

namespace DeleteReport

def summary (report : DeleteReport) : String :=
  Nat.repr report.deleted ++ " records deleted from " ++
    report.target.display ++ " where " ++ report.bin ++ "='" ++ report.value ++ "'"

/-- A message for each key that could not be deleted. -/
def failureMessages (report : DeleteReport) : List String :=
  report.failures.map fun (key, message) => "Error deleting key " ++ key.user ++ ": " ++ message

end DeleteReport

structure UpdateReport where
  key : RecordKey
  /-- The values as they were written. -/
  written : Bins
  fallbacks : List TypeFallback

def UpdateReport.summary (report : UpdateReport) : String :=
  "Record updated: " ++ report.key.display

structure BinEdit where
  key : RecordKey
  bin : String
  /-- The name of the type of the value that was stored. -/
  storedAs : String
  fallback : Option TypeFallback

def BinEdit.summary (edit : BinEdit) : String :=
  "Record updated: " ++ edit.key.display ++ " (" ++ edit.bin ++ " as " ++ edit.storedAs ++ ")"

inductive Outcome where
  | rows (rows : List Row)
  /-- The key that was written, and whether it was made for the record. -/
  | inserted (key : RecordKey) (generated : Bool)
  | deleted (report : DeleteReport)
  | updated (report : UpdateReport)

/-! ## Actions -/

/-- The action with the name of an operation before the text of its error. -/
def StoreM.within {σ α : Type} (context : String) (action : StoreM σ α) : StoreM σ α :=
  action.adapt (Error.withContext context)

/-- The records of a stream up to its first failure, if it has one. -/
def collect : List (Except Error Record) → Except Error (List Record)
  | [] => .ok []
  | .error e :: _ => .error e
  | .ok record :: rest => (collect rest).map (record :: ·)

/-- An executor: a store, and whether updates keep the types of bins. -/
structure Executor (σ : Type) where
  client : StoreClient σ
  narrowUpdates : Bool := true

namespace Executor

variable {σ : Type} (executor : Executor σ)

/-- Refuses to go on without a connection. -/
def ensureConnected : StoreM σ Unit := do
  if !executor.client.isConnected (← get) then throw .notConnected

/-- All records of a query. A failure amid the stream discards what came before it. -/
def fetch (context : String) (query : IndexQuery) : StoreM σ (List Record) :=
  StoreM.within context do
    let stream ← executor.client.query query
    liftM (collect stream)

/-! ## Statements -/

def select (statement : SelectStatement) : StoreM σ (List Row) := do
  let records ← executor.fetch "AQL Query Error" (.ofSelect statement)
  return records.map Row.ofQueried

/-- Runs an insertion, with a key to fall back on, and yields the key that was written. -/
def insert (generated : String) (statement : InsertStatement) : StoreM σ RecordKey := do
  let write := statement.resolve generated
  StoreM.within "Error inserting record" (executor.client.put write.key write.bins)
  return write.key

/-- Deletes records one after the other. A failure is noted and the next record is tried. -/
def sweep (report : DeleteReport) : List RecordKey → StoreM σ DeleteReport
  | [] => return report
  | key :: rest => do
    let report ← tryCatch
      (do
        let existed ← executor.client.delete key
        return if existed then { report with deleted := report.deleted + 1 } else report)
      (fun e => return { report with failures := report.failures ++ [(key, e.message)] })
    sweep report rest

/-- Runs a deletion: first all records that the condition holds of are found, then they are deleted
in that order. -/
def delete (statement : DeleteStatement) : StoreM σ DeleteReport := do
  let records ← executor.fetch "Error scanning for delete" (.ofDelete statement)
  let report :=
    { target := statement.target
      bin := statement.predicate.bin
      value := statement.predicate.value.text
      matched := records.length
      deleted := 0
      failures := [] }
  executor.sweep report (records.map Record.key)

/-- The assignments of an update, narrowed to the types of the existing bins. -/
def narrowAll (assignments : SortedMap Assignment) (existing : Bins) : SortedMap Narrowed :=
  assignments.mapValues fun bin assignment => narrowAssignment bin assignment (existing.get? bin)

def update (statement : UpdateStatement) : StoreM σ UpdateReport := do
  let key := statement.key
  let context := "Error updating record"
  let existing ←
    if executor.narrowUpdates then
      let record ← StoreM.within context (executor.client.get key (some statement.binNames))
      pure ((record.map Record.bins).getD .empty)
    else pure .empty
  let narrowed := narrowAll statement.assignments existing
  let written := narrowed.mapValues fun _ narrowed => narrowed.value
  StoreM.within context (executor.client.put key written)
  return { key, written, fallbacks := narrowed.values.filterMap Narrowed.fallback }

def run (generated : String) : Statement → StoreM σ Outcome
  | .select statement => Outcome.rows <$> executor.select statement
  | .insert statement =>
    (Outcome.inserted · statement.explicitKey?.isNone) <$> executor.insert generated statement
  | .delete statement => Outcome.deleted <$> executor.delete statement
  | .update statement => Outcome.updated <$> executor.update statement

/-- Reads a statement and runs it, with a key to fall back on for an insertion. -/
def execute (generated : String) (text : List Char) : StoreM σ Outcome := do
  if Text.allBlank text then throw .emptyQuery
  executor.ensureConnected
  let statement ← liftM (Statement.parse text)
  executor.run generated statement

/-- Whether a run of a text comes to fall back on a key: the text is not refused, and it is an
insertion that gives no key. -/
def draws (text : List Char) (s : σ) : Bool :=
  executor.client.isConnected s &&
    match Statement.parse text with
    | .ok (.insert statement) => statement.explicitKey?.isNone
    | _ => false

/-! ## Single operations -/

def browse (space : String) (set : Option String) : StoreM σ (List Row) := do
  executor.ensureConnected
  let records ← StoreM.within "Error during scan" (executor.client.scan space set)
  return records.map Row.ofScanned

/-- Deletes a record and tells whether it was there. -/
def deleteRecord (key : RecordKey) : StoreM σ Bool := do
  executor.ensureConnected
  StoreM.within "Error during deletion" (executor.client.delete key)

/-- Overwrites one bin by a text, which keeps the type of the bin where it can. -/
def editBin (key : RecordKey) (bin raw : String) : StoreM σ BinEdit := do
  executor.ensureConnected
  let context := "Error during update"
  let record ← StoreM.within context (executor.client.get key (some [bin]))
  let narrowed := narrowRaw bin raw (record.bind fun record => record.bins.get? bin)
  StoreM.within context (executor.client.put key (.ofList [(bin, narrowed.value)]))
  return { key, bin, storedAs := narrowed.value.typeName, fallback := narrowed.fallback }

def truncate (target : SetName) : StoreM σ Unit := do
  executor.ensureConnected
  StoreM.within "Error deleting set" (executor.client.truncate target)

def catalogue : StoreM σ Catalogue := do
  executor.ensureConnected
  StoreM.within "Error retrieving namespaces and sets" executor.client.catalogue

end Executor

end RecordQuery
