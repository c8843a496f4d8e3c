import RecordQuery.Store.Client

/-!
# Stores with faults

`FaultyStore` is a store in memory that fails where it is told to and logs its calls.

* A failing call of `Faults.calls` is refused before it is logged.
* A key of `Faults.vanished` answers a deletion as if it were not there, without a log entry.
* A key of `Faults.stuck` times out when it is deleted.
* `Faults.queryLimit` breaks off every query after that many records.
-/

namespace RecordQuery

inductive CallKind where
  | query
  | get
  | put
  | delete
  | scan
  | truncate
  | catalogue
deriving DecidableEq, Repr

/-- The faults of a store. -/
structure Faults where
  calls : CallKind → Option Error := fun _ => none
  vanished : List String := []
  stuck : List String := []
  queryLimit : Option Nat := none

namespace Faults

/-- The faults with one more failing call. -/
def fail (faults : Faults) (kind : CallKind) (e : Error) : Faults :=
  { faults with calls := fun other => if other = kind then some e else faults.calls other }

/-- The faults without failing calls and vanished keys. -/
def clear (faults : Faults) : Faults :=
  { faults with calls := fun _ => none, vanished := [] }

end Faults

/-- A store with its faults and the log of its calls. -/
structure FaultyStore where
  store : Store
  faults : Faults := {}
  log : List StoreCall := []

namespace FaultyStore

def guard (kind : CallKind) : StoreM FaultyStore Unit := do
  if let some e := (← get).faults.calls kind then throw e

def record (entry : StoreCall) : StoreM FaultyStore Unit :=
  modify fun faulty => { faulty with log := faulty.log ++ [entry] }

/-- An action on the store within. -/
def inner {α : Type} (action : StoreM Store α) : StoreM FaultyStore α :=
  ExceptT.mk fun faulty =>
    let (result, store) := action.run faulty.store
    (result, { faulty with store })

/-- An action on the store within, unless its call is told to fail, and logged. -/
def logged {α : Type} (kind : CallKind) (entry : StoreCall) (action : StoreM Store α) :
    StoreM FaultyStore α := do
  guard kind
  record entry
  inner action

/-- The items of a query that breaks off after a number of them. -/
def breakOff (items : List (Except Error Record)) : Option Nat → List (Except Error Record)
  | none => items
  | some limit => items.take limit ++ [.error (.store "Connection reset by peer")]

def client : StoreClient FaultyStore where
  isConnected faulty := faulty.store.connected
  query query := do
    let items ← logged .query .query (Store.client.query query)
    return breakOff items (← get).faults.queryLimit
  get key bins := logged .get (.get key.user) (Store.client.get key bins)
  put key bins := logged .put (.put key.user) (Store.client.put key bins)
  delete key := do
    guard .delete
    if (← get).faults.vanished.contains key.user then return false
    record (.delete key.user)
    if (← get).faults.stuck.contains key.user then throw (.store "Timeout")
    inner (Store.client.delete key)
  scan space set := logged .scan .scan (Store.client.scan space set)
  truncate target := logged .truncate .truncate (Store.client.truncate target)
  catalogue := logged .catalogue .catalogue Store.client.catalogue

end FaultyStore

end RecordQuery
