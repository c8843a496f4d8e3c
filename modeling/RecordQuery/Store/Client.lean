import RecordQuery.Store

/-!
# Store clients

`StoreClient σ` is what an executor needs of a store whose state is a `σ`: seven calls, each of
which may fail and may change the state either way, and the question whether it is connected.

* `StoreCall`: the calls by name, as they are logged.
* `Store.client`: the store in memory as a client. Disconnected it refuses every call.
-/

namespace RecordQuery

/-- An action on a state that yields a value or an error. The state after an error counts. -/
abbrev StoreM (σ : Type) := ExceptT Error (StateM σ)

inductive StoreCall where
  | query
  | get (user : String)
  | put (user : String)
  | delete (user : String)
  | scan
  | truncate
  | catalogue
deriving DecidableEq, Repr

def StoreCall.display : StoreCall → String
  | query => "query"
  | get user => "get:" ++ user
  | put user => "put:" ++ user
  | delete user => "delete:" ++ user
  | scan => "scan_all"
  | truncate => "truncate"
  | catalogue => "catalogue"

/-- The interface of a store. -/
structure StoreClient (σ : Type) where
  isConnected : σ → Bool
  /-- The records that a query is about, one by one; any of them may turn out a failure. -/
  query : IndexQuery → StoreM σ (List (Except Error Record))
  /-- A record with all bins or with the listed ones. -/
  get : RecordKey → Option (List String) → StoreM σ (Option Record)
  put : RecordKey → Bins → StoreM σ Unit
  /-- Deletes a record and tells whether it was there. -/
  delete : RecordKey → StoreM σ Bool
  scan : String → Option String → StoreM σ (List Record)
  truncate : SetName → StoreM σ Unit
  catalogue : StoreM σ Catalogue

namespace Store

/-- The action on a connected store that yields a value and the store after it. -/
def call {α : Type} (f : Store → α × Store) : StoreM Store α :=
  ExceptT.mk fun store =>
    if store.connected then
      let (a, store) := f store
      (.ok a, store)
    else (.error .notConnected, store)

def client : StoreClient Store where
  isConnected := connected
  query query := call fun store => ((store.matching query).map .ok, store)
  get key bins := call fun store => ((store.find? key).map fun record => record.project bins, store)
  put key bins := call fun store => ((), store.write key bins)
  delete key := call fun store => ((store.find? key).isSome, store.remove key)
  scan space set := call fun store => (store.scan space set, store)
  truncate target := call fun store => ((), store.dropSet target)
  catalogue := call fun store => (store.catalogue, store)

end Store

end RecordQuery
