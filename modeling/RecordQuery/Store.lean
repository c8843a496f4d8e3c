import RecordQuery.IndexQuery
import RecordQuery.Record
import RecordQuery.Settings

/-!
# The store in memory

A store holds the records of its sets by namespace, set and key. It declares the namespaces and
the sets that it has seen, so a set whose records are all deleted is still listed.

* `Store.write`, `Store.remove`, `Store.dropSet`: changes, whether connected or not.
* `Store.find?`, `Store.recordsOf`, `Store.matching`, `Store.scan`, `Store.catalogue`: what a store
  holds, in ascending order of namespaces, sets and keys.
-/

namespace RecordQuery

abbrev Records := SortedMap Record

abbrev Sets := SortedMap Records

abbrev Catalogue := SortedMap (List String)

/-- A store of records. -/
structure Store where
  spaces : SortedMap Sets
  connected : Bool
  settings : ClientSettings

namespace Store

/-- The connected store without records. -/
def empty (settings : ClientSettings) : Store :=
  { spaces := .empty, connected := true, settings }

def connect (settings : ClientSettings) : Except Error Store :=
  settings.validated.map empty

/-! ## Contents -/

def setsOf (store : Store) (space : String) : Sets :=
  (store.spaces.get? space).getD .empty

/-- The records of a set, in ascending order of keys. -/
def recordsOf (store : Store) (target : SetName) : Records :=
  ((store.setsOf target.space).get? target.set).getD .empty

def find? (store : Store) (key : RecordKey) : Option Record :=
  (store.recordsOf key.target).get? key.user

/-- The records that a query is about, with the bins that it asks for. The condition is decided on
all bins of a record. -/
def matching (store : Store) (query : IndexQuery) : List Record :=
  ((store.recordsOf query.target).values.filter fun record =>
    query.filter.all fun filter => filter.holds record.bins).map fun record =>
      record.project query.bins

/-- The records of a namespace, or of one of its sets. -/
def scan (store : Store) (space : String) (set : Option String) : List Record :=
  ((store.setsOf space).filter fun name _ => set.all (· = name)).values.flatMap SortedMap.values

def catalogue (store : Store) : Catalogue :=
  store.spaces.mapValues fun _ sets => sets.keys

def records (store : Store) : List Record :=
  store.spaces.values.flatMap fun sets => sets.values.flatMap SortedMap.values

def size (store : Store) : Nat :=
  store.records.length

/-! ## Changes -/

def declare (store : Store) (space : String) : Store :=
  { store with spaces := store.spaces.insert space (store.setsOf space) }

/-- The store with the records of a set replaced. -/
def withRecords (store : Store) (target : SetName) (records : Records) : Store :=
  { store with
    spaces := store.spaces.insert target.space
      ((store.setsOf target.space).insert target.set records) }

/-- The store after a write to a record, which comes to be if it is not there. -/
def write (store : Store) (key : RecordKey) (bins : Bins) : Store :=
  store.withRecords key.target
    ((store.recordsOf key.target).insert key.user
      (Record.written key bins store.settings.defaultTtl (store.find? key)))

/-- The store without a record. Its set stays declared. -/
def remove (store : Store) (key : RecordKey) : Store :=
  if (store.find? key).isSome then
    store.withRecords key.target ((store.recordsOf key.target).erase key.user)
  else store

/-- The store without a set. Its namespace stays declared. -/
def dropSet (store : Store) (target : SetName) : Store :=
  match store.spaces.get? target.space with
  | none => store
  | some sets => { store with spaces := store.spaces.insert target.space (sets.erase target.set) }

end Store

end RecordQuery
