import RecordQuery.Store

/-!
# Seeds

A seed is a JSON object of namespaces, each an object of sets, each an object of records, each an
object of bins. `Store.load` writes the records of a seed in ascending order of their addresses. At
the first entry that is not an object it stops, and what was written before stays.

A seed counts as written whether the store is connected or not.
-/

namespace RecordQuery

/-- An entry of a seed that is not an object. -/
inductive SeedError where
  | seed
  | space (name : String)
  | set (target : SetName)
  | record (key : RecordKey)
deriving DecidableEq, Repr

def SeedError.message : SeedError → String
  | seed => "seed must be an object of namespaces"
  | space name => "namespace '" ++ name ++ "' must map to an object of sets"
  | set target => "set '" ++ target.display ++ "' must map to an object of records"
  | record key => "record '" ++ key.display ++ "' must be an object of bins"

def SeedError.toError (e : SeedError) : Error :=
  .invalidArgument e.message

namespace Store

/-- Writes the records of a set. `count` records are written already. -/
def loadRecords (target : SetName) (store : Store) (count : Nat) :
    List (String × Json) → Except SeedError Nat × Store
  | [] => (.ok count, store)
  | (user, json) :: rest =>
    match Value.ofJson json with
    | .map bins =>
      loadRecords target (store.write (target.key user) (.ofList bins)) (count + 1) rest
    | _ => (.error (.record (target.key user)), store)

def loadSets (space : String) (store : Store) (count : Nat) :
    List (String × Json) → Except SeedError Nat × Store
  | [] => (.ok count, store)
  | (set, .object records) :: rest =>
    match loadRecords ⟨space, set⟩ store count records with
    | (.ok count, store) => loadSets space store count rest
    | failure => failure
  | (set, _) :: _ => (.error (.set ⟨space, set⟩), store)

/-- Writes the records of namespaces. A namespace is declared before its sets are looked at. -/
def loadSpaces (store : Store) (count : Nat) :
    List (String × Json) → Except SeedError Nat × Store
  | [] => (.ok count, store)
  | (space, .object sets) :: rest =>
    match loadSets space (store.declare space) count sets with
    | (.ok count, store) => loadSpaces store count rest
    | failure => failure
  | (space, _) :: _ => (.error (.space space), store.declare space)

/-- Loads a seed. The number is that of the records written. -/
def load (store : Store) : Json → Except SeedError Nat × Store
  | .object spaces => loadSpaces store 0 spaces
  | _ => (.error .seed, store)

end Store

end RecordQuery
