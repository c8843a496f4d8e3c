import RecordQuery.Proofs.Store.Contents

/-!
# What happens to a store, change by change

Whatever happens to a store comes down to a row of changes.

* `StoreChange`, `Store.apply`: a declaration, a write, a removal or the loss of a set.
* `Seed.steps`: the entries of a seed in the order in which they are met, each a change or the error
  that it is. `Store.load_eq`: a seed makes the changes before its first error.
* `StoreEvent.changes`, `Store.foldl_step_eq`: the changes that a run of events makes.
-/

namespace RecordQuery

/-- A change of what a store holds. -/
inductive StoreChange where
  | declare (space : String)
  | write (key : RecordKey) (bins : Bins)
  | remove (key : RecordKey)
  | dropSet (target : SetName)

def StoreChange.isWrite : StoreChange → Bool
  | write _ _ => true
  | _ => false

def Store.apply (store : Store) : StoreChange → Store
  | .declare space => store.declare space
  | .write key bins => store.write key bins
  | .remove key => store.remove key
  | .dropSet target => store.dropSet target

/-! ## Seeds -/

/-- An entry of a seed: the change that it makes, or the error that it is. -/
abbrev SeedStep := Except SeedError StoreChange

namespace Seed

def recordStep (key : RecordKey) (json : Json) : SeedStep :=
  match Value.ofJson json with
  | .map bins => .ok (.write key (.ofList bins))
  | _ => .error (.record key)

def recordSteps (target : SetName) (records : List (String × Json)) : List SeedStep :=
  records.map fun e => recordStep (target.key e.1) e.2

def setStep (target : SetName) : Json → List SeedStep
  | .object records => recordSteps target records
  | _ => [.error (.set target)]

def setSteps (space : String) (sets : List (String × Json)) : List SeedStep :=
  sets.flatMap fun e => setStep ⟨space, e.1⟩ e.2

def spaceStep (space : String) : Json → List SeedStep
  | .object sets => .ok (.declare space) :: setSteps space sets
  | _ => [.ok (.declare space), .error (.space space)]

def spaceSteps (spaces : List (String × Json)) : List SeedStep :=
  spaces.flatMap fun e => spaceStep e.1 e.2

def steps : Json → List SeedStep
  | .object spaces => spaceSteps spaces
  | _ => [.error .seed]

/-- The changes before the first error. -/
def changesOf : List SeedStep → List StoreChange
  | .ok change :: rest => change :: changesOf rest
  | _ => []

def changes (seed : Json) : List StoreChange :=
  changesOf (steps seed)

/-- The number of records written, or the first error. -/
def outcome (steps : List SeedStep) : Except SeedError Nat :=
  (steps.mapM id).map fun changes => changes.countP StoreChange.isWrite

end Seed

namespace Store

/-- The store after the entries of a seed up to the first error. `count` records are written
already. -/
def carryOut (store : Store) (count : Nat) : List SeedStep → Except SeedError Nat × Store
  | [] => (.ok count, store)
  | .error e :: _ => (.error e, store)
  | .ok change :: rest =>
    (store.apply change).carryOut (if change.isWrite then count + 1 else count) rest

theorem carryOut_append (store : Store) (count : Nat) (steps rest : List SeedStep) :
    store.carryOut count (steps ++ rest) =
      match store.carryOut count steps with
      | (.ok count, store) => store.carryOut count rest
      | failure => failure := by
  induction steps generalizing store count with
  | nil => rfl
  | cons step steps ih =>
    cases step with
    | error e => rfl
    | ok change => exact ih _ _

theorem carryOut_eq (store : Store) (count : Nat) (steps : List SeedStep) :
    store.carryOut count steps =
      ((Seed.outcome steps).map (count + ·), (Seed.changesOf steps).foldl apply store) := by
  induction steps generalizing store count with
  | nil => rfl
  | cons step steps ih =>
    cases step with
    | error e => rfl
    | ok change =>
      rw [carryOut, ih, Seed.changesOf, List.foldl_cons]
      congr 1
      unfold Seed.outcome
      rw [List.mapM_cons]
      cases hsteps : steps.mapM id with
      | error e => rfl
      | ok changes =>
        show Except.ok (_ + changes.countP _) = Except.ok (_ + (change :: changes).countP _)
        rw [List.countP_cons]
        split
        · rw [Nat.add_assoc, Nat.add_comm 1]
        · rfl

theorem loadRecords_eq (target : SetName) (records : List (String × Json)) (store : Store)
    (count : Nat) :
    loadRecords target store count records =
      store.carryOut count (Seed.recordSteps target records) := by
  induction records generalizing store count with
  | nil => rfl
  | cons head rest ih =>
    obtain ⟨user, json⟩ := head
    unfold loadRecords Seed.recordSteps
    rw [List.map_cons]
    unfold Seed.recordStep
    cases Value.ofJson json with
    | map bins => exact ih _ _
    | _ => simp only [carryOut]

theorem loadSets_eq (space : String) (sets : List (String × Json)) (store : Store) (count : Nat) :
    loadSets space store count sets = store.carryOut count (Seed.setSteps space sets) := by
  induction sets generalizing store count with
  | nil => rfl
  | cons head rest ih =>
    obtain ⟨set, json⟩ := head
    cases json with
    | object records =>
      have hsteps : Seed.setSteps space ((set, .object records) :: rest) =
          Seed.recordSteps ⟨space, set⟩ records ++ Seed.setSteps space rest := rfl
      rw [hsteps, carryOut_append, ← loadRecords_eq, loadSets]
      generalize loadRecords ⟨space, set⟩ store count records = result
      obtain ⟨r, store'⟩ := result
      cases r with
      | error e => rfl
      | ok count' => exact ih store' count'
    | _ => rfl

theorem loadSpaces_eq (spaces : List (String × Json)) (store : Store) (count : Nat) :
    loadSpaces store count spaces = store.carryOut count (Seed.spaceSteps spaces) := by
  induction spaces generalizing store count with
  | nil => rfl
  | cons head rest ih =>
    obtain ⟨space, json⟩ := head
    cases json with
    | object sets =>
      have hsets := loadSets_eq space sets (store.declare space) count
      have hsteps : store.carryOut count (Seed.spaceSteps ((space, .object sets) :: rest)) =
          (store.declare space).carryOut count
            (Seed.setSteps space sets ++ Seed.spaceSteps rest) := rfl
      rw [hsteps, carryOut_append, ← hsets, loadSpaces]
      generalize loadSets space (store.declare space) count sets = result
      obtain ⟨r, store'⟩ := result
      cases r with
      | error e => rfl
      | ok count' => exact ih store' count'
    | _ => rfl

/-- **A seed makes the changes before its first error.** Without an error it counts the records. -/
theorem load_eq (store : Store) (seed : Json) :
    store.load seed = (Seed.outcome (Seed.steps seed), (Seed.changes seed).foldl apply store) := by
  cases seed with
  | object spaces =>
    show loadSpaces store 0 spaces = _
    have hcount : (Seed.outcome (Seed.spaceSteps spaces)).map (0 + ·) =
        Seed.outcome (Seed.steps (.object spaces)) := by
      simp only [Seed.steps, Nat.zero_add]
      exact congrFun Except.map_id _
    rw [loadSpaces_eq, carryOut_eq, hcount]
    rfl
  | _ => rfl

/-! ## Events -/

@[simp] theorem connected_apply (store : Store) (change : StoreChange) :
    (store.apply change).connected = store.connected := by
  cases change with
  | remove key => exact connected_remove store key
  | dropSet target =>
    simp only [apply, dropSet]
    split <;> rfl
  | _ => rfl

@[simp] theorem settings_apply (store : Store) (change : StoreChange) :
    (store.apply change).settings = store.settings := by
  cases change with
  | remove key =>
    simp only [apply, remove]
    split <;> rfl
  | dropSet target =>
    simp only [apply, dropSet]
    split <;> rfl
  | _ => rfl

theorem apply_connected (store : Store) (connected : Bool) (change : StoreChange) :
    { store with connected }.apply change = { store.apply change with connected } := by
  cases change with
  | remove key =>
    have hfind : Store.find? { store with connected } key = store.find? key := rfl
    simp only [apply, remove, hfind]
    split <;> rfl
  | dropSet target =>
    simp only [apply, dropSet]
    split <;> rfl
  | _ => rfl

theorem foldl_apply_connected (store : Store) (connected : Bool) (changes : List StoreChange) :
    changes.foldl apply { store with connected } =
      { changes.foldl apply store with connected } := by
  induction changes generalizing store with
  | nil => rfl
  | cons change rest ih => rw [List.foldl_cons, apply_connected, ih, List.foldl_cons]

theorem connected_foldl_apply (store : Store) (changes : List StoreChange) :
    (changes.foldl apply store).connected = store.connected := by
  induction changes generalizing store with
  | nil => rfl
  | cons change rest ih => rw [List.foldl_cons, ih, connected_apply]

theorem settings_foldl_apply (store : Store) (changes : List StoreChange) :
    (changes.foldl apply store).settings = store.settings := by
  induction changes generalizing store with
  | nil => rfl
  | cons change rest ih => rw [List.foldl_cons, ih, settings_apply]

end Store

namespace StoreEvent

/-- The changes that an event makes. Calls have an effect only while there is a connection; a seed
is loaded and a namespace declared without one as well. -/
def changes (connected : Bool) : StoreEvent → List StoreChange
  | put key bins => if connected then [.write key bins] else []
  | delete key => if connected then [.remove key] else []
  | truncate target => if connected then [.dropSet target] else []
  | declare space => [.declare space]
  | load seed => Seed.changes seed
  | setConnected _ => []

def connectedAfter (connected : Bool) : StoreEvent → Bool
  | setConnected connected => connected
  | _ => connected

/-- The changes that a run of events makes. -/
def changesOf (connected : Bool) : List StoreEvent → List StoreChange
  | [] => []
  | event :: rest => event.changes connected ++ changesOf (event.connectedAfter connected) rest

end StoreEvent

namespace Store

theorem step_eq (store : Store) (event : StoreEvent) :
    store.step event =
      { (event.changes store.connected).foldl apply store with
        connected := event.connectedAfter store.connected } := by
  cases event with
  | put key bins =>
    simp only [step, client, run_call, StoreEvent.changes, StoreEvent.connectedAfter]
    split <;> rfl
  | delete key =>
    simp only [step, client, run_call, StoreEvent.changes, StoreEvent.connectedAfter]
    split
    · rw [← connected_remove store key]
      rfl
    · rfl
  | truncate target =>
    simp only [step, client, run_call, StoreEvent.changes, StoreEvent.connectedAfter]
    split
    · rw [← connected_apply store (.dropSet target)]
      rfl
    · rfl
  | load seed =>
    simp only [step, StoreEvent.changes, StoreEvent.connectedAfter]
    rw [load_eq, ← connected_foldl_apply store (Seed.changes seed)]
  | _ => rfl

theorem foldl_step_eq (store : Store) (events : List StoreEvent) :
    events.foldl step store =
      { (StoreEvent.changesOf store.connected events).foldl apply store with
        connected := events.foldl StoreEvent.connectedAfter store.connected } := by
  induction events generalizing store with
  | nil => rfl
  | cons event rest ih =>
    rw [List.foldl_cons, ih, step_eq, foldl_apply_connected, StoreEvent.changesOf,
      List.foldl_append, List.foldl_cons]

end Store

end RecordQuery
