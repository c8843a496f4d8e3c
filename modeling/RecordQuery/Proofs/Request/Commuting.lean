import RecordQuery.Proofs.Executor.Inserting
import RecordQuery.Proofs.Executor.Operations
import RecordQuery.Proofs.Request.Running
import RecordQuery.Proofs.Store.Commuting

/-!
# Requests on different records

A request that writes a single record reads that record and makes one change of it.

* `Request.key?`: the record that a request writes.
* `Request.WritesOne`: whether what a request sends and the change that it makes follow from one
  record. `Request.writesOne_of_key?`: every request on a single record is one of these.
* `Request.run_comm`: two requests on different records can be run in either order.
-/

namespace RecordQuery

/-! ## Keys of insertions -/

namespace InsertStatement

variable {statement : InsertStatement} {user : String}

theorem key_resolve (h : statement.explicitKey? = some user) (generated : String) :
    (statement.resolve generated).key = statement.target.key user := by
  rw [resolve_of_explicitKey? h]
  rfl

theorem resolve_congr (h : statement.explicitKey? = some user) (generated generated' : String) :
    statement.resolve generated = statement.resolve generated' := by
  rw [resolve_of_explicitKey? h, resolve_of_explicitKey? h]

end InsertStatement

namespace Request

/-! ## Single records -/

/-- The record that a request writes, if it is an operation on one record, or a statement that is
read and gives the key of its one record. -/
def key? : Request → Option RecordKey
  | statement text =>
    match Statement.parse text.toList with
    | .ok (.insert insertion) => insertion.explicitKey?.map insertion.target.key
    | .ok (.update update) => some update.key
    | _ => none
  | deleteRecord key => some key
  | editBin key _ _ => some key
  | browse _ _ | truncate _ | catalogue => none

/-- A request that reads one record and makes one change of it. What it sends and what it changes
follow from the record, and it draws no key. -/
def WritesOne (executor : Executor Store) (request : Request) (key : RecordKey) : Prop :=
  ∃ effect : Option Record → List Message × StoreChange,
    (∀ before, (effect before).2.key? = some key) ∧
    ∀ (store : Store) (keys : KeySupply), store.connected = true →
      request.messages executor ⟨store, keys⟩ =
        ((effect (store.find? key)).1, ⟨store.apply (effect (store.find? key)).2, keys⟩)

variable {text : String} {key : RecordKey}

theorem writesOne_insert {insertion : InsertStatement} {user : String} (narrow : Bool)
    (hparse : Statement.parse text.toList = .ok (.insert insertion))
    (huser : insertion.explicitKey? = some user) :
    (statement text).WritesOne ⟨Store.client, narrow⟩ (insertion.target.key user) := by
  -- the bins do not depend on what the record was
  let write := insertion.resolve user
  refine ⟨fun _ => (Outcome.messages (.inserted write.key false), .write write.key write.bins),
    fun _ => congrArg some (insertion.key_resolve huser user), fun store keys hconnected => ?_⟩
  have hwrite : insertion.resolve keys.next = write := insertion.resolve_congr huser _ _
  have hgiven : insertion.explicitKey?.isNone = false := by simp [huser]
  have hdraws : (Executor.mk Store.client narrow).draws text.toList store = false := by
    simp [Executor.draws, hparse, hgiven]
  rw [messages_statement_of_draws hdraws]
  simp only [Executor.run_execute_insert hparse hconnected, hwrite, hgiven]
  rfl

theorem writesOne_update {update : UpdateStatement} (narrow : Bool)
    (hparse : Statement.parse text.toList = .ok (.update update)) :
    (statement text).WritesOne ⟨Store.client, narrow⟩ update.key := by
  let executor : Executor Store := ⟨Store.client, narrow⟩
  let oldOf (before : Option Record) (bin : String) : Option Value :=
    if narrow then before.bind fun record => record.bins.get? bin else none
  have hold : ∀ store : Store,
      executor.oldValues store update = oldOf (store.find? update.key) := by
    intro store
    funext bin
    cases narrow <;> rfl
  refine ⟨fun before => (Outcome.messages (.updated (update.reported (oldOf before))),
    .write update.key (update.written (oldOf before))), fun _ => rfl, fun store keys hconnected => ?_⟩
  have hexecute := executor.run_execute hparse (s := store) hconnected keys.next
  rw [Executor.run, StoreM.run_map, Executor.run_update hconnected, hold] at hexecute
  have hdraws : executor.draws text.toList store = false := by
    simp [Executor.draws, hparse]
  rw [messages_statement_of_draws hdraws, hexecute]
  rfl

theorem writesOne_deleteRecord (narrow : Bool) (key : RecordKey) :
    (deleteRecord key).WritesOne ⟨Store.client, narrow⟩ key := by
  refine ⟨fun before => (deletedMessages key before.isSome, .remove key), fun _ => rfl,
    fun store keys hconnected => ?_⟩
  simp only [messages, Workspace.act_eq, Executor.run_deleteRecord hconnected]
  rfl

theorem writesOne_editBin (narrow : Bool) (key : RecordKey) (bin raw : String) :
    (editBin key bin raw).WritesOne ⟨Store.client, narrow⟩ key := by
  let edited (before : Option Record) : Narrowed :=
    narrowRaw bin raw (before.bind fun record => record.bins.get? bin)
  let edit (before : Option Record) : BinEdit :=
    { key, bin, storedAs := (edited before).value.typeName, fallback := (edited before).fallback }
  refine ⟨fun before => (statusWithNotices (edit before).fallback.toList (edit before).summary,
    .write key (.ofList [(bin, (edited before).value)])), fun _ => rfl,
    fun store keys hconnected => ?_⟩
  simp only [messages, Workspace.act_eq, Executor.run_editBin hconnected]
  rfl

theorem writesOne_of_key? {request : Request} (narrow : Bool) (h : request.key? = some key) :
    request.WritesOne ⟨Store.client, narrow⟩ key := by
  cases request with
  | statement text =>
    simp only [key?] at h
    split at h
    next insertion hparse =>
      obtain ⟨user, huser, rfl⟩ := Option.map_eq_some_iff.1 h
      exact writesOne_insert narrow hparse huser
    next update hparse =>
      obtain rfl := Option.some.inj h
      exact writesOne_update narrow hparse
    next => cases h
  | deleteRecord other =>
    obtain rfl := Option.some.inj h
    exact writesOne_deleteRecord narrow other
  | editBin other bin raw =>
    obtain rfl := Option.some.inj h
    exact writesOne_editBin narrow other bin raw
  | browse space set => cases h
  | truncate target => cases h
  | catalogue => cases h

/-! ## Order -/

variable {request request' : Request} {key' : RecordKey}

/-- **Requests on different records can be run in either order.** Each delivers the same and the
store comes to be the same. Each record comes to be what its own request makes of it. -/
theorem run_comm (narrow : Bool) (h : request.key? = some key) (h' : request'.key? = some key')
    (hne : key ≠ key') {workspace : Workspace Store} (hconnected : workspace.store.connected = true) :
    let executor : Executor Store := ⟨Store.client, narrow⟩
    ∃ deliveries deliveries' after,
      runAll executor [request, request'] workspace = ([deliveries, deliveries'], after) ∧
      runAll executor [request', request] workspace = ([deliveries', deliveries], after) ∧
      after.keys = workspace.keys ∧
      deliveries = (request.run executor workspace).1 ∧
      deliveries' = (request'.run executor workspace).1 ∧
      after.store.find? key = (request.run executor workspace).2.store.find? key ∧
      after.store.find? key' = (request'.run executor workspace).2.store.find? key' := by
  intro executor
  obtain ⟨store, keys⟩ := workspace
  obtain ⟨effect, hkey, hrun⟩ := writesOne_of_key? narrow h
  obtain ⟨effect', hkey', hrun'⟩ := writesOne_of_key? narrow h'
  let change := (effect (store.find? key)).2
  let change' := (effect' (store.find? key')).2
  -- neither request finds its record changed by the other
  have hfind' : (store.apply change).find? key' = store.find? key' :=
    Store.find?_apply_of_ne (hkey _) hne
  have hfind : (store.apply change').find? key = store.find? key :=
    Store.find?_apply_of_ne (hkey' _) (Ne.symm hne)
  have hafter : (store.apply change').apply change = (store.apply change).apply change' :=
    (Store.apply_comm (hkey _) (hkey' _) hne).symm
  have honce := hrun store keys hconnected
  have honce' := hrun' store keys hconnected
  have htwice := hrun (store.apply change') keys ((Store.connected_apply ..).trans hconnected)
  have htwice' := hrun' (store.apply change) keys ((Store.connected_apply ..).trans hconnected)
  rw [hfind, hafter] at htwice
  rw [hfind'] at htwice'
  refine ⟨(effect (store.find? key)).1.filterMap Message.delivery?,
    (effect' (store.find? key')).1.filterMap Message.delivery?,
    ⟨(store.apply change).apply change', keys⟩, ?_, ?_, rfl, ?_, ?_, ?_, ?_⟩
  · simp only [runAll, run_eq, executor, honce]
    rw [htwice']
  · simp only [runAll, run_eq, executor, honce']
    rw [htwice]
  · rw [run_eq, honce]
  · rw [run_eq, honce']
  · rw [run_eq, honce]
    exact Store.find?_apply_of_ne (hkey' _) (Ne.symm hne)
  · rw [run_eq, honce', ← hafter]
    exact Store.find?_apply_of_ne (hkey _) hne

/-- A deletion that empties a set, and an insertion into the same set. -/
theorem run_comm_neighbours :
    let key : RecordKey := ⟨"a", "b", "x"⟩
    let workspace : Workspace Store := ⟨(Store.empty {}).write key (.ofList [("n", .int 1)]), {}⟩
    let executor : Executor Store := { client := Store.client }
    let deletion := deleteRecord key
    let insertion := statement "INSERT INTO a.b (KEY, n) VALUES (y, 2);"
    ∃ deliveries deliveries' after,
      runAll executor [deletion, insertion] workspace = ([deliveries, deliveries'], after) ∧
      runAll executor [insertion, deletion] workspace = ([deliveries', deliveries], after) ∧
      (after.store.find? key).isNone = true ∧
      (after.store.find? ⟨"a", "b", "y"⟩).isSome = true := by
  intro key workspace executor deletion insertion
  have hkey : deletion.key? = some key := rfl
  have hkey' : insertion.key? = some ⟨"a", "b", "y"⟩ := by decide +kernel
  have hconnected : workspace.store.connected = true := rfl
  obtain ⟨deliveries, deliveries', after, hrun, hrun', -, -, -, hdeleted, hinserted⟩ :=
    run_comm true hkey hkey' (by decide) hconnected
  refine ⟨deliveries, deliveries', after, hrun, hrun', ?_, ?_⟩
  · rw [hdeleted]
    decide +kernel
  · rw [hinserted]
    decide +kernel

end Request

end RecordQuery
