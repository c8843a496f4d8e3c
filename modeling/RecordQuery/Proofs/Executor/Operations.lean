import RecordQuery.Proofs.Executor.Screening
import RecordQuery.Proofs.Executor.Updating

/-!
# Operations on single records

* `Executor.run_deleteRecord`, `Executor.run_editBin`: the two operations on a connected store in
  memory.
-/

namespace RecordQuery.Executor

variable {store : Store}

theorem run_ensureConnected_of_connected (hconnected : store.connected = true) (narrow : Bool) :
    (ensureConnected ⟨Store.client, narrow⟩).run store = (.ok (), store) := by
  rw [run_ensureConnected]
  simp [Store.client, hconnected]

theorem run_deleteRecord (hconnected : store.connected = true) (narrow : Bool) (key : RecordKey) :
    (deleteRecord ⟨Store.client, narrow⟩ key).run store =
      (.ok (store.find? key).isSome, store.remove key) := by
  unfold deleteRecord
  rw [StoreM.run_bind, run_ensureConnected_of_connected hconnected]
  simp only [StoreM.run_within, Store.run_delete hconnected]
  rfl

theorem bin?_of_project (store : Store) (key : RecordKey) (bin : String) :
    (((store.find? key).map fun record => record.project (some [bin])).bind fun record =>
      record.bins.get? bin) = store.bin? key bin := by
  unfold Store.bin?
  cases store.find? key with
  | none => rfl
  | some record =>
    simp only [Option.map_some, Option.bind_some, Record.project, SortedMap.get?_filter]
    cases record.bins.get? bin <;> simp

theorem run_editBin (hconnected : store.connected = true) (narrow : Bool) (key : RecordKey)
    (bin raw : String) :
    (editBin ⟨Store.client, narrow⟩ key bin raw).run store =
      let narrowed := narrowRaw bin raw (store.bin? key bin)
      (.ok { key, bin, storedAs := narrowed.value.typeName, fallback := narrowed.fallback },
        store.write key (.ofList [(bin, narrowed.value)])) := by
  unfold editBin
  rw [StoreM.run_bind, run_ensureConnected_of_connected hconnected]
  simp only [StoreM.run_bind, StoreM.run_within, Store.client,
    Store.run_call_of_connected hconnected, Except.mapError, bin?_of_project, StoreM.run_pure]

end RecordQuery.Executor
