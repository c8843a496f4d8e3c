import RecordQuery.Proofs.Store.Contents
import RecordQuery.Store.Faults

/-!
# Calls that may fail

* `FaultyStore.run_logged`: a call of a store with faults is refused or made and logged.
* `StoreM.Attempts`: an action changes a store as a function does, or fails without an effect.
  `Attempts.within`, `Attempts.map`, `Attempts.bind`: the rules for longer actions.
* `StoreClient.AttemptsRecords`: clients whose calls on single records are such actions. The store
  in memory and the store with faults are (`Store.attemptsRecords`, `FaultyStore.attemptsRecords`).
-/

namespace RecordQuery

variable {σ α β : Type}

/-! ## Calls of a store with faults -/

namespace FaultyStore

@[simp] theorem run_record (entry : StoreCall) (faulty : FaultyStore) :
    (record entry).run faulty = (.ok (), { faulty with log := faulty.log ++ [entry] }) :=
  rfl

@[simp] theorem run_inner (action : StoreM Store α) (faulty : FaultyStore) :
    (inner action).run faulty =
      ((action.run faulty.store).1, { faulty with store := (action.run faulty.store).2 }) :=
  rfl

theorem run_guard (kind : CallKind) (faulty : FaultyStore) :
    (guard kind).run faulty =
      match faulty.faults.calls kind with
      | some e => (.error e, faulty)
      | none => (.ok (), faulty) := by
  unfold guard
  rw [StoreM.run_bind, StoreM.run_get]
  cases hfault : faulty.faults.calls kind with
  | some e =>
    simp only [hfault]
    rfl
  | none =>
    simp only [hfault]
    rfl

theorem run_logged (kind : CallKind) (entry : StoreCall) (action : StoreM Store α)
    (faulty : FaultyStore) :
    (logged kind entry action).run faulty =
      match faulty.faults.calls kind with
      | some e => (.error e, faulty)
      | none => ((action.run faulty.store).1,
          { faulty with store := (action.run faulty.store).2, log := faulty.log ++ [entry] }) := by
  unfold logged
  rw [StoreM.run_bind, run_guard]
  cases faulty.faults.calls kind with
  | some e => rfl
  | none => simp only [StoreM.run_bind, run_record, run_inner]

end FaultyStore

/-! ## Attempts -/

/-- Whether an action yields what a function of the store yields and changes the store as it does,
or fails, with whatever error, and has no effect on the store. -/
def StoreM.Attempts (view : σ → Store) (f : Store → α × Store) (action : StoreM σ α) : Prop :=
  ∀ s, (∃ e s', action.run s = (.error e, s') ∧ view s' = view s) ∨
    ∃ s', action.run s = (.ok (f (view s)).1, s') ∧ view s' = (f (view s)).2

namespace StoreM

variable {view : σ → Store} {f : Store → α × Store} {action : StoreM σ α}

theorem attempts_pure (a : α) : Attempts view (fun store => (a, store)) (pure a) :=
  fun s => .inr ⟨s, rfl, rfl⟩

theorem Attempts.within (h : Attempts view f action) (context : String) :
    Attempts view f (StoreM.within context action) := by
  intro s
  rw [run_within]
  obtain ⟨e, s', hrun, hview⟩ | ⟨s', hrun, hview⟩ := h s
  · rw [hrun]
    exact .inl ⟨e.withContext context, s', rfl, hview⟩
  · rw [hrun]
    exact .inr ⟨s', rfl, hview⟩

theorem Attempts.map (h : Attempts view f action) (g : α → β) :
    Attempts view (fun store => (g (f store).1, (f store).2)) (g <$> action) := by
  intro s
  rw [run_map]
  obtain ⟨e, s', hrun, hview⟩ | ⟨s', hrun, hview⟩ := h s
  · rw [hrun]
    exact .inl ⟨e, s', rfl, hview⟩
  · rw [hrun]
    exact .inr ⟨s', rfl, hview⟩

/-- Reading and then acting on what was read has no effect where it fails: only the last action
changes the store. -/
theorem Attempts.bind {read : Store → α} {g : α → Store → β × Store} {next : α → StoreM σ β}
    (h : Attempts view (fun store => (read store, store)) action)
    (hnext : ∀ a, Attempts view (g a) (next a)) :
    Attempts view (fun store => g (read store) store) (action >>= next) := by
  intro s
  rw [run_bind]
  obtain ⟨e, s', hrun, hview⟩ | ⟨s', hrun, hview⟩ := h s
  · rw [hrun]
    exact .inl ⟨e, s', rfl, hview⟩
  · rw [hrun]
    dsimp only at hview ⊢
    rw [← hview]
    exact hnext _ s'

end StoreM

theorem Store.attempts_call (f : Store → α × Store) : StoreM.Attempts id f (Store.call f) := by
  intro store
  rw [run_call]
  by_cases hconnected : store.connected = true
  · exact .inr ⟨_, if_pos hconnected, rfl⟩
  · exact .inl ⟨_, store, if_neg hconnected, rfl⟩

theorem FaultyStore.attempts_logged {f : Store → α × Store} {action : StoreM Store α}
    (h : StoreM.Attempts id f action) (kind : CallKind) (entry : StoreCall) :
    StoreM.Attempts FaultyStore.store f (logged kind entry action) := by
  intro faulty
  rw [run_logged]
  cases faulty.faults.calls kind with
  | some e => exact .inl ⟨e, faulty, rfl, rfl⟩
  | none =>
    obtain ⟨e, store, hrun, hstore⟩ | ⟨store, hrun, hstore⟩ := h faulty.store
    · rw [hrun]
      exact .inl ⟨e, _, rfl, hstore⟩
    · rw [hrun]
      exact .inr ⟨_, rfl, hstore⟩

/-! ## Clients -/

/-- Whether a client reads and writes the records of a store, or fails without an effect. -/
structure StoreClient.AttemptsRecords (client : StoreClient σ) (view : σ → Store) : Prop where
  get : ∀ key bins, StoreM.Attempts view
    (fun store => ((store.find? key).map fun record => record.project bins, store))
    (client.get key bins)
  put : ∀ key bins, StoreM.Attempts view (fun store => ((), store.write key bins))
    (client.put key bins)

theorem Store.attemptsRecords : Store.client.AttemptsRecords id where
  get _ _ := attempts_call _
  put _ _ := attempts_call _

theorem FaultyStore.attemptsRecords : FaultyStore.client.AttemptsRecords FaultyStore.store where
  get key bins := attempts_logged (Store.attemptsRecords.get key bins) _ _
  put key bins := attempts_logged (Store.attemptsRecords.put key bins) _ _

end RecordQuery
