import RecordQuery.Proofs.Narrowing
import RecordQuery.Proofs.Record
import RecordQuery.Proofs.Store.Faults

/-!
# Updates

An update reads the bins that it assigns, narrows its texts to their types and writes them.

* `UpdateStatement.reported`: the report of an update, from the values that were in its bins.
* `Executor.attempts_update`: an update by its two calls, each of which may fail without an effect.
  `Executor.run_update`: an update of the store in memory, which does not fail.
* `UpdateStatement.Updates`, `UpdateStatement.KeepsTypes`: what an update changes, and which types
  it keeps.
* `Executor.update_changes_named`: every update that returns a report is one of these, every other
  leaves the store as it was.
-/

namespace RecordQuery

variable {σ : Type}

/-! ## What an update writes -/

/-- The value of a bin of the record at an address. -/
def Store.bin? (store : Store) (key : RecordKey) (name : String) : Option Value :=
  (store.find? key).bind fun record => record.bins.get? name

theorem Store.bin?_of_find? {store : Store} {key : RecordKey} {record : Record}
    (h : store.find? key = some record) (name : String) :
    store.bin? key name = record.bins.get? name := by
  rw [bin?, h, Option.bind_some]

namespace UpdateStatement

variable (statement : UpdateStatement) (old : String → Option Value)

/-- The assignments narrowed to the types of old values. -/
def narrowed : SortedMap Narrowed :=
  statement.assignments.mapValues fun bin assignment => narrowAssignment bin assignment (old bin)

def written : Bins :=
  (statement.narrowed old).mapValues fun _ narrowed => narrowed.value

def reported : UpdateReport where
  key := statement.key
  written := statement.written old
  fallbacks := (statement.narrowed old).values.filterMap Narrowed.fallback

theorem get?_narrowed (bin : String) :
    (statement.narrowed old).get? bin =
      (statement.assignments.get? bin).map fun assignment =>
        narrowAssignment bin assignment (old bin) :=
  SortedMap.get?_mapValues ..

theorem get?_written (bin : String) :
    (statement.written old).get? bin =
      (statement.assignments.get? bin).map fun assignment =>
        (narrowAssignment bin assignment (old bin)).value := by
  rw [written, SortedMap.get?_mapValues, get?_narrowed, Option.map_map]
  rfl

theorem mem_binNames {bin : String} :
    bin ∈ statement.binNames ↔ ∃ assignment, statement.assignments.get? bin = some assignment := by
  unfold binNames SortedMap.keys
  rw [List.mem_map]
  constructor
  · rintro ⟨⟨bin, assignment⟩, hmem, rfl⟩
    exact ⟨assignment, (SortedMap.mem_entries_iff _).1 hmem⟩
  · rintro ⟨assignment, hget⟩
    exact ⟨(bin, assignment), (SortedMap.mem_entries_iff _).2 hget, rfl⟩

theorem narrowed_congr {old old' : String → Option Value}
    (h : ∀ bin ∈ statement.binNames, old bin = old' bin) :
    statement.narrowed old = statement.narrowed old' := by
  apply SortedMap.ext
  intro bin
  rw [get?_narrowed, get?_narrowed]
  cases hassignment : statement.assignments.get? bin with
  | none => rfl
  | some assignment =>
    rw [h bin (statement.mem_binNames.2 ⟨assignment, hassignment⟩)]

end UpdateStatement

/-! ## Runs -/

namespace Executor

variable (executor : Executor σ)

/-- What an update reads before it writes: nothing where types are not kept. -/
def existing (statement : UpdateStatement) : StoreM σ Bins :=
  if executor.narrowUpdates then
    (fun record => (record.map Record.bins).getD .empty) <$>
      StoreM.within "Error updating record"
        (executor.client.get statement.key (some statement.binNames))
  else pure .empty

/-- What an update writes over the bins that it has read. -/
def overwrite (statement : UpdateStatement) (bins : Bins) : StoreM σ UpdateReport :=
  (fun _ => statement.reported bins.get?) <$>
    StoreM.within "Error updating record"
      (executor.client.put statement.key (statement.written bins.get?))

theorem update_eq (statement : UpdateStatement) :
    executor.update statement = executor.existing statement >>= executor.overwrite statement := by
  unfold update existing overwrite
  by_cases hnarrow : executor.narrowUpdates = true
  · simp only [hnarrow, if_true, map_eq_pure_bind, bind_assoc, pure_bind]
    rfl
  · simp only [hnarrow, map_eq_pure_bind, pure_bind]
    rfl

/-- The bins that an update reads. -/
def known (store : Store) (statement : UpdateStatement) : Bins :=
  if executor.narrowUpdates then
    (((store.find? statement.key).map fun record =>
      record.project (some statement.binNames)).map Record.bins).getD .empty
  else .empty

/-- The old values that an update goes by: none where types are not kept. -/
def oldValues (store : Store) (statement : UpdateStatement) : String → Option Value :=
  if executor.narrowUpdates then store.bin? statement.key else fun _ => none

theorem narrowed_known (store : Store) (statement : UpdateStatement) :
    statement.narrowed (executor.known store statement).get? =
      statement.narrowed (executor.oldValues store statement) := by
  refine statement.narrowed_congr fun bin hbin => ?_
  have hkeep : statement.binNames.contains bin = true := List.contains_iff_mem.2 hbin
  unfold known oldValues
  by_cases hnarrow : executor.narrowUpdates = true
  · rw [if_pos hnarrow, if_pos hnarrow, Store.bin?]
    cases store.find? statement.key with
    | none => rfl
    | some record =>
      simp only [Option.map_some, Option.getD_some, Option.bind_some, Record.project,
        SortedMap.get?_filter, hkeep]
      cases record.bins.get? bin <;> rfl
  · rw [if_neg hnarrow, if_neg hnarrow]
    rfl

variable {view : σ → Store}

theorem attempts_existing (h : executor.client.AttemptsRecords view)
    (statement : UpdateStatement) :
    StoreM.Attempts view (fun store => (executor.known store statement, store))
      (executor.existing statement) := by
  unfold existing known
  by_cases hnarrow : executor.narrowUpdates = true
  · simp only [hnarrow, if_true]
    exact ((h.get _ _).within _).map _
  · simp only [hnarrow]
    exact StoreM.attempts_pure _

/-- **An update writes the record that it names, or fails and has no effect.** -/
theorem attempts_update (h : executor.client.AttemptsRecords view) (statement : UpdateStatement) :
    StoreM.Attempts view
      (fun store =>
        let old := executor.oldValues store statement
        (statement.reported old, store.write statement.key (statement.written old)))
      (executor.update statement) := by
  have hwrite : ∀ bins : Bins, StoreM.Attempts view
      (fun store => (statement.reported bins.get?,
        store.write statement.key (statement.written bins.get?)))
      (executor.overwrite statement bins) := fun bins => ((h.put _ _).within _).map _
  have hboth := (executor.attempts_existing h statement).bind hwrite
  rw [update_eq]
  simp only [UpdateStatement.reported, UpdateStatement.written, narrowed_known] at hboth
  exact hboth

theorem run_update {store : Store} (hconnected : store.connected = true) (narrow : Bool)
    (statement : UpdateStatement) :
    let executor : Executor Store := ⟨Store.client, narrow⟩
    (executor.update statement).run store =
      (.ok (statement.reported (executor.oldValues store statement)),
        store.write statement.key (statement.written (executor.oldValues store statement))) := by
  intro executor
  have hread : (executor.existing statement).run store =
      (.ok (executor.known store statement), store) := by
    unfold existing known
    by_cases hnarrow : executor.narrowUpdates = true
    · rw [if_pos hnarrow, if_pos hnarrow, StoreM.run_map, StoreM.run_within]
      simp only [executor, Store.client, Store.run_call_of_connected hconnected]
      rfl
    · rw [if_neg hnarrow, if_neg hnarrow, StoreM.run_pure]
  have hwrite : ∀ bins : Bins, (executor.overwrite statement bins).run store =
      (.ok (statement.reported bins.get?),
        store.write statement.key (statement.written bins.get?)) := by
    intro bins
    simp only [overwrite, executor, Store.client, StoreM.run_map, StoreM.run_within,
      Store.run_call_of_connected hconnected]
    rfl
  rw [update_eq, StoreM.run_bind, hread]
  dsimp only
  rw [hwrite]
  simp only [UpdateStatement.written, UpdateStatement.reported, narrowed_known]

end Executor

/-! ## What an update changes -/

/-- Whether a report and a change of a store are those of an update. -/
structure UpdateStatement.Updates (statement : UpdateStatement) (store : Store)
    (report : UpdateReport) (store' : Store) : Prop where
  key : report.key = statement.key
  others : ∀ key, key ≠ statement.key → store'.find? key = store.find? key
  generation : ∃ record, store'.find? statement.key = some record ∧
    record.generation = (store.find? statement.key).elim 1 fun old => old.generation + 1
  unassigned : ∀ bin, bin ∉ statement.binNames →
    store'.bin? statement.key bin = store.bin? statement.key bin
  assigned : ∀ bin, bin ∈ statement.binNames →
    ∃ value, store'.bin? statement.key bin = some value ∧ report.written.get? bin = some value

/-- Whether an update has kept the types of the bins that held scalars, with a notice for each bin
whose type it has changed. -/
structure UpdateStatement.KeepsTypes (statement : UpdateStatement) (store : Store)
    (report : UpdateReport) (store' : Store) : Prop where
  scalars : ∀ bin assignment old, statement.assignments.get? bin = some assignment →
    store.bin? statement.key bin = some old → old.isScalar = true →
    ∃ value, store'.bin? statement.key bin = some value ∧
      (value.typeName = old.typeName ∧
          report.fallbacks.filter (fun fallback => bin = fallback.bin) = [] ∨
        value = .str assignment.text ∧
          report.fallbacks.filter (fun fallback => bin = fallback.bin) =
            [⟨bin, old.typeName, assignment.text⟩])
  ascending : report.fallbacks.Pairwise fun a b => a.bin < b.bin
  readAgain : ∀ fallback ∈ report.fallbacks, fallback.bin ∈ statement.binNames ∧
    ∃ old, store.bin? statement.key fallback.bin = some old ∧ old.isReadAgain = true

namespace UpdateStatement

variable (statement : UpdateStatement) (old : String → Option Value) (store : Store)

theorem bin?_write (bins : Bins) (bin : String) :
    (store.write statement.key bins).bin? statement.key bin =
      match bins.get? bin with
      | some value => if value.isNil then none else some value
      | none => store.bin? statement.key bin := by
  rw [Store.bin?_of_find? ((Store.find?_write ..).trans (if_pos rfl)), Record.get?_written]
  rfl

theorem bin?_written {bin : String} {assignment : Assignment}
    (h : statement.assignments.get? bin = some assignment) :
    (store.write statement.key (statement.written old)).bin? statement.key bin =
      some (narrowAssignment bin assignment (old bin)).value := by
  rw [bin?_write, get?_written, h]
  simp only [Option.map_some, isNil_narrowAssignment]
  rfl

theorem updates_written :
    statement.Updates store (statement.reported old)
      (store.write statement.key (statement.written old)) where
  key := rfl
  others key hkey := by rw [Store.find?_write, if_neg (Ne.symm hkey)]
  generation := by
    refine ⟨_, by rw [Store.find?_write, if_pos rfl], ?_⟩
    cases store.find? statement.key <;> rfl
  unassigned bin hbin := by
    have hnone : statement.assignments.get? bin = none := by
      rw [Option.eq_none_iff_forall_ne_some]
      exact fun assignment h => hbin (statement.mem_binNames.2 ⟨assignment, h⟩)
    rw [bin?_write, get?_written, hnone]
    rfl
  assigned bin hbin := by
    obtain ⟨assignment, h⟩ := statement.mem_binNames.1 hbin
    refine ⟨_, statement.bin?_written old store h, ?_⟩
    show (statement.written old).get? bin = _
    rw [get?_written, h]
    rfl

theorem keepsTypes_written :
    statement.KeepsTypes store (statement.reported (store.bin? statement.key))
      (store.write statement.key (statement.written (store.bin? statement.key))) := by
  have hnames : ∀ bin narrowed fallback,
      (statement.narrowed (store.bin? statement.key)).get? bin = some narrowed →
      narrowed.fallback = some fallback → fallback.bin = bin := by
    intro bin narrowed fallback hnarrowed hfallback
    rw [get?_narrowed, Option.map_eq_some_iff] at hnarrowed
    obtain ⟨assignment, -, rfl⟩ := hnarrowed
    exact (fallback_narrowAssignment hfallback).1
  constructor
  · intro bin assignment old hassignment hold hscalar
    refine ⟨_, statement.bin?_written _ store hassignment, ?_⟩
    have hnotices : (statement.reported (store.bin? statement.key)).fallbacks.filter
          (fun fallback => bin = fallback.bin) =
        (narrowText bin assignment.text old).fallback.toList := by
      show List.filter _ (List.filterMap _ _) = _
      rw [filter_fallbacks hnames, get?_narrowed, hassignment, hold]
      rfl
    rw [hnotices, hold]
    show (narrowText bin assignment.text old).value.typeName = _ ∧ _ ∨
      (narrowText bin assignment.text old).value = _ ∧ _
    -- The text is read as the old type, or it is not, or the old type is not read from texts.
    obtain ⟨-, value, h, htype, -⟩ | ⟨-, h⟩ | ⟨htype, h⟩ :=
      narrowText_cases bin assignment.text old
    · rw [h]
      exact .inl ⟨htype, rfl⟩
    · rw [h]
      exact .inr ⟨rfl, rfl⟩
    · rw [h]
      cases old with
      | str s => exact .inl ⟨rfl, rfl⟩
      | _ => simp_all [Value.isScalar, Value.isReadAgain]
  · exact pairwise_fallbacks hnames
  · intro fallback hfallback
    obtain ⟨narrowed, hmem, hnotice⟩ := List.mem_filterMap.1 hfallback
    obtain ⟨⟨bin, narrowed'⟩, hentry, rfl⟩ := List.mem_map.1 hmem
    have hget := (SortedMap.mem_entries_iff _).1 hentry
    obtain rfl := hnames _ _ _ hget hnotice
    rw [get?_narrowed, Option.map_eq_some_iff] at hget
    obtain ⟨assignment, hassignment, rfl⟩ := hget
    exact ⟨statement.mem_binNames.2 ⟨assignment, hassignment⟩,
      (fallback_narrowAssignment hnotice).2⟩

end UpdateStatement

namespace Executor

/-- **An update changes what it names, and no scalar loses its type without a notice.** The store may
fail at either call of the update: then it stays as it was. -/
theorem update_changes_named (executor : Executor σ) {view : σ → Store}
    (h : executor.client.AttemptsRecords view) (statement : UpdateStatement) (s s' : σ) :
    (∀ e, (executor.update statement).run s = (.error e, s') → view s' = view s) ∧
    ∀ report, (executor.update statement).run s = (.ok report, s') →
      statement.Updates (view s) report (view s') ∧
        (executor.narrowUpdates = true → statement.KeepsTypes (view s) report (view s')) := by
  obtain ⟨e, s'', hrun, hview⟩ | ⟨s'', hrun, hview⟩ := executor.attempts_update h statement s
  · rw [hrun]
    refine ⟨fun e' heq => ?_, fun report heq => ?_⟩
    · obtain rfl := congrArg Prod.snd heq
      exact hview
    · cases congrArg Prod.fst heq
  · rw [hrun]
    refine ⟨fun e heq => ?_, fun report heq => ?_⟩
    · cases congrArg Prod.fst heq
    · obtain rfl := congrArg Prod.snd heq
      obtain rfl := Except.ok.inj (congrArg Prod.fst heq)
      rw [hview]
      refine ⟨statement.updates_written _ _, fun hnarrow => ?_⟩
      have hold : executor.oldValues (view s) statement = (view s).bin? statement.key :=
        if_pos hnarrow
      simp only [hold]
      exact statement.keepsTypes_written _

/-- A text over an integer, a new bin beside a bin that is not named, and a write that is refused. -/
theorem update_changes_named_age :
    let key : RecordKey := ⟨"test", "people", "k1"⟩
    let store := (Store.empty {}).write key (.ofList [("age", .int 30), ("name", .str "Ann")])
    let statement : UpdateStatement :=
      { target := ⟨"test", "people"⟩
        assignments := .ofList [("age", .ofRaw "'old'".toList), ("city", .ofRaw "Bern".toList)]
        predicate := ⟨"PK", .str "k1"⟩ }
    let executor : Executor FaultyStore := { client := FaultyStore.client }
    (∃ e faulty,
      (executor.update statement).run
          ⟨store, Faults.fail {} .put (.store "Connection refused"), []⟩ = (.error e, faulty) ∧
        faulty.store = store) ∧
    ∃ report faulty,
      (executor.update statement).run ⟨store, {}, []⟩ = (.ok report, faulty) ∧
        faulty.store.bin? key "name" = some (.str "Ann") ∧
        faulty.store.bin? key "age" = some (.str "old") ∧
        report.fallbacks.filter (fun fallback => "age" = fallback.bin) =
          [⟨"age", "Integer", "old"⟩] := by
  intro key store statement executor
  have hstep := fun faulty faulty' => executor.update_changes_named FaultyStore.attemptsRecords
    statement faulty faulty'
  let fallbacksOf := fun faulty : FaultyStore =>
    ((executor.update statement).run faulty).1.toOption.map UpdateReport.fallbacks
  have hfailing : fallbacksOf ⟨store, Faults.fail {} .put (.store "Connection refused"), []⟩ =
      none := by decide +kernel
  have hworking : fallbacksOf ⟨store, {}, []⟩ = some [⟨"age", "Integer", "old"⟩] := by
    decide +kernel
  dsimp only [fallbacksOf] at hfailing hworking
  constructor
  · generalize hrun : (executor.update statement).run
      ⟨store, Faults.fail {} .put (.store "Connection refused"), []⟩ = result at hfailing ⊢
    obtain ⟨e | report, faulty⟩ := result
    · exact ⟨e, faulty, rfl, (hstep _ _).1 e hrun⟩
    · cases hfailing
  · generalize hrun : (executor.update statement).run ⟨store, {}, []⟩ = result at hworking ⊢
    obtain ⟨e | report, faulty⟩ := result
    · cases hworking
    · have hfallbacks : report.fallbacks = [⟨"age", "Integer", "old"⟩] := Option.some.inj hworking
      obtain ⟨hupdates, hkeeps⟩ := (hstep _ _).2 report hrun
      have hold : store.bin? key "age" = some (.int 30) := by rfl
      have hassignment : statement.assignments.get? "age" = some (.ofRaw "'old'".toList) := by rfl
      obtain ⟨value, hvalue, ⟨-, hnone⟩ | ⟨rfl, hnotice⟩⟩ :=
        (hkeeps rfl).scalars "age" _ _ hassignment hold rfl
      · rw [hfallbacks] at hnone
        exact absurd hnone (by decide)
      · have hname : faulty.store.bin? key "name" = store.bin? key "name" :=
          hupdates.unassigned "name" (by decide +kernel)
        exact ⟨report, faulty, rfl, hname.trans (by rfl), hvalue, hnotice⟩

end Executor

end RecordQuery
