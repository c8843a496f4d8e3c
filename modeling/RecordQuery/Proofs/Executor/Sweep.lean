import RecordQuery.Proofs.Store.Faults

/-!
# Deletions under faults

A deletion first collects the records that it is about and then deletes them one by one.

* `StoreClient.deleteEach`: the answers of a client to deletions one after the other.
* `Executor.run_sweep`: the report of a sweep is that of the answers.
* `FaultyStore.deleteEach_stuck`: the answers of a store in memory some of whose keys time out.
* `Executor.delete_two_phases`: what a deletion does on such a store, and how its report counts the
  answers of any client.
-/

namespace RecordQuery

variable {σ : Type}

/-! ## Answers to deletions -/

/-- A deletion of one record, with the answer of the store. -/
structure Deletion where
  key : RecordKey
  /-- Whether the record was there. -/
  answer : Except Error Bool

namespace Deletion

def succeeded (deletion : Deletion) : Bool :=
  match deletion.answer with
  | .ok existed => existed
  | .error _ => false

def missed (deletion : Deletion) : Bool :=
  match deletion.answer with
  | .ok existed => !existed
  | .error _ => false

/-- The key with the message of the store, if the deletion failed. -/
def failure? (deletion : Deletion) : Option (RecordKey × String) :=
  match deletion.answer with
  | .ok _ => none
  | .error e => some (deletion.key, e.message)

section Answers

variable (key : RecordKey) (e : Error) (existed : Bool)

@[simp] theorem succeeded_ok : succeeded ⟨key, .ok existed⟩ = existed := rfl

@[simp] theorem succeeded_error : succeeded ⟨key, .error e⟩ = false := rfl

@[simp] theorem missed_ok : missed ⟨key, .ok existed⟩ = !existed := rfl

@[simp] theorem missed_error : missed ⟨key, .error e⟩ = false := rfl

@[simp] theorem failure?_ok : failure? ⟨key, .ok existed⟩ = none := rfl

@[simp] theorem failure?_error : failure? ⟨key, .error e⟩ = some (key, e.message) := rfl

end Answers

/-- **Every deletion counts once**: as a success, as a failure or as a record that was not there. -/
theorem length_eq (deletions : List Deletion) :
    deletions.length =
      deletions.countP succeeded + (deletions.filterMap failure?).length +
        deletions.countP missed := by
  induction deletions with
  | nil => rfl
  | cons deletion rest ih =>
    obtain ⟨key, answer⟩ := deletion
    rw [List.length_cons, ih, List.countP_cons, List.countP_cons]
    cases answer with
    | error e =>
      rw [List.filterMap_cons_some (failure?_error key e), List.length_cons]
      simp
      omega
    | ok existed =>
      rw [List.filterMap_cons_none (failure?_ok key existed)]
      cases existed with
      | false =>
        simp
        omega
      | true =>
        simp
        omega

end Deletion

/-- Deletions one after the other on a client, with the state after them. -/
def StoreClient.deleteEach (client : StoreClient σ) : List RecordKey → σ → List Deletion × σ
  | [], s => ([], s)
  | key :: rest, s =>
    let (answer, s') := (client.delete key).run s
    let (deletions, s'') := client.deleteEach rest s'
    (⟨key, answer⟩ :: deletions, s'')

theorem StoreClient.keys_deleteEach (client : StoreClient σ) (keys : List RecordKey) (s : σ) :
    (client.deleteEach keys s).1.map Deletion.key = keys := by
  induction keys generalizing s with
  | nil => rfl
  | cons key rest ih =>
    show key :: _ = _
    rw [ih]

def DeleteReport.noted (report : DeleteReport) (deletions : List Deletion) : DeleteReport :=
  { report with
    deleted := report.deleted + deletions.countP Deletion.succeeded
    failures := report.failures ++ deletions.filterMap Deletion.failure? }

theorem DeleteReport.noted_cons (report : DeleteReport) (deletion : Deletion)
    (deletions : List Deletion) :
    report.noted (deletion :: deletions) = (report.noted [deletion]).noted deletions := by
  unfold noted
  rw [← List.singleton_append, List.countP_append, List.filterMap_append]
  simp only [Nat.add_assoc, List.append_assoc]

/-! ## The sweep -/

namespace Executor

variable (executor : Executor σ)

/-- **A sweep never fails, and its report is that of the answers.** -/
theorem run_sweep (report : DeleteReport) (keys : List RecordKey) (s : σ) :
    (executor.sweep report keys).run s =
      (.ok (report.noted (executor.client.deleteEach keys s).1),
        (executor.client.deleteEach keys s).2) := by
  induction keys generalizing report s with
  | nil => simp [sweep, StoreClient.deleteEach, DeleteReport.noted]
  | cons key rest ih =>
    unfold sweep StoreClient.deleteEach
    simp only [StoreM.run_bind, StoreM.run_tryCatch]
    generalize (executor.client.delete key).run s = result
    obtain ⟨answer, s'⟩ := result
    cases answer with
    | error e =>
      simp only [StoreM.run_pure, ih]
      rw [DeleteReport.noted_cons]
      simp [DeleteReport.noted]
    | ok existed =>
      simp only [StoreM.run_pure, ih]
      rw [DeleteReport.noted_cons]
      cases existed with
      | false => simp [DeleteReport.noted, List.filterMap_cons]
      | true => simp [DeleteReport.noted, List.filterMap_cons]

end Executor

/-! ## Stores some of whose keys time out -/

namespace FaultyStore

theorem run_query {store : Store} (hconnected : store.connected = true) (faults : Faults)
    (hcalls : faults.calls .query = none) (log : List StoreCall) (query : IndexQuery) :
    (client.query query).run ⟨store, faults, log⟩ =
      (.ok (breakOff ((store.matching query).map .ok) faults.queryLimit),
        ⟨store, faults, log ++ [.query]⟩) := by
  simp only [client, StoreM.run_bind, run_logged, hcalls, Store.run_query hconnected,
    StoreM.run_get, StoreM.run_pure]

theorem run_delete {store : Store} (hconnected : store.connected = true) (stuck : List String)
    (log : List StoreCall) (key : RecordKey) :
    (client.delete key).run ⟨store, { stuck }, log⟩ =
      if key.user ∈ stuck then
        (.error (.store "Timeout"), ⟨store, { stuck }, log ++ [.delete key.user]⟩)
      else
        (.ok (store.find? key).isSome,
          ⟨store.remove key, { stuck }, log ++ [.delete key.user]⟩) := by
  have hguard : (guard .delete).run ⟨store, { stuck }, log⟩ =
      (.ok (), ⟨store, { stuck }, log⟩) := run_guard ..
  simp only [client, StoreM.run_bind, hguard, StoreM.run_get]
  have hvanished : ¬ ([] : List String).contains key.user = true := Bool.false_ne_true
  rw [if_neg hvanished, StoreM.run_bind, run_record]
  simp only [StoreM.run_bind, StoreM.run_get, List.contains_iff_mem]
  by_cases h : key.user ∈ stuck
  · rw [if_pos h, if_pos h]
    rfl
  · rw [if_neg h, if_neg h, run_inner, Store.run_delete hconnected]

/-- The deletion of a record that is there, where some keys time out. -/
def deletionOf (stuck : List String) (key : RecordKey) : Deletion :=
  ⟨key, if key.user ∈ stuck then .error (.store "Timeout") else .ok true⟩

theorem deleteEach_stuck (stuck : List String) (keys : List RecordKey) (hkeys : keys.Nodup)
    (store : Store) (hconnected : store.connected = true)
    (hfound : ∀ key ∈ keys, (store.find? key).isSome = true) (log : List StoreCall) :
    ∃ store' : Store,
      client.deleteEach keys ⟨store, { stuck }, log⟩ =
        (keys.map (deletionOf stuck),
          ⟨store', { stuck }, log ++ keys.map fun key => .delete key.user⟩) ∧
      ∀ key, store'.find? key =
        if key ∈ keys ∧ key.user ∉ stuck then none else store.find? key := by
  induction keys generalizing store log with
  | nil => exact ⟨store, by simp [StoreClient.deleteEach], fun key => by simp⟩
  | cons head rest ih =>
    obtain ⟨hhead, hrest⟩ := List.nodup_cons.1 hkeys
    have hfirst := hfound head List.mem_cons_self
    unfold StoreClient.deleteEach
    rw [run_delete hconnected]
    by_cases hstuck : head.user ∈ stuck
    · rw [if_pos hstuck]
      obtain ⟨store', hrun, hfind⟩ := ih hrest store hconnected
        (fun key hkey => hfound key (List.mem_cons_of_mem _ hkey)) (log ++ [.delete head.user])
      refine ⟨store', ?_, fun key => ?_⟩
      · simp only [hrun, List.map_cons, deletionOf, if_pos hstuck, List.append_assoc,
          List.singleton_append]
      · rw [hfind]
        by_cases hkey : key = head
        · subst hkey
          simp [hstuck]
        · simp [hkey]
    · rw [if_neg hstuck]
      -- no key comes twice, so the records of the others are still there
      have hothers : ∀ key ∈ rest, ((store.remove head).find? key).isSome = true := by
        intro key hkey
        have hne : head ≠ key := fun h => hhead (by rwa [h])
        rw [Store.find?_remove, if_neg hne]
        exact hfound key (List.mem_cons_of_mem _ hkey)
      obtain ⟨store', hrun, hfind⟩ := ih hrest (store.remove head)
        (by rw [Store.connected_remove, hconnected]) hothers (log ++ [.delete head.user])
      refine ⟨store', ?_, fun key => ?_⟩
      · simp only [hrun, List.map_cons, deletionOf, if_neg hstuck, hfirst, List.append_assoc,
          List.singleton_append]
      · rw [hfind, Store.find?_remove]
        by_cases hkey : key = head
        · subst hkey
          simp [hstuck]
        · simp [hkey, Ne.symm hkey]

theorem failures_deletionOf (stuck : List String) (keys : List RecordKey) :
    (keys.map (deletionOf stuck)).filterMap Deletion.failure? =
      (keys.filter (·.user ∈ stuck)).map fun key => (key, "Timeout") := by
  induction keys with
  | nil => rfl
  | cons key rest ih =>
    rw [List.map_cons, deletionOf]
    by_cases hstuck : key.user ∈ stuck
    · rw [if_pos hstuck, List.filterMap_cons_some (Deletion.failure?_error ..), ih,
        List.filter_cons_of_pos (by simpa using hstuck)]
      rfl
    · rw [if_neg hstuck, List.filterMap_cons_none (Deletion.failure?_ok ..), ih,
        List.filter_cons_of_neg (by simpa using hstuck)]

theorem countP_missed_deletionOf (stuck : List String) (keys : List RecordKey) :
    (keys.map (deletionOf stuck)).countP Deletion.missed = 0 := by
  rw [List.countP_eq_zero]
  intro deletion hmem
  obtain ⟨key, -, rfl⟩ := List.mem_map.1 hmem
  by_cases hstuck : key.user ∈ stuck
  · simp [deletionOf, hstuck]
  · simp [deletionOf, hstuck]

end FaultyStore

/-! ## Deletions -/

theorem collect_ok (records : List Record) : collect (records.map .ok) = .ok records := by
  induction records with
  | nil => rfl
  | cons record rest ih =>
    rw [List.map_cons, collect, ih]
    rfl

theorem collect_error (records : List Record) (e : Error) (rest : List (Except Error Record)) :
    collect (records.map .ok ++ .error e :: rest) = .error e := by
  induction records with
  | nil => rfl
  | cons record records ih =>
    rw [List.map_cons, List.cons_append, collect, ih]
    rfl

namespace Executor

variable (executor : Executor σ)

theorem run_fetch {query : IndexQuery} {s s' : σ} {stream : List (Except Error Record)}
    (h : (executor.client.query query).run s = (.ok stream, s')) (context : String) :
    (executor.fetch context query).run s =
      ((collect stream).mapError (Error.withContext context), s') := by
  unfold fetch
  rw [StoreM.run_within, StoreM.run_bind, h]
  simp only [StoreM.run_liftM]

/-- **Any client.** A deletion whose query yields records fails no more, and its report counts the
answers to one deletion of each record. -/
theorem delete_answers {statement : DeleteStatement} {s s' : σ} {records : List Record}
    (h : (executor.client.query (.ofDelete statement)).run s = (.ok (records.map .ok), s')) :
    ∃ deletions s'' report,
      executor.client.deleteEach (records.map Record.key) s' = (deletions, s'') ∧
      (executor.delete statement).run s = (.ok report, s'') ∧
      report.matched = records.length ∧
      report.failures = deletions.filterMap Deletion.failure? ∧
      report.matched =
        report.deleted + report.failures.length + deletions.countP Deletion.missed := by
  have hfetch : (executor.fetch "Error scanning for delete" (.ofDelete statement)).run s =
      (.ok records, s') := by
    rw [executor.run_fetch h, collect_ok]
    rfl
  unfold delete
  simp only [StoreM.run_bind, hfetch, run_sweep]
  refine ⟨_, _, _, rfl, rfl, rfl, by simp [DeleteReport.noted], ?_⟩
  have hlength := congrArg List.length
    (executor.client.keys_deleteEach (records.map Record.key) s')
  rw [List.length_map, List.length_map, Deletion.length_eq] at hlength
  simpa [DeleteReport.noted] using hlength.symm

theorem delete_queryFault {store : Store} (hconnected : store.connected = true)
    (statement : DeleteStatement) (narrow : Bool) (stuck : List String) (limit : Nat)
    (log : List StoreCall) :
    ((Executor.mk FaultyStore.client narrow).delete statement).run
        ⟨store, { stuck, queryLimit := some limit }, log⟩ =
      (.error (.store "Error scanning for delete: Connection reset by peer"),
        ⟨store, { stuck, queryLimit := some limit }, log ++ [.query]⟩) := by
  have hquery := FaultyStore.run_query hconnected { stuck, queryLimit := some limit } rfl log
    (.ofDelete statement)
  have hfetch := (Executor.mk FaultyStore.client narrow).run_fetch hquery
    "Error scanning for delete"
  simp only [FaultyStore.breakOff] at hfetch
  rw [← List.map_take, collect_error] at hfetch
  unfold delete
  rw [StoreM.run_bind, hfetch]
  rfl

/-- A sweep of a store in memory: the keys that it tried, its report and the store after it. -/
structure Swept (statement : DeleteStatement) (store : Store) (stuck : List String)
    (keys : List RecordKey) (report : DeleteReport) (store' : Store) : Prop where
  /-- The keys are tried in ascending order. -/
  ascending : keys.Pairwise fun a b => a.user < b.user
  /-- The keys are those of the records that the condition holds of. -/
  complete : ∀ key, key ∈ keys ↔ store.condemns statement key = true
  matched : report.matched = keys.length
  failures : report.failures = (keys.filter (·.user ∈ stuck)).map fun key => (key, "Timeout")
  counted : report.deleted + report.failures.length = report.matched
  /-- Exactly the records with a key that can be deleted are gone. -/
  remaining : ∀ key, store'.find? key =
    if store.condemns statement key = true ∧ key.user ∉ stuck then none else store.find? key

theorem delete_stuck {store : Store} (haddressed : store.Addressed)
    (hconnected : store.connected = true) (statement : DeleteStatement) (narrow : Bool)
    (stuck : List String) (log : List StoreCall) :
    ∃ keys report store',
      ((Executor.mk FaultyStore.client narrow).delete statement).run ⟨store, { stuck }, log⟩ =
        (.ok report,
          ⟨store', { stuck }, log ++ .query :: keys.map fun key => .delete key.user⟩) ∧
      Swept statement store stuck keys report store' := by
  have hcomplete := haddressed.mem_condemned statement
  obtain ⟨store', hdeletions, hfind⟩ := FaultyStore.deleteEach_stuck stuck _
    (haddressed.nodup_condemned statement) store hconnected
    (fun _ => haddressed.isSome_of_mem_condemned) (log ++ [.query])
  have hquery := FaultyStore.run_query hconnected { stuck } rfl log (.ofDelete statement)
  have hdelete := (Executor.mk FaultyStore.client narrow).delete_answers hquery
  obtain ⟨deletions, faulty, report, heach, hrun, hmatched, hfailures, hcounted⟩ := hdelete
  obtain ⟨rfl, rfl⟩ := Prod.mk.inj (heach.symm.trans hdeletions)
  refine ⟨store.condemned statement, report, store', ?_, haddressed.pairwise_condemned statement,
    hcomplete, ?_, ?_, ?_, ?_⟩
  · rw [hrun, List.append_assoc]
    rfl
  · rw [hmatched, Store.condemned, List.length_map]
  · rw [hfailures, FaultyStore.failures_deletionOf]
  · rw [hcounted, FaultyStore.countP_missed_deletionOf, Nat.add_zero]
  · intro key
    rw [hfind]
    simp only [hcomplete]

/-- **Deletion in two phases.** On a store in memory any of whose keys may time out, a query that
breaks off leaves everything as it is. Without that, each record that the condition holds of is
asked to be deleted once, in ascending order of keys, and exactly those that time out stay. The
report of a deletion on any client counts every answer. -/
theorem delete_two_phases (statement : DeleteStatement) :
    (∀ store : Store, store.Reachable → store.connected = true →
      ∀ (narrow : Bool) (stuck : List String) (log : List StoreCall),
      (∀ limit, ((Executor.mk FaultyStore.client narrow).delete statement).run
          ⟨store, { stuck, queryLimit := some limit }, log⟩ =
        (.error (.store "Error scanning for delete: Connection reset by peer"),
          ⟨store, { stuck, queryLimit := some limit }, log ++ [.query]⟩)) ∧
      ∃ keys report store',
        ((Executor.mk FaultyStore.client narrow).delete statement).run ⟨store, { stuck }, log⟩ =
          (.ok report,
            ⟨store', { stuck }, log ++ .query :: keys.map fun key => .delete key.user⟩) ∧
        Swept statement store stuck keys report store') ∧
    ∀ (σ : Type) (executor : Executor σ) (s s' : σ) (records : List Record),
      (executor.client.query (.ofDelete statement)).run s = (.ok (records.map .ok), s') →
      ∃ deletions s'' report,
        executor.client.deleteEach (records.map Record.key) s' = (deletions, s'') ∧
        (executor.delete statement).run s = (.ok report, s'') ∧
        report.matched = records.length ∧
        report.failures = deletions.filterMap Deletion.failure? ∧
        report.matched =
          report.deleted + report.failures.length + deletions.countP Deletion.missed := by
  refine ⟨fun store hreachable hconnected narrow stuck log => ⟨fun limit => ?_, ?_⟩,
    fun σ executor s s' records h => executor.delete_answers h⟩
  · exact delete_queryFault hconnected statement narrow stuck limit log
  · exact delete_stuck hreachable.addressed hconnected statement narrow stuck log

/-- Two of three records are in the city. Of their keys one times out, and one may have vanished. -/
theorem delete_two_phases_city :
    let key : String → RecordKey := SetName.key ⟨"test", "people"⟩
    let bins : String → Bins := fun city => .ofList [("city", .str city)]
    let store := [StoreEvent.put (key "k1") (bins "Bern"), .put (key "k2") (bins "Bern"),
      .put (key "k3") (bins "Rome")].foldl Store.step (Store.empty {})
    let statement := DeleteStatement.mk ⟨"test", "people"⟩ ⟨"city", .str "Bern"⟩
    store.Reachable ∧ store.connected = true ∧
      ((Executor.mk FaultyStore.client true).delete statement).run
          ⟨store, { stuck := ["k1"], queryLimit := some 2 }, []⟩ =
        (.error (.store "Error scanning for delete: Connection reset by peer"),
          ⟨store, { stuck := ["k1"], queryLimit := some 2 }, [.query]⟩) ∧
      (∃ report faulty,
        ((Executor.mk FaultyStore.client true).delete statement).run
            ⟨store, { stuck := ["k1"] }, []⟩ = (.ok report, faulty) ∧
        (key "k1", "Timeout") ∈ report.failures ∧
        faulty.store.find? (key "k1") = store.find? (key "k1") ∧
        faulty.store.find? (key "k2") = none ∧
        faulty.store.find? (key "k3") = store.find? (key "k3")) ∧
      ∃ report faulty,
        ((Executor.mk FaultyStore.client true).delete statement).run
            ⟨store, { stuck := ["k1"], vanished := ["k2"] }, []⟩ = (.ok report, faulty) ∧
        report.matched = report.deleted + report.failures.length + 1 := by
  intro key bins store statement
  have hreachable : store.Reachable := ⟨_, _, rfl⟩
  have hconnected : store.connected = true := rfl
  obtain ⟨hstore, hclient⟩ := delete_two_phases statement
  obtain ⟨hfault, keys, report, store', hrun, hswept⟩ :=
    hstore store hreachable hconnected true ["k1"] []
  have hquery := FaultyStore.run_query hconnected { stuck := ["k1"], vanished := ["k2"] } rfl []
    (.ofDelete statement)
  obtain ⟨deletions, faulty, report', heach, hrun', -, -, hmatched⟩ :=
    hclient FaultyStore ⟨FaultyStore.client, true⟩ _ _ _ hquery
  have hmissed : deletions.countP Deletion.missed = 1 := by
    have hdeletions := congrArg Prod.fst heach
    dsimp only at hdeletions
    subst hdeletions
    decide +kernel
  rw [hmissed] at hmatched
  have hfirst : store.condemns statement (key "k1") = true := by decide +kernel
  have hsecond : store.condemns statement (key "k2") = true := by decide +kernel
  have hthird : store.condemns statement (key "k3") = false := by decide +kernel
  refine ⟨hreachable, hconnected, hfault 2, ⟨report, _, hrun, ?_, ?_, ?_, ?_⟩,
    report', faulty, hrun', hmatched⟩
  · rw [hswept.failures]
    have hkey : key "k1" ∈ keys := (hswept.complete _).2 hfirst
    exact List.mem_map.2 ⟨_, List.mem_filter.2 ⟨hkey, rfl⟩, rfl⟩
  · rw [hswept.remaining, if_neg fun h => h.2 List.mem_cons_self]
  · rw [hswept.remaining, if_pos ⟨hsecond, by decide⟩]
  · rw [hswept.remaining, if_neg (by simp [hthird])]

end Executor

end RecordQuery
