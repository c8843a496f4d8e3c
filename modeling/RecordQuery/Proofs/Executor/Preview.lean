import RecordQuery.Proofs.Executor.Screening
import RecordQuery.Proofs.Executor.Statements
import RecordQuery.Proofs.Executor.Sweep
import RecordQuery.Proofs.Statement.Preview

/-!
# Selections preview deletions

A selection of all bins lists the records that a deletion with the same condition deletes.

* `Store.removeAll`: a store without several records.
* `Executor.run_logged_delete`: a deletion on a store in memory, call by call.
* `Executor.select_previews_delete`: what the selection lists is what the deletion tries and what is
  gone after it.
-/

namespace RecordQuery

/-! ## Several deletions -/

namespace Store

def removeAll (store : Store) (keys : List RecordKey) : Store :=
  keys.foldl remove store

variable {store : Store}

@[simp] theorem connected_removeAll (store : Store) (keys : List RecordKey) :
    (store.removeAll keys).connected = store.connected := by
  unfold removeAll
  induction keys generalizing store with
  | nil => rfl
  | cons key rest ih => rw [List.foldl_cons, ih, connected_remove]

theorem find?_removeAll (store : Store) (keys : List RecordKey) (key : RecordKey) :
    (store.removeAll keys).find? key = if key ∈ keys then none else store.find? key := by
  unfold removeAll
  induction keys generalizing store with
  | nil => rw [if_neg List.not_mem_nil, List.foldl_nil]
  | cons head rest ih =>
    rw [List.foldl_cons, ih, find?_remove]
    by_cases hrest : key ∈ rest
    · rw [if_pos hrest, if_pos (List.mem_cons_of_mem _ hrest)]
    · by_cases hhead : head = key
      · rw [if_neg hrest, if_pos hhead, if_pos (hhead ▸ List.mem_cons_self)]
      · rw [if_neg hrest, if_neg hhead, if_neg (by simp [hrest, Ne.symm hhead])]

theorem Addressed.removeAll (h : store.Addressed) (keys : List RecordKey) :
    (store.removeAll keys).Addressed := by
  refine h.of_find? fun key record hrecord => ?_
  rw [find?_removeAll] at hrecord
  split at hrecord
  · cases hrecord
  · exact hrecord

theorem Addressed.condemned_removeAll (h : store.Addressed) (statement : DeleteStatement) :
    (store.removeAll (store.condemned statement)).condemned statement = [] := by
  refine List.eq_nil_iff_forall_not_mem.2 fun key hkey => ?_
  have hcondemns := ((h.removeAll _).mem_condemned statement key).1 hkey
  have hgone : key ∉ store.condemned statement := by
    intro hmem
    rw [condemns, find?_removeAll, if_pos hmem] at hcondemns
    simp at hcondemns
  rw [condemns, find?_removeAll, if_neg hgone] at hcondemns
  exact hgone ((h.mem_condemned statement key).2 hcondemns)

theorem deleteEach_logged {keys : List RecordKey} (hkeys : keys.Nodup)
    (hconnected : store.connected = true)
    (hfound : ∀ key ∈ keys, (store.find? key).isSome = true) (log : List StoreCall) :
    client.logged.deleteEach keys (store, log) =
      (keys.map fun key => ⟨key, .ok true⟩,
        (store.removeAll keys, log ++ keys.map fun key => .delete key.user)) := by
  induction keys generalizing store log with
  | nil => rw [List.map_nil, List.map_nil, List.append_nil]; rfl
  | cons head rest ih =>
    obtain ⟨hhead, hrest⟩ := List.nodup_cons.1 hkeys
    have hrun : (client.logged.delete head).run (store, log) =
        (.ok true, (store.remove head, log ++ [.delete head.user])) := by
      show ((client.delete head).noted _).run (store, log) = _
      rw [StoreM.run_noted, run_delete hconnected, hfound head List.mem_cons_self]
    have hothers : ∀ key ∈ rest, ((store.remove head).find? key).isSome = true := by
      intro key hkey
      rw [find?_remove, if_neg fun h : head = key => hhead (h ▸ hkey)]
      exact hfound key (List.mem_cons_of_mem _ hkey)
    have hnext := ih hrest (by rw [connected_remove, hconnected]) hothers
      (log ++ [.delete head.user])
    simp only [StoreClient.deleteEach, hrun, hnext]
    simp [removeAll]

theorem Addressed.find?_of_mem_matching (h : store.Addressed) {query : IndexQuery}
    (hbins : query.bins = none) {record : Record} (hmem : record ∈ store.matching query) :
    record.key.target = query.target ∧ store.find? record.key = some record := by
  obtain ⟨record', hfiltered, hproject⟩ := List.mem_map.1 hmem
  obtain rfl : record' = record := by rwa [hbins] at hproject
  obtain ⟨user, hfind⟩ := mem_values_recordsOf.1 (List.mem_filter.1 hfiltered).1
  rw [h _ _ hfind]
  exact ⟨rfl, hfind⟩

end Store

/-- Whether a deletion removes some records of a set from a store and leaves all others as they
are. -/
structure DeleteReport.Removes (report : DeleteReport) (store : Store) (target : SetName)
    (records : List Record) (store' : Store) : Prop where
  found : ∀ record ∈ records, record.key.target = target ∧ store.find? record.key = some record
  remaining : ∀ key,
    store'.find? key = if key ∈ records.map Record.key then none else store.find? key
  matched : report.matched = records.length
  deleted : report.deleted = records.length
  failures : report.failures = []

namespace Executor

/-- **A deletion on a store in memory, call by call**: first a query, then a deletion of each record
that it yields. -/
theorem run_logged_delete {store : Store} (haddressed : store.Addressed)
    (hconnected : store.connected = true) (narrow : Bool) (statement : DeleteStatement) :
    ∃ report,
      ((Executor.mk Store.client narrow).logged.delete statement).run (store, []) =
        (.ok report, (store.removeAll (store.condemned statement),
          .query :: (store.condemned statement).map fun key => .delete key.user)) ∧
      report.Removes store statement.target (store.matching (.ofDelete statement))
        (store.removeAll (store.condemned statement)) := by
  have hquery : (Store.client.logged.query (.ofDelete statement)).run (store, []) =
      (.ok ((store.matching (.ofDelete statement)).map .ok), (store, [.query])) := by
    show ((Store.client.query (.ofDelete statement)).noted _).run (store, []) = _
    rw [StoreM.run_noted, Store.run_query hconnected]
    rfl
  obtain ⟨deletions, s, report, heach, hrun, hmatched, hfailures, hcounted⟩ :=
    (Executor.mk Store.client narrow).logged.delete_answers hquery
  have hdeletions := Store.deleteEach_logged (haddressed.nodup_condemned statement) hconnected
    (fun _ => haddressed.isSome_of_mem_condemned) [.query]
  obtain ⟨rfl, rfl⟩ := Prod.mk.inj (heach.symm.trans hdeletions)
  have hnone : report.failures = [] := by
    rw [hfailures, List.filterMap_map]
    exact List.filterMap_eq_nil_iff.2 fun _ _ => rfl
  have hmissed : List.countP Deletion.missed
      ((store.condemned statement).map fun key => ⟨key, .ok true⟩) = 0 := by
    rw [List.countP_eq_zero]
    rintro deletion hmem
    obtain ⟨key, -, rfl⟩ := List.mem_map.1 hmem
    exact Bool.false_ne_true
  refine ⟨report, hrun, fun record => haddressed.find?_of_mem_matching rfl,
    Store.find?_removeAll store _, hmatched, ?_, hnone⟩
  rw [hmissed, hnone, List.length_nil] at hcounted
  omega

variable {text : List Char} {deletion : DeleteStatement} {store : Store}

theorem run_logged_execute_delete (hparse : Statement.parse text = .ok (.delete deletion))
    (haddressed : store.Addressed) (hconnected : store.connected = true) (narrow : Bool)
    (generated : String) :
    ∃ report,
      ((Executor.mk Store.client narrow).logged.execute generated text).run (store, []) =
        (.ok (.deleted report), (store.removeAll (store.condemned deletion),
          .query :: (store.condemned deletion).map fun key => .delete key.user)) ∧
      report.Removes store deletion.target (store.matching (.ofDelete deletion))
        (store.removeAll (store.condemned deletion)) := by
  obtain ⟨report, hrun, hremoves⟩ := run_logged_delete haddressed hconnected narrow deletion
  refine ⟨report, ?_, hremoves⟩
  rw [run_execute _ hparse hconnected, run, StoreM.run_map, hrun]
  rfl

/-- **A selection previews a deletion.** Where no `FROM` stands in the condition, the selection of all
bins is read as well. What it lists is what the deletion tries, in the same order, and what is gone
after it, and nothing is left for the same deletion then. -/
theorem select_previews_delete {word : List Char} (hword : (Lexeme.word word).IsProper)
    (hfrom : Clause.keywordPositions (tokenize (normalize text)) "FROM" = [])
    (hparse : Statement.parse ("DELETE FROM ".toList ++ word ++ " WHERE ".toList ++ text) =
      .ok (.delete deletion))
    (hreachable : store.Reachable) (hconnected : store.connected = true) (narrow : Bool)
    (generated : String) :
    let executor : Executor Store := ⟨Store.client, narrow⟩
    let deleteText := "DELETE FROM ".toList ++ word ++ " WHERE ".toList ++ text
    let selectText := "SELECT * FROM ".toList ++ word ++ " WHERE ".toList ++ text
    Statement.parse selectText = .ok (.select deletion.selection) ∧
    ∃ records report report' store',
      (Store.client.query (.ofSelect deletion.selection)).run store =
        (.ok (records.map .ok), store) ∧
      (executor.logged.execute generated deleteText).run (store, []) =
        (.ok (.deleted report),
          (store', .query :: records.map fun record => .delete record.key.user)) ∧
      (executor.execute generated deleteText).run store = (.ok (.deleted report), store') ∧
      report.Removes store deletion.target records store' ∧
      (executor.execute generated deleteText).run store' = (.ok (.deleted report'), store') ∧
      report'.matched = 0 := by
  intro executor deleteText selectText
  let store' := store.removeAll (store.condemned deletion)
  have haddressed := hreachable.addressed
  have haddressed' : store'.Addressed := haddressed.removeAll _
  have hconnected' : store'.connected = true := by
    rw [Store.connected_removeAll, hconnected]
  obtain ⟨report, hlogged, hremoves⟩ :=
    run_logged_execute_delete hparse haddressed hconnected narrow generated
  obtain ⟨report', hlogged', hremoves'⟩ :=
    run_logged_execute_delete hparse haddressed' hconnected' narrow generated
  have hagain : store'.condemned deletion = [] := haddressed.condemned_removeAll deletion
  -- The log is no part of what a deletion does, so both runs without it are known as well.
  have hrun := (executor.screened_execute generated deleteText).run_eq hlogged
  have hrun' := (executor.screened_execute generated deleteText).run_eq hlogged'
  rw [hagain] at hrun'
  refine ⟨Statement.parse_select_of_delete hword hfrom hparse, store.matching (.ofDelete deletion),
    report, report', store', Store.run_query hconnected _, ?_, hrun, hremoves, hrun', ?_⟩
  · rw [hlogged, Store.condemned, List.map_map]
    rfl
  · rw [hremoves'.matched, ← List.length_map Record.key]
    exact congrArg List.length hagain

/-- A condition on several words, with a `FROM` between parentheses and a semicolon after it. -/
theorem select_previews_delete_city :
    let key : String → RecordKey := SetName.key ⟨"a", "b"⟩
    let bins : String → Bins := fun city => .ofList [("city", .str city)]
    let store := [StoreEvent.put (key "k1") (bins "New (FROM) York"),
      .put (key "k2") (bins "Bern")].foldl Store.step (Store.empty {})
    let executor : Executor Store := { client := Store.client }
    let text := "a.b".toList ++ " WHERE ".toList ++ "city = New (FROM) York ;".toList
    ∃ selection report store',
      Statement.parse ("SELECT * FROM ".toList ++ text) = .ok (.select selection) ∧
      (executor.execute "" ("DELETE FROM ".toList ++ text)).run store =
        (.ok (.deleted report), store') ∧
      report.deleted = 1 ∧ store'.find? (key "k1") = none ∧
      store'.find? (key "k2") = store.find? (key "k2") := by
  intro key bins store executor text
  let deletion : DeleteStatement := ⟨⟨"a", "b"⟩, ⟨"city", .str "New (FROM) York"⟩⟩
  have hparse : Statement.parse ("DELETE FROM ".toList ++ "a.b".toList ++ " WHERE ".toList ++
      "city = New (FROM) York ;".toList) = .ok (.delete deletion) := by decide +kernel
  have hreachable : store.Reachable := ⟨_, _, rfl⟩
  obtain ⟨hselect, records, report, -, store', hquery, -, hrun, hremoves, -, -⟩ :=
    select_previews_delete ⟨by decide, by decide⟩ (by decide +kernel) hparse hreachable rfl true ""
  have hrecords : records.map Record.key = [key "k1"] := by
    have hmatching := Except.ok.inj (congrArg Prod.fst
      (hquery.symm.trans (Store.run_query rfl (.ofSelect deletion.selection))))
    rw [List.map_injective_iff.2 (fun _ _ => Except.ok.inj) hmatching]
    decide +kernel
  refine ⟨_, report, store', hselect, hrun, ?_, ?_, ?_⟩
  · rw [hremoves.deleted, ← List.length_map Record.key, hrecords]
    rfl
  · rw [hremoves.remaining, hrecords, if_pos List.mem_cons_self]
  · rw [hremoves.remaining, hrecords, if_neg (by decide)]

/-- A semicolon at the end of a text may hide a `FROM`, which the selection then has twice. -/
theorem delete_without_preview :
    let text := "test.users WHERE name = x FROM;".toList
    Clause.keywordPositions (tokenize "name = x FROM;".toList) "FROM" = [] ∧
      Statement.parse ("DELETE FROM ".toList ++ text) =
        .ok (.delete ⟨⟨"test", "users"⟩, ⟨"name", .str "x FROM"⟩⟩) ∧
      Statement.parse ("SELECT * FROM ".toList ++ text) =
        .error (.parse "Invalid SELECT query format.") := by
  decide +kernel

end Executor

end RecordQuery
