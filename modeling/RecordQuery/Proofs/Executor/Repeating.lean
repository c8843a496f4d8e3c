import RecordQuery.Proofs.Executor.Statements
import RecordQuery.Proofs.Executor.Updating
import RecordQuery.Proofs.Statement.Shape

/-!
# Updates that are run twice

What an update has written it reads again when it is run once more.

* `UpdateStatement.exists_raw`: every assignment of a statement that is read comes from a text.
* `Executor.run_update_of_connected`: an update of the store in memory.
* `UpdateStatement.Overflows`: the bins that come to be as doubles beyond the finite ones.
* `Executor.update_twice_iff`: the other bins are the same after one run and after two.
-/

namespace RecordQuery

namespace UpdateStatement

/-! ## Assignments of statements that are read -/

theorem exists_raw_of_assignments {clause : Clause} {assignments : SortedMap Assignment}
    (h : clause.assignments = .ok assignments) {bin : String} {assignment : Assignment}
    (hget : assignments.get? bin = some assignment) : ∃ raw, assignment = .ofRaw raw := by
  unfold Clause.assignments at h
  split at h
  · cases h
    cases hget
  · obtain ⟨entries, hentries, rfl⟩ := map_eq_ok_iff.1 h
    obtain ⟨part, -, hpart⟩ := exists_of_mem_mapM hentries (SortedMap.mem_of_get?_ofList hget)
    unfold Clause.assignment at hpart
    split at hpart
    · split at hpart
      · cases hpart
      · split at hpart
        · cases hpart
        · cases hpart
          exact ⟨_, rfl⟩
    · cases hpart

theorem exists_raw {text : List Char} {statement : UpdateStatement}
    (h : Statement.parse text = .ok (.update statement)) {bin : String} {assignment : Assignment}
    (hget : statement.assignments.get? bin = some assignment) :
    ∃ raw, assignment = .ofRaw raw := by
  have hread := map_eq_ok_iff.1 (Statement.parse_eq_ok_iff.1 h).2
  obtain ⟨statement', hclause, heq⟩ := hread
  cases heq
  obtain ⟨-, -, position, assignments, -, -, hassignments, -, -, hkept, -⟩ :=
    UpdateStatement.ofClause_eq_ok_iff.1 hclause
  rw [hkept, SortedMap.get?_filter, Option.filter_eq_some_iff] at hget
  exact exists_raw_of_assignments hassignments hget.1

/-! ## Bins that an update writes twice -/

variable (statement : UpdateStatement) (store : Store)

/-- Whether an update makes a bin that is not there, of a double beyond the finite ones. -/
def Overflows (bin : String) : Prop :=
  store.bin? statement.key bin = none ∧
    ∃ assignment, statement.assignments.get? bin = some assignment ∧
      assignment.isBeyondRange = true

/-- The store after an update that keeps types. -/
def updated : Store :=
  store.write statement.key (statement.written (store.bin? statement.key))

theorem find?_updated (key : RecordKey) :
    (statement.updated store).find? key =
      if statement.key = key then
        some (.written statement.key (statement.written (store.bin? statement.key))
          store.settings.defaultTtl (store.find? statement.key))
      else store.find? key :=
  Store.find?_write ..

theorem bin?_updated_updated_iff
    (hraw : ∀ bin assignment, statement.assignments.get? bin = some assignment →
      ∃ raw, assignment = .ofRaw raw) (bin : String) :
    (statement.updated (statement.updated store)).bin? statement.key bin =
        (statement.updated store).bin? statement.key bin ↔
      ¬statement.Overflows store bin := by
  unfold Overflows
  cases hassignment : statement.assignments.get? bin with
  | none =>
    have hsame : (statement.updated (statement.updated store)).bin? statement.key bin =
        (statement.updated store).bin? statement.key bin := by
      rw [updated, bin?_write, get?_written, hassignment]
      rfl
    simp [hsame]
  | some assignment =>
    obtain ⟨raw, rfl⟩ := hraw bin assignment hassignment
    have honce : (statement.updated store).bin? statement.key bin =
        some (narrowAssignment bin (.ofRaw raw) (store.bin? statement.key bin)).value :=
      statement.bin?_written _ store hassignment
    have htwice : (statement.updated (statement.updated store)).bin? statement.key bin =
        some (narrowAssignment bin (.ofRaw raw)
          ((statement.updated store).bin? statement.key bin)).value :=
      statement.bin?_written _ _ hassignment
    -- What the second run goes by in the bin is what the first run has made of the same text.
    rw [htwice, honce, Assignment.value_narrowAssignment_twice, Option.some.injEq]
    simp only [Option.some.injEq, exists_eq_left']
    split
    next hoverflows =>
      rw [hoverflows.1]
      exact iff_of_false (Assignment.toValue_ne_str hoverflows.2 _).symm
        (not_not_intro ⟨rfl, hoverflows.2⟩)
    next hoverflows => exact iff_of_true rfl hoverflows

end UpdateStatement

namespace Executor

theorem run_update_of_connected (statement : UpdateStatement) {store : Store}
    (hconnected : store.connected = true) :
    ((Executor.mk Store.client true).update statement).run store =
      (.ok (statement.reported (store.bin? statement.key)), statement.updated store) :=
  run_update hconnected true statement

theorem run_execute_update {text : List Char} {statement : UpdateStatement}
    (hparse : Statement.parse text = .ok (.update statement)) {store : Store}
    (hconnected : store.connected = true) (generated : String) :
    ((Executor.mk Store.client true).execute generated text).run store =
      (.ok (.updated (statement.reported (store.bin? statement.key))),
        statement.updated store) := by
  rw [run_execute _ hparse hconnected, run, StoreM.run_map,
    run_update_of_connected statement hconnected]
  rfl

/-- **Updates that are run twice.** The second run changes nothing but the generation of the record,
unless the first one has made a bin of a double beyond the finite ones. Such a bin is changed, since
the second run does not read its text as a double. -/
theorem update_twice_iff {text : List Char} {statement : UpdateStatement}
    (hparse : Statement.parse text = .ok (.update statement)) {store : Store}
    (hconnected : store.connected = true) (generated generated' : String) :
    let executor : Executor Store := { client := Store.client }
    ∃ report report' once twice record record',
      (executor.execute generated text).run store = (.ok (.updated report), once) ∧
      (executor.execute generated' text).run once = (.ok (.updated report'), twice) ∧
      (∀ key, key ≠ statement.key → twice.find? key = once.find? key) ∧
      once.find? statement.key = some record ∧ twice.find? statement.key = some record' ∧
      record'.key = record.key ∧ record'.ttl = record.ttl ∧
      record'.generation = record.generation + 1 ∧
      (∀ bin, record'.bins.get? bin = record.bins.get? bin ↔ ¬statement.Overflows store bin) ∧
      (record'.bins = record.bins ↔ ∀ bin, ¬statement.Overflows store bin) := by
  intro executor
  let once := statement.updated store
  have hconnected' : once.connected = true := hconnected
  let twice := statement.updated once
  let record := Record.written statement.key (statement.written (store.bin? statement.key))
    store.settings.defaultTtl (store.find? statement.key)
  have honce : once.find? statement.key = some record := by
    rw [UpdateStatement.find?_updated, if_pos rfl]
  obtain ⟨record', htwice, hkey, httl, hgeneration⟩ : ∃ record', twice.find? statement.key =
      some record' ∧ record'.key = record.key ∧ record'.ttl = record.ttl ∧
        record'.generation = record.generation + 1 := by
    refine ⟨_, by rw [UpdateStatement.find?_updated, if_pos rfl], ?_⟩
    rw [honce]
    refine ⟨rfl, ?_, rfl⟩
    cases hfind : store.find? statement.key <;> simp only [record, hfind] <;> rfl
  have hbins : ∀ bin, record'.bins.get? bin = record.bins.get? bin ↔
      ¬statement.Overflows store bin := by
    intro bin
    rw [← Store.bin?_of_find? htwice, ← Store.bin?_of_find? honce]
    exact statement.bin?_updated_updated_iff store (fun _ _ => UpdateStatement.exists_raw hparse) bin
  refine ⟨_, _, once, twice, record, record', run_execute_update hparse hconnected generated,
    run_execute_update hparse hconnected' generated', fun key hne => ?_, honce, htwice, hkey, httl,
    hgeneration, hbins, ?_⟩
  · rw [UpdateStatement.find?_updated, if_neg (Ne.symm hne)]
  · constructor
    · intro hsame bin
      exact (hbins bin).1 (by rw [hsame])
    · intro hnone
      exact SortedMap.ext fun bin => (hbins bin).2 (hnone bin)

/-- A numeral with leading zeros, one beyond the words and a quoted one, for a bin that is there and
for two that are not. -/
theorem update_twice_iff_zeros :
    let text := "UPDATE a.b SET n = 007, m = 9223372036854775808, s = '1' WHERE k = 'x'".toList
    let key : RecordKey := ⟨"a", "b", "x"⟩
    let store := (Store.empty {}).write key (.ofList [("n", .float 0.5)])
    let executor : Executor Store := { client := Store.client }
    ∃ once twice record record',
      ((executor.execute "" text).run store).2 = once ∧
      ((executor.execute "" text).run once).2 = twice ∧
      once.find? key = some record ∧ twice.find? key = some record' ∧
      record'.bins = record.bins ∧ record'.generation = record.generation + 1 := by
  intro text key store executor
  let statement : UpdateStatement :=
    { target := ⟨"a", "b"⟩
      assignments := .ofList [("n", .ofRaw "007".toList),
        ("m", .ofRaw "9223372036854775808".toList), ("s", .ofRaw "'1'".toList)]
      predicate := ⟨"k", .str "x"⟩ }
  have hparse : Statement.parse text = .ok (.update statement) := by decide +kernel
  have hconnected : store.connected = true := rfl
  obtain ⟨report, report', once, twice, record, record', honce, htwice, -, hrecord, hrecord', -, -,
    hgeneration, -, hbins⟩ := update_twice_iff hparse hconnected "" ""
  refine ⟨once, twice, record, record', congrArg Prod.snd honce, congrArg Prod.snd htwice, hrecord,
    hrecord', hbins.2 ?_, hgeneration⟩
  rintro bin ⟨-, assignment, hget, hbeyond⟩
  have hwithin : ∀ e ∈ [("n", Assignment.ofRaw "007".toList),
      ("m", .ofRaw "9223372036854775808".toList), ("s", .ofRaw "'1'".toList)],
      e.2.isBeyondRange = false := by decide +kernel
  exact Bool.noConfusion ((hwithin _ (SortedMap.mem_of_get?_ofList hget)).symm.trans hbeyond)

/-- A numeral beyond the doubles is a double after one run and a string after two. -/
theorem update_twice_beyond_range :
    let text := "UPDATE a.b SET n = 1".toList ++ List.replicate 309 '0' ++ " WHERE k = 'x'".toList
    let executor : Executor Store := { client := Store.client }
    let once := ((executor.execute "" text).run (Store.empty {})).2
    let twice := ((executor.execute "" text).run once).2
    (once.bin? ⟨"a", "b", "x"⟩ "n").map Value.typeName = some "Double" ∧
      (twice.bin? ⟨"a", "b", "x"⟩ "n").map Value.typeName = some "String" := by
  intro text executor once twice
  obtain ⟨assignment, hraw⟩ : ∃ assignment, assignment = Assignment.ofRaw
    ('1' :: List.replicate 309 '0') := ⟨_, rfl⟩
  let statement : UpdateStatement :=
    { target := ⟨"a", "b"⟩
      assignments := .ofList [("n", assignment)]
      predicate := ⟨"k", .str "x"⟩ }
  have hparse : Statement.parse text = .ok (.update statement) := by
    subst hraw
    decide +kernel
  have hstep : ∀ store : Store, store.connected = true →
      ((executor.execute "" text).run store).2 = statement.updated store := by
    intro store hconnected
    rw [run_execute_update hparse hconnected]
  have honce : once = statement.updated (Store.empty {}) := hstep _ rfl
  have htwice : twice = statement.updated once := hstep once (by rw [honce]; rfl)
  -- What is left is about one bin, so that nothing evaluates the two stores.
  clear_value once twice
  clear hstep hparse
  have hkey : statement.key = ⟨"a", "b", "x"⟩ := rfl
  have hbin : once.bin? statement.key "n" = some assignment.value.toValue := by
    rw [honce]
    exact statement.bin?_written _ _ rfl
  have hbin' : twice.bin? statement.key "n" = some (.str assignment.text) := by
    have hbeyond : assignment.isBeyondRange = true := by
      subst hraw
      decide +kernel
    have hagain := Assignment.value_narrowAssignment_twice "n" ('1' :: List.replicate 309 '0') none
    rw [← hraw, if_pos ⟨rfl, hbeyond⟩] at hagain
    rw [htwice, ← hagain]
    exact (statement.bin?_written _ _ rfl).trans (by rw [hbin]; rfl)
  have hdouble : assignment.value.toValue.typeName = "Double" := by
    subst hraw
    decide +kernel
  rw [hkey] at hbin hbin'
  rw [hbin, hbin']
  exact ⟨congrArg some hdouble, rfl⟩

end Executor

end RecordQuery
