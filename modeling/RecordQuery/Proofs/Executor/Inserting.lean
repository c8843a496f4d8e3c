import RecordQuery.Proofs.Executor.Statements
import RecordQuery.Proofs.Executor.Sweep
import RecordQuery.Proofs.Executor.Updating
import RecordQuery.Proofs.SortedMap

/-!
# Insertions

What an insertion has written is found by it.

* `InsertStatement.get?_written`: the bins of a record after an insertion.
* `Row.get?_ofQueried`: the bins of a record hide its metadata in its row.
* `Store.Addressed.exists_split`: a record is listed once in its set.
* `Executor.insert_then_select`: a selection by a value that was written lists the record once, with
  all that was written, and no other record has changed.
-/

namespace RecordQuery

/-! ## What is written -/

theorem Literal.isNil_toValue (literal : Literal) : literal.toValue.isNil = false := by
  cases literal <;> rfl

theorem InsertStatement.isNil_resolve (statement : InsertStatement) (generated : String)
    {name : String} {value : Value}
    (h : (statement.resolve generated).bins.get? name = some value) : value.isNil = false := by
  rw [resolve_eq_writeUnder, writeUnder, SortedMap.get?_insert] at h
  by_cases hname : keyBin = name
  · rw [if_pos hname] at h
    cases h
    rfl
  · rw [if_neg hname] at h
    obtain ⟨pair, -, hpair⟩ := List.mem_map.1 (SortedMap.mem_of_get?_ofList h)
    cases hpair
    exact pair.2.isNil_toValue

theorem InsertStatement.get?_written (statement : InsertStatement) (generated : String)
    (key : RecordKey) (ttl : Option UInt32) (before : Option Record) (name : String) :
    (Record.written key (statement.resolve generated).bins ttl before).bins.get? name =
      ((statement.resolve generated).bins.get? name).or
        (before.bind fun record => record.bins.get? name) := by
  rw [Record.get?_written]
  cases hvalue : (statement.resolve generated).bins.get? name with
  | none => rfl
  | some value =>
    have hnil := statement.isNil_resolve generated hvalue
    simp [hnil]

theorem BinFilter.holds_ofEquality {bins : Bins} {bin : String} {literal : Literal}
    (hbin : bins.get? bin = some literal.toValue) (hfloat : ∀ number, literal ≠ .float number) :
    (BinFilter.ofEquality ⟨bin, literal⟩).holds bins = true := by
  cases literal with
  | str text => simp [holds, ofEquality, FilterValue.ofLiteral, hbin, Literal.toValue]
  | int number => simp [holds, ofEquality, FilterValue.ofLiteral, hbin, Literal.toValue]
  | float number => exact absurd rfl (hfloat number)

@[simp] theorem Record.key_project (record : Record) (bins : Option (List String)) :
    (record.project bins).key = record.key := by
  cases bins <;> rfl

theorem Row.get?_ofQueried (record : Record) {name : String} {value : Value}
    (h : record.bins.get? name = some value) : (Row.ofQueried record).get? name = some value := by
  unfold ofQueried
  rw [SortedMap.get?_insertMany_entries, h]
  rfl

/-! ## Where it is found -/

namespace Store

theorem Addressed.exists_split {store : Store} (h : store.Addressed) {key : RecordKey}
    {record : Record} (hrecord : store.find? key = some record) :
    ∃ before after, (store.recordsOf key.target).values = before ++ record :: after ∧
      ∀ other ∈ before ++ after, other.key ≠ key := by
  have hmem : record ∈ (store.recordsOf key.target).values :=
    mem_values_recordsOf.2 ⟨key.user, hrecord⟩
  obtain ⟨before, after, hsplit⟩ := List.append_of_mem hmem
  refine ⟨before, after, hsplit, fun other hother => ?_⟩
  have hpairwise := h.pairwise_recordsOf key.target
  rw [hsplit, List.pairwise_append, List.pairwise_cons] at hpairwise
  obtain ⟨-, ⟨hafter, -⟩, hbefore⟩ := hpairwise
  rintro rfl
  have hkey : record.key = other.key := h other.key record hrecord
  obtain hmem | hmem := List.mem_append.1 hother
  · have hlt := hbefore other hmem record List.mem_cons_self
    rw [hkey] at hlt
    exact String.lt_irrefl _ hlt
  · have hlt := hafter other hmem
    rw [hkey] at hlt
    exact String.lt_irrefl _ hlt

theorem Addressed.exists_split_matching {store : Store} (h : store.Addressed) {key : RecordKey}
    {record : Record} (hrecord : store.find? key = some record) (query : IndexQuery)
    (htarget : query.target = key.target)
    (hholds : query.filter.all (fun filter => filter.holds record.bins) = true) :
    ∃ before after,
      store.matching query = before ++ record.project query.bins :: after ∧
      ∀ other ∈ before ++ after, other.key ≠ key := by
  obtain ⟨before, after, hsplit, hothers⟩ := h.exists_split hrecord
  let kept := fun records : List Record =>
    (records.filter fun record => query.filter.all fun filter => filter.holds record.bins).map
      fun record => record.project query.bins
  refine ⟨kept before, kept after, ?_, ?_⟩
  · unfold matching
    rw [htarget, hsplit, List.filter_append, List.filter_cons, if_pos hholds, List.map_append,
      List.map_cons]
  · intro other hother
    rw [← List.map_append, ← List.filter_append] at hother
    obtain ⟨original, hmem, rfl⟩ := List.mem_map.1 hother
    rw [Record.key_project]
    exact hothers original (List.mem_of_mem_filter hmem)

end Store

/-! ## Runs -/

namespace Executor

theorem run_select {store : Store} (hconnected : store.connected = true) (narrow : Bool)
    (selection : SelectStatement) :
    ((Executor.mk Store.client narrow).select selection).run store =
      (.ok ((store.matching (.ofSelect selection)).map Row.ofQueried), store) := by
  unfold select
  rw [StoreM.run_bind, run_fetch _ (Store.run_query hconnected _), collect_ok]
  rfl

theorem run_insert {store : Store} (hconnected : store.connected = true) (narrow : Bool)
    (generated : String) (statement : InsertStatement) :
    ((Executor.mk Store.client narrow).insert generated statement).run store =
      (.ok (statement.resolve generated).key,
        store.write (statement.resolve generated).key (statement.resolve generated).bins) := by
  unfold insert
  dsimp only
  rw [StoreM.run_bind, StoreM.run_within]
  simp only [Store.client, Store.run_call_of_connected hconnected]
  rfl

variable {text : List Char} {statement : InsertStatement} {store : Store}

theorem run_execute_insert (hparse : Statement.parse text = .ok (.insert statement))
    (hconnected : store.connected = true) (narrow : Bool) (generated : String) :
    ((Executor.mk Store.client narrow).execute generated text).run store =
      (.ok (.inserted (statement.resolve generated).key statement.explicitKey?.isNone),
        store.write (statement.resolve generated).key (statement.resolve generated).bins) := by
  rw [run_execute _ hparse hconnected, run, StoreM.run_map, run_insert hconnected]
  rfl

/-- **What an insertion writes is found by it.** An insertion changes one record. By every string and
every integer that it writes, a selection lists that record exactly once, whatever bins it shows. If
it shows all, the row has every bin that was written, even one named like a column of metadata, and
every other bin that the record had before. -/
theorem insert_then_select (hparse : Statement.parse text = .ok (.insert statement))
    (hreachable : store.Reachable) (hconnected : store.connected = true) (narrow : Bool)
    (generated : String) :
    let executor : Executor Store := ⟨Store.client, narrow⟩
    let write := statement.resolve generated
    ∃ store',
      (executor.execute generated text).run store =
        (.ok (.inserted write.key statement.explicitKey?.isNone), store') ∧
      (∀ other, other ≠ write.key → store'.find? other = store.find? other) ∧
      ∀ (selection : SelectStatement) (bin : String) (literal : Literal),
        selection.target = statement.target → selection.predicate = some ⟨bin, literal⟩ →
        write.bins.get? bin = some literal.toValue → (∀ number, literal ≠ .float number) →
        ∃ before record after,
          (Store.client.query (.ofSelect selection)).run store' =
            (.ok ((before ++ record :: after).map .ok), store') ∧
          (executor.select selection).run store' =
            (.ok ((before ++ record :: after).map Row.ofQueried), store') ∧
          record.key = write.key ∧ (∀ other ∈ before ++ after, other.key ≠ write.key) ∧
          (selection.bins = .all → ∀ name value,
            (write.bins.get? name).or (store.bin? write.key name) = some value →
              (Row.ofQueried record).get? name = some value) := by
  intro executor write
  let store' := store.write write.key write.bins
  have haddressed : store'.Addressed := hreachable.addressed.write write.key write.bins
  have hconnected' : store'.connected = true := hconnected
  let record := Record.written write.key write.bins store.settings.defaultTtl
    (store.find? write.key)
  have hrecord : store'.find? write.key = some record := by
    rw [Store.find?_write, if_pos rfl]
  have hbins : ∀ name, record.bins.get? name =
      (write.bins.get? name).or (store.bin? write.key name) :=
    statement.get?_written generated _ _ _
  refine ⟨store', run_execute_insert hparse hconnected narrow generated, fun other hother => ?_, ?_⟩
  · rw [Store.find?_write, if_neg (Ne.symm hother)]
  · intro selection bin literal htarget hpredicate hbin hfloat
    have hholds : (IndexQuery.ofSelect selection).filter.all
        (fun filter => filter.holds record.bins) = true := by
      have hfound : record.bins.get? bin = some literal.toValue := by
        rw [hbins, hbin]
        rfl
      rw [IndexQuery.ofSelect, hpredicate]
      exact BinFilter.holds_ofEquality hfound hfloat
    -- the condition is decided on all bins, so the projection does not matter for what is listed
    obtain ⟨before, after, hmatching, hothers⟩ :=
      haddressed.exists_split_matching hrecord (.ofSelect selection) htarget hholds
    refine ⟨before, record.project (IndexQuery.ofSelect selection).bins, after, ?_, ?_, ?_, hothers,
      fun hall name value hvalue => ?_⟩
    · rw [← hmatching, Store.run_query hconnected']
    · rw [← hmatching, run_select hconnected']
    · rw [Record.key_project]
      exact haddressed _ _ hrecord
    · have hwhole : record.project (IndexQuery.ofSelect selection).bins = record := by
        rw [IndexQuery.ofSelect, hall]
        rfl
      rw [hwhole]
      exact Row.get?_ofQueried record ((hbins name).trans hvalue)

/-- An insertion over a record, with a bin named like a column of metadata and a bin named twice. -/
theorem insert_then_select_clash :
    let key : RecordKey := ⟨"a", "b", "x"⟩
    let store := [StoreEvent.put key (.ofList [("age", .int 30), ("n", .int 0)])].foldl Store.step
      (Store.empty {})
    let executor : Executor Store := { client := Store.client }
    let text := "INSERT INTO a.b (KEY, TTL, n, n) VALUES (x, never, 1, 2);".toList
    ∃ store' rows, (executor.execute "" text).run store = (.ok (.inserted key false), store') ∧
      (executor.select ⟨⟨"a", "b"⟩, .all, some ⟨"n", .int 2⟩⟩).run store' = (.ok rows, store') ∧
      ∃ row ∈ rows, row.get? "TTL" = some (.str "never") ∧ row.get? "PK" = some (.str "x") ∧
        row.get? "n" = some (.int 2) ∧ row.get? "age" = some (.int 30) := by
  intro key store executor text
  let statement : InsertStatement :=
    ⟨⟨"a", "b"⟩, ["KEY", "TTL", "n", "n"], [.str "x", .str "never", .int 1, .int 2]⟩
  have hparse : Statement.parse text = .ok (.insert statement) := by decide +kernel
  have hreachable : store.Reachable := ⟨_, _, rfl⟩
  obtain ⟨store', hrun, -, hselect⟩ := insert_then_select hparse hreachable rfl true ""
  obtain ⟨before, record, after, -, hrows, -, -, hrow⟩ :=
    hselect ⟨⟨"a", "b"⟩, .all, some ⟨"n", .int 2⟩⟩ "n" (.int 2) rfl rfl rfl (by simp)
  refine ⟨store', _, hrun, hrows, Row.ofQueried record, ?_, ?_⟩
  · exact List.mem_map_of_mem (List.mem_append_right _ List.mem_cons_self)
  · exact ⟨hrow rfl _ _ rfl, hrow rfl _ _ rfl, hrow rfl _ _ rfl, hrow rfl _ _ rfl⟩

end Executor

end RecordQuery
