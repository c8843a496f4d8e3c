import RecordQuery.Proofs.Executor.Operations
import RecordQuery.Proofs.Executor.Selecting
import RecordQuery.Proofs.Request.Catalogue

/-!
# Browsing

A browse walks over the sets of a namespace, a selection looks one set up. They show the same
records.

* `Row.ofScanned_eq`: the row that a browse shows of a record, from the row that a selection shows.
* `Store.scan_none_eq_flatMap`, `Store.size_eq_sum`: a namespace set by set, and a store space by space.
* `Executor.browse_agrees`: browses, selections and the catalogue agree.
-/

namespace RecordQuery

/-! ## Rows -/

theorem Row.get?_ofScanned (record : Record) (column : String) :
    (Row.ofScanned record).get? column =
      (record.bins.get? column).or
        (if column = "Key" then none else (record.metadata record.key).lookup column) := by
  have hnames : [("Namespace", Value.str record.key.space), ("Set", .str record.key.set),
      ("Generation", .int (Int64.ofNat record.generation.toNat)),
      ("TTL", .int record.ttlSeconds)].map Prod.fst |>.Nodup :=
    show ["Namespace", "Set", "Generation", "TTL"].Nodup by decide
  have hlookup := SortedMap.get?_ofList_of_nodup hnames column
  unfold ofScanned
  rw [SortedMap.get?_insertMany_entries, hlookup]
  congr 1
  by_cases hcolumn : column = "Key"
  · subst hcolumn
    rfl
  · rw [if_neg hcolumn]
    simp only [Record.metadata, SortedMap.lookup_cons, Ne.symm hcolumn, if_false]
    rfl

/-- **The row of a record without its key** is its row with the column of the key removed, unless a
bin of the record has that name. -/
theorem Row.ofScanned_eq (record : Record) :
    Row.ofScanned record =
      if record.bins.contains "Key" = true then Row.ofQueried record
      else (Row.ofQueried record).erase "Key" := by
  apply SortedMap.ext
  intro column
  rw [get?_ofScanned]
  by_cases hbin : record.bins.contains "Key" = true
  · rw [if_pos hbin, get?_ofQueried_eq]
    by_cases hcolumn : column = "Key"
    · obtain ⟨value, hvalue⟩ := Option.isSome_iff_exists.1 hbin
      rw [hcolumn, hvalue]
      rfl
    · rw [if_neg hcolumn]
  · rw [if_neg hbin, SortedMap.get?_erase, get?_ofQueried_eq]
    by_cases hcolumn : column = "Key"
    · rw [hcolumn, if_pos rfl, if_pos rfl, Option.or_none]
      exact Option.not_isSome_iff_eq_none.1 hbin
    · rw [if_neg hcolumn, if_neg (Ne.symm hcolumn)]

/-! ## Stores by namespace and set -/

namespace Store

variable (store : Store)

theorem scan_none (space : String) :
    store.scan space none = (store.setsOf space).values.flatMap SortedMap.values := by
  have hall : ((store.setsOf space).filter fun _ _ => true) = store.setsOf space := by
    apply SortedMap.ext
    intro set
    rw [SortedMap.get?_filter]
    cases (store.setsOf space).get? set <;> rfl
  show ((store.setsOf space).filter fun _ _ => true).values.flatMap SortedMap.values = _
  rw [hall]

theorem scan_none_eq_flatMap (space : String) :
    store.scan space none =
      (store.setsOf space).keys.flatMap fun set => store.scan space (some set) := by
  rw [scan_none, SortedMap.values, SortedMap.keys, List.flatMap_map, List.flatMap_map]
  apply List.flatMap_congr
  intro e he
  rw [scan_set store ⟨space, e.1⟩, recordsOf, (SortedMap.mem_entries_iff _).1 he]
  rfl

theorem size_eq_sum :
    store.size = (store.spaces.keys.map fun space => (store.scan space none).length).sum := by
  rw [size, records, SortedMap.values, SortedMap.keys, List.flatMap_map, List.length_flatMap,
    List.map_map]
  congr 1
  apply List.map_congr_left
  intro e he
  show _ = (store.scan e.1 none).length
  rw [scan_none, setsOf, (SortedMap.mem_entries_iff _).1 he]
  rfl

end Store

/-! ## Browses -/

/-- The selection of all bins of all records of a set. -/
def SelectStatement.everything (target : SetName) : SelectStatement :=
  { target, bins := .all, predicate := none }

namespace Executor

variable {store : Store}

theorem run_browse (hconnected : store.connected = true) (narrow : Bool) (space : String)
    (set : Option String) :
    (browse ⟨Store.client, narrow⟩ space set).run store =
      (.ok ((store.scan space set).map Row.ofScanned), store) := by
  unfold browse
  rw [StoreM.run_bind, run_ensureConnected_of_connected hconnected]
  simp only [StoreM.run_bind, StoreM.run_within, Store.client,
    Store.run_call_of_connected hconnected]
  rfl

theorem matching_everything (store : Store) (target : SetName) :
    store.matching (.ofSelect (.everything target)) =
      store.scan target.space (some target.set) := by
  rw [Store.scan_set]
  exact (store.matching_all target none).trans (List.map_id _)

theorem eq_scan_of_run_query (hconnected : store.connected = true) {target : SetName}
    {records : List Record}
    (h : (Store.client.query (.ofSelect (.everything target))).run store =
      (.ok (records.map .ok), store)) :
    records = store.scan target.space (some target.set) := by
  rw [Store.run_query hconnected, matching_everything] at h
  have hmap := Except.ok.inj (congrArg Prod.fst h)
  exact (List.map_injective_iff.2 (fun _ _ => Except.ok.inj) hmap).symm

/-- **Browses and selections show the same data.** A browse of a set has a row for each record that a
selection of everything has one for, in the same order, and the two rows differ by the column of the
key at most. A browse of a namespace runs through the sets that the catalogue lists for it, in
ascending order; without an entry in the catalogue it is empty. All namespaces of the catalogue
together have a row for every record. -/
theorem browse_agrees (hconnected : store.connected = true) (narrow : Bool) :
    let executor : Executor Store := ⟨Store.client, narrow⟩
    ∃ (catalogue : Catalogue) (rowsOf : String → Option String → List Row),
      executor.catalogue.run store = (.ok catalogue, store) ∧
      (∀ space set, (executor.browse space set).run store = (.ok (rowsOf space set), store)) ∧
      (∀ space set, ∃ records : List Record,
        (executor.client.query (.ofSelect (.everything ⟨space, set⟩))).run store =
          (.ok (records.map .ok), store) ∧
        (executor.select (.everything ⟨space, set⟩)).run store =
          (.ok (records.map Row.ofQueried), store) ∧
        rowsOf space (some set) = records.map fun record =>
          if record.bins.contains "Key" = true then Row.ofQueried record
          else (Row.ofQueried record).erase "Key") ∧
      (∀ space sets, catalogue.get? space = some sets →
        (sets.Pairwise fun a b => Text.utf8Bytes a < Text.utf8Bytes b) ∧
          rowsOf space none = sets.flatMap fun set => rowsOf space (some set)) ∧
      (∀ space, catalogue.get? space = none → rowsOf space none = []) ∧
      (catalogue.keys.map fun space => (rowsOf space none).length).sum = store.size := by
  intro executor
  refine ⟨store.catalogue, fun space set => (store.scan space set).map Row.ofScanned,
    Store.run_catalogue hconnected narrow, run_browse hconnected narrow, fun space set => ?_,
    fun space sets hsets => ?_, fun space hspace => ?_, ?_⟩
  · refine ⟨store.scan space (some set), ?_, ?_, ?_⟩
    · rw [Store.run_query hconnected, matching_everything]
    · rw [run_select hconnected, matching_everything]
    · exact List.map_congr_left fun record _ => Row.ofScanned_eq record
  · have hkeys : (store.setsOf space).keys = sets := by
      rw [Store.catalogue, SortedMap.get?_mapValues] at hsets
      obtain ⟨found, hfound, rfl⟩ := Option.map_eq_some_iff.1 hsets
      rw [Store.setsOf, hfound]
      rfl
    subst hkeys
    refine ⟨List.pairwise_map.2 ((store.setsOf space).sorted.imp Text.lt_iff_utf8Bytes_lt.1), ?_⟩
    show (store.scan space none).map Row.ofScanned = _
    rw [Store.scan_none_eq_flatMap, List.map_flatMap]
  · have hnone : store.spaces.get? space = none := by
      rw [Store.catalogue, SortedMap.get?_mapValues] at hspace
      exact Option.map_eq_none_iff.1 hspace
    show (store.scan space none).map Row.ofScanned = []
    rw [Store.scan_none, Store.setsOf, hnone]
    rfl
  · have hnames : store.catalogue.keys = store.spaces.keys := List.map_map
    rw [hnames, Store.size_eq_sum]
    simp only [List.length_map]

/-- Two namespaces of which one begins the name of the other, a set that was emptied, and a bin that
is named like the column of the key. -/
theorem browse_agrees_emptied :
    let store := [StoreEvent.put ⟨"a", "b", "k1"⟩ (.ofList [("Key", .str "shown")]),
      .put ⟨"a", "b", "k2"⟩ (.ofList [("n", .int 1)]), .put ⟨"a", "empty", "k3"⟩ .empty,
      .delete ⟨"a", "empty", "k3"⟩, .put ⟨"ab", "b", "k4"⟩ .empty].foldl Store.step (Store.empty {})
    let executor : Executor Store := { client := Store.client }
    store.connected = true ∧ store.catalogue.get? "a" = some ["b", "empty"] ∧
      store.catalogue.get? "c" = none ∧ ∃ first second : Row,
        (executor.select (.everything ⟨"a", "b"⟩)).run store = (.ok [first, second], store) ∧
        (executor.browse "a" none).run store = (.ok [first, second.erase "Key"], store) ∧
        (executor.browse "c" none).run store = (.ok [], store) := by
  intro store executor
  have hconnected : store.connected = true := rfl
  have hlists : store.catalogue.get? "a" = some ["b", "empty"] := by rfl
  have hnone : store.catalogue.get? "c" = none := by rfl
  obtain ⟨catalogue, rowsOf, hcatalogue, hbrowse, hsets, hlisted, hunlisted, -⟩ :=
    browse_agrees hconnected true
  obtain rfl : store.catalogue = catalogue :=
    Except.ok.inj (congrArg Prod.fst ((Store.run_catalogue hconnected true).symm.trans hcatalogue))
  obtain ⟨records, hquery, hselect, hrows⟩ := hsets "a" "b"
  obtain ⟨emptied, hquery', -, hrows'⟩ := hsets "a" "empty"
  obtain rfl := eq_scan_of_run_query hconnected hquery
  obtain rfl := eq_scan_of_run_query hconnected hquery'
  obtain ⟨-, hspace⟩ := hlisted "a" _ hlists
  refine ⟨hconnected, hlists, hnone, _, _, hselect.trans (by rfl), ?_, ?_⟩
  · rw [hbrowse, hspace]
    simp only [List.flatMap_cons, List.flatMap_nil, List.append_nil]
    rw [hrows, hrows']
    rfl
  · rw [hbrowse, hunlisted "c" hnone]

end Executor

end RecordQuery
