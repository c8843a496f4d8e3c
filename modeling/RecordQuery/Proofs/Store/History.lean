import RecordQuery.Proofs.Record
import RecordQuery.Proofs.SortedMap
import RecordQuery.Proofs.Store.Changes
import RecordQuery.Proofs.Text.ByteOrder
import Mathlib.Data.List.DropRight

/-!
# Stores and their histories

A store tells of its history this much: what is at an address is what the writes to it since it was
last cleared leave there.

* `StoreChange.writesTo`: those writes.
* `Store.find?_foldl_apply`: the record at an address after a row of changes.
* `Store.located`: the records of a store with their addresses, of which none is listed twice.
* `Store.Reports`, `Store.Refuses`: what a store answers with a connection and without one.
* `Store.refines_history`: what a store answers after any run of events.
-/

namespace RecordQuery

/-! ## Histories -/

namespace StoreChange

/-- The bins that a change writes to an address. -/
def writtenTo? (key : RecordKey) : StoreChange → Option Bins
  | write other bins => if other = key then some bins else none
  | _ => none

/-- Whether no record is at an address after a change. -/
def clears (key : RecordKey) : StoreChange → Bool
  | remove other => other = key
  | dropSet target => target = key.target
  | _ => false

/-- The writes to an address since the last change that clears it, in order. -/
def writesTo (key : RecordKey) (changes : List StoreChange) : List Bins :=
  (changes.rtakeWhile fun change => !change.clears key).filterMap (writtenTo? key)

theorem writesTo_concat (key : RecordKey) (changes : List StoreChange) (change : StoreChange) :
    writesTo key (changes ++ [change]) =
      if change.clears key then [] else writesTo key changes ++ (change.writtenTo? key).toList := by
  unfold writesTo
  rw [List.rtakeWhile_concat]
  cases hclears : change.clears key with
  | true => rfl
  | false =>
    cases hwritten : change.writtenTo? key <;> simp [hwritten]

end StoreChange

namespace Store

theorem find?_apply (store : Store) (change : StoreChange) (key : RecordKey) :
    (store.apply change).find? key =
      if change.clears key then none
      else
        match change.writtenTo? key with
        | some bins =>
          some (Record.written key bins store.settings.defaultTtl (store.find? key))
        | none => store.find? key := by
  cases change with
  | declare space => exact find?_declare store space key
  | write other bins =>
    simp only [apply, find?_write, StoreChange.clears, StoreChange.writtenTo?]
    by_cases hkey : other = key
    · subst hkey
      simp
    · simp [hkey]
  | remove other =>
    simp only [apply, find?_remove, StoreChange.clears, StoreChange.writtenTo?,
      decide_eq_true_eq]
  | dropSet target =>
    simp only [apply, find?_dropSet, StoreChange.clears, StoreChange.writtenTo?,
      decide_eq_true_eq]

/-- **What is at an address after a row of changes** is what the writes since it was last cleared
leave there. -/
theorem find?_foldl_apply (settings : ClientSettings) (changes : List StoreChange)
    (key : RecordKey) :
    (changes.foldl apply (empty settings)).find? key =
      Record.afterWrites key settings.defaultTtl (StoreChange.writesTo key changes) := by
  -- By the last change, since it is the last one that clears an address which counts.
  induction changes using List.reverseRecOn with
  | nil => rfl
  | append_singleton changes change ih =>
    rw [List.foldl_append, List.foldl_cons, List.foldl_nil, find?_apply, ih,
      settings_foldl_apply, StoreChange.writesTo_concat]
    cases change.clears key with
    | true => rfl
    | false =>
      cases change.writtenTo? key with
      | none => simp
      | some bins => simp [Record.afterWrites_concat, empty]

/-! ## Listings -/

theorem scan_set (store : Store) (target : SetName) :
    store.scan target.space (some target.set) = (store.recordsOf target).values := by
  unfold scan recordsOf
  simp only [Option.all_some]
  rw [SortedMap.values_filter_name]
  cases (store.setsOf target.space).get? target.set with
  | none => rfl
  | some records => simp

theorem matching_all (store : Store) (target : SetName) (bins : Option (List String)) :
    store.matching { target, bins, filter := none } =
      (store.recordsOf target).values.map fun record => record.project bins := by
  unfold matching
  simp

/-- The records of a store, each with the address that it is at. -/
def located (store : Store) : List (RecordKey × Record) :=
  store.spaces.entries.flatMap fun space =>
    space.2.entries.flatMap fun set =>
      set.2.entries.map fun e => (⟨space.1, set.1, e.1⟩, e.2)

theorem records_eq_located (store : Store) : store.records = store.located.map Prod.snd := by
  unfold records located SortedMap.values
  simp [List.flatMap_map, List.map_flatMap, Function.comp_def]

theorem mem_located {store : Store} {key : RecordKey} {record : Record} :
    (key, record) ∈ store.located ↔ store.find? key = some record := by
  unfold located
  simp only [List.mem_flatMap, List.mem_map]
  constructor
  · rintro ⟨⟨space, sets⟩, hsets, ⟨set, records⟩, hrecords, ⟨user, _⟩, hrecord, heq⟩
    cases heq
    rw [SortedMap.mem_entries_iff] at hsets hrecords hrecord
    simp [find?, recordsOf, setsOf, RecordKey.target, hsets, hrecords, hrecord]
  · intro h
    obtain ⟨space, set, user⟩ := key
    cases hsets : store.spaces.get? space with
    | none => simp [find?, recordsOf, setsOf, RecordKey.target, hsets] at h
    | some sets =>
      cases hrecords : sets.get? set with
      | none => simp [find?, recordsOf, setsOf, RecordKey.target, hsets, hrecords] at h
      | some records =>
        have hrecord : records.get? user = some record := by
          simpa [find?, recordsOf, setsOf, RecordKey.target, hsets, hrecords] using h
        exact ⟨(space, sets), (SortedMap.mem_entries_iff _).2 hsets, (set, records),
          (SortedMap.mem_entries_iff _).2 hrecords, (user, record),
          (SortedMap.mem_entries_iff _).2 hrecord, rfl⟩

theorem nodup_located (store : Store) : (store.located.map Prod.fst).Nodup := by
  unfold located List.Nodup
  rw [List.pairwise_map, List.pairwise_flatMap]
  refine ⟨fun space _ => ?_, store.spaces.sorted.imp fun {a b} hlt => ?_⟩
  · rw [List.pairwise_flatMap]
    refine ⟨fun set _ => ?_, space.2.sorted.imp fun {a b} hlt => ?_⟩
    · rw [List.pairwise_map]
      refine set.2.sorted.imp fun {a b} hlt heq => ?_
      exact String.lt_irrefl _ ((RecordKey.mk.inj heq).2.2 ▸ hlt)
    · simp only [List.mem_map]
      rintro _ ⟨e, -, rfl⟩ _ ⟨e', -, rfl⟩ heq
      exact String.lt_irrefl _ ((RecordKey.mk.inj heq).2.1 ▸ hlt)
  · simp only [List.mem_flatMap, List.mem_map]
    rintro _ ⟨set, -, e, -, rfl⟩ _ ⟨set', -, e', -, rfl⟩ heq
    exact String.lt_irrefl _ ((RecordKey.mk.inj heq).1 ▸ hlt)

theorem size_eq_length_located (store : Store) :
    store.size = (store.located.map Prod.fst).length := by
  rw [size, records_eq_located, List.length_map, List.length_map]

/-! ## Answers -/

/-- A connected store answers reads from what the writes to each address leave there. -/
structure Reports (store : Store) (ttl : Option UInt32) (writes : RecordKey → List Bins) :
    Prop where
  /-- There is a record at an address exactly if writes to it are left, and it holds what they leave. -/
  get : ∀ key, ∃ found, (client.get key none).run store = (.ok found, store) ∧
    (found.isSome = true ↔ writes key ≠ []) ∧
    ∀ record, found = some record →
      record.key = key ∧
      (∀ name, record.bins.get? name = Bins.lastWritten? (writes key) name) ∧
      (∀ name, record.bins.get? name ≠ some .nil) ∧
      ((writes key).length < UInt32.size → record.generation.toNat = (writes key).length) ∧
      record.ttl = ttl
  /-- A scan of a set and a query without a condition list its records in ascending order of the
  bytes of their keys. -/
  list : ∀ target, ∃ records,
    (client.scan target.space (some target.set)).run store = (.ok records, store) ∧
    (∀ bins, (client.query { target, bins, filter := none }).run store =
      (.ok (records.map fun record => .ok (record.project bins)), store)) ∧
    (records.Pairwise fun a b => Text.utf8Bytes a.key.user < Text.utf8Bytes b.key.user) ∧
    (∀ key, key ∈ records.map Record.key ↔ key.target = target ∧ writes key ≠ []) ∧
    ∀ record ∈ records, (client.get record.key none).run store = (.ok (some record), store)

/-- A store refuses every call and stays as it is. -/
structure Refuses (store : Store) : Prop where
  put : ∀ key bins, (client.put key bins).run store = (.error .notConnected, store)
  delete : ∀ key, (client.delete key).run store = (.error .notConnected, store)
  truncate : ∀ target, (client.truncate target).run store = (.error .notConnected, store)
  get : ∀ key bins, (client.get key bins).run store = (.error .notConnected, store)
  query : ∀ query, (client.query query).run store = (.error .notConnected, store)
  scan : ∀ space set, (client.scan space set).run store = (.error .notConnected, store)
  catalogue : client.catalogue.run store = (.error .notConnected, store)

theorem refuses_of_disconnected {store : Store} (h : store.connected = false) :
    store.Refuses := by
  constructor <;> intros <;> simp only [client, run_call, h, Bool.false_eq_true, if_false]

theorem reports_of_find? {store : Store} (h : store.connected = true) {ttl : Option UInt32}
    {writes : RecordKey → List Bins}
    (hfind : ∀ key, store.find? key = Record.afterWrites key ttl (writes key)) :
    store.Reports ttl writes := by
  have hsums : ∀ key record, store.find? key = some record →
      record.SumsUp key ttl (writes key) := fun key record hrecord =>
    Record.sumsUp_of_afterWrites (by rw [← hfind, hrecord])
  have hpresent : ∀ key, (store.find? key).isSome = true ↔ writes key ≠ [] := fun key => by
    rw [hfind, Option.isSome_iff_ne_none, ne_eq, Record.afterWrites_eq_none_iff]
  have hget : ∀ key, (client.get key none).run store = (.ok (store.find? key), store) :=
    fun key => by
      simp only [client, run_call_of_connected h, Record.project, Option.map_id']
  have haddressed : store.Addressed := fun key record hrecord => (hsums key record hrecord).key
  refine ⟨fun key => ⟨_, hget key, hpresent key, fun record hrecord => ?_⟩,
    fun target => ⟨(store.recordsOf target).values, ?_, fun bins => ?_, ?_, fun key => ?_,
      fun record hrecord => ?_⟩⟩
  · obtain ⟨hkey, hbins, hgeneration, httl⟩ := hsums key record hrecord
    refine ⟨hkey, hbins, fun name => ?_, fun hlength => ?_, httl⟩
    · rw [hbins]
      exact Bins.lastWritten?_ne_nil _ _
    · rw [hgeneration, UInt32.toNat_ofNat_of_lt' hlength]
  · simp only [client, run_call_of_connected h, scan_set]
  · simp only [client, run_call_of_connected h, matching_all, List.map_map, Function.comp_def]
  · exact (haddressed.pairwise_recordsOf target).imp Text.lt_iff_utf8Bytes_lt.1
  · rw [← hpresent, List.mem_map]
    constructor
    · rintro ⟨record, hrecord, rfl⟩
      obtain ⟨user, hat⟩ := mem_values_recordsOf.1 hrecord
      rw [haddressed _ record hat]
      exact ⟨rfl, by rw [hat]; rfl⟩
    · rintro ⟨rfl, hsome⟩
      obtain ⟨record, hrecord⟩ := Option.isSome_iff_exists.1 hsome
      exact ⟨record, mem_values_recordsOf.2 ⟨key.user, hrecord⟩, haddressed key record hrecord⟩
  · obtain ⟨user, hat⟩ := mem_values_recordsOf.1 hrecord
    rw [haddressed _ record hat, hget, hat]

theorem eq_empty_of_connect {settings : ClientSettings} {store : Store}
    (h : connect settings = .ok store) : store = empty settings := by
  unfold connect ClientSettings.validated at h
  split at h
  · cases h
  · cases h
    rfl

/-- **A store is what its history makes of it.** After any run of events from a new store, what is at
an address is what the writes to it since it was last cleared leave there. Connected, the store
answers reads from that. Its size is the number of addresses with a record. Disconnected, it
refuses every call. -/
theorem refines_history {settings : ClientSettings} {start : Store}
    (h : connect settings = .ok start) (events : List StoreEvent) :
    let store := events.foldl step start
    let writes := fun key => StoreChange.writesTo key (StoreEvent.changesOf true events)
    (∀ key, (store.find? key).isSome = true ↔ writes key ≠ []) ∧
      (store.connected = true → store.Reports settings.defaultTtl writes) ∧
      (∃ keys : List RecordKey, keys.Nodup ∧ (∀ key, key ∈ keys ↔ writes key ≠ []) ∧
        store.size = keys.length) ∧
      (store.connected = false → store.Refuses) := by
  intro store writes
  obtain rfl := eq_empty_of_connect h
  have hfind : ∀ key, store.find? key =
      Record.afterWrites key settings.defaultTtl (writes key) := fun key => by
    rw [← find?_foldl_apply]
    show (events.foldl step (empty settings)).find? key = _
    rw [foldl_step_eq]
    rfl
  have hpresent : ∀ key, (store.find? key).isSome = true ↔ writes key ≠ [] := fun key => by
    rw [hfind, Option.isSome_iff_ne_none, ne_eq, Record.afterWrites_eq_none_iff]
  refine ⟨hpresent, fun hconnected => reports_of_find? hconnected hfind,
    ⟨store.located.map Prod.fst, nodup_located store, fun key => ?_,
      size_eq_length_located store⟩, refuses_of_disconnected⟩
  rw [← hpresent, Option.isSome_iff_exists, List.mem_map]
  constructor
  · rintro ⟨⟨_, record⟩, hmem, rfl⟩
    exact ⟨record, mem_located.1 hmem⟩
  · rintro ⟨record, hrecord⟩
    exact ⟨(key, record), mem_located.2 hrecord, rfl⟩

/-- A seeded record loses a bin to a write. A deletion without a connection has no effect. -/
theorem refines_history_reconnected :
    let key : RecordKey := ⟨"test", "users", "u1"⟩
    let settings : ClientSettings := { defaultTtl := some 600 }
    let seed : Json := .object [("test", .object [("users", .object [("u1", .object
      [("age", .int 30), ("name", .string "Ann")])])])]
    let events : List StoreEvent := [.load seed,
      .put key (.ofList [("age", .int 31), ("name", .nil)]), .setConnected false, .delete key,
      .setConnected true]
    let store := events.foldl step (empty settings)
    connect settings = .ok (empty settings) ∧ store.connected = true ∧
      ∃ record, (client.get key none).run store = (.ok (some record), store) ∧
        record.key = key ∧ record.bins.get? "age" = some (.int 31) ∧
        record.bins.get? "name" = none ∧ record.generation.toNat = 2 ∧ record.ttl = some 600 := by
  intro key settings seed events store
  have hconnect : connect settings = .ok (empty settings) := rfl
  have hconnected : store.connected = true := rfl
  obtain ⟨-, hreports, -, -⟩ := refines_history hconnect events
  obtain ⟨found, hrun, hpresent, hrecord⟩ := (hreports hconnected).get key
  have hwrites : StoreChange.writesTo key (StoreEvent.changesOf true events) =
      [.ofList [("age", .int 30), ("name", .str "Ann")],
        .ofList [("age", .int 31), ("name", .nil)]] := rfl
  rw [hwrites] at hpresent hrecord
  obtain ⟨record, rfl⟩ := Option.isSome_iff_exists.1 (hpresent.2 (List.cons_ne_nil _ _))
  obtain ⟨hkey, hbins, -, hgeneration, httl⟩ := hrecord record rfl
  exact ⟨hconnect, hconnected, record, hrun, hkey, hbins "age", hbins "name",
    hgeneration (by decide), httl⟩

end Store

end RecordQuery
