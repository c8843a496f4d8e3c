import RecordQuery.Proofs.Store.Calls
import RecordQuery.Store.Seed

/-!
# What a store holds

* `Store.find?_write`, `find?_remove`, `find?_dropSet`, `find?_declare`: what is at an address after
  a change.
* `Store.Reachable`: the stores that calls and seeds lead to, from one without records.
* `Store.Addressed`: every record knows the address that it is at. `Reachable.addressed`: this is so
  in every reachable store.
* `Store.Addressed.pairwise_condemned`, `Store.Addressed.mem_condemned`: the keys that the query of a
  deletion yields.
-/

namespace RecordQuery

namespace RecordKey

theorem eq_iff {key other : RecordKey} :
    key = other ↔ key.target = other.target ∧ key.user = other.user := by
  obtain ⟨space, set, user⟩ := key
  obtain ⟨space', set', user'⟩ := other
  simp only [target, RecordKey.mk.injEq, SetName.mk.injEq, and_assoc]

end RecordKey

/-! ## Changes -/

namespace Store

theorem setsOf_withRecords (store : Store) (target : SetName) (records : Records)
    (space : String) :
    (store.withRecords target records).setsOf space =
      if target.space = space then (store.setsOf target.space).insert target.set records
      else store.setsOf space := by
  unfold withRecords
  simp only [setsOf, SortedMap.get?_insert]
  by_cases hspace : target.space = space
  · rw [if_pos hspace, if_pos hspace]
    rfl
  · rw [if_neg hspace, if_neg hspace]

theorem recordsOf_withRecords (store : Store) (target other : SetName) (records : Records) :
    (store.withRecords target records).recordsOf other =
      if target = other then records else store.recordsOf other := by
  obtain ⟨space, set⟩ := target
  obtain ⟨space', set'⟩ := other
  unfold recordsOf
  rw [setsOf_withRecords]
  by_cases hspace : space = space'
  · subst hspace
    rw [if_pos rfl, SortedMap.get?_insert]
    by_cases hset : set = set'
    · rw [if_pos hset, if_pos (by rw [hset])]
      rfl
    · rw [if_neg hset, if_neg (by simp [hset])]
  · rw [if_neg hspace, if_neg (by simp [hspace])]

theorem find?_withRecords (store : Store) (target : SetName) (records : Records)
    (key : RecordKey) :
    (store.withRecords target records).find? key =
      if target = key.target then records.get? key.user else store.find? key := by
  unfold find?
  rw [recordsOf_withRecords]
  split <;> rfl

theorem find?_write (store : Store) (key other : RecordKey) (bins : Bins) :
    (store.write key bins).find? other =
      if key = other then
        some (Record.written key bins store.settings.defaultTtl (store.find? key))
      else store.find? other := by
  unfold write
  rw [find?_withRecords, SortedMap.get?_insert]
  by_cases htarget : key.target = other.target
  · rw [if_pos htarget]
    by_cases huser : key.user = other.user
    · rw [if_pos huser, if_pos (RecordKey.eq_iff.2 ⟨htarget, huser⟩)]
    · rw [if_neg huser, if_neg fun h => huser (RecordKey.eq_iff.1 h).2, htarget]
      rfl
  · rw [if_neg htarget, if_neg fun h => htarget (RecordKey.eq_iff.1 h).1]

theorem find?_remove (store : Store) (key other : RecordKey) :
    (store.remove key).find? other = if key = other then none else store.find? other := by
  unfold remove
  by_cases hfound : (store.find? key).isSome = true
  · rw [if_pos hfound, find?_withRecords, SortedMap.get?_erase]
    by_cases htarget : key.target = other.target
    · rw [if_pos htarget]
      by_cases huser : key.user = other.user
      · rw [if_pos huser, if_pos (RecordKey.eq_iff.2 ⟨htarget, huser⟩)]
      · rw [if_neg huser, if_neg fun h => huser (RecordKey.eq_iff.1 h).2, htarget]
        rfl
    · rw [if_neg htarget, if_neg fun h => htarget (RecordKey.eq_iff.1 h).1]
  · rw [if_neg hfound]
    by_cases hkey : key = other
    · subst hkey
      rw [if_pos rfl, ← Option.not_isSome_iff_eq_none]
      exact hfound
    · rw [if_neg hkey]

@[simp] theorem connected_remove (store : Store) (key : RecordKey) :
    (store.remove key).connected = store.connected := by
  unfold remove
  split <;> rfl

theorem find?_declare (store : Store) (space : String) (key : RecordKey) :
    (store.declare space).find? key = store.find? key := by
  unfold declare find? recordsOf
  simp only [setsOf, SortedMap.get?_insert]
  by_cases hspace : space = key.target.space
  · rw [if_pos hspace, hspace]
    rfl
  · rw [if_neg hspace]

theorem recordsOf_dropSet (store : Store) (target other : SetName) :
    (store.dropSet target).recordsOf other =
      if target = other then .empty else store.recordsOf other := by
  obtain ⟨space, set⟩ := target
  obtain ⟨space', set'⟩ := other
  simp only [dropSet]
  cases hsets : store.spaces.get? space with
  | none =>
    by_cases htarget : SetName.mk space set = SetName.mk space' set'
    · obtain ⟨rfl, rfl⟩ := SetName.mk.inj htarget
      rw [if_pos rfl, recordsOf, setsOf, hsets]
      rfl
    · rw [if_neg htarget]
  | some sets =>
    by_cases hspace : space = space'
    · subst hspace
      simp only [recordsOf, setsOf, hsets, SortedMap.get?_insert_self, Option.getD_some,
        SortedMap.get?_erase]
      by_cases hset : set = set'
      · rw [if_pos hset, if_pos (by rw [hset])]
        rfl
      · rw [if_neg hset, if_neg (by simp [hset])]
    · rw [if_neg (by simp [hspace])]
      simp only [recordsOf, setsOf, SortedMap.get?_insert, if_neg hspace]

theorem find?_dropSet (store : Store) (target : SetName) (key : RecordKey) :
    (store.dropSet target).find? key =
      if target = key.target then none else store.find? key := by
  unfold find?
  rw [recordsOf_dropSet]
  split <;> rfl

end Store

/-! ## Reachable stores -/

/-- What can happen to a store. -/
inductive StoreEvent where
  | put (key : RecordKey) (bins : Bins)
  | delete (key : RecordKey)
  | truncate (target : SetName)
  | declare (space : String)
  | load (seed : Json)
  | setConnected (connected : Bool)

namespace Store

/-- The store after an event. -/
def step (store : Store) : StoreEvent → Store
  | .put key bins => ((client.put key bins).run store).2
  | .delete key => ((client.delete key).run store).2
  | .truncate target => ((client.truncate target).run store).2
  | .declare space => store.declare space
  | .load seed => (store.load seed).2
  | .setConnected connected => { store with connected }

/-- Whether a store comes about by events from one without records. -/
def Reachable (store : Store) : Prop :=
  ∃ settings events, store = List.foldl step (empty settings) events

/-- Whether every record has the address that it is found at. -/
def Addressed (store : Store) : Prop :=
  ∀ key record, store.find? key = some record → record.key = key

theorem addressed_empty (settings : ClientSettings) : (empty settings).Addressed := by
  intro key record h
  cases h

theorem Addressed.of_find? {store store' : Store} (h : store.Addressed)
    (hfind : ∀ key record, store'.find? key = some record → store.find? key = some record) :
    store'.Addressed :=
  fun key record hrecord => h key record (hfind key record hrecord)

theorem Addressed.write {store : Store} (h : store.Addressed) (key : RecordKey) (bins : Bins) :
    (store.write key bins).Addressed := by
  intro other record hrecord
  rw [find?_write] at hrecord
  by_cases hkey : key = other
  · rw [if_pos hkey, Option.some.injEq] at hrecord
    subst hkey hrecord
    cases hbefore : store.find? key with
    | none => rfl
    | some before => exact h key before hbefore
  · rw [if_neg hkey] at hrecord
    exact h other record hrecord

theorem Addressed.declare {store : Store} (h : store.Addressed) (space : String) :
    (store.declare space).Addressed :=
  h.of_find? fun key record hrecord => by rwa [find?_declare] at hrecord

/-! What holds of a store, of one after a write and of one after a declaration holds of a store with
a seed, whether the seed is usable or not. -/

section Load

variable {P : Store → Prop}

theorem loadRecords_induction (hwrite : ∀ store key bins, P store → P (store.write key bins))
    (target : SetName) (records : List (String × Json)) (store : Store) (count : Nat)
    (h : P store) : P (loadRecords target store count records).2 := by
  induction records generalizing store count with
  | nil => exact h
  | cons head rest ih =>
    obtain ⟨user, json⟩ := head
    unfold loadRecords
    split
    · exact ih _ _ (hwrite _ _ _ h)
    · exact h

theorem loadSets_induction (hwrite : ∀ store key bins, P store → P (store.write key bins))
    (space : String) (sets : List (String × Json)) (store : Store) (count : Nat) (h : P store) :
    P (loadSets space store count sets).2 := by
  induction sets generalizing store count with
  | nil => exact h
  | cons head rest ih =>
    obtain ⟨set, json⟩ := head
    cases json with
    | object records =>
      have hrecords := loadRecords_induction hwrite ⟨space, set⟩ records store count h
      simp only [loadSets]
      revert hrecords
      generalize loadRecords ⟨space, set⟩ store count records = result
      intro hrecords
      obtain ⟨r, store'⟩ := result
      cases r with
      | error e => exact hrecords
      | ok count' => exact ih store' count' hrecords
    | _ => exact h

theorem loadSpaces_induction (hwrite : ∀ store key bins, P store → P (store.write key bins))
    (hdeclare : ∀ store space, P store → P (store.declare space))
    (spaces : List (String × Json)) (store : Store) (count : Nat) (h : P store) :
    P (loadSpaces store count spaces).2 := by
  induction spaces generalizing store count with
  | nil => exact h
  | cons head rest ih =>
    obtain ⟨space, json⟩ := head
    cases json with
    | object sets =>
      have hsets := loadSets_induction hwrite space sets _ count (hdeclare store space h)
      simp only [loadSpaces]
      revert hsets
      generalize loadSets space (store.declare space) count sets = result
      intro hsets
      obtain ⟨r, store'⟩ := result
      cases r with
      | error e => exact hsets
      | ok count' => exact ih store' count' hsets
    | _ => exact hdeclare store space h

theorem load_induction (hwrite : ∀ store key bins, P store → P (store.write key bins))
    (hdeclare : ∀ store space, P store → P (store.declare space)) (seed : Json) (store : Store)
    (h : P store) : P (store.load seed).2 := by
  cases seed with
  | object spaces => exact loadSpaces_induction hwrite hdeclare spaces store 0 h
  | _ => exact h

end Load

theorem run_call {α : Type} (f : Store → α × Store) (store : Store) :
    (call f).run store =
      if store.connected then (.ok (f store).1, (f store).2)
      else (.error .notConnected, store) :=
  rfl

theorem run_call_of_connected {α : Type} {store : Store} (h : store.connected = true)
    (f : Store → α × Store) : (call f).run store = (.ok (f store).1, (f store).2) := by
  rw [run_call, if_pos h]

theorem run_query {store : Store} (h : store.connected = true) (query : IndexQuery) :
    (client.query query).run store = (.ok ((store.matching query).map .ok), store) := by
  simp only [client, run_call_of_connected h]

theorem run_delete {store : Store} (h : store.connected = true) (key : RecordKey) :
    (client.delete key).run store = (.ok (store.find? key).isSome, store.remove key) := by
  simp only [client, run_call_of_connected h]

theorem Addressed.step {store : Store} (h : store.Addressed) (event : StoreEvent) :
    (store.step event).Addressed := by
  cases event with
  | put key bins =>
    simp only [Store.step, client, run_call]
    split
    · exact h.write key bins
    · exact h
  | delete key =>
    simp only [Store.step, client, run_call]
    split
    · refine h.of_find? fun other record hrecord => ?_
      rw [find?_remove] at hrecord
      split at hrecord
      · cases hrecord
      · exact hrecord
    · exact h
  | truncate target =>
    simp only [Store.step, client, run_call]
    split
    · refine h.of_find? fun other record hrecord => ?_
      rw [find?_dropSet] at hrecord
      split at hrecord
      · cases hrecord
      · exact hrecord
    · exact h
  | declare space => exact h.declare space
  | load seed =>
    exact load_induction (P := Addressed) (fun _ key bins h => h.write key bins)
      (fun _ space h => h.declare space) seed store h
  | setConnected connected => exact h

theorem Reachable.addressed {store : Store} (h : store.Reachable) : store.Addressed := by
  obtain ⟨settings, events, rfl⟩ := h
  have hrun : ∀ (events : List StoreEvent) (store : Store), store.Addressed →
      (events.foldl step store).Addressed := by
    intro events
    induction events with
    | nil => exact fun _ h => h
    | cons event rest ih => exact fun store h => ih _ (h.step event)
  exact hrun events _ (addressed_empty settings)

/-! ## Queries -/

theorem mem_values_recordsOf {store : Store} {target : SetName} {record : Record} :
    record ∈ (store.recordsOf target).values ↔
      ∃ user, store.find? (target.key user) = some record := by
  unfold SortedMap.values
  rw [List.mem_map]
  constructor
  · rintro ⟨⟨user, record⟩, hmem, rfl⟩
    exact ⟨user, (SortedMap.mem_entries_iff _).1 hmem⟩
  · rintro ⟨user, hfind⟩
    exact ⟨(user, record), (SortedMap.mem_entries_iff _).2 hfind, rfl⟩

theorem Addressed.pairwise_recordsOf {store : Store} (h : store.Addressed) (target : SetName) :
    (store.recordsOf target).values.Pairwise fun a b => a.key.user < b.key.user := by
  have hkeys : ∀ e ∈ (store.recordsOf target).entries, e.2.key.user = e.1 := by
    rintro ⟨user, record⟩ hmem
    have hfind : store.find? (target.key user) = some record :=
      (SortedMap.mem_entries_iff _).1 hmem
    rw [h _ record hfind]
    rfl
  refine List.pairwise_map.2 ((store.recordsOf target).sorted.imp_of_mem fun {a b} ha hb hlt => ?_)
  rw [hkeys a ha, hkeys b hb]
  exact hlt

/-- Whether the record at an address is one that a deletion is about. -/
def condemns (store : Store) (statement : DeleteStatement) (key : RecordKey) : Bool :=
  key.target = statement.target &&
    (store.find? key).any fun record =>
      (BinFilter.ofEquality statement.predicate).holds record.bins

/-- The keys of the records that a deletion is about, as a query yields them. -/
def condemned (store : Store) (statement : DeleteStatement) : List RecordKey :=
  (store.matching (.ofDelete statement)).map Record.key

theorem condemned_eq (store : Store) (statement : DeleteStatement) :
    store.condemned statement =
      ((store.recordsOf statement.target).values.filter fun record =>
        (BinFilter.ofEquality statement.predicate).holds record.bins).map Record.key := by
  unfold condemned matching
  rw [List.map_map]
  rfl

theorem Addressed.mem_condemned {store : Store} (h : store.Addressed)
    (statement : DeleteStatement) (key : RecordKey) :
    key ∈ store.condemned statement ↔ store.condemns statement key = true := by
  rw [condemned_eq, List.mem_map]
  simp only [List.mem_filter, mem_values_recordsOf, condemns, Bool.and_eq_true, decide_eq_true_eq,
    Option.any_eq_true]
  constructor
  · rintro ⟨record, ⟨⟨user, hfind⟩, hholds⟩, rfl⟩
    rw [h _ record hfind]
    exact ⟨rfl, record, hfind, hholds⟩
  · rintro ⟨htarget, record, hfind, hholds⟩
    refine ⟨record, ⟨⟨key.user, ?_⟩, hholds⟩, h key record hfind⟩
    rw [← htarget]
    exact hfind

theorem Addressed.pairwise_condemned {store : Store} (h : store.Addressed)
    (statement : DeleteStatement) :
    (store.condemned statement).Pairwise fun a b => a.user < b.user := by
  rw [condemned_eq, List.pairwise_map]
  exact (h.pairwise_recordsOf statement.target).filter _

theorem Addressed.nodup_condemned {store : Store} (h : store.Addressed)
    (statement : DeleteStatement) : (store.condemned statement).Nodup := by
  refine (h.pairwise_condemned statement).imp fun {a b} hlt => ?_
  rintro rfl
  exact String.lt_irrefl _ hlt

theorem Addressed.isSome_of_mem_condemned {store : Store} (h : store.Addressed)
    {statement : DeleteStatement} {key : RecordKey} (hkey : key ∈ store.condemned statement) :
    (store.find? key).isSome = true := by
  have hcondemns := (h.mem_condemned statement key).1 hkey
  simp only [condemns, Bool.and_eq_true, Option.any_eq_true] at hcondemns
  obtain ⟨-, record, hrecord, -⟩ := hcondemns
  rw [hrecord]
  rfl

end Store

end RecordQuery
