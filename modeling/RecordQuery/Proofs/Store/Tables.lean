import Mathlib.Data.List.Induction
import RecordQuery.Proofs.Store.History
import RecordQuery.Proofs.Store.Listing

/-!
# A store in two tables

A store can be kept in two tables: the declared namespaces, and the sets by namespace and name. A
namespace without sets stands in the first one only.

* `StoreTables`: the tables, with the changes that are made to them and the reads that they answer.
* `Store.tables`: the tables of a store.
* `Store.tables_apply`, `Store.tables_foldl_apply`: the tables change as the store does.
* `Store.find?_tables`, `matching_tables`, `scan_tables`, `size_tables`, `catalogue_tables`: what
  each read finds in the tables of a store.
* `Store.answers_of_tables`: a store answers after any run of events as its tables do.
-/

namespace RecordQuery

/-- Sets are ordered by their namespaces, and those of one namespace by their own names. -/
def SetName.cmp : SetName → SetName → Ordering :=
  compareLex (compareOn SetName.space) (compareOn SetName.set)

namespace SetName

instance : Std.TransCmp cmp :=
  inferInstanceAs (Std.TransCmp (compareLex (compareOn SetName.space) (compareOn SetName.set)))

instance : Std.LawfulEqCmp cmp where
  eq_of_compare {target other} h := by
    obtain ⟨hspace, hset⟩ := Ordering.then_eq_eq.1 h
    obtain ⟨space, set⟩ := target
    obtain ⟨space', set'⟩ := other
    rw [mk.injEq]
    exact ⟨Std.LawfulEqOrd.eq_of_compare hspace, Std.LawfulEqOrd.eq_of_compare hset⟩

theorem cmp_eq_iff {target other : SetName} : cmp target other = .eq ↔ target = other :=
  Std.LawfulEqCmp.compare_eq_iff_eq

theorem cmp_of_space_lt {target other : SetName} (h : target.space < other.space) :
    cmp target other = .lt :=
  Ordering.then_eq_lt.2 (.inl (compareOfLessAndEq_eq_lt.2 h))

theorem cmp_of_set_lt (space : String) {set set' : String} (h : set < set') :
    cmp ⟨space, set⟩ ⟨space, set'⟩ = .lt :=
  Ordering.then_eq_lt.2 (.inr ⟨Std.ReflCmp.compare_self, compareOfLessAndEq_eq_lt.2 h⟩)

theorem cmp_asymm {target other : SetName} (h : cmp target other = .lt) :
    ¬ cmp other target = .lt := by
  have hswap : cmp other target = (cmp target other).swap := Std.OrientedCmp.eq_swap
  rw [hswap, h]
  decide

end SetName

theorem eq_of_ascending {α : Type} {lt : α → α → Prop} (hasymm : ∀ a b, lt a b → ¬ lt b a)
    {l l' : List α} (h : l.Pairwise lt) (h' : l'.Pairwise lt) (hmem : ∀ a, a ∈ l ↔ a ∈ l') :
    l = l' := by
  have hnodup : ∀ {l : List α}, l.Pairwise lt → l.Nodup := fun h => h.imp fun {a b} hlt => by
    rintro rfl
    exact hasymm a a hlt hlt
  exact List.Perm.eq_of_pairwise (fun a b _ _ hlt hlt' => absurd hlt' (hasymm a b hlt)) h h'
    ((List.perm_ext_iff_of_nodup (hnodup h) (hnodup h')).2 hmem)

/-- A store in two tables. -/
structure StoreTables where
  spaces : Std.ExtTreeSet String
  sets : Std.ExtTreeMap SetName Records SetName.cmp

namespace StoreTables

/-! ## Changes -/

def empty : StoreTables :=
  ⟨∅, ∅⟩

def declare (tables : StoreTables) (space : String) : StoreTables :=
  { tables with spaces := tables.spaces.insert space }

/-- The tables after a write. The namespace and the set come to be with their first record. -/
def write (tables : StoreTables) (ttl : Option UInt32) (key : RecordKey) (bins : Bins) :
    StoreTables :=
  { spaces := tables.spaces.insert key.space
    sets := tables.sets.alter key.target fun records? =>
      let records := records?.getD .empty
      some (records.insert key.user (Record.written key bins ttl (records.get? key.user))) }

def remove (tables : StoreTables) (key : RecordKey) : StoreTables :=
  { tables with sets := tables.sets.modify key.target fun records => records.erase key.user }

def dropSet (tables : StoreTables) (target : SetName) : StoreTables :=
  { tables with sets := tables.sets.erase target }

def apply (tables : StoreTables) (ttl : Option UInt32) : StoreChange → StoreTables
  | .declare space => tables.declare space
  | .write key bins => tables.write ttl key bins
  | .remove key => tables.remove key
  | .dropSet target => tables.dropSet target

/-! ## Reads -/

def find? (tables : StoreTables) (key : RecordKey) : Option Record :=
  tables.sets[key.target]?.bind fun records => records.get? key.user

def matching (tables : StoreTables) (query : IndexQuery) : List Record :=
  (tables.sets[query.target]?.map fun records =>
    (records.values.filter fun record =>
      query.filter.all fun filter => filter.holds record.bins).map fun record =>
        record.project query.bins).getD []

/-- The records of a namespace, or of one of its sets, found by going through the table of sets. -/
def scan (tables : StoreTables) (space : String) (set : Option String) : List Record :=
  (tables.sets.toList.filter fun e => e.1.space = space && set.all (· = e.1.set)).flatMap
    fun e => e.2.values

def size (tables : StoreTables) : Nat :=
  tables.sets.foldl (fun count _ records => count + records.size) 0

/-- The catalogue of the declared namespaces, without sets. -/
def declared (tables : StoreTables) : Std.ExtTreeMap String (Std.ExtTreeSet String) :=
  .ofList (tables.spaces.toList.map fun space => (space, ∅))

def enter (catalogue : Std.ExtTreeMap String (Std.ExtTreeSet String)) (target : SetName) :
    Std.ExtTreeMap String (Std.ExtTreeSet String) :=
  catalogue.alter target.space fun sets? => some ((sets?.getD ∅).insert target.set)

/-- The catalogue of all declared namespaces, into which the sets are entered one by one. -/
def catalogue (tables : StoreTables) : Std.ExtTreeMap String (Std.ExtTreeSet String) :=
  tables.sets.keys.foldl enter tables.declared

@[ext] theorem ext {tables tables' : StoreTables}
    (hspaces : ∀ space : String, space ∈ tables.spaces ↔ space ∈ tables'.spaces)
    (hsets : ∀ target : SetName, tables.sets[target]? = tables'.sets[target]?) :
    tables = tables' := by
  cases tables
  cases tables'
  rw [mk.injEq]
  exact ⟨Std.ExtTreeSet.ext_mem hspaces, Std.ExtTreeMap.ext_getElem? hsets⟩

end StoreTables

namespace Store

/-! ## The tables of a store -/

/-- The records of a set, if the set is listed. -/
def setAt? (store : Store) (target : SetName) : Option Records :=
  (store.setsOf target.space).get? target.set

/-- The sets of a store in ascending order, each with its records. -/
def setList (store : Store) : List (SetName × Records) :=
  store.spaces.entries.flatMap fun space =>
    space.2.entries.map fun set => (⟨space.1, set.1⟩, set.2)

def tables (store : Store) : StoreTables :=
  { spaces := .ofList store.spaces.keys
    sets := .ofList store.setList SetName.cmp }

theorem mem_setList {store : Store} {target : SetName} {records : Records} :
    (target, records) ∈ store.setList ↔ store.setAt? target = some records := by
  unfold setList setAt? setsOf
  simp only [List.mem_flatMap, List.mem_map]
  constructor
  · rintro ⟨⟨space, sets⟩, hsets, ⟨set, _⟩, hrecords, heq⟩
    cases heq
    rw [SortedMap.mem_entries_iff] at hsets hrecords
    simp only [hsets, Option.getD_some, hrecords]
  · intro h
    cases hsets : store.spaces.get? target.space with
    | none => simp [hsets] at h
    | some sets =>
      rw [hsets, Option.getD_some] at h
      exact ⟨(target.space, sets), (SortedMap.mem_entries_iff _).2 hsets, (target.set, records),
        (SortedMap.mem_entries_iff _).2 h, rfl⟩

theorem pairwise_setList (store : Store) :
    store.setList.Pairwise fun a b => SetName.cmp a.1 b.1 = .lt := by
  unfold setList
  rw [List.pairwise_flatMap]
  refine ⟨fun space _ => ?_, store.spaces.sorted.imp fun {a b} hlt => ?_⟩
  · rw [List.pairwise_map]
    exact space.2.sorted.imp (SetName.cmp_of_set_lt space.1)
  · simp only [List.mem_map]
    rintro _ ⟨e, -, rfl⟩ _ ⟨e', -, rfl⟩
    exact SetName.cmp_of_space_lt hlt

theorem mem_spaces_tables {store : Store} {space : String} :
    space ∈ store.tables.spaces ↔ store.declares space = true := by
  unfold tables
  rw [Std.ExtTreeSet.mem_ofList, List.contains_iff_mem, SortedMap.mem_keys_iff]
  rfl

theorem getElem?_sets_tables (store : Store) (target : SetName) :
    store.tables.sets[target]? = store.setAt? target := by
  unfold tables
  cases h : store.setAt? target with
  | some records =>
    refine Std.ExtTreeMap.getElem?_ofList_of_mem Std.ReflCmp.compare_self ?_ (mem_setList.2 h)
    exact store.pairwise_setList.imp fun hlt heq => by rw [heq] at hlt; cases hlt
  | none =>
    refine Std.ExtTreeMap.getElem?_ofList_of_contains_eq_false ?_
    rw [← Bool.not_eq_true, List.contains_iff_mem, List.mem_map]
    rintro ⟨⟨_, records⟩, hmem, rfl⟩
    rw [mem_setList, h] at hmem
    cases hmem

/-! ## Changes -/

theorem recordsOf_eq_setAt? (store : Store) (target : SetName) :
    store.recordsOf target = (store.setAt? target).getD .empty :=
  rfl

theorem find?_eq_setAt? (store : Store) (key : RecordKey) :
    store.find? key = (store.setAt? key.target).bind fun records => records.get? key.user := by
  rw [find?, recordsOf_eq_setAt?]
  cases store.setAt? key.target <;> rfl

theorem setAt?_withRecords (store : Store) (target other : SetName) (records : Records) :
    (store.withRecords target records).setAt? other =
      if target = other then some records else store.setAt? other := by
  obtain ⟨space, set⟩ := target
  obtain ⟨space', set'⟩ := other
  unfold setAt?
  rw [setsOf_withRecords]
  by_cases hspace : space = space'
  · subst hspace
    simp [SortedMap.get?_insert]
  · simp [hspace]

theorem setAt?_remove (store : Store) (key : RecordKey) (target : SetName) :
    (store.remove key).setAt? target =
      if key.target = target then (store.setAt? key.target).map (·.erase key.user)
      else store.setAt? target := by
  by_cases htarget : key.target = target
  · subst htarget
    rw [if_pos rfl, remove]
    cases hset : store.setAt? key.target with
    | none =>
      rw [find?_eq_setAt?, hset, if_neg (by simp), hset]
      rfl
    | some records =>
      rw [find?_eq_setAt?, hset, Option.bind_some, recordsOf_eq_setAt?, hset]
      by_cases hfound : (records.get? key.user).isSome = true
      · rw [if_pos hfound, setAt?_withRecords, if_pos rfl]
        rfl
      · rw [if_neg hfound, hset, Option.map_some, SortedMap.erase_of_get?_eq_none]
        exact Option.not_isSome_iff_eq_none.1 hfound
  · rw [if_neg htarget, remove]
    split
    · rw [setAt?_withRecords, if_neg htarget]
    · rfl

theorem setAt?_dropSet (store : Store) (target other : SetName) :
    (store.dropSet target).setAt? other = if target = other then none else store.setAt? other := by
  obtain ⟨space, set⟩ := target
  obtain ⟨space', set'⟩ := other
  unfold dropSet setAt? setsOf
  dsimp only
  cases hsets : store.spaces.get? space with
  | none =>
    by_cases hspace : space = space'
    · subst hspace
      simp [hsets]
    · simp [hspace]
  | some sets =>
    by_cases hspace : space = space'
    · subst hspace
      simp [hsets, SortedMap.get?_erase]
    · simp [hspace, SortedMap.get?_insert]

theorem tables_declare (store : Store) (space : String) :
    (store.declare space).tables = store.tables.declare space := by
  ext1 other
  · rw [mem_spaces_tables, StoreTables.declare, Std.ExtTreeSet.mem_insert, mem_spaces_tables,
      Std.LawfulEqCmp.compare_eq_iff_eq, declares, declare, SortedMap.contains_insert,
      Bool.or_eq_true, decide_eq_true_eq]
    rfl
  · rw [getElem?_sets_tables, StoreTables.declare, getElem?_sets_tables, setAt?, setsOf_declare]
    rfl

theorem tables_withRecords (store : Store) (target : SetName) (records : Records) :
    (store.withRecords target records).tables =
      { spaces := store.tables.spaces.insert target.space
        sets := store.tables.sets.insert target records } := by
  ext1 other
  · rw [mem_spaces_tables, Std.ExtTreeSet.mem_insert, mem_spaces_tables,
      Std.LawfulEqCmp.compare_eq_iff_eq, declares_withRecords, Bool.or_eq_true, decide_eq_true_eq]
  · rw [getElem?_sets_tables, Std.ExtTreeMap.getElem?_insert, getElem?_sets_tables,
      setAt?_withRecords]
    simp only [SetName.cmp_eq_iff]

theorem tables_write (store : Store) (key : RecordKey) (bins : Bins) :
    (store.write key bins).tables = store.tables.write store.settings.defaultTtl key bins := by
  rw [write, tables_withRecords]
  ext1 other
  · rfl
  · simp only [StoreTables.write, Std.ExtTreeMap.getElem?_insert, Std.ExtTreeMap.getElem?_alter,
      getElem?_sets_tables]
    rfl

theorem tables_remove (store : Store) (key : RecordKey) :
    (store.remove key).tables = store.tables.remove key := by
  ext1 other
  · rw [mem_spaces_tables, declares_remove, ← mem_spaces_tables]
    rfl
  · rw [getElem?_sets_tables, StoreTables.remove, Std.ExtTreeMap.getElem?_modify,
      getElem?_sets_tables, getElem?_sets_tables, setAt?_remove]
    simp only [SetName.cmp_eq_iff]

theorem tables_dropSet (store : Store) (target : SetName) :
    (store.dropSet target).tables = store.tables.dropSet target := by
  ext1 other
  · rw [mem_spaces_tables, declares_dropSet, ← mem_spaces_tables]
    rfl
  · rw [getElem?_sets_tables, StoreTables.dropSet, Std.ExtTreeMap.getElem?_erase,
      getElem?_sets_tables, setAt?_dropSet]
    simp only [SetName.cmp_eq_iff]

theorem tables_apply (store : Store) (change : StoreChange) :
    (store.apply change).tables = store.tables.apply store.settings.defaultTtl change := by
  cases change with
  | declare space => exact tables_declare store space
  | write key bins => exact tables_write store key bins
  | remove key => exact tables_remove store key
  | dropSet target => exact tables_dropSet store target

/-- A row of changes is made to the tables as it is to the store. -/
theorem tables_foldl_apply (store : Store) (changes : List StoreChange) :
    (changes.foldl apply store).tables =
      changes.foldl (StoreTables.apply · store.settings.defaultTtl) store.tables := by
  induction changes generalizing store with
  | nil => rfl
  | cons change rest ih =>
    rw [List.foldl_cons, List.foldl_cons, ih, settings_apply, tables_apply]

/-! ## Reads -/

theorem find?_tables (store : Store) (key : RecordKey) :
    store.tables.find? key = store.find? key := by
  rw [StoreTables.find?, getElem?_sets_tables, find?_eq_setAt?]

theorem matching_tables (store : Store) (query : IndexQuery) :
    store.tables.matching query = store.matching query := by
  rw [StoreTables.matching, getElem?_sets_tables, matching, recordsOf_eq_setAt?]
  cases store.setAt? query.target <;> rfl

theorem toList_sets_tables (store : Store) : store.tables.sets.toList = store.setList := by
  refine eq_of_ascending (fun _ _ => SetName.cmp_asymm) Std.ExtTreeMap.ordered_keys_toList
    store.pairwise_setList ?_
  rintro ⟨target, records⟩
  rw [Std.ExtTreeMap.mem_toList_iff_getElem?_eq_some, getElem?_sets_tables, mem_setList]

theorem scan_tables (store : Store) (space : String) (set : Option String) :
    store.tables.scan space set = store.scan space set := by
  have hsets : (store.setList.filter fun e => e.1.space = space && set.all (· = e.1.set)) =
      ((store.setsOf space).filter fun name _ => set.all (· = name)).entries.map
        fun e => (⟨space, e.1⟩, e.2) := by
    refine eq_of_ascending (fun _ _ => SetName.cmp_asymm) (store.pairwise_setList.filter _) ?_ ?_
    · rw [List.pairwise_map]
      exact (SortedMap.sorted _).imp (SetName.cmp_of_set_lt space)
    · rintro ⟨⟨space', name⟩, records⟩
      simp only [List.mem_filter, mem_setList, setAt?, List.mem_map, Prod.exists, Prod.mk.injEq,
        SetName.mk.injEq, SortedMap.mem_entries_iff, SortedMap.get?_filter,
        Option.filter_eq_some_iff, Bool.and_eq_true, decide_eq_true_eq]
      constructor
      · rintro ⟨hat, rfl, hname⟩
        exact ⟨name, records, ⟨hat, hname⟩, ⟨rfl, rfl⟩, rfl⟩
      · rintro ⟨_, _, ⟨hat, hname⟩, ⟨rfl, rfl⟩, rfl⟩
        exact ⟨hat, rfl, hname⟩
  rw [StoreTables.scan, toList_sets_tables, hsets, scan, SortedMap.values, List.flatMap_map,
    List.flatMap_map]

theorem foldl_size (sets : List (SetName × Records)) (count : Nat) :
    sets.foldl (fun count e => count + e.2.size) count =
      count + (sets.flatMap fun e => e.2.values).length := by
  induction sets generalizing count with
  | nil => rfl
  | cons e rest ih =>
    rw [List.foldl_cons, ih, List.flatMap_cons, List.length_append, ← Nat.add_assoc,
      SortedMap.values, List.length_map]
    rfl

theorem size_tables (store : Store) : store.tables.size = store.size := by
  have hrecords : store.records = store.setList.flatMap fun e => e.2.values := by
    simp [records, setList, SortedMap.values, List.flatMap_map, List.flatMap_assoc]
  rw [StoreTables.size, Std.ExtTreeMap.foldl_eq_foldl_toList, toList_sets_tables, foldl_size,
    size, hrecords, Nat.zero_add]

end Store

/-! ## Catalogues -/

namespace StoreTables

theorem getElem?_declared (tables : StoreTables) (space : String) :
    tables.declared[space]? = if space ∈ tables.spaces then some ∅ else none := by
  unfold declared
  split
  next h =>
    refine Std.ExtTreeMap.getElem?_ofList_of_mem Std.ReflCmp.compare_self ?_
      (List.mem_map_of_mem (Std.ExtTreeSet.mem_toList.2 h))
    have hdistinct : tables.spaces.toList.Pairwise fun a b => ¬ compare a b = .eq :=
      Std.ExtTreeSet.distinct_toList
    exact List.pairwise_map.2 hdistinct
  next h =>
    refine Std.ExtTreeMap.getElem?_ofList_of_contains_eq_false ?_
    rw [← Bool.not_eq_true, List.contains_iff_mem, List.map_map]
    simpa [Std.ExtTreeSet.mem_toList] using h

variable (catalogue : Std.ExtTreeMap String (Std.ExtTreeSet String))

theorem getElem?_enter (target : SetName) (space : String) :
    (enter catalogue target)[space]? =
      if target.space = space then some ((catalogue[space]?.getD ∅).insert target.set)
      else catalogue[space]? := by
  rw [enter, Std.ExtTreeMap.getElem?_alter]
  simp only [Std.LawfulEqCmp.compare_eq_iff_eq]
  split
  next hspace => rw [hspace]
  next => rfl

theorem isSome_getElem?_foldl_enter (targets : List SetName) (space : String) :
    (targets.foldl enter catalogue)[space]?.isSome = true ↔
      catalogue[space]?.isSome = true ∨ ∃ target ∈ targets, target.space = space := by
  induction targets generalizing catalogue with
  | nil => simp
  | cons target rest ih =>
    rw [List.foldl_cons, ih, getElem?_enter]
    by_cases hspace : target.space = space <;> simp [hspace]

theorem mem_getElem?_foldl_enter (targets : List SetName) (space set : String) :
    set ∈ (targets.foldl enter catalogue)[space]?.getD ∅ ↔
      set ∈ catalogue[space]?.getD ∅ ∨ SetName.mk space set ∈ targets := by
  induction targets generalizing catalogue with
  | nil => simp
  | cons target rest ih =>
    obtain ⟨space', set'⟩ := target
    rw [List.foldl_cons, ih, getElem?_enter]
    by_cases hspace : space' = space
    · subst hspace
      simp only [if_true, Option.getD_some, Std.ExtTreeSet.mem_insert, List.mem_cons,
        Std.LawfulEqCmp.compare_eq_iff_eq, SetName.mk.injEq, true_and]
      rw [eq_comm (a := set), or_assoc, or_left_comm]
    · simp [hspace, Ne.symm hspace]

end StoreTables

namespace Store

theorem mem_keys_sets_tables {store : Store} {target : SetName} :
    target ∈ store.tables.sets.keys ↔ (store.setAt? target).isSome = true := by
  rw [Std.ExtTreeMap.mem_keys, Std.ExtTreeMap.mem_iff_isSome_getElem?, getElem?_sets_tables]

theorem isSome_getElem?_catalogue_tables (store : Store) (space : String) :
    store.tables.catalogue[space]?.isSome = store.declares space := by
  rw [Bool.eq_iff_iff, StoreTables.catalogue, StoreTables.isSome_getElem?_foldl_enter,
    StoreTables.getElem?_declared, ← mem_spaces_tables]
  constructor
  · rintro (hdeclared | ⟨target, htarget, rfl⟩)
    · by_contra h
      simp [h] at hdeclared
    · rw [mem_spaces_tables]
      exact declares_of_lists (mem_keys_sets_tables.1 htarget)
  · intro h
    rw [if_pos h]
    exact .inl rfl

theorem mem_getElem?_catalogue_tables (store : Store) (space set : String) :
    set ∈ store.tables.catalogue[space]?.getD ∅ ↔
      (store.setAt? ⟨space, set⟩).isSome = true := by
  have hempty : store.tables.declared[space]?.getD ∅ = ∅ := by
    rw [StoreTables.getElem?_declared]
    split <;> rfl
  rw [StoreTables.catalogue, StoreTables.mem_getElem?_foldl_enter, hempty, mem_keys_sets_tables]
  simp

theorem getElem?_catalogue_tables (store : Store) (space : String) :
    store.tables.catalogue[space]?.map Std.ExtTreeSet.toList = store.catalogue.get? space := by
  have hdeclares := isSome_getElem?_catalogue_tables store space
  have hsets := mem_getElem?_catalogue_tables store space
  rw [catalogue, SortedMap.get?_mapValues]
  unfold declares SortedMap.contains at hdeclares
  unfold setAt? setsOf at hsets
  cases hspace : store.spaces.get? space with
  | none =>
    rw [hspace, Option.isSome_none, Option.isSome_eq_false_iff, Option.isNone_iff_eq_none]
      at hdeclares
    rw [hdeclares]
    rfl
  | some sets =>
    rw [hspace, Option.isSome_some, Option.isSome_iff_exists] at hdeclares
    obtain ⟨names, hnames⟩ := hdeclares
    simp only [hspace, hnames, Option.getD_some] at hsets
    have hordered : names.toList.Pairwise fun a b => compare a b = .lt :=
      Std.ExtTreeSet.ordered_toList
    rw [hnames, Option.map_some, Option.map_some, Option.some.injEq]
    refine eq_of_ascending (fun _ _ => String.lt_asymm)
      (hordered.imp compareOfLessAndEq_eq_lt.1) sets.pairwise_keys fun set => ?_
    rw [Std.ExtTreeSet.mem_toList, hsets, SortedMap.mem_keys_iff]
    rfl

/-- The catalogue of the tables lists the namespaces and sets that the catalogue of the store does,
in the same order. -/
theorem catalogue_tables (store : Store) :
    (store.tables.catalogue.toList.map fun e => (e.1, e.2.toList)) = store.catalogue.entries := by
  have hordered : store.tables.catalogue.toList.Pairwise fun a b => compare a.1 b.1 = .lt :=
    Std.ExtTreeMap.ordered_keys_toList
  refine eq_of_ascending (fun _ _ => String.lt_asymm)
    (List.pairwise_map.2 (hordered.imp compareOfLessAndEq_eq_lt.1)) store.catalogue.sorted ?_
  rintro ⟨space, names⟩
  rw [SortedMap.mem_entries_iff, ← getElem?_catalogue_tables, Option.map_eq_some_iff]
  simp only [List.mem_map, Prod.exists, Prod.mk.injEq,
    Std.ExtTreeMap.mem_toList_iff_getElem?_eq_some]
  constructor
  · rintro ⟨_, sets, hsets, rfl, hnames⟩
    exact ⟨sets, hsets, hnames⟩
  · rintro ⟨sets, hsets, hnames⟩
    exact ⟨space, sets, hsets, rfl, hnames⟩

/-- **A store answers as its two tables do.** The changes that any run of events makes, made to empty
tables, lead to tables in which every read finds what it finds in the store. -/
theorem answers_of_tables (settings : ClientSettings) (events : List StoreEvent) :
    let store := events.foldl step (empty settings)
    let tables := (StoreEvent.changesOf true events).foldl
      (StoreTables.apply · settings.defaultTtl) .empty
    (∀ key, tables.find? key = store.find? key) ∧
      (∀ query, tables.matching query = store.matching query) ∧
      (∀ space set, tables.scan space set = store.scan space set) ∧
      (tables.catalogue.toList.map fun e => (e.1, e.2.toList)) = store.catalogue.entries ∧
      tables.size = store.size := by
  intro store tables
  have hstore : store.tables = tables := by
    have hevents : store.tables = ((StoreEvent.changesOf true events).foldl apply
        (empty settings)).tables := by
      rw [show store = _ from foldl_step_eq (empty settings) events]
      rfl
    rw [hevents, tables_foldl_apply]
    rfl
  rw [← hstore]
  exact ⟨find?_tables store, matching_tables store, scan_tables store, catalogue_tables store,
    size_tables store⟩

end Store

end RecordQuery
