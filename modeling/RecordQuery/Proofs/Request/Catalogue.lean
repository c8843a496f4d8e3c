import RecordQuery.Proofs.Executor.Screening
import RecordQuery.Proofs.Request.Running
import RecordQuery.Proofs.Store.History
import RecordQuery.Proofs.Store.Listing

/-!
# The catalogue of a store

`Store.catalogue_history`: after any run of events, a catalogue has the namespaces that were reached
and the sets that were written to and not dropped since, and it is delivered as one row for each.

* `Catalogue.listing`: what the rows are about. `Catalogue.mem_listing_set`, `mem_listing_space`:
  which sets and namespaces that is. `Catalogue.pairwise_listing`: they ascend.
* `Store.lists_step_delete`, `lists_step_truncate`, `lists_step_load`: what single events list and
  unlist.
-/

namespace RecordQuery

/-- What a row of a catalogue is about: a set, or a namespace without sets. -/
structure Listing where
  space : String
  set : Option String

namespace Listing

def row : Listing → Row
  | ⟨space, none⟩ => .ofList [("Namespace", .str space)]
  | ⟨space, some set⟩ => .ofList [("Namespace", .str space), ("Set", .str set)]

/-- Ascending order by namespace and set. A namespace without sets has one row only. -/
def Precedes (first second : Listing) : Prop :=
  Text.utf8Bytes first.space < Text.utf8Bytes second.space ∨
    first.space = second.space ∧
      ∃ set ∈ first.set, ∃ set' ∈ second.set, Text.utf8Bytes set < Text.utf8Bytes set'

end Listing

namespace Catalogue

/-- Whether a catalogue has a set under its namespace. -/
def Lists (catalogue : Catalogue) (target : SetName) : Prop :=
  ∃ sets, catalogue.get? target.space = some sets ∧ target.set ∈ sets

/-! ## Rows -/

def block (space : String) (sets : List String) : List Listing :=
  if sets.isEmpty then [⟨space, none⟩] else sets.map fun set => ⟨space, some set⟩

theorem mem_block_set {space : String} {sets : List String} {listing : Listing} {set : String}
    (hset : listing.set = some set) :
    listing ∈ block space sets ↔ listing.space = space ∧ set ∈ sets := by
  obtain ⟨other, _⟩ := listing
  obtain rfl := hset
  unfold block
  cases sets with
  | nil => simp
  | cons first rest =>
    rw [if_neg (by simp), List.mem_map]
    constructor
    · rintro ⟨set', hmem, heq⟩
      cases heq
      exact ⟨rfl, hmem⟩
    · rintro ⟨rfl, hmem⟩
      exact ⟨set, hmem, rfl⟩

theorem mem_block_space {space : String} {sets : List String} {listing : Listing}
    (hset : listing.set = none) :
    listing ∈ block space sets ↔ listing.space = space ∧ sets = [] := by
  obtain ⟨other, _⟩ := listing
  obtain rfl := hset
  unfold block
  cases sets with
  | nil => simp
  | cons first rest => simp

theorem space_of_mem_block {space : String} {sets : List String} {listing : Listing}
    (h : listing ∈ block space sets) : listing.space = space := by
  cases hset : listing.set with
  | none => exact ((mem_block_space hset).1 h).1
  | some set => exact ((mem_block_set hset).1 h).1

theorem pairwise_block (space : String) {sets : List String} (h : sets.Pairwise (· < ·)) :
    (block space sets).Pairwise Listing.Precedes := by
  unfold block
  split
  · exact List.pairwise_singleton _ _
  · refine List.pairwise_map.2 (h.imp fun {set set'} hlt => .inr ⟨rfl, set, rfl, set', rfl, ?_⟩)
    exact Text.lt_iff_utf8Bytes_lt.1 hlt

def listing (catalogue : Catalogue) : List Listing :=
  catalogue.entries.flatMap fun e => block e.1 e.2

theorem rows_eq (catalogue : Catalogue) : catalogue.rows = catalogue.listing.map Listing.row := by
  unfold rows listing
  rw [List.map_flatMap]
  congr 1
  funext ⟨space, sets⟩
  unfold block
  dsimp only
  by_cases hempty : sets.isEmpty = true
  · rw [if_pos hempty, if_pos hempty]
    rfl
  · rw [if_neg hempty, if_neg hempty, List.map_map]
    rfl

theorem mem_listing_set {catalogue : Catalogue} {space set : String} :
    ⟨space, some set⟩ ∈ catalogue.listing ↔ catalogue.Lists ⟨space, set⟩ := by
  unfold listing Lists
  rw [List.mem_flatMap]
  constructor
  · rintro ⟨⟨_, sets⟩, hentry, hblock⟩
    obtain ⟨rfl, hset⟩ := (mem_block_set rfl).1 hblock
    exact ⟨sets, (SortedMap.mem_entries_iff _).1 hentry, hset⟩
  · rintro ⟨sets, hsets, hset⟩
    exact ⟨(space, sets), (SortedMap.mem_entries_iff _).2 hsets, (mem_block_set rfl).2 ⟨rfl, hset⟩⟩

theorem mem_listing_space {catalogue : Catalogue} {space : String} :
    ⟨space, none⟩ ∈ catalogue.listing ↔
      catalogue.contains space = true ∧ ∀ set, ¬ catalogue.Lists ⟨space, set⟩ := by
  unfold listing Lists SortedMap.contains
  rw [List.mem_flatMap]
  constructor
  · rintro ⟨⟨_, sets⟩, hentry, hblock⟩
    obtain ⟨rfl, hnone⟩ := (mem_block_space rfl).1 hblock
    dsimp only at hnone
    rw [SortedMap.mem_entries_iff, hnone] at hentry
    rw [hentry]
    refine ⟨rfl, ?_⟩
    rintro set ⟨sets, hsets, hset⟩
    obtain rfl : [] = sets := Option.some.inj (hentry.symm.trans hsets)
    cases hset
  · rintro ⟨hcontains, hnone⟩
    obtain ⟨sets, hsets⟩ := Option.isSome_iff_exists.1 hcontains
    refine ⟨(space, sets), (SortedMap.mem_entries_iff _).2 hsets, (mem_block_space rfl).2 ⟨rfl, ?_⟩⟩
    exact List.eq_nil_iff_forall_not_mem.2 fun set hset => hnone set ⟨sets, hsets, hset⟩

theorem pairwise_listing {catalogue : Catalogue}
    (hsets : ∀ e ∈ catalogue.entries, e.2.Pairwise (· < ·)) :
    catalogue.listing.Pairwise Listing.Precedes := by
  unfold listing
  rw [List.pairwise_flatMap]
  refine ⟨fun e he => pairwise_block e.1 (hsets e he), catalogue.sorted.imp fun {a b} hlt => ?_⟩
  intro listing hlisting listing' hlisting'
  refine .inl (Text.lt_iff_utf8Bytes_lt.1 ?_)
  rw [space_of_mem_block hlisting, space_of_mem_block hlisting']
  exact hlt

end Catalogue

namespace Store

theorem contains_catalogue (store : Store) (space : String) :
    store.catalogue.contains space = store.declares space := by
  unfold catalogue declares SortedMap.contains
  rw [SortedMap.get?_mapValues, Option.isSome_map]

theorem lists_catalogue (store : Store) (target : SetName) :
    store.catalogue.Lists target ↔ store.lists target = true := by
  unfold Catalogue.Lists catalogue lists setsOf
  rw [SortedMap.get?_mapValues]
  cases hsets : store.spaces.get? target.space with
  | none => simp [SortedMap.contains]
  | some sets => simp [SortedMap.mem_keys_iff]

theorem pairwise_listing_catalogue (store : Store) :
    store.catalogue.listing.Pairwise Listing.Precedes := by
  refine Catalogue.pairwise_listing ?_
  intro e he
  obtain ⟨⟨space, sets⟩, -, rfl⟩ := List.mem_map.1 he
  exact List.pairwise_map.2 sets.sorted

theorem lists_step_delete (store : Store) (key : RecordKey) (target : SetName) :
    (store.step (.delete key)).lists target = store.lists target := by
  simp only [step, client, run_call]
  split
  · exact lists_remove store key target
  · rfl

theorem lists_step_truncate {store : Store} (h : store.connected = true) (target : SetName) :
    (store.step (.truncate target)).lists target = false := by
  simp only [step, client, run_call_of_connected h]
  rw [lists_dropSet]
  simp

theorem lists_step_load (store : Store) {target : SetName} {spaces : List (String × Json)}
    (h : ∀ sets, (target.space, .object sets) ∈ spaces →
      ∀ records, (target.set, .object records) ∈ sets → records = []) :
    (store.step (.load (.object spaces))).lists target = true ↔ store.lists target = true := by
  have hload : store.step (.load (.object spaces)) =
      (Seed.changes (.object spaces)).foldl apply store := by
    rw [step, load_eq]
  have hdropped : .dropSet target ∉ Seed.changes (.object spaces) := by
    intro hmem
    obtain ⟨space, hchange⟩ | ⟨key, bins, sets, records, json, hchange, -⟩ :=
      Seed.cases_of_mem_changes hmem
    · cases hchange
    · cases hchange
  have hwritten : ¬ StoreChange.WrittenSince target (Seed.changes (.object spaces)) := by
    rintro ⟨before, key, bins, after, hchanges, rfl, -⟩
    have hmem : .write key bins ∈ Seed.changes (.object spaces) := by
      rw [hchanges]
      exact List.mem_append_right _ List.mem_cons_self
    obtain ⟨space, hchange⟩ | ⟨key, bins, sets, records, json, hchange, hsets, hrecords, hjson⟩ :=
      Seed.cases_of_mem_changes hmem
    · cases hchange
    · cases hchange
      rw [h sets hsets records hrecords] at hjson
      cases hjson
  rw [hload, lists_foldl_apply, or_iff_right hwritten, and_iff_right hdropped]

theorem run_catalogue {store : Store} (h : store.connected = true) (narrowUpdates : Bool) :
    (Executor.catalogue { client := Store.client, narrowUpdates }).run store =
      (.ok store.catalogue, store) := by
  unfold Executor.catalogue
  rw [StoreM.run_bind, Executor.run_ensureConnected]
  dsimp only
  rw [if_pos (show Store.client.isConnected store = true from h)]
  dsimp only
  rw [StoreM.run_within]
  simp only [client, run_call_of_connected h]
  rfl

/-- **A catalogue tells of the history of a store.** After any run of events from a new store, the
catalogue has the namespaces that were written to, reached by a seed or declared, and never loses
one. It lists the sets that were written to and not dropped since; so a deletion unlists no set,
emptying a set does, and a seed lists no set that it has no records of. With a connection it is
delivered as one row for each set and one for each namespace without sets, in ascending order. -/
theorem catalogue_history {settings : ClientSettings} {start : Store}
    (h : connect settings = .ok start) (events : List StoreEvent) :
    let store := events.foldl step start
    let changes := StoreEvent.changesOf true events
    (∀ space, store.catalogue.contains space = true ↔
      (∃ key bins, .write key bins ∈ changes ∧ key.space = space) ∨
        .declare space ∈ events ∨ ∃ seed, .load seed ∈ events ∧ Seed.Reaches seed space) ∧
    (∀ space, store.catalogue.contains space = true →
      ∀ later : List StoreEvent, (later.foldl step store).catalogue.contains space = true) ∧
    (∀ target, store.catalogue.Lists target ↔ StoreChange.WrittenSince target changes) ∧
    (∀ target key,
      (store.step (.delete key)).catalogue.Lists target ↔ store.catalogue.Lists target) ∧
    (∀ target, store.connected = true → ¬ (store.step (.truncate target)).catalogue.Lists target) ∧
    (∀ target spaces,
      (∀ sets, (target.space, .object sets) ∈ spaces →
        ∀ records, (target.set, .object records) ∈ sets → records = []) →
      ((store.step (.load (.object spaces))).catalogue.Lists target ↔
        store.catalogue.Lists target)) ∧
    (store.connected = true → ∀ narrowUpdates keys, ∃ listings : List Listing,
      listings.Pairwise Listing.Precedes ∧
      (∀ space set, ⟨space, some set⟩ ∈ listings ↔ store.catalogue.Lists ⟨space, set⟩) ∧
      (∀ space, ⟨space, none⟩ ∈ listings ↔
        store.catalogue.contains space = true ∧ ∀ set, ¬ store.catalogue.Lists ⟨space, set⟩) ∧
      Request.catalogue.run { client := Store.client, narrowUpdates } { store, keys } =
        ([.rows (listings.map Listing.row), .status "Namespaces and sets loaded."],
          { store, keys })) := by
  intro store changes
  obtain rfl := eq_empty_of_connect h
  have hstore : store = { changes.foldl apply (empty settings) with
      connected := events.foldl StoreEvent.connectedAfter true } := foldl_step_eq _ events
  have hdeclares : ∀ space, store.declares space = changes.any (StoreChange.reaches space) := by
    intro space
    have hempty : (empty settings).declares space = false := rfl
    rw [hstore]
    exact (declares_foldl_apply _ changes space).trans (by rw [hempty, Bool.false_or])
  have hlists : ∀ target, store.lists target = true ↔ StoreChange.WrittenSince target changes := by
    intro target
    have hempty : (empty settings).lists target = false := rfl
    rw [hstore]
    refine (lists_foldl_apply _ changes target).trans ?_
    rw [hempty]
    simp
  simp only [contains_catalogue, lists_catalogue]
  refine ⟨fun space => ?_, fun space hspace later => ?_, hlists, fun target key => ?_,
    fun target hconnected => ?_, fun target spaces => lists_step_load store,
    fun hconnected narrowUpdates keys => ⟨store.catalogue.listing, ?_, ?_, ?_, ?_⟩⟩
  · rw [hdeclares, List.any_eq_true, ← StoreEvent.declare_mem_changesOf true]
    constructor
    · rintro ⟨change, hmem, hreaches⟩
      cases change with
      | declare other => exact .inr (of_decide_eq_true hreaches ▸ hmem)
      | write key bins => exact .inl ⟨key, bins, hmem, of_decide_eq_true hreaches⟩
      | remove key => cases hreaches
      | dropSet target => cases hreaches
    · rintro (⟨key, bins, hmem, hspace⟩ | hmem)
      · exact ⟨_, hmem, decide_eq_true hspace⟩
      · exact ⟨_, hmem, decide_eq_true rfl⟩
  · have hlater := declares_foldl_apply store (StoreEvent.changesOf store.connected later) space
    rw [hspace, Bool.true_or] at hlater
    rw [foldl_step_eq]
    exact hlater
  · rw [lists_step_delete]
  · rw [lists_step_truncate hconnected]
    exact Bool.false_ne_true
  · exact pairwise_listing_catalogue store
  · intro space set
    rw [Catalogue.mem_listing_set, lists_catalogue]
  · intro space
    rw [Catalogue.mem_listing_space]
    simp only [contains_catalogue, lists_catalogue]
  · rw [Request.run_catalogue, run_catalogue hconnected]
    dsimp only
    rw [messagesOf, Catalogue.rows_eq]
    rfl

/-- A seed with an empty set breaks off at its second namespace. A set whose record was deleted is
not emptied without a connection. -/
theorem catalogue_history_broken_seed :
    let seed : Json := .object [("m", .object [("users", .object [])]), ("n", .int 5)]
    let key : RecordKey := ⟨"b", "users", "u1"⟩
    let events : List StoreEvent := [.load seed, .put key .empty, .delete key, .setConnected false,
      .truncate key.target, .setConnected true]
    let store := events.foldl step (empty {})
    store.catalogue.contains "n" = true ∧ store.catalogue.Lists ⟨"b", "users"⟩ ∧
      ¬ store.catalogue.Lists ⟨"m", "users"⟩ ∧
      ∃ listings : List Listing, listings.Pairwise Listing.Precedes ∧
        ⟨"b", some "users"⟩ ∈ listings ∧
        Request.catalogue.run { client := Store.client } { store } =
          ([.rows (listings.map Listing.row), .status "Namespaces and sets loaded."], { store }) := by
  intro seed key events store
  have hchanges : StoreEvent.changesOf true events =
      [.declare "m", .declare "n", .write key .empty, .remove key] := rfl
  obtain ⟨hspaces, -, hsets, -, -, -, hrun⟩ :=
    catalogue_history (rfl : connect {} = .ok (empty {})) events
  have hlists : store.catalogue.Lists ⟨"b", "users"⟩ :=
    (hsets _).2 (by
      rw [hchanges]
      exact ⟨[.declare "m", .declare "n"], key, .empty, [.remove key], rfl, rfl, by simp⟩)
  have hreached : Seed.Reaches seed "n" :=
    ⟨[("m", .object [("users", .object [])])], .int 5, [], rfl, 0, rfl⟩
  refine ⟨(hspaces "n").2 (.inr (.inr ⟨seed, List.mem_cons_self, hreached⟩)), hlists, ?_, ?_⟩
  · rw [hsets, hchanges]
    rintro ⟨before, other, bins, after, heq, htarget, -⟩
    have hmem : .write other bins ∈ [StoreChange.declare "m", .declare "n", .write key .empty,
        .remove key] := by
      rw [heq]
      exact List.mem_append_right _ List.mem_cons_self
    simp only [List.mem_cons, reduceCtorEq, StoreChange.write.injEq, List.not_mem_nil, or_false,
      false_or] at hmem
    rw [hmem.1] at htarget
    exact absurd htarget (by decide)
  · obtain ⟨listings, hpairwise, hset, -, hdelivered⟩ := hrun rfl true {}
    exact ⟨listings, hpairwise, (hset "b" "users").2 hlists, hdelivered⟩

end Store

end RecordQuery
