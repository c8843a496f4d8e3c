import RecordQuery.Proofs.Json
import RecordQuery.Proofs.Store.Changes
import RecordQuery.Proofs.Text.ByteOrder

/-!
# What a seed leaves in a store

The entries of a seed are its namespaces, the sets in these and the records in those, whatever
stands under their names. They are met in the order of their paths, and the first one that is not an
object ends the load.

* `SeedEntry`: an entry, with the names on the way to it, what happens to a store when it is met,
  and the error that it is if it is no object.
* `Seed.entries`: the entries of a seed in order. `Seed.mem_entries_iff`, `Seed.pairwise_entries`:
  which these are, and that they ascend.
* `Store.meet`: a store after entries were met. `Store.load_prefix`: a load meets the entries up to
  the first one that is no object.
-/

namespace RecordQuery

/-- A namespace, a set or a record of a seed, with what stands under its name. -/
inductive SeedEntry where
  | space (name : String) (content : Json)
  | set (target : SetName) (content : Json)
  | record (key : RecordKey) (content : Json)

namespace SeedEntry

def content : SeedEntry → Json
  | space _ content => content
  | set _ content => content
  | record _ content => content

def isRecord : SeedEntry → Bool
  | record _ _ => true
  | _ => false

/-- The names on the way to an entry. -/
def path : SeedEntry → List String
  | space name _ => [name]
  | set target _ => [target.space, target.set]
  | record key _ => [key.space, key.set, key.user]

/-- The order of entries: by the bytes of the names on their paths, the first name first, and what
contains an entry before it. -/
def Precedes (first second : SeedEntry) : Prop :=
  List.Lex (fun name name' => Text.utf8Bytes name < Text.utf8Bytes name') first.path second.path

/-- The error that an entry is if it is no object. -/
def error : SeedEntry → SeedError
  | space name _ => .space name
  | set target _ => .set target
  | record key _ => .record key

/-- What happens to a store when an entry is met. A namespace is declared whatever stands under it,
and a record is put if its bins stand there. -/
def event? : SeedEntry → Option StoreEvent
  | space name _ => some (.declare name)
  | set _ _ => none
  | record key (.object bins) => some (.put key (.ofList (Value.ofJsonMembers bins)))
  | record _ _ => none

def changes (entry : SeedEntry) : List StoreChange :=
  entry.event?.toList.flatMap (StoreEvent.changes true)

/-- An entry in the run of a seed: its changes, and the error if it is one. -/
def steps (entry : SeedEntry) : List SeedStep :=
  entry.changes.map .ok ++ if entry.content.isObject then [] else [.error entry.error]

theorem toError_error (entry : SeedEntry) : ∃ kind demand, entry.error.toError =
    .invalidArgument (kind ++ " '" ++ ".".intercalate entry.path ++ "' must " ++ demand) := by
  cases entry with
  | space name _ =>
    refine ⟨"namespace", "map to an object of sets", congrArg Error.invalidArgument ?_⟩
    simp [error, SeedError.message, path, String.append_assoc]
  | set target _ =>
    refine ⟨"set", "map to an object of records", congrArg Error.invalidArgument ?_⟩
    simp [error, SeedError.message, path, SetName.display, String.append_assoc]
  | record key _ =>
    refine ⟨"record", "be an object of bins", congrArg Error.invalidArgument ?_⟩
    simp [error, SeedError.message, path, RecordKey.display, String.append_assoc]

end SeedEntry

/-! ## The entries of a seed -/

namespace Seed

def setEntries (target : SetName) (content : Json) : List SeedEntry :=
  .set target content :: content.members.map fun e => .record (target.key e.1) e.2

def spaceEntries (space : String) (content : Json) : List SeedEntry :=
  .space space content :: content.members.flatMap fun e => setEntries ⟨space, e.1⟩ e.2

/-- The entries of a seed, each followed by those in it. -/
def entries (seed : Json) : List SeedEntry :=
  seed.members.flatMap fun e => spaceEntries e.1 e.2

theorem mem_setEntries {target : SetName} {content : Json} {entry : SeedEntry} :
    entry ∈ setEntries target content ↔ entry = .set target content ∨
      ∃ user json, (user, json) ∈ content.members ∧ entry = .record (target.key user) json := by
  simp [setEntries, eq_comm]

theorem mem_spaceEntries {space : String} {content : Json} {entry : SeedEntry} :
    entry ∈ spaceEntries space content ↔ entry = .space space content ∨
      ∃ set json, (set, json) ∈ content.members ∧ entry ∈ setEntries ⟨space, set⟩ json := by
  simp [spaceEntries]

theorem mem_entries {seed : Json} {entry : SeedEntry} :
    entry ∈ entries seed ↔
      ∃ space json, (space, json) ∈ seed.members ∧ entry ∈ spaceEntries space json := by
  simp [entries]

/-- **The entries of a seed are what paths of one to three names lead to.** -/
theorem mem_entries_iff {seed : Json} (h : seed.IsOrdered) {entry : SeedEntry} :
    entry ∈ entries seed ↔ seed.at? entry.path = some entry.content := by
  rw [mem_entries]
  simp only [mem_spaceEntries, mem_setEntries]
  cases entry with
  | space name content =>
    simp only [SeedEntry.path, SeedEntry.content, Json.at?, Option.bind_fun_some]
    rw [← h.mem_members_iff]
    simp
  | set target content =>
    obtain ⟨space, set⟩ := target
    simp only [SeedEntry.path, SeedEntry.content, Json.at?, Option.bind_fun_some,
      Option.bind_eq_some_iff]
    constructor
    · rintro ⟨_, sets, hsets, ⟨⟨⟩⟩ | ⟨_, _, hset, heq | ⟨_, _, -, ⟨⟨⟩⟩⟩⟩⟩
      cases heq
      exact ⟨sets, h.mem_members_iff.1 hsets, (h.of_mem_members hsets).mem_members_iff.1 hset⟩
    · rintro ⟨sets, hsets, hset⟩
      have hmem := h.mem_members_iff.2 hsets
      exact ⟨space, sets, hmem, .inr ⟨set, content,
        (h.of_mem_members hmem).mem_members_iff.2 hset, .inl rfl⟩⟩
  | record key content =>
    obtain ⟨space, set, user⟩ := key
    simp only [SeedEntry.path, SeedEntry.content, Json.at?, Option.bind_fun_some,
      Option.bind_eq_some_iff]
    constructor
    · rintro ⟨_, sets, hsets, ⟨⟨⟩⟩ | ⟨_, records, hset, ⟨⟨⟩⟩ | ⟨_, _, hrecord, heq⟩⟩⟩
      cases heq
      have hordered := h.of_mem_members hsets
      exact ⟨sets, h.mem_members_iff.1 hsets, records, hordered.mem_members_iff.1 hset,
        (hordered.of_mem_members hset).mem_members_iff.1 hrecord⟩
    · rintro ⟨sets, hsets, records, hset, hrecord⟩
      have hmem := h.mem_members_iff.2 hsets
      have hordered := h.of_mem_members hmem
      have hmem' := hordered.mem_members_iff.2 hset
      exact ⟨space, sets, hmem, .inr ⟨set, records, hmem', .inr ⟨user, content,
        (hordered.of_mem_members hmem').mem_members_iff.2 hrecord, rfl⟩⟩⟩

/-! Entries ascend: siblings by their names, and what contains an entry stands before it. -/

theorem pairwise_setEntries (target : SetName) {content : Json} (h : content.IsOrdered) :
    (setEntries target content).Pairwise SeedEntry.Precedes := by
  refine List.pairwise_cons.2 ⟨fun entry hentry => ?_, ?_⟩
  · obtain ⟨_, -, rfl⟩ := List.mem_map.1 hentry
    exact .cons (.cons .nil)
  · refine List.pairwise_map.2 (h.pairwise_members.imp fun {a b} hlt => ?_)
    exact .cons (.cons (.rel (Text.lt_iff_utf8Bytes_lt.1 hlt)))

theorem exists_path_of_mem_setEntries {target : SetName} {content : Json} {entry : SeedEntry}
    (h : entry ∈ setEntries target content) :
    ∃ path, entry.path = target.space :: target.set :: path := by
  obtain rfl | ⟨user, _, -, rfl⟩ := mem_setEntries.1 h
  · exact ⟨[], rfl⟩
  · exact ⟨[user], rfl⟩

theorem exists_path_of_mem_spaceEntries {space : String} {content : Json} {entry : SeedEntry}
    (h : entry ∈ spaceEntries space content) : ∃ path, entry.path = space :: path := by
  obtain rfl | ⟨set, _, -, hentry⟩ := mem_spaceEntries.1 h
  · exact ⟨[], rfl⟩
  · obtain ⟨path, hpath⟩ := exists_path_of_mem_setEntries hentry
    exact ⟨set :: path, hpath⟩

theorem pairwise_spaceEntries (space : String) {content : Json} (h : content.IsOrdered) :
    (spaceEntries space content).Pairwise SeedEntry.Precedes := by
  refine List.pairwise_cons.2 ⟨fun entry hentry => ?_, List.pairwise_flatMap.2 ⟨?_, ?_⟩⟩
  · obtain ⟨e, -, hset⟩ := List.mem_flatMap.1 hentry
    obtain ⟨path, hpath⟩ := exists_path_of_mem_setEntries hset
    rw [SeedEntry.Precedes, hpath]
    exact .cons .nil
  · exact fun e hmem => pairwise_setEntries _ (h.of_mem_members hmem)
  · refine h.pairwise_members.imp fun {a b} hlt first hfirst second hsecond => ?_
    obtain ⟨path, hpath⟩ := exists_path_of_mem_setEntries hfirst
    obtain ⟨path', hpath'⟩ := exists_path_of_mem_setEntries hsecond
    rw [SeedEntry.Precedes, hpath, hpath']
    exact .cons (.rel (Text.lt_iff_utf8Bytes_lt.1 hlt))

theorem pairwise_entries {seed : Json} (h : seed.IsOrdered) :
    (entries seed).Pairwise SeedEntry.Precedes := by
  refine List.pairwise_flatMap.2 ⟨?_, ?_⟩
  · exact fun e hmem => pairwise_spaceEntries _ (h.of_mem_members hmem)
  · refine h.pairwise_members.imp fun {a b} hlt first hfirst second hsecond => ?_
    obtain ⟨path, hpath⟩ := exists_path_of_mem_spaceEntries hfirst
    obtain ⟨path', hpath'⟩ := exists_path_of_mem_spaceEntries hsecond
    rw [SeedEntry.Precedes, hpath, hpath']
    exact .rel (Text.lt_iff_utf8Bytes_lt.1 hlt)

/-! ## The run of a seed -/

theorem steps_record (key : RecordKey) (content : Json) :
    (SeedEntry.record key content).steps = [recordStep key content] := by
  cases content with
  | int n =>
    unfold recordStep Value.ofJson Value.ofInt
    cases Number.toInt64? n <;> rfl
  | _ => rfl

theorem setStep_eq (target : SetName) (content : Json) :
    setStep target content = (setEntries target content).flatMap SeedEntry.steps := by
  cases content with
  | object records =>
    show recordSteps target records = [] ++ (records.map _).flatMap SeedEntry.steps
    rw [List.nil_append, List.flatMap_map, recordSteps, List.map_eq_flatMap]
    simp only [steps_record]
  | _ => rfl

theorem spaceStep_eq (space : String) (content : Json) :
    spaceStep space content = (spaceEntries space content).flatMap SeedEntry.steps := by
  cases content with
  | object sets =>
    show .ok (.declare space) :: setSteps space sets =
      .ok (.declare space) :: (sets.flatMap _).flatMap SeedEntry.steps
    simp only [setSteps, setStep_eq, List.flatMap_assoc]
  | _ => rfl

theorem steps_eq {seed : Json} (h : seed.isObject = true) :
    steps seed = (entries seed).flatMap SeedEntry.steps := by
  cases seed with
  | object spaces =>
    show spaceSteps spaces = (spaces.flatMap _).flatMap SeedEntry.steps
    simp only [spaceSteps, spaceStep_eq, List.flatMap_assoc]
  | _ => cases h

end Seed

namespace Store

/-- The store after entries of a seed were met: as if it was connected and all that happens with
them happened to it one by one. -/
def meet (store : Store) (entries : List SeedEntry) : Store :=
  { (entries.filterMap SeedEntry.event?).foldl step { store with connected := true } with
    connected := store.connected }

theorem changesOf_entries (entries : List SeedEntry) :
    StoreEvent.changesOf true (entries.filterMap SeedEntry.event?) =
      entries.flatMap SeedEntry.changes := by
  induction entries with
  | nil => rfl
  | cons entry entries ih =>
    rw [List.flatMap_cons, ← ih]
    unfold SeedEntry.changes
    cases hevent : entry.event? with
    | none => rw [List.filterMap_cons_none hevent]; rfl
    | some event =>
      have hconnected : event.connectedAfter true = true := by
        unfold SeedEntry.event? at hevent
        split at hevent <;> cases hevent <;> rfl
      rw [List.filterMap_cons_some hevent, StoreEvent.changesOf, hconnected]
      simp

theorem meet_eq (store : Store) (entries : List SeedEntry) :
    store.meet entries = (entries.flatMap SeedEntry.changes).foldl apply store := by
  unfold meet
  rw [foldl_step_eq]
  dsimp only
  rw [foldl_apply_connected, changesOf_entries, ← connected_foldl_apply store]

theorem meet_concat (store : Store) (entries : List SeedEntry) (entry : SeedEntry) :
    store.meet (entries ++ [entry]) = entry.changes.foldl apply (store.meet entries) := by
  rw [meet_eq, meet_eq, List.flatMap_append, List.flatMap_singleton, List.foldl_append]

theorem load_of_isObject (store : Store) {seed : Json} (h : seed.isObject = true) :
    store.load seed = store.carryOut 0 ((Seed.entries seed).flatMap SeedEntry.steps) := by
  rw [← Seed.steps_eq h]
  cases seed with
  | object spaces => exact loadSpaces_eq spaces store 0
  | _ => cases h

theorem carryOut_steps (store : Store) (count : Nat) {entry : SeedEntry}
    (h : entry.content.isObject = true) :
    store.carryOut count entry.steps =
      (.ok (count + if entry.isRecord then 1 else 0), entry.changes.foldl apply store) := by
  rw [SeedEntry.steps, if_pos h, List.append_nil]
  obtain ⟨name, content⟩ | ⟨target, content⟩ | ⟨key, content⟩ := entry
  · rfl
  · rfl
  · cases content with
    | object bins => rfl
    | _ => cases h

theorem carryOut_flatMap_steps (store : Store) (count : Nat) {entries : List SeedEntry}
    (h : ∀ entry ∈ entries, entry.content.isObject = true) :
    store.carryOut count (entries.flatMap SeedEntry.steps) =
      (.ok (count + entries.countP SeedEntry.isRecord), store.meet entries) := by
  rw [meet_eq]
  induction entries generalizing store count with
  | nil => rfl
  | cons entry entries ih =>
    obtain ⟨hentry, hentries⟩ := List.forall_mem_cons.1 h
    rw [List.flatMap_cons, carryOut_append, carryOut_steps store count hentry]
    dsimp only
    rw [ih _ _ hentries, List.flatMap_cons, List.foldl_append, List.countP_cons, Nat.add_assoc,
      Nat.add_comm (List.countP _ _)]

theorem carryOut_steps_append (store : Store) (count : Nat) {entry : SeedEntry}
    (h : entry.content.isObject = false) (rest : List SeedStep) :
    store.carryOut count (entry.steps ++ rest) =
      (.error entry.error, entry.changes.foldl apply store) := by
  rw [SeedEntry.steps, h]
  obtain ⟨name, content⟩ | ⟨target, content⟩ | ⟨key, content⟩ := entry
  · rfl
  · rfl
  · cases content with
    | object bins => cases h
    | _ => rfl

/-- **A seed is loaded up to its first entry that is no object.** The entries of a seed are what
paths of one to three names lead to; they are met in ascending order of the bytes of these names, what
contains an entry before it. What is no seed is refused. If all entries are objects, all of them are
met and the records are counted. Else the load ends with the first entry that is none, which the
error names; the entries up to it are met, and nothing after it has any effect. -/
theorem load_prefix {seed : Json} (hseed : seed.IsOrdered) (store : Store) :
    let entries := Seed.entries seed
    entries.Pairwise SeedEntry.Precedes ∧
    (∀ entry, entry ∈ entries ↔ seed.at? entry.path = some entry.content) ∧
    (seed.isObject = false → store.load seed = (.error .seed, store)) ∧
    (seed.isObject = true → (∀ entry ∈ entries, entry.content.isObject = true) →
      store.load seed = (.ok (entries.countP SeedEntry.isRecord), store.meet entries)) ∧
    ∀ before bad after, entries = before ++ bad :: after →
      (∀ entry ∈ before, entry.content.isObject = true) → bad.content.isObject = false →
      store.load seed = (.error bad.error, store.meet (before ++ [bad])) ∧
        ∃ kind demand, bad.error.toError = .invalidArgument
          (kind ++ " '" ++ ".".intercalate bad.path ++ "' must " ++ demand) := by
  intro entries
  refine ⟨Seed.pairwise_entries hseed, fun entry => Seed.mem_entries_iff hseed, fun hobject => ?_,
    fun hobject hentries => ?_, fun before bad after hsplit hbefore hbad => ⟨?_, bad.toError_error⟩⟩
  · cases seed with
    | object spaces => cases hobject
    | _ => rfl
  · rw [load_of_isObject store hobject, carryOut_flatMap_steps store 0 hentries, Nat.zero_add]
  · have hobject : seed.isObject = true := by
      cases seed with
      | object spaces => rfl
      | _ => simp [entries, Seed.entries, Json.members] at hsplit
    rw [load_of_isObject store hobject, show Seed.entries seed = _ from hsplit,
      List.flatMap_append, List.flatMap_cons, carryOut_append,
      carryOut_flatMap_steps store 0 hbefore, meet_concat]
    exact carryOut_steps_append _ _ hbad _

/-- A seed that is loaded without a connection breaks off within its second namespace. The record
before loses a bin that was there and has one more write. -/
theorem load_prefix_second_set :
    let key : RecordKey := ⟨"b", "s", "u"⟩
    let seed : Json := .object [("a", .object []),
      ("b", .object [("s", .object [("u", .object [("m", .string "x"), ("n", .null)])]),
        ("t", .bool true)]),
      ("c", .object [])]
    let store : Store :=
      { (Store.empty {}).write key (.ofList [("n", .bool true)]) with connected := false }
    Json.read? seed.compact = some seed ∧
      ∃ after record, store.load seed = (.error (.set ⟨"b", "t"⟩), after) ∧
        after.catalogue.keys = ["a", "b"] ∧ after.connected = false ∧
        after.find? key = some record ∧ record.bins.get? "m" = some (.str "x") ∧
        record.bins.get? "n" = none ∧ record.generation = 2 := by
  intro key seed store
  have hread : Json.read? seed.compact = some seed := rfl
  obtain ⟨-, -, -, -, hbad⟩ := load_prefix (Json.isOrdered_of_read? hread) store
  obtain ⟨hload, -⟩ := hbad
    [.space "a" (.object []),
      .space "b" (.object [("s", .object [("u", .object [("m", .string "x"), ("n", .null)])]),
        ("t", .bool true)]),
      .set ⟨"b", "s"⟩ (.object [("u", .object [("m", .string "x"), ("n", .null)])]),
      .record key (.object [("m", .string "x"), ("n", .null)])]
    (.set ⟨"b", "t"⟩ (.bool true)) [.space "c" (.object [])] rfl (by decide) rfl
  let bins : Bins := .ofList [("m", .str "x"), ("n", .nil)]
  refine ⟨hread, _, Record.written key bins none (store.find? key), hload, ?_, rfl, ?_, rfl, rfl,
    rfl⟩
  · decide +kernel
  · rw [meet_eq]
    show (((store.declare "a").declare "b").write key bins).find? key = _
    rw [find?_write, if_pos rfl, find?_declare, find?_declare]
    rfl

end Store

end RecordQuery
