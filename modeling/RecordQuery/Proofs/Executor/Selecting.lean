import RecordQuery.Proofs.Executor.Inserting
import RecordQuery.Proofs.Number.Truncation
import RecordQuery.Proofs.Text.ByteOrder

/-!
# Selections

A selection lists the records that its condition holds of, and of each the bins that it names.

* `Literal.Matches`, `SelectStatement.Selects`: the records that a selection is about.
* `SelectStatement.IsRowOf`: what is shown of one of them.
* `SelectStatement.Answers`: the rows of a selection.
* `Executor.select_answers`: these rows are the result of the selection, unless its stream fails.
-/

namespace RecordQuery

/-! ## Conditions -/

/-- Whether the value of a bin is what a literal asks for. A string asks for itself and an integer as
well. A double asks for an integer too, that which it is without its fraction. -/
def Literal.Matches : Literal → Value → Prop
  | .str text, .str actual => actual = text
  | .int number, .int actual => actual = number
  | .float number, .int actual => actual.toInt = Binary64.integerPart number
  | _, _ => False

theorem BinFilter.holds_ofEquality_iff {equality : Equality} {bins : Bins} :
    (BinFilter.ofEquality equality).holds bins = true ↔
      ∃ value, bins.get? equality.bin = some value ∧ equality.value.Matches value := by
  obtain ⟨bin, literal⟩ := equality
  unfold holds ofEquality
  dsimp only
  cases hvalue : bins.get? bin with
  | none => simp
  | some value =>
    cases literal with
    | str text => cases value <;> simp [FilterValue.ofLiteral, Literal.Matches]
    | int number => cases value <;> simp [FilterValue.ofLiteral, Literal.Matches]
    | float number =>
      cases value <;>
        simp [FilterValue.ofLiteral, Literal.Matches, ← Binary64.toInt_truncated, Int64.toInt_inj]

/-- Whether a selection is about a record with some bins. -/
def SelectStatement.Selects (statement : SelectStatement) (bins : Bins) : Prop :=
  ∀ equality, statement.predicate = some equality →
    ∃ value, bins.get? equality.bin = some value ∧ equality.value.Matches value

theorem SelectStatement.selects_iff {statement : SelectStatement} {bins : Bins} :
    statement.Selects bins ↔
      (IndexQuery.ofSelect statement).filter.all (fun filter => filter.holds bins) = true := by
  unfold Selects IndexQuery.ofSelect
  dsimp only
  cases statement.predicate with
  | none => simp
  | some equality => simp [← BinFilter.holds_ofEquality_iff]

/-! ## Rows -/

/-- What is shown of a record besides its bins. -/
def Record.metadata (key : RecordKey) (record : Record) : List (String × Value) :=
  [("Namespace", .str key.space), ("Set", .str key.set), ("Key", .str key.user),
    ("Generation", .int (Int64.ofNat record.generation.toNat)),
    ("TTL", .int (match record.ttl with
      | some seconds => Int64.ofNat seconds.toNat
      | none => -1))]

def BinSelection.Shows : BinSelection → String → Prop
  | .all, _ => True
  | .named names, name => name ∈ names

/-- Whether a row is what a selection shows of the record under a key: a bin that it shows and that
the record has, and else the metadata of that name. -/
structure SelectStatement.IsRowOf (statement : SelectStatement) (key : RecordKey) (record : Record)
    (row : Row) : Prop where
  bin : ∀ column value, statement.bins.Shows column → record.bins.get? column = some value →
    row.get? column = some value
  metadata : ∀ column, (statement.bins.Shows column → record.bins.get? column = none) →
    row.get? column = (record.metadata key).lookup column

theorem Row.get?_ofQueried_eq (record : Record) (column : String) :
    (Row.ofQueried record).get? column =
      (record.bins.get? column).or ((record.metadata record.key).lookup column) := by
  have hnames : ((record.metadata record.key).map Prod.fst).Nodup :=
    show metadataColumns.Nodup by decide
  rw [← SortedMap.get?_ofList_of_nodup hnames]
  exact SortedMap.get?_insertMany_entries _ _ _

theorem Record.get?_project_ofSelect {record : Record} {statement : SelectStatement}
    {column : String} {value : Value} :
    (record.project (IndexQuery.ofSelect statement).bins).bins.get? column = some value ↔
      statement.bins.Shows column ∧ record.bins.get? column = some value := by
  unfold IndexQuery.ofSelect BinSelection.Shows
  dsimp only
  cases statement.bins with
  | all => simp [project]
  | named names =>
    dsimp only [project]
    rw [SortedMap.get?_filter, Option.filter_eq_some_iff, List.contains_iff_mem, and_comm]

theorem SelectStatement.isRowOf_ofQueried (statement : SelectStatement) (record : Record) :
    statement.IsRowOf record.key record
      (Row.ofQueried (record.project (IndexQuery.ofSelect statement).bins)) where
  bin column value hshows hvalue := by
    rw [Row.get?_ofQueried_eq, Record.get?_project_ofSelect.2 ⟨hshows, hvalue⟩]
    rfl
  metadata column hnone := by
    have hbin : (record.project (IndexQuery.ofSelect statement).bins).bins.get? column = none := by
      rw [Option.eq_none_iff_forall_ne_some]
      intro value hvalue
      obtain ⟨hshows, hrecord⟩ := Record.get?_project_ofSelect.1 hvalue
      rw [hnone hshows] at hrecord
      cases hrecord
    rw [Row.get?_ofQueried_eq, hbin, Record.key_project]
    cases (IndexQuery.ofSelect statement).bins <;> rfl

/-! ## Answers -/

/-- The rows of a selection: one for each record of the set that it is about, in ascending order of
the bytes of the keys. The condition is decided on all bins of a record. -/
structure SelectStatement.Answers (statement : SelectStatement) (store : Store)
    (users : List String) (rows : List Row) : Prop where
  ascending : users.Pairwise fun a b => Text.utf8Bytes a < Text.utf8Bytes b
  complete : ∀ user, user ∈ users ↔
    ∃ record, store.find? (statement.target.key user) = some record ∧ statement.Selects record.bins
  rows : List.Forall₂ (fun user row => ∃ record,
    store.find? (statement.target.key user) = some record ∧
      statement.IsRowOf (statement.target.key user) record row) users rows

theorem Store.exists_answers {store : Store} (h : store.Addressed) (statement : SelectStatement) :
    ∃ users, statement.Answers store users
      ((store.matching (.ofSelect statement)).map Row.ofQueried) := by
  let query := IndexQuery.ofSelect statement
  let kept := (store.recordsOf statement.target).entries.filter fun e =>
    query.filter.all fun filter => filter.holds e.2.bins
  have hfind : ∀ e ∈ kept, store.find? (statement.target.key e.1) = some e.2 := fun e he =>
    (SortedMap.mem_entries_iff _).1 (List.mem_of_mem_filter he)
  have hmatching : (store.matching query).map Row.ofQueried =
      kept.map fun e => Row.ofQueried (e.2.project query.bins) := by
    unfold matching SortedMap.values
    rw [List.filter_map, List.map_map, List.map_map]
    rfl
  refine ⟨kept.map Prod.fst, ?_, fun user => ?_, ?_⟩
  · rw [List.pairwise_map]
    exact ((store.recordsOf statement.target).sorted.filter _).imp Text.lt_iff_utf8Bytes_lt.1
  · rw [List.mem_map]
    constructor
    · rintro ⟨e, he, rfl⟩
      exact ⟨e.2, hfind e he, SelectStatement.selects_iff.2 (List.mem_filter.1 he).2⟩
    · rintro ⟨record, hrecord, hselects⟩
      refine ⟨(user, record), List.mem_filter.2 ⟨?_, SelectStatement.selects_iff.1 hselects⟩, rfl⟩
      exact (SortedMap.mem_entries_iff _).2 hrecord
  · rw [hmatching, List.forall₂_map_left_iff, List.forall₂_map_right_iff, List.forall₂_same]
    intro e he
    have hkey := h _ _ (hfind e he)
    refine ⟨e.2, hfind e he, ?_⟩
    rw [← hkey]
    exact statement.isRowOf_ofQueried e.2

/-- **A selection answers with the rows of its records.** On a store in memory these are all of its
rows, in order, and the store stays as it is. On any client, a stream that fails leaves no row: the
result is its first failure. -/
theorem Executor.select_answers (statement : SelectStatement) :
    (∀ store : Store, store.Reachable → store.connected = true → ∀ narrow : Bool,
      ∃ users rows, ((Executor.mk Store.client narrow).select statement).run store =
        (.ok rows, store) ∧ statement.Answers store users rows) ∧
    ∀ {σ : Type} (executor : Executor σ) (s s' : σ) (records : List Record) (e : Error)
      (rest : List (Except Error Record)),
      (executor.client.query (.ofSelect statement)).run s =
        (.ok (records.map .ok ++ .error e :: rest), s') →
      (executor.select statement).run s = (.error (e.withContext "AQL Query Error"), s') := by
  constructor
  · intro store hreachable hconnected narrow
    obtain ⟨users, hanswers⟩ := Store.exists_answers hreachable.addressed statement
    exact ⟨users, _, run_select hconnected narrow statement, hanswers⟩
  · intro σ executor s s' records e rest hquery
    unfold select
    rw [StoreM.run_bind, run_fetch _ hquery, collect_error]
    rfl

/-- A selection by a double and of other bins than that one, among them one named like a column of
metadata. A fault after the first record leaves no row. -/
theorem Executor.select_answers_narrowed :
    let target : SetName := ⟨"a", "b"⟩
    let store := [StoreEvent.put (target.key "k2") (.ofList [("Key", .str "shown"), ("n", .int 3)]),
      .put (target.key "k1") (.ofList [("city", .str "Bern"), ("n", .int 3)]),
      .put (target.key "k3") (.ofList [("n", .int 4)])].foldl Store.step (Store.empty {})
    let literal := Literal.float (Binary64.ofCode false (Binary64.codeOfDecimal 37 (-1)))
    let statement : SelectStatement := ⟨target, .named ["Key", "city", "city"], some ⟨"n", literal⟩⟩
    let faulty : FaultyStore := ⟨store, { queryLimit := some 1 }, []⟩
    store.Reachable ∧ store.connected = true ∧
      (∃ users rows, ((Executor.mk Store.client true).select statement).run store =
          (.ok rows, store) ∧ statement.Answers store users rows ∧
        "k1" ∈ users ∧ "k2" ∈ users ∧ "k3" ∉ users) ∧
      (((Executor.mk FaultyStore.client true).select statement).run faulty).1.map List.length =
        .error (.store "AQL Query Error: Connection reset by peer") := by
  intro target store literal statement faulty
  have hreachable : store.Reachable := ⟨_, _, rfl⟩
  have hconnected : store.connected = true := rfl
  obtain ⟨hstore, hclient⟩ := select_answers statement
  obtain ⟨users, rows, hrun, hanswers⟩ := hstore store hreachable hconnected true
  have hselects : ∀ user, user ∈ users ↔ (store.find? (target.key user)).any (fun record =>
      (BinFilter.ofEquality ⟨"n", literal⟩).holds record.bins) = true := by
    intro user
    rw [hanswers.complete, Option.any_eq_true]
    simp only [SelectStatement.selects_iff]
    rfl
  have hquery := FaultyStore.run_query hconnected faulty.faults rfl [] (.ofSelect statement)
  simp only [FaultyStore.breakOff, faulty] at hquery
  rw [← List.map_take] at hquery
  refine ⟨hreachable, hconnected, ⟨users, rows, hrun, hanswers, ?_, ?_, ?_⟩, ?_⟩
  · exact (hselects "k1").2 (by decide +kernel)
  · exact (hselects "k2").2 (by decide +kernel)
  · exact fun hmem => absurd ((hselects "k3").1 hmem) (by decide +kernel)
  · rw [hclient _ _ _ _ _ _ hquery]
    rfl

end RecordQuery
