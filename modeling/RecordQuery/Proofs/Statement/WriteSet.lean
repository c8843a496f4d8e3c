import RecordQuery.Proofs.SortedMap
import RecordQuery.Statement

/-!
# The key and the bins of an insertion

Two columns give keys, three names have to do with them, and every name may stand several times.

* `InsertStatement.GivesKey`: the value that is taken for the key, the first of its column.
* `InsertStatement.IsWrite`: a write under a key, with the last value of every column.
* `InsertStatement.isWrite_iff`: there is one such write under every key.
* `InsertStatement.resolveWith_writes`: an insertion makes that write under the value that gives its
  key, and under a key that is made up where that value is empty or there is none.
-/

namespace RecordQuery.InsertStatement

variable {statement : InsertStatement} {column name user : String} {literal : Literal}

/-! ## Occurrences -/

/-- A value is the first one in a column. -/
def FirstIn (statement : InsertStatement) (column : String) (literal : Literal) : Prop :=
  ∃ before after, statement.pairs = before ++ (column, literal) :: after ∧
    ∀ pair ∈ before, pair.1 ≠ column

def LastIn (statement : InsertStatement) (column : String) (literal : Literal) : Prop :=
  ∃ before after, statement.pairs = before ++ (column, literal) :: after ∧
    ∀ pair ∈ after, pair.1 ≠ column

theorem firstIn_iff :
    statement.FirstIn column literal ↔ statement.pairs.lookup column = some literal := by
  rw [List.lookup_eq_some_iff, FirstIn]
  simp only [bne_iff_ne, ne_comm]

theorem lastIn_iff :
    statement.LastIn column literal ↔
      (SortedMap.ofList statement.pairs).get? column = some literal :=
  SortedMap.get?_ofList_eq_some_iff.symm

theorem map_fst_pairs (hlength : statement.columns.length = statement.values.length) :
    statement.pairs.map Prod.fst = statement.columns :=
  List.map_fst_zip (Nat.le_of_eq hlength)

theorem exists_lastIn (hcolumn : column ∈ statement.pairs.map Prod.fst) :
    ∃ literal, statement.LastIn column literal := by
  rw [← SortedMap.contains_ofList, SortedMap.contains, Option.isSome_iff_exists] at hcolumn
  obtain ⟨literal, hliteral⟩ := hcolumn
  exact ⟨literal, lastIn_iff.2 hliteral⟩

/-! ## The key -/

/-- A value is taken for the key: the first one in the primary column or, if there is no such column,
the first one in the key column. -/
inductive GivesKey (statement : InsertStatement) (literal : Literal) : Prop
  | primary (h : statement.FirstIn primaryColumn literal)
  | key (habsent : primaryColumn ∉ statement.columns) (h : statement.FirstIn keyColumn literal)

theorem givesKey_iff (hlength : statement.columns.length = statement.values.length) :
    statement.GivesKey literal ↔
      (statement.pairs.lookup primaryColumn).or (statement.pairs.lookup keyColumn) =
        some literal := by
  have habsent : statement.pairs.lookup primaryColumn = none ↔
      primaryColumn ∉ statement.columns := by
    rw [List.lookup_eq_none_iff, ← map_fst_pairs hlength, List.mem_map, not_exists]
    simp only [bne_iff_ne, not_and, ne_comm]
  rw [Option.or_eq_some_iff, habsent, ← firstIn_iff, ← firstIn_iff]
  constructor
  · intro h
    cases h with
    | primary h => exact .inl h
    | key habsent h => exact .inr ⟨habsent, h⟩
  · rintro (h | ⟨habsent, h⟩)
    · exact .primary h
    · exact .key habsent h

theorem explicitKey?_eq_some_iff (hlength : statement.columns.length = statement.values.length) :
    statement.explicitKey? = some user ↔
      user ≠ "" ∧ ∃ literal, statement.GivesKey literal ∧ literal.text = user := by
  unfold explicitKey? valueIn?
  rw [Option.filter_eq_some_iff, ← Option.map_or, Option.map_eq_some_iff, decide_eq_true_iff,
    and_comm]
  simp only [givesKey_iff hlength]

/-! ## The bins -/

/-- A write under a key: the record with that key gets a bin for every column that is no key column,
with the last value of the column, and the bin of the key holds the key whatever was given for it. -/
structure IsWrite (statement : InsertStatement) (user : String) (write : RecordWrite) : Prop where
  key : write.key = statement.target.key user
  names : ∀ name, write.bins.contains name = true ↔
    name = keyBin ∨ name ∈ statement.columns ∧ isKeyColumn name = false
  own : write.bins.get? keyBin = some (.str user)
  last : ∀ name literal, name ≠ keyBin → isKeyColumn name = false →
    statement.LastIn name literal → write.bins.get? name = some literal.toValue

theorem get?_writeUnder :
    (statement.writeUnder user).bins.get? name =
      if keyBin = name then some (.str user)
      else if isKeyColumn name then none
      else ((SortedMap.ofList statement.pairs).get? name).map Literal.toValue := by
  rw [writeUnder, SortedMap.get?_insert, ← SortedMap.mapValues_ofList, SortedMap.get?_mapValues,
    ← SortedMap.filter_ofList (fun name => !isKeyColumn name), SortedMap.get?_filter]
  congr 1
  cases isKeyColumn name <;> cases (SortedMap.ofList statement.pairs).get? name <;> rfl

theorem isWrite_writeUnder (hlength : statement.columns.length = statement.values.length) :
    statement.IsWrite user (statement.writeUnder user) where
  key := rfl
  names name := by
    unfold SortedMap.contains
    rw [get?_writeUnder, ← map_fst_pairs hlength, ← SortedMap.contains_ofList, SortedMap.contains,
      eq_comm (b := keyBin)]
    by_cases hown : keyBin = name
    · simp [hown]
    · cases isKeyColumn name <;> simp [hown]
  own := by rw [get?_writeUnder, if_pos rfl]
  last name literal hown hkey hlast := by
    rw [get?_writeUnder, if_neg (Ne.symm hown), hkey, lastIn_iff.1 hlast]
    rfl

theorem IsWrite.get?_eq (hlength : statement.columns.length = statement.values.length)
    {write write' : RecordWrite} (h : statement.IsWrite user write)
    (h' : statement.IsWrite user write') (name : String) :
    write.bins.get? name = write'.bins.get? name := by
  by_cases hown : name = keyBin
  · rw [hown, h.own, h'.own]
  · have hcontains : write.bins.contains name = write'.bins.contains name :=
      Bool.eq_iff_iff.2 ((h.names name).trans (h'.names name).symm)
    apply SortedMap.get?_eq_of_contains_eq hcontains
    intro value value' hvalue hvalue'
    have hname : write.bins.contains name = true := by
      rw [SortedMap.contains, hvalue]
      rfl
    obtain ⟨hcolumn, hkey⟩ := ((h.names name).1 hname).resolve_left hown
    rw [← map_fst_pairs hlength] at hcolumn
    obtain ⟨literal, hlast⟩ := exists_lastIn hcolumn
    rw [h.last name literal hown hkey hlast] at hvalue
    rw [h'.last name literal hown hkey hlast] at hvalue'
    exact Option.some.inj (hvalue.symm.trans hvalue')

theorem isWrite_iff (hlength : statement.columns.length = statement.values.length)
    {write : RecordWrite} : statement.IsWrite user write ↔ write = statement.writeUnder user := by
  constructor
  · intro h
    have hbins := SortedMap.ext (h.get?_eq hlength (isWrite_writeUnder hlength))
    obtain ⟨key, bins⟩ := write
    obtain rfl : key = statement.target.key user := h.key
    obtain rfl : bins = (statement.writeUnder user).bins := hbins
    rfl
  · rintro rfl
    exact isWrite_writeUnder hlength

/-! ## Resolution -/

/-- **Which key an insertion takes and what it writes.** The first value of the primary column is the
key or, if there is no such column, the first value of the key column, unless its text is empty: then
the key is made up, also where an empty primary value stands beside a key column. Nothing else makes
a key up. Under any key one write is made: that of every column but the key columns with its last
value, and of the key. -/
theorem resolveWith_writes (hlength : statement.columns.length = statement.values.length)
    {m : Type → Type} [Monad m] [LawfulMonad m] (generate : m String) :
    ∃ write : String → RecordWrite,
      (∀ user other, statement.IsWrite user other ↔ other = write user) ∧
      (∀ literal, statement.GivesKey literal → literal.text ≠ "" →
        statement.resolveWith generate = pure (write literal.text)) ∧
      ((∀ literal, statement.GivesKey literal → literal.text = "") →
        statement.resolveWith generate = write <$> generate) := by
  refine ⟨statement.writeUnder, fun _ _ => isWrite_iff hlength, fun literal hgives htext => ?_,
    fun hempty => ?_⟩
  · have hkey := (explicitKey?_eq_some_iff hlength).2 ⟨htext, literal, hgives, rfl⟩
    rw [resolveWith, hkey, map_pure]
  · have hnone : statement.explicitKey? = none := by
      rw [Option.eq_none_iff_forall_ne_some]
      intro user huser
      obtain ⟨htext, literal, hgives, rfl⟩ := (explicitKey?_eq_some_iff hlength).1 huser
      exact htext (hempty literal hgives)
    rw [resolveWith, hnone]

/-- An empty primary value beside a key column, a column named like the bin of the key, and a column
that is named twice: one key is used up. With a primary value none is. -/
theorem resolveWith_writes_counted :
    let count : StateM Nat String := modifyGet fun used => ("u", used + 1)
    let columns := ["KEY", "n", "Pk", "PK", "n", "key"]
    let values := fun primary => [.str "k", .int 1, .str primary, .str "z", .int 2, .str "l"]
    let nameless : InsertStatement := ⟨⟨"a", "b"⟩, columns, values ""⟩
    let named : InsertStatement := ⟨⟨"a", "b"⟩, columns, values "x"⟩
    nameless.columns.length = nameless.values.length ∧
      (∃ write, nameless.IsWrite "u" write ∧ (nameless.resolveWith count).run 0 = (write, 1)) ∧
      named.columns.length = named.values.length ∧
      ∃ write, named.IsWrite "x" write ∧ (named.resolveWith count).run 0 = (write, 0) := by
  intro count columns values nameless named
  have hnameless : nameless.columns.length = nameless.values.length := rfl
  have hnamed : named.columns.length = named.values.length := rfl
  have hempty : ∀ literal, nameless.GivesKey literal → literal.text = "" := by
    intro literal hgives
    have hliteral : Literal.str "" = literal := Option.some.inj ((givesKey_iff hnameless).1 hgives)
    rw [← hliteral]
    rfl
  have hgives : named.GivesKey (.str "x") := (givesKey_iff hnamed).2 rfl
  obtain ⟨write, hwrite, -, hmade⟩ := resolveWith_writes hnameless count
  obtain ⟨write', hwrite', hgiven, -⟩ := resolveWith_writes hnamed count
  refine ⟨hnameless, ⟨write "u", (hwrite _ _).2 rfl, ?_⟩, hnamed, write' "x", (hwrite' _ _).2 rfl, ?_⟩
  · rw [hmade hempty]
    rfl
  · rw [hgiven _ hgives (by decide)]
    rfl

end RecordQuery.InsertStatement
