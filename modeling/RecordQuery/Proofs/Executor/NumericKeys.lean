import RecordQuery.Proofs.Executor.Inserting
import RecordQuery.Proofs.Literal.Numerals
import RecordQuery.Proofs.Statement.InsertLanguage
import RecordQuery.Proofs.Statement.WriteSet
import RecordQuery.Proofs.Store.Commuting

/-!
# Keys that are numbers

A numeral that gives the key of an insertion is typed, and the text of its literal is the key.

* `InsertStatement.writtenKey?`: the value that gives the key as it is written.
* `InsertStatement.givesKey_of_writtenKey?`: its literal is what the key is taken from.
* `Executor.insert_numerals`: two insertions with different numbers for keys touch different records,
  unless both numbers are rounded to one double.
-/

namespace RecordQuery

/-! ## Written keys -/

theorem lookup_map_snd {α β : Type} (f : α → β) (entries : List (String × α)) (name : String) :
    (entries.map fun entry => (entry.1, f entry.2)).lookup name = (entries.lookup name).map f := by
  induction entries with
  | nil => rfl
  | cons entry entries ih =>
    rw [List.map_cons, SortedMap.lookup_cons, SortedMap.lookup_cons, ih]
    split <;> rfl

namespace InsertStatement

/-- The columns of an insertion with their values as they are written. -/
def writtenPairs (text : List Char) : List (String × List Char) :=
  let tokens : Clause := tokenize (normalize text)
  match tokens.group? 3 with
  | none => []
  | some (columns, position) =>
    match tokens.group? (position + 1) with
    | none => []
    | some (values, _) =>
      ((columns.splitOn .comma).map Clause.name).zip ((values.splitOn .comma).map Clause.text)

/-- The value that gives the key of an insertion, as it is written: the first one in the primary
column or, if there is no such column, the first one in the key column. -/
def writtenKey? (text : List Char) : Option (List Char) :=
  ((writtenPairs text).lookup primaryColumn).or ((writtenPairs text).lookup keyColumn)

variable {text raw : List Char} {statement : InsertStatement}

theorem pairs_eq_map_writtenPairs (hparse : Statement.parse text = .ok (.insert statement)) :
    statement.pairs = (writtenPairs text).map fun pair => (pair.1, .coerce pair.2) := by
  obtain ⟨-, hclause⟩ := Statement.parse_eq_ok_insert.1 hparse
  obtain ⟨-, -, columns, position, values, hcolumns, -, hvalues, hnames, -, hliterals⟩ :=
    InsertStatement.ofClause_eq_ok_iff.1 hclause
  have hnames' : statement.columns = (columns.splitOn .comma).map Clause.name :=
    (mapM_ite_eq_ok_iff.1 hnames).2
  have hliterals' : statement.values =
      ((values.splitOn .comma).map Clause.text).map Literal.coerce := by
    rw [List.map_map]
    exact (mapM_ite_eq_ok_iff.1 hliterals).2
  unfold pairs writtenPairs
  dsimp only
  rw [hcolumns]
  dsimp only
  rw [hvalues]
  dsimp only
  rw [hnames', hliterals', List.zip_map_right]
  rfl

theorem givesKey_of_writtenKey? (hparse : Statement.parse text = .ok (.insert statement))
    (hkey : writtenKey? text = some raw) : statement.GivesKey (.coerce raw) := by
  have hlength := ((Statement.parse_eq_ok_insert_iff text statement).2 hparse).1
  rw [givesKey_iff hlength, pairs_eq_map_writtenPairs hparse, lookup_map_snd, lookup_map_snd,
    ← Option.map_or]
  exact congrArg (Option.map Literal.coerce) hkey

end InsertStatement

/-! ## Insertions -/

theorem InsertStatement.explicitKey?_of_writtenKey? {text numeral : List Char}
    {statement : InsertStatement} (hparse : Statement.parse text = .ok (.insert statement))
    (hkey : writtenKey? text = some numeral) (hnumeral : Number.isNumeral numeral = true) :
    statement.explicitKey? = some (Literal.coerce numeral).text := by
  have hlength := ((Statement.parse_eq_ok_insert_iff text statement).2 hparse).1
  exact (explicitKey?_eq_some_iff hlength).2 ⟨Literal.text_ne_empty_of_isNumeral hnumeral, _,
    givesKey_of_writtenKey? hparse hkey, rfl⟩

theorem InsertStatement.key_resolve_of_explicitKey? {statement : InsertStatement} {user : String}
    (h : statement.explicitKey? = some user) (generated : String) :
    (statement.resolve generated).key = statement.target.key user := by
  rw [resolve_of_explicitKey? h]
  rfl

namespace Executor

variable {text text' numeral numeral' : List Char} {statement statement' : InsertStatement}
  {store : Store}

theorem run_execute_insert_of_explicitKey? {user : String}
    (hparse : Statement.parse text = .ok (.insert statement))
    (huser : statement.explicitKey? = some user) (hconnected : store.connected = true)
    (narrow : Bool) (generated : String) :
    ((Executor.mk Store.client narrow).execute generated text).run store =
      (.ok (.inserted (statement.resolve generated).key false),
        store.apply (.write (statement.resolve generated).key
          (statement.resolve generated).bins)) := by
  rw [run_execute_insert hparse hconnected, huser]
  rfl

/-- **Different numbers are different keys.** Of two insertions, the keys of which are written as
numerals of different numbers, neither touches the record of the other, and they can be run in either
order, unless both numerals are read as doubles, since they have a fraction or lie beyond the 64-bit
integers, and both numbers are rounded to one double. In that case the keys are the same within their
sets. -/
theorem insert_numerals (hparse : Statement.parse text = .ok (.insert statement))
    (hparse' : Statement.parse text' = .ok (.insert statement'))
    (hkey : InsertStatement.writtenKey? text = some numeral)
    (hkey' : InsertStatement.writtenKey? text' = some numeral')
    (hnumeral : Number.isNumeral numeral = true) (hnumeral' : Number.isNumeral numeral' = true)
    (hvalue : Number.numeralValue numeral ≠ Number.numeralValue numeral')
    (hconnected : store.connected = true) (narrow : Bool) (generated generated' : String) :
    let executor : Executor Store := ⟨Store.client, narrow⟩
    let key := (statement.resolve generated).key
    let key' := (statement'.resolve generated').key
    ∃ once alone twice,
      (executor.execute generated text).run store = (.ok (.inserted key false), once) ∧
      (executor.execute generated' text').run store = (.ok (.inserted key' false), alone) ∧
      (executor.execute generated' text').run once = (.ok (.inserted key' false), twice) ∧
      (key.user = key'.user ↔ Number.IsDouble numeral ∧ Number.IsDouble numeral' ∧
        Number.readFloat? numeral = Number.readFloat? numeral') ∧
      (key.user ≠ key'.user →
        (executor.execute generated text).run alone = (.ok (.inserted key false), twice) ∧
        twice.find? key = once.find? key ∧ twice.find? key' = alone.find? key') := by
  intro executor key key'
  have huser := InsertStatement.explicitKey?_of_writtenKey? hparse hkey hnumeral
  have huser' := InsertStatement.explicitKey?_of_writtenKey? hparse' hkey' hnumeral'
  have hrun (store : Store) (hconnected : store.connected = true) :=
    run_execute_insert_of_explicitKey? hparse huser hconnected narrow generated
  have hrun' (store : Store) (hconnected : store.connected = true) :=
    run_execute_insert_of_explicitKey? hparse' huser' hconnected narrow generated'
  let change : StoreChange := .write key (statement.resolve generated).bins
  let change' : StoreChange := .write key' (statement'.resolve generated').bins
  refine ⟨store.apply change, store.apply change', (store.apply change).apply change',
    hrun store hconnected, hrun' store hconnected, hrun' (store.apply change) hconnected, ?_, ?_⟩
  · show (statement.resolve generated).key.user = (statement'.resolve generated').key.user ↔ _
    rw [InsertStatement.key_resolve_of_explicitKey? huser,
      InsertStatement.key_resolve_of_explicitKey? huser']
    exact Literal.text_eq_text_iff hnumeral hnumeral' hvalue
  · intro hne
    have hkeys : key ≠ key' := fun hsame => hne (congrArg RecordKey.user hsame)
    have hcomm : (store.apply change).apply change' = (store.apply change').apply change :=
      Store.apply_comm rfl rfl hkeys
    refine ⟨?_, Store.find?_apply_of_ne rfl hkeys.symm, ?_⟩
    · rw [hcomm]
      exact hrun (store.apply change') hconnected
    · rw [hcomm]
      exact Store.find?_apply_of_ne rfl hkeys

/-- Neighbours among the integers, the second written with a point: one double is nearest to both, but
the first is no double. -/
theorem insert_numerals_neighbours :
    let text := "INSERT INTO a.b (Pk, n) VALUES (9007199254740993, 1)".toList
    let text' := "INSERT INTO a.b (n, KEY) VALUES (2, 9007199254740992.0)".toList
    let executor : Executor Store := { client := Store.client }
    let store := Store.empty {}
    let key : RecordKey := ⟨"a", "b", "9007199254740993"⟩
    let key' : RecordKey := ⟨"a", "b", "9007199254740992.0"⟩
    ∃ once twice,
      (executor.execute "" text).run store = (.ok (.inserted key false), once) ∧
      (executor.execute "" text').run once = (.ok (.inserted key' false), twice) ∧
      twice.find? key = once.find? key := by
  intro text text' executor store key key'
  let statement : InsertStatement :=
    ⟨⟨"a", "b"⟩, ["Pk", "n"], [.coerce "9007199254740993".toList, .int 1]⟩
  let statement' : InsertStatement :=
    ⟨⟨"a", "b"⟩, ["n", "KEY"], [.int 2, .coerce "9007199254740992.0".toList]⟩
  have hparse : Statement.parse text = .ok (.insert statement) := by decide +kernel
  have hparse' : Statement.parse text' = .ok (.insert statement') := by decide +kernel
  have hkey : InsertStatement.writtenKey? text = some "9007199254740993".toList := by
    decide +kernel
  have hkey' : InsertStatement.writtenKey? text' = some "9007199254740992.0".toList := by
    decide +kernel
  have hvalue : Number.numeralValue "9007199254740993".toList ≠
      Number.numeralValue "9007199254740992.0".toList := by
    decide +kernel
  have hresolve : (statement.resolve "").key = key := by decide +kernel
  have hresolve' : (statement'.resolve "").key = key' := by decide +kernel
  obtain ⟨once, alone, twice, hrun, -, hrun', -, hkept⟩ := insert_numerals hparse hparse' hkey hkey'
    (by decide) (by decide) hvalue (show store.connected = true from rfl) true "" ""
  rw [hresolve] at hrun
  rw [hresolve'] at hrun'
  refine ⟨once, twice, hrun, hrun', ?_⟩
  rw [hresolve, hresolve'] at hkept
  exact (hkept (by decide)).2.1

/-- Neighbours beyond the 64-bit integers have one key, since one double is nearest to both. -/
theorem insert_numerals_beyond :
    let text := "INSERT INTO a.b (Pk, n) VALUES (9223372036854775808, 1)".toList
    let text' := "INSERT INTO a.b (Pk, n) VALUES (9223372036854775809, 2)".toList
    ∃ statement statement' numeral numeral',
      Statement.parse text = .ok (.insert statement) ∧
      Statement.parse text' = .ok (.insert statement') ∧
      statement'.target = statement.target ∧
      InsertStatement.writtenKey? text = some numeral ∧
      InsertStatement.writtenKey? text' = some numeral' ∧
      Number.isNumeral numeral = true ∧ Number.isNumeral numeral' = true ∧
      Number.numeralValue numeral ≠ Number.numeralValue numeral' ∧
      (statement.resolve "").key.user = "9.223372036854776e18" ∧
      (statement'.resolve "").key.user = "9.223372036854776e18" := by
  intro text text'
  refine ⟨⟨⟨"a", "b"⟩, ["Pk", "n"], [.coerce "9223372036854775808".toList, .int 1]⟩,
    ⟨⟨"a", "b"⟩, ["Pk", "n"], [.coerce "9223372036854775809".toList, .int 2]⟩,
    "9223372036854775808".toList, "9223372036854775809".toList, ?_⟩
  decide +kernel

end Executor

end RecordQuery
