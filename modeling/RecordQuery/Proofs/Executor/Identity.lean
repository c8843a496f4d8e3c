import RecordQuery.Proofs.Executor.Inserting
import RecordQuery.Proofs.Statement.WriteSet

/-!
# The key that a record shows

The key of an inserted record is the first value of the primary column, and the bin of that name gets
the last one.

* `RecordWrite.ShowsKey`: a bin reads as the key under which it is written.
* `Executor.insert_showsKey_iff`: when the primary column of an inserted record shows its key.
-/

namespace RecordQuery

theorem Literal.toValue_injective : Function.Injective Literal.toValue := by
  intro literal literal' h
  cases literal <;> cases literal' <;> cases h <;> rfl

/-- A bin reads as the key under which it is written. -/
def RecordWrite.ShowsKey (write : RecordWrite) (name : String) : Prop :=
  ∃ shown : Literal, write.bins.get? name = some shown.toValue ∧ shown.text = write.key.user

namespace InsertStatement

variable {statement : InsertStatement} {first last : Literal} {user : String}

theorem explicitKey?_of_firstIn (hfirst : statement.FirstIn primaryColumn first)
    (htext : first.text ≠ "") : statement.explicitKey? = some first.text := by
  unfold explicitKey? valueIn?
  rw [firstIn_iff.1 hfirst]
  simp [htext]

theorem FirstIn.exists_lastIn {column : String} (hfirst : statement.FirstIn column first) :
    ∃ last, statement.LastIn column last := by
  obtain ⟨before, after, hpairs, -⟩ := hfirst
  apply InsertStatement.exists_lastIn
  rw [hpairs]
  simp

theorem get?_primaryColumn (hlast : statement.LastIn primaryColumn last) :
    (statement.writeUnder user).bins.get? primaryColumn = some last.toValue := by
  have hown : keyBin ≠ primaryColumn := by decide
  have hkey : isKeyColumn primaryColumn = false := by decide +kernel
  rw [get?_writeUnder, if_neg hown, hkey, lastIn_iff.1 hlast]
  rfl

theorem showsKey_keyBin : (statement.writeUnder user).ShowsKey keyBin :=
  ⟨.str user, by rw [get?_writeUnder, if_pos rfl, Literal.toValue], rfl⟩

theorem showsKey_primaryColumn_iff (hlast : statement.LastIn primaryColumn last) :
    (statement.writeUnder user).ShowsKey primaryColumn ↔ last.text = user := by
  rw [RecordWrite.ShowsKey, get?_primaryColumn hlast]
  constructor
  · rintro ⟨shown, hshown, htext⟩
    obtain rfl := Literal.toValue_injective (Option.some.inj hshown)
    exact htext
  · exact fun htext => ⟨last, rfl, htext⟩

end InsertStatement

namespace Executor

variable {text : List Char} {statement : InsertStatement} {first : Literal} {store : Store}

/-- **When a record shows the key that it is stored under.** An insertion with a value in the primary
column is stored under the text of the first such value, and the bin of the key holds that text. The
primary column shows it too exactly if the last value in that column reads as the first one. -/
theorem insert_showsKey_iff (hparse : Statement.parse text = .ok (.insert statement))
    (hfirst : statement.FirstIn primaryColumn first) (htext : first.text ≠ "")
    (hconnected : store.connected = true) (narrow : Bool) (generated : String) :
    let write := statement.resolve generated
    ((Executor.mk Store.client narrow).execute generated text).run store =
        (.ok (.inserted write.key false), store.write write.key write.bins) ∧
      write.key = statement.target.key first.text ∧ write.ShowsKey keyBin ∧
      (write.ShowsKey primaryColumn ↔
        ∀ last, statement.LastIn primaryColumn last → last.text = first.text) := by
  intro write
  have hkey := InsertStatement.explicitKey?_of_firstIn hfirst htext
  have hwrite : write = statement.writeUnder first.text :=
    InsertStatement.resolve_of_explicitKey? hkey generated
  have hrun := run_execute_insert hparse hconnected narrow generated
  rw [hkey] at hrun
  refine ⟨hrun, ?_, ?_, ?_⟩ <;> rw [hwrite]
  · rfl
  · exact InsertStatement.showsKey_keyBin
  · constructor
    · exact fun hshows last hlast => (InsertStatement.showsKey_primaryColumn_iff hlast).1 hshows
    · intro hall
      obtain ⟨last, hlast⟩ := hfirst.exists_lastIn
      exact (InsertStatement.showsKey_primaryColumn_iff hlast).2 (hall last hlast)

/-- Two values of one text, though one is a number and one a string. -/
theorem insert_showsKey_seven :
    let text := "INSERT INTO a.b (KEY, Pk, n, Pk) VALUES (k, 7, 1, '7')".toList
    let executor : Executor Store := { client := Store.client }
    let store := Store.empty {}
    let key : RecordKey := ⟨"a", "b", "7"⟩
    ∃ write : RecordWrite,
      (executor.execute "" text).run store =
        (.ok (.inserted key false), store.write key write.bins) ∧
      write.key = key ∧ write.ShowsKey keyBin ∧ write.ShowsKey primaryColumn := by
  intro text executor store key
  let statement : InsertStatement :=
    ⟨⟨"a", "b"⟩, ["KEY", "Pk", "n", "Pk"], [.str "k", .int 7, .int 1, .str "7"]⟩
  have hparse : Statement.parse text = .ok (.insert statement) := by decide +kernel
  have hseven : (Literal.int 7).text = "7" := by decide +kernel
  have hfirst : statement.FirstIn primaryColumn (.int 7) := InsertStatement.firstIn_iff.2 rfl
  have hlast : ∀ last, statement.LastIn primaryColumn last → last.text = (Literal.int 7).text := by
    intro last hlast
    have hliteral : Literal.str "7" = last := Option.some.inj (InsertStatement.lastIn_iff.1 hlast)
    rw [← hliteral, hseven]
    rfl
  have hconnected : store.connected = true := rfl
  obtain ⟨hrun, hkey, hown, hprimary⟩ :=
    insert_showsKey_iff hparse hfirst (by rw [hseven]; decide) hconnected true ""
  rw [hseven] at hkey
  refine ⟨statement.resolve "", ?_, hkey, hown, hprimary.2 hlast⟩
  rw [hkey] at hrun
  exact hrun

/-- Of two values the record is stored under the first and shows the second. -/
theorem insert_two_keys :
    let text := "INSERT INTO a.b (Pk, Pk) VALUES ('x', 'y')".toList
    ∃ statement, Statement.parse text = .ok (.insert statement) ∧
      statement.FirstIn primaryColumn (.str "x") ∧
      (statement.resolve "").key = ⟨"a", "b", "x"⟩ ∧ (statement.resolve "").ShowsKey keyBin ∧
      (statement.resolve "").bins.get? primaryColumn = some (.str "y") ∧
      ¬(statement.resolve "").ShowsKey primaryColumn := by
  intro text
  let statement : InsertStatement := ⟨⟨"a", "b"⟩, ["Pk", "Pk"], [.str "x", .str "y"]⟩
  have hparse : Statement.parse text = .ok (.insert statement) := by decide +kernel
  have hfirst : statement.FirstIn primaryColumn (.str "x") := InsertStatement.firstIn_iff.2 rfl
  have hlast : statement.LastIn primaryColumn (.str "y") := InsertStatement.lastIn_iff.2 rfl
  have hkey := InsertStatement.explicitKey?_of_firstIn hfirst (by decide)
  have hwrite : statement.resolve "" = statement.writeUnder "x" :=
    InsertStatement.resolve_of_explicitKey? hkey ""
  refine ⟨statement, hparse, hfirst, ?_⟩
  rw [hwrite]
  refine ⟨rfl, InsertStatement.showsKey_keyBin, InsertStatement.get?_primaryColumn hlast, ?_⟩
  rw [InsertStatement.showsKey_primaryColumn_iff hlast]
  decide

end Executor

end RecordQuery
