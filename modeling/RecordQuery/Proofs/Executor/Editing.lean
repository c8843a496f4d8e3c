import RecordQuery.Proofs.Executor.Operations
import RecordQuery.Proofs.Executor.Repeating

/-!
# Edits and updates of one bin

The edit of a bin narrows the text that was typed in, an update the text of an assignment.

* `Literal.unquote?_eq_some_iff`, `Assignment.text_ofRaw`: a text that is not enclosed in quotes is
  the text of its assignment.
* `Executor.edit_agrees_update`: the two do the same to a bin that is there. A bin that is not there
  gets the text from the one and its literal from the other.
-/

namespace RecordQuery

/-! ## Texts of assignments -/

theorem Literal.unquote?_eq_some_iff {text inner : List Char} :
    unquote? text = some inner ↔ text = quoteMark :: (inner ++ [quoteMark]) := by
  cases text with
  | nil => simp [unquote?]
  | cons first rest =>
    simp only [unquote?, Option.ite_none_right_eq_some, Bool.and_eq_true, beq_iff_eq,
      Option.some.injEq, List.cons.injEq]
    constructor
    · rintro ⟨⟨hfirst, hlast⟩, rfl⟩
      exact ⟨hfirst, (List.dropLast_append_getLast? _ hlast).symm⟩
    · rintro ⟨hfirst, rfl⟩
      simp [hfirst]

theorem Literal.eq_of_ofTrimmed_eq_str {text : List Char} {s : String}
    (hquotes : unquote? text = none) (h : ofTrimmed text = .str s) : s = String.ofList text := by
  unfold ofTrimmed at h
  rw [hquotes] at h
  dsimp only at h
  split at h
  · cases h
  · split at h
    · cases h
    · exact (Literal.str.inj h).symm

/-- **The text of an assignment is the text that it was read from**, if there are no blanks at its
ends and no quotes around it. -/
theorem Assignment.text_ofRaw {raw : String} (htrim : Text.trim raw.toList = raw.toList)
    (hquotes : ∀ inner, raw.toList ≠ quoteMark :: (inner ++ [quoteMark])) :
    (ofRaw raw.toList).text = raw := by
  have hunquote : Literal.unquote? raw.toList = none := by
    rw [Option.eq_none_iff_forall_ne_some]
    exact fun inner hinner => hquotes inner (Literal.unquote?_eq_some_iff.1 hinner)
  have hnumber : (ofRaw raw.toList).value.asStr? = none → (ofRaw raw.toList).text = raw := by
    intro hvalue
    rw [← String.toList_inj, text_ofRaw_number _ hvalue, htrim]
  cases hvalue : (ofRaw raw.toList).value with
  | str s =>
    rw [text_ofRaw_str hvalue]
    rw [value_ofRaw, htrim] at hvalue
    rw [Literal.eq_of_ofTrimmed_eq_str hunquote hvalue, String.ofList_toList]
  | int n => exact hnumber (by rw [hvalue]; rfl)
  | float x => exact hnumber (by rw [hvalue]; rfl)

/-! ## Updates of one bin -/

namespace UpdateStatement

variable {statement : UpdateStatement} {bin : String} {assignment : Assignment}

theorem narrowed_singleton (h : statement.assignments = .ofList [(bin, assignment)])
    (old : String → Option Value) :
    statement.narrowed old = .ofList [(bin, narrowAssignment bin assignment (old bin))] := by
  rw [narrowed, h]
  rfl

theorem written_singleton (h : statement.assignments = .ofList [(bin, assignment)])
    (old : String → Option Value) :
    statement.written old = .ofList [(bin, (narrowAssignment bin assignment (old bin)).value)] := by
  rw [written, narrowed_singleton h]
  rfl

theorem fallbacks_singleton (h : statement.assignments = .ofList [(bin, assignment)])
    (old : String → Option Value) :
    (statement.reported old).fallbacks =
      (narrowAssignment bin assignment (old bin)).fallback.toList := by
  show (statement.narrowed old).values.filterMap Narrowed.fallback = _
  rw [narrowed_singleton h]
  show [narrowAssignment bin assignment (old bin)].filterMap Narrowed.fallback = _
  rw [List.filterMap_cons]
  cases (narrowAssignment bin assignment (old bin)).fallback <;> rfl

end UpdateStatement

/-! ## Edits -/

theorem narrowRaw_eq_narrowAssignment (bin : String) {raw : String}
    (htrim : Text.trim raw.toList = raw.toList)
    (hquotes : ∀ inner, raw.toList ≠ quoteMark :: (inner ++ [quoteMark])) (existing : Value) :
    narrowRaw bin raw (some existing) =
      narrowAssignment bin (.ofRaw raw.toList) (some existing) := by
  rw [narrowRaw, narrowAssignment, Assignment.text_ofRaw htrim hquotes]

namespace Executor

variable (store : Store) (key : RecordKey) (bin : String) {raw : String}
  (statement : UpdateStatement)

/-- **An edit and an update of one bin agree** on a bin that is there: they leave the same store and
give the same notice, or none. A bin that is not there is made by one write with no notice, of the
text as a string by the edit and of the literal that the text stands for by the update. -/
theorem edit_agrees_update (hconnected : store.connected = true) (narrow : Bool)
    (htrim : Text.trim raw.toList = raw.toList)
    (hquotes : ∀ inner, raw.toList ≠ quoteMark :: (inner ++ [quoteMark]))
    (hkey : statement.key = key)
    (hassignments : statement.assignments = .ofList [(bin, .ofRaw raw.toList)]) :
    ∃ edit report edited updated,
      (editBin ⟨Store.client, narrow⟩ key bin raw).run store = (.ok edit, edited) ∧
      (update ⟨Store.client, true⟩ statement).run store = (.ok report, updated) ∧
      ((store.bin? key bin).isSome = true →
        edited = updated ∧ report.fallbacks = edit.fallback.toList) ∧
      (store.bin? key bin = none →
        edited = store.write key (.ofList [(bin, .str raw)]) ∧
        updated = store.write key (.ofList [(bin, (Literal.coerce raw.toList).toValue)]) ∧
        edit.fallback = none ∧ report.fallbacks = []) := by
  subst hkey
  refine ⟨_, _, _, _, run_editBin hconnected narrow statement.key bin raw,
    run_update_of_connected statement hconnected, fun hsome => ?_, fun hnone => ?_⟩
  · obtain ⟨existing, hexisting⟩ := Option.isSome_iff_exists.1 hsome
    have hsame := narrowRaw_eq_narrowAssignment bin htrim hquotes existing
    rw [UpdateStatement.updated, UpdateStatement.written_singleton hassignments,
      UpdateStatement.fallbacks_singleton hassignments, hexisting, hsame]
    exact ⟨rfl, rfl⟩
  · rw [UpdateStatement.updated, UpdateStatement.written_singleton hassignments,
      UpdateStatement.fallbacks_singleton hassignments, hnone]
    refine ⟨rfl, ?_, rfl, rfl⟩
    rw [narrowAssignment, Assignment.value_ofRaw, Literal.coerce]
    rfl

/-- A numeral with leading zeros over a string, which it overwrites as it is, and for a bin that is
not there, of which it makes a string or an integer. -/
theorem edit_agrees_update_zeros :
    let key : RecordKey := ⟨"a", "b", "x"⟩
    let store := (Store.empty {}).write key (.ofList [("zip", .str "123")])
    let statement : String → UpdateStatement := fun bin =>
      ⟨key.target, .ofList [(bin, .ofRaw "007".toList)], ⟨"k", .str "x"⟩⟩
    let executor : Executor Store := { client := Store.client }
    Text.trim "007".toList = "007".toList ∧
      (∀ inner, "007".toList ≠ quoteMark :: (inner ++ [quoteMark])) ∧
      ((executor.editBin key "zip" "007").run store).2 =
        ((executor.update (statement "zip")).run store).2 ∧
      (((executor.editBin key "n" "007").run store).2.bin? key "n").map Value.asStr? =
        some (some "007") ∧
      (((executor.update (statement "n")).run store).2.bin? key "n").map Value.asInt? =
        some (some 7) := by
  intro key store statement executor
  have htrim : Text.trim "007".toList = "007".toList := by decide +kernel
  have hquotes : ∀ inner, "007".toList ≠ quoteMark :: (inner ++ [quoteMark]) :=
    fun inner h => absurd (List.cons.inj h).1 (by decide)
  obtain ⟨_, _, edited, updated, hedit, hupdate, hsame, -⟩ := edit_agrees_update
    store key "zip" (statement "zip") rfl true htrim hquotes rfl rfl
  obtain ⟨_, _, edited', updated', hedit', hupdate', -, hmade⟩ := edit_agrees_update
    store key "n" (statement "n") rfl true htrim hquotes rfl rfl
  obtain ⟨rfl, -⟩ := hsame rfl
  obtain ⟨rfl, rfl, -, -⟩ := hmade rfl
  refine ⟨htrim, hquotes, ?_, ?_, ?_⟩
  · rw [hedit, hupdate]
  · rw [hedit']
    show ((store.write key (.ofList [("n", .str "007")])).bin? key "n").map Value.asStr? = _
    decide +kernel
  · rw [hupdate']
    show ((store.write key (.ofList [("n", (Literal.coerce "007".toList).toValue)])).bin? key
      "n").map Value.asInt? = _
    decide +kernel

end Executor

end RecordQuery
