import RecordQuery.Narrowing
import RecordQuery.Proofs.SortedMap
import RecordQuery.Proofs.Text.Trimming
import Mathlib.Data.List.Basic

/-!
# What narrowing keeps

* `narrowText_cases`: a text is read as the type that was there, or it is stored as a string. The
  second comes with a notice if the type was one that text is read as.
* `value_narrowText_twice`: a value that was narrowed from a text is what the text narrows to again.
* `Assignment.narrowText_ofRaw`: so is the literal of an assignment, unless it is a double beyond
  the finite ones. `Assignment.value_narrowAssignment_twice`: an assignment that is made twice.
* `pairwise_fallbacks`, `filter_fallbacks`: the notices of several bins.
-/

namespace RecordQuery

namespace Value

/-- Whether text is read again as the type of a value: the type is Integer, Double or Boolean. -/
def isReadAgain : Value → Bool
  | int _ | float _ | bool _ => true
  | _ => false

/-- Whether a value is a number, a truth value or a string. -/
def isScalar : Value → Bool
  | str _ => true
  | value => value.isReadAgain

end Value

/-! ## Single texts -/

theorem narrowText_cases (bin text : String) (existing : Value) :
    (existing.isReadAgain = true ∧ ∃ value, narrowText bin text existing = .exact value ∧
        value.typeName = existing.typeName ∧ value.isNil = false) ∨
      (existing.isReadAgain = true ∧ narrowText bin text existing =
        { value := .str text, fallback := some { bin, expected := existing.typeName, text } }) ∨
      (existing.isReadAgain = false ∧ narrowText bin text existing = .exact (.str text)) := by
  cases existing with
  | int n =>
    unfold narrowText
    cases Number.readInt64? text.toList with
    | none => exact .inr (.inl ⟨rfl, rfl⟩)
    | some n => exact .inl ⟨rfl, .int n, rfl, rfl, rfl⟩
  | float x =>
    unfold narrowText
    cases readFinite? text.toList with
    | none => exact .inr (.inl ⟨rfl, rfl⟩)
    | some x => exact .inl ⟨rfl, .float x, rfl, rfl, rfl⟩
  | bool b =>
    unfold narrowText
    cases readBool? text.toList with
    | none => exact .inr (.inl ⟨rfl, rfl⟩)
    | some b => exact .inl ⟨rfl, .bool b, rfl, rfl, rfl⟩
  | _ => exact .inr (.inr ⟨rfl, rfl⟩)

theorem value_narrowText_twice (bin text : String) (existing : Value) :
    (narrowText bin text (narrowText bin text existing).value).value =
      (narrowText bin text existing).value := by
  cases existing with
  | int n =>
    cases hread : Number.readInt64? text.toList <;>
      simp [narrowText, Narrowed.ofRead, Narrowed.exact, hread]
  | float x =>
    cases hread : readFinite? text.toList <;>
      simp [narrowText, Narrowed.ofRead, Narrowed.exact, hread]
  | bool b =>
    cases hread : readBool? text.toList <;>
      simp [narrowText, Narrowed.ofRead, Narrowed.exact, hread]
  | _ => rfl

/-! ## Assignments -/

namespace Literal

theorem readInt64?_of_ofTrimmed {text : List Char} {n : Int64} (h : ofTrimmed text = .int n) :
    Number.readInt64? text = some n := by
  unfold ofTrimmed at h
  split at h
  · cases h
  · split at h
    next n' hread =>
      cases h
      split at hread
      · exact hread
      · cases hread
    next =>
      split at h <;> cases h

theorem readFloat?_of_ofTrimmed {text : List Char} {x : Float} (h : ofTrimmed text = .float x) :
    Number.readFloat? text = some x := by
  unfold ofTrimmed at h
  split at h
  · cases h
  · split at h
    · cases h
    · split at h
      next x' hread =>
        cases h
        split at hread
        · exact hread
        · cases hread
      next => cases h

end Literal

namespace Assignment

/-- Whether the literal of an assignment is a double beyond the finite ones. -/
def isBeyondRange (assignment : Assignment) : Bool :=
  match assignment.value with
  | .float x => !Binary64.isFinite x
  | _ => false

theorem value_ofRaw (raw : List Char) :
    (ofRaw raw).value = Literal.ofTrimmed (Text.trim raw) := by
  simp only [ofRaw, Literal.coerce, Text.trim_trim]

theorem text_ofRaw_str {raw : List Char} {s : String} (h : (ofRaw raw).value = .str s) :
    (ofRaw raw).text = s := by
  show (ofRaw raw).value.asStr?.getD _ = s
  rw [h]
  rfl

theorem text_ofRaw_number (raw : List Char) (h : (ofRaw raw).value.asStr? = none) :
    (ofRaw raw).text.toList = Text.trim raw := by
  show ((ofRaw raw).value.asStr?.getD (String.ofList (Text.trim raw))).toList = _
  rw [h]
  exact String.toList_ofList

/-- **The text of an assignment reads as its literal.** Only the numerals beyond the range of doubles
do not, since what is read again has to be finite. -/
theorem narrowText_ofRaw (bin : String) (raw : List Char) :
    narrowText bin (ofRaw raw).text (ofRaw raw).value.toValue =
      if (ofRaw raw).isBeyondRange then
        { value := .str (ofRaw raw).text
          fallback := some { bin, expected := "Double", text := (ofRaw raw).text } }
      else .exact (ofRaw raw).value.toValue := by
  unfold isBeyondRange
  cases hvalue : (ofRaw raw).value with
  | str s =>
    rw [text_ofRaw_str hvalue]
    rfl
  | int n =>
    have htext := text_ofRaw_number raw (by rw [hvalue]; rfl)
    have hread := Literal.readInt64?_of_ofTrimmed ((value_ofRaw raw).symm.trans hvalue)
    simp only [Literal.toValue, narrowText, htext, hread]
    rfl
  | float x =>
    have htext := text_ofRaw_number raw (by rw [hvalue]; rfl)
    have hread := Literal.readFloat?_of_ofTrimmed ((value_ofRaw raw).symm.trans hvalue)
    simp only [Literal.toValue, narrowText, readFinite?, htext, hread]
    by_cases hfinite : Binary64.isFinite x = true
    · simp only [Option.filter_some_pos hfinite, hfinite]
      rfl
    · simp only [Option.filter_some_neg (eq_false_of_ne_true hfinite), hfinite]
      rfl

/-- **An assignment that is made twice.** What it makes of a bin it makes again, unless the bin was
not there and the literal is beyond range: the second time its text is stored instead. -/
theorem value_narrowAssignment_twice (bin : String) (raw : List Char) (existing : Option Value) :
    (narrowAssignment bin (ofRaw raw)
        (some (narrowAssignment bin (ofRaw raw) existing).value)).value =
      if existing = none ∧ (ofRaw raw).isBeyondRange = true then .str (ofRaw raw).text
      else (narrowAssignment bin (ofRaw raw) existing).value := by
  cases existing with
  | some existing =>
    rw [if_neg (by simp)]
    exact value_narrowText_twice bin _ existing
  | none =>
    simp only [narrowAssignment, Narrowed.exact, narrowText_ofRaw, true_and]
    split <;> rfl

theorem toValue_ne_str {assignment : Assignment} (h : assignment.isBeyondRange = true)
    (text : String) : assignment.value.toValue ≠ .str text := by
  unfold isBeyondRange at h
  cases hvalue : assignment.value with
  | float x => exact Value.noConfusion
  | _ => simp [hvalue] at h

end Assignment

theorem isNil_narrowAssignment (bin : String) (assignment : Assignment) (existing : Option Value) :
    (narrowAssignment bin assignment existing).value.isNil = false := by
  cases existing with
  | none =>
    unfold narrowAssignment
    cases assignment.value <;> rfl
  | some existing =>
    obtain ⟨-, value, h, -, hnil⟩ | ⟨-, h⟩ | ⟨-, h⟩ := narrowText_cases bin assignment.text existing
    · simp only [narrowAssignment, h]
      exact hnil
    · simp only [narrowAssignment, h]
      rfl
    · simp only [narrowAssignment, h]
      rfl

theorem fallback_narrowAssignment {bin : String} {assignment : Assignment}
    {existing : Option Value} {fallback : TypeFallback}
    (h : (narrowAssignment bin assignment existing).fallback = some fallback) :
    fallback.bin = bin ∧ ∃ value, existing = some value ∧ value.isReadAgain = true := by
  cases existing with
  | none => cases h
  | some existing =>
    obtain ⟨-, value, hread, -, -⟩ | ⟨htype, hread⟩ | ⟨-, hread⟩ :=
      narrowText_cases bin assignment.text existing
    · rw [narrowAssignment, hread] at h
      cases h
    · rw [narrowAssignment, hread] at h
      cases h
      exact ⟨rfl, existing, rfl, htype⟩
    · rw [narrowAssignment, hread] at h
      cases h

/-! ## Several bins -/

section Notices

variable {m : SortedMap Narrowed}
  (hnames : ∀ bin narrowed fallback, m.get? bin = some narrowed →
    narrowed.fallback = some fallback → fallback.bin = bin)
include hnames

theorem pairwise_fallbacks :
    (m.values.filterMap Narrowed.fallback).Pairwise fun a b => a.bin < b.bin := by
  unfold SortedMap.values
  rw [List.filterMap_map, List.pairwise_filterMap]
  refine m.sorted.imp_of_mem fun {e e'} he he' hlt fallback hfallback fallback' hfallback' => ?_
  rw [hnames _ _ _ (m.mem_entries_iff.1 he) hfallback,
    hnames _ _ _ (m.mem_entries_iff.1 he') hfallback']
  exact hlt

theorem filter_fallbacks (bin : String) :
    (m.values.filterMap Narrowed.fallback).filter (fun fallback => bin = fallback.bin) =
      ((m.get? bin).bind Narrowed.fallback).toList := by
  have hfilter : (m.values.filterMap Narrowed.fallback).filter
        (fun fallback => bin = fallback.bin) =
      (m.filter fun other _ => decide (bin = other)).values.filterMap Narrowed.fallback := by
    simp only [SortedMap.values, SortedMap.filter]
    rw [List.filterMap_map, List.filterMap_map, List.filter_filterMap, List.filterMap_filter]
    refine List.filterMap_congr fun e he => ?_
    cases hfallback : e.2.fallback with
    | none => simp [hfallback]
    | some fallback =>
      have hbin := hnames _ _ _ (m.mem_entries_iff.1 he) hfallback
      simp only [Function.comp_apply, hfallback, Option.filter, hbin, decide_eq_true_eq]
  rw [hfilter, SortedMap.values_filter_name]
  cases m.get? bin with
  | none => rfl
  | some narrowed => cases narrowed.fallback <;> rfl

end Notices

end RecordQuery
