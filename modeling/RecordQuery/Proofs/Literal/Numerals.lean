import RecordQuery.Proofs.Literal.Display

/-!
# Numerals as literals

A numeral is typed as an integer or as a double, and the text of its literal tells which number it was.

* `Number.IsDouble`: the numerals that are read as doubles.
* `Literal.coerce_numeral`: a numeral is the integer that it denotes, or a double.
* `Literal.text_eq_text_iff`: the numerals of different numbers that have one text.
-/

namespace RecordQuery

/-! ## Numerals -/

namespace Number

/-- Whether a numeral is read as a double: it has a fraction, or lies beyond the 64-bit integers. -/
def IsDouble (text : List Char) : Prop :=
  isIntegerNumeral text = false ∨ numeralValue text < -2 ^ 63 ∨ 2 ^ 63 ≤ numeralValue text

theorem readInt64?_of_isIntegerNumeral {text : List Char} (h : isIntegerNumeral text = true) :
    (∃ n : Int64, readInt64? text = some n ∧ (n.toInt : ℚ) = numeralValue text ∧ ¬IsDouble text) ∨
      readInt64? text = none ∧ IsDouble text := by
  obtain ⟨n, hread, hvalue⟩ := readInt?_of_isIntegerNumeral h
  have hdouble : IsDouble text ↔ n < -2 ^ 63 ∨ 2 ^ 63 ≤ n := by
    unfold IsDouble
    rw [h, ← hvalue]
    simp only [Bool.true_eq_false, false_or]
    norm_cast
  rw [hdouble, readInt64?, hread, Option.bind_some, toInt64?, Int64.toInt_minValue,
    Int64.toInt_maxValue]
  by_cases hrange : -2 ^ 63 ≤ n ∧ n ≤ 2 ^ 63 - 1
  · refine .inl ⟨Int64.ofInt n, if_pos hrange, ?_, by omega⟩
    rw [Int64.toInt_ofInt_of_le hrange.1 (by omega), hvalue]
  · exact .inr ⟨if_neg hrange, by omega⟩

theorem isWordChar_of_mem_numeral {text : List Char} {c : Char} (h : isNumeral text = true)
    (hc : c ∈ text) : isWordChar c = true := by
  by_cases hdigit : c.isDigit = true
  · exact isWordChar_of_isDigit hdigit
  · by_cases hminus : c = '-'
    · rw [hminus]
      decide
    · by_cases hpoint : c = '.'
      · rw [hpoint]
        decide
      · rw [not_isNumeral hc (Bool.of_not_eq_true hdigit) hminus hpoint] at h
        cases h

end Number

namespace Literal

open Number

variable {text text' : List Char}

theorem coerce_numeral (h : isNumeral text = true) :
    (∃ n : Int64, coerce text = int n ∧ (n.toInt : ℚ) = numeralValue text ∧ ¬IsDouble text) ∨
      ∃ x, coerce text = float x ∧ readFloat? text = some x ∧
        Binary64.code x ≤ Binary64.infinityCode ∧ IsDouble text := by
  have hword := fun c (hc : c ∈ text) => isWordChar_of_mem_numeral h hc
  have hquote : quoteMark ∉ text := fun hmem => absurd (hword _ hmem) (by decide)
  have htrim : Text.trim text = text :=
    Text.trim_eq_self fun c hc => isBlank_of_isWordChar (hword c hc)
  obtain ⟨x, hread, -, hcode, -⟩ := readFloat?_of_isNumeral h
  have hfloat (hinteger : (if isIntegerNumeral text then readInt64? text else none) = none) :
      coerce text = float x := by
    rw [coerce, htrim, ofTrimmed_word hquote hinteger, if_pos h, hread]
    rfl
  cases hinteger : isIntegerNumeral text with
  | false => exact .inr ⟨x, hfloat (by rw [hinteger]; rfl), hread, hcode, .inl hinteger⟩
  | true =>
    rcases readInt64?_of_isIntegerNumeral hinteger with ⟨n, hn, hvalue, hdouble⟩ | ⟨hn, hdouble⟩
    · refine .inl ⟨n, ?_, hvalue, hdouble⟩
      rw [coerce, htrim, ofTrimmed, unquote?_of_notMem hquote, hinteger, hn]
      rfl
    · exact .inr ⟨x, hfloat (by rw [hinteger]; exact hn), hread, hcode, hdouble⟩

theorem readFloat?_text_float {x : Float} (h : Binary64.code x ≤ Binary64.infinityCode) :
    readFloat? (float x).text.toList = some x := by
  rw [text, String.toList_ofList]
  by_cases hfinite : Binary64.isFinite x = true
  · exact readFloat?_text _ hfinite
  · have hcode : Binary64.code x = Binary64.infinityCode :=
      Nat.le_antisymm h (by simpa [Binary64.isFinite] using hfinite)
    have hbits := Binary64.ofCode_code x
    rw [hcode] at hbits
    unfold Notation.text
    dsimp only
    rw [hcode, if_neg (Nat.lt_irrefl _), if_pos rfl]
    cases hsign : Binary64.isNegative x with
    | true =>
      rw [hsign] at hbits
      exact congrArg some hbits
    | false =>
      rw [hsign] at hbits
      exact congrArg some hbits

theorem text_int_ne_text_float (n : Int64) (x : Float) : (int n).text ≠ (float x).text := by
  intro hsame
  obtain ⟨-, c, hc, hdigit, hminus⟩ := text_chars x
  rw [text, text, String.ofList_inj] at hsame
  rw [← hsame] at hc
  rcases mem_intText hc with hdigit' | hminus'
  · rw [hdigit] at hdigit'
    cases hdigit'
  · exact hminus hminus'

theorem text_int_injective {n n' : Int64} (h : (int n).text = (int n').text) : n = n' := by
  rw [text, text, String.ofList_inj] at h
  have hread := readInt64?_intText n
  rw [h, readInt64?_intText] at hread
  exact (Option.some.inj hread).symm

/-- **The numerals of different numbers that have one text** are those of doubles, where both numbers
are rounded to one. -/
theorem text_eq_text_iff (h : isNumeral text = true) (h' : isNumeral text' = true)
    (hvalue : numeralValue text ≠ numeralValue text') :
    (coerce text).text = (coerce text').text ↔
      IsDouble text ∧ IsDouble text' ∧ readFloat? text = readFloat? text' := by
  rcases coerce_numeral h with ⟨n, hn, hnumber, hdouble⟩ | ⟨x, hx, hread, hcode, hdouble⟩ <;>
    rcases coerce_numeral h' with ⟨n', hn', hnumber', hdouble'⟩ | ⟨x', hx', hread', hcode', hdouble'⟩
  · refine iff_of_false (fun hsame => hvalue ?_) (fun hboth => hdouble hboth.1)
    rw [hn, hn'] at hsame
    rw [← hnumber, ← hnumber', text_int_injective hsame]
  · refine iff_of_false ?_ (fun hboth => hdouble hboth.1)
    rw [hn, hx']
    exact text_int_ne_text_float n x'
  · refine iff_of_false ?_ (fun hboth => hdouble' hboth.2.1)
    rw [hx, hn']
    exact (text_int_ne_text_float n' x).symm
  · rw [hx, hx', hread, hread', and_iff_right hdouble, and_iff_right hdouble']
    constructor
    · intro hsame
      rw [← readFloat?_text_float hcode, ← readFloat?_text_float hcode', hsame]
    · intro hsame
      rw [Option.some.inj hsame]

theorem text_ne_empty_of_isNumeral (h : isNumeral text = true) : (coerce text).text ≠ "" := by
  rcases coerce_numeral h with ⟨n, hn, -⟩ | ⟨x, hx, -⟩
  · rw [hn]
    intro hempty
    exact intText_ne_nil _ (String.ofList_inj.1 (hempty.trans rfl))
  · obtain ⟨-, c, hc, -⟩ := text_chars x
    rw [hx]
    intro hempty
    have hnil : Notation.source.text x = [] := String.ofList_inj.1 (hempty.trans rfl)
    rw [hnil] at hc
    cases hc

end Literal

end RecordQuery
