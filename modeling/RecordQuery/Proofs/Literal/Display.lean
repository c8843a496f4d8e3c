import RecordQuery.Proofs.Narrowing
import RecordQuery.Proofs.Number.ReadingBack

/-!
# Literals read back from their display form

* `Binary64.IsPlain`: the numbers that are written without an exponent in statements.
* `Number.isNumeral_text_iff`: the doubles whose text is a numeral.
* `Literal.coerce_display_iff`: the literals that are read back from their display form.
-/

namespace RecordQuery

/-! ## Magnitudes and powers of ten -/

namespace Binary64

/-- Whether a number is zero, or neither less than `0.0001` nor from `10 ^ 16` on. -/
def IsPlain (q : ℚ) : Prop :=
  q = 0 ∨ (10 : ℚ) ^ (-4 : ℤ) ≤ q ∧ q < (10 : ℚ) ^ (16 : ℤ)

theorem abs_value (x : Float) : |value x| = magnitude (code x) := by
  unfold value
  split
  · rw [abs_neg, abs_of_nonneg (magnitude_nonneg _)]
  · exact abs_of_nonneg (magnitude_nonneg _)

theorem magnitude_pos {c : Nat} (h : 0 < c) : 0 < magnitude c := by
  rw [magnitude_eq]
  exact div_pos (Nat.cast_pos.2 (units_pos h)) unitsOfOne_pos

theorem ten_zpow_le_magnitude {k : ℤ} {c : Nat} (num den : Nat) (hden : 0 < den)
    (hpower : (10 : ℚ) ^ k = num / den) (h : num * unitsOfOne ≤ units c * den) :
    (10 : ℚ) ^ k ≤ magnitude c := by
  rw [hpower, magnitude_eq, div_le_div_iff₀ (Nat.cast_pos.2 hden) unitsOfOne_pos]
  exact_mod_cast h

end Binary64

/-! ## Texts of doubles -/

namespace Number

open Binary64

theorem isPositional_source_iff (power : ℤ) :
    Notation.source.isPositional power = true ↔ -4 ≤ power ∧ ¬16 ≤ power := by
  simp only [Notation.isPositional, Notation.source, Option.all_some, Bool.and_eq_true,
    decide_eq_true_eq]
  omega

theorem isPositional_shortest_iff {c : Nat} (hpos : 0 < c) (hc : c ≤ infinityCode) :
    Notation.source.isPositional (shortest .up c).power = true ↔ IsPlain (magnitude c) := by
  have hleast : (10 : ℚ) ^ (-4 : ℤ) ≤ magnitude (codeOfDecimal 1 (-4)) :=
    ten_zpow_le_magnitude 1 10000 (by decide) (by norm_num) (by decide +kernel)
  have hgreatest : (10 : ℚ) ^ (16 : ℤ) ≤ magnitude (codeOfDecimal 1 16) :=
    ten_zpow_le_magnitude 10000000000000000 1 (by decide) (by norm_num) (by decide +kernel)
  have hleast' : shortest .up (codeOfDecimal 1 (-4)) = ⟨1, -4⟩ := by decide +kernel
  have hgreatest' : shortest .up (codeOfDecimal 1 16) = ⟨1, 16⟩ := by decide +kernel
  rw [isPositional_source_iff, ← ten_zpow_le_magnitude_iff hleast' hleast hpos hc,
    ← ten_zpow_le_magnitude_iff hgreatest' hgreatest hpos hc, not_le, IsPlain,
    or_iff_right (magnitude_pos hpos).ne']

theorem mem_pointed {whole fraction : List Char} {c : Char} (hwhole : isDigits whole = true)
    (hfraction : fraction.all Char.isDigit = true) (h : c ∈ pointed whole fraction) :
    c.isDigit = true ∨ c = '.' := by
  unfold pointed at h
  split at h
  · exact .inl (mem_of_isDigits hwhole h)
  · rcases List.mem_append.1 h with h | h
    · exact .inl (mem_of_isDigits hwhole h)
    · rcases List.mem_cons.1 h with h | h
      · exact .inr h
      · exact .inl (List.all_eq_true.1 hfraction c h)

theorem magnitude_chars (n : Nat) :
    (∀ c ∈ Notation.source.magnitude n, isWordChar c = true) ∧
      ∃ c ∈ Notation.source.magnitude n, c.isDigit = false ∧ c ≠ '-' := by
  have hword {c : Char} (h : c.isDigit = true ∨ c = '.') : isWordChar c = true := by
    rcases h with hdigit | rfl
    · exact isWordChar_of_isDigit hdigit
    · decide
  obtain ⟨text, hdigits, ⟨exponent, htext⟩ | ⟨power, htext⟩⟩ :=
    magnitude_cases Notation.source n
  · obtain ⟨whole, fraction, hwhole, hfraction, hlayout, -, hpoint⟩ :=
      exists_positional Notation.source hdigits exponent
    rw [htext, hlayout]
    refine ⟨fun c hc => hword (mem_pointed hwhole hfraction hc), '.', ?_, by decide, by decide⟩
    rw [pointed_of_ne_nil whole (hpoint rfl)]
    simp
  · obtain ⟨whole, fraction, hwhole, hfraction, hlayout, -⟩ :=
      exists_scientific Notation.source hdigits power
    rw [htext, hlayout]
    refine ⟨fun c hc => ?_, 'e', by simp, by decide, by decide⟩
    rcases List.mem_append.1 hc with hc | hc
    · exact hword (mem_pointed hwhole hfraction hc)
    · rcases List.mem_cons.1 hc with rfl | hc
      · decide
      · exact isWordChar_of_mem_intText hc

theorem text_chars (x : Float) :
    (∀ c ∈ Notation.source.text x, isWordChar c = true) ∧
      ∃ c ∈ Notation.source.text x, c.isDigit = false ∧ c ≠ '-' := by
  obtain ⟨hword, c, hc, hdigit, hminus⟩ := magnitude_chars (code x)
  unfold Notation.text
  dsimp only
  split
  next => exact ⟨by decide, 'N', by decide, by decide, by decide⟩
  next =>
    split
    next => split <;> exact ⟨by decide, 'i', by decide, by decide, by decide⟩
    next =>
      split
      next =>
        refine ⟨fun d hd => ?_, c, List.mem_cons_of_mem _ hc, hdigit, hminus⟩
        rcases List.mem_cons.1 hd with rfl | hd
        · decide
        · exact hword d hd
      next => exact ⟨hword, c, hc, hdigit, hminus⟩

theorem isNumeral_magnitude_iff {c : Nat} (hc : c ≤ infinityCode) :
    isNumeral (Notation.source.magnitude c) = true ↔ IsPlain (magnitude c) := by
  unfold Notation.magnitude
  split
  next hzero =>
    have hmagnitude : magnitude c = 0 := by
      have hunits : units 0 = 0 := rfl
      rw [hzero, magnitude_eq, hunits, Nat.cast_zero, zero_div]
    exact iff_of_true (isNumeral_positional _ (by decide) 0) (.inl hmagnitude)
  next hne =>
    have hdigits := isDigits_toDigits (shortest .up c).digits
    have htie : Notation.source.tie = .up := rfl
    rw [← isPositional_shortest_iff (Nat.pos_of_ne_zero hne) hc, layout_eq, htie]
    split
    next hplain => exact iff_of_true (isNumeral_positional _ hdigits _) hplain
    next hplain =>
      rw [isNumeral_scientific _ hdigits]
      exact iff_of_false Bool.false_ne_true hplain

/-- **The doubles whose text is a numeral.** The others have an exponent, or are no numbers. -/
theorem isNumeral_text_iff (x : Float) : isNumeral (Notation.source.text x) = true ↔
    isFinite x = true ∧ IsPlain |value x| := by
  by_cases hfinite : isFinite x = true
  · have hcode : code x < infinityCode := of_decide_eq_true hfinite
    obtain ⟨whole, rest, hwhole, htext⟩ := exists_magnitude_eq_append Notation.source (code x)
    have hsign : isNumeral ('-' :: Notation.source.magnitude (code x)) =
        isNumeral (Notation.source.magnitude (code x)) := by
      rw [htext, isNumeral, isNumeral, withoutMinus_of_isDigits hwhole]
      rfl
    rw [text_of_isFinite _ hfinite, and_iff_right hfinite, abs_value,
      ← isNumeral_magnitude_iff hcode.le]
    split
    · rw [hsign]
    · exact Iff.rfl
  · rw [iff_false_right (fun h => hfinite h.1), Bool.not_eq_true]
    have hcode : infinityCode ≤ code x := by
      simpa [isFinite] using hfinite
    unfold Notation.text
    dsimp only
    split
    next => decide
    next hnumber =>
      rw [if_pos (Nat.le_antisymm (Nat.not_lt.1 hnumber) hcode)]
      split <;> decide

end Number

/-! ## Literals -/

namespace Literal

variable {text : List Char}

theorem unquote?_of_notMem (h : quoteMark ∉ text) : unquote? text = none := by
  cases text with
  | nil => rfl
  | cons c rest =>
    have hc : c ≠ quoteMark := fun hc => h (hc ▸ List.mem_cons_self)
    simp [unquote?, hc]

theorem ofTrimmed_word (hquote : quoteMark ∉ text)
    (hinteger : (if Number.isIntegerNumeral text then Number.readInt64? text else none) = none) :
    ofTrimmed text = if Number.isNumeral text then
        ((Number.readFloat? text).map float).getD (str (String.ofList text))
      else str (String.ofList text) := by
  unfold ofTrimmed
  rw [unquote?_of_notMem hquote, hinteger]
  dsimp only
  by_cases hnumeral : Number.isNumeral text = true
  · rw [if_pos hnumeral, if_pos hnumeral]
    cases Number.readFloat? text <;> rfl
  · rw [if_neg hnumeral, if_neg hnumeral]

theorem coerce_text_float (x : Float) :
    coerce (float x).text.toList =
      if Number.isNumeral (Number.Notation.source.text x) then float x else str (float x).text := by
  obtain ⟨hword, c, hc, hdigit, hminus⟩ := Number.text_chars x
  have hquote : quoteMark ∉ Number.Notation.source.text x := by
    intro hmem
    exact absurd (hword _ hmem) (by decide)
  have htrim : Text.trim (Number.Notation.source.text x) = Number.Notation.source.text x :=
    Text.trim_eq_self fun c hc => isBlank_of_isWordChar (hword c hc)
  have hinteger := Number.not_isIntegerNumeral hc hdigit hminus
  rw [text, String.toList_ofList, coerce, htrim, ofTrimmed_word hquote (by rw [hinteger]; rfl)]
  by_cases hnumeral : Number.isNumeral (Number.Notation.source.text x) = true
  · have hread := Number.readFloat?_text .source ((Number.isNumeral_text_iff x).1 hnumeral).1
    rw [if_pos hnumeral, if_pos hnumeral, hread]
    rfl
  · rw [if_neg hnumeral, if_neg hnumeral]

theorem coerce_display (literal : Literal) : coerce literal.display.toList =
    match literal with
    | float x =>
      if Number.isNumeral (Number.Notation.source.text x) then float x else str literal.display
    | _ => literal := by
  cases literal with
  | str text =>
    show coerce (String.ofList (quoteMark :: text.toList ++ [quoteMark])).toList = _
    rw [String.toList_ofList, List.cons_append, coerce_enclosed, String.ofList_toList]
  | int n =>
    show coerce (String.ofList (Number.intText n.toInt)).toList = _
    rw [String.toList_ofList, coerce_intText]
  | float x => exact coerce_text_float x

/-- **The literals that are read back from their display form.** All strings and integers are, and of
the doubles those that are finite and neither less than `0.0001` nor from `10 ^ 16` on, in magnitude,
or zero. Any other double is read back as a string, since its display form has an exponent or is a
name. -/
theorem coerce_display_iff (raw : List Char) :
    (coerce (coerce raw).display.toList = coerce raw ↔
      ∀ x, coerce raw = float x →
        Binary64.isFinite x = true ∧ Binary64.IsPlain |Binary64.value x|) ∧
      (coerce (coerce raw).display.toList = coerce raw ∨
        coerce (coerce raw).display.toList = str (coerce raw).display) := by
  have hread := coerce_display (coerce raw)
  cases hliteral : coerce raw with
  | str text =>
    rw [hliteral] at hread
    exact ⟨iff_of_true hread (by simp), .inl hread⟩
  | int n =>
    rw [hliteral] at hread
    exact ⟨iff_of_true hread (by simp), .inl hread⟩
  | float x =>
    rw [hliteral] at hread
    simp only at hread
    simp only [float.injEq, forall_eq', ← Number.isNumeral_text_iff]
    by_cases hnumeral : Number.isNumeral (Number.Notation.source.text x) = true
    · rw [if_pos hnumeral] at hread
      exact ⟨iff_of_true hread hnumeral, .inl hread⟩
    · rw [if_neg hnumeral] at hread
      exact ⟨iff_of_false (by rw [hread]; simp) hnumeral, .inr hread⟩

/-- A double from `10 ^ 16` on has an exponent in its display form, and is read back as a string. -/
theorem coerce_display_large :
    let raw := "10000000000000000.0".toList
    (coerce raw).isString = false ∧ (coerce raw).display = "1e16" ∧
      coerce (coerce raw).display.toList = str "1e16" ∧
      coerce (coerce raw).display.toList ≠ coerce raw := by
  intro raw
  have hnumber : (coerce raw).isString = false := by decide +kernel
  have hdisplay : (coerce raw).display = "1e16" := by decide +kernel
  have hread : coerce (coerce raw).display.toList = str "1e16" := by
    rw [hdisplay]
    decide +kernel
  refine ⟨hnumber, hdisplay, hread, fun hsame => ?_⟩
  rw [← hsame, hread] at hnumber
  cases hnumber

end Literal

end RecordQuery
