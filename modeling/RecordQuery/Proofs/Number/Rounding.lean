import RecordQuery.Proofs.Number.Truncation
import Mathlib

/-!
# Rounding to doubles

Which double a number is rounded to, whatever number it is.

* `Binary64.ofCode_code`, `Binary64.code_ofCode`: a double is its sign and its code.
* `Binary64.nearestCode_le_nearestCode`: a greater number is not rounded to a lesser double.
* `Binary64.nearestCode_units`: a number that is a double is rounded to itself.
* `Binary64.codeOfDecimal_congr`, `Binary64.codeOfDecimal_of_eq_magnitude`: decimals are read by their
  value alone, and one that is exact is read as the double that it is.
-/

namespace RecordQuery.Binary64

/-! ## Signs and codes -/

theorem ofCode_code (x : Float) : ofCode (isNegative x) (code x) = x := by
  have hlt : x.toBits.toNat < 2 * signWeight := x.toBits.toNat_lt
  have hbits : (if isNegative x then signWeight + code x else code x) = x.toBits.toNat := by
    unfold isNegative code
    by_cases hsign : signWeight ≤ x.toBits.toNat
    · rw [if_pos (decide_eq_true hsign), Nat.mod_eq_sub_mod hsign, Nat.mod_eq_of_lt (by omega)]
      omega
    · rw [if_neg (by simpa using hsign), Nat.mod_eq_of_lt (by omega)]
  rw [ofCode, hbits, UInt64.ofNat_toNat, Float.ofBits_toBits]

theorem toBits_ofBits {bits : UInt64} (h : bits.toNat % signWeight ≤ infinityCode) :
    (Float.ofBits bits).toBits = bits := by
  have hvalid : Float.Model.Format.binary64.Valid bits.toBitVec := by
    constructor
    intro hexponent hmantissa
    exfalso
    apply hmantissa
    apply BitVec.eq_of_toNat_eq
    have hones := congrArg BitVec.toNat hexponent
    simp [Float.Model.UnpackedFloat.unpackExponent, Float.Model.Format.binary64,
      Nat.shiftRight_eq_div_pow] at hones
    simp [Float.Model.UnpackedFloat.unpackMantissa, Float.Model.Format.binary64]
    simp only [signWeight, infinityCode, exponentWeight] at h
    omega
  exact congrArg Float.toBits (Float.ofBits_toBits (.ofModel ⟨bits, hvalid⟩))

theorem toNat_toBits_ofCode (negative : Bool) {c : Nat} (h : c ≤ infinityCode) :
    (ofCode negative c).toBits.toNat = if negative then signWeight + c else c := by
  have hsmall : infinityCode < signWeight := by decide
  have hword : 2 * signWeight = 2 ^ 64 := by decide
  have hnat : (UInt64.ofNat (if negative then signWeight + c else c)).toNat =
      if negative then signWeight + c else c := by
    rw [UInt64.toNat_ofNat', Nat.mod_eq_of_lt]
    cases negative <;> simp <;> omega
  rw [ofCode, toBits_ofBits, hnat]
  rw [hnat]
  cases negative with
  | false => exact (Nat.mod_le _ _).trans h
  | true =>
    rw [if_pos rfl, Nat.add_mod_left]
    exact (Nat.mod_le _ _).trans h

theorem code_ofCode (negative : Bool) {c : Nat} (h : c ≤ infinityCode) :
    code (ofCode negative c) = c := by
  have hlt : c < signWeight := h.trans_lt (by decide)
  rw [code, toNat_toBits_ofCode negative h]
  cases negative with
  | false => exact Nat.mod_eq_of_lt hlt
  | true => rw [if_pos rfl, Nat.add_mod_left, Nat.mod_eq_of_lt hlt]

theorem isNegative_ofCode (negative : Bool) {c : Nat} (h : c ≤ infinityCode) :
    isNegative (ofCode negative c) = negative := by
  have hlt : c < signWeight := h.trans_lt (by decide)
  rw [isNegative, toNat_toBits_ofCode negative h]
  cases negative with
  | false => simpa using hlt
  | true => simp

/-! ## Rounding to integers -/

section Quotients

variable {num den num' den' : Nat}

theorem le_roundHalfEven (num den : Nat) : num / den ≤ roundHalfEven num den := by
  unfold roundHalfEven
  dsimp only
  split <;> omega

theorem roundHalfEven_le (num den : Nat) : roundHalfEven num den ≤ num / den + 1 := by
  unfold roundHalfEven
  dsimp only
  split <;> omega

theorem roundHalfEven_mul (n : Nat) (hden : 0 < den) : roundHalfEven (n * den) den = n := by
  unfold roundHalfEven
  simp [Nat.mul_div_cancel n hden, hden]

theorem div_le_div_of_mul_le (hden : 0 < den) (hden' : 0 < den')
    (h : num * den' ≤ num' * den) : num / den ≤ num' / den' := by
  rw [Nat.le_div_iff_mul_le hden']
  apply Nat.le_of_mul_le_mul_right _ hden
  calc num / den * den' * den = num / den * den * den' := by ring
    _ ≤ num * den' := Nat.mul_le_mul_right _ (Nat.div_mul_le_self num den)
    _ ≤ num' * den := h

/-- **Rounding is monotone.** Two quotients with one integer part are rounded by their fractions. -/
theorem roundHalfEven_le_roundHalfEven (hden : 0 < den) (hden' : 0 < den')
    (h : num * den' ≤ num' * den) : roundHalfEven num den ≤ roundHalfEven num' den' := by
  rcases (div_le_div_of_mul_le hden hden' h).lt_or_eq with hlt | heq
  · exact (roundHalfEven_le num den).trans (Nat.succ_le_of_lt hlt |>.trans (le_roundHalfEven num' den'))
  · have hrem : num % den * den' ≤ num' % den' * den := by
      have hnum := Nat.div_add_mod num den
      have hnum' := Nat.div_add_mod num' den'
      rw [← hnum, ← hnum', heq] at h
      nlinarith
    unfold roundHalfEven
    dsimp only
    rw [heq]
    -- if the greater fraction is rounded down, so is the smaller one
    by_cases hdown : (decide (2 * (num' % den') < den') ||
        2 * (num' % den') == den' && num' / den' % 2 == 0) = true
    · rw [if_pos hdown, if_pos]
      simp only [Bool.or_eq_true, decide_eq_true_eq, Bool.and_eq_true, beq_iff_eq] at hdown ⊢
      rcases hdown with hlt | ⟨hhalf, heven⟩
      · left
        nlinarith
      · rcases Nat.lt_or_ge (2 * (num % den)) den with hlt | hge
        · exact .inl hlt
        · refine .inr ⟨?_, heven⟩
          nlinarith
    · rw [if_neg hdown]
      split <;> omega

end Quotients

/-! ## Rounding to doubles -/

theorem div_two_pow_lt (n : Nat) : n / 2 ^ (n.log2 - 52) < 2 ^ 53 := by
  rw [Nat.div_lt_iff_lt_mul (Nat.two_pow_pos _), ← Nat.pow_add]
  exact Nat.lt_log2_self.trans_le (Nat.pow_le_pow_right (by decide) (by omega))

theorem le_div_two_pow {n : Nat} (h : 52 ≤ n.log2) : 2 ^ 52 ≤ n / 2 ^ (n.log2 - 52) := by
  have hne : n ≠ 0 := by
    rintro rfl
    simp at h
  rw [Nat.le_div_iff_mul_le (Nat.two_pow_pos _), ← Nat.pow_add,
    show 52 + (n.log2 - 52) = n.log2 by omega]
  exact Nat.log2_self_le hne

section Doubles

variable {num den num' den' : Nat}

theorem roundHalfEven_scaled_le (num den : Nat) :
    roundHalfEven num (den * 2 ^ ((num / den).log2 - 52)) ≤ 2 * exponentWeight := by
  have hround := roundHalfEven_le num (den * 2 ^ ((num / den).log2 - 52))
  have hquotient := div_two_pow_lt (num / den)
  rw [Nat.div_div_eq_div_mul] at hquotient
  simp only [exponentWeight]
  omega

theorem le_roundHalfEven_scaled (num den : Nat) (h : 52 ≤ (num / den).log2) :
    exponentWeight ≤ roundHalfEven num (den * 2 ^ ((num / den).log2 - 52)) := by
  have hround := le_roundHalfEven num (den * 2 ^ ((num / den).log2 - 52))
  have hquotient := le_div_two_pow h
  rw [Nat.div_div_eq_div_mul] at hquotient
  exact hquotient.trans hround

theorem nearestCode_eq (num den : Nat) :
    nearestCode num den =
      min (((num / den).log2 - 52) * exponentWeight +
        roundHalfEven num (den * 2 ^ ((num / den).log2 - 52))) infinityCode := rfl

/-- **The nearest double is monotone.** Between two exponents the carry out of the fraction of the
lower one does not reach beyond the least fraction of the upper one. -/
theorem nearestCode_le_nearestCode (hden : 0 < den) (hden' : 0 < den')
    (h : num * den' ≤ num' * den) : nearestCode num den ≤ nearestCode num' den' := by
  have hquotient := div_le_div_of_mul_le hden hden' h
  have hlog : (num / den).log2 ≤ (num' / den').log2 := by
    rcases Nat.eq_zero_or_pos (num / den) with hzero | hpos
    · simp [hzero]
    · rw [Nat.le_log2 (by omega)]
      exact (Nat.log2_self_le (by omega)).trans hquotient
  rw [nearestCode_eq, nearestCode_eq]
  apply min_le_min_right
  rcases Nat.lt_or_ge ((num / den).log2 - 52) ((num' / den').log2 - 52) with hlt | hge
  · have hupper := roundHalfEven_scaled_le num den
    have hlower := le_roundHalfEven_scaled num' den' (by omega)
    have hexponent : ((num / den).log2 - 52 + 1) * exponentWeight ≤
        ((num' / den').log2 - 52) * exponentWeight := Nat.mul_le_mul_right _ hlt
    rw [Nat.add_mul, Nat.one_mul] at hexponent
    omega
  · have hexponent : (num / den).log2 - 52 = (num' / den').log2 - 52 := by omega
    rw [hexponent]
    apply Nat.add_le_add_left
    apply roundHalfEven_le_roundHalfEven (Nat.mul_pos hden (Nat.two_pow_pos _))
      (Nat.mul_pos hden' (Nat.two_pow_pos _))
    calc num * (den' * 2 ^ ((num' / den').log2 - 52))
        = num * den' * 2 ^ ((num' / den').log2 - 52) := by ring
      _ ≤ num' * den * 2 ^ ((num' / den').log2 - 52) := Nat.mul_le_mul_right _ h
      _ = num' * (den * 2 ^ ((num' / den').log2 - 52)) := by ring

end Doubles

theorem log2_units {c : Nat} (h : exponentWeight ≤ c) :
    (units c).log2 = 52 + (c / exponentWeight - 1) := by
  have hfraction : c % exponentWeight < exponentWeight := Nat.mod_lt _ (by decide)
  have hunits : units c =
      (exponentWeight + c % exponentWeight) * 2 ^ (c / exponentWeight - 1) := if_neg (by omega)
  have hne : units c ≠ 0 := by
    rw [hunits]
    exact (Nat.mul_pos (by omega) (Nat.two_pow_pos _)).ne'
  rw [Nat.log2_eq_iff hne, hunits]
  constructor
  · rw [Nat.pow_add]
    exact Nat.mul_le_mul_right _ (Nat.le_add_right _ _)
  · rw [show 52 + (c / exponentWeight - 1) + 1 = 53 + (c / exponentWeight - 1) by omega, Nat.pow_add]
    apply Nat.mul_lt_mul_of_pos_right _ (Nat.two_pow_pos _)
    simp only [exponentWeight] at hfraction ⊢
    omega

theorem nearestCode_units {c : Nat} (h : c ≤ infinityCode) : nearestCode (units c) 1 = c := by
  rw [nearestCode_eq, Nat.div_one, Nat.one_mul]
  rcases Nat.lt_or_ge c exponentWeight with hlt | hge
  · have hunits : units c = c := if_pos hlt
    have hlog : c.log2 - 52 = 0 := by
      rcases Nat.eq_zero_or_pos c with rfl | hpos
      · rfl
      · have := (Nat.log2_lt (k := 52) (by omega)).2 hlt
        omega
    rw [hunits, hlog, Nat.zero_mul, Nat.zero_add, Nat.pow_zero]
    have hround := roundHalfEven_mul c Nat.one_pos
    rw [Nat.mul_one] at hround
    rw [hround, Nat.min_eq_left h]
  · have hexponent : 1 ≤ c / exponentWeight := (Nat.one_le_div_iff (by decide)).2 hge
    have hunits : units c =
        (exponentWeight + c % exponentWeight) * 2 ^ (c / exponentWeight - 1) := if_neg (by omega)
    rw [log2_units hge, Nat.add_sub_cancel_left, hunits, roundHalfEven_mul _ (Nat.two_pow_pos _)]
    have hcode : (c / exponentWeight - 1) * exponentWeight + (exponentWeight + c % exponentWeight) =
        c := by
      have hdiv := Nat.div_add_mod c exponentWeight
      rw [Nat.sub_mul, Nat.one_mul]
      have hle : exponentWeight ≤ c / exponentWeight * exponentWeight :=
        Nat.le_mul_of_pos_left _ hexponent
      rw [Nat.mul_comm] at hdiv
      omega
    rw [hcode, Nat.min_eq_left h]

theorem units_le_units {c c' : Nat} (h : c ≤ c') (hc' : c' ≤ infinityCode) :
    units c ≤ units c' := by
  by_contra hlt
  rw [Nat.not_le] at hlt
  have hcode : nearestCode (units c') 1 ≤ nearestCode (units c) 1 :=
    nearestCode_le_nearestCode Nat.one_pos Nat.one_pos (by omega)
  rw [nearestCode_units hc', nearestCode_units (h.trans hc')] at hcode
  rw [Nat.le_antisymm h hcode] at hlt
  exact Nat.lt_irrefl _ hlt

theorem magnitude_le_magnitude {c c' : Nat} (h : c ≤ c') (hc' : c' ≤ infinityCode) :
    magnitude c ≤ magnitude c' := by
  rw [magnitude_eq, magnitude_eq]
  apply div_le_div_of_nonneg_right _ (Nat.cast_nonneg _)
  exact_mod_cast units_le_units h hc'

/-! ## Decimals -/

section Decimals

variable {digits digits' : Nat} {exponent exponent' : ℤ}

theorem unitsOfOne_pos : (0 : ℚ) < unitsOfOne := by
  rw [cast_unitsOfOne]
  positivity

theorem exists_nearestCode_eq (digits : Nat) (exponent : ℤ) :
    ∃ num den, 0 < den ∧ codeOfDecimal digits exponent = nearestCode num den ∧
      (num : ℚ) / den = digits * 10 ^ exponent * unitsOfOne := by
  cases exponent with
  | ofNat n =>
    refine ⟨_, _, Nat.one_pos, rfl, ?_⟩
    rw [Nat.pow_eq, Nat.cast_mul, Nat.cast_mul, Nat.cast_pow, Nat.cast_ofNat, Nat.cast_one, div_one,
      Int.ofNat_eq_natCast, zpow_natCast]
  | negSucc n =>
    refine ⟨_, _, Nat.pow_pos (by decide), rfl, ?_⟩
    rw [Nat.cast_mul, Nat.cast_pow, Nat.cast_ofNat, zpow_negSucc, div_eq_mul_inv]
    ring

theorem codeOfDecimal_le_codeOfDecimal
    (h : (digits : ℚ) * 10 ^ exponent ≤ digits' * 10 ^ exponent') :
    codeOfDecimal digits exponent ≤ codeOfDecimal digits' exponent' := by
  obtain ⟨num, den, hden, hcode, hvalue⟩ := exists_nearestCode_eq digits exponent
  obtain ⟨num', den', hden', hcode', hvalue'⟩ := exists_nearestCode_eq digits' exponent'
  rw [hcode, hcode']
  apply nearestCode_le_nearestCode hden hden'
  have hle : (num : ℚ) / den ≤ num' / den' := by
    rw [hvalue, hvalue']
    exact mul_le_mul_of_nonneg_right h (Nat.cast_nonneg _)
  rw [div_le_div_iff₀ (Nat.cast_pos.2 hden) (Nat.cast_pos.2 hden')] at hle
  exact_mod_cast hle

theorem codeOfDecimal_congr (h : (digits : ℚ) * 10 ^ exponent = digits' * 10 ^ exponent') :
    codeOfDecimal digits exponent = codeOfDecimal digits' exponent' :=
  (codeOfDecimal_le_codeOfDecimal h.le).antisymm (codeOfDecimal_le_codeOfDecimal h.ge)

theorem codeOfDecimal_le (digits : Nat) (exponent : ℤ) :
    codeOfDecimal digits exponent ≤ infinityCode := by
  cases exponent <;> exact Nat.min_le_right _ _

theorem codeOfDecimal_zero (exponent : ℤ) : codeOfDecimal 0 exponent = 0 := by
  have hzero : codeOfDecimal 0 0 = 0 := by decide +kernel
  have hsame : codeOfDecimal 0 exponent = codeOfDecimal 0 0 := codeOfDecimal_congr (by simp)
  exact hsame.trans hzero

theorem codeOfDecimal_of_eq_magnitude {c : Nat} (hc : c ≤ infinityCode)
    (h : (digits : ℚ) * 10 ^ exponent = magnitude c) : codeOfDecimal digits exponent = c := by
  obtain ⟨num, den, hden, hcode, hvalue⟩ := exists_nearestCode_eq digits exponent
  rw [h, magnitude_eq, div_mul_cancel₀ _ unitsOfOne_pos.ne',
    div_eq_iff (Nat.cast_pos.2 hden).ne'] at hvalue
  have hnum : num = units c * den := by exact_mod_cast hvalue
  have hsame : nearestCode num den = nearestCode (units c) 1 :=
    (nearestCode_le_nearestCode hden Nat.one_pos (by rw [hnum, Nat.mul_one])).antisymm
      (nearestCode_le_nearestCode Nat.one_pos hden (by rw [hnum, Nat.mul_one]))
  rw [hcode, hsame, nearestCode_units hc]

end Decimals

end RecordQuery.Binary64
