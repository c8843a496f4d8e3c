import RecordQuery.Number.Binary64
import Mathlib.Data.Rat.Floor
import Mathlib.Tactic.NormNum
import Mathlib.Tactic.Positivity

/-!
# Truncated doubles

The integer that a double is compared as, in terms of the rational number that the double is.

* `Binary64.magnitude`, `Binary64.value`: the rational numbers behind codes and finite doubles.
* `Binary64.towardZero`, `Binary64.saturated`: rounding, and the ends of the 64-bit integers.
* `Binary64.toInt_truncated`: `truncated` rounds the value of a double toward zero and saturates.
-/

namespace RecordQuery.Binary64

/-! ## Values -/

/-- The magnitude with a code: its fraction, with a hidden bit if the exponent is not zero, scaled by
the exponent. -/
def magnitude (c : Nat) : ℚ :=
  let exponent := c / exponentWeight
  let fraction := c % exponentWeight
  if exponent = 0 then fraction * 2 ^ (-1074 : ℤ)
  else (exponentWeight + fraction) * 2 ^ ((exponent : ℤ) - 1075)

def value (x : Float) : ℚ :=
  if isNegative x then -magnitude (code x) else magnitude (code x)

/-- The nearest integer that is not farther from zero. -/
def towardZero (q : ℚ) : ℤ :=
  if q < 0 then ⌈q⌉ else ⌊q⌋

/-- An integer, or the end of the 64-bit integers that it lies beyond. -/
def saturated (n : ℤ) : ℤ :=
  max Int64.minValue.toInt (min n Int64.maxValue.toInt)

/-- The 64-bit integer that a double stands for: its value rounded toward zero. Values beyond the
64-bit integers and infinities stand for the ends of these, and what is not a number for zero. -/
def integerPart (x : Float) : ℤ :=
  if isFinite x then saturated (towardZero (value x))
  else if code x = infinityCode then
    if isNegative x then Int64.minValue.toInt else Int64.maxValue.toInt
  else 0

theorem cast_natPow (n : Nat) : (Nat.pow 2 n : ℚ) = 2 ^ n := by
  rw [Nat.pow_eq, Nat.cast_pow, Nat.cast_ofNat]

theorem cast_unitsOfOne : (unitsOfOne : ℚ) = 2 ^ 1074 := by
  unfold unitsOfOne
  simp only [cast_natPow]

theorem magnitude_eq (c : Nat) : magnitude c = (units c : ℚ) / (unitsOfOne : ℚ) := by
  have hzero : c / exponentWeight = 0 ↔ c < exponentWeight := Nat.div_eq_zero_iff_lt (by decide)
  rw [cast_unitsOfOne]
  unfold magnitude units
  dsimp only
  by_cases hc : c < exponentWeight
  · rw [if_pos (hzero.2 hc), if_pos hc, Nat.mod_eq_of_lt hc, zpow_neg, div_eq_mul_inv]
    norm_cast
  · rw [if_neg (mt hzero.1 hc), if_neg hc]
    have hexponent : ((c / exponentWeight : ℕ) : ℤ) - 1075 =
        ((c / exponentWeight - 1 : ℕ) : ℤ) - 1074 := by
      have hpos := Nat.pos_of_ne_zero (mt hzero.1 hc)
      omega
    rw [hexponent, zpow_sub₀ two_ne_zero, mul_div_assoc', Nat.cast_mul, cast_natPow]
    norm_cast

theorem magnitude_nonneg (c : Nat) : 0 ≤ magnitude c := by
  rw [magnitude_eq]
  positivity

theorem floor_magnitude (c : Nat) : ⌊magnitude c⌋ = ((units c / unitsOfOne : ℕ) : ℤ) := by
  rw [magnitude_eq, Rat.floor_natCast_div_natCast]
  rfl

/-! ## Truncation -/

theorem towardZero_of_nonneg {q : ℚ} (h : 0 ≤ q) : towardZero q = ⌊q⌋ :=
  if_neg (not_lt.2 h)

theorem towardZero_neg {q : ℚ} (h : 0 ≤ q) : towardZero (-q) = -⌊q⌋ := by
  unfold towardZero
  obtain rfl | hpos := h.eq_or_lt
  · simp
  · rw [if_pos (neg_lt_zero.2 hpos), Int.ceil_neg]

theorem towardZero_value (x : Float) :
    towardZero (value x) =
      if isNegative x then -((units (code x) / unitsOfOne : ℕ) : ℤ)
      else ((units (code x) / unitsOfOne : ℕ) : ℤ) := by
  rw [← floor_magnitude, value]
  split
  · exact towardZero_neg (magnitude_nonneg _)
  · exact towardZero_of_nonneg (magnitude_nonneg _)

theorem saturated_natCast (n : Nat) :
    (Int64.ofInt (min n (signWeight - 1) : Nat)).toInt = saturated n := by
  have hsign : signWeight = 2 ^ 63 := rfl
  rw [saturated, Int64.toInt_minValue, Int64.toInt_maxValue, hsign, Int64.toInt_ofInt_of_le]
  all_goals omega

theorem saturated_neg_natCast (n : Nat) :
    (Int64.ofInt (-(min n signWeight : Nat))).toInt = saturated (-n) := by
  have hsign : signWeight = 2 ^ 63 := rfl
  rw [saturated, Int64.toInt_minValue, Int64.toInt_maxValue, hsign, Int64.toInt_ofInt_of_le]
  all_goals omega

/-- **`truncated` is the integer part of a double**, with saturation. -/
theorem toInt_truncated (x : Float) : (truncated x).toInt = integerPart x := by
  unfold truncated integerPart isFinite
  dsimp only
  obtain hlt | heq | hgt := Nat.lt_trichotomy (code x) infinityCode
  · rw [if_neg (Nat.lt_asymm hlt), if_pos (decide_eq_true hlt), if_neg hlt.ne, towardZero_value]
    by_cases hsign : isNegative x = true
    · rw [if_pos hsign, if_pos hsign, saturated_neg_natCast]
    · rw [if_neg hsign, if_neg hsign, saturated_natCast]
  · -- an infinity lies beyond the integers on its side
    have hends : saturated (-(signWeight : ℤ)) = Int64.minValue.toInt ∧
        saturated (signWeight : ℤ) = Int64.maxValue.toInt := by decide
    have hfinite : ¬decide (infinityCode < infinityCode) = true := by simp
    rw [heq, if_neg (Nat.lt_irrefl _), if_neg hfinite, if_pos (Eq.refl infinityCode),
      if_pos (Eq.refl infinityCode)]
    by_cases hsign : isNegative x = true
    · rw [if_pos hsign, if_pos hsign, saturated_neg_natCast, hends.1]
    · rw [if_neg hsign, if_neg hsign, saturated_natCast, hends.2]
  · rw [if_pos hgt, if_neg (by simp [Nat.le_of_lt hgt]), if_neg hgt.ne']
    rfl

end RecordQuery.Binary64
