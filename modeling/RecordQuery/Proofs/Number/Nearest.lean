import RecordQuery.Proofs.Number.Rounding

/-!
# The nearest doubles

No double is nearer to a number than the one that the number is rounded to.

* `Binary64.abs_roundHalfEven_le`: no integer is nearer to a quotient than the one it is rounded to.
* `Binary64.units_cases`: a magnitude is on the grid of an exponent or below all numbers that have it.
* `Binary64.abs_nearestCode_le`, `Binary64.abs_codeOfDecimal_le`: the same for doubles, where infinity
  counts as the power of two that comes after all finite doubles.
-/

namespace RecordQuery.Binary64

/-! ## Integers -/

theorem abs_roundHalfEven_le (num : Nat) {den : Nat} (hden : 0 < den) (k : Nat) :
    |((roundHalfEven num den * den : Nat) : ℤ) - num| ≤ |((k * den : Nat) : ℤ) - num| := by
  have hnum : num / den * den + num % den = num := Nat.div_add_mod' num den
  have hrem := Nat.mod_lt num hden
  have hround : roundHalfEven num den = num / den ∧ 2 * (num % den) ≤ den ∨
      roundHalfEven num den = num / den + 1 ∧ den ≤ 2 * (num % den) := by
    unfold roundHalfEven
    dsimp only
    split
    next hdown =>
      simp only [Bool.or_eq_true, decide_eq_true_eq, Bool.and_eq_true, beq_iff_eq] at hdown
      exact .inl ⟨rfl, by omega⟩
    next hup =>
      simp only [Bool.or_eq_true, decide_eq_true_eq] at hup
      exact .inr ⟨rfl, by omega⟩
  have hside : k * den ≤ num / den * den ∨ num / den * den + den ≤ k * den := by
    rcases Nat.lt_or_ge (num / den) k with hlt | hge
    · right
      calc num / den * den + den = (num / den + 1) * den := by ring
        _ ≤ k * den := Nat.mul_le_mul_right den hlt
    · exact .inl (Nat.mul_le_mul_right den hge)
  rw [Int.abs_eq_natAbs, Int.abs_eq_natAbs]
  rcases hround with ⟨heq, hhalf⟩ | ⟨heq, hhalf⟩
  · rw [heq]
    omega
  · rw [heq, Nat.add_mul, Nat.one_mul]
    omega

/-! ## Grids -/

theorem units_lt (c : Nat) : units c < 2 ^ (53 + (c / exponentWeight - 1)) := by
  rcases Nat.lt_or_ge c exponentWeight with hlt | hge
  · have hunits : units c = c := if_pos hlt
    rw [hunits]
    calc c < 2 ^ 52 := hlt
      _ ≤ 2 ^ (53 + (c / exponentWeight - 1)) := Nat.pow_le_pow_right (by decide) (by omega)
  · have hlog : (units c).log2 + 1 = 53 + (c / exponentWeight - 1) := by
      rw [log2_units hge]
      omega
    rw [← hlog]
    exact Nat.lt_log2_self

theorem units_scaled {exponent fraction : Nat} (hupper : fraction ≤ 2 * exponentWeight)
    (hlower : 0 < exponent → exponentWeight ≤ fraction) :
    units (exponent * exponentWeight + fraction) = fraction * 2 ^ exponent := by
  have hweight : 0 < exponentWeight := by decide
  rcases Nat.lt_or_ge fraction exponentWeight with hlt | hge
  · obtain rfl : exponent = 0 := by omega
    rw [Nat.zero_mul, Nat.zero_add, Nat.pow_zero, Nat.mul_one]
    exact if_pos hlt
  · have hnormal : ¬exponent * exponentWeight + fraction < exponentWeight := by
      rw [Nat.not_lt]
      exact hge.trans (Nat.le_add_left _ _)
    have hdiv : (exponent * exponentWeight + fraction) / exponentWeight =
        exponent + fraction / exponentWeight := by
      rw [Nat.add_comm, Nat.add_mul_div_right _ _ hweight, Nat.add_comm]
    unfold units
    rw [if_neg hnormal, hdiv, Nat.add_comm (exponent * exponentWeight), Nat.add_mul_mod_self_right]
    rcases hupper.lt_or_eq with hlt | rfl
    · have hone : fraction / exponentWeight = 1 := by
        rw [Nat.div_eq_iff hweight]
        omega
      rw [hone, Nat.add_sub_cancel, Nat.mod_eq_sub_mod hge, Nat.mod_eq_of_lt (by omega),
        Nat.add_sub_cancel' hge]
      rfl
    · rw [Nat.mul_mod_left, Nat.mul_div_cancel _ hweight, Nat.add_zero,
        show exponent + 2 - 1 = exponent + 1 by omega, Nat.pow_eq, Nat.pow_succ]
      ring

theorem units_cases (exponent c : Nat) : (∃ k, units c = k * 2 ^ exponent) ∨
    0 < exponent ∧ units c < exponentWeight * 2 ^ exponent := by
  rcases Nat.eq_zero_or_pos exponent with rfl | hpos
  · exact .inl ⟨units c, by rw [Nat.pow_zero, Nat.mul_one]⟩
  · rcases Nat.lt_or_ge (c / exponentWeight - 1) exponent with hlt | hge
    · have hweight : exponentWeight * 2 ^ exponent = 2 ^ (52 + exponent) := by
        rw [Nat.pow_add]
        rfl
      refine .inr ⟨hpos, (units_lt c).trans_le ?_⟩
      rw [hweight]
      exact Nat.pow_le_pow_right (by decide) (by omega)
    · have hnormal : ¬c < exponentWeight := by
        intro hlt
        rw [Nat.div_eq_of_lt hlt] at hge
        omega
      have hunits : units c =
          (exponentWeight + c % exponentWeight) * 2 ^ (c / exponentWeight - 1) := if_neg hnormal
      refine .inl ⟨(exponentWeight + c % exponentWeight) *
        2 ^ (c / exponentWeight - 1 - exponent), ?_⟩
      rw [hunits, Nat.mul_assoc, ← Nat.pow_add, Nat.sub_add_cancel hge]

/-! ## Doubles -/

theorem weight_mul_le (num den : Nat) (hpos : 0 < (num / den).log2 - 52) :
    exponentWeight * 2 ^ ((num / den).log2 - 52) * den ≤ num := by
  have hne : num / den ≠ 0 := by
    intro hzero
    rw [hzero] at hpos
    exact absurd hpos (by decide)
  calc exponentWeight * 2 ^ ((num / den).log2 - 52) * den
      = 2 ^ (num / den).log2 * den := by
        rw [show exponentWeight = 2 ^ 52 from rfl, ← Nat.pow_add,
          show 52 + ((num / den).log2 - 52) = (num / den).log2 by omega]
    _ ≤ num / den * den := Nat.mul_le_mul_right den (Nat.log2_self_le hne)
    _ ≤ num := Nat.div_mul_le_self num den

theorem abs_sub_le_of_le {a b n : Nat} (hab : a ≤ b) (hbn : b ≤ n) :
    |((b : Nat) : ℤ) - n| ≤ |((a : Nat) : ℤ) - n| := by
  rw [Int.abs_eq_natAbs, Int.abs_eq_natAbs]
  omega

/-- **No double is nearer to a number than the one that the number is rounded to.** On the grid of the
exponent of the number this is so for its multiples, and what is not on the grid lies below a number on
it that is not above the number. -/
theorem abs_nearestCode_le (num : Nat) {den c : Nat} (hden : 0 < den) (hc : c ≤ infinityCode) :
    |((units (nearestCode num den) * den : Nat) : ℤ) - num| ≤
      |((units c * den : Nat) : ℤ) - num| := by
  rw [nearestCode_eq]
  have hupper := roundHalfEven_scaled_le num den
  have hlower : 0 < (num / den).log2 - 52 →
      exponentWeight ≤ roundHalfEven num (den * 2 ^ ((num / den).log2 - 52)) :=
    fun hpos => le_roundHalfEven_scaled num den (by omega)
  have hweight := weight_mul_le num den
  generalize (num / den).log2 - 52 = exponent at *
  have hgrid (k : Nat) := abs_roundHalfEven_le num (Nat.mul_pos hden (Nat.two_pow_pos exponent)) k
  generalize roundHalfEven num (den * 2 ^ exponent) = fraction at *
  have hcomm (k : Nat) : k * (den * 2 ^ exponent) = k * 2 ^ exponent * den := by ring
  simp only [hcomm] at hgrid
  rcases Nat.lt_or_ge infinityCode (exponent * exponentWeight + fraction) with hbeyond | hfinite
  · -- the number is not below the power of two that infinity counts as
    have hexponent : 2046 ≤ exponent := by
      simp only [infinityCode, exponentWeight] at hbeyond hupper
      omega
    have hinfinity (least : Nat) (hleast : least = 2046) :
        units infinityCode ≤ exponentWeight * 2 ^ exponent := by
      have hcode : infinityCode = least * exponentWeight + exponentWeight := by
        rw [hleast]
        rfl
      rw [hcode, units_scaled (by omega) fun _ => Nat.le_refl _]
      exact Nat.mul_le_mul_left _ (Nat.pow_le_pow_right (by decide) (by omega))
    rw [Nat.min_eq_right hbeyond.le]
    exact abs_sub_le_of_le (Nat.mul_le_mul_right den (units_le_units hc le_rfl))
      ((Nat.mul_le_mul_right den (hinfinity _ rfl)).trans (hweight (by omega)))
  · rw [Nat.min_eq_left hfinite, units_scaled hupper hlower]
    rcases units_cases exponent c with ⟨k, hunits⟩ | ⟨hpos, hbelow⟩
    · rw [hunits]
      exact hgrid k
    · exact (hgrid exponentWeight).trans (abs_sub_le_of_le
        (Nat.mul_le_mul_right den hbelow.le) (hweight hpos))

theorem abs_codeOfDecimal_le (digits : Nat) (exponent : ℤ) {c : Nat} (hc : c ≤ infinityCode) :
    |magnitude (codeOfDecimal digits exponent) - digits * 10 ^ exponent| ≤
      |magnitude c - digits * 10 ^ exponent| := by
  obtain ⟨num, den, hden, hcode, hvalue⟩ := exists_nearestCode_eq digits exponent
  have hunits := unitsOfOne_pos
  have hmagnitude := magnitude_eq
  -- the unit is not to be evaluated
  generalize (unitsOfOne : ℚ) = unit at hunits hvalue hmagnitude
  have hscaled (c : Nat) : magnitude c - digits * 10 ^ exponent =
      (((units c * den : Nat) : ℤ) - num : ℤ) / (den * unit : ℚ) := by
    have hden' : (den : ℚ) ≠ 0 := by positivity
    rw [div_eq_iff hden'] at hvalue
    rw [hmagnitude, eq_div_iff (by positivity)]
    push_cast
    rw [hvalue]
    field_simp
  have hnearest := abs_nearestCode_le num hden hc
  rw [hscaled, hscaled, hcode, abs_div, abs_div]
  apply div_le_div_of_nonneg_right _ (abs_nonneg _)
  exact_mod_cast hnearest

end RecordQuery.Binary64
