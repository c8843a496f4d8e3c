import RecordQuery.Number.Shortest
import RecordQuery.Proofs.Number.Nearest

/-!
# The shortest decimals of doubles

* `Binary64.code_shortest`: the shortest decimal of a double is read as the double.
* `Binary64.exponent_shortest`: its exponent lies within the range in which decimals are read exactly.
-/

namespace RecordQuery.Binary64

/-! ## Sizes -/

theorem units_pos {c : Nat} (h : 0 < c) : 0 < units c := by
  unfold units
  split
  · exact h
  · exact Nat.mul_pos (Nat.lt_add_right _ (by decide)) (Nat.pow_pos (by decide))

theorem length_exactUnits {c : Nat} (hpos : 0 < c) (hc : c < infinityCode) :
    751 ≤ (Nat.toDigits 10 (exactUnits c)).length ∧
      (Nat.toDigits 10 (exactUnits c)).length ≤ 1383 := by
  -- the powers stay behind names, so that no step compares them by their digits
  obtain ⟨five, least, bits, most, hexact, hleast, hlower, hbits, hmost, hupper⟩ :
      ∃ five least bits most, exactUnits c = units c * five ∧ least = 750 ∧
        Nat.pow 10 least ≤ five ∧ bits = 2098 ∧ most = 1383 ∧
        Nat.pow 2 bits * five < Nat.pow 10 most :=
    ⟨_, 750, 2098, 1383, rfl, rfl, by decide +kernel, rfl, rfl, by decide +kernel⟩
  have hdigits (k : Nat) (hk : 0 < k) :
      (Nat.toDigits 10 (exactUnits c)).length ≤ k ↔ units c * five < Nat.pow 10 k := by
    rw [← hexact]
    exact Nat.length_toDigits_le_iff (by decide) hk
  have hunits (k : Nat) (hk : 53 + (c / exponentWeight - 1) ≤ k) : units c ≤ Nat.pow 2 k :=
    (units_lt c).le.trans (Nat.pow_le_pow_right (by decide) hk)
  have hexponent : 53 + (c / exponentWeight - 1) ≤ 2098 := by
    simp only [infinityCode, exponentWeight] at hc ⊢
    omega
  constructor
  · have hlong := (hdigits least (by omega)).not.2
      (Nat.not_lt.2 (hlower.trans (Nat.le_mul_of_pos_left five (units_pos hpos))))
    omega
  · rw [← hmost, hdigits most (by omega)]
    exact (Nat.mul_le_mul_right five (hunits bits (by omega))).trans_lt hupper

/-! ## Candidates -/

theorem exponent_fit (count digits : Nat) (exponent : ℤ) :
    (Decimal.fit count digits exponent).exponent = exponent ∨
      (Decimal.fit count digits exponent).exponent = exponent + 1 := by
  unfold Decimal.fit
  split
  · exact .inr rfl
  · exact .inl rfl

theorem exponent_of_mem_neighbours {tie : Tie} {exact length count : Nat} {d : Decimal}
    (h : d ∈ neighbours tie exact length count) :
    d.exponent = ((length - count : Nat) : ℤ) - 1074 ∨
      d.exponent = ((length - count : Nat) : ℤ) - 1073 := by
  have hpair (above : Bool) (d₁ d₂ : Decimal) (hd : d ∈ if above then [d₁, d₂] else [d₂, d₁]) :
      d = d₁ ∨ d = d₂ := by
    cases above with
    | true => exact List.mem_pair.1 hd
    | false => exact (List.mem_pair.1 hd).symm
  have hfit : ∃ digits, d = Decimal.fit count digits (((length - count : Nat) : ℤ) - 1074) := by
    rcases hpair _ _ _ h with rfl | rfl <;> exact ⟨_, rfl⟩
  obtain ⟨digits, rfl⟩ := hfit
  rcases exponent_fit count digits (((length - count : Nat) : ℤ) - 1074) with hsame | hcarry
  · exact .inl hsame
  · right
    omega

theorem shortest_cases (tie : Tie) (c : Nat) :
    (∃ count, 1 ≤ count ∧ count ≤ 17 ∧ (shortest tie c).code = c ∧ shortest tie c ∈
        neighbours tie (exactUnits c) (Nat.toDigits 10 (exactUnits c)).length count) ∨
      shortest tie c = ⟨exactUnits c, -1074⟩ := by
  unfold shortest
  dsimp only
  generalize hcandidates : (List.range 17).flatMap (fun n => neighbours tie (exactUnits c)
    (Nat.toDigits 10 (exactUnits c)).length (n + 1)) = candidates
  cases hfound : candidates.find? fun d => d.code == c with
  | none => exact .inr rfl
  | some d =>
    have hmem := List.mem_of_find?_eq_some hfound
    rw [← hcandidates, List.mem_flatMap] at hmem
    obtain ⟨n, hn, hmem⟩ := hmem
    rw [List.mem_range] at hn
    have hcode := List.find?_some hfound
    exact .inl ⟨n + 1, by omega, by omega, by simpa using hcode, hmem⟩

theorem cast_mul_five_pow (n k : ℕ) :
    ((n * Nat.pow 5 k : ℕ) : ℚ) * 10 ^ (-(k : ℤ)) = n / 2 ^ k := by
  rw [Nat.pow_eq, Nat.cast_mul, Nat.cast_pow, Nat.cast_ofNat, show (10 : ℚ) = 5 * 2 by norm_num,
    zpow_neg, zpow_natCast, mul_pow, mul_assoc, mul_inv, ← mul_assoc (5 ^ k),
    mul_inv_cancel₀ (by positivity), one_mul, div_eq_mul_inv]

theorem exactUnits_eq_magnitude (c : Nat) :
    (exactUnits c : ℚ) * 10 ^ (-1074 : ℤ) = magnitude c := by
  have hexact (k : ℕ) (hk : k = 1074) :
      (exactUnits c : ℚ) * 10 ^ (-(k : ℤ)) = units c / 2 ^ k := by
    rw [exactUnits, ← hk]
    exact cast_mul_five_pow (units c) k
  rw [magnitude_eq, cast_unitsOfOne, ← hexact 1074 rfl]
  rfl

/-- **The shortest decimal of a double is read as the double.** -/
theorem code_shortest (tie : Tie) {c : Nat} (hc : c ≤ infinityCode) :
    (shortest tie c).code = c := by
  rcases shortest_cases tie c with ⟨_, _, _, hcode, _⟩ | hexact
  · exact hcode
  · rw [hexact, Decimal.code]
    exact codeOfDecimal_of_eq_magnitude hc (exactUnits_eq_magnitude c)

/-- The exponent of a shortest decimal is not far from zero, but for the exact decimal not farther
than it has digits. -/
theorem exponent_shortest (tie : Tie) {c : Nat} (hpos : 0 < c) (hc : c < infinityCode) :
    -(((Nat.toDigits 10 (shortest tie c).digits).length : ℤ) + 400) ≤ (shortest tie c).exponent ∧
      (shortest tie c).exponent ≤ 400 := by
  obtain ⟨hlower, hupper⟩ := length_exactUnits hpos hc
  rcases shortest_cases tie c with ⟨count, hone, hcount, -, hmem⟩ | hexact
  · rcases exponent_of_mem_neighbours hmem with h | h <;> omega
  · rw [hexact]
    dsimp only
    omega

/-! ## Powers of ten -/

section Powers

/-- The weight of the leading digit of a decimal, as a power of ten. -/
def Decimal.power (d : Decimal) : ℤ :=
  d.exponent + Int.ofNat ((Nat.toDigits 10 d.digits).length - 1)

variable {d : Decimal}

theorem Decimal.ten_zpow_power_le (h : 0 < d.digits) :
    (10 : ℚ) ^ d.power ≤ d.digits * 10 ^ d.exponent := by
  have hlength : 10 ^ ((Nat.toDigits 10 d.digits).length - 1) ≤ d.digits := by
    by_contra hlt
    rw [Nat.not_le] at hlt
    have hpos : 0 < (Nat.toDigits 10 d.digits).length - 1 := by
      rw [Nat.pos_iff_ne_zero]
      intro hzero
      rw [hzero, Nat.pow_zero] at hlt
      omega
    have hle := (Nat.length_toDigits_le_iff (by decide) hpos).2 hlt
    omega
  rw [power, zpow_add₀ (by norm_num), mul_comm, Int.ofNat_eq_natCast, zpow_natCast]
  apply mul_le_mul_of_nonneg_right _ (by positivity)
  exact_mod_cast hlength

theorem Decimal.lt_ten_zpow_power (d : Decimal) :
    (d.digits : ℚ) * 10 ^ d.exponent < 10 ^ (d.power + 1) := by
  have hpos : 0 < (Nat.toDigits 10 d.digits).length := List.length_pos_of_ne_nil Nat.toDigits_ne_nil
  have hlength : d.digits < 10 ^ (Nat.toDigits 10 d.digits).length :=
    (Nat.length_toDigits_le_iff (by decide) hpos).1 le_rfl
  have hpower : d.power + 1 = ((Nat.toDigits 10 d.digits).length : ℤ) + d.exponent := by
    rw [power, Int.ofNat_eq_natCast]
    omega
  rw [hpower, zpow_add₀ (by norm_num), zpow_natCast]
  apply mul_lt_mul_of_pos_right _ (by positivity)
  exact_mod_cast hlength

/-- **The leading digit of the shortest decimal tells a magnitude from a power of ten**, if the double
nearest to the power is not below it and is written as the power. -/
theorem ten_zpow_le_magnitude_iff {tie : Tie} {c : Nat} {k : ℤ}
    (hpower : shortest tie (codeOfDecimal 1 k) = ⟨1, k⟩)
    (hnearest : (10 : ℚ) ^ k ≤ magnitude (codeOfDecimal 1 k)) (hpos : 0 < c)
    (hc : c ≤ infinityCode) : (10 : ℚ) ^ k ≤ magnitude c ↔ k ≤ (shortest tie c).power := by
  have hread := code_shortest tie hc
  have hexact := codeOfDecimal_of_eq_magnitude hc (exactUnits_eq_magnitude c)
  constructor
  · intro hle
    by_contra hlt
    rw [not_le] at hlt
    have hbelow : codeOfDecimal (shortest tie c).digits (shortest tie c).exponent ≤
        codeOfDecimal 1 k := by
      apply codeOfDecimal_le_codeOfDecimal
      rw [Nat.cast_one, one_mul]
      exact (Decimal.lt_ten_zpow_power _).le.trans (zpow_le_zpow_right₀ (by norm_num) hlt)
    have habove : codeOfDecimal 1 k ≤ codeOfDecimal (exactUnits c) (-1074) := by
      apply codeOfDecimal_le_codeOfDecimal
      rw [Nat.cast_one, one_mul, exactUnits_eq_magnitude]
      exact hle
    have hsame : codeOfDecimal 1 k = c :=
      (habove.trans hexact.le).antisymm (hread.ge.trans hbelow)
    rw [← hsame, hpower, Decimal.power] at hlt
    exact absurd hlt (not_lt.2 (le_add_of_nonneg_right (Int.natCast_nonneg _)))
  · intro hle
    have hdigits : 0 < (shortest tie c).digits := by
      rw [Nat.pos_iff_ne_zero]
      intro hzero
      rw [Decimal.code, hzero] at hread
      rw [codeOfDecimal_zero] at hread
      omega
    have hcode : codeOfDecimal 1 k ≤ c := by
      rw [← hread]
      apply codeOfDecimal_le_codeOfDecimal
      rw [Nat.cast_one, one_mul]
      exact (zpow_le_zpow_right₀ (by norm_num) hle).trans (Decimal.ten_zpow_power_le hdigits)
    exact hnearest.trans (magnitude_le_magnitude hcode hc)

end Powers

end RecordQuery.Binary64
