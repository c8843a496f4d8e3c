import RecordQuery.Number.Notation
import RecordQuery.Proofs.Number.Numeral
import RecordQuery.Proofs.Number.Shortest

/-!
# Doubles read back

* `Number.exists_positional`, `Number.exists_scientific`: the two layouts of a decimal, in parts.
* `Number.readUnsigned?_layout`: a decimal is read as the double that it stands for.
* `Number.readFloat?_text`: what a finite double is written as is read as the double, in any
  notation.
-/

namespace RecordQuery.Number

open Binary64 (Decimal Tie)

/-! ## Digits -/

section Digits

variable {text text' : List Char}

theorem isDigits_append (h : isDigits text = true) (h' : text'.all Char.isDigit = true) :
    isDigits (text ++ text') = true := by
  rw [isDigits_iff, List.all_append, all_of_isDigits h, h']
  exact ⟨List.append_ne_nil_of_left_ne_nil (ne_nil_of_isDigits h) _, rfl⟩

theorem all_isDigit_replicate (n : Nat) : (List.replicate n '0').all Char.isDigit = true := by
  rw [List.all_eq_true]
  intro c hc
  rw [List.eq_of_mem_replicate hc]
  rfl

theorem ofDigits_append_replicate (text : List Char) (n : Nat) :
    ofDigits (text ++ List.replicate n '0') = ofDigits text * 10 ^ n := by
  unfold ofDigits
  rw [Nat.ofDigitChars_append, Nat.ofDigitChars_replicate_zero, Nat.mul_comm]

theorem ofDigits_replicate_append (n : Nat) (text : List Char) :
    ofDigits (List.replicate n '0' ++ text) = ofDigits text := by
  unfold ofDigits
  rw [Nat.ofDigitChars_append, Nat.ofDigitChars_replicate_zero, Nat.mul_zero]

theorem ofDigits_toDigits (n : Nat) : ofDigits (Nat.toDigits 10 n) = n :=
  Nat.ofDigitChars_ten_toDigits

end Digits

/-! ## Layouts -/

section Layouts

variable (style : Notation) {text : List Char}

theorem layout_eq (d : Decimal) :
    style.layout d =
      if style.isPositional d.power then style.positional (Nat.toDigits 10 d.digits) d.exponent
      else style.scientific (Nat.toDigits 10 d.digits) d.power := rfl

theorem exists_positional (h : isDigits text = true) (exponent : ℤ) :
    ∃ whole fraction, isDigits whole = true ∧ fraction.all Char.isDigit = true ∧
      style.positional text exponent = pointed whole fraction ∧
      (ofDigits (whole ++ fraction) : ℚ) * 10 ^ (-(fraction.length : ℤ)) =
        ofDigits text * 10 ^ exponent ∧
      (style.pointZero = true → fraction ≠ []) := by
  cases exponent with
  | ofNat zeros =>
    have hwhole := isDigits_append h (all_isDigit_replicate zeros)
    by_cases hzero : style.pointZero = true
    · refine ⟨_, ['0'], hwhole, rfl, ?_, ?_, by simp⟩
      · rw [Notation.positional, if_pos hzero, pointed_of_ne_nil _ (by simp)]
      · rw [List.append_assoc, ← List.replicate_succ', ofDigits_append_replicate]
        simp [pow_succ, ← mul_assoc]
    · refine ⟨_, [], hwhole, rfl, ?_, ?_, fun hpoint => absurd hpoint hzero⟩
      · rw [Notation.positional, if_neg hzero, List.append_nil, pointed_nil]
      · rw [List.append_nil, ofDigits_append_replicate]
        simp
  | negSucc places =>
    obtain ⟨padded, hpadded⟩ :
        ∃ padded, padded = List.replicate (places + 2 - text.length) '0' ++ text := ⟨_, rfl⟩
    have hlength : places + 2 ≤ padded.length := by
      rw [hpadded, List.length_append, List.length_replicate]
      omega
    have hall : padded.all Char.isDigit = true := by
      rw [hpadded, List.all_append, all_isDigit_replicate, all_of_isDigits h]
      rfl
    have hfraction : (padded.drop (padded.length - (places + 1))).length = places + 1 := by
      rw [List.length_drop]
      omega
    refine ⟨padded.take (padded.length - (places + 1)), padded.drop (padded.length - (places + 1)),
      isDigits_iff.2 ⟨?_, ?_⟩, ?_, ?_, ?_, fun _ => ?_⟩
    · rw [List.ne_nil_iff_length_pos, List.length_take]
      omega
    · exact List.all_eq_true.2 fun c hc => List.all_eq_true.1 hall c (List.mem_of_mem_take hc)
    · exact List.all_eq_true.2 fun c hc => List.all_eq_true.1 hall c (List.mem_of_mem_drop hc)
    · rw [pointed_of_ne_nil _ (List.ne_nil_of_length_pos (by omega)), hpadded]
      rfl
    · rw [List.take_append_drop, hfraction, hpadded, ofDigits_replicate_append, Int.negSucc_eq]
      norm_cast
    · exact List.ne_nil_of_length_pos (by omega)

theorem readInt?_signed (power : ℤ) :
    readInt? ((if style.plusSign && 0 ≤ power then ['+'] else []) ++ intText power) =
      some power := by
  split
  next hsign =>
    rw [Bool.and_eq_true, decide_eq_true_eq] at hsign
    obtain ⟨n, rfl⟩ := Int.eq_ofNat_of_zero_le hsign.2
    show (readNat? (Nat.toDigits 10 n)).map Int.ofNat = _
    rw [readNat?_toDigits]
    rfl
  next => exact readInt?_intText power

theorem exists_scientific (h : isDigits text = true) (power : ℤ) :
    ∃ whole fraction, isDigits whole = true ∧ fraction.all Char.isDigit = true ∧
      style.scientific text power = pointed whole fraction ++
        'e' :: ((if style.plusSign && 0 ≤ power then ['+'] else []) ++ intText power) ∧
      whole ++ fraction = text ∧ whole.length = 1 := by
  obtain ⟨first, tail, rfl, hfirst⟩ := exists_cons_of_isDigits h
  have htail : tail.all Char.isDigit = true := by
    have hall := all_of_isDigits h
    rw [List.all_cons, Bool.and_eq_true] at hall
    exact hall.2
  have hwhole : isDigits [first] = true := by
    simp [isDigits, hfirst]
  refine ⟨[first], tail, hwhole, htail, ?_, rfl, rfl⟩
  unfold Notation.scientific
  dsimp only
  rw [List.append_assoc, List.cons_append]
  cases tail with
  | nil => rfl
  | cons next tail => rfl

/-! ## Decimals -/

theorem isNumeral_positional (h : isDigits text = true) (exponent : ℤ) :
    isNumeral (style.positional text exponent) = true := by
  obtain ⟨whole, fraction, hwhole, hfraction, htext, -⟩ := exists_positional style h exponent
  obtain ⟨rest, hrest⟩ := exists_pointed_eq_append whole fraction
  refine isNumeral_iff.2 ⟨whole, fraction, hwhole, hfraction, ?_⟩
  rw [htext, hrest, withoutMinus_of_isDigits hwhole]

theorem isNumeral_scientific (h : isDigits text = true) (power : ℤ) :
    isNumeral (style.scientific text power) = false := by
  obtain ⟨whole, fraction, -, -, htext, -⟩ := exists_scientific style h power
  have hmark : 'e' ∈ style.scientific text power := by
    rw [htext]
    simp
  exact not_isNumeral hmark (by decide) (by decide) (by decide)

theorem readUnsigned?_positional (negative : Bool) (h : isDigits text = true) (exponent : ℤ) :
    readUnsigned? negative (style.positional text exponent) =
      some (Binary64.ofCode negative (Binary64.codeOfDecimal (ofDigits text) exponent)) := by
  obtain ⟨whole, fraction, hwhole, hfraction, htext, hvalue, -⟩ := exists_positional style h exponent
  rw [htext]
  apply readUnsigned?_pointed negative hwhole hfraction
  rw [unsignedValue_pointed (all_of_isDigits hwhole), hvalue]

/-- **A decimal is read as the double that it stands for**, if no power of ten is cut off for its
exponent. -/
theorem readUnsigned?_layout (negative : Bool) {d : Decimal}
    (hlower : -(((Nat.toDigits 10 d.digits).length : ℤ) + 400) ≤ d.exponent)
    (hupper : d.exponent ≤ 400) :
    readUnsigned? negative (style.layout d) = some (Binary64.ofCode negative d.code) := by
  have hdigits := isDigits_toDigits d.digits
  rw [layout_eq]
  split
  · rw [readUnsigned?_positional style negative hdigits, ofDigits_toDigits, Decimal.code]
  · obtain ⟨whole, fraction, hwhole, hfraction, htext, hjoin, hone⟩ :=
      exists_scientific style hdigits d.power
    have hlength : (Nat.toDigits 10 d.digits).length = whole.length + fraction.length := by
      rw [← hjoin, List.length_append]
    have hexponent : d.power - fraction.length = d.exponent := by
      rw [Decimal.power, Int.ofNat_eq_natCast]
      omega
    obtain ⟨tail, htail⟩ := exists_pointed_eq_append whole fraction
    have hmagnitude := readMagnitude?_pointed negative ('e' :: _) hwhole hfraction
      (stopsDigits_cons (by decide)) (by simp) (readInt?_signed style d.power)
    rw [hexponent, hjoin, ofDigits_toDigits, nearestFloat_eq negative _ (by omega) (by omega)]
      at hmagnitude
    rw [htail, List.append_assoc] at hmagnitude
    rw [htext, htail, List.append_assoc, readUnsigned?_of_isDigits negative hwhole, hmagnitude]
    rfl

end Layouts

/-! ## Doubles -/

section Doubles

variable (style : Notation)

theorem readUnsigned?_magnitude (negative : Bool) {c : Nat} (hc : c < Binary64.infinityCode) :
    readUnsigned? negative (style.magnitude c) = some (Binary64.ofCode negative c) := by
  unfold Notation.magnitude
  split
  next hzero =>
    have hcode : Binary64.codeOfDecimal (ofDigits ['0']) 0 = 0 := by decide +kernel
    rw [readUnsigned?_positional style negative (by decide), hcode, hzero]
  next hne =>
    obtain ⟨hlower, hupper⟩ := Binary64.exponent_shortest style.tie (Nat.pos_of_ne_zero hne) hc
    rw [readUnsigned?_layout style negative hlower hupper, Binary64.code_shortest _ hc.le]

theorem magnitude_cases (c : Nat) : ∃ text, isDigits text = true ∧
    ((∃ exponent, style.magnitude c = style.positional text exponent) ∨
      ∃ power, style.magnitude c = style.scientific text power) := by
  unfold Notation.magnitude
  split
  · exact ⟨['0'], by decide, .inl ⟨0, rfl⟩⟩
  · refine ⟨_, isDigits_toDigits (Binary64.shortest style.tie c).digits, ?_⟩
    rw [layout_eq]
    split
    · exact .inl ⟨_, rfl⟩
    · exact .inr ⟨_, rfl⟩

theorem exists_magnitude_eq_append (c : Nat) :
    ∃ whole rest, isDigits whole = true ∧ style.magnitude c = whole ++ rest := by
  obtain ⟨text, hdigits, ⟨exponent, htext⟩ | ⟨power, htext⟩⟩ := magnitude_cases style c
  · obtain ⟨whole, fraction, hwhole, -, hlayout, -⟩ := exists_positional style hdigits exponent
    obtain ⟨rest, hrest⟩ := exists_pointed_eq_append whole fraction
    exact ⟨whole, rest, hwhole, by rw [htext, hlayout, hrest]⟩
  · obtain ⟨whole, fraction, hwhole, -, hlayout, -⟩ := exists_scientific style hdigits power
    obtain ⟨rest, hrest⟩ := exists_pointed_eq_append whole fraction
    exact ⟨whole, _, hwhole, by rw [htext, hlayout, hrest, List.append_assoc]⟩

theorem text_of_isFinite {x : Float} (h : Binary64.isFinite x = true) :
    style.text x = if Binary64.isNegative x then '-' :: style.magnitude (Binary64.code x)
      else style.magnitude (Binary64.code x) := by
  have hcode : Binary64.code x < Binary64.infinityCode := of_decide_eq_true h
  unfold Notation.text
  dsimp only
  rw [if_neg (Nat.lt_asymm hcode), if_neg hcode.ne]

/-- **Finite doubles read back**, whatever notation they are written in. -/
theorem readFloat?_text {x : Float} (h : Binary64.isFinite x = true) :
    readFloat? (style.text x) = some x := by
  have hcode : Binary64.code x < Binary64.infinityCode := of_decide_eq_true h
  have hread := readUnsigned?_magnitude style (Binary64.isNegative x) hcode
  rw [Binary64.ofCode_code] at hread
  rw [text_of_isFinite style h]
  cases hsign : Binary64.isNegative x with
  | true =>
    rw [hsign] at hread
    exact hread
  | false =>
    rw [hsign] at hread
    obtain ⟨whole, rest, hwhole, htext⟩ := exists_magnitude_eq_append style (Binary64.code x)
    rw [if_neg Bool.false_ne_true, htext, readFloat?_of_isDigits hwhole, ← htext, hread]

end Doubles

end RecordQuery.Number
