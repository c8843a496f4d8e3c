import RecordQuery.Proofs.Literal.Spelling
import RecordQuery.Proofs.Number.Nearest

/-!
# The numbers that numerals denote

* `Number.numeralValue`: the rational number that a numeral denotes.
* `Number.isNumeral_iff`: the two forms of numerals.
* `Number.readInt?_of_isIntegerNumeral`: an integer numeral is read as the number that it denotes.
* `Number.readFloat?_of_isNumeral`: any numeral is read as a double nearest to its number.
-/

namespace RecordQuery.Number

/-- The number that a numeral without a sign denotes: its whole part and its fraction. -/
def unsignedValue (text : List Char) : ℚ :=
  let fraction := (text.dropWhile Char.isDigit).drop 1
  ofDigits (text.takeWhile Char.isDigit) + ofDigits fraction / 10 ^ fraction.length

def numeralValue (text : List Char) : ℚ :=
  if text.head? = some '-' then -unsignedValue (withoutMinus text)
  else unsignedValue (withoutMinus text)

theorem unsignedValue_nonneg (text : List Char) : 0 ≤ unsignedValue text := by
  unfold unsignedValue
  positivity

theorem abs_numeralValue (text : List Char) :
    |numeralValue text| = unsignedValue (withoutMinus text) := by
  unfold numeralValue
  split
  · rw [abs_neg, abs_of_nonneg (unsignedValue_nonneg _)]
  · exact abs_of_nonneg (unsignedValue_nonneg _)

/-! ## Runs of digits -/

section Digits

variable {digits rest : List Char}

theorem all_of_isDigits (h : isDigits digits = true) : digits.all Char.isDigit = true := by
  simp only [isDigits, Bool.and_eq_true] at h
  exact h.2

theorem ne_nil_of_isDigits (h : isDigits digits = true) : digits ≠ [] := by
  rintro rfl
  cases h

theorem isDigits_iff : isDigits digits = true ↔ digits ≠ [] ∧ digits.all Char.isDigit = true :=
  ⟨fun h => ⟨ne_nil_of_isDigits h, all_of_isDigits h⟩, fun ⟨hne, hall⟩ => by
    simp [isDigits, hne, hall, -List.all_eq_true]⟩

theorem exists_cons_of_isDigits (h : isDigits digits = true) :
    ∃ c rest, digits = c :: rest ∧ c.isDigit = true := by
  obtain ⟨c, rest, rfl⟩ := List.exists_cons_of_ne_nil (ne_nil_of_isDigits h)
  exact ⟨c, rest, rfl, mem_of_isDigits h List.mem_cons_self⟩

/-- What comes after a run of digits does not go on with one. -/
def StopsDigits (rest : List Char) : Prop :=
  ∀ c ∈ rest.head?, c.isDigit = false

theorem stopsDigits_nil : StopsDigits [] := by
  intro c hc
  cases hc

theorem stopsDigits_cons {c : Char} (h : c.isDigit = false) : StopsDigits (c :: rest) := by
  intro d hd
  cases hd
  exact h

theorem takeWhile_isDigit_append (hdigits : digits.all Char.isDigit = true)
    (hrest : StopsDigits rest) : (digits ++ rest).takeWhile Char.isDigit = digits := by
  rw [List.takeWhile_append_of_pos (List.all_eq_true.1 hdigits)]
  cases rest with
  | nil => exact List.append_nil digits
  | cons c rest => rw [List.takeWhile_cons_of_neg (by simp [hrest c rfl]), List.append_nil]

theorem dropWhile_isDigit_append (hdigits : digits.all Char.isDigit = true)
    (hrest : StopsDigits rest) : (digits ++ rest).dropWhile Char.isDigit = rest := by
  rw [List.dropWhile_append_of_pos (List.all_eq_true.1 hdigits)]
  cases rest with
  | nil => rfl
  | cons c rest => rw [List.dropWhile_cons_of_neg (by simp [hrest c rfl])]

theorem takeWhile_isDigit (hdigits : digits.all Char.isDigit = true) :
    digits.takeWhile Char.isDigit = digits := by
  simpa using takeWhile_isDigit_append hdigits stopsDigits_nil

theorem dropWhile_isDigit (hdigits : digits.all Char.isDigit = true) :
    digits.dropWhile Char.isDigit = [] := by
  simpa using dropWhile_isDigit_append hdigits stopsDigits_nil

theorem ofDigits_append (text text' : List Char) :
    ofDigits (text ++ text') = 10 ^ text'.length * ofDigits text + ofDigits text' := by
  unfold ofDigits
  rw [Nat.ofDigitChars_append, Nat.ofDigitChars_eq_ofDigitChars_zero]

end Digits

/-! ## Forms -/

section Forms

variable {text whole fraction rest : List Char}

/-- The digits of a decimal, with a point before its fraction if it has one. -/
def pointed (whole fraction : List Char) : List Char :=
  if fraction = [] then whole else whole ++ '.' :: fraction

theorem eq_withoutMinus (text : List Char) :
    text = '-' :: withoutMinus text ∨ text.head? ≠ some '-' ∧ withoutMinus text = text := by
  unfold withoutMinus
  split
  next => exact .inl rfl
  next hminus =>
    refine .inr ⟨fun hhead => ?_, rfl⟩
    obtain ⟨rest, rfl⟩ := List.head?_eq_some_iff.1 hhead
    exact hminus rest rfl

theorem withoutMinus_of_isDigits (hwhole : isDigits whole = true) :
    withoutMinus (whole ++ rest) = whole ++ rest := by
  obtain ⟨c, whole, rfl, hdigit⟩ := exists_cons_of_isDigits hwhole
  rw [List.cons_append]
  unfold withoutMinus
  split
  next heq => rw [(List.cons.inj heq).1] at hdigit; cases hdigit
  next => rfl

theorem pointed_nil (whole : List Char) : pointed whole [] = whole := if_pos rfl

theorem pointed_of_ne_nil (whole : List Char) (h : fraction ≠ []) :
    pointed whole fraction = whole ++ '.' :: fraction := if_neg h

theorem exists_pointed_eq_append (whole fraction : List Char) :
    ∃ rest, pointed whole fraction = whole ++ rest := by
  unfold pointed
  split
  · exact ⟨[], (List.append_nil whole).symm⟩
  · exact ⟨_, rfl⟩

theorem isNumeral_iff : isNumeral text = true ↔
    ∃ whole fraction, isDigits whole = true ∧ fraction.all Char.isDigit = true ∧
      withoutMinus text = pointed whole fraction := by
  constructor
  · intro h
    have hsplit := List.takeWhile_append_dropWhile (p := Char.isDigit) (l := withoutMinus text)
    unfold isNumeral at h
    dsimp only at h
    split at h
    next hnil =>
      rw [hnil, List.append_nil] at hsplit
      exact ⟨_, [], h, rfl, by rw [pointed_nil, hsplit]⟩
    next fraction hpoint =>
      rw [Bool.and_eq_true] at h
      refine ⟨_, fraction, h.1, all_of_isDigits h.2, ?_⟩
      rw [pointed_of_ne_nil _ (ne_nil_of_isDigits h.2), ← hpoint, hsplit]
    next => cases h
  · rintro ⟨whole, fraction, hwhole, hfraction, htext⟩
    have hall := all_of_isDigits hwhole
    unfold isNumeral
    dsimp only
    rw [htext]
    by_cases hnil : fraction = []
    · rw [hnil, pointed_nil, dropWhile_isDigit hall, takeWhile_isDigit hall]
      exact hwhole
    · have hstops : StopsDigits ('.' :: fraction) := stopsDigits_cons (by decide)
      rw [pointed_of_ne_nil whole hnil, takeWhile_isDigit_append hall hstops,
        dropWhile_isDigit_append hall hstops]
      simp [hwhole, isDigits_iff.2 ⟨hnil, hfraction⟩]

theorem unsignedValue_pointed (hwhole : whole.all Char.isDigit = true)
    (fraction : List Char) : unsignedValue (pointed whole fraction) =
      ofDigits (whole ++ fraction) * 10 ^ (-(fraction.length : ℤ)) := by
  unfold unsignedValue
  by_cases hnil : fraction = []
  · rw [hnil, pointed_nil, takeWhile_isDigit hwhole, dropWhile_isDigit hwhole]
    simp [ofDigits]
  · have hstops : StopsDigits ('.' :: fraction) := stopsDigits_cons (by decide)
    rw [pointed_of_ne_nil whole hnil, takeWhile_isDigit_append hwhole hstops,
      dropWhile_isDigit_append hwhole hstops, List.drop_one, List.tail_cons, ofDigits_append,
      Nat.cast_add, Nat.cast_mul, Nat.cast_pow, Nat.cast_ofNat, zpow_neg, zpow_natCast]
    field_simp

end Forms

/-! ## Reading -/

section Reading

variable {text whole fraction rest : List Char} {exponent : ℤ}

theorem nearestFloat_eq (negative : Bool) (digits : Nat) {length : Nat}
    (hlower : -((length : ℤ) + 400) ≤ exponent) (hupper : exponent ≤ length + 400) :
    nearestFloat negative digits exponent length =
      Binary64.ofCode negative (Binary64.codeOfDecimal digits exponent) := by
  unfold nearestFloat
  dsimp only
  rw [Int.ofNat_eq_natCast, min_eq_right hupper, max_eq_right hlower]

theorem readMagnitude?_pointed (negative : Bool) (rest : List Char)
    (hwhole : isDigits whole = true) (hfraction : fraction.all Char.isDigit = true)
    (hrest : StopsDigits rest) (hpoint : rest.head? ≠ some '.')
    (hexponent : readExponent? rest = some exponent) :
    readMagnitude? negative (pointed whole fraction ++ rest) =
      some (nearestFloat negative (ofDigits (whole ++ fraction)) (exponent - fraction.length)
        (whole.length + fraction.length)) := by
  have hall := all_of_isDigits hwhole
  have hempty : ¬(whole.isEmpty && fraction.isEmpty) = true := by simp [ne_nil_of_isDigits hwhole]
  unfold readMagnitude?
  by_cases hnil : fraction = []
  · subst hnil
    rw [pointed_nil, takeWhile_isDigit_append hall hrest, dropWhile_isDigit_append hall hrest]
    dsimp only
    split
    next => exact absurd rfl hpoint
    next =>
      rw [hexponent, List.takeWhile_nil, if_neg hempty]
      rfl
  · have hstops : StopsDigits ('.' :: (fraction ++ rest)) := stopsDigits_cons (by decide)
    rw [pointed_of_ne_nil whole hnil, List.append_assoc, List.cons_append,
      takeWhile_isDigit_append hall hstops, dropWhile_isDigit_append hall hstops]
    simp only
    rw [takeWhile_isDigit_append hfraction hrest, dropWhile_isDigit_append hfraction hrest, hexponent,
      if_neg hempty]
    rfl

theorem readUnsigned?_of_isDigits (negative : Bool) (hwhole : isDigits whole = true) :
    readUnsigned? negative (whole ++ rest) = readMagnitude? negative (whole ++ rest) := by
  obtain ⟨c, whole, rfl, hdigit⟩ := exists_cons_of_isDigits hwhole
  have hlower : c.toLower.isDigit = true :=
    Text.forall_ascii (p := fun c => c.isDigit = true → c.toLower.isDigit = true)
      (by decide +kernel) (val_lt_of_isDigit hdigit) hdigit
  have hname (name : String) (hfirst : name.toList.head?.map Char.isDigit = some false) :
      (String.ofList (((c :: whole) ++ rest).map Char.toLower) == name) = false := by
    rw [beq_eq_false_iff_ne]
    rintro rfl
    simp [hlower] at hfirst
  unfold readUnsigned?
  dsimp only
  rw [hname "inf" (by decide), hname "infinity" (by decide), hname "nan" (by decide)]
  rfl

theorem readFloat?_of_isDigits (hwhole : isDigits whole = true) :
    readFloat? (whole ++ rest) = readUnsigned? false (whole ++ rest) := by
  obtain ⟨c, whole, rfl, hdigit⟩ := exists_cons_of_isDigits hwhole
  rw [List.cons_append]
  unfold readFloat?
  split
  next heq => rw [(List.cons.inj heq).1] at hdigit; cases hdigit
  next heq => rw [(List.cons.inj heq).1] at hdigit; cases hdigit
  next => rfl

theorem readUnsigned?_pointed (negative : Bool) {digits : Nat} (hwhole : isDigits whole = true)
    (hfraction : fraction.all Char.isDigit = true)
    (hvalue : (digits : ℚ) * 10 ^ exponent = unsignedValue (pointed whole fraction)) :
    readUnsigned? negative (pointed whole fraction) =
      some (Binary64.ofCode negative (Binary64.codeOfDecimal digits exponent)) := by
  have hread := readMagnitude?_pointed negative [] hwhole hfraction stopsDigits_nil
    (by simp) rfl
  rw [nearestFloat_eq negative _ (by omega) (by omega), List.append_nil] at hread
  obtain ⟨rest, hrest⟩ := exists_pointed_eq_append whole fraction
  rw [unsignedValue_pointed (all_of_isDigits hwhole)] at hvalue
  rw [hrest, readUnsigned?_of_isDigits negative hwhole, ← hrest, hread]
  congr 2
  apply Binary64.codeOfDecimal_congr
  rw [hvalue, zero_sub]

/-- **A numeral is read as a double nearest to the number that it denotes**, on its side of zero. Where
infinity is nearest it counts as the power of two that comes after all finite doubles. -/
theorem readFloat?_of_isNumeral (h : isNumeral text = true) :
    ∃ x, readFloat? text = some x ∧ Binary64.isNegative x = (text.head? = some '-' : Bool) ∧
      Binary64.code x ≤ Binary64.infinityCode ∧
      ∀ c ≤ Binary64.infinityCode,
        |Binary64.magnitude (Binary64.code x) - (|numeralValue text|)| ≤
          |Binary64.magnitude c - (|numeralValue text|)| := by
  obtain ⟨whole, fraction, hwhole, hfraction, htext⟩ := isNumeral_iff.1 h
  have hvalue := unsignedValue_pointed (all_of_isDigits hwhole) fraction
  have hcode := Binary64.codeOfDecimal_le (ofDigits (whole ++ fraction)) (-(fraction.length : ℤ))
  refine ⟨Binary64.ofCode (text.head? = some '-') (Binary64.codeOfDecimal
    (ofDigits (whole ++ fraction)) (-(fraction.length : ℤ))), ?_, ?_, ?_, fun c hc => ?_⟩
  · rw [← readUnsigned?_pointed _ hwhole hfraction hvalue.symm, ← htext]
    rcases eq_withoutMinus text with hminus | ⟨hhead, hsame⟩
    · rw [hminus]
      rfl
    · obtain ⟨rest, hrest⟩ := exists_pointed_eq_append whole fraction
      rw [decide_eq_false hhead, htext, hrest, ← readFloat?_of_isDigits hwhole, ← hrest, ← htext,
        hsame]
  · exact Binary64.isNegative_ofCode _ hcode
  · rw [Binary64.code_ofCode _ hcode]
    exact hcode
  · rw [Binary64.code_ofCode _ hcode, abs_numeralValue, htext, hvalue]
    exact Binary64.abs_codeOfDecimal_le _ _ hc

theorem readInt?_of_isIntegerNumeral (h : isIntegerNumeral text = true) :
    ∃ n, readInt? text = some n ∧ (n : ℚ) = numeralValue text := by
  have hall := all_of_isDigits h
  have hread : readNat? (withoutMinus text) = some (ofDigits (withoutMinus text)) := by
    simp [readNat?, hall, ne_nil_of_isDigits h, -List.all_eq_true]
  have hvalue : unsignedValue (withoutMinus text) = ofDigits (withoutMinus text) := by
    simpa [pointed_nil] using unsignedValue_pointed hall []
  rcases eq_withoutMinus text with hminus | ⟨hhead, hsame⟩
  · refine ⟨-Int.ofNat (ofDigits (withoutMinus text)), ?_, ?_⟩
    · rw [hminus]
      show (readNat? (withoutMinus text)).map _ = _
      rw [hread]
      rfl
    · rw [numeralValue, if_pos (by rw [hminus]; rfl), hvalue]
      simp
  · refine ⟨Int.ofNat (ofDigits (withoutMinus text)), ?_, ?_⟩
    · rw [hsame] at hread hall ⊢
      rw [readInt?_of_all_isDigit hall, hread]
      rfl
    · rw [numeralValue, if_neg hhead, hvalue]
      simp

end Reading

end RecordQuery.Number
