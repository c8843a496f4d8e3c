import RecordQuery.Proofs.Token.Reading

/-!
# Literals as they are written

* `Literal.lexeme`: a string in single quotes, a number in decimal.
* `coerce_chars_lexeme`: what is written is read back as the literal that it was.
* `isString_coerce`: a text with a quote in it is read as a string.
-/

namespace RecordQuery

namespace Number

theorem mem_intText {n : Int} {c : Char} (h : c ∈ intText n) : c.isDigit = true ∨ c = '-' := by
  cases n with
  | ofNat n => exact .inl (List.all_eq_true.1 (all_isDigit_toDigits n) c h)
  | negSucc n =>
    rcases List.mem_cons.1 h with rfl | h
    · exact .inr rfl
    · exact .inl (List.all_eq_true.1 (all_isDigit_toDigits (n + 1)) c h)

theorem intText_ne_nil (n : Int) : intText n ≠ [] := by
  cases n with
  | ofNat n => exact Nat.toDigits_ne_nil
  | negSucc n => exact List.cons_ne_nil _ _

theorem val_lt_of_isDigit {c : Char} (h : c.isDigit = true) : c.val < 0x80 := by
  simp only [Char.isDigit, Bool.and_eq_true, decide_eq_true_eq] at h
  exact Nat.lt_of_le_of_lt h.2 (by decide)

theorem isWordChar_of_isDigit {c : Char} (h : c.isDigit = true) : isWordChar c = true :=
  Text.forall_ascii (p := fun c => c.isDigit = true → isWordChar c = true)
    (by decide +kernel) (val_lt_of_isDigit h) h

theorem isAlpha_of_mem_intText {n : Int} {c : Char} (h : c ∈ intText n) : c.isAlpha = false := by
  rcases mem_intText h with hdigit | rfl
  · exact Text.forall_ascii (p := fun c => c.isDigit = true → c.isAlpha = false)
      (by decide +kernel) (val_lt_of_isDigit hdigit) hdigit
  · decide

theorem isWordChar_of_mem_intText {n : Int} {c : Char} (h : c ∈ intText n) :
    isWordChar c = true := by
  rcases mem_intText h with hdigit | rfl
  · exact isWordChar_of_isDigit hdigit
  · decide

theorem isDigits_toDigits (n : Nat) : isDigits (Nat.toDigits 10 n) = true := by
  rw [isDigits, all_isDigit_toDigits]
  simp [Nat.toDigits_ne_nil]

theorem withoutMinus_toDigits (n : Nat) :
    withoutMinus (Nat.toDigits 10 n) = Nat.toDigits 10 n := by
  cases hdigits : Nat.toDigits 10 n with
  | nil => rfl
  | cons c rest =>
    have hc : c.isDigit = true := by
      have hall := all_isDigit_toDigits n
      rw [hdigits] at hall
      exact List.all_eq_true.1 hall c List.mem_cons_self
    unfold withoutMinus
    split
    next heq => obtain ⟨rfl, -⟩ := List.cons.inj heq; exact absurd hc (by decide)
    next => rfl

theorem isIntegerNumeral_intText (n : Int) : isIntegerNumeral (intText n) = true := by
  cases n with
  | ofNat n => rw [isIntegerNumeral, intText, withoutMinus_toDigits, isDigits_toDigits]
  | negSucc n => exact isDigits_toDigits (n + 1)

theorem readInt64?_intText (n : Int64) : readInt64? (intText n.toInt) = some n := by
  have hrange : Int64.minValue.toInt ≤ n.toInt ∧ n.toInt ≤ Int64.maxValue.toInt :=
    ⟨Int64.le_iff_toInt_le.1 (Int64.minValue_le n), Int64.le_iff_toInt_le.1 (Int64.le_maxValue n)⟩
  rw [readInt64?, readInt?_intText, Option.bind_some, toInt64?, if_pos hrange, Int64.ofInt_toInt]

theorem mem_of_isDigits {text : List Char} {c : Char} (h : isDigits text = true) (hc : c ∈ text) :
    c.isDigit = true := by
  simp only [isDigits, Bool.and_eq_true] at h
  exact List.all_eq_true.1 h.2 c hc

theorem mem_withoutMinus {text : List Char} {c : Char} (hc : c ∈ text) (hminus : c ≠ '-') :
    c ∈ withoutMinus text := by
  unfold withoutMinus
  split
  · exact (List.mem_cons.1 hc).resolve_left hminus
  · exact hc

theorem not_isIntegerNumeral {text : List Char} {c : Char} (hc : c ∈ text)
    (hdigit : c.isDigit = false) (hminus : c ≠ '-') : isIntegerNumeral text = false := by
  by_contra h
  have hmem := mem_of_isDigits (Bool.of_not_eq_false h) (mem_withoutMinus hc hminus)
  rw [hdigit] at hmem
  exact Bool.false_ne_true hmem

theorem not_isNumeral {text : List Char} {c : Char} (hc : c ∈ text)
    (hdigit : c.isDigit = false) (hminus : c ≠ '-') (hpoint : c ≠ '.') :
    isNumeral text = false := by
  have hmem := mem_withoutMinus hc hminus
  rw [← List.takeWhile_append_dropWhile (p := Char.isDigit) (l := withoutMinus text)] at hmem
  have hrest : c ∈ (withoutMinus text).dropWhile Char.isDigit := by
    refine (List.mem_append.1 hmem).resolve_left fun hwhole => ?_
    have hall := List.all_eq_true.1 List.all_takeWhile c hwhole
    rw [hdigit] at hall
    exact Bool.false_ne_true hall
  unfold isNumeral
  dsimp only
  split
  next hnil => rw [hnil] at hrest; cases hrest
  next fraction hfraction =>
    rw [hfraction] at hrest
    have hc' := (List.mem_cons.1 hrest).resolve_left hpoint
    by_contra h
    have hboth := Bool.of_not_eq_false h
    rw [Bool.and_eq_true] at hboth
    have hall := mem_of_isDigits hboth.2 hc'
    rw [hdigit] at hall
    exact Bool.false_ne_true hall
  next => rfl

end Number

namespace Literal

/-- What a literal is written as: a string in quotes, and any other literal as the word of its
text. -/
def lexeme : Literal → Lexeme
  | str text => .quoted text.toList true
  | literal => .word literal.text.toList

/-- Whether writing a literal loses nothing. A quote cannot stand in a string, and the text of a
double is not held to be exact. -/
def IsWritable : Literal → Prop
  | str text => quoteMark ∉ text.toList
  | int _ => True
  | float _ => False

instance : DecidablePred IsWritable
  | str _ => inferInstanceAs (Decidable (_ ∉ _))
  | int _ => inferInstanceAs (Decidable True)
  | float _ => inferInstanceAs (Decidable False)

/-! ## Reading back -/

theorem trim_intText (n : Int) : Text.trim (Number.intText n) = Number.intText n :=
  Text.trim_eq_self fun _ hc => isBlank_of_isWordChar (Number.isWordChar_of_mem_intText hc)

theorem trim_enclosed (body : List Char) :
    Text.trim (quoteMark :: (body ++ [quoteMark])) = quoteMark :: (body ++ [quoteMark]) :=
  Text.trim_enclosed (by decide) (by decide) body

theorem coerce_enclosed (body : List Char) :
    coerce (quoteMark :: (body ++ [quoteMark])) = str (String.ofList body) := by
  rw [coerce, trim_enclosed]
  simp [ofTrimmed, unquote?]

theorem coerce_intText (n : Int64) : coerce (Number.intText n.toInt) = int n := by
  have hunquote : unquote? (Number.intText n.toInt) = none := by
    cases htext : Number.intText n.toInt with
    | nil => rfl
    | cons c rest =>
      have hc : c ≠ quoteMark := by
        rintro rfl
        have hword := Number.isWordChar_of_mem_intText (htext ▸ List.mem_cons_self)
        exact absurd hword (by decide)
      simp [unquote?, hc]
  rw [coerce, trim_intText, ofTrimmed, hunquote]
  simp only [Number.isIntegerNumeral_intText, if_true, Number.readInt64?_intText]

theorem chars_lexeme_str (text : String) :
    (str text).lexeme.chars = quoteMark :: (text.toList ++ [quoteMark]) := rfl

theorem chars_lexeme_int (n : Int64) : (int n).lexeme.chars = Number.intText n.toInt := by
  simp [lexeme, text, Lexeme.chars]

theorem trim_chars_lexeme {literal : Literal} (h : literal.IsWritable) :
    Text.trim literal.lexeme.chars = literal.lexeme.chars := by
  cases literal with
  | str text => rw [chars_lexeme_str, trim_enclosed]
  | int n => rw [chars_lexeme_int, trim_intText]
  | float x => exact absurd h id

theorem coerce_chars_lexeme {literal : Literal} (h : literal.IsWritable) :
    coerce literal.lexeme.chars = literal := by
  cases literal with
  | str text => rw [chars_lexeme_str, coerce_enclosed, String.ofList_toList]
  | int n => rw [chars_lexeme_int, coerce_intText]
  | float x => exact absurd h id

theorem ofRaw_chars_lexeme {literal : Literal} (h : literal.IsWritable) :
    Assignment.ofRaw literal.lexeme.chars = { value := literal, text := literal.text } := by
  rw [Assignment.ofRaw, trim_chars_lexeme h, coerce_chars_lexeme h]
  cases literal with
  | str text => rfl
  | int n => rw [chars_lexeme_int]; rfl
  | float x => exact absurd h id

theorem isString_coerce {text : List Char} (h : quoteMark ∈ text) :
    (coerce text).isString = true := by
  have hmem : quoteMark ∈ Text.trim text := Text.mem_trim h (by decide)
  unfold coerce ofTrimmed
  split
  · rfl
  · rw [Number.not_isIntegerNumeral hmem (by decide) (by decide),
      Number.not_isNumeral hmem (by decide) (by decide) (by decide)]
    rfl

/-! ## The lexeme -/

theorem kind_lexeme (literal : Literal) :
    literal.lexeme.kind = .word ∨ literal.lexeme.kind = .quoted := by
  cases literal with
  | str text => exact .inr rfl
  | int n => exact .inl rfl
  | float x => exact .inl rfl

theorem isProper_lexeme {literal : Literal} (h : literal.IsWritable) :
    literal.lexeme.IsProper := by
  cases literal with
  | str text => exact h
  | int n =>
    have htext : (int n).text.toList = Number.intText n.toInt := chars_lexeme_int n
    simp only [lexeme, Lexeme.IsProper, htext]
    exact ⟨Number.intText_ne_nil _, fun c hc => Number.isWordChar_of_mem_intText hc⟩
  | float x => exact absurd h id

end Literal

end RecordQuery
