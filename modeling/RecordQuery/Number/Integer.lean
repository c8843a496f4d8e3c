/-!
# Integers in decimal

* `intText n` writes an integer.
* `readNat?` reads one digit or more; `readInt?` allows one sign before them.
* `readInt64?`, `readUInt16?`: the same within the range of a word.

`readInt?_intText`: what is written reads back.
-/

namespace RecordQuery.Number

/-- The number that a run of digits denotes. -/
def ofDigits (text : List Char) : Nat :=
  Nat.ofDigitChars 10 text 0

def readNat? (text : List Char) : Option Nat :=
  if text.isEmpty || !text.all Char.isDigit then none else some (ofDigits text)

/-- Reads an integer: digits after at most one sign. -/
def readInt? : List Char → Option Int
  | '-' :: text => (readNat? text).map fun n => -Int.ofNat n
  | '+' :: text => (readNat? text).map Int.ofNat
  | text => (readNat? text).map Int.ofNat

/-- The decimal text of an integer, without leading zeros. -/
def intText : Int → List Char
  | .ofNat n => Nat.toDigits 10 n
  | .negSucc n => '-' :: Nat.toDigits 10 (n + 1)

/-- The integer as a word, if it is in range. -/
def toInt64? (n : Int) : Option Int64 :=
  if Int64.minValue.toInt ≤ n ∧ n ≤ Int64.maxValue.toInt then some (Int64.ofInt n) else none

def readInt64? (text : List Char) : Option Int64 :=
  (readInt? text).bind toInt64?

/-- Reads an unsigned 16-bit integer; a plus sign is allowed before it. -/
def readUInt16? (text : List Char) : Option UInt16 :=
  let unsigned := match text with
    | '+' :: rest => rest
    | _ => text
  (readNat? unsigned).bind fun n => if n < UInt16.size then some (UInt16.ofNat n) else none

/-! ## Writing and reading -/

theorem all_isDigit_toDigits (n : Nat) : (Nat.toDigits 10 n).all Char.isDigit = true :=
  List.all_eq_true.2 fun _ hc => Nat.isDigit_of_mem_toDigits (by decide) (by decide) hc

@[simp] theorem readNat?_toDigits (n : Nat) : readNat? (Nat.toDigits 10 n) = some n := by
  simp [readNat?, ofDigits, Nat.toDigits_ne_nil, all_isDigit_toDigits, -List.all_eq_true]

theorem readInt?_of_all_isDigit {text : List Char} (h : text.all Char.isDigit = true) :
    readInt? text = (readNat? text).map Int.ofNat := by
  unfold readInt?
  split
  · simp at h
  · simp at h
  · rfl

theorem readInt?_intText (n : Int) : readInt? (intText n) = some n := by
  cases n with
  | ofNat n => simp [intText, readInt?_of_all_isDigit (all_isDigit_toDigits n)]
  | negSucc n => simp [intText, readInt?, Int.negSucc_eq]

end RecordQuery.Number
