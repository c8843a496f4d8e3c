import RecordQuery.Number.Binary64

/-!
# Shortest decimals

`shortest tie c` is a decimal with the fewest digits that is read back as the double with code `c`,
and of several such decimals the nearest to it; `tie` decides between two that are equally near.

Every double is an integer multiple of `10 ^ -1074`, so its exact decimal is at hand: on each grid
of decimals with a given number of digits only the neighbours below and above the exact value need
a test.
-/

namespace RecordQuery.Binary64

/-- The number `digits * 10 ^ exponent`. -/
structure Decimal where
  digits : Nat
  exponent : Int
deriving DecidableEq, Repr

/-- The double code that a decimal is read as. -/
def Decimal.code (d : Decimal) : Nat :=
  codeOfDecimal d.digits d.exponent

/-- The exact value of the magnitude with code `c`, in units of `10 ^ -1074`. -/
def exactUnits (c : Nat) : Nat :=
  units c * Nat.pow 5 1074

/-- The decimal `digits * 10 ^ exponent` with one digit less if the digits are a power of ten that
has just overflowed `count` digits. -/
def Decimal.fit (count digits : Nat) (exponent : Int) : Decimal :=
  if digits = Nat.pow 10 count then ⟨Nat.pow 10 (count - 1), exponent + 1⟩ else ⟨digits, exponent⟩

/-- Which of two decimals stands for a number half way between them. -/
inductive Tie where
  /-- The upper one. -/
  | up
  /-- The one whose last digit is even. -/
  | even
deriving DecidableEq, Repr

/-- Whether a number half way between `digits` and `digits + 1` goes to the upper one. -/
def Tie.takesUpper (tie : Tie) (digits : Nat) : Bool :=
  match tie with
  | up => true
  | even => digits % 2 == 1

/-- The neighbours of `exact * 10 ^ -1074` among the decimals with `count` digits, the nearer one
first, and half way between them the one that the tie goes to. -/
def neighbours (tie : Tie) (exact length count : Nat) : List Decimal :=
  let step := Nat.pow 10 (length - count)
  let exponent : Int := Int.ofNat (length - count) - 1074
  let below := Decimal.fit count (exact / step) exponent
  let above := Decimal.fit count (exact / step + 1) exponent
  let takesAbove :=
    if 2 * (exact % step) = step then tie.takesUpper (exact / step)
    else step < 2 * (exact % step)
  if takesAbove then [above, below] else [below, above]

/-- The shortest decimal for the magnitude with code `c`. Seventeen digits always suffice for a
double; the exact value stands last so that every code has an answer. -/
def shortest (tie : Tie) (c : Nat) : Decimal :=
  let exact := exactUnits c
  let length := (Nat.toDigits 10 exact).length
  let candidates := (List.range 17).flatMap fun n => neighbours tie exact length (n + 1)
  (candidates.find? fun d => d.code == c).getD ⟨exact, -1074⟩

example : shortest .up (codeOfDecimal 1 (-1)) = ⟨1, -1⟩ := by decide +kernel
example : shortest .even (codeOfDecimal 30000000000000004 (-17)) = ⟨30000000000000004, -17⟩ := by
  decide +kernel
example : shortest .up 1 = ⟨5, -324⟩ := by decide +kernel
example : (shortest .up (codeOfDecimal 56294995342131225 (-2))).digits = 5629499534213123 := by
  decide +kernel
example : (shortest .even (codeOfDecimal 56294995342131225 (-2))).digits = 5629499534213122 := by
  decide +kernel

end RecordQuery.Binary64
