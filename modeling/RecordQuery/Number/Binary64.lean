/-!
# Doubles as scaled naturals

Every finite double is a natural number times `2 ^ -1074`, up to its sign.

* `code x`: the bits of `x` below the sign. The order of magnitudes is the order of codes; the
  code of infinity is `infinityCode` and the codes above it are not numbers.
* `units c`: the magnitude with code `c`, in units of `2 ^ -1074`.
* `nearestCode num den`: the code of the double nearest to `num / den` units, a tie going to the
  even code.
* `truncated x`: the integer part of `x`, cut off at the ends of the 64-bit integers.
-/

namespace RecordQuery.Binary64

/-- The weight of the sign bit. -/
def signWeight : Nat := 0x8000000000000000

/-- The weight of the lowest bit of the exponent, which is the number of fractions. -/
def exponentWeight : Nat := 0x10000000000000

/-- How many units make one. -/
def unitsOfOne : Nat := Nat.pow 2 1074

/-- The bits of a double below its sign. -/
def code (x : Float) : Nat :=
  x.toBits.toNat % signWeight

def isNegative (x : Float) : Bool :=
  signWeight ≤ x.toBits.toNat

/-- The code of infinity: all exponent bits set and no fraction. -/
def infinityCode : Nat := 0x7FF * exponentWeight

/-- The code of what is not a number: that of infinity with the highest bit of the fraction. -/
def notANumberCode : Nat := infinityCode + exponentWeight / 2

/-- The double with a sign and a code. -/
def ofCode (negative : Bool) (c : Nat) : Float :=
  Float.ofBits (UInt64.ofNat (if negative then signWeight + c else c))

/-- Whether a double is neither infinite nor not a number. -/
def isFinite (x : Float) : Bool :=
  code x < infinityCode

/-- The magnitude with a given code, in units of `2 ^ -1074`: the fraction alone below the least
normal number, else the fraction with its hidden bit, scaled by the exponent. -/
def units (c : Nat) : Nat :=
  if c < exponentWeight then c
  else (exponentWeight + c % exponentWeight) * Nat.pow 2 (c / exponentWeight - 1)

/-- The quotient rounded to the nearest integer, a tie going to the even one. -/
def roundHalfEven (num den : Nat) : Nat :=
  let quotient := num / den
  let twice := 2 * (num % den)
  if twice < den || (twice == den && quotient % 2 == 0) then quotient else quotient + 1

/-- The code of the double nearest to `num / den` units. The exponent is the one that leaves 53
bits of quotient; a carry out of the fraction moves into the exponent by itself. -/
def nearestCode (num den : Nat) : Nat :=
  let exponent := (num / den).log2 - 52
  min (exponent * exponentWeight + roundHalfEven num (den * Nat.pow 2 exponent)) infinityCode

/-- The code of the double nearest to `digits * 10 ^ exponent`. -/
def codeOfDecimal (digits : Nat) : Int → Nat
  | .ofNat exponent => nearestCode (digits * Nat.pow 10 exponent * unitsOfOne) 1
  | .negSucc exponent => nearestCode (digits * unitsOfOne) (Nat.pow 10 (exponent + 1))

def ofInt (n : Int) : Float :=
  ofCode (n < 0) (codeOfDecimal n.natAbs 0)

/-- The integer part of a double, cut off at the ends of the 64-bit integers; zero for what is not
a number. -/
def truncated (x : Float) : Int64 :=
  if infinityCode < code x then 0
  else
    let whole := if code x = infinityCode then signWeight else units (code x) / unitsOfOne
    if isNegative x then Int64.ofInt (-(min whole signWeight : Nat))
    else Int64.ofInt (min whole (signWeight - 1) : Nat)

example : codeOfDecimal 1 0 = 0x3FF * exponentWeight := by decide +kernel
example : codeOfDecimal 5 (-324) = 1 := by decide +kernel
example : codeOfDecimal 179769313486231580794 288 = infinityCode := by decide +kernel
example : truncated (ofCode true (codeOfDecimal 25 (-1))) = -2 := by decide +kernel

end RecordQuery.Binary64
