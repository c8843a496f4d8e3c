import RecordQuery.Number.Integer
import RecordQuery.Number.Binary64

/-!
# Reading doubles

* `readFloat?`: a decimal with an optional sign, point and exponent, or the name of infinity or of
  what is not a number; the value is the nearest double.
* `isIntegerNumeral`, `isNumeral`: the form of the numerals of statements, which have digits on both
  sides of a point and no exponent.
-/

namespace RecordQuery.Number

/-- The double nearest to `±digits * 10 ^ exponent`. Beyond the cut-off the result is zero or
infinity whatever the exponent, so the exponent is brought back to it before any power is taken. -/
def nearestFloat (negative : Bool) (digits : Nat) (exponent : Int) (length : Nat) : Float :=
  let cutOff : Int := Int.ofNat length + 400
  let exponent := max (-cutOff) (min cutOff exponent)
  Binary64.ofCode negative (Binary64.codeOfDecimal digits exponent)

/-- Reads the exponent of a decimal: nothing, or a mark and an integer. -/
def readExponent? : List Char → Option Int
  | [] => some 0
  | mark :: text => if mark == 'e' || mark == 'E' then readInt? text else none

/-- Reads a decimal without its sign: digits with a point anywhere among them, and an exponent. -/
def readMagnitude? (negative : Bool) (text : List Char) : Option Float :=
  let whole := text.takeWhile Char.isDigit
  let afterWhole := text.dropWhile Char.isDigit
  let afterPoint := match afterWhole with
    | '.' :: rest => rest
    | _ => []
  let fraction := afterPoint.takeWhile Char.isDigit
  let afterFraction := match afterWhole with
    | '.' :: rest => rest.dropWhile Char.isDigit
    | rest => rest
  if whole.isEmpty && fraction.isEmpty then none
  else
    (readExponent? afterFraction).map fun exponent =>
      let digits := ofDigits (whole ++ fraction)
      nearestFloat negative digits (exponent - fraction.length) (whole.length + fraction.length)

/-- Reads a double without its sign. Names count whatever the case of their letters. -/
def readUnsigned? (negative : Bool) (text : List Char) : Option Float :=
  let name := String.ofList (text.map Char.toLower)
  if name == "inf" || name == "infinity" then
    some (Binary64.ofCode negative Binary64.infinityCode)
  else if name == "nan" then some (Binary64.ofCode false Binary64.notANumberCode)
  else readMagnitude? negative text

def readFloat? : List Char → Option Float
  | '-' :: text => readUnsigned? true text
  | '+' :: text => readUnsigned? false text
  | text => readUnsigned? false text

/-- Whether a text is a run of at least one digit. -/
def isDigits (text : List Char) : Bool :=
  !text.isEmpty && text.all Char.isDigit

def withoutMinus : List Char → List Char
  | '-' :: text => text
  | text => text

/-- The form of an integer numeral: digits after at most one minus sign. -/
def isIntegerNumeral (text : List Char) : Bool :=
  isDigits (withoutMinus text)

/-- The form of a numeral: an integer numeral, or two runs of digits around a point. -/
def isNumeral (text : List Char) : Bool :=
  let unsigned := withoutMinus text
  let whole := unsigned.takeWhile Char.isDigit
  match unsigned.dropWhile Char.isDigit with
  | [] => isDigits whole
  | '.' :: fraction => isDigits whole && isDigits fraction
  | _ => false

end RecordQuery.Number
