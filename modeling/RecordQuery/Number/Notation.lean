import RecordQuery.Number.Integer
import RecordQuery.Number.Shortest

/-!
# Notations of doubles

A `Notation` says how the digits of a shortest decimal are laid out. Three are in use:

* `Notation.source`: numbers in statements and messages about them.
* `Notation.plain`: numbers shown as values, which never have an exponent.
* `Notation.json`: numbers in JSON.
-/

namespace RecordQuery.Number

open Binary64 (Decimal Tie)

/-- The decisions of a number format. The powers of ten whose multiples are written without an
exponent are those from `10 ^ least` to `10 ^ greatest`. -/
structure Notation where
  least : Option Int
  greatest : Option Int
  /-- Whether an integer keeps `.0` when it is written without an exponent. -/
  pointZero : Bool
  /-- Whether a positive exponent has a sign. -/
  plusSign : Bool
  /-- Which of two equally near shortest decimals is written. -/
  tie : Tie
  notANumber : String
  infinity : String
  negativeInfinity : String

/-- Numbers in statements: without an exponent from 0.0001 up to below 10^16. -/
def Notation.source : Notation where
  least := some (-4)
  greatest := some 15
  pointZero := true
  plusSign := false
  tie := .up
  notANumber := "NaN"
  infinity := "inf"
  negativeInfinity := "-inf"

/-- Numbers as values are shown: never with an exponent, integers without a point. -/
def Notation.plain : Notation where
  least := none
  greatest := none
  pointZero := false
  plusSign := false
  tie := .up
  notANumber := "NaN"
  infinity := "inf"
  negativeInfinity := "-inf"

/-- Numbers in JSON: without an exponent from 0.00001 up to below 10^16, and `null` for what JSON
has no number for. -/
def Notation.json : Notation where
  least := some (-5)
  greatest := some 15
  pointZero := true
  plusSign := true
  tie := .even
  notANumber := "null"
  infinity := "null"
  negativeInfinity := "null"

/-- Whether a number whose leading digit has weight `10 ^ power` is written without an exponent. -/
def Notation.isPositional (style : Notation) (power : Int) : Bool :=
  style.least.all (· ≤ power) && style.greatest.all (power ≤ ·)

/-- Digits laid out without an exponent, the last of them with weight `10 ^ exponent`. -/
def Notation.positional (style : Notation) (text : List Char) : Int → List Char
  | .ofNat zeros =>
    text ++ List.replicate zeros '0' ++ (if style.pointZero then ['.', '0'] else [])
  | .negSucc places =>
    let padded := List.replicate (places + 2 - text.length) '0' ++ text
    padded.take (padded.length - (places + 1)) ++ '.' ::
      padded.drop (padded.length - (places + 1))

/-- Digits laid out with an exponent, the first of them with weight `10 ^ power`. -/
def Notation.scientific (style : Notation) (text : List Char) (power : Int) : List Char :=
  let fraction := match text with
    | first :: next :: rest => first :: '.' :: next :: rest
    | short => short
  let sign := if style.plusSign && 0 ≤ power then ['+'] else []
  fraction ++ 'e' :: sign ++ intText power

def Notation.layout (style : Notation) (d : Decimal) : List Char :=
  let text := Nat.toDigits 10 d.digits
  let power := d.exponent + Int.ofNat (text.length - 1)
  if style.isPositional power then style.positional text d.exponent
  else style.scientific text power

/-- The text of a magnitude; zero is written as one digit. -/
def Notation.magnitude (style : Notation) (c : Nat) : List Char :=
  if c = 0 then style.positional ['0'] 0 else style.layout (Binary64.shortest style.tie c)

/-- The text of a double. Zero keeps its sign. -/
def Notation.text (style : Notation) (x : Float) : List Char :=
  let c := Binary64.code x
  if Binary64.infinityCode < c then style.notANumber.toList
  else if c = Binary64.infinityCode then
    if Binary64.isNegative x then style.negativeInfinity.toList else style.infinity.toList
  else if Binary64.isNegative x then '-' :: style.magnitude c
  else style.magnitude c

end RecordQuery.Number
