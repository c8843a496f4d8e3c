import RecordQuery.Json
import RecordQuery.Number.Integer
import RecordQuery.Number.Binary64

/-!
# Reading JSON

`Json.read?` reads a text that holds one value and nothing else. Containers may nest up to 127
deep. Of the members of an object with one name the last counts.

A number without fraction and exponent is an integer within the range of the 64-bit words. Any
other number is a double: its leading digits, as many as fit a word, times one power of ten. The
digits, the power and the product are each rounded to a double.
-/

namespace RecordQuery.Json

/-- Whether a character is a blank of JSON. -/
def isSpace (c : Char) : Bool :=
  c == ' ' || c == '\n' || c == '\t' || c == '\r'

/-- The text from its first character that is not a blank of JSON. -/
def skipSpace (text : List Char) : List Char :=
  text.dropWhile isSpace

def skip? : List Char → List Char → Option (List Char)
  | [], text => some text
  | _ :: _, [] => none
  | c :: cs, d :: text => if c == d then skip? cs text else none

/-! ## Strings -/

def hexValue? (c : Char) : Option Nat :=
  if c.isDigit then some (c.toNat - '0'.toNat)
  else if 'a' ≤ c ∧ c ≤ 'f' then some (c.toNat - 'a'.toNat + 10)
  else if 'A' ≤ c ∧ c ≤ 'F' then some (c.toNat - 'A'.toNat + 10)
  else none

def readUnit? : List Char → Option (Nat × List Char)
  | a :: b :: c :: d :: text => do
    let unit := 4096 * (← hexValue? a) + 256 * (← hexValue? b) + 16 * (← hexValue? c)
      + (← hexValue? d)
    return (unit, text)
  | _ => none

/-- Reads a character given by its code, in two halves if it lies beyond the first plane. -/
def readCode? (text : List Char) : Option (Char × List Char) := do
  let (unit, text) ← readUnit? text
  if 0xD800 ≤ unit ∧ unit < 0xDC00 then
    let (low, text) ← readUnit? (← skip? ['\\', 'u'] text)
    if 0xDC00 ≤ low ∧ low < 0xE000 then
      return (Char.ofNat (0x10000 + 1024 * (unit - 0xD800) + (low - 0xDC00)), text)
    else none
  else if 0xDC00 ≤ unit ∧ unit < 0xE000 then none
  else return (Char.ofNat unit, text)

def readEscape? : List Char → Option (Char × List Char)
  | 'u' :: text => readCode? text
  | '"' :: text => some ('"', text)
  | '\\' :: text => some ('\\', text)
  | '/' :: text => some ('/', text)
  | 'b' :: text => some ('\x08', text)
  | 'f' :: text => some ('\x0c', text)
  | 'n' :: text => some ('\n', text)
  | 'r' :: text => some ('\r', text)
  | 't' :: text => some ('\t', text)
  | _ => none

/-- Reads the rest of a string after its opening quote. The fuel bounds the number of characters. -/
def readChars? : Nat → List Char → Option (List Char × List Char)
  | 0, _ => none
  | _ + 1, [] => none
  | fuel + 1, c :: text =>
    if c == '"' then some ([], text)
    else if c == '\\' then do
      let (c, text) ← readEscape? text
      let (cs, text) ← readChars? fuel text
      return (c :: cs, text)
    else if c.val < 0x20 then none
    else do
      let (cs, text) ← readChars? fuel text
      return (c :: cs, text)

def readString? (text : List Char) : Option (String × List Char) :=
  (readChars? (text.length + 1) text).map fun (cs, text) => (String.ofList cs, text)

/-! ## Numbers -/

/-- Extends a number by digits as long as it fits a 64-bit word, and counts the digits taken. -/
def takeDigits (n : Nat) : List Char → Nat × Nat
  | [] => (n, 0)
  | c :: digits =>
    let next := 10 * n + (c.toNat - '0'.toNat)
    if next < UInt64.size then
      let (n, count) := takeDigits next digits
      (n, count + 1)
    else (n, 0)

/-- The double nearest to a power of ten. -/
def powerOfTen (exponent : Nat) : Float :=
  Binary64.ofCode false (Binary64.codeOfDecimal 1 exponent)

/-- A double times a power of ten, in steps of the greatest power that is a double. There is no
answer where the product is beyond all doubles. -/
def scale? : Nat → Float → Int → Option Float
  | steps, x, exponent =>
    if exponent.natAbs ≤ 308 then
      if exponent < 0 then some (x / powerOfTen exponent.natAbs)
      else
        let product := x * powerOfTen exponent.natAbs
        if Binary64.isFinite product then some product else none
    else if Binary64.code x = 0 then some x
    else if 0 < exponent then none
    else
      match steps with
      | 0 => some x
      | steps + 1 => scale? steps (x / powerOfTen 308) (exponent + 308)

/-- The double with leading digits and a power of ten. -/
def floatOfParts? (negative : Bool) (significand : Nat) (exponent : Int) : Option Float :=
  (scale? 3 (Binary64.ofInt significand) exponent).map fun x =>
    Binary64.ofCode negative (Binary64.code x)

def readExponent? (text : List Char) : Option (Option Int × List Char) :=
  match text with
  | mark :: rest =>
    if mark == 'e' || mark == 'E' then
      let (negative, rest) := match rest with
        | '+' :: rest => (false, rest)
        | '-' :: rest => (true, rest)
        | rest => (false, rest)
      let digits := rest.takeWhile Char.isDigit
      (Number.readNat? digits).map fun n =>
        (some (if negative then -Int.ofNat n else Int.ofNat n), rest.dropWhile Char.isDigit)
    else some (none, text)
  | [] => some (none, text)

/-- Reads the digits after the point of a number if there is one. -/
def readFraction? (text : List Char) : Option (Option (List Char) × List Char) :=
  match text with
  | '.' :: rest =>
    let digits := rest.takeWhile Char.isDigit
    if digits.isEmpty then none else some (some digits, rest.dropWhile Char.isDigit)
  | _ => some (none, text)

def number? (negative : Bool) (whole : List Char) (fraction : Option (List Char))
    (exponent : Option Int) : Option Json :=
  let (significand, taken) := takeDigits 0 whole
  let dropped := whole.length - taken
  if fraction.isNone && exponent.isNone && dropped == 0 && !(negative && significand == 0) &&
      (!negative || Int64.minValue.toInt ≤ -Int.ofNat significand) then
    some (.int (if negative then -Int.ofNat significand else Int.ofNat significand))
  else
    let (significand, places) := takeDigits significand (fraction.getD [])
    let power : Int := Int.ofNat dropped - Int.ofNat places + exponent.getD 0
    (floatOfParts? negative significand power).map .float

def readUnsigned? (negative : Bool) (text : List Char) : Option (Json × List Char) := do
  let whole := text.takeWhile Char.isDigit
  if whole.isEmpty || (whole.length ≠ 1 && whole.head? == some '0') then none
  else
    let (fraction, text) ← readFraction? (text.dropWhile Char.isDigit)
    let (exponent, text) ← readExponent? text
    return (← number? negative whole fraction exponent, text)

def readNumber? : List Char → Option (Json × List Char)
  | '-' :: text => readUnsigned? true text
  | text => readUnsigned? false text

/-! ## Values -/

mutual

/-- Reads a value at a remaining depth of nesting. The fuel bounds the number of values and
separators. -/
def readValue? (depth : Nat) : Nat → List Char → Option (Json × List Char)
  | 0, _ => none
  | fuel + 1, text =>
    match skipSpace text with
    | 'n' :: rest => (skip? "ull".toList rest).map fun rest => (.null, rest)
    | 't' :: rest => (skip? "rue".toList rest).map fun rest => (.bool true, rest)
    | 'f' :: rest => (skip? "alse".toList rest).map fun rest => (.bool false, rest)
    | '"' :: rest => (readString? rest).map fun (s, rest) => (.string s, rest)
    | '[' :: rest =>
      if depth ≤ 1 then none
      else
        match skipSpace rest with
        | ']' :: rest => some (.array [], rest)
        | rest => (readItems? (depth - 1) fuel rest).map fun (items, rest) => (.array items, rest)
    | '\x7b' :: rest =>
      if depth ≤ 1 then none
      else
        match skipSpace rest with
        | '\x7d' :: rest => some (.object [], rest)
        | rest =>
          (readMembers? (depth - 1) fuel rest).map fun (members, rest) =>
            (objectOfList members, rest)
    | rest => readNumber? rest

/-- Reads the items of an array up to its closing bracket. -/
def readItems? (depth : Nat) : Nat → List Char → Option (List Json × List Char)
  | 0, _ => none
  | fuel + 1, text => do
    let (item, rest) ← readValue? depth fuel text
    match skipSpace rest with
    | ',' :: rest => (readItems? depth fuel rest).map fun (items, rest) => (item :: items, rest)
    | ']' :: rest => some ([item], rest)
    | _ => none

/-- Reads the members of an object up to its closing brace. -/
def readMembers? (depth : Nat) : Nat → List Char → Option (List (String × Json) × List Char)
  | 0, _ => none
  | fuel + 1, text => do
    let (name, rest) ← readString? (← skip? ['"'] (skipSpace text))
    let (value, rest) ← readValue? depth fuel (← skip? [':'] (skipSpace rest))
    match skipSpace rest with
    | ',' :: rest =>
      (readMembers? depth fuel rest).map fun (members, rest) => ((name, value) :: members, rest)
    | '\x7d' :: rest => some ([(name, value)], rest)
    | _ => none

end

/-- Reads a text that holds one value. -/
def read? (text : List Char) : Option Json := do
  let (value, rest) ← readValue? 128 (text.length + 1) text
  if (skipSpace rest).isEmpty then return value else none

end RecordQuery.Json
