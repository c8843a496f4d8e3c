import RecordQuery.Value
import RecordQuery.Text.Blank
import RecordQuery.Number.Reading

/-!
# Literals

Statements carry untyped text. `Literal.coerce` types it by shape alone: what stands in single
quotes is a string, what looks like a number is one, and anything else is a string as it stands.

* `Literal.text`: the text of a literal, read again when it has to become another type.
* `Literal.display`: the literal in the spelling of the language.
* `Assignment`: a literal together with the text it was written as.
-/

namespace RecordQuery

def quoteMark : Char := '\x27'

inductive Literal where
  | str (text : String)
  | int (number : Int64)
  | float (number : Float)
deriving DecidableEq, Repr

namespace Literal

/-- The text between two single quotes, if that is what a text is. -/
def unquote? : List Char → Option (List Char)
  | [] => none
  | first :: rest =>
    if first == quoteMark && rest.getLast? == some quoteMark then some rest.dropLast else none

/-- The literal of a text without blanks at its ends. An integer beyond the 64-bit range is a
double. -/
def ofTrimmed (text : List Char) : Literal :=
  match unquote? text with
  | some inner => str (String.ofList inner)
  | none =>
    match (if Number.isIntegerNumeral text then Number.readInt64? text else none) with
    | some n => int n
    | none =>
      match (if Number.isNumeral text then Number.readFloat? text else none) with
      | some x => float x
      | none => str (String.ofList text)

/-- The literal that a text stands for. -/
def coerce (raw : List Char) : Literal :=
  ofTrimmed (Text.trim raw)

def isString : Literal → Bool
  | str _ => true
  | _ => false

def asStr? : Literal → Option String
  | str text => some text
  | _ => none

/-- The text of a literal. Doubles keep a point or an exponent, so none of them reads as an
integer. -/
def text : Literal → String
  | str text => text
  | int number => String.ofList (Number.intText number.toInt)
  | float number => String.ofList (Number.Notation.source.text number)

/-- A literal in the spelling of the language. -/
def display : Literal → String
  | str text => String.ofList (quoteMark :: text.toList ++ [quoteMark])
  | literal => literal.text

/-- The bin value that a literal is stored as. -/
def toValue : Literal → Value
  | str text => .str text
  | int number => .int number
  | float number => .float number

end Literal

/-- The right side of an assignment: its literal, and its text as written but for quotes. -/
structure Assignment where
  value : Literal
  text : String
deriving DecidableEq, Repr

def Assignment.ofRaw (raw : List Char) : Assignment :=
  let written := Text.trim raw
  let value := Literal.coerce written
  { value, text := value.asStr?.getD (String.ofList written) }

end RecordQuery
