import RecordQuery.Literal
import RecordQuery.Text.Casing

/-!
# Narrowing

A bin that is changed keeps its type where the new text allows it: the text is read again as the
type of the value that is there. A text that cannot be read so is stored as a string, and a notice
says so.

* `narrowText`: reads a text as the type of a value.
* `narrowAssignment`, `narrowRaw`: the same for an assignment and for typed-in text, where there may
  be no value yet.
-/

namespace RecordQuery

/-- The notice that a text could not be read as the type of a bin. -/
structure TypeFallback where
  bin : String
  /-- The name of the type that was there. -/
  expected : String
  text : String
deriving DecidableEq, Repr

def TypeFallback.message (fallback : TypeFallback) : String :=
  "Cannot update " ++ fallback.bin ++ " (" ++ fallback.expected ++ ") with '" ++ fallback.text ++
    "'. Treating as String."

/-- A value to store, and the notice if it is not of the type that was there. -/
structure Narrowed where
  value : Value
  fallback : Option TypeFallback

namespace Narrowed

/-- A value without a notice. -/
def exact (value : Value) : Narrowed :=
  { value, fallback := none }

end Narrowed

/-- Reads a truth value, whatever the case of its letters. -/
def readBool? (text : List Char) : Option Bool :=
  if Text.equalIgnoringCase text "true".toList then some true
  else if Text.equalIgnoringCase text "false".toList then some false
  else none

def readFinite? (text : List Char) : Option Float :=
  (Number.readFloat? text).filter Binary64.isFinite

/-- A value that was read, or without one the text as a string with a notice. -/
def Narrowed.ofRead (bin text : String) (existing : Value) : Option Value → Narrowed
  | some value => exact value
  | none =>
    { value := .str text
      fallback := some { bin, expected := existing.typeName, text } }

/-- Reads a text as the type of an existing value. Types other than numbers and truth values are
overwritten by the text. -/
def narrowText (bin text : String) (existing : Value) : Narrowed :=
  match existing with
  | .int _ => .ofRead bin text existing ((Number.readInt64? text.toList).map .int)
  | .float _ => .ofRead bin text existing ((readFinite? text.toList).map .float)
  | .bool _ => .ofRead bin text existing ((readBool? text.toList).map .bool)
  | _ => .exact (.str text)

/-- Narrows an assignment. Without an existing value its literal decides the type. -/
def narrowAssignment (bin : String) (assignment : Assignment) : Option Value → Narrowed
  | some existing => narrowText bin assignment.text existing
  | none => .exact assignment.value.toValue

/-- Narrows typed-in text. Without an existing value it is a string. -/
def narrowRaw (bin text : String) : Option Value → Narrowed
  | some existing => narrowText bin text existing
  | none => .exact (.str text)

end RecordQuery
