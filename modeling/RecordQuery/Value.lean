import RecordQuery.Json.Printer

/-!
# Bin values

* `Value`: a typed value of a bin. A bin is removed by writing `Value.nil` to it.
* `Value.typeName`, `Value.display`: the name of its type and its text.
* `Value.ofJson`, `Value.toJson`: conversion from and to JSON, which has no blobs and no numbers
  beyond the finite ones.
* `Bins`: the bins of a record by name.
-/

namespace RecordQuery

/-- The value of a bin. -/
inductive Value where
  | str (text : String)
  | int (number : Int64)
  | float (number : Float)
  | bool (truth : Bool)
  | blob (bytes : List UInt8)
  | list (items : List Value)
  | map (members : List (String × Value))
  | nil
deriving Inhabited

abbrev Bins := SortedMap Value

namespace Value

def typeName : Value → String
  | str _ => "String"
  | int _ => "Integer"
  | float _ => "Double"
  | bool _ => "Boolean"
  | blob _ => "Blob"
  | list _ => "List"
  | map _ => "Map"
  | nil => "Nil"

def asStr? : Value → Option String
  | str text => some text
  | _ => none

def asInt? : Value → Option Int64
  | int number => some number
  | _ => none

def asFloat? : Value → Option Float
  | float number => some number
  | _ => none

def asBool? : Value → Option Bool
  | bool truth => some truth
  | _ => none

def isNil : Value → Bool
  | nil => true
  | _ => false

/-! ## Text -/

mutual

/-- The text of a value as an operator sees it. -/
def displayText : Value → List Char
  | str text => text.toList
  | int number => Number.intText number.toInt
  | float number => Number.Notation.plain.text number
  | bool truth => if truth then "true".toList else "false".toList
  | blob bytes => "<Blob ".toList ++ Nat.toDigits 10 bytes.length ++ " bytes>".toList
  | list items => '[' :: List.intercalate [',', ' '] (displayItems items) ++ [']']
  | map members => '\x7b' :: List.intercalate [',', ' '] (displayMembers members) ++ ['\x7d']
  | nil => "null".toList

def displayItems : List Value → List (List Char)
  | [] => []
  | item :: items => displayText item :: displayItems items

def displayMembers : List (String × Value) → List (List Char)
  | [] => []
  | (name, value) :: members =>
    (name.toList ++ ':' :: ' ' :: displayText value) :: displayMembers members

end

def display (v : Value) : String :=
  String.ofList v.displayText

/-! ## JSON -/

/-- The value of a JSON integer: a word if it is in range, else the nearest double. -/
def ofInt (n : Int) : Value :=
  match Number.toInt64? n with
  | some word => int word
  | none => float (Binary64.ofInt n)

mutual

def ofJson : Json → Value
  | .null => nil
  | .bool truth => bool truth
  | .int n => ofInt n
  | .float number => float number
  | .string text => str text
  | .array items => list (ofJsonItems items)
  | .object members => map (ofJsonMembers members)

def ofJsonItems : List Json → List Value
  | [] => []
  | item :: items => ofJson item :: ofJsonItems items

def ofJsonMembers : List (String × Json) → List (String × Value)
  | [] => []
  | (name, value) :: members => (name, ofJson value) :: ofJsonMembers members

end

mutual

/-- The JSON form of a value. Blobs become arrays of their bytes, and numbers that are not finite
become `null`. -/
def toJson : Value → Json
  | str text => .string text
  | int number => .int number.toInt
  | float number => if Binary64.isFinite number then .float number else .null
  | bool truth => .bool truth
  | blob bytes => .array (bytes.map fun byte => .int byte.toNat)
  | list items => .array (toJsonItems items)
  | map members => .object (toJsonMembers members)
  | nil => .null

def toJsonItems : List Value → List Json
  | [] => []
  | item :: items => toJson item :: toJsonItems items

def toJsonMembers : List (String × Value) → List (String × Json)
  | [] => []
  | (name, value) :: members => (name, toJson value) :: toJsonMembers members

end

/-- The text of a value in a cell: compact JSON for lists and maps, else the text as shown. -/
def cellText : Value → List Char
  | v@(list _) | v@(map _) => v.toJson.compact
  | v => v.displayText

end Value

end RecordQuery
