import RecordQuery.Json
import RecordQuery.Number.Notation
import RecordQuery.Text.Pieces

/-!
# JSON text

* `Json.compact`: the text of a value without blanks.
* `Json.pretty`: the text of a value with one item or member a line, two columns deeper than the
  brackets around it.
* `quoted`: the text of a string. Quotes, backslashes and the control characters below the space
  are escaped, and nothing else.
-/

namespace RecordQuery.Json

/-- A character as it stands in a quoted string. -/
def escaped (c : Char) : List Char :=
  match c.toNat with
  | 0x22 => ['\\', '"']
  | 0x5C => ['\\', '\\']
  | 0x08 => ['\\', 'b']
  | 0x09 => ['\\', 't']
  | 0x0A => ['\\', 'n']
  | 0x0C => ['\\', 'f']
  | 0x0D => ['\\', 'r']
  | n => if n < 0x20 then ['\\', 'u', '0', '0', (n / 16).digitChar, (n % 16).digitChar] else [c]

def quoted (s : String) : List Char :=
  '"' :: s.toList.flatMap escaped ++ ['"']

mutual

def compact : Json → List Char
  | .null => "null".toList
  | .bool value => if value then "true".toList else "false".toList
  | .int value => Number.intText value
  | .float value => Number.Notation.json.text value
  | .string value => quoted value
  | .array items => '[' :: List.intercalate [','] (compactItems items) ++ [']']
  | .object members => '\x7b' :: List.intercalate [','] (compactMembers members) ++ ['\x7d']

def compactItems : List Json → List (List Char)
  | [] => []
  | item :: items => compact item :: compactItems items

def compactMembers : List (String × Json) → List (List Char)
  | [] => []
  | (name, value) :: members => (quoted name ++ ':' :: compact value) :: compactMembers members

end

/-- The items of an array or object between its brackets, each on a line of its own. -/
def bracketed (depth : Nat) (opening closing : Char) (items : List (List Char)) : List Char :=
  if items.isEmpty then [opening, closing]
  else
    let indent := List.replicate (2 * (depth + 1)) ' '
    let lines := items.map fun item => indent ++ item
    opening :: '\n' :: List.intercalate [',', '\n'] lines ++
      '\n' :: List.replicate (2 * depth) ' ' ++ [closing]

mutual

/-- The text of a value in lines, at a depth of nesting. -/
def prettyAt (depth : Nat) : Json → List Char
  | .array items => bracketed depth '[' ']' (prettyItems (depth + 1) items)
  | .object members => bracketed depth '\x7b' '\x7d' (prettyMembers (depth + 1) members)
  | value => compact value

def prettyItems (depth : Nat) : List Json → List (List Char)
  | [] => []
  | item :: items => prettyAt depth item :: prettyItems depth items

def prettyMembers (depth : Nat) : List (String × Json) → List (List Char)
  | [] => []
  | (name, value) :: members =>
    (quoted name ++ ':' :: ' ' :: prettyAt depth value) :: prettyMembers depth members

end

def pretty (value : Json) : List Char :=
  prettyAt 0 value

def toText (value : Json) : String :=
  String.ofList value.compact

end RecordQuery.Json
