import RecordQuery.Text.Casing
import RecordQuery.Token

/-!
# Completion

What can stand where the cursor of a shell is.

* `complete?`: the first byte of the text to replace, and the candidates. There is no answer if the
  cursor is inside a character, or if the text to replace would begin inside one.
-/

namespace RecordQuery.Shell

/-- The dot-commands, in the order in which they are offered. -/
def dotCommands : List String :=
  [".help", ".exit", ".quit", ".format", ".timer", ".clear", ".namespaces", ".browse", ".delete",
    ".edit", ".truncate", ".connect", ".disconnect"]

/-- The keywords of statements, in the order in which they are offered. -/
def keywords : List String :=
  ["SELECT", "FROM", "WHERE", "INSERT", "INTO", "VALUES", "UPDATE", "SET", "DELETE", "PK"]

/-- The first bytes of a text, if they end between two characters. -/
def takeBytes? : Nat → List Char → Option (List Char)
  | 0, _ => some []
  | _ + 1, [] => none
  | count, c :: rest =>
    if c.utf8Size ≤ count then (takeBytes? (count - c.utf8Size) rest).map (c :: ·) else none

/-- A text from a byte on, if that stands between two characters. -/
def dropBytes? : Nat → List Char → Option (List Char)
  | 0, text => some text
  | _ + 1, [] => none
  | count, c :: rest =>
    if c.utf8Size ≤ count then dropBytes? (count - c.utf8Size) rest else none

/-- A character after which the text to replace begins. -/
def isBreak (c : Char) : Bool :=
  Text.isBlank c || c == '(' || c == ','

/-- The byte at which the last break of a text begins. -/
def lastBreak? : List Char → Option Nat
  | [] => none
  | c :: rest =>
    match lastBreak? rest with
    | some place => some (c.utf8Size + place)
    | none => if isBreak c then some 0 else none

def beginningWith (text : List Char) (candidates : List String) : List String :=
  candidates.filter fun candidate => text.isPrefixOf candidate.toList

/-- Completes a line at a cursor that stands after a number of bytes. The text to replace begins one
byte after the place of the last break. -/
def complete? (line : List Char) (cursor : Nat) : Option (Nat × List String) := do
  let text ← takeBytes? cursor line
  if text.head? == some '.' && !text.any Text.isBlank then
    return (0, beginningWith text dotCommands)
  else
    let start := ((lastBreak? text).map (· + 1)).getD 0
    let word ← dropBytes? start text
    return (start, beginningWith (Text.upper word) keywords)

end RecordQuery.Shell
