import RecordQuery.Text.CaseTable
import RecordQuery.Text.Ranges

/-!
# Upper and lower case

* `upper`, `lower`: the full case mappings, under which one character may become several.
* `equalIgnoringCase`: equality up to the case of ASCII letters, which is how keywords compare.

A capital sigma that ends a word becomes `ς` in lower case and any other becomes `σ`.
-/

namespace RecordQuery.Text

/-- The other case of a code point under the first run that moves it. -/
def shiftBy (runs : List CaseRun) (n : Nat) : Option Nat :=
  (runs.find? fun run =>
    run.first ≤ n && n ≤ run.last && (n - run.first) % run.stride == 0).map
      fun run => (Int.ofNat n + run.shift).toNat

/-- The other case of a character under its expansion or its run, itself if it has neither. -/
def mapCase (expansions : List (Nat × List Nat)) (runs : List CaseRun) (c : Char) : List Char :=
  match expansions.lookup c.toNat with
  | some expansion => expansion.map Char.ofNat
  | none =>
    match shiftBy runs c.toNat with
    | some n => [Char.ofNat n]
    | none => [c]

def upperChar (c : Char) : List Char :=
  if c.val < 0x80 then [c.toUpper] else mapCase upperExpansions upperRuns c

def upper (text : List Char) : List Char :=
  text.flatMap upperChar

/-- Whether the next character that counts, going away from a sigma, has case. -/
def meetsCased (text : List Char) : Bool :=
  match text.dropWhile (inRanges ignorableRanges) with
  | [] => false
  | c :: _ => inRanges casedRanges c

/-- The lower case of a character, given the text before it, nearest first, and after it. -/
def lowerChar (before : List Char) (c : Char) (after : List Char) : List Char :=
  if c.val < 0x80 then [c.toLower]
  else if c == 'Σ' then [if meetsCased before && !meetsCased after then 'ς' else 'σ']
  else mapCase lowerExpansions lowerRuns c

/-- The lower case of a text that follows the text `before`, given nearest first. -/
def lowerAfter (before : List Char) : List Char → List Char
  | [] => []
  | c :: after => lowerChar before c after ++ lowerAfter (c :: before) after

def lower (text : List Char) : List Char :=
  lowerAfter [] text

/-- Equality of two texts up to the case of ASCII letters. -/
def equalIgnoringCase (a b : List Char) : Bool :=
  a.map Char.toLower == b.map Char.toLower

example : upper "ſelect ıß".toList = "SELECT ISS".toList := by decide +kernel
example : lower "ΟΔΟΣ Σ".toList = "οδος σ".toList := by decide +kernel

end RecordQuery.Text
