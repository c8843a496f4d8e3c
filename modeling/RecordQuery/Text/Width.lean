import RecordQuery.Text.Emoji
import RecordQuery.Text.ExtendTable
import RecordQuery.Text.Ligature
import RecordQuery.Text.WidthTable

/-!
# Display width

The number of terminal columns that a text takes.

* `charWidth`: the columns of a character by itself.
* `Tail.before`: the columns of a character before a text, which depend on how the text begins.
* `width`: the columns of a text, summed from its end.
-/

namespace RecordQuery.Text

/-! ## Characters -/

def charWidth (c : Char) : Nat :=
  if c.toNat ≤ 0xA0 then 1
  else if c.toNat == 0x2D7F || isBetween 0xFF9E 0xFF9F c then 1
  else if c.toNat == 0x115F then 2
  else if c.toNat == 0x17D8 then 3
  else if inRanges extendRanges c || inRanges unseenRanges c || inRanges zeroWidthRanges c then 0
  else if inRanges wideRanges c then 2
  else 1

/-- A mark without width across which Arabic letters join. -/
def isArabicMark (c : Char) : Bool :=
  charWidth c == 0 && !inRanges opaqueRanges c

/-- A quotation mark that a selector sets in a full square. -/
def isQuotationMark (c : Char) : Bool :=
  inRanges [(0x2018, 0x2019), (0x201C, 0x201D)] c

/-! ## What follows a character -/

/-- The form that a variation selector asks for. -/
inductive Selector where
  | text
  | emoji
  | square
deriving DecidableEq, Repr

def Selector.of? (c : Char) : Option Selector :=
  if c.toNat == 0xFE0E then some .text
  else if c.toNat == 0xFE0F then some .emoji
  else if c.toNat == 0xFE01 then some .square
  else none

/-- How a text begins, as far as the width of a character before it depends on it. -/
inductive Tail where
  /-- With nothing that matters. -/
  | plain
  | lineFeed
  | ligature (tail : LigatureTail)
  | emoji (tail : EmojiTail)
  /-- A selector, after which nothing else matters. -/
  | selector (selector : Selector)
  /-- A selector before the rest of a ligature, which it does not part. -/
  | selectorLigature (selector : Selector) (tail : LigatureTail)
  /-- An emoji selector before a joiner and a picture. -/
  | selectorJoined
deriving DecidableEq, Repr

namespace Tail

/-- How a text begins that begins with a character and does not go on from it. -/
def of (c : Char) : Tail :=
  match EmojiTail.of? c, LigatureTail.of? c with
  | some tail, _ => emoji tail
  | none, some tail => ligature tail
  | none, none => plain

def select (s : Selector) : Tail → Tail
  | ligature tail => selectorLigature s tail
  | emoji tail => if s = .emoji && tail.isJoined then selectorJoined else selector s
  | _ => selector s

/-- The columns of a character that continues a ligature or a picture to the left, and how the
longer text begins. -/
def continue? (tail : Tail) (c : Char) : Option (Int × Tail) :=
  match tail with
  | ligature tail =>
    match tail.before? isArabicMark c with
    | some (added, some rest) => some (added, ligature rest)
    | some (added, none) => some (added, plain)
    | none => none
  | emoji tail => (tail.before? c).map fun (added, rest) => (added, emoji rest)
  | _ => none

/-- The columns of a character before a text that does not begin with a selector, and how the
longer text begins. -/
def beforePlain (tail : Tail) (c : Char) : Int × Tail :=
  if c.toNat ≤ 0xA0 then
    if c = '\n' then (1, lineFeed)
    else if c = '\r' ∧ tail = lineFeed then (0, plain)
    else (1, plain)
  else
    match Selector.of? c with
    | some s => (0, tail.select s)
    | none => (tail.continue? c).getD (Int.ofNat (charWidth c), of c)

/-- The columns of a character in the form that a selector after it asks for, and how the longer
text begins, if the character has that form. -/
def selected? (s : Selector) (c : Char) : Option (Int × Tail) :=
  match s with
  | .text => if becomesText c then some (1, plain) else none
  | .emoji => if becomesEmoji c then some (2, emoji .whole) else none
  | .square => if isQuotationMark c then some (2, plain) else none

/-- The columns of a character before a text, and how the longer text begins. -/
def before (tail : Tail) (c : Char) : Int × Tail :=
  match tail with
  | selector s => (selected? s c).getD (plain.beforePlain c)
  | selectorLigature s t => (selected? s c).getD ((ligature t).beforePlain c)
  | selectorJoined =>
    if becomesEmoji c then (0, emoji .whole) else plain.beforePlain c
  | tail => tail.beforePlain c

end Tail

/-! ## Texts -/

/-- The columns of a text, and how it begins. -/
def measure (text : List Char) : Int × Tail :=
  text.foldr (fun c (columns, tail) =>
    let (added, tail) := tail.before c
    (columns + added, tail)) (0, .plain)

def width (text : List Char) : Nat :=
  (measure text).1.toNat

example : width "日本語 é".toList = 8 := by decide +kernel
example : width [Char.ofNat 0x2764, Char.ofNat 0xFE0F] = 2 := by decide +kernel
example : width [Char.ofNat 0x1F469, Char.ofNat 0x200D, Char.ofNat 0x1F4BB] = 2 := by
  decide +kernel

end RecordQuery.Text
