import RecordQuery.Text.EmojiTable
import RecordQuery.Text.Ranges

/-!
# Emoji

The kinds of characters that pictures are made of, and how a picture of several characters is put
together.

* `isEmoji`, `becomesEmoji`, `becomesText`: the characters that are pictures by themselves, before
  an emoji selector, and pictures that a text selector turns into text.
* `EmojiTail`: the rest of a picture that has been read from its end.
* `EmojiTail.before?`: how a character continues a picture to the left, and what it adds to its
  width.

Reading goes from right to left, so a picture is known by what follows: a joiner counts only if a
picture stands after it, and a skin tone adds no column to the picture before it.
-/

namespace RecordQuery.Text

/-! ## Kinds of characters -/

def isEmoji (c : Char) : Bool :=
  inRanges emojiRanges c

/-- A character that an emoji selector turns into a picture or that keeps its form under one. -/
def becomesEmoji (c : Char) : Bool :=
  inRanges textEmojiRanges c || inRanges textChoiceRanges c

/-- A picture that a text selector turns into text of one column. The squared ideographs take two
columns in any form. -/
def becomesText (c : Char) : Bool :=
  inRanges textChoiceRanges c && !isBetween 0x1F200 0x1F2FF c

def isSkinTone : Char → Bool :=
  isBetween 0x1F3FB 0x1F3FF

def takesSkinTone (c : Char) : Bool :=
  inRanges modifierBaseRanges c

/-- A letter of a flag; two of them make the flag of a region. -/
def isFlagLetter : Char → Bool :=
  isBetween 0x1F1E6 0x1F1FF

/-- A picture that a joiner connects to a picture before it. -/
def isPictograph (c : Char) : Bool :=
  inRanges pictographRanges c

def isJoiner (c : Char) : Bool :=
  c.toNat == 0x200D

/-! ## Pictures of several characters -/

/-- The rest of a picture from some character on. -/
inductive EmojiTail where
  /-- A whole picture. -/
  | whole
  /-- A skin tone. -/
  | skinTone
  /-- The last letter of a flag. -/
  | flagLetter
  /-- Letters of flags, at least two. -/
  | flagLetters
  /-- A joiner and a picture. -/
  | joined
  /-- The frame of a keycap, a joiner and a picture. -/
  | joinedKeycap
  /-- The last letter of a flag, a joiner and a picture. -/
  | joinedLetter
  /-- Letters of flags, at least two, a joiner and a picture. -/
  | joinedLetters (odd : Bool)
  /-- Tags that end the flag of a subdivision, a joiner and a picture. The tags of the last kind
  read, letters or digits, are counted. -/
  | joinedTags (count : Nat) (digits : Bool)
deriving DecidableEq, Repr

namespace EmojiTail

/-- Whether a picture that a selector makes can stand before the rest without a width of its own. -/
def isJoined : EmojiTail → Bool
  | joined | joinedKeycap => true
  | _ => false

/-- The tags of a subdivision with one more tag before them, or the black flag that carries them.
A subdivision has three to six letters, or three digits before at most four letters. -/
def tagsBefore? (count : Nat) (digits : Bool) (c : Char) : Option EmojiTail :=
  if isBetween 0xE0061 0xE007A c then
    if !digits && count < 6 then some (joinedTags (count + 1) false) else none
  else if isBetween 0xE0030 0xE0039 c then
    if digits then if count < 3 then some (joinedTags (count + 1) true) else none
    else if count ≤ 4 then some (joinedTags 1 true) else none
  else if c.toNat == 0x1F3F4 then if 3 ≤ count then some whole else none
  else none

/-- The picture with a character before it and the columns that the character adds, if it belongs
to the picture. -/
def before? (tail : EmojiTail) (c : Char) : Option (Int × EmojiTail) :=
  match tail with
  | whole => if isJoiner c then some (0, joined) else none
  | skinTone =>
    if takesSkinTone c then some (0, whole) else if isJoiner c then some (0, joined) else none
  | flagLetter => if isFlagLetter c then some (1, flagLetters) else none
  | flagLetters =>
    if isFlagLetter c then some (1, flagLetters)
    else if isJoiner c then some (0, joined) else none
  | joined =>
    if c.toNat == 0x20E3 then some (0, joinedKeycap)
    else if isFlagLetter c then some (1, joinedLetter)
    else if isSkinTone c then some (0, skinTone)
    else if c.toNat == 0xE007F then some (0, joinedTags 0 false)
    else if isEmoji c then some (0, whole) else none
  | joinedKeycap => none
  | joinedLetter => if isFlagLetter c then some (-1, joinedLetters false) else none
  | joinedLetters odd =>
    if isFlagLetter c then some (if odd then (-1, joinedLetters false) else (3, joinedLetters true))
    else if isJoiner c then some (0, joined) else none
  | joinedTags count digits => (tagsBefore? count digits c).map (0, ·)

def of? (c : Char) : Option EmojiTail :=
  if isFlagLetter c then some flagLetter
  else if isSkinTone c then some skinTone
  else if isEmoji c then some whole else none

end EmojiTail

end RecordQuery.Text
