import RecordQuery.Text.Ranges

/-!
# Ligatures

Letters of some scripts merge with their neighbours and take fewer columns than alone.

* `LigatureTail`: the rest of a ligature that has been read from its end.
* `LigatureTail.before?`: how a character continues a ligature to the left, and what it adds to its
  width.
-/

namespace RecordQuery.Text

/-- The rest of a ligature from some letter on. A letter is joined if a joiner stands before it. -/
inductive LigatureTail where
  /-- The Arabic letter alef, which merges with the letter lam before it. -/
  | alef
  /-- The Hebrew letter lamed, which merges with a joined alef before it. -/
  | lamed (joined : Bool)
  /-- A Khmer letter that goes under the letter before it. -/
  | subscript
  /-- The Buginese letter ya, which merges with the vowels a and i before it. -/
  | ya (joined : Bool)
  /-- The Buginese vowel i before a ya. -/
  | vowelYa
  /-- A Tifinagh consonant, which merges with a joined consonant before it. -/
  | consonant (joined : Bool)
  /-- A Tifinagh consonant after the consonant joiner. -/
  | consonantAfterJoiner
  /-- The second of two Lisu tones. -/
  | tone
  /-- The Old Turkic letter i, which merges with a joined letter before it. -/
  | oldTurkicI (joined : Bool)
  /-- The Kirat Rai vowel e, the beginning of three vowels that are written with it. -/
  | vowelE
  /-- The Kirat Rai vowel ai. -/
  | vowelAi
deriving DecidableEq, Repr

def isTifinaghConsonant (c : Char) : Bool :=
  inRanges [(0x2D31, 0x2D65), (0x2D6F, 0x2D6F)] c

def isLam (c : Char) : Bool :=
  inRanges [(0x644, 0x644), (0x6B5, 0x6B8), (0x76A, 0x76A), (0x8A6, 0x8A6), (0x8C7, 0x8C7)] c

def isAlef (c : Char) : Bool :=
  inRanges [(0x622, 0x623), (0x625, 0x625), (0x627, 0x627), (0x671, 0x673), (0x675, 0x675),
    (0x773, 0x774), (0x870, 0x882)] c

/-- A Khmer letter that can go under another. -/
def isSubscriptLetter (c : Char) : Bool :=
  inRanges [(0x1780, 0x1782), (0x1784, 0x1787), (0x1789, 0x178C), (0x178E, 0x1793),
    (0x1795, 0x1798), (0x179B, 0x179D), (0x17A0, 0x17A0), (0x17A2, 0x17A2), (0x17A7, 0x17A7),
    (0x17AB, 0x17AC), (0x17AF, 0x17AF)] c

/-- A mark without a form of its own, which does not part a ligature. -/
def isFormlessMark (c : Char) : Bool :=
  inRanges [(0x34F, 0x34F), (0x17B4, 0x17B5), (0x180B, 0x180D), (0x180F, 0x180F),
    (0xFE00, 0xFE0F), (0xE0100, 0xE01EF)] c

namespace LigatureTail

def of? (c : Char) : Option LigatureTail :=
  if isAlef c then some alef
  else if c.toNat == 0x5DC then some (lamed false)
  else if isSubscriptLetter c then some subscript
  else if c.toNat == 0x1A10 then some (ya false)
  else if isTifinaghConsonant c then some (consonant false)
  else if isBetween 0xA4FC 0xA4FD c then some tone
  else if c.toNat == 0x10C03 then some (oldTurkicI false)
  else if c.toNat == 0x16D67 then some vowelE
  else if c.toNat == 0x16D68 then some vowelAi
  else none

def join : LigatureTail → LigatureTail
  | lamed _ => lamed true
  | ya _ => ya true
  | consonant _ => consonant true
  | oldTurkicI _ => oldTurkicI true
  | tail => tail

/-- The ligature with a letter before it and the columns that the letter adds. There is no rest if
the letter begins the ligature. -/
def letterBefore? (tail : LigatureTail) (c : Char) : Option (Int × Option LigatureTail) :=
  match tail with
  | alef => if isLam c then some (0, none) else none
  | lamed joined => if joined && c.toNat == 0x5D0 then some (0, none) else none
  | subscript => if c.toNat == 0x17D2 then some (-1, none) else none
  | ya joined => if joined && c.toNat == 0x1A17 then some (0, some vowelYa) else none
  | vowelYa => if c.toNat == 0x1A15 then some (0, none) else none
  | consonant joined =>
    if c.toNat == 0x2D7F then some (1, some consonantAfterJoiner)
    else if joined && isTifinaghConsonant c then some (0, none) else none
  | consonantAfterJoiner => if isTifinaghConsonant c then some (-1, none) else none
  | tone => if isBetween 0xA4F8 0xA4FB c then some (0, none) else none
  | oldTurkicI joined => if joined && c.toNat == 0x10C32 then some (0, none) else none
  | vowelE =>
    if c.toNat == 0x16D63 || c.toNat == 0x16D69 then some (0, none)
    else if c.toNat == 0x16D67 then some (0, some vowelAi)
    else if c.toNat == 0x16D68 then some (1, some vowelE) else none
  | vowelAi => if c.toNat == 0x16D63 then some (0, none) else none

/-- The ligature with a character before it and the columns that the character adds, if the
character belongs to it or does not part it. Arabic letters merge across the marks of the given
class; Kirat Rai vowels merge with their neighbours only. -/
def before? (isMark : Char → Bool) (tail : LigatureTail) (c : Char) :
    Option (Int × Option LigatureTail) :=
  match tail with
  | alef => if isMark c then some (0, some alef) else alef.letterBefore? c
  | vowelE => vowelE.letterBefore? c
  | vowelAi => vowelAi.letterBefore? c
  | tail =>
    if c.toNat == 0x200D then some (0, some tail.join)
    else if isFormlessMark c then some (0, some tail)
    else tail.letterBefore? c

end LigatureTail

end RecordQuery.Text
