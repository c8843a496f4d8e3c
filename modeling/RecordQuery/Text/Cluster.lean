import RecordQuery.Text.ClusterTable
import RecordQuery.Text.Emoji
import RecordQuery.Text.ExtendTable

/-!
# Clusters

A cluster is what a reader takes for one character: a letter with its marks, a syllable, a flag.

* `BreakClass`: the part that a character plays in a cluster.
* `Cluster.isContinuedBy`: whether a character belongs to the cluster before it.
* `clusters`: a text cut into its clusters.
* `erase`: what is left of a typed line after its backspaces, each of which takes back a cluster.
* `flatten_clusters`: clusters lose nothing. `erase_of_not_mem`: a line without backspaces stays as it
  is.
-/

namespace RecordQuery.Text

/-! ## The parts of a cluster -/

/-- The part that a character plays in a cluster. -/
inductive BreakClass where
  | lineFeed
  | carriageReturn
  | control
  | extending
  | joiner
  | spacingMark
  | prepended
  | flagLetter
  /-- The beginning, the middle and the end of a Hangul syllable. -/
  | leading
  | vowel
  | trailing
  /-- Hangul syllables without and with an end. -/
  | openSyllable
  | closedSyllable
  | other
deriving DecidableEq, Repr

def BreakClass.of (c : Char) : BreakClass :=
  if c = '\n' then lineFeed
  else if c = '\r' then carriageReturn
  else if inRanges controlRanges c then control
  else if c.toNat < 0x80 then other
  else if isJoiner c then joiner
  else if isFlagLetter c then flagLetter
  else if inRanges [(0x1100, 0x115F), (0xA960, 0xA97C)] c then leading
  else if inRanges [(0x1160, 0x11A7), (0xD7B0, 0xD7C6), (0x16D63, 0x16D63), (0x16D67, 0x16D6A)] c
  then vowel
  else if inRanges [(0x11A8, 0x11FF), (0xD7CB, 0xD7FB)] c then trailing
  else if isBetween 0xAC00 0xD7A3 c then
    if (c.toNat - 0xAC00) % 28 = 0 then openSyllable else closedSyllable
  else if isSkinTone c || inRanges extendRanges c then extending
  else if inRanges spacingMarkRanges c then spacingMark
  else if inRanges prependRanges c then prepended
  else other

/-- A sign that stacks the consonants around it. -/
def isLinker (c : Char) : Bool :=
  inRanges linkerRanges c

def isConsonant (c : Char) : Bool :=
  inRanges consonantRanges c

inductive Stack where
  | none
  /-- There is a consonant. -/
  | begun
  /-- There is a linker after the consonant. -/
  | linked
deriving DecidableEq, Repr

def Stack.push (stack : Stack) (c : Char) : Stack :=
  if isConsonant c then begun
  else if isLinker c then if stack = none then none else linked
  else
    match BreakClass.of c with
    | .joiner => stack
    | .extending => if c.toNat = 0x200C then none else stack
    | _ => none

/-- What is known of a cluster whose end is still open. -/
structure Cluster where
  /-- The class of the last character. -/
  last : BreakClass
  /-- Whether the cluster ends in a picture and marks on it. -/
  picture : Bool
  /-- Whether the cluster ends in a picture, marks on it and a joiner. -/
  joinedPicture : Bool
  /-- Whether the cluster ends in the first letter of a flag. -/
  halfFlag : Bool
  stack : Stack
deriving DecidableEq, Repr

namespace Cluster

def start (c : Char) : Cluster where
  last := .of c
  picture := isPictograph c
  joinedPicture := false
  halfFlag := BreakClass.of c == .flagLetter
  stack := Stack.none.push c

def push (cluster : Cluster) (c : Char) : Cluster where
  last := .of c
  picture := isPictograph c || cluster.picture && BreakClass.of c == .extending
  joinedPicture := cluster.picture && BreakClass.of c == .joiner
  halfFlag := BreakClass.of c == .flagLetter && !cluster.halfFlag
  stack := cluster.stack.push c

/-- Whether two neighbours belong together because of their classes alone, or stand apart. -/
def meet : BreakClass → BreakClass → Option Bool
  | .carriageReturn, .lineFeed => some true
  | .carriageReturn, _ | .lineFeed, _ | .control, _ => some false
  | _, .carriageReturn | _, .lineFeed | _, .control => some false
  | .leading, .leading | .leading, .vowel | .leading, .openSyllable
  | .leading, .closedSyllable => some true
  | .openSyllable, .vowel | .openSyllable, .trailing | .vowel, .vowel
  | .vowel, .trailing => some true
  | .closedSyllable, .trailing | .trailing, .trailing => some true
  | _, .extending | _, .joiner | _, .spacingMark => some true
  | .prepended, _ => some true
  | _, _ => none

/-- Whether a character belongs to the cluster before it. -/
def isContinuedBy (cluster : Cluster) (c : Char) : Bool :=
  (meet cluster.last (.of c)).getD <|
    cluster.stack == .linked && isConsonant c || cluster.joinedPicture && isPictograph c ||
      cluster.halfFlag && BreakClass.of c == .flagLetter

end Cluster

/-! ## Cutting a text -/

/-- The clusters of a text of which the first one has begun with the characters `begun`. -/
def clustersAfter (begun : List Char) (cluster : Cluster) : List Char → List (List Char)
  | [] => [begun]
  | c :: rest =>
    if cluster.isContinuedBy c then clustersAfter (begun ++ [c]) (cluster.push c) rest
    else begun :: clustersAfter [c] (.start c) rest

def clusters : List Char → List (List Char)
  | [] => []
  | c :: rest => clustersAfter [c] (.start c) rest

theorem flatten_clustersAfter (begun : List Char) (cluster : Cluster) (rest : List Char) :
    (clustersAfter begun cluster rest).flatten = begun ++ rest := by
  induction rest generalizing begun cluster with
  | nil => simp [clustersAfter]
  | cons c rest ih =>
    rw [clustersAfter]
    split <;> simp [ih]

/-- The clusters of a text make up the text. -/
@[simp] theorem flatten_clusters (text : List Char) : (clusters text).flatten = text := by
  cases text with
  | nil => rfl
  | cons c rest => simp [clusters, flatten_clustersAfter]

/-! ## Backspaces -/

/-- The pieces of a line that are left, the last one first, after one more piece was typed. -/
def keystroke (typed : List (List Char)) (piece : List Char) : List (List Char) :=
  if piece = ['\x08'] then typed.drop 1 else piece :: typed

/-- What is left of a typed line: a backspace takes back the cluster before it, if there is one. -/
def erase (line : List Char) : List Char :=
  ((clusters line).foldl keystroke []).reverse.flatten

theorem foldl_keystroke (typed pieces : List (List Char)) (h : ∀ piece ∈ pieces, piece ≠ ['\x08']) :
    pieces.foldl keystroke typed = pieces.reverse ++ typed := by
  induction pieces generalizing typed with
  | nil => rfl
  | cons piece rest ih =>
    simp only [List.forall_mem_cons] at h
    simp [keystroke, h.1, ih _ h.2]

/-- A line without backspaces stays as it is. -/
theorem erase_of_not_mem {line : List Char} (h : '\x08' ∉ line) : erase line = line := by
  have typed : ∀ piece ∈ clusters line, piece ≠ ['\x08'] := by
    rintro piece hpiece rfl
    exact h (flatten_clusters line ▸ List.mem_flatten_of_mem hpiece (List.mem_singleton_self _))
  simp [erase, foldl_keystroke _ _ typed]

example : erase "SELEX\x08CT".toList = "SELECT".toList := by decide +kernel
example : erase "\x08\x08a\x08b".toList = "b".toList := by decide +kernel

end RecordQuery.Text
