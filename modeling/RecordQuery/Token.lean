import RecordQuery.Text.Blank
import RecordQuery.Text.Casing
import RecordQuery.Text.Pieces
import RecordQuery.Literal

/-!
# Tokens

A text is a row of tokens with blanks between them. Each token carries the blanks before it, so
the text is spelled by its tokens and nothing refers to positions.

* `Lexeme`: words, quoted strings and the four marks `,` `=` `(` `)`.
* `tokenize`: the tokens of a text. Every text has some.
* `spans`: where the tokens stand, in bytes of UTF-8.
-/

namespace RecordQuery

/-- What a token is. A quoted string that is not closed runs to the end of the text. -/
inductive Lexeme where
  | word (text : List Char)
  | quoted (body : List Char) (closed : Bool)
  | comma
  | equals
  | leftParen
  | rightParen
deriving DecidableEq, Repr

inductive TokenKind where
  | word
  | quoted
  | comma
  | equals
  | leftParen
  | rightParen
deriving DecidableEq, Repr

namespace Lexeme

def kind : Lexeme → TokenKind
  | word _ => .word
  | quoted _ _ => .quoted
  | comma => .comma
  | equals => .equals
  | leftParen => .leftParen
  | rightParen => .rightParen

def chars : Lexeme → List Char
  | word text => text
  | quoted body closed => quoteMark :: body ++ (if closed then [quoteMark] else [])
  | comma => [',']
  | equals => ['=']
  | leftParen => ['(']
  | rightParen => [')']

end Lexeme

/-- A lexeme and the blanks before it. -/
structure Token where
  gap : List Char
  lexeme : Lexeme
deriving DecidableEq, Repr

namespace Token

def kind (t : Token) : TokenKind := t.lexeme.kind

/-- The characters of a token, without the blanks before it. -/
def chars (t : Token) : List Char := t.lexeme.chars

/-- The text of a token that is a word. -/
def word? (t : Token) : Option (List Char) :=
  match t.lexeme with
  | .word text => some text
  | _ => none

/-- Whether a token is a given word up to the case of ASCII letters. -/
def isKeyword (keyword : String) (t : Token) : Bool :=
  t.word?.any fun text => Text.equalIgnoringCase text keyword.toList

end Token

/-! ## Reading -/

/-- A character that is a token by itself or opens a quoted string. -/
def isMark (c : Char) : Bool :=
  c == ',' || c == '=' || c == '(' || c == ')' || c == quoteMark

def isWordChar (c : Char) : Bool :=
  !Text.isBlank c && !isMark c

/-- The lexeme that begins with a character that is not blank, and the text after it. -/
def readLexeme (c : Char) (rest : List Char) : Lexeme × List Char :=
  if c == ',' then (.comma, rest)
  else if c == '=' then (.equals, rest)
  else if c == '(' then (.leftParen, rest)
  else if c == ')' then (.rightParen, rest)
  else if c == quoteMark then
    match Text.cutAt quoteMark rest with
    | some (body, after) => (.quoted body true, after)
    | none => (.quoted rest false, [])
  else (.word (c :: rest.takeWhile isWordChar), rest.dropWhile isWordChar)

theorem length_readLexeme (c : Char) (rest : List Char) :
    (readLexeme c rest).2.length ≤ rest.length := by
  unfold readLexeme
  repeat' split
  all_goals try simp only [Nat.le_refl]
  · next h =>
    rw [(Text.cutAt_eq_some_iff.1 h).1, List.length_append, List.length_cons]
    omega
  · exact Nat.zero_le _
  · exact (List.dropWhile_sublist _).length_le

def tokenize (text : List Char) : List Token :=
  match _start : Text.trimStart text with
  | [] => []
  | c :: rest =>
    { gap := text.takeWhile Text.isBlank, lexeme := (readLexeme c rest).1 } ::
      tokenize (readLexeme c rest).2
termination_by text.length
decreasing_by
  have hread := length_readLexeme c rest
  have htrim : (Text.trimStart text).length ≤ text.length := (List.dropWhile_sublist _).length_le
  rw [_start, List.length_cons] at htrim
  omega

/-! ## Positions -/

/-- The number of bytes of a text in UTF-8. -/
def byteLength : List Char → Nat
  | [] => 0
  | c :: rest => c.utf8Size + byteLength rest

/-- The first byte of each token and the byte after it, when the first gap begins at `start`. -/
def spans (start : Nat) : List Token → List (Nat × Nat)
  | [] => []
  | t :: rest =>
    let first := start + byteLength t.gap
    let last := first + byteLength t.chars
    (first, last) :: spans last rest

end RecordQuery
