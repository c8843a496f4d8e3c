import RecordQuery.Token

/-!
# Clauses

A clause is a run of tokens of a statement. Clauses are cut at keywords, at commas and equals
signs and at parentheses. Positions and cuts count only outside parentheses; a closing parenthesis
without an opening one counts for nothing.

* `Clause.text`: the source text between the ends of a clause.
* `Clause.keywordPositions`: where a keyword stands.
* `Clause.splitOn`: the clauses between the tokens of a kind.
* `Clause.group?`: the clause between a parenthesis and the one that closes it.
-/

namespace RecordQuery

/-- A run of tokens of a statement. -/
abbrev Clause := List Token

def Token.depthAfter (depth : Nat) (t : Token) : Nat :=
  match t.kind with
  | .leftParen => depth + 1
  | .rightParen => depth - 1
  | _ => depth

namespace Clause

/-- The tokens as they are written one after the other, gaps included. -/
def spelling (tokens : List Token) : List Char :=
  tokens.flatMap fun t => t.gap ++ t.chars

/-- The source text of a clause, from its first token to its last. -/
def text : Clause → List Char
  | [] => []
  | first :: rest => first.chars ++ spelling rest

def name (clause : Clause) : String :=
  String.ofList clause.text

def textAt? (clause : Clause) (position : Nat) : Option (List Char) :=
  clause[position]?.map Token.chars

def wordAt? (clause : Clause) (position : Nat) : Option (List Char) :=
  clause[position]?.bind Token.word?

def isKeywordAt (clause : Clause) (position : Nat) (keyword : String) : Bool :=
  clause[position]?.any (Token.isKeyword keyword)

/-- The word that a clause consists of, if it is a single word. -/
def singleWord? : Clause → Option (List Char)
  | [t] => t.word?
  | _ => none

/-- The tokens from one position up to another; positions beyond the end stand for the end. -/
def slice (clause : Clause) (start stop : Nat) : Clause :=
  (clause.take stop).drop start

def tail (clause : Clause) (start : Nat) : Clause :=
  clause.drop start

/-- The positions of a keyword among tokens, the first of which is at `position` and within `depth`
parentheses. -/
def keywordPositionsFrom (keyword : String) (position depth : Nat) : List Token → List Nat
  | [] => []
  | t :: rest =>
    let later := keywordPositionsFrom keyword (position + 1) (t.depthAfter depth) rest
    if depth = 0 ∧ t.isKeyword keyword then position :: later else later

/-- The positions of a keyword outside parentheses. -/
def keywordPositions (clause : Clause) (keyword : String) : List Nat :=
  keywordPositionsFrom keyword 0 0 clause

/-- Whether a token within `depth` parentheses separates the parts of a clause. A parenthesis
never does. -/
def isSeparator (kind : TokenKind) (depth : Nat) (t : Token) : Bool :=
  depth == 0 && t.kind == kind && kind != .leftParen && kind != .rightParen

/-- The parts between the separators, the first token being within `depth` parentheses. -/
def splitFrom (kind : TokenKind) (depth : Nat) : List Token → List Clause
  | [] => [[]]
  | t :: rest =>
    if isSeparator kind depth t then [] :: splitFrom kind depth rest
    else
      match splitFrom kind (t.depthAfter depth) rest with
      | [] => [[t]]
      | first :: others => (t :: first) :: others

/-- The parts of a clause between the tokens of a kind that stand outside parentheses. -/
def splitOn (clause : Clause) (kind : TokenKind) : List Clause :=
  splitFrom kind 0 clause

/-- The tokens before the parenthesis that closes a group, `depth` further groups being open. -/
def untilClosed (depth : Nat) : List Token → Option Clause
  | [] => none
  | t :: rest =>
    match t.kind with
    | .leftParen => (untilClosed (depth + 1) rest).map (t :: ·)
    | .rightParen =>
      match depth with
      | 0 => some []
      | depth + 1 => (untilClosed depth rest).map (t :: ·)
    | _ => (untilClosed depth rest).map (t :: ·)

/-- The group that opens at a position: the clause between its parentheses and the position after
the closing one. -/
def group? (clause : Clause) (position : Nat) : Option (Clause × Nat) :=
  match clause.drop position with
  | [] => none
  | t :: rest =>
    if t.kind = .leftParen then
      (untilClosed 0 rest).map fun inner => (inner, position + inner.length + 2)
    else none

end Clause

end RecordQuery
