import RecordQuery.Statement.Grammar
import RecordQuery.Proofs.Clause.Cutting
import RecordQuery.Proofs.Literal.Spelling

/-!
# Drafts of statements

A draft is a statement before it is written down. It has a statement that it stands for and the
lexemes that it is written with; what it is written with leaves the case of keywords and the blanks
open.

* `Draft.statement`: what a draft stands for.
* `Draft.lexemes`: what it is written with.
* `Draft.IsWritable`: what its names and values may be.
-/

namespace RecordQuery

/-! ## Names -/

/-- A name that is one word: not empty, without blanks and without marks. -/
def IsPlain (name : String) : Prop :=
  name ≠ "" ∧ ∀ c ∈ name.toList, isWordChar c = true

instance (name : String) : Decidable (IsPlain name) :=
  inferInstanceAs (Decidable (_ ∧ _))

/-- Whether a name could be taken for a keyword. -/
def isNamedLike (keyword name : String) : Bool :=
  Text.equalIgnoringCase name.toList keyword.toList

/-- A set whose two names are plain and have no point in them. -/
def SetName.IsPlain (target : SetName) : Prop :=
  (RecordQuery.IsPlain target.space ∧ '.' ∉ target.space.toList) ∧
    RecordQuery.IsPlain target.set ∧ '.' ∉ target.set.toList

instance (target : SetName) : Decidable target.IsPlain :=
  inferInstanceAs (Decidable ((_ ∧ _) ∧ _ ∧ _))

def nameLexeme (name : String) : Lexeme :=
  .word name.toList

/-- What an equality of a bin and a value is written with. -/
def equationLexemes (bin : String) (value : Literal) : List Lexeme :=
  [nameLexeme bin, .equals, value.lexeme]

/-! ## Drafts -/

/-- A statement as it is about to be written. An update lists its assignments, and may list several
to one bin or to the key column. -/
inductive Draft where
  | select (target : SetName) (bins : BinSelection) (predicate : Option Equality)
  | insert (target : SetName) (columns : List String) (values : List Literal)
  | delete (target : SetName) (predicate : Equality)
  | update (target : SetName) (assignments : List (String × Literal)) (predicate : Equality)

namespace Draft

def command : Draft → Command
  | select _ _ _ => .select
  | insert _ _ _ => .insert
  | delete _ _ => .delete
  | update _ _ _ => .update

/-- What a draft stands for. Of several assignments to a bin the last one counts, and those to the
key column count for nothing. -/
def statement : Draft → Statement
  | select target bins predicate => .select { target, bins, predicate }
  | insert target columns values => .insert { target, columns, values }
  | delete target predicate => .delete { target, predicate }
  | update target assignments predicate =>
    .update
      { target
        assignments := SortedMap.ofList
          ((assignments.filter fun assignment => !isKeyColumn assignment.1).map
            fun (bin, value) => (bin, { value, text := value.text }))
        predicate }

def binLexemes : BinSelection → List Lexeme
  | .all => [.word ['*']]
  | .named names => listLexemes (fun name => [nameLexeme name]) names

/-- What a condition is written with, under a spelling of its keyword. -/
def conditionLexemes (spell : String → List Char) (predicate : Equality) : List Lexeme :=
  .word (spell "WHERE") :: equationLexemes predicate.bin predicate.value

/-- What a draft is written with, under a spelling of its keywords. -/
def lexemes (spell : String → List Char) : Draft → List Lexeme
  | select target bins predicate =>
    .word (spell "SELECT") :: binLexemes bins ++
      .word (spell "FROM") :: nameLexeme target.display ::
        (predicate.map (conditionLexemes spell)).getD []
  | insert target columns values =>
    .word (spell "INSERT") :: .word (spell "INTO") :: nameLexeme target.display ::
      .leftParen :: listLexemes (fun name => [nameLexeme name]) columns ++
      .rightParen :: .word (spell "VALUES") ::
      .leftParen :: listLexemes (fun value => [value.lexeme]) values ++ [.rightParen]
  | delete target predicate =>
    .word (spell "DELETE") :: .word (spell "FROM") :: nameLexeme target.display ::
      conditionLexemes spell predicate
  | update target assignments predicate =>
    .word (spell "UPDATE") :: nameLexeme target.display :: .word (spell "SET") ::
      listLexemes (fun (bin, value) => equationLexemes bin value) assignments ++
      conditionLexemes spell predicate

/-- Whether bins can be listed in a selection: each is a plain name, and neither a star nor the
keyword after the list. -/
def BinsWritable : BinSelection → Prop
  | .all => True
  | .named names =>
    names ≠ [] ∧ ∀ name ∈ names, IsPlain name ∧ name ≠ "*" ∧ isNamedLike "FROM" name = false

def IsWritable : Draft → Prop
  | select target bins predicate =>
    target.IsPlain ∧ BinsWritable bins ∧
      ∀ equality ∈ predicate, IsPlain equality.bin ∧ isNamedLike "FROM" equality.bin = false ∧
        isNamedLike "WHERE" equality.bin = false ∧ equality.value.IsWritable
  | insert target columns values =>
    target.IsPlain ∧ columns ≠ [] ∧ columns.length = values.length ∧
      (∀ column ∈ columns, IsPlain column) ∧ ∀ value ∈ values, value.IsWritable
  | delete target predicate =>
    target.IsPlain ∧ IsPlain predicate.bin ∧ isNamedLike "WHERE" predicate.bin = false ∧
      predicate.value.isString = true ∧ predicate.value.IsWritable
  | update target assignments predicate =>
    target.IsPlain ∧
      (∀ assignment ∈ assignments, IsPlain assignment.1 ∧
        isNamedLike "WHERE" assignment.1 = false ∧ assignment.2.IsWritable) ∧
      (∃ assignment ∈ assignments, isKeyColumn assignment.1 = false) ∧
      IsPlain predicate.bin ∧ isNamedLike "WHERE" predicate.bin = false ∧
      predicate.value.isString = true ∧ predicate.value.IsWritable

instance : DecidablePred BinsWritable
  | .all => inferInstanceAs (Decidable True)
  | .named _ => inferInstanceAs (Decidable (_ ∧ _))

instance : DecidablePred IsWritable
  | select _ _ predicate => inferInstanceAs (Decidable (_ ∧ _ ∧ ∀ equality ∈ predicate, _))
  | insert _ _ _ => inferInstanceAs (Decidable (_ ∧ _ ∧ _ ∧ _ ∧ _))
  | delete _ _ => inferInstanceAs (Decidable (_ ∧ _ ∧ _ ∧ _ ∧ _))
  | update _ _ _ => inferInstanceAs (Decidable (_ ∧ _ ∧ _ ∧ _ ∧ _ ∧ _ ∧ _))

end Draft

end RecordQuery
