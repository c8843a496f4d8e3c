import RecordQuery.Clause
import RecordQuery.Statement

/-!
# The grammar of statements

`Statement.parse` reads a statement. The parts of a statement are checked in a fixed order, and the
first part that does not fit decides the error.

* `SyntaxError`: what can be wrong with a statement, with its text.
* `SelectStatement.ofClause`, `InsertStatement.ofClause`, `DeleteStatement.ofClause`,
  `UpdateStatement.ofClause`: the four shapes.
* `normalize`: a statement without blanks around it and without one semicolon at its end.
-/

namespace RecordQuery

/-! ## Errors -/

/-- What is wrong with a statement. -/
inductive SyntaxError where
  | selectShape
  | selectTarget
  | selectCondition
  | insertUnsupported
  | insertShape
  | insertTarget
  | insertCount
  | insertValue (text : String)
  | deleteUnsupported
  | deleteShape
  | deleteTarget
  | deleteWithoutCondition
  | deleteCondition
  | deleteValue
  | updateUnsupported
  | updateTarget
  | updateShape
  | updateValue (text : String)
  | updatePair (text : String)
  | updateCondition
  | updateKey
  | updateNothing
deriving DecidableEq, Repr

def SyntaxError.message : SyntaxError → String
  | selectShape => "Invalid SELECT query format."
  | selectTarget => "Invalid FROM clause format (namespace.set expected)."
  | selectCondition => "Invalid WHERE clause format."
  | insertUnsupported => "Unsupported INSERT syntax."
  | insertShape => "Invalid INSERT INTO syntax."
  | insertTarget => "Invalid namespace.set format in INSERT."
  | insertCount => "Number of bin names does not match number of values."
  | insertValue text => "Error parsing value: " ++ text
  | deleteUnsupported => "Unsupported DELETE syntax."
  | deleteShape => "Invalid DELETE FROM syntax."
  | deleteTarget => "Invalid namespace.set format in DELETE."
  | deleteWithoutCondition => "DELETE requires a WHERE clause in this basic implementation."
  | deleteCondition => "Invalid WHERE clause in DELETE."
  | deleteValue => "DELETE WHERE value must be a string for this basic implementation."
  | updateUnsupported => "Unsupported UPDATE syntax."
  | updateTarget => "Invalid UPDATE namespace.set format."
  | updateShape => "Invalid UPDATE syntax (missing SET or WHERE)."
  | updateValue text => "Error parsing value in SET clause: " ++ text
  | updatePair text => "Invalid bin=value pair in SET clause: " ++ text
  | updateCondition => "Invalid WHERE clause in UPDATE."
  | updateKey => "Key value in WHERE clause must be a string for this basic implementation."
  | updateNothing => "No bins to update."

def SyntaxError.orElse {α : Type} (e : SyntaxError) : Option α → Except SyntaxError α
  | some a => .ok a
  | none => .error e

/-- An error unless a condition holds. -/
def SyntaxError.unless (e : SyntaxError) (condition : Bool) : Except SyntaxError Unit :=
  if condition then .ok () else .error e

/-! ## Parts -/

/-- A statement without blanks around it and without one semicolon at its end. -/
def normalize (text : List Char) : List Char :=
  let text := Text.trim text
  if text.getLast? == some ';' then Text.trimEnd text.dropLast else text

/-- Reads a namespace and a set with one point between them. -/
def SetName.parse? (text : List Char) : Option SetName :=
  match text.splitOn '.' with
  | [space, set] =>
    if space.isEmpty || set.isEmpty then none
    else some ⟨String.ofList space, String.ofList set⟩
  | _ => none

namespace Clause

/-- The word with a point in it that stands at a position. -/
def dottedWordAt? (clause : Clause) (position : Nat) : Option (List Char) :=
  (clause.wordAt? position).filter fun word => word.contains '.'

/-- The two sides of the only equals sign of a clause; neither may be empty. -/
def equality? (clause : Clause) : Option Equality :=
  match clause.splitOn .equals with
  | [bin, value] =>
    if bin.isEmpty || value.isEmpty then none
    else some { bin := bin.name, value := Literal.coerce value.text }
  | _ => none

/-- The names of a list of bins; there is at least one, and neither an empty one nor a star. -/
def binNames? (clause : Clause) : Option (List String) :=
  if clause.isEmpty then none
  else
    (clause.splitOn .comma).mapM fun part =>
      if part.text.isEmpty || part.text == ['*'] then none else some part.name

/-- The bins that a selection shows: all of them for a star, else the listed ones. -/
def projection? (clause : Clause) : Option BinSelection :=
  if clause.singleWord? == some ['*'] then some .all else clause.binNames?.map .named

def assignment (clause : Clause) : Except SyntaxError (String × Assignment) :=
  match clause.splitOn .equals with
  | [bin, value] =>
    if bin.isEmpty then .error (.updatePair clause.name)
    else if value.isEmpty then .error (.updateValue clause.name)
    else .ok (bin.name, Assignment.ofRaw value.text)
  | _ => .error (.updatePair clause.name)

/-- The assignments of an update, of which the last one to a bin counts. -/
def assignments (clause : Clause) : Except SyntaxError (SortedMap Assignment) :=
  if clause.isEmpty then .ok .empty
  else ((clause.splitOn .comma).mapM assignment).map SortedMap.ofList

/-- The columns of an insertion, none of which may be empty. -/
def columns (clause : Clause) : Except SyntaxError (List String) :=
  (clause.splitOn .comma).mapM fun part =>
    if part.text.isEmpty then .error .insertShape else .ok part.name

/-- The values of an insertion, none of which may be empty. -/
def values (parts : List Clause) : Except SyntaxError (List Literal) :=
  parts.mapM fun part =>
    if part.text.isEmpty then .error (.insertValue part.name) else .ok (Literal.coerce part.text)

end Clause

/-! ## Statements -/

open Clause in
/-- Reads `SELECT bins FROM set` with `WHERE bin = value` or without. -/
def SelectStatement.ofClause (clause : Clause) : Except SyntaxError SelectStatement :=
  match clause.keywordPositions "FROM" with
  | [start] => do
    let bins ← SyntaxError.selectShape.orElse (clause.slice 1 start).projection?
    let rest := clause.tail (start + 1)
    let (target, condition) ← match rest.keywordPositions "WHERE" with
      | [] => .ok (rest, none)
      | [position] => .ok (rest.slice 0 position, some (rest.tail (position + 1)))
      | _ => .error SyntaxError.selectCondition
    let target ← SyntaxError.selectTarget.orElse (target.singleWord?.bind SetName.parse?)
    match condition with
    | none => return { target, bins, predicate := none }
    | some condition =>
      let predicate ← SyntaxError.selectCondition.orElse condition.equality?
      return { target, bins, predicate := some predicate }
  | _ => .error .selectShape

/-- Reads `INSERT INTO set (columns) VALUES (values)`. -/
def InsertStatement.ofClause (clause : Clause) : Except SyntaxError InsertStatement := do
  SyntaxError.insertUnsupported.unless (clause.isKeywordAt 1 "INTO")
  let word ← SyntaxError.insertShape.orElse (clause.dottedWordAt? 2)
  let target ← SyntaxError.insertTarget.orElse (SetName.parse? word)
  let (columnList, position) ← SyntaxError.insertShape.orElse (clause.group? 3)
  SyntaxError.insertShape.unless (clause.isKeywordAt position "VALUES")
  let (valueList, stop) ← SyntaxError.insertShape.orElse (clause.group? (position + 1))
  SyntaxError.insertShape.unless (stop == clause.length)
  let columns ← columnList.columns
  let parts := valueList.splitOn .comma
  SyntaxError.insertCount.unless (parts.length == columns.length)
  let values ← Clause.values parts
  return { target, columns, values }

def DeleteStatement.ofClause (clause : Clause) : Except SyntaxError DeleteStatement := do
  SyntaxError.deleteUnsupported.unless (clause.isKeywordAt 1 "FROM")
  let word ← SyntaxError.deleteShape.orElse (clause.dottedWordAt? 2)
  let target ← SyntaxError.deleteTarget.orElse (SetName.parse? word)
  let conditions := clause.keywordPositions "WHERE"
  let position ← SyntaxError.deleteWithoutCondition.orElse conditions.head?
  SyntaxError.deleteShape.unless (position == 3)
  SyntaxError.deleteCondition.unless (conditions.length ≤ 1)
  let predicate ← SyntaxError.deleteCondition.orElse (clause.tail (position + 1)).equality?
  SyntaxError.deleteValue.unless predicate.value.isString
  return { target, predicate }

/-- Reads `UPDATE set SET assignments WHERE bin = value`. Assignments to the key column are read
and dropped. -/
def UpdateStatement.ofClause (clause : Clause) : Except SyntaxError UpdateStatement := do
  let word ← SyntaxError.updateUnsupported.orElse (clause.dottedWordAt? 1)
  let target ← SyntaxError.updateTarget.orElse (SetName.parse? word)
  let conditions := clause.keywordPositions "WHERE"
  let start ← SyntaxError.updateShape.orElse (clause.keywordPositions "SET").head?
  let position ← SyntaxError.updateShape.orElse conditions.head?
  SyntaxError.updateShape.unless (start == 2 && start < position)
  let assignments ← (clause.slice (start + 1) position).assignments
  SyntaxError.updateCondition.unless (conditions.length ≤ 1)
  let predicate ← SyntaxError.updateCondition.orElse (clause.tail (position + 1)).equality?
  SyntaxError.updateKey.unless predicate.value.isString
  let kept := assignments.filter fun bin _ => !isKeyColumn bin
  SyntaxError.updateNothing.unless !kept.isEmpty
  return { target, assignments := kept, predicate }

def Statement.ofClause (command : Command) (clause : Clause) : Except SyntaxError Statement :=
  match command with
  | .select => (SelectStatement.ofClause clause).map .select
  | .insert => (InsertStatement.ofClause clause).map .insert
  | .delete => (DeleteStatement.ofClause clause).map .delete
  | .update => (UpdateStatement.ofClause clause).map .update

def Statement.parse (text : List Char) : Except Error Statement := do
  let text := normalize text
  let command ← Command.classify text
  (Statement.ofClause command (tokenize text)).mapError fun e => Error.parse e.message

end RecordQuery
