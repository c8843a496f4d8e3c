import RecordQuery.Error
import RecordQuery.Literal
import RecordQuery.SortedMap
import RecordQuery.Text.Casing
import RecordQuery.Text.Pieces

/-!
# Statements

The four statements of the query language over records that live in sets of namespaces.

* `SetName`, `RecordKey`: where records live and how one is addressed.
* `Statement`: a statement of one of the four commands.
* `Command.classify`: the command that a text begins with.
* `InsertStatement.resolveWith`: the key and the bins that an insertion writes.
-/

namespace RecordQuery

/-! ## Addresses -/

/-- A set of records within a namespace. -/
structure SetName where
  space : String
  set : String
deriving DecidableEq, Repr, Inhabited

/-- The name of a set as it is written, with a point between its parts. -/
def SetName.display (target : SetName) : String :=
  target.space ++ "." ++ target.set

/-- The address of a record. -/
structure RecordKey where
  space : String
  set : String
  user : String
deriving DecidableEq, Repr, Inhabited

namespace RecordKey

def target (key : RecordKey) : SetName :=
  ⟨key.space, key.set⟩

/-- An address as it is shown, with points between its parts. -/
def display (key : RecordKey) : String :=
  key.space ++ "." ++ key.set ++ "." ++ key.user

end RecordKey

/-- The record with a given key in a set. -/
def SetName.key (target : SetName) (user : String) : RecordKey :=
  ⟨target.space, target.set, user⟩

/-! ## Commands -/

inductive Command where
  | select
  | insert
  | delete
  | update
deriving DecidableEq, Repr

def Command.keyword : Command → String
  | .select => "SELECT"
  | .insert => "INSERT"
  | .delete => "DELETE"
  | .update => "UPDATE"

def Command.ofKeyword? (keyword : String) : Option Command :=
  if keyword = "SELECT" then some .select
  else if keyword = "INSERT" then some .insert
  else if keyword = "DELETE" then some .delete
  else if keyword = "UPDATE" then some .update
  else none

/-- The command of a text: that of its first word in upper case. -/
def Command.classify (text : List Char) : Except Error Command :=
  match Text.words text with
  | [] => .error .emptyQuery
  | word :: _ =>
    let keyword := String.ofList (Text.upper word)
    match Command.ofKeyword? keyword with
    | some command => .ok command
    | none => .error (.unsupportedCommand keyword)

/-! ## Statements -/

/-- The condition that a bin equals a literal. -/
structure Equality where
  bin : String
  value : Literal
deriving DecidableEq, Repr

inductive BinSelection where
  | all
  | named (names : List String)
deriving DecidableEq, Repr

/-- Shows records of a set. -/
structure SelectStatement where
  target : SetName
  bins : BinSelection
  predicate : Option Equality
deriving DecidableEq, Repr

/-- Writes one record. There are as many columns as values. -/
structure InsertStatement where
  target : SetName
  columns : List String
  values : List Literal
deriving DecidableEq, Repr

/-- Deletes the records of a set that satisfy a condition on a string. -/
structure DeleteStatement where
  target : SetName
  predicate : Equality
deriving DecidableEq, Repr

/-- Changes bins of the record whose key is the value of the condition. There is at least one
assignment, and none to the key. -/
structure UpdateStatement where
  target : SetName
  assignments : SortedMap Assignment
  predicate : Equality
deriving DecidableEq

inductive Statement where
  | select (statement : SelectStatement)
  | insert (statement : InsertStatement)
  | delete (statement : DeleteStatement)
  | update (statement : UpdateStatement)
deriving DecidableEq

def Statement.command : Statement → Command
  | .select _ => .select
  | .insert _ => .insert
  | .delete _ => .delete
  | .update _ => .update

/-! ## Keys -/

/-- The column that gives the key of an inserted record. -/
def primaryColumn : String := "Pk"

/-- The column that gives the key where there is no primary column. In any case of its letters it
is no bin. -/
def keyColumn : String := "KEY"

/-- The bin in which every inserted record holds its key. -/
def keyBin : String := "PK"

/-- Whether a name is that of the key column up to case. -/
def isKeyColumn (name : String) : Bool :=
  Text.equalIgnoringCase name.toList keyColumn.toList

/-- A key and the bins to write under it. -/
structure RecordWrite where
  key : RecordKey
  bins : Bins

namespace InsertStatement

/-- The columns with their values, in the order of the statement. -/
def pairs (statement : InsertStatement) : List (String × Literal) :=
  statement.columns.zip statement.values

/-- The text of the first value in a column. -/
def valueIn? (statement : InsertStatement) (column : String) : Option String :=
  (statement.pairs.lookup column).map Literal.text

/-- The key that a statement gives: the value of the primary column, without one that of the key
column. An empty value gives none. -/
def explicitKey? (statement : InsertStatement) : Option String :=
  ((statement.valueIn? primaryColumn).or (statement.valueIn? keyColumn)).filter (· ≠ "")

/-- The write of an insertion under a given key. Of several values for one column the last counts. -/
def writeUnder (statement : InsertStatement) (user : String) : RecordWrite :=
  let bins := (statement.pairs.filter fun pair => !isKeyColumn pair.1).map
    fun pair => (pair.1, pair.2.toValue)
  { key := statement.target.key user
    bins := (SortedMap.ofList bins).insert keyBin (.str user) }

/-- The write of an insertion, with an action that makes up a key. The action runs only where the
statement gives none. -/
def resolveWith {m : Type → Type} [Monad m] (statement : InsertStatement) (generate : m String) :
    m RecordWrite :=
  statement.writeUnder <$>
    match statement.explicitKey? with
    | some user => pure user
    | none => generate

/-- The write of an insertion, with a key to fall back on. -/
def resolve (statement : InsertStatement) (generated : String) : RecordWrite :=
  Id.run (statement.resolveWith (pure generated))

theorem resolve_eq_writeUnder (statement : InsertStatement) (generated : String) :
    statement.resolve generated =
      statement.writeUnder (statement.explicitKey?.getD generated) := by
  unfold resolve resolveWith
  cases statement.explicitKey? <;> rfl

theorem resolve_of_explicitKey? {statement : InsertStatement} {user : String}
    (h : statement.explicitKey? = some user) (generated : String) :
    statement.resolve generated = statement.writeUnder user := by
  rw [resolve_eq_writeUnder, h]
  rfl

end InsertStatement

namespace UpdateStatement

def key (statement : UpdateStatement) : RecordKey :=
  statement.target.key statement.predicate.value.text

def binNames (statement : UpdateStatement) : List String :=
  statement.assignments.keys

end UpdateStatement

end RecordQuery
