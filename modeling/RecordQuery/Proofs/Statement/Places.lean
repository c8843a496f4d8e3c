import RecordQuery.Proofs.Clause.Replacing
import RecordQuery.Proofs.Statement.Alike
import RecordQuery.Proofs.Statement.Shape

/-!
# Values and the places where they stand

A value of a statement is read from a run of tokens. Where it is read from one quoted string alone,
the statement depends on the string in this value only.

* `Clause.valueParts`: the values that a clause is read for, with their tokens.
* `Statement.valueAt?`, `Statement.withString`: a value of a statement, and another string in its
  place.
* `Statement.DifferIn`: what another string in one part of the clause may change.
-/

namespace RecordQuery

/-! ## Places -/

/-- Where a statement holds a value: a column of an insertion, a bin of an update, or the
condition. -/
inductive ValuePlace where
  | inserted (index : Nat)
  | assigned (bin : String)
  | condition
deriving DecidableEq

namespace Statement

/-- The value that a statement holds in a place. -/
def valueAt? : Statement → ValuePlace → Option Literal
  | .insert s, .inserted index => s.values[index]?
  | .update s, .assigned bin => (s.assignments.get? bin).map Assignment.value
  | .select s, .condition => s.predicate.map Equality.value
  | .delete s, .condition => some s.predicate.value
  | .update s, .condition => some s.predicate.value
  | _, _ => none

/-- A statement with a string as the value in a place. -/
def withString (statement : Statement) (place : ValuePlace) (text : String) : Statement :=
  match statement, place with
  | .insert s, .inserted index => .insert { s with values := s.values.set index (.str text) }
  | .update s, .assigned bin =>
    .update { s with assignments := s.assignments.insert bin ⟨.str text, text⟩ }
  | .select s, .condition =>
    .select { s with predicate := s.predicate.map fun e => { e with value := .str text } }
  | .delete s, .condition => .delete { s with predicate.value := .str text }
  | .update s, .condition => .update { s with predicate.value := .str text }
  | s, _ => s

theorem valueAt?_withString {s : Statement} {place : ValuePlace} {old : Literal}
    (h : s.valueAt? place = some old) (text : String) :
    (s.withString place text).valueAt? place = some (.str text) := by
  cases s <;> cases place <;> first | rfl | cases h | skip
  case insert.inserted s index =>
    obtain ⟨hindex, -⟩ := List.getElem?_eq_some_iff.1 h
    exact List.getElem?_set_self hindex
  case update.assigned s bin =>
    simp only [valueAt?, withString, SortedMap.get?_insert_self]
    rfl
  case select.condition s =>
    obtain ⟨e, he, -⟩ := Option.map_eq_some_iff.1 h
    simp only [valueAt?, withString, he]
    rfl

end Statement

/-! ## Parts of a clause -/

/-- The tokens that a value is read from, the position of the first of them, and the place that the
value is for. -/
structure ValuePart where
  place : ValuePlace
  position : Nat
  tokens : Clause
deriving DecidableEq

/-- Whether a statement holds the value of a part, given the parts after it. The value for a bin is
dropped if the bin is the key column or is assigned again. -/
def ValuePart.IsKept (part : ValuePart) (later : List ValuePart) : Prop :=
  ∀ bin, part.place = .assigned bin →
    isKeyColumn bin = false ∧ ∀ other ∈ later, other.place ≠ .assigned bin

/-- Whether two statements are equal but for the string that is the value of a part. They are equal
if the value is dropped. -/
def Statement.DifferIn (part : ValuePart) (later : List ValuePart) (x y : String)
    (s s' : Statement) : Prop :=
  (part.IsKept later → s.valueAt? part.place = some (.str x) ∧
    s'.valueAt? part.place = some (.str y) ∧ s' = s.withString part.place y) ∧
  (¬part.IsKept later → s' = s)

theorem Statement.differIn_withString {part : ValuePart} {later : List ValuePart} {x y : String}
    {s : Statement} (h : s.valueAt? part.place = some (.str x)) (hkept : part.IsKept later) :
    Statement.DifferIn part later x y s (s.withString part.place y) :=
  ⟨fun _ => ⟨h, Statement.valueAt?_withString h y, rfl⟩, fun hdropped => absurd hkept hdropped⟩

namespace Clause

/-- Parts of a clause with the positions of their first tokens, one separator between each two. -/
def placed (position : Nat) : List Clause → List (Nat × Clause)
  | [] => []
  | part :: parts => (position, part) :: placed (position + part.length + 1) parts

/-- The right side of an equality that begins at a position. -/
def rightSide? (place : String → ValuePlace) (position : Nat) (clause : Clause) :
    Option ValuePart :=
  match clause.splitOn .equals with
  | [bin, value] => some ⟨place bin.name, position + bin.length + 1, value⟩
  | _ => none

/-- The value of the condition that begins at a position. -/
def conditionPart (clause : Clause) (position : Nat) : List ValuePart :=
  ((clause.tail position).rightSide? (fun _ => .condition) position).toList

/-- The values of a list of assignments that begins at a position. -/
def assignedParts (clause : Clause) (position : Nat) : List ValuePart :=
  (placed position (clause.splitOn .comma)).filterMap fun part =>
    part.2.rightSide? .assigned part.1

/-- The values that a clause is read for under a command. -/
def valueParts (clause : Clause) : Command → List ValuePart
  | .select =>
    match clause.keywordPositions "FROM" with
    | [start] =>
      match (clause.tail (start + 1)).keywordPositions "WHERE" with
      | [position] => clause.conditionPart (start + 1 + (position + 1))
      | _ => []
    | _ => []
  | .insert =>
    match clause.group? 3 with
    | some (_, position) =>
      match clause.group? (position + 1) with
      | some (valueList, _) =>
        (placed (position + 2) (valueList.splitOn .comma)).mapIdx fun index part =>
          ⟨.inserted index, part.1, part.2⟩
      | none => []
    | none => []
  | .delete =>
    match clause.keywordPositions "WHERE" with
    | [position] => clause.conditionPart (position + 1)
    | _ => []
  | .update =>
    match clause.keywordPositions "WHERE" with
    | [position] =>
      (clause.slice 3 position).assignedParts 3 ++ clause.conditionPart (position + 1)
    | _ => []

/-- The values of an update, one of which is more than one token. -/
example :
    valueParts (tokenize "UPDATE n.s SET a='x', KEY = 'y' 1, a=2 WHERE PK='z'".toList) .update =
      [⟨.assigned "a", 5, [⟨[], .quoted ['x'] true⟩]⟩,
        ⟨.assigned "KEY", 9, [⟨[' '], .quoted ['y'] true⟩, ⟨[' '], .word ['1']⟩]⟩,
        ⟨.assigned "a", 14, [⟨[], .word ['2']⟩]⟩,
        ⟨.condition, 18, [⟨[], .quoted ['z'] true⟩]⟩] := by
  decide +kernel

theorem placed_eq_append_cons {position start : Nat} {parts : List Clause} {part : Clause}
    {before after : List (Nat × Clause)}
    (h : placed position parts = before ++ (start, part) :: after) :
    ∃ earlier later, parts = earlier ++ part :: later ∧ start = position + extent earlier ∧
      before.length = earlier.length ∧ after = placed (start + part.length + 1) later := by
  induction parts generalizing position before with
  | nil => cases before <;> cases h
  | cons first parts ih =>
    cases before with
    | nil =>
      obtain ⟨hfirst, rfl⟩ := List.cons.inj h
      obtain ⟨rfl, rfl⟩ := Prod.mk.inj hfirst
      exact ⟨[], parts, rfl, rfl, rfl, rfl⟩
    | cons head before =>
      obtain ⟨rfl, hrest⟩ := List.cons.inj h
      obtain ⟨earlier, later, rfl, rfl, hlength, hafter⟩ := ih hrest
      refine ⟨first :: earlier, later, rfl, ?_, by simp [hlength], hafter⟩
      rw [extent_cons]
      omega

theorem rightSide?_eq_some {place : String → ValuePlace} {position : Nat} {clause : Clause}
    {part : ValuePart} (h : clause.rightSide? place position = some part) :
    ∃ bin, clause.splitOn .equals = [bin, part.tokens] ∧ part.place = place bin.name ∧
      part.position = position + bin.length + 1 := by
  unfold rightSide? at h
  split at h
  next bin value hsplit =>
    obtain rfl := Option.some.inj h
    exact ⟨bin, hsplit, rfl, rfl⟩
  next => cases h

end Clause

end RecordQuery
