import RecordQuery.Proofs.Outcome

/-!
# What a statement is read from

Each of the four readers succeeds with a statement exactly on the clauses of its shape.

* `SelectStatement.ofClause_eq_ok_iff`, `InsertStatement.ofClause_eq_ok_iff`,
  `DeleteStatement.ofClause_eq_ok_iff`, `UpdateStatement.ofClause_eq_ok_iff`.
* `Statement.parse_eq_ok_iff`: a text reads as a statement where its clause does.
-/

namespace RecordQuery

variable {c : Clause}

def Clause.IsTargetAt (c : Clause) (position : Nat) (target : SetName) : Prop :=
  ∃ word, c.dottedWordAt? position = some word ∧ SetName.parse? word = some target

theorem head?_eq_some_and_length_le_one {positions : List Nat} {position : Nat} :
    positions.head? = some position ∧ positions.length ≤ 1 ↔ positions = [position] := by
  constructor
  · rintro ⟨hhead, hlength⟩
    obtain ⟨rest, rfl⟩ := List.head?_eq_some_iff.1 hhead
    obtain rfl : rest = [] := List.length_eq_zero_iff.1 (by simpa using hlength)
    rfl
  · rintro rfl
    exact ⟨rfl, Nat.le_refl 1⟩

theorem SelectStatement.ofClause_eq_ok_iff {s : SelectStatement} :
    SelectStatement.ofClause c = .ok s ↔
      ∃ start, c.keywordPositions "FROM" = [start] ∧
        (c.slice 1 start).projection? = some s.bins ∧
        ((c.tail (start + 1)).keywordPositions "WHERE" = [] ∧
            (c.tail (start + 1)).singleWord?.bind SetName.parse? = some s.target ∧
            s.predicate = none ∨
          ∃ position predicate, (c.tail (start + 1)).keywordPositions "WHERE" = [position] ∧
            ((c.tail (start + 1)).slice 0 position).singleWord?.bind SetName.parse? =
              some s.target ∧
            ((c.tail (start + 1)).tail (position + 1)).equality? = some predicate ∧
            s.predicate = some predicate) := by
  obtain ⟨target, bins, predicate⟩ := s
  unfold SelectStatement.ofClause
  constructor
  · intro h
    split at h
    next start hstart =>
      refine ⟨start, hstart, ?_⟩
      obtain ⟨bins', hbins, h⟩ := bind_eq_ok_iff.1 h
      dsimp only at h
      split at h
      next hnone =>
        rw [ok_bind] at h
        obtain ⟨target', htarget, h⟩ := bind_eq_ok_iff.1 h
        cases h
        exact ⟨SyntaxError.orElse_eq_ok_iff.1 hbins, .inl ⟨hnone,
          SyntaxError.orElse_eq_ok_iff.1 htarget, rfl⟩⟩
      next position hposition =>
        rw [ok_bind] at h
        obtain ⟨target', htarget, h⟩ := bind_eq_ok_iff.1 h
        obtain ⟨equality, hequality, h⟩ := bind_eq_ok_iff.1 h
        cases h
        exact ⟨SyntaxError.orElse_eq_ok_iff.1 hbins, .inr ⟨position, equality, hposition,
          SyntaxError.orElse_eq_ok_iff.1 htarget, SyntaxError.orElse_eq_ok_iff.1 hequality, rfl⟩⟩
      next => cases h
    next => cases h
  · rintro ⟨start, hstart, hbins, ⟨hnone, htarget, hpredicate⟩ |
      ⟨position, equality, hposition, htarget, hequality, hpredicate⟩⟩
    · cases hpredicate
      rw [hstart]
      dsimp only at hbins htarget ⊢
      rw [hnone, hbins]
      dsimp only [ok_bind]
      rw [htarget]
      rfl
    · cases hpredicate
      rw [hstart]
      dsimp only at hbins htarget ⊢
      rw [hposition, hbins]
      dsimp only [ok_bind]
      rw [htarget, hequality]
      rfl

theorem DeleteStatement.ofClause_eq_ok_iff {s : DeleteStatement} :
    DeleteStatement.ofClause c = .ok s ↔
      c.isKeywordAt 1 "FROM" = true ∧ c.IsTargetAt 2 s.target ∧
        c.keywordPositions "WHERE" = [3] ∧ (c.tail 4).equality? = some s.predicate ∧
        s.predicate.value.isString = true := by
  obtain ⟨target, predicate⟩ := s
  unfold DeleteStatement.ofClause
  simp only [bind_eq_ok_iff, SyntaxError.orElse_eq_ok_iff, SyntaxError.unless_eq_ok_iff]
  constructor
  · rintro ⟨-, hfrom, word, hword, target', htarget, position, hhead, -, hposition, -, hone,
      equality, hequality, -, hstring, h⟩
    cases h
    obtain rfl : position = 3 := eq_of_beq hposition
    exact ⟨hfrom, ⟨word, hword, htarget⟩,
      head?_eq_some_and_length_le_one.1 ⟨hhead, of_decide_eq_true hone⟩, hequality, hstring⟩
  · rintro ⟨hfrom, ⟨word, hword, htarget⟩, hpositions, hequality, hstring⟩
    rw [hpositions]
    exact ⟨(), hfrom, word, hword, target, htarget, 3, rfl, (), rfl, (), rfl, predicate, hequality,
      (), hstring, rfl⟩

theorem UpdateStatement.ofClause_eq_ok_iff {s : UpdateStatement} :
    UpdateStatement.ofClause c = .ok s ↔
      c.IsTargetAt 1 s.target ∧ (c.keywordPositions "SET").head? = some 2 ∧
        ∃ position assignments, c.keywordPositions "WHERE" = [position] ∧ 2 < position ∧
          (c.slice 3 position).assignments = .ok assignments ∧
          (c.tail (position + 1)).equality? = some s.predicate ∧
          s.predicate.value.isString = true ∧
          s.assignments = assignments.filter (fun bin _ => !isKeyColumn bin) ∧
          s.assignments.isEmpty = false := by
  obtain ⟨target, kept, predicate⟩ := s
  unfold UpdateStatement.ofClause
  simp only [bind_eq_ok_iff, SyntaxError.orElse_eq_ok_iff, SyntaxError.unless_eq_ok_iff,
    Bool.and_eq_true, Bool.not_eq_true', beq_iff_eq, decide_eq_true_eq]
  constructor
  · rintro ⟨word, hword, target', htarget, start, hset, position, hhead, -, ⟨rfl, hlt⟩,
      assignments, hassignments, -, hone, equality, hequality, -, hstring, -, hsome, h⟩
    cases h
    exact ⟨⟨word, hword, htarget⟩, hset, position, assignments,
      head?_eq_some_and_length_le_one.1 ⟨hhead, hone⟩, hlt, hassignments, hequality, hstring, rfl,
      hsome⟩
  · rintro ⟨⟨word, hword, htarget⟩, hset, position, assignments, hpositions, hlt, hassignments,
      hequality, hstring, rfl, hsome⟩
    rw [hpositions]
    exact ⟨word, hword, target, htarget, 2, hset, position, rfl, (), ⟨rfl, hlt⟩, assignments,
      hassignments, (), Nat.le_refl 1, predicate, hequality, (), hstring, (), hsome, rfl⟩

theorem InsertStatement.ofClause_eq_ok_iff {s : InsertStatement} :
    InsertStatement.ofClause c = .ok s ↔
      c.isKeywordAt 1 "INTO" = true ∧ c.IsTargetAt 2 s.target ∧
        ∃ columnList position valueList, c.group? 3 = some (columnList, position) ∧
          c.isKeywordAt position "VALUES" = true ∧
          c.group? (position + 1) = some (valueList, c.length) ∧
          columnList.columns = .ok s.columns ∧
          (valueList.splitOn .comma).length = s.columns.length ∧
          Clause.values (valueList.splitOn .comma) = .ok s.values := by
  obtain ⟨target, columns, values⟩ := s
  unfold InsertStatement.ofClause
  simp only [bind_eq_ok_iff, SyntaxError.orElse_eq_ok_iff, SyntaxError.unless_eq_ok_iff,
    Prod.exists, beq_iff_eq]
  constructor
  · rintro ⟨-, hinto, word, hword, target', htarget, columnList, position, hcolumnList, -, hkeyword,
      valueList, stop, hvalueList, -, rfl, columns', hcolumns, -, hcount, values', hvalues, h⟩
    cases h
    exact ⟨hinto, ⟨word, hword, htarget⟩, columnList, position, valueList, hcolumnList, hkeyword,
      hvalueList, hcolumns, hcount, hvalues⟩
  · rintro ⟨hinto, ⟨word, hword, htarget⟩, columnList, position, valueList, hcolumnList, hkeyword,
      hvalueList, hcolumns, hcount, hvalues⟩
    exact ⟨(), hinto, word, hword, target, htarget, columnList, position, hcolumnList, (), hkeyword,
      valueList, _, hvalueList, (), rfl, columns, hcolumns, (), hcount, values, hvalues, rfl⟩

/-! ## Statements -/

namespace Statement

theorem command_of_ofClause {command : Command} {s : Statement}
    (h : Statement.ofClause command c = .ok s) : s.command = command := by
  cases command <;>
    · obtain ⟨s, -, rfl⟩ := map_eq_ok_iff.1 h
      rfl

theorem parse_eq_ok_iff {text : List Char} {s : Statement} :
    parse text = .ok s ↔ Command.classify (normalize text) = .ok s.command ∧
      ofClause s.command (tokenize (normalize text)) = .ok s := by
  unfold parse
  simp only [bind_eq_ok_iff, mapError_eq_ok_iff]
  constructor
  · rintro ⟨command, hclassify, hclause⟩
    rw [command_of_ofClause hclause]
    exact ⟨hclassify, hclause⟩
  · rintro ⟨hclassify, hclause⟩
    exact ⟨_, hclassify, hclause⟩

end Statement

end RecordQuery
