import RecordQuery.Proofs.Clause.Alike
import RecordQuery.Proofs.Outcome
import RecordQuery.Proofs.SortedMap

/-!
# Statements that differ in quoted strings

`Statement.ofClause_alike`: alike clauses are both read, as statements of one command on one set, or
both refused.

* `Clause.equality?_alike`, `Clause.projection?_alike`, `Clause.assignments_alike`: the parts.
-/

namespace RecordQuery

/-! ## Parts -/

namespace Clause

variable {c c' : Clause}

theorem name_isKeyColumn_of_mem {text : List Char} (h : quoteMark ∈ text) :
    isKeyColumn (String.ofList text) = false := by
  unfold isKeyColumn
  rw [String.toList_ofList]
  exact Text.equalIgnoringCase_eq_false_of_mem (by decide) h (by decide)

theorem Alike.isKeyColumn_eq (h : c.Alike c') : isKeyColumn c.name = isKeyColumn c'.name :=
  h.text_congr (f := fun text => isKeyColumn (String.ofList text))
    fun _ => name_isKeyColumn_of_mem

theorem Alike.isString_eq (h : c.Alike c') :
    (Literal.coerce c.text).isString = (Literal.coerce c'.text).isString :=
  h.text_congr (f := fun text => (Literal.coerce text).isString) fun _ => Literal.isString_coerce

theorem Alike.isEmpty_text_eq (h : c.Alike c') : c.text.isEmpty = c'.text.isEmpty :=
  h.text_congr (f := List.isEmpty) fun _ hmem =>
    List.isEmpty_eq_false_iff.2 (List.ne_nil_of_mem hmem)

theorem Alike.isStar_eq (h : c.Alike c') : (c.text == ['*']) = (c'.text == ['*']) := by
  refine h.text_congr (f := fun text => text == ['*']) (a := false) fun text hmem => ?_
  rw [beq_eq_false_iff_ne]
  rintro rfl
  exact absurd hmem (by decide)

theorem equality?_alike (h : c.Alike c') :
    Option.Rel (fun e e' => e.value.isString = e'.value.isString) c.equality? c'.equality? := by
  have hparts := splitOn_alike h .equals
  unfold equality?
  generalize c.splitOn .equals = parts at hparts ⊢
  generalize c'.splitOn .equals = parts' at hparts ⊢
  cases hparts with
  | nil => exact .none
  | cons hbin hparts =>
    cases hparts with
    | nil => exact .none
    | cons hvalue hparts =>
      cases hparts with
      | nil =>
        simp only [hbin.isEmpty_eq, hvalue.isEmpty_eq]
        split
        · exact .none
        · exact .some hvalue.isString_eq
      | cons => exact .none

theorem isSome_projection?_alike (h : c.Alike c') :
    c.projection?.isSome = c'.projection?.isSome := by
  have hnames : c.binNames?.isSome = c'.binNames?.isSome := by
    rw [binNames?, binNames?, h.isEmpty_eq]
    split
    · rfl
    · refine isSome_mapM (splitOn_alike h .comma) fun part part' hpart => ?_
      rw [hpart.isEmpty_text_eq, hpart.isStar_eq]
      split <;> rfl
  rw [projection?, projection?, singleWord?_alike h]
  split
  · rfl
  · rw [Option.isSome_map, Option.isSome_map, hnames]

theorem projection?_alike (h : c.Alike c') :
    Option.Rel (fun _ _ => True) c.projection? c'.projection? := by
  have hsome := isSome_projection?_alike h
  generalize c.projection? = bins at hsome ⊢
  generalize c'.projection? = bins' at hsome ⊢
  cases bins <;> cases bins' <;> first | exact .none | exact .some trivial | cases hsome

theorem columns_alike (h : c.Alike c') :
    AgreeOn (fun names names' => names.length = names'.length) c.columns c'.columns := by
  refine Agree.mono (R := List.Forall₂ fun _ _ => True)
    (agreeOn_mapM (splitOn_alike h .comma) fun part part' hpart => ?_)
    fun _ _ hnames => hnames.length_eq
  rw [hpart.isEmpty_text_eq]
  split <;> trivial

theorem values_alike {parts parts' : List Clause} (h : List.Forall₂ Alike parts parts') :
    AgreeOn (List.Forall₂ fun v v' => v.isString = v'.isString) (Clause.values parts)
      (Clause.values parts') := by
  refine agreeOn_mapM h fun part part' hpart => ?_
  rw [hpart.isEmpty_text_eq]
  split
  · trivial
  · exact hpart.isString_eq

theorem assignment_alike (h : c.Alike c') :
    AgreeOn (fun a a' => isKeyColumn a.1 = isKeyColumn a'.1) c.assignment c'.assignment := by
  have hparts := splitOn_alike h .equals
  unfold assignment
  generalize c.splitOn .equals = parts at hparts ⊢
  generalize c'.splitOn .equals = parts' at hparts ⊢
  cases hparts with
  | nil => trivial
  | cons hbin hparts =>
    cases hparts with
    | nil => trivial
    | cons hvalue hparts =>
      cases hparts with
      | nil =>
        simp only [hbin.isEmpty_eq, hvalue.isEmpty_eq]
        split
        · trivial
        · split
          · trivial
          · exact hbin.isKeyColumn_eq
      | cons => trivial

theorem assignments_alike (h : c.Alike c') :
    AgreeOn (fun m m' => (m.filter fun bin _ => !isKeyColumn bin).isEmpty =
        (m'.filter fun bin _ => !isKeyColumn bin).isEmpty) c.assignments c'.assignments := by
  unfold assignments
  rw [h.isEmpty_eq]
  split
  · rfl
  · refine (agreeOn_mapM (splitOn_alike h .comma) fun _ _ => assignment_alike).map ?_
    intro entries entries' hentries
    rw [SortedMap.filter_ofList, SortedMap.filter_ofList, SortedMap.isEmpty_ofList,
      SortedMap.isEmpty_ofList]
    induction hentries with
    | nil => rfl
    | cons hhead _ ih =>
      rw [List.filter_cons, List.filter_cons, hhead]
      split
      · rfl
      · exact ih

end Clause

/-! ## Shapes -/

variable {c c' : Clause}

theorem SelectStatement.ofClause_alike (h : c.Alike c') :
    AgreeOn (fun s s' => s.target = s'.target) (SelectStatement.ofClause c)
      (SelectStatement.ofClause c') := by
  unfold SelectStatement.ofClause
  rw [Clause.keywordPositions_alike h]
  split
  next start _ =>
    have hrest := Clause.tail_alike h (start + 1)
    refine (agreeOn_orElse _ (Clause.projection?_alike (Clause.slice_alike h 1 start))).bind
      fun bins bins' _ => ?_
    dsimp only
    rw [Clause.keywordPositions_alike hrest]
    split
    · rw [ok_bind, ok_bind, Clause.singleWord?_alike hrest]
      exact agreeOn_bind _ fun _ => rfl
    next position _ =>
      have htarget := Clause.slice_alike hrest 0 position
      have hcondition := Clause.tail_alike hrest (position + 1)
      rw [ok_bind, ok_bind, Clause.singleWord?_alike htarget]
      refine agreeOn_bind _ fun _ => ?_
      exact (agreeOn_orElse _ (Clause.equality?_alike hcondition)).bind fun _ _ _ => rfl
    · trivial
  next => trivial

theorem DeleteStatement.ofClause_alike (h : c.Alike c') :
    AgreeOn (fun s s' => s.target = s'.target) (DeleteStatement.ofClause c)
      (DeleteStatement.ofClause c') := by
  unfold DeleteStatement.ofClause
  rw [Clause.isKeywordAt_alike h, Clause.dottedWordAt?_alike h, Clause.keywordPositions_alike h]
  refine agreeOn_bind _ fun _ => agreeOn_bind _ fun word => agreeOn_bind _ fun target => ?_
  refine agreeOn_bind _ fun position => agreeOn_bind _ fun _ => agreeOn_bind _ fun _ => ?_
  refine (agreeOn_orElse _ (Clause.equality?_alike (Clause.tail_alike h _))).bind
    fun predicate predicate' hpredicate => ?_
  rw [hpredicate]
  exact agreeOn_bind _ fun _ => rfl

theorem UpdateStatement.ofClause_alike (h : c.Alike c') :
    AgreeOn (fun s s' => s.target = s'.target) (UpdateStatement.ofClause c)
      (UpdateStatement.ofClause c') := by
  unfold UpdateStatement.ofClause
  rw [Clause.dottedWordAt?_alike h, Clause.keywordPositions_alike h "WHERE",
    Clause.keywordPositions_alike h "SET"]
  refine agreeOn_bind _ fun word => agreeOn_bind _ fun target => ?_
  refine agreeOn_bind _ fun start => agreeOn_bind _ fun position => agreeOn_bind _ fun _ => ?_
  refine (Clause.assignments_alike (Clause.slice_alike h _ _)).bind
    fun assignments assignments' hkept => agreeOn_bind _ fun _ => ?_
  refine (agreeOn_orElse _ (Clause.equality?_alike (Clause.tail_alike h _))).bind
    fun predicate predicate' hpredicate => ?_
  rw [hpredicate]
  refine agreeOn_bind _ fun _ => ?_
  dsimp only
  rw [hkept]
  exact agreeOn_bind _ fun _ => rfl

theorem InsertStatement.ofClause_alike (h : c.Alike c') :
    AgreeOn (fun s s' => s.target = s'.target) (InsertStatement.ofClause c)
      (InsertStatement.ofClause c') := by
  unfold InsertStatement.ofClause
  rw [Clause.isKeywordAt_alike h, Clause.dottedWordAt?_alike h, h.length_eq]
  refine agreeOn_bind _ fun _ => agreeOn_bind _ fun word => agreeOn_bind _ fun target => ?_
  refine (agreeOn_orElse _ (Clause.group?_alike h 3)).bind ?_
  rintro ⟨columnList, position⟩ ⟨columnList', position'⟩ ⟨hcolumnList, rfl⟩
  dsimp only at hcolumnList ⊢
  rw [Clause.isKeywordAt_alike h]
  refine agreeOn_bind _ fun _ => ?_
  refine (agreeOn_orElse _ (Clause.group?_alike h (position + 1))).bind ?_
  rintro ⟨valueList, stop⟩ ⟨valueList', stop'⟩ ⟨hvalueList, rfl⟩
  dsimp only at hvalueList ⊢
  refine agreeOn_bind _ fun _ => ?_
  refine (Clause.columns_alike hcolumnList).bind fun columns columns' hcolumns => ?_
  have hparts := Clause.splitOn_alike hvalueList .comma
  rw [hparts.length_eq, hcolumns]
  refine agreeOn_bind _ fun _ => (Clause.values_alike hparts).bind fun _ _ _ => ?_
  exact rfl

def Statement.target : Statement → SetName
  | .select s => s.target
  | .insert s => s.target
  | .delete s => s.target
  | .update s => s.target

/-- **Alike clauses are read alike**: as statements of one command on one set, or not at all. -/
theorem Statement.ofClause_alike (command : Command) (h : c.Alike c') :
    AgreeOn (fun s s' => s.command = s'.command ∧ s.target = s'.target)
      (Statement.ofClause command c) (Statement.ofClause command c') := by
  cases command with
  | select => exact (SelectStatement.ofClause_alike h).map fun _ _ htarget => ⟨rfl, htarget⟩
  | insert => exact (InsertStatement.ofClause_alike h).map fun _ _ htarget => ⟨rfl, htarget⟩
  | delete => exact (DeleteStatement.ofClause_alike h).map fun _ _ htarget => ⟨rfl, htarget⟩
  | update => exact (UpdateStatement.ofClause_alike h).map fun _ _ htarget => ⟨rfl, htarget⟩

end RecordQuery
