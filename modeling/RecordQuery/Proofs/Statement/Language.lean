import RecordQuery.Proofs.Narrowing
import RecordQuery.Proofs.SortedMap
import RecordQuery.Proofs.Statement.Opening

/-!
# The language of statements

Which rows of tokens are read as a deletion or an update, and as which one.

* `Nested.Sides`, `Nested.IsEquation`, `Nested.IsAssignment`: tokens around the only equals sign at
  the top level.
* `DeleteStatement.IsReadFrom`, `UpdateStatement.IsReadFrom`: the two grammars.
* `Statement.parse_eq_ok_delete_iff`, `Statement.parse_eq_ok_update_iff`: exactly these rows of
  tokens are read.
-/

namespace RecordQuery

/-! ## Equations -/

namespace Nested

def name (tokens : List Nested) : String :=
  String.ofList (text tokens)

/-- Whether tokens are two sides around the only equals sign at their top level, none of which is
empty. -/
structure Sides (tokens left right : List Nested) : Prop where
  cut : CutOnce (isTopMark .equals) tokens left right
  left_ne_nil : left ≠ []
  right_ne_nil : right ≠ []

def parts (tokens : List Nested) : List (List Nested) :=
  tokens.splitOnP (isTopMark .comma)

/-- Whether tokens are the condition that a bin equals a literal. -/
def IsEquation (tokens : List Nested) (equality : Equality) : Prop :=
  ∃ left right, Sides tokens left right ∧ equality = ⟨name left, .coerce (text right)⟩

/-- Whether tokens are the assignment of a literal to a bin. -/
def IsAssignment (tokens : List Nested) (pair : String × Assignment) : Prop :=
  ∃ left right, Sides tokens left right ∧ pair = (name left, .ofRaw (text right)) ∧
    pair.2.value = .coerce (text right)

end Nested

namespace Clause

variable {c : Clause}

@[simp] theorem text_nested (depth : Nat) (c : Clause) : Nested.text (nested depth c) = c.text := by
  rw [Nested.text, map_token_nested]

@[simp] theorem name_nested (depth : Nat) (c : Clause) : Nested.name (nested depth c) = c.name := by
  rw [Nested.name, text_nested, name]

theorem nested_eq_nil_iff {depth : Nat} : nested depth c = [] ↔ c = [] := by
  cases c <;> simp

theorem sides_nested_iff {left right : List Nested} :
    Nested.Sides (nested 0 c) left right ↔
      ∃ bin value, c.splitOn .equals = [bin, value] ∧ bin ≠ [] ∧ value ≠ [] ∧
        left = nested 0 bin ∧ right = nested 0 value := by
  have hparts : (nested 0 c).splitOnP (Nested.isTopMark .equals) = _ :=
    splitOnP_nested_zero (by decide) (by decide) c
  constructor
  · rintro ⟨hcut, hleft, hright⟩
    rw [splitOnP_eq_pair_iff.2 hcut] at hparts
    obtain ⟨bin, rest, hsplit, rfl, hrest⟩ := List.map_eq_cons_iff.1 hparts.symm
    obtain ⟨value, rest, rfl, rfl, hnil⟩ := List.map_eq_cons_iff.1 hrest
    obtain rfl := List.map_eq_nil_iff.1 hnil
    rw [ne_eq, nested_eq_nil_iff] at hleft hright
    exact ⟨bin, value, hsplit, hleft, hright, rfl, rfl⟩
  · rintro ⟨bin, value, hsplit, hbin, hvalue, rfl, rfl⟩
    rw [hsplit] at hparts
    refine ⟨splitOnP_eq_pair_iff.1 hparts, ?_, ?_⟩
    · rwa [ne_eq, nested_eq_nil_iff]
    · rwa [ne_eq, nested_eq_nil_iff]

theorem equality?_eq_some_iff {equality : Equality} :
    c.equality? = some equality ↔ Nested.IsEquation (nested 0 c) equality := by
  unfold Nested.IsEquation equality?
  constructor
  · intro h
    split at h
    next bin value hsplit =>
      split at h
      next => cases h
      next hne =>
        obtain ⟨hbin, hvalue⟩ : bin ≠ [] ∧ value ≠ [] := by simpa using hne
        obtain rfl := Option.some.inj h
        exact ⟨_, _, sides_nested_iff.2 ⟨bin, value, hsplit, hbin, hvalue, rfl, rfl⟩, by simp⟩
    next => cases h
  · rintro ⟨left, right, hsides, rfl⟩
    obtain ⟨bin, value, hsplit, hbin, hvalue, rfl, rfl⟩ := sides_nested_iff.1 hsides
    simp [hsplit, hbin, hvalue]

theorem assignment_eq_ok_iff {pair : String × Assignment} :
    c.assignment = .ok pair ↔ Nested.IsAssignment (nested 0 c) pair := by
  have hcoerce : ∀ raw, (Assignment.ofRaw raw).value = Literal.coerce raw := Assignment.value_ofRaw
  unfold Nested.IsAssignment assignment
  constructor
  · intro h
    split at h
    next bin value hsplit =>
      split at h
      next => cases h
      next hbin =>
        split at h
        next => cases h
        next hvalue =>
          obtain rfl := Except.ok.inj h
          have hsides := sides_nested_iff.2
            ⟨bin, value, hsplit, by simpa using hbin, by simpa using hvalue, rfl, rfl⟩
          exact ⟨_, _, hsides, by simp, by simp [hcoerce]⟩
    next => cases h
  · rintro ⟨left, right, hsides, rfl, -⟩
    obtain ⟨bin, value, hsplit, hbin, hvalue, rfl, rfl⟩ := sides_nested_iff.1 hsides
    simp [hsplit, hbin, hvalue]

theorem parts_nested (c : Clause) :
    Nested.parts (nested 0 c) = (c.splitOn .comma).map (nested 0) :=
  splitOnP_nested_zero (by decide) (by decide) c

theorem assignments_eq_ok_iff {found : SortedMap Assignment} (hne : c ≠ []) :
    c.assignments = .ok found ↔
      ∃ pairs, List.Forall₂ Nested.IsAssignment (Nested.parts (nested 0 c)) pairs ∧
        .ofList pairs = found := by
  unfold assignments
  rw [if_neg (by simpa using hne), map_eq_ok_iff]
  simp only [mapM_eq_ok_iff, assignment_eq_ok_iff, parts_nested, List.forall₂_map_left_iff]

end Clause

/-! ## Statements of one command -/

namespace Statement

variable {text : List Char}

theorem parse_eq_ok_delete {s : DeleteStatement} :
    parse text = .ok (.delete s) ↔ Command.classify (normalize text) = .ok .delete ∧
      DeleteStatement.ofClause (tokenize (normalize text)) = .ok s := by
  rw [parse_eq_ok_iff]
  simp [ofClause, command, map_eq_ok_iff]

theorem parse_eq_ok_update {s : UpdateStatement} :
    parse text = .ok (.update s) ↔ Command.classify (normalize text) = .ok .update ∧
      UpdateStatement.ofClause (tokenize (normalize text)) = .ok s := by
  rw [parse_eq_ok_iff]
  simp [ofClause, command, map_eq_ok_iff]

theorem parse_eq_ok_insert {s : InsertStatement} :
    parse text = .ok (.insert s) ↔ Command.classify (normalize text) = .ok .insert ∧
      InsertStatement.ofClause (tokenize (normalize text)) = .ok s := by
  rw [parse_eq_ok_iff]
  simp [ofClause, command, map_eq_ok_iff]

end Statement

/-! ## Deletions -/

/-- The grammar of deletions: `DELETE FROM set WHERE bin = value`, with no other `WHERE` at the top
level and a value that is a string. -/
def DeleteStatement.IsReadFrom (s : DeleteStatement) (tokens : List Nested) : Prop :=
  ∃ command from_ target condition,
    CutOnce (Nested.isTopKeyword "WHERE") tokens [command, from_, target] condition ∧
    command.token.IsCommand .delete ∧
    from_.token.isKeyword "FROM" = true ∧
    target.token.IsTarget s.target ∧
    Nested.IsEquation condition s.predicate ∧
    s.predicate.value.isString = true

theorem DeleteStatement.ofClause_iff_of_cutOnce {c : Clause} {s : DeleteStatement}
    {command from_ target : Nested} {condition : List Nested}
    (hcut : CutOnce (Nested.isTopKeyword "WHERE") (Clause.nested 0 c) [command, from_, target]
      condition) :
    DeleteStatement.ofClause c = .ok s ↔
      from_.token.isKeyword "FROM" = true ∧ target.token.IsTarget s.target ∧
        Nested.IsEquation condition s.predicate ∧ s.predicate.value.isString = true := by
  obtain ⟨t, rfl, -, -, hcondition⟩ := Clause.eq_of_cutOnce_isTopKeyword hcut
  have hwhere := Clause.keywordPositions_eq_singleton_iff.2 ⟨_, _, hcut, rfl⟩
  rw [DeleteStatement.ofClause_eq_ok_iff, Clause.isTargetAt_iff, Clause.equality?_eq_some_iff, hwhere]
  simp [Clause.isKeywordAt, Clause.tail, ← hcondition]

/-- **Exactly the grammar of deletions is read as deletions.** -/
theorem Statement.parse_eq_ok_delete_iff {text : List Char} {s : DeleteStatement} :
    parse text = .ok (.delete s) ↔
      s.IsReadFrom (Clause.nested 0 (tokenize (normalize text))) := by
  rw [parse_eq_ok_delete]
  constructor
  · rintro ⟨hclassify, hread⟩
    obtain ⟨-, -, hwhere, -⟩ := DeleteStatement.ofClause_eq_ok_iff.1 hread
    obtain ⟨left, condition, hcut, hlength⟩ := Clause.keywordPositions_eq_singleton_iff.1 hwhere
    obtain ⟨command, from_, target, rfl⟩ := List.length_eq_three.1 hlength
    rw [DeleteStatement.ofClause_iff_of_cutOnce hcut] at hread
    obtain ⟨t, htokens, -⟩ := Clause.eq_of_cutOnce_isTopKeyword hcut
    rw [Command.classify_normalize_iff htokens (Token.kind_of_isKeyword hread.1)] at hclassify
    exact ⟨command, from_, target, condition, hcut, hclassify, hread⟩
  · rintro ⟨command, from_, target, condition, hcut, hcommand, hread⟩
    obtain ⟨t, htokens, -⟩ := Clause.eq_of_cutOnce_isTopKeyword hcut
    rw [Command.classify_normalize_iff htokens (Token.kind_of_isKeyword hread.1)]
    exact ⟨hcommand, (DeleteStatement.ofClause_iff_of_cutOnce hcut).2 hread⟩

/-! ## Updates -/

/-- The grammar of updates: `UPDATE set SET assignments WHERE bin = value`, with no other `WHERE` at
the top level and a value that is a string. At least one assignment is not to the key column. Of
several assignments to one bin the last counts, and those to the key column do not. -/
def UpdateStatement.IsReadFrom (s : UpdateStatement) (tokens : List Nested) : Prop :=
  ∃ command target set list condition pairs,
    CutOnce (Nested.isTopKeyword "WHERE") tokens (command :: target :: set :: list) condition ∧
    command.token.IsCommand .update ∧
    target.token.IsTarget s.target ∧
    set.token.isKeyword "SET" = true ∧
    List.Forall₂ Nested.IsAssignment (Nested.parts list) pairs ∧
    (∃ pair ∈ pairs, isKeyColumn pair.1 = false) ∧
    (∀ bin, s.assignments.get? bin =
      if isKeyColumn bin then none else pairs.reverse.lookup bin) ∧
    Nested.IsEquation condition s.predicate ∧
    s.predicate.value.isString = true

namespace UpdateStatement

theorem eq_filter_ofList_iff {kept : SortedMap Assignment} {pairs : List (String × Assignment)} :
    (kept = (SortedMap.ofList pairs).filter (fun bin _ => !isKeyColumn bin) ∧
        kept.isEmpty = false) ↔
      (∃ pair ∈ pairs, isKeyColumn pair.1 = false) ∧
        ∀ bin, kept.get? bin = if isKeyColumn bin then none else pairs.reverse.lookup bin := by
  have hget : ∀ bin, ((SortedMap.ofList pairs).filter fun bin _ => !isKeyColumn bin).get? bin =
      if isKeyColumn bin then none else pairs.reverse.lookup bin := by
    intro bin
    rw [SortedMap.get?_filter, SortedMap.get?_ofList]
    cases isKeyColumn bin with
    | true => simp
    | false => cases pairs.reverse.lookup bin <;> rfl
  have hempty : ((SortedMap.ofList pairs).filter fun bin _ => !isKeyColumn bin).isEmpty = false ↔
      ∃ pair ∈ pairs, isKeyColumn pair.1 = false := by
    rw [SortedMap.filter_ofList, SortedMap.isEmpty_ofList]
    simp
  constructor
  · rintro ⟨rfl, hsome⟩
    exact ⟨hempty.1 hsome, hget⟩
  · rintro ⟨hsome, hkept⟩
    obtain rfl : kept = (SortedMap.ofList pairs).filter fun bin _ => !isKeyColumn bin :=
      SortedMap.ext fun bin => by rw [hkept, hget]
    exact ⟨rfl, hempty.2 hsome⟩

theorem assignments_iff {list : Clause} {kept : SortedMap Assignment} :
    (∃ found, list.assignments = .ok found ∧
        kept = found.filter (fun bin _ => !isKeyColumn bin) ∧ kept.isEmpty = false) ↔
      ∃ pairs, List.Forall₂ Nested.IsAssignment (Nested.parts (Clause.nested 0 list)) pairs ∧
        (∃ pair ∈ pairs, isKeyColumn pair.1 = false) ∧
        ∀ bin, kept.get? bin = if isKeyColumn bin then none else pairs.reverse.lookup bin := by
  by_cases hlist : list = []
  · -- nothing is assigned, so nothing is kept
    subst hlist
    constructor
    · rintro ⟨found, hfound, rfl, hsome⟩
      obtain rfl := Except.ok.inj hfound
      cases hsome
    · rintro ⟨pairs, hpairs, -⟩
      cases hpairs with
      | cons hfirst _ =>
        obtain ⟨left, right, hsides, -⟩ := hfirst
        exact absurd hsides.cut not_cutOnce_nil
  · simp only [Clause.assignments_eq_ok_iff hlist, ← eq_filter_ofList_iff]
    constructor
    · rintro ⟨-, ⟨pairs, hpairs, rfl⟩, hkept⟩
      exact ⟨pairs, hpairs, hkept⟩
    · rintro ⟨pairs, hpairs, hkept⟩
      exact ⟨_, ⟨pairs, hpairs, rfl⟩, hkept⟩

theorem head?_keywordPositions_set_iff {command target set : Token} {rest : Clause}
    {name : SetName} (hcommand : command.IsCommand .update) (hproper : command.lexeme.IsProper)
    (htarget : target.IsTarget name) :
    (Clause.keywordPositions (command :: target :: set :: rest) "SET").head? = some 2 ↔
      set.isKeyword "SET" = true := by
  constructor
  · intro hhead
    obtain ⟨offset, t, hfound, ht, hkeyword⟩ := Clause.exists_isKeyword_of_head? hhead
    obtain rfl : offset = 2 := by omega
    obtain rfl : set = t := Option.some.inj ht
    exact hkeyword
  · intro hkeyword
    have hcommandOther : command.isKeyword "SET" = false :=
      Token.isKeyword_eq_false_of_isCommand hcommand hproper (by decide) (by decide)
    have htargetOther : target.isKeyword "SET" = false := htarget.isKeyword_eq_false (by decide)
    rw [Token.isKeyword_eq] at hcommandOther htargetOther
    have hpasses : ∀ t ∈ [command, target], t.lexeme.Passes "SET" := by
      intro t ht
      obtain rfl | ht := List.mem_cons.1 ht
      · exact ⟨Token.isFlat_of_kind_eq_word hcommand.kind, hcommandOther⟩
      · obtain rfl := List.mem_singleton.1 ht
        exact ⟨Token.isFlat_of_kind_eq_word htarget.kind, htargetOther⟩
    exact Clause.head?_keywordPositions hpasses hkeyword rest

theorem ofClause_iff_of_cutOnce {c : Clause} {s : UpdateStatement}
    {command target set : Nested} {list condition : List Nested}
    (hcut : CutOnce (Nested.isTopKeyword "WHERE") (Clause.nested 0 c)
      (command :: target :: set :: list) condition)
    (hproper : ∀ t ∈ c, t.lexeme.IsProper) (hcommand : command.token.IsCommand .update)
    (htarget : target.token.IsTarget s.target) :
    UpdateStatement.ofClause c = .ok s ↔
      set.token.isKeyword "SET" = true ∧
        ∃ pairs, List.Forall₂ Nested.IsAssignment (Nested.parts list) pairs ∧
          (∃ pair ∈ pairs, isKeyColumn pair.1 = false) ∧
          (∀ bin, s.assignments.get? bin =
            if isKeyColumn bin then none else pairs.reverse.lookup bin) ∧
          Nested.IsEquation condition s.predicate ∧ s.predicate.value.isString = true := by
  obtain ⟨t, hc, -, hleft, hcondition⟩ := Clause.eq_of_cutOnce_isTopKeyword hcut
  have hwhere : c.keywordPositions "WHERE" = [list.length + 3] :=
    Clause.keywordPositions_eq_singleton_iff.2 ⟨_, _, hcut, rfl⟩
  have htargetAt : c.IsTargetAt 1 s.target :=
    Clause.isTargetAt_iff.2 ⟨target.token, by rw [hc]; rfl, htarget⟩
  have hslice : c.slice 3 (list.length + 3) = list.map Nested.token := by
    rw [hc]
    simp [Clause.slice]
  have htail : c.tail (list.length + 3 + 1) = condition.map Nested.token := by
    have hlength : list.length + 3 = ((command :: target :: set :: list).map Nested.token).length := by
      simp
    rw [hc, Clause.tail, hlength, ← List.drop_drop, List.drop_left]
    rfl
  have hset : (c.keywordPositions "SET").head? = some 2 ↔ set.token.isKeyword "SET" = true := by
    have hcommandProper := hproper command.token (by rw [hc]; exact List.mem_cons_self)
    rw [hc]
    exact head?_keywordPositions_set_iff hcommand hcommandProper htarget
  -- the first three tokens are words, so the assignments begin at the top level
  have hlist : set.token.isKeyword "SET" = true →
      list = Clause.nested 0 (list.map Nested.token) := by
    intro hkeyword
    rw [List.map_cons, List.map_cons, List.map_cons,
      Clause.nested_cons_of_isFlat (Token.isFlat_of_kind_eq_word hcommand.kind),
      Clause.nested_cons_of_isFlat (Token.isFlat_of_kind_eq_word htarget.kind),
      Clause.nested_cons_of_isFlat (Token.isFlat_of_isKeyword hkeyword)] at hleft
    simp only [List.cons.injEq] at hleft
    exact hleft.2.2.2
  rw [UpdateStatement.ofClause_eq_ok_iff, hset, hwhere]
  constructor
  · rintro ⟨-, hkeyword, position, found, hposition, -, hfound, hequation, hstring, hkept⟩
    obtain rfl := List.singleton_inj.1 hposition
    rw [hslice] at hfound
    rw [htail, Clause.equality?_eq_some_iff, ← hcondition] at hequation
    obtain ⟨pairs, hpairs, hsome, hget⟩ := assignments_iff.1 ⟨found, hfound, hkept⟩
    rw [← hlist hkeyword] at hpairs
    exact ⟨hkeyword, pairs, hpairs, hsome, hget, hequation, hstring⟩
  · rintro ⟨hkeyword, pairs, hpairs, hsome, hget, hequation, hstring⟩
    rw [hlist hkeyword] at hpairs
    rw [hcondition, ← Clause.equality?_eq_some_iff, ← htail] at hequation
    obtain ⟨found, hfound, hkept⟩ := assignments_iff.2 ⟨pairs, hpairs, hsome, hget⟩
    rw [← hslice] at hfound
    exact ⟨htargetAt, hkeyword, _, found, rfl, by omega, hfound, hequation, hstring, hkept⟩

end UpdateStatement

/-- **Exactly the grammar of updates is read as updates.** -/
theorem Statement.parse_eq_ok_update_iff {text : List Char} {s : UpdateStatement} :
    parse text = .ok (.update s) ↔
      s.IsReadFrom (Clause.nested 0 (tokenize (normalize text))) := by
  have hproper : ∀ t ∈ tokenize (normalize text), t.lexeme.IsProper :=
    fun t ht => isProper_of_mem_tokenize ht
  rw [parse_eq_ok_update]
  constructor
  · rintro ⟨hclassify, hread⟩
    obtain ⟨htarget, -, position, found, hwhere, hposition, -⟩ :=
      UpdateStatement.ofClause_eq_ok_iff.1 hread
    obtain ⟨left, condition, hcut, rfl⟩ := Clause.keywordPositions_eq_singleton_iff.1 hwhere
    obtain ⟨command, target, set, list, rfl⟩ : ∃ command target set list,
        left = command :: target :: set :: list := by
      match left, hposition with
      | command :: target :: set :: list, _ => exact ⟨command, target, set, list, rfl⟩
    obtain ⟨t, htokens, -⟩ := Clause.eq_of_cutOnce_isTopKeyword hcut
    have hword : target.token.IsTarget s.target := by
      rw [htokens, Clause.isTargetAt_iff] at htarget
      simpa using htarget
    rw [Command.classify_normalize_iff htokens hword.kind] at hclassify
    obtain ⟨hset, pairs, hread⟩ :=
      (UpdateStatement.ofClause_iff_of_cutOnce hcut hproper hclassify hword).1 hread
    exact ⟨command, target, set, list, condition, pairs, hcut, hclassify, hword, hset, hread⟩
  · rintro ⟨command, target, set, list, condition, pairs, hcut, hcommand, hword, hset, hread⟩
    obtain ⟨t, htokens, -⟩ := Clause.eq_of_cutOnce_isTopKeyword hcut
    rw [Command.classify_normalize_iff htokens hword.kind]
    exact ⟨hcommand, (UpdateStatement.ofClause_iff_of_cutOnce hcut hproper hcommand hword).2
      ⟨hset, pairs, hread⟩⟩

/-! ## Both -/

/-- **Exactly the grammars of deletions and updates are read** as deletions and updates, and what is
read are the parts of the tokens. -/
theorem Statement.parse_eq_ok_iff_isReadFrom (text : List Char) :
    (∀ s : DeleteStatement, parse text = .ok (.delete s) ↔
      s.IsReadFrom (Clause.nested 0 (tokenize (normalize text)))) ∧
    ∀ s : UpdateStatement, parse text = .ok (.update s) ↔
      s.IsReadFrom (Clause.nested 0 (tokenize (normalize text))) :=
  ⟨fun _ => parse_eq_ok_delete_iff, fun _ => parse_eq_ok_update_iff⟩

/-- A keyword and an equals sign within parentheses count for nothing. -/
example : Statement.parse "DELETE FROM a.b WHERE f(WHERE = 1) = 'x'".toList =
    .ok (.delete ⟨⟨"a", "b"⟩, ⟨"f(WHERE = 1)", .str "x"⟩⟩) := by
  decide +kernel

end RecordQuery
