import RecordQuery.Proofs.Statement.Language

/-!
# The language of insertions

Which rows of tokens are read as an insertion, and as which one.

* `Clause.columns_eq_ok_iff`, `Clause.values_eq_ok_iff`: the parts of a group, none of which is empty.
* `InsertStatement.groups_iff`: the two groups of an insertion.
* `InsertStatement.IsReadFrom`: the grammar of insertions. `Statement.parse_eq_ok_insert_iff`: exactly
  these rows of tokens are read.
-/

namespace RecordQuery

theorem mapM_ite_eq_ok_iff {α β ε : Type} {p : α → Bool} {e : α → ε} {f : α → β} {l : List α}
    {l' : List β} :
    (l.mapM fun x => if p x = true then Except.error (e x) else Except.ok (f x)) = .ok l' ↔
      (∀ x ∈ l, p x = false) ∧ l' = l.map f := by
  rw [mapM_eq_ok_iff]
  induction l generalizing l' with
  | nil => simp
  | cons x l ih =>
    rw [List.forall₂_cons_left_iff, List.forall_mem_cons]
    cases hx : p x with
    | true => simp
    | false =>
      simp only [Bool.false_eq_true, if_false, Except.ok.injEq, ih, true_and]
      constructor
      · rintro ⟨y, others, rfl, ⟨hall, rfl⟩, rfl⟩
        exact ⟨hall, rfl⟩
      · rintro ⟨hall, rfl⟩
        exact ⟨f x, l.map f, rfl, ⟨hall, rfl⟩, rfl⟩

namespace Clause

variable {c : Clause}

/-! ## Parts -/

theorem isEmpty_text (h : ∀ t ∈ c, t.lexeme.IsProper) : c.text.isEmpty = c.isEmpty := by
  cases c with
  | nil => rfl
  | cons t rest =>
    obtain ⟨char, chars, hchars, -⟩ := Lexeme.exists_chars_eq_cons (h t List.mem_cons_self)
    simp [text, Token.chars, hchars]

theorem mem_of_mem_splitOn {kind : TokenKind} {part : Clause} {t : Token}
    (hpart : part ∈ c.splitOn kind) (ht : t ∈ part) : t ∈ c := by
  obtain ⟨earlier, later, hparts⟩ := List.append_of_mem hpart
  obtain ⟨front, back, rfl⟩ := List.append_of_mem ht
  obtain ⟨before, after, rfl, -⟩ := splitFrom_replace hparts
  simp

theorem forall_isEmpty_text_iff (hproper : ∀ t ∈ c, t.lexeme.IsProper) :
    (∀ part ∈ c.splitOn .comma, part.text.isEmpty = false) ↔
      ∀ part ∈ Nested.parts (nested 0 c), part ≠ [] := by
  rw [parts_nested, List.forall_mem_map]
  refine forall₂_congr fun part hpart => ?_
  rw [isEmpty_text fun t ht => hproper t (mem_of_mem_splitOn hpart ht), ne_eq, nested_eq_nil_iff]
  simp

theorem map_name_parts (c : Clause) :
    (Nested.parts (nested 0 c)).map Nested.name = (c.splitOn .comma).map name := by
  rw [parts_nested, List.map_map]
  exact List.map_congr_left fun part _ => name_nested 0 part

theorem columns_eq_ok_iff (hproper : ∀ t ∈ c, t.lexeme.IsProper) {names : List String} :
    c.columns = .ok names ↔ (∀ part ∈ Nested.parts (nested 0 c), part ≠ []) ∧
      names = (Nested.parts (nested 0 c)).map Nested.name := by
  rw [columns, mapM_ite_eq_ok_iff, forall_isEmpty_text_iff hproper, map_name_parts]

theorem values_eq_ok_iff (hproper : ∀ t ∈ c, t.lexeme.IsProper) {literals : List Literal} :
    Clause.values (c.splitOn .comma) = .ok literals ↔
      (∀ part ∈ Nested.parts (nested 0 c), part ≠ []) ∧
        literals = (Nested.parts (nested 0 c)).map fun part => .coerce (Nested.text part) := by
  have hliterals : ((Nested.parts (nested 0 c)).map fun part => Literal.coerce (Nested.text part)) =
      (c.splitOn .comma).map fun part => Literal.coerce part.text := by
    rw [parts_nested, List.map_map]
    exact List.map_congr_left fun part _ => congrArg Literal.coerce (text_nested 0 part)
  rw [values, mapM_ite_eq_ok_iff, forall_isEmpty_text_iff hproper, hliterals]

end Clause

/-! ## Insertions -/

/-- Whether tokens are two lists in parentheses with `VALUES` between them and nothing after them. -/
def Clause.AreGroups (tokens columns list : Clause) : Prop :=
  ∃ opening closing values opening' closing',
    tokens = opening :: (columns ++ closing :: values :: opening' :: (list ++ [closing'])) ∧
    opening.kind = .leftParen ∧ IsBalanced columns ∧ closing.kind = .rightParen ∧
    values.isKeyword "VALUES" = true ∧
    opening'.kind = .leftParen ∧ IsBalanced list ∧ closing'.kind = .rightParen

/-- Whether the columns and the values of an insertion are the parts of two lists, which have as many
parts and no empty one. -/
structure InsertStatement.HasParts (s : InsertStatement) (columns list : List (List Nested)) :
    Prop where
  count : columns.length = list.length
  columns_ne_nil : ∀ part ∈ columns, part ≠ []
  values_ne_nil : ∀ part ∈ list, part ≠ []
  columns_eq : s.columns = columns.map Nested.name
  values_eq : s.values = list.map fun part => .coerce (Nested.text part)

/-- The grammar of insertions: `INSERT INTO set (columns) VALUES (values)` with nothing after it, as
many columns as values and none of them empty. -/
def InsertStatement.IsReadFrom (s : InsertStatement) (tokens : Clause) : Prop :=
  ∃ command into target rest columns list,
    tokens = command :: into :: target :: rest ∧
    command.IsCommand .insert ∧
    into.isKeyword "INTO" = true ∧
    target.IsTarget s.target ∧
    Clause.AreGroups rest columns list ∧
    s.HasParts (Nested.parts (Clause.nested 0 columns)) (Nested.parts (Clause.nested 0 list))

namespace InsertStatement

variable {c front rest columns list : Clause}

theorem groups_iff (hc : c = front ++ rest) :
    (∃ position, c.group? front.length = some (columns, position) ∧
        c.isKeywordAt position "VALUES" = true ∧
        c.group? (position + 1) = some (list, c.length)) ↔ Clause.AreGroups rest columns list := by
  -- what comes after the first group is found at positions that are counted from there
  have hafter : ∀ (opening closing : Token) (others : Clause),
      rest = opening :: (columns ++ closing :: others) →
        c.length = front.length + columns.length + 2 + others.length ∧
        c.drop (front.length + columns.length + 2) = others := by
    rintro opening closing others rfl
    have hsplit : c = (front ++ opening :: (columns ++ [closing])) ++ others := by simp [hc]
    have hlength : front.length + columns.length + 2 =
        (front ++ opening :: (columns ++ [closing])).length := by
      simp
      omega
    constructor
    · rw [hsplit, List.length_append, hlength]
    · rw [hsplit, hlength, List.drop_left]
  have hat : ∀ (position : Nat) (others : Clause), c.drop position = others →
      c.isKeywordAt position "VALUES" = others.head?.any (·.isKeyword "VALUES") := by
    rintro position others rfl
    rw [Clause.isKeywordAt, List.head?_drop]
  constructor
  · rintro ⟨position, hcolumns, hvalues, hlist⟩
    obtain ⟨opening, closing, others, hdrop, hopening, hclosing, hcolumnsBalanced, rfl⟩ :=
      Clause.group?_eq_some_iff.1 hcolumns
    obtain ⟨opening', closing', tail, hdrop', hopening', hclosing', hlistBalanced, hend⟩ :=
      Clause.group?_eq_some_iff.1 hlist
    rw [hc, List.drop_left] at hdrop
    obtain ⟨hlength, hothers⟩ := hafter opening closing others hdrop
    rw [hat _ _ hothers] at hvalues
    obtain ⟨values, hhead, hkeyword⟩ := (Option.any_eq_true _ _).1 hvalues
    obtain ⟨others, rfl⟩ := List.head?_eq_some_iff.1 hhead
    rw [← List.drop_drop, hothers, List.drop_one, List.tail_cons] at hdrop'
    obtain rfl : tail = [] := by
      rw [hdrop'] at hlength
      simp only [List.length_cons, List.length_append] at hlength
      exact List.length_eq_zero_iff.1 (by omega)
    exact ⟨opening, closing, values, opening', closing', by rw [hdrop, hdrop'], hopening,
      hcolumnsBalanced, hclosing, hkeyword, hopening', hlistBalanced, hclosing'⟩
  · rintro ⟨opening, closing, values, opening', closing', hrest, hopening, hcolumns, hclosing,
      hvalues, hopening', hlist, hclosing'⟩
    obtain ⟨hlength, hothers⟩ := hafter opening closing _ hrest
    refine ⟨front.length + columns.length + 2, ?_, ?_, ?_⟩
    · exact Clause.group?_eq_some_iff.2 ⟨opening, closing, _, by rw [hc, List.drop_left, hrest],
        hopening, hclosing, hcolumns, rfl⟩
    · rw [hat _ _ hothers]
      exact hvalues
    · refine Clause.group?_eq_some_iff.2 ⟨opening', closing', [], ?_, hopening', hclosing', hlist, ?_⟩
      · rw [← List.drop_drop, hothers]
        rfl
      · rw [hlength]
        simp only [List.length_cons, List.length_append, List.length_nil]
        omega

theorem ofClause_iff {s : InsertStatement} {command into target : Token}
    (hc : c = [command, into, target] ++ rest) (hproper : ∀ t ∈ c, t.lexeme.IsProper) :
    InsertStatement.ofClause c = .ok s ↔
      into.isKeyword "INTO" = true ∧ target.IsTarget s.target ∧
        ∃ columns list, Clause.AreGroups rest columns list ∧
          s.HasParts (Nested.parts (Clause.nested 0 columns))
            (Nested.parts (Clause.nested 0 list)) := by
  have hinto : c.isKeywordAt 1 "INTO" = into.isKeyword "INTO" := by rw [hc]; rfl
  have htarget : c.IsTargetAt 2 s.target ↔ target.IsTarget s.target := by
    rw [hc, Clause.isTargetAt_iff]
    simp
  have hlists : ∀ {columns list : Clause}, Clause.AreGroups rest columns list →
      (∀ t ∈ columns, t.lexeme.IsProper) ∧ ∀ t ∈ list, t.lexeme.IsProper := by
    rintro columns list ⟨opening, closing, values, opening', closing', rfl, -⟩
    exact ⟨fun t ht => hproper t (by simp [hc, ht]), fun t ht => hproper t (by simp [hc, ht])⟩
  rw [InsertStatement.ofClause_eq_ok_iff, hinto, htarget]
  constructor
  · rintro ⟨hinto, htarget, columns, position, list, hcolumns, hvalues, hlist, hnames, hlength,
      hliterals⟩
    have hgroups := (groups_iff hc).1 ⟨position, hcolumns, hvalues, hlist⟩
    obtain ⟨hcolumnsProper, hlistProper⟩ := hlists hgroups
    obtain ⟨hcolumnsNe, hnames⟩ := (Clause.columns_eq_ok_iff hcolumnsProper).1 hnames
    obtain ⟨hvaluesNe, hliterals⟩ := (Clause.values_eq_ok_iff hlistProper).1 hliterals
    refine ⟨hinto, htarget, columns, list, hgroups, ?_, hcolumnsNe, hvaluesNe, hnames, hliterals⟩
    rw [Clause.parts_nested list, List.length_map, hlength, hnames, List.length_map]
  · rintro ⟨hinto, htarget, columns, list, hgroups, hparts⟩
    obtain ⟨hcolumnsProper, hlistProper⟩ := hlists hgroups
    obtain ⟨position, hcolumns, hvalues, hlist⟩ := (groups_iff hc).2 hgroups
    refine ⟨hinto, htarget, columns, position, list, hcolumns, hvalues, hlist,
      (Clause.columns_eq_ok_iff hcolumnsProper).2 ⟨hparts.columns_ne_nil, hparts.columns_eq⟩, ?_,
      (Clause.values_eq_ok_iff hlistProper).2 ⟨hparts.values_ne_nil, hparts.values_eq⟩⟩
    rw [hparts.columns_eq, List.length_map, hparts.count, Clause.parts_nested, List.length_map]

theorem HasParts.length_eq {s : InsertStatement} {columns list : Clause}
    (h : s.HasParts (Nested.parts (Clause.nested 0 columns)) (Nested.parts (Clause.nested 0 list))) :
    s.columns.length = s.values.length ∧ s.values ≠ [] := by
  rw [h.columns_eq, h.values_eq, List.length_map, List.length_map]
  exact ⟨h.count, by simp [Nested.parts, List.splitOnP_ne_nil]⟩

theorem exists_eq_cons_of_isTargetAt {target : SetName} (h : c.IsTargetAt 2 target) :
    ∃ command into name rest, c = command :: into :: name :: rest := by
  obtain ⟨t, ht, -⟩ := Clause.isTargetAt_iff.1 h
  match c, ht with
  | command :: into :: name :: rest, _ => exact ⟨command, into, name, rest, rfl⟩

end InsertStatement

/-- **Exactly the grammar of insertions is read as insertions**, and what is read are the parts of the
tokens. There are as many columns as values, and at least one. -/
theorem Statement.parse_eq_ok_insert_iff (text : List Char) (s : InsertStatement) :
    (parse text = .ok (.insert s) ↔ s.IsReadFrom (tokenize (normalize text))) ∧
      (parse text = .ok (.insert s) → s.columns.length = s.values.length ∧ s.values ≠ []) := by
  have hproper : ∀ t ∈ tokenize (normalize text), t.lexeme.IsProper :=
    fun t ht => isProper_of_mem_tokenize ht
  have hread : parse text = .ok (.insert s) ↔ s.IsReadFrom (tokenize (normalize text)) := by
    rw [parse_eq_ok_insert]
    constructor
    · rintro ⟨hclassify, hread⟩
      obtain ⟨-, htarget, -⟩ := InsertStatement.ofClause_eq_ok_iff.1 hread
      obtain ⟨command, into, target, rest, htokens⟩ :=
        InsertStatement.exists_eq_cons_of_isTargetAt htarget
      obtain ⟨hinto, htarget, columns, list, hparts⟩ :=
        (InsertStatement.ofClause_iff htokens hproper).1 hread
      rw [Command.classify_normalize_iff htokens (Token.kind_of_isKeyword hinto)] at hclassify
      exact ⟨command, into, target, rest, columns, list, htokens, hclassify, hinto, htarget, hparts⟩
    · rintro ⟨command, into, target, rest, columns, list, htokens, hcommand, hinto, htarget, hparts⟩
      rw [Command.classify_normalize_iff htokens (Token.kind_of_isKeyword hinto)]
      exact ⟨hcommand, (InsertStatement.ofClause_iff htokens hproper).2
        ⟨hinto, htarget, columns, list, hparts⟩⟩
  refine ⟨hread, fun h => ?_⟩
  obtain ⟨command, into, target, rest, columns, list, -, -, -, -, -, hparts⟩ := hread.1 h
  exact hparts.length_eq

/-- A comma and a parenthesis within quotes, and a comma within parentheses, separate nothing. -/
theorem Statement.parse_eq_ok_insert_iff_quoted :
    let text := "INSERT INTO a.b (KEY, f(x, y)) VALUES ('k,(', 1);".toList
    let s : InsertStatement := ⟨⟨"a", "b"⟩, ["KEY", "f(x, y)"], [.str "k,(", .int 1]⟩
    s.IsReadFrom (tokenize (normalize text)) ∧ s.columns.length = s.values.length ∧
      s.values ≠ [] := by
  intro text s
  have hparse : parse text = .ok (.insert s) := by decide +kernel
  obtain ⟨hread, hlengths⟩ := parse_eq_ok_insert_iff text s
  exact ⟨hread.1 hparse, hlengths hparse⟩

end RecordQuery
