import RecordQuery.Proofs.Statement.InsertLanguage

/-!
# The language of selections

Which rows of tokens are read as a selection, and as which one.

* `Nested.IsProjection`: a star, or the names of bins between commas.
* `Nested.IsSource`: the name of a set, with a condition after it or without.
* `SelectStatement.IsReadFrom`: the grammar of selections. `Statement.parse_eq_ok_select_iff`: exactly
  these rows of tokens are read.
-/

namespace RecordQuery

theorem mapM_ite_eq_some_iff {α β : Type} {p : α → Bool} {f : α → β} {l : List α} {l' : List β} :
    (l.mapM fun x => if p x = true then none else some (f x)) = some l' ↔
      (∀ x ∈ l, p x = false) ∧ l' = l.map f := by
  induction l generalizing l' with
  | nil =>
    rw [List.mapM_nil, Option.pure_def, Option.some.injEq, eq_comm]
    simp
  | cons x l ih =>
    rw [List.mapM_cons, List.forall_mem_cons]
    cases hx : p x with
    | true => simp
    | false =>
      simp only [Bool.false_eq_true, if_false, Option.bind_eq_bind, Option.bind_some,
        Option.bind_eq_some_iff, ih, true_and]
      constructor
      · rintro ⟨others, ⟨hall, rfl⟩, hl'⟩
        exact ⟨hall, (Option.some.inj hl').symm⟩
      · rintro ⟨hall, rfl⟩
        exact ⟨l.map f, ⟨hall, rfl⟩, rfl⟩

namespace Nested

/-! ## The parts of a selection -/

/-- Whether tokens are the bins that a selection shows: a star by itself for all of them, or names
between the commas at the top level, none of which is empty or a star. -/
def IsProjection (tokens : List Nested) (bins : BinSelection) : Prop :=
  (∃ star, tokens = [star] ∧ star.token.lexeme = .word ['*'] ∧ bins = .all) ∨
    tokens ≠ [] ∧ (∀ part ∈ parts tokens, part ≠ [] ∧ text part ≠ ['*']) ∧
      bins = .named ((parts tokens).map name)

/-- Whether tokens are the name of a set, by itself or before the only `WHERE` at the top level and a
condition. -/
def IsSource (tokens : List Nested) (target : SetName) (predicate : Option Equality) : Prop :=
  (∃ word, tokens = [word] ∧ word.token.IsTarget target ∧ predicate = none) ∨
    ∃ word condition equality, CutOnce (isTopKeyword "WHERE") tokens [word] condition ∧
      word.token.IsTarget target ∧ IsEquation condition equality ∧ predicate = some equality

end Nested

namespace Clause

variable {c : Clause}

theorem singleWord?_eq_some_iff {word : List Char} :
    c.singleWord? = some word ↔ ∃ t, c = [t] ∧ t.lexeme = .word word := by
  unfold singleWord?
  split
  next t =>
    unfold Token.word?
    split
    next text hlexeme => simp [hlexeme]
    next hother =>
      simp only [reduceCtorEq, List.cons.injEq, and_true, exists_eq_left', false_iff]
      exact fun hlexeme => hother word hlexeme
  next hother =>
    simp only [reduceCtorEq, false_iff]
    rintro ⟨t, rfl, -⟩
    exact hother t rfl

theorem binNames?_eq_some_iff (hproper : ∀ t ∈ c, t.lexeme.IsProper) {names : List String} :
    c.binNames? = some names ↔ c ≠ [] ∧
      (∀ part ∈ Nested.parts (nested 0 c), part ≠ [] ∧ Nested.text part ≠ ['*']) ∧
      names = (Nested.parts (nested 0 c)).map Nested.name := by
  have hparts : (∀ part ∈ c.splitOn .comma, (part.text.isEmpty || part.text == ['*']) = false) ↔
      ∀ part ∈ Nested.parts (nested 0 c), part ≠ [] ∧ Nested.text part ≠ ['*'] := by
    rw [parts_nested, List.forall_mem_map]
    refine forall₂_congr fun part hpart => ?_
    rw [isEmpty_text fun t ht => hproper t (mem_of_mem_splitOn hpart ht), ne_eq, nested_eq_nil_iff,
      text_nested]
    simp
  unfold binNames?
  cases c with
  | nil => simp
  | cons t rest =>
    rw [List.isEmpty_cons, if_neg Bool.false_ne_true, mapM_ite_eq_some_iff, hparts, map_name_parts]
    simp

theorem projection?_eq_some_iff (hproper : ∀ t ∈ c, t.lexeme.IsProper) {bins : BinSelection} :
    c.projection? = some bins ↔ Nested.IsProjection (nested 0 c) bins := by
  have hstar : c.singleWord? = some ['*'] ↔
      ∃ star, nested 0 c = [star] ∧ star.token.lexeme = .word ['*'] := by
    rw [singleWord?_eq_some_iff]
    constructor
    · rintro ⟨t, rfl, ht⟩
      exact ⟨⟨t, 0⟩, rfl, ht⟩
    · rintro ⟨star, hc, hlexeme⟩
      have htokens := congrArg (List.map Nested.token) hc
      rw [map_token_nested] at htokens
      exact ⟨star.token, htokens, hlexeme⟩
  unfold projection? Nested.IsProjection
  by_cases hsingle : c.singleWord? = some ['*']
  · obtain ⟨star, hc, hlexeme⟩ := hstar.1 hsingle
    have hname : Nested.parts (nested 0 c) = [[star]] := by
      have hother : Nested.isTopMark .comma star = false := by
        simp [Nested.isTopMark, Token.kind, Lexeme.kind, hlexeme]
      rw [hc]
      exact splitOnP_eq_singleton_iff.2 ⟨rfl, by simpa using hother⟩
    have htext : Nested.text [star] = ['*'] := by
      simp [Nested.text, text, spelling, Token.chars, Lexeme.chars, hlexeme]
    rw [if_pos (beq_iff_eq.2 hsingle), Option.some.injEq, eq_comm, hname, hc]
    constructor
    · rintro rfl
      exact .inl ⟨star, rfl, hlexeme, rfl⟩
    · rintro (⟨-, -, -, rfl⟩ | ⟨-, hparts, -⟩)
      · rfl
      · exact absurd htext (hparts [star] List.mem_cons_self).2
  · rw [if_neg (by simpa using hsingle), Option.map_eq_some_iff]
    constructor
    · rintro ⟨names, hnames, rfl⟩
      obtain ⟨hne, hparts, rfl⟩ := (binNames?_eq_some_iff hproper).1 hnames
      exact .inr ⟨mt nested_eq_nil_iff.1 hne, hparts, rfl⟩
    · rintro (⟨star, hc, hlexeme, -⟩ | ⟨hne, hparts, rfl⟩)
      · exact absurd (hstar.2 ⟨star, hc, hlexeme⟩) hsingle
      · exact ⟨_, (binNames?_eq_some_iff hproper).2 ⟨mt nested_eq_nil_iff.2 hne, hparts, rfl⟩, rfl⟩

theorem bind_singleWord?_eq_some_iff {target : SetName} :
    c.singleWord?.bind SetName.parse? = some target ↔ ∃ t, c = [t] ∧ t.IsTarget target := by
  rw [Option.bind_eq_some_iff]
  constructor
  · rintro ⟨word, hword, hparse⟩
    obtain ⟨t, hc, hlexeme⟩ := singleWord?_eq_some_iff.1 hword
    exact ⟨t, hc, word, hlexeme, SetName.parse?_eq_some_iff.1 hparse⟩
  · rintro ⟨t, hc, word, hlexeme, htarget⟩
    exact ⟨word, singleWord?_eq_some_iff.2 ⟨t, hc, hlexeme⟩, SetName.parse?_eq_some_iff.2 htarget⟩

theorem isTarget_alone_iff {target : SetName} :
    (∃ word, nested 0 c = [word] ∧ word.token.IsTarget target) ↔
      c.keywordPositions "WHERE" = [] ∧ c.singleWord?.bind SetName.parse? = some target := by
  rw [bind_singleWord?_eq_some_iff]
  constructor
  · rintro ⟨word, hc, htarget⟩
    have htokens := congrArg (List.map Nested.token) hc
    rw [map_token_nested] at htokens
    refine ⟨?_, word.token, htokens, htarget⟩
    have hother : word.token.isKeyword "WHERE" = false := htarget.isKeyword_eq_false (by decide)
    rw [keywordPositions, keywordPositionsFrom_eq_nil_iff, hc]
    simp [Nested.isTopKeyword, hother]
  · rintro ⟨-, t, rfl, htarget⟩
    exact ⟨⟨t, 0⟩, rfl, htarget⟩

theorem isTarget_before_iff {target : SetName} {equality : Equality} :
    (∃ word condition, CutOnce (Nested.isTopKeyword "WHERE") (nested 0 c) [word] condition ∧
        word.token.IsTarget target ∧ Nested.IsEquation condition equality) ↔
      ∃ position, c.keywordPositions "WHERE" = [position] ∧
        (c.slice 0 position).singleWord?.bind SetName.parse? = some target ∧
        (c.tail (position + 1)).equality? = some equality := by
  simp only [keywordPositions_eq_singleton_iff, bind_singleWord?_eq_some_iff,
    equality?_eq_some_iff]
  -- what stands before the keyword and after it is what the clause is cut into at its position
  have hcuts : ∀ {left right : List Nested},
      CutOnce (Nested.isTopKeyword "WHERE") (nested 0 c) left right →
        c.slice 0 left.length = left.map Nested.token ∧
        nested 0 (c.tail (left.length + 1)) = right := by
    intro left right hcut
    obtain ⟨t, hc, -, -, hright⟩ := eq_of_cutOnce_isTopKeyword hcut
    have hlength : left.length = (left.map Nested.token).length := (List.length_map _).symm
    constructor
    · rw [slice, List.drop_zero, hc, hlength, List.take_left]
    · rw [tail, hc, hlength, ← List.drop_drop, List.drop_left, List.drop_one, List.tail_cons,
        ← hright]
  constructor
  · rintro ⟨word, condition, hcut, htarget, hequation⟩
    obtain ⟨hslice, htail⟩ := hcuts hcut
    exact ⟨1, ⟨[word], condition, hcut, rfl⟩, ⟨word.token, hslice, htarget⟩, htail ▸ hequation⟩
  · rintro ⟨position, ⟨left, right, hcut, rfl⟩, ⟨t, hword, htarget⟩, hequation⟩
    obtain ⟨hslice, htail⟩ := hcuts hcut
    rw [hslice] at hword
    obtain ⟨word, rfl, rfl⟩ := List.map_eq_singleton_iff.1 hword
    exact ⟨word, right, hcut, htarget, htail ▸ hequation⟩

theorem isSource_iff {target : SetName} {predicate : Option Equality} :
    Nested.IsSource (nested 0 c) target predicate ↔
      c.keywordPositions "WHERE" = [] ∧ c.singleWord?.bind SetName.parse? = some target ∧
          predicate = none ∨
        ∃ position equality, c.keywordPositions "WHERE" = [position] ∧
          (c.slice 0 position).singleWord?.bind SetName.parse? = some target ∧
          (c.tail (position + 1)).equality? = some equality ∧ predicate = some equality := by
  unfold Nested.IsSource
  constructor
  · rintro (⟨word, hc, htarget, hnone⟩ | ⟨word, condition, equality, hcut, htarget, hread, hsome⟩)
    · obtain ⟨hwhere, hword⟩ := isTarget_alone_iff.1 ⟨word, hc, htarget⟩
      exact .inl ⟨hwhere, hword, hnone⟩
    · obtain ⟨position, hwhere, hword, hequality⟩ :=
        isTarget_before_iff.1 ⟨word, condition, hcut, htarget, hread⟩
      exact .inr ⟨position, equality, hwhere, hword, hequality, hsome⟩
  · rintro (⟨hwhere, hword, hnone⟩ | ⟨position, equality, hwhere, hword, hequality, hsome⟩)
    · obtain ⟨word, hc, htarget⟩ := isTarget_alone_iff.2 ⟨hwhere, hword⟩
      exact .inl ⟨word, hc, htarget, hnone⟩
    · obtain ⟨word, condition, hcut, htarget, hread⟩ :=
        isTarget_before_iff.2 ⟨position, hwhere, hword, hequality⟩
      exact .inr ⟨word, condition, equality, hcut, htarget, hread, hsome⟩

end Clause

/-! ## Selections -/

/-- The grammar of selections: `SELECT bins FROM set`, with no other `FROM` at the top level, and with
`WHERE bin = value` after it or without. The command is the first word of the text. -/
def SelectStatement.IsReadFrom (s : SelectStatement) (first : List Char) (tokens : List Nested) :
    Prop :=
  ∃ command bins source,
    CutOnce (Nested.isTopKeyword "FROM") tokens (command :: bins) source ∧
    command.token.lexeme = .word first ∧
    Command.classify first = .ok .select ∧
    Nested.IsProjection bins s.bins ∧
    Nested.IsSource source s.target s.predicate

theorem SelectStatement.ofClause_iff_of_cutOnce {c : Clause} {s : SelectStatement}
    {command : Nested} {bins source : List Nested}
    (hcut : CutOnce (Nested.isTopKeyword "FROM") (Clause.nested 0 c) (command :: bins) source)
    (hproper : ∀ t ∈ c, t.lexeme.IsProper) (hcommand : command.token.kind = .word) :
    SelectStatement.ofClause c = .ok s ↔
      Nested.IsProjection bins s.bins ∧ Nested.IsSource source s.target s.predicate := by
  obtain ⟨t, hc, -, hleft, hsource⟩ := Clause.eq_of_cutOnce_isTopKeyword hcut
  have hfrom : c.keywordPositions "FROM" = [bins.length + 1] :=
    Clause.keywordPositions_eq_singleton_iff.2 ⟨_, _, hcut, rfl⟩
  -- the command is a word, so the bins begin at the top level
  have hbins : bins = Clause.nested 0 (bins.map Nested.token) := by
    rw [List.map_cons, Clause.nested_cons_of_isFlat (Token.isFlat_of_kind_eq_word hcommand)] at hleft
    exact (List.cons.inj hleft).2
  have hslice : c.slice 1 (bins.length + 1) = bins.map Nested.token := by
    rw [hc]
    simp [Clause.slice]
  have htail : c.tail (bins.length + 1 + 1) = source.map Nested.token := by
    have hlength : bins.length + 1 = ((command :: bins).map Nested.token).length := by simp
    rw [hc, Clause.tail, hlength, ← List.drop_drop, List.drop_left]
    rfl
  have hproperBins : ∀ u ∈ bins.map Nested.token, u.lexeme.IsProper := by
    intro u hu
    refine hproper u ?_
    rw [hc]
    exact List.mem_append_left _ (List.mem_cons_of_mem _ hu)
  have hprojection : (c.slice 1 (bins.length + 1)).projection? = some s.bins ↔
      Nested.IsProjection bins s.bins := by
    rw [hslice, Clause.projection?_eq_some_iff hproperBins, ← hbins]
  have hrest : Clause.nested 0 (c.tail (bins.length + 1 + 1)) = source := by
    rw [htail, ← hsource]
  rw [SelectStatement.ofClause_eq_ok_iff, hfrom, ← hprojection, ← hrest, Clause.isSource_iff]
  simp

/-- **Exactly the grammar of selections is read as selections**, and what is read are the parts of the
tokens. -/
theorem Statement.parse_eq_ok_select_iff (text : List Char) (s : SelectStatement) :
    parse text = .ok (.select s) ↔ ∃ first, (Text.words (normalize text)).head? = some first ∧
      s.IsReadFrom first (Clause.nested 0 (tokenize (normalize text))) := by
  have hproper : ∀ t ∈ tokenize (normalize text), t.lexeme.IsProper :=
    fun t ht => isProper_of_mem_tokenize ht
  have hparse : parse text = .ok (.select s) ↔
      Command.classify (normalize text) = .ok .select ∧
        SelectStatement.ofClause (tokenize (normalize text)) = .ok s := by
    rw [parse_eq_ok_iff]
    simp [ofClause, command, map_eq_ok_iff]
  rw [hparse]
  constructor
  · rintro ⟨hclassify, hread⟩
    obtain ⟨start, hfrom, hprojection, -⟩ := SelectStatement.ofClause_eq_ok_iff.1 hread
    obtain ⟨left, source, hcut, rfl⟩ := Clause.keywordPositions_eq_singleton_iff.1 hfrom
    obtain ⟨t, htokens, -⟩ := Clause.eq_of_cutOnce_isTopKeyword hcut
    obtain ⟨command, bins, rfl⟩ : ∃ command bins, left = command :: bins := by
      cases left with
      | nil =>
        -- before a `FROM` that comes first there are no bins
        rw [List.length_nil, Clause.slice, List.take_zero, List.drop_nil] at hprojection
        cases hprojection
      | cons command bins => exact ⟨command, bins, rfl⟩
    obtain ⟨second, others, hsecond⟩ : ∃ second others,
        tokenize (normalize text) = command.token :: second :: others := by
      rw [htokens, List.map_cons, List.cons_append]
      cases bins with
      | nil => exact ⟨_, _, rfl⟩
      | cons bin bins => exact ⟨_, _, rfl⟩
    obtain ⟨first, hfirst, hlexeme, hselect⟩ :=
      Command.exists_word_of_classify hsecond hclassify
    have hcommand : command.token.kind = .word := by
      rw [Token.kind, hlexeme]
      rfl
    exact ⟨first, hfirst, command, bins, source, hcut, hlexeme, hselect,
      (SelectStatement.ofClause_iff_of_cutOnce hcut hproper hcommand).1 hread⟩
  · rintro ⟨first, hfirst, command, bins, source, hcut, hlexeme, hselect, hread⟩
    have hcommand : command.token.kind = .word := by
      rw [Token.kind, hlexeme]
      rfl
    rw [Command.classify_of_head?_words (head?_normalize text) hfirst]
    exact ⟨hselect, (SelectStatement.ofClause_iff_of_cutOnce hcut hproper hcommand).2 hread⟩

/-- A star among several bins is none, and a `FROM` within parentheses is none either. -/
example : Statement.parse "SELECT f(FROM, b), c FROM a.b WHERE d = 1;".toList =
      .ok (.select ⟨⟨"a", "b"⟩, .named ["f(FROM, b)", "c"], some ⟨"d", .int 1⟩⟩) ∧
    Statement.parse "SELECT a, * FROM a.b".toList =
      .error (.parse "Invalid SELECT query format.") := by
  decide +kernel

end RecordQuery
