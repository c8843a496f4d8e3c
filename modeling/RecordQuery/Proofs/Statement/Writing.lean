import RecordQuery.Proofs.SortedMap
import RecordQuery.Proofs.Statement.Draft

/-!
# Clauses are read back

`Statement.ofClause_lexemes`: the tokens that a draft is written with are read back as the statement
that it stands for, whatever the case of its keywords and the content of its strings.

* `SetName.parse?_display`, `Clause.equality?_lexemes`, `Clause.projection?_lexemes`,
  `Clause.groups_of_isFlat`: the parts.
* `passes_spell`, `passes_display`, `passes_value`, `passes_bins`, `passes_condition`: what no search
  for a keyword finds.
-/

namespace RecordQuery

/-! ## Parts -/

namespace Clause

variable {l : Clause} {x : Lexeme}

theorem text_of_map_lexeme (h : l.map Token.lexeme = [x]) : l.text = x.chars := by
  obtain ⟨t, rfl, rfl⟩ := List.map_eq_singleton_iff.1 h
  exact List.append_nil _

theorem name_of_map_lexeme {name : String} (h : l.map Token.lexeme = [nameLexeme name]) :
    l.name = name := by
  rw [Clause.name, text_of_map_lexeme h]
  exact String.ofList_toList

theorem ne_nil_of_map_lexeme {xs : List Lexeme} (h : l.map Token.lexeme = x :: xs) :
    l.isEmpty = false := by
  obtain ⟨t, rest, rfl, -, -⟩ := List.map_eq_cons_iff.1 h
  rfl

theorem splitOn_equationLexemes {bin : String} {value : Literal}
    (h : l.map Token.lexeme = equationLexemes bin value) :
    ∃ left right : Clause, Clause.splitOn l .equals = [left, right] ∧
      left.map Token.lexeme = [nameLexeme bin] ∧ right.map Token.lexeme = [value.lexeme] := by
  obtain ⟨b, l, rfl, hb, h⟩ := List.map_eq_cons_iff.1 h
  obtain ⟨e, l, rfl, he, h⟩ := List.map_eq_cons_iff.1 h
  obtain ⟨v, rfl, hv⟩ := List.map_eq_singleton_iff.1 h
  have hvalue : v.lexeme.kind = .word ∨ v.lexeme.kind = .quoted := by
    rw [hv]; exact value.kind_lexeme
  refine ⟨[b], [v], ?_, by simp [hb], by simp [hv]⟩
  have hleft : ∀ t ∈ [b], t.IsFlat ∧ t.kind ≠ .equals := by
    intro t ht
    obtain rfl := List.mem_singleton.1 ht
    simp [Token.IsFlat, Lexeme.IsFlat, Token.kind, hb, nameLexeme, Lexeme.kind]
  have hright : ∀ t ∈ [v], t.IsFlat ∧ t.kind ≠ .equals := by
    intro t ht
    obtain rfl := List.mem_singleton.1 ht
    rcases hvalue with hkind | hkind <;>
      simp [Token.IsFlat, Lexeme.IsFlat, Token.kind, hkind]
  have hkind : e.kind = .equals := by rw [Token.kind, he]; rfl
  have hflat : e.IsFlat := by
    unfold Token.IsFlat
    rw [he]
    exact ⟨by decide, by decide⟩
  have hfirst := splitFrom_append_cons (fun t ht => (hleft t ht).1)
    (fun t ht => (hleft t ht).2) hkind hflat [v]
  rw [splitFrom_eq_singleton (fun t ht => (hright t ht).1) fun t ht => (hright t ht).2] at hfirst
  exact hfirst

theorem equality?_lexemes {predicate : Equality} (hvalue : predicate.value.IsWritable)
    (h : l.map Token.lexeme = equationLexemes predicate.bin predicate.value) :
    l.equality? = some predicate := by
  obtain ⟨left, right, hsplit, hleft, hright⟩ := splitOn_equationLexemes h
  rw [equality?, hsplit]
  simp only [ne_nil_of_map_lexeme hleft, ne_nil_of_map_lexeme hright, Bool.or_self,
    Bool.false_eq_true, if_false]
  rw [name_of_map_lexeme hleft, text_of_map_lexeme hright, Literal.coerce_chars_lexeme hvalue]

theorem assignment_lexemes {bin : String} {value : Literal} (hvalue : value.IsWritable)
    (h : l.map Token.lexeme = equationLexemes bin value) :
    l.assignment = .ok (bin, { value, text := value.text }) := by
  obtain ⟨left, right, hsplit, hleft, hright⟩ := splitOn_equationLexemes h
  rw [assignment, hsplit]
  simp only [ne_nil_of_map_lexeme hleft, ne_nil_of_map_lexeme hright, Bool.false_eq_true,
    if_false]
  rw [name_of_map_lexeme hleft, text_of_map_lexeme hright, Literal.ofRaw_chars_lexeme hvalue]

end Clause

theorem SetName.parse?_display {target : SetName} (h : target.IsPlain) :
    SetName.parse? target.display.toList = some target := by
  obtain ⟨⟨⟨hspace, -⟩, hdot⟩, ⟨hset, -⟩, hdot'⟩ := h
  have hsplit : target.display.toList.splitOn '.' = [target.space.toList, target.set.toList] := by
    have hchars : target.display.toList = target.space.toList ++ '.' :: target.set.toList := by
      simp [SetName.display]
    rw [hchars, List.splitOn_append_cons_self_of_not_mem hdot, List.splitOn_eq_singleton hdot']
  rw [SetName.parse?, hsplit]
  simp [hspace, hset, String.ofList_toList]

/-! ## Lists -/

namespace Clause

variable {l : Clause}

theorem isEmpty_of_listLexemes {α : Type} {item : α → List Lexeme} {items : List α}
    (hne : items ≠ []) (hitem : ∀ a ∈ items, item a ≠ [])
    (h : l.map Token.lexeme = listLexemes item items) : l.isEmpty = false := by
  obtain ⟨a, items, rfl⟩ := List.exists_cons_of_ne_nil hne
  have ha := hitem a List.mem_cons_self
  cases l with
  | cons t l => rfl
  | nil =>
    cases items with
    | nil => exact absurd (by simpa [listLexemes] using h.symm) ha
    | cons b items =>
      rw [listLexemes, List.map_cons, List.map_cons, List.intercalate_cons_cons] at h
      simp [ha] at h

theorem isFlat_of_mem_name (name : String) :
    ∀ x ∈ [nameLexeme name], x.IsFlat ∧ x.kind ≠ .comma := by
  intro x hx
  obtain rfl := List.mem_singleton.1 hx
  exact ⟨⟨by simp [nameLexeme, Lexeme.kind], by simp [nameLexeme, Lexeme.kind]⟩,
    by simp [nameLexeme, Lexeme.kind]⟩

theorem isFlat_of_mem_value (value : Literal) :
    ∀ x ∈ [value.lexeme], x.IsFlat ∧ x.kind ≠ .comma := by
  intro x hx
  obtain rfl := List.mem_singleton.1 hx
  rcases value.kind_lexeme with hkind | hkind <;> simp [Lexeme.IsFlat, hkind]

theorem isFlat_of_mem_equation (bin : String) (value : Literal) :
    ∀ x ∈ equationLexemes bin value, x.IsFlat ∧ x.kind ≠ .comma := by
  intro x hx
  simp only [equationLexemes, List.mem_cons, List.not_mem_nil, or_false] at hx
  rcases hx with rfl | rfl | rfl
  · exact isFlat_of_mem_name bin _ List.mem_cons_self
  · exact ⟨⟨by decide, by decide⟩, by decide⟩
  · exact isFlat_of_mem_value value _ List.mem_cons_self

theorem columns_lexemes {names : List String} (hne : names ≠ [])
    (hnames : ∀ name ∈ names, IsPlain name)
    (h : l.map Token.lexeme = listLexemes (fun name => [nameLexeme name]) names) :
    l.columns = .ok names := by
  have hparts := splitOn_listLexemes hne (fun name _ => isFlat_of_mem_name name) h
  have hread := mapM_eq_pure_of_forall₂ (m := Except SyntaxError) (g := id) hparts
    (f := fun part => if part.text.isEmpty then .error .insertShape else .ok part.name)
    (fun name hname part hpart => by
      have htext : part.text = name.toList := text_of_map_lexeme hpart
      have hplain : name ≠ "" := (hnames name hname).1
      rw [htext, name_of_map_lexeme hpart]
      simp [hplain, pure, Except.pure])
  rw [List.map_id] at hread
  exact hread

theorem values_lexemes {literals : List Literal} (hne : literals ≠ [])
    (hliterals : ∀ literal ∈ literals, literal.IsWritable)
    (h : l.map Token.lexeme = listLexemes (fun literal => [literal.lexeme]) literals) :
    Clause.values (l.splitOn .comma) = .ok literals := by
  have hparts := splitOn_listLexemes hne (fun literal _ => isFlat_of_mem_value literal) h
  have hread := mapM_eq_pure_of_forall₂ (m := Except SyntaxError) (g := id) hparts
    (f := fun part =>
      if part.text.isEmpty then .error (.insertValue part.name)
      else .ok (Literal.coerce part.text))
    (fun literal hliteral part hpart => by
      have hproper := Literal.isProper_lexeme (hliterals literal hliteral)
      obtain ⟨c, rest, hchars, -⟩ := Lexeme.exists_chars_eq_cons hproper
      have hne : part.text.isEmpty = false := by rw [text_of_map_lexeme hpart, hchars]; rfl
      simp only [hne, Bool.false_eq_true, if_false]
      rw [text_of_map_lexeme hpart, Literal.coerce_chars_lexeme (hliterals literal hliteral)]
      rfl)
  rw [List.map_id] at hread
  exact hread

theorem length_splitOn_lexemes {literals : List Literal} (hne : literals ≠ [])
    (h : l.map Token.lexeme = listLexemes (fun literal => [literal.lexeme]) literals) :
    (Clause.splitOn l .comma).length = literals.length :=
  (splitOn_listLexemes hne (fun literal _ => isFlat_of_mem_value literal) h).length_eq.symm

theorem assignments_lexemes {pairs : List (String × Literal)} (hne : pairs ≠ [])
    (hpairs : ∀ pair ∈ pairs, pair.2.IsWritable)
    (h : l.map Token.lexeme = listLexemes (fun (bin, value) => equationLexemes bin value) pairs) :
    l.assignments = .ok (SortedMap.ofList
      (pairs.map fun (bin, value) => (bin, { value, text := value.text }))) := by
  have hparts := splitOn_listLexemes hne (fun pair _ => isFlat_of_mem_equation pair.1 pair.2) h
  have hread := mapM_eq_pure_of_forall₂ (m := Except SyntaxError) (f := assignment)
    (g := fun (bin, value) => (bin, ({ value, text := value.text } : Assignment))) hparts
    (fun pair hpair _ hpart => assignment_lexemes (hpairs pair hpair) hpart)
  have hempty := isEmpty_of_listLexemes hne
    (fun pair _ => List.cons_ne_nil (nameLexeme pair.1) _) h
  rw [assignments, hempty, hread]
  rfl

theorem projection?_lexemes {bins : BinSelection} (hbins : Draft.BinsWritable bins)
    (h : l.map Token.lexeme = Draft.binLexemes bins) : l.projection? = some bins := by
  cases bins with
  | all =>
    obtain ⟨t, rfl, ht⟩ := List.map_eq_singleton_iff.1 h
    have hstar : singleWord? [t] = some ['*'] := by simp [singleWord?, Token.word?, ht]
    rw [projection?, hstar]
    rfl
  | named names =>
    obtain ⟨hne, hnames⟩ := hbins
    have hparts := splitOn_listLexemes hne (fun name _ => isFlat_of_mem_name name) h
    have hread := mapM_eq_pure_of_forall₂ (m := Option) (g := id) hparts
      (f := fun part =>
        if part.text.isEmpty || part.text == ['*'] then none else some part.name)
      (fun name hname part hpart => by
        have htext : part.text = name.toList := text_of_map_lexeme hpart
        obtain ⟨hplain, hstar, -⟩ := hnames name hname
        have hchars : name.toList ≠ ['*'] := fun heq =>
          hstar (String.toList_inj.1 heq)
        rw [htext, name_of_map_lexeme hpart]
        simp [hplain.1, hchars])
    rw [List.map_id] at hread
    have hstar : singleWord? l ≠ some ['*'] := by
      intro hword
      -- a single word would be a listed name
      unfold singleWord? at hword
      split at hword
      next t =>
        have hmem : t.lexeme ∈ listLexemes (fun name => [nameLexeme name]) names := by
          have hlist : [t].map Token.lexeme =
            listLexemes (fun name => [nameLexeme name]) names := h
          rw [← hlist]
          exact List.mem_singleton_self _
        unfold Token.word? at hword
        rcases mem_listLexemes hmem with hcomma | ⟨name, hname, hmem⟩
        · simp [hcomma] at hword
        · rw [List.mem_singleton.1 hmem] at hword
          exact (hnames name hname).2.1 (String.toList_inj.1 (Option.some.inj hword))
      next => cases hword
    have hempty := isEmpty_of_listLexemes hne
      (fun name _ => List.cons_ne_nil (nameLexeme name) _) h
    rw [projection?, beq_eq_false_iff_ne.2 hstar, binNames?, hempty]
    simp only [Bool.false_eq_true, if_false]
    rw [hread]
    rfl

end Clause

/-! ## Targets -/

theorem Clause.dottedWordAt?_display {clause : Clause} {position : Nat} {t : Token}
    {target : SetName} (hposition : clause[position]? = some t)
    (ht : t.lexeme = nameLexeme target.display) :
    clause.dottedWordAt? position = some target.display.toList := by
  have hdot : target.display.toList.contains '.' = true := by simp [SetName.display]
  have hword : t.word? = some target.display.toList := by
    rw [Token.word?, ht]
    rfl
  rw [dottedWordAt?, wordAt?, hposition, Option.bind_some, hword, Option.filter_some, if_pos hdot]

/-! ## Keywords -/

section Keywords

variable {keyword : String} {spell : String → List Char}

theorem isFlat_word (text : List Char) : (Lexeme.word text).IsFlat :=
  ⟨by simp [Lexeme.kind], by simp [Lexeme.kind]⟩

theorem passes_spell
    (hspell : ∀ keyword, Text.equalIgnoringCase (spell keyword) keyword.toList = true)
    {other : String} (hne : keyword.toList.map Char.toLower ≠ other.toList.map Char.toLower) :
    (Lexeme.word (spell keyword)).Passes other :=
  ⟨isFlat_word _, Text.equalIgnoringCase_eq_false (hspell keyword) hne⟩

theorem passes_name {name : String} (h : isNamedLike keyword name = false) :
    (nameLexeme name).Passes keyword :=
  ⟨isFlat_word _, h⟩

theorem passes_display (hkeyword : ∀ c ∈ keyword.toList, c.isAlpha = true) (target : SetName) :
    (nameLexeme target.display).Passes keyword := by
  have hdot : '.' ∈ target.display.toList := by simp [SetName.display]
  exact ⟨isFlat_word _, Text.equalIgnoringCase_eq_false_of_mem hkeyword hdot (by decide)⟩

theorem passes_value (hkeyword : ∀ c ∈ keyword.toList, c.isAlpha = true) {value : Literal}
    (h : value.IsWritable) : value.lexeme.Passes keyword := by
  cases value with
  | str text =>
    have hkind : (Literal.str text).lexeme.kind = .quoted := rfl
    exact ⟨⟨by simp [hkind], by simp [hkind]⟩, rfl⟩
  | int n =>
    obtain ⟨c, rest, hchars⟩ := List.exists_cons_of_ne_nil (Number.intText_ne_nil n.toInt)
    have hmem : c ∈ (Literal.int n).text.toList := by
      have htext : (Literal.int n).text.toList = Number.intText n.toInt := Literal.chars_lexeme_int n
      rw [htext, hchars]
      exact List.mem_cons_self
    have hc : c.isAlpha = false := Number.isAlpha_of_mem_intText (hchars ▸ List.mem_cons_self)
    exact ⟨isFlat_word _, Text.equalIgnoringCase_eq_false_of_mem hkeyword hmem hc⟩
  | float x => exact absurd h id

theorem passes_equation (hkeyword : ∀ c ∈ keyword.toList, c.isAlpha = true) {bin : String}
    {value : Literal} (hbin : isNamedLike keyword bin = false) (hvalue : value.IsWritable) :
    ∀ x ∈ equationLexemes bin value, x.Passes keyword := by
  intro x hx
  simp only [equationLexemes, List.mem_cons, List.not_mem_nil, or_false] at hx
  rcases hx with rfl | rfl | rfl
  · exact passes_name hbin
  · exact ⟨⟨by decide, by decide⟩, rfl⟩
  · exact passes_value hkeyword hvalue

theorem passes_condition
    (hspell : ∀ keyword, Text.equalIgnoringCase (spell keyword) keyword.toList = true)
    (hkeyword : ∀ c ∈ keyword.toList, c.isAlpha = true)
    (hne : "WHERE".toList.map Char.toLower ≠ keyword.toList.map Char.toLower) {predicate : Equality}
    (hbin : isNamedLike keyword predicate.bin = false) (hvalue : predicate.value.IsWritable) :
    ∀ x ∈ Draft.conditionLexemes spell predicate, x.Passes keyword := by
  rw [Draft.conditionLexemes, List.forall_mem_cons]
  exact ⟨passes_spell hspell hne, passes_equation hkeyword hbin hvalue⟩

theorem passes_bins {bins : BinSelection} (h : Draft.BinsWritable bins) :
    ∀ x ∈ Draft.binLexemes bins, x.Passes "FROM" := by
  cases bins with
  | all =>
    rw [Draft.binLexemes, List.forall_mem_singleton]
    exact ⟨isFlat_word _, by decide⟩
  | named names =>
    refine passes_of_mem_listLexemes fun name hname => ?_
    rw [List.forall_mem_singleton]
    exact passes_name (h.2 name hname).2.2

end Keywords

/-! ## Assignments -/

theorem filter_assignments (pairs : List (String × Literal)) :
    (SortedMap.ofList (pairs.map fun (bin, value) =>
        (bin, ({ value, text := value.text } : Assignment)))).filter
        (fun bin _ => !isKeyColumn bin) =
      SortedMap.ofList ((pairs.filter fun pair => !isKeyColumn pair.1).map
        fun (bin, value) => (bin, { value, text := value.text })) := by
  rw [SortedMap.filter_ofList, List.filter_map]
  rfl

theorem isEmpty_assignments {pairs : List (String × Literal)} {kept : String × Literal}
    (hkept : kept ∈ pairs) (hnoKey : isKeyColumn kept.1 = false) :
    (SortedMap.ofList ((pairs.filter fun pair => !isKeyColumn pair.1).map
      fun (bin, value) => (bin, ({ value, text := value.text } : Assignment)))).isEmpty = false := by
  have hmem : kept ∈ pairs.filter fun pair => !isKeyColumn pair.1 :=
    List.mem_filter.2 ⟨hkept, by rw [hnoKey]; rfl⟩
  rw [SortedMap.isEmpty_ofList, List.isEmpty_map, List.isEmpty_eq_false_iff]
  exact List.ne_nil_of_mem hmem

/-! ## Groups -/

theorem Clause.groups_of_isFlat (i n g v : Token) {o c o' c' : Token} {columnList valueList : Clause}
    (hopen : o.kind = .leftParen) (hcolumns : ∀ t ∈ columnList, t.IsFlat)
    (hclose : c.kind = .rightParen) (hopen' : o'.kind = .leftParen)
    (hvalues : ∀ t ∈ valueList, t.IsFlat) (hclose' : c'.kind = .rightParen) :
    group? ((i :: n :: g :: o :: columnList) ++ (c :: v :: o' :: valueList) ++ [c']) 3 =
        some (columnList, columnList.length + 5) ∧
      group? ((i :: n :: g :: o :: columnList) ++ (c :: v :: o' :: valueList) ++ [c'])
          (columnList.length + 5 + 1) =
        some (valueList, columnList.length + valueList.length + 8) := by
  have hfirst : (i :: n :: g :: o :: columnList) ++ (c :: v :: o' :: valueList) ++ [c'] =
      [i, n, g] ++ o :: (columnList ++ c :: (v :: o' :: (valueList ++ [c']))) := by simp
  have hsecond : (i :: n :: g :: o :: columnList) ++ (c :: v :: o' :: valueList) ++ [c'] =
      (i :: n :: g :: o :: (columnList ++ [c, v])) ++ o' :: (valueList ++ c' :: []) := by simp
  constructor
  · rw [hfirst]
    refine (group?_append hopen hcolumns hclose [i, n, g] _).trans ?_
    simp
    omega
  · have hgroup := group?_append hopen' hvalues hclose'
      (i :: n :: g :: o :: (columnList ++ [c, v])) []
    have hlength : (i :: n :: g :: o :: (columnList ++ [c, v])).length =
        columnList.length + 5 + 1 := by
      simp
    rw [hsecond, ← hlength, hgroup, hlength]
    congr 2
    omega

/-! ## Shapes -/

section Shapes

variable {spell : String → List Char}
  (hspell : ∀ keyword, Text.equalIgnoringCase (spell keyword) keyword.toList = true)
include hspell

theorem isKeyword_spell {t : Token} {keyword : String} (h : t.lexeme = .word (spell keyword)) :
    t.isKeyword keyword = true := by
  rw [t.isKeyword_eq, h]
  exact hspell keyword

theorem DeleteStatement.ofClause_lexemes {target : SetName} {predicate : Equality}
    (h : (Draft.delete target predicate).IsWritable) {clause : Clause}
    (hclause : clause.map Token.lexeme = (Draft.delete target predicate).lexemes spell) :
    DeleteStatement.ofClause clause = .ok { target, predicate } := by
  obtain ⟨htarget, hbin, hwhere, hstring, hvalue⟩ := h
  obtain ⟨d, clause, rfl, hd, hclause⟩ := List.map_eq_cons_iff.1 hclause
  obtain ⟨f, clause, rfl, hf, hclause⟩ := List.map_eq_cons_iff.1 hclause
  obtain ⟨g, clause, rfl, hg, hclause⟩ := List.map_eq_cons_iff.1 hclause
  obtain ⟨w, rest, rfl, hw, hrest⟩ := List.map_eq_cons_iff.1 hclause
  have hfront : ∀ t ∈ [d, f, g], t.lexeme.Passes "WHERE" := by
    intro t ht
    simp only [List.mem_cons, List.not_mem_nil, or_false] at ht
    rcases ht with rfl | rfl | rfl
    · rw [hd]; exact passes_spell hspell (by decide)
    · rw [hf]; exact passes_spell hspell (by decide)
    · rw [hg]; exact passes_display (by decide) target
  have hback : ∀ t ∈ rest, t.lexeme.Passes "WHERE" := fun t ht =>
    passes_equation (by decide) hwhere hvalue _ (hrest ▸ List.mem_map_of_mem ht)
  have hpositions : Clause.keywordPositions (d :: f :: g :: w :: rest) "WHERE" = [3] :=
    Clause.keywordPositions_eq_singleton hfront (isKeyword_spell hspell hw) hback
  have hinto : Clause.isKeywordAt (d :: f :: g :: w :: rest) 1 "FROM" = true := by
    simp [Clause.isKeywordAt, isKeyword_spell hspell hf]
  have hword : Clause.dottedWordAt? (d :: f :: g :: w :: rest) 2 = some target.display.toList :=
    Clause.dottedWordAt?_display rfl hg
  have htail : Clause.tail (d :: f :: g :: w :: rest) (3 + 1) = rest := rfl
  rw [DeleteStatement.ofClause, hinto, hword, hpositions]
  simp only [SyntaxError.unless, SyntaxError.orElse, SetName.parse?_display htarget, htail,
    Clause.equality?_lexemes hvalue hrest, hstring, List.head?_cons, List.length_cons,
    List.length_nil, if_true, bind, Except.bind, pure, Except.pure]
  rfl

theorem SelectStatement.ofClause_lexemes {target : SetName} {bins : BinSelection}
    {predicate : Option Equality} (h : (Draft.select target bins predicate).IsWritable)
    {clause : Clause}
    (hclause : clause.map Token.lexeme = (Draft.select target bins predicate).lexemes spell) :
    SelectStatement.ofClause clause = .ok { target, bins, predicate } := by
  obtain ⟨htarget, hbins, hpredicate⟩ := h
  obtain ⟨front, back, rfl, hfront, hback⟩ := List.map_eq_append_iff.1 hclause
  obtain ⟨s, names, rfl, hs, hnames⟩ := List.map_eq_cons_iff.1 hfront
  obtain ⟨f, back, rfl, hf, hback⟩ := List.map_eq_cons_iff.1 hback
  obtain ⟨g, condition, rfl, hg, hcondition⟩ := List.map_eq_cons_iff.1 hback
  have hfirst : ∀ t ∈ s :: names, t.lexeme.Passes "FROM" := by
    intro t ht
    rcases List.mem_cons.1 ht with rfl | ht
    · rw [hs]; exact passes_spell hspell (by decide)
    · exact passes_bins hbins _ (hnames ▸ List.mem_map_of_mem ht)
  have hlast : ∀ t ∈ g :: condition, t.lexeme.Passes "FROM" := by
    intro t ht
    rcases List.mem_cons.1 ht with rfl | ht
    · rw [hg]; exact passes_display (by decide) target
    · have hmem := hcondition ▸ List.mem_map_of_mem (f := Token.lexeme) ht
      cases predicate with
      | none => cases hmem
      | some equality =>
        obtain ⟨-, hfrom, -, hvalue⟩ := hpredicate equality rfl
        exact passes_condition hspell (by decide) (by decide) hfrom hvalue _ hmem
  have hpositions : Clause.keywordPositions ((s :: names) ++ f :: g :: condition) "FROM" =
      [names.length + 1] :=
    Clause.keywordPositions_eq_singleton hfirst (isKeyword_spell hspell hf) hlast
  have hslice : Clause.slice ((s :: names) ++ f :: g :: condition) 1 (names.length + 1) = names := by
    simp [Clause.slice]
  have htail : Clause.tail ((s :: names) ++ f :: g :: condition) (names.length + 1 + 1) =
      g :: condition := by
    simp [Clause.tail, List.drop_append]
  have hprojection := Clause.projection?_lexemes hbins hnames
  have htargetWhere : ∀ t ∈ [g], t.lexeme.Passes "WHERE" := by
    intro t ht
    rw [List.mem_singleton.1 ht, hg]
    exact passes_display (by decide) target
  have hword : Clause.singleWord? [g] = some target.display.toList := by
    simp [Clause.singleWord?, Token.word?, hg, nameLexeme]
  rw [SelectStatement.ofClause, hpositions]
  simp only [hslice, htail, hprojection, SyntaxError.orElse, bind, Except.bind]
  cases predicate with
  | none =>
    obtain rfl := List.map_eq_nil_iff.1 hcondition
    have hwhere : Clause.keywordPositions [g] "WHERE" = [] :=
      Clause.keywordPositionsFrom_eq_nil htargetWhere 0 0
    simp only [hwhere, hword, Option.bind, SetName.parse?_display htarget, pure, Except.pure]
  | some equality =>
    obtain ⟨-, -, hnamed, hvalue⟩ := hpredicate equality rfl
    obtain ⟨w, rest, rfl, hw, hrest⟩ := List.map_eq_cons_iff.1 hcondition
    have hrestWhere : ∀ t ∈ rest, t.lexeme.Passes "WHERE" := fun t ht =>
      passes_equation (by decide) hnamed hvalue _ (hrest ▸ List.mem_map_of_mem ht)
    have hwhere : Clause.keywordPositions (g :: w :: rest) "WHERE" = [1] :=
      Clause.keywordPositions_eq_singleton htargetWhere (isKeyword_spell hspell hw) hrestWhere
    have hbefore : Clause.slice (g :: w :: rest) 0 1 = [g] := rfl
    have hafter : Clause.tail (g :: w :: rest) (1 + 1) = rest := rfl
    simp only [hwhere, hbefore, hafter, hword, Option.bind, SetName.parse?_display htarget,
      Clause.equality?_lexemes hvalue hrest, pure, Except.pure]

theorem InsertStatement.ofClause_lexemes {target : SetName} {columns : List String}
    {values : List Literal} (h : (Draft.insert target columns values).IsWritable)
    {clause : Clause}
    (hclause : clause.map Token.lexeme = (Draft.insert target columns values).lexemes spell) :
    InsertStatement.ofClause clause = .ok { target, columns, values } := by
  obtain ⟨htarget, hne, hlength, hcolumns, hvalues⟩ := h
  have hne' : values ≠ [] := by
    rintro rfl
    exact hne (List.length_eq_zero_iff.1 hlength)
  obtain ⟨front, last, rfl, hfront, hlast⟩ := List.map_eq_append_iff.1 hclause
  obtain ⟨front, back, rfl, hfront, hback⟩ := List.map_eq_append_iff.1 hfront
  obtain ⟨i, front, rfl, hi, hfront⟩ := List.map_eq_cons_iff.1 hfront
  obtain ⟨n, front, rfl, hn, hfront⟩ := List.map_eq_cons_iff.1 hfront
  obtain ⟨g, front, rfl, hg, hfront⟩ := List.map_eq_cons_iff.1 hfront
  obtain ⟨o, columnList, rfl, ho, hcolumnList⟩ := List.map_eq_cons_iff.1 hfront
  obtain ⟨c, back, rfl, hc, hback⟩ := List.map_eq_cons_iff.1 hback
  obtain ⟨v, back, rfl, hv, hback⟩ := List.map_eq_cons_iff.1 hback
  obtain ⟨o', valueList, rfl, ho', hvalueList⟩ := List.map_eq_cons_iff.1 hback
  obtain ⟨c', rfl, hc'⟩ := List.map_eq_singleton_iff.1 hlast
  have hflatColumns : ∀ t ∈ columnList, t.IsFlat := fun t ht =>
    isFlat_of_mem_listLexemes (fun name _ x hx => (Clause.isFlat_of_mem_name name x hx).1) _
      (hcolumnList ▸ List.mem_map_of_mem ht)
  have hflatValues : ∀ t ∈ valueList, t.IsFlat := fun t ht =>
    isFlat_of_mem_listLexemes (fun value _ x hx => (Clause.isFlat_of_mem_value value x hx).1) _
      (hvalueList ▸ List.mem_map_of_mem ht)
  have hopen : o.kind = .leftParen := by rw [Token.kind, ho]; rfl
  have hopen' : o'.kind = .leftParen := by rw [Token.kind, ho']; rfl
  have hclose : c.kind = .rightParen := by rw [Token.kind, hc]; rfl
  have hclose' : c'.kind = .rightParen := by rw [Token.kind, hc']; rfl
  obtain ⟨hcolumnGroup, hvalueGroup⟩ :=
    Clause.groups_of_isFlat i n g v hopen hflatColumns hclose hopen' hflatValues hclose'
  have hinto : Clause.isKeywordAt
      ((i :: n :: g :: o :: columnList) ++ (c :: v :: o' :: valueList) ++ [c']) 1 "INTO" = true := by
    simp [Clause.isKeywordAt, isKeyword_spell hspell hn]
  have hword : Clause.dottedWordAt?
      ((i :: n :: g :: o :: columnList) ++ (c :: v :: o' :: valueList) ++ [c']) 2 =
      some target.display.toList :=
    Clause.dottedWordAt?_display rfl hg
  have hkeyword : Clause.isKeywordAt
      ((i :: n :: g :: o :: columnList) ++ (c :: v :: o' :: valueList) ++ [c'])
        (columnList.length + 5) "VALUES" = true := by
    simp [Clause.isKeywordAt, isKeyword_spell hspell hv]
  have hend : (columnList.length + valueList.length + 8 ==
      ((i :: n :: g :: o :: columnList) ++ (c :: v :: o' :: valueList) ++ [c']).length) = true := by
    simp
    omega
  have hcount : ((Clause.splitOn valueList .comma).length == columns.length) = true := by
    rw [Clause.length_splitOn_lexemes hne' hvalueList, hlength]
    exact beq_self_eq_true _
  rw [InsertStatement.ofClause, hinto, hword, hcolumnGroup]
  simp only [SyntaxError.unless, SyntaxError.orElse, SetName.parse?_display htarget, hkeyword,
    hvalueGroup, hend, hcount, Clause.columns_lexemes hne hcolumns hcolumnList,
    Clause.values_lexemes hne' hvalues hvalueList, if_true, bind, Except.bind, pure, Except.pure]

theorem UpdateStatement.ofClause_lexemes {target : SetName} {pairs : List (String × Literal)}
    {predicate : Equality} (h : (Draft.update target pairs predicate).IsWritable)
    {clause : Clause}
    (hclause : clause.map Token.lexeme = (Draft.update target pairs predicate).lexemes spell) :
    (UpdateStatement.ofClause clause).map Statement.update =
      .ok (Draft.update target pairs predicate).statement := by
  obtain ⟨htarget, hpairs, ⟨kept, hkept, hnoKey⟩, hbin, hwhere, hstring, hvalue⟩ := h
  have hne : pairs ≠ [] := List.ne_nil_of_mem hkept
  obtain ⟨front, back, rfl, hfront, hback⟩ := List.map_eq_append_iff.1 hclause
  obtain ⟨u, front, rfl, hu, hfront⟩ := List.map_eq_cons_iff.1 hfront
  obtain ⟨g, front, rfl, hg, hfront⟩ := List.map_eq_cons_iff.1 hfront
  obtain ⟨s, assigned, rfl, hs, hassigned⟩ := List.map_eq_cons_iff.1 hfront
  obtain ⟨w, rest, rfl, hw, hrest⟩ := List.map_eq_cons_iff.1 hback
  have hfrontSet : ∀ t ∈ [u, g], t.lexeme.Passes "SET" := by
    intro t ht
    simp only [List.mem_cons, List.not_mem_nil, or_false] at ht
    rcases ht with rfl | rfl
    · rw [hu]; exact passes_spell hspell (by decide)
    · rw [hg]; exact passes_display (by decide) target
  have hfrontWhere : ∀ t ∈ u :: g :: s :: assigned, t.lexeme.Passes "WHERE" := by
    intro t ht
    simp only [List.mem_cons] at ht
    rcases ht with rfl | rfl | rfl | ht
    · rw [hu]; exact passes_spell hspell (by decide)
    · rw [hg]; exact passes_display (by decide) target
    · rw [hs]; exact passes_spell hspell (by decide)
    · exact passes_of_mem_listLexemes
        (fun pair hpair => passes_equation (by decide) (hpairs pair hpair).2.1
          (hpairs pair hpair).2.2) _ (hassigned ▸ List.mem_map_of_mem ht)
  have hrestWhere : ∀ t ∈ rest, t.lexeme.Passes "WHERE" := fun t ht =>
    passes_equation (by decide) hwhere hvalue _ (hrest ▸ List.mem_map_of_mem ht)
  have hset : (Clause.keywordPositions ((u :: g :: s :: assigned) ++ w :: rest) "SET").head? =
      some 2 :=
    Clause.head?_keywordPositions hfrontSet (isKeyword_spell hspell hs) (assigned ++ w :: rest)
  have hpositions : Clause.keywordPositions ((u :: g :: s :: assigned) ++ w :: rest) "WHERE" =
      [assigned.length + 3] :=
    Clause.keywordPositions_eq_singleton hfrontWhere (isKeyword_spell hspell hw) hrestWhere
  have hword : Clause.dottedWordAt? ((u :: g :: s :: assigned) ++ w :: rest) 1 =
      some target.display.toList :=
    Clause.dottedWordAt?_display rfl hg
  have hslice : Clause.slice ((u :: g :: s :: assigned) ++ w :: rest) (2 + 1)
      (assigned.length + 3) = assigned := by
    simp [Clause.slice]
  have htail : Clause.tail ((u :: g :: s :: assigned) ++ w :: rest) (assigned.length + 3 + 1) =
      rest := by
    simp [Clause.tail, List.drop_append]
  have hassignments := Clause.assignments_lexemes hne (fun pair hpair => (hpairs pair hpair).2.2)
    hassigned
  have hlt : decide (2 < assigned.length + 3) = true := by simp
  have hkeep := filter_assignments pairs
  have hsome := isEmpty_assignments hkept hnoKey
  rw [UpdateStatement.ofClause, hword, hset, hpositions]
  simp only [SyntaxError.unless, SyntaxError.orElse, SetName.parse?_display htarget, hslice,
    htail, hassignments, Clause.equality?_lexemes hvalue hrest, hstring, hlt, hkeep, hsome,
    List.head?_cons, List.length_cons, List.length_nil, bind, Except.bind, pure, Except.pure]
  rfl

/-- **The tokens of a draft are read back as its statement.** -/
theorem Statement.ofClause_lexemes {draft : Draft} (h : draft.IsWritable) {clause : Clause}
    (hclause : clause.map Token.lexeme = draft.lexemes spell) :
    Statement.ofClause draft.command clause = .ok draft.statement := by
  cases draft with
  | select target bins predicate =>
    simp only [Statement.ofClause, Draft.command,
      SelectStatement.ofClause_lexemes hspell h hclause]
    rfl
  | insert target columns values =>
    simp only [Statement.ofClause, Draft.command,
      InsertStatement.ofClause_lexemes hspell h hclause]
    rfl
  | delete target predicate =>
    simp only [Statement.ofClause, Draft.command,
      DeleteStatement.ofClause_lexemes hspell h hclause]
    rfl
  | update target assignments predicate =>
    exact UpdateStatement.ofClause_lexemes hspell h hclause

end Shapes

end RecordQuery
