import RecordQuery.Proofs.Statement.Writing

/-!
# Statements are read back

`parse_spelling`: a draft that is written down is read back as the statement that it stands for,
whatever the case of its keywords, the blanks between its parts and the content of its strings.

* `normalize_spelling`: blanks around a statement and one semicolon after it are dropped.
* `classify_text`: the command of a statement is its first word in any case.
* `Draft.isWhole_of_mem_lexemes`: all that a draft is written with can be read back.
-/

namespace RecordQuery

/-! ## Whole lexemes -/

/-- Whether a lexeme can be written and be followed by another. -/
def Lexeme.IsWhole (l : Lexeme) : Prop :=
  l.IsProper ∧ ∀ body, l ≠ .quoted body false

theorem Lexeme.IsWhole.exists_chars_eq_concat {l : Lexeme} (h : l.IsWhole) :
    ∃ init last, l.chars = init ++ [last] ∧ Text.isBlank last = false := by
  obtain ⟨hproper, hclosed⟩ := h
  cases l with
  | word text =>
    obtain ⟨hne, hall⟩ := hproper
    obtain ⟨init, last, rfl⟩ := (List.eq_nil_or_concat' text).resolve_left hne
    exact ⟨init, last, rfl, isBlank_of_isWordChar (hall last (by simp))⟩
  | quoted body closed =>
    cases closed with
    | false => exact absurd rfl (hclosed body)
    | true => exact ⟨quoteMark :: body, quoteMark, rfl, by decide⟩
  | comma | equals | leftParen | rightParen => exact ⟨[], _, rfl, by decide⟩

theorem IsPlain.isWhole {name : String} (h : IsPlain name) : (nameLexeme name).IsWhole := by
  have hne : name.toList ≠ [] := fun hnil => h.1 (String.toList_eq_nil_iff.1 hnil)
  exact ⟨⟨hne, h.2⟩, fun _ hquoted => by cases hquoted⟩

theorem SetName.IsPlain.isWhole {target : SetName} (h : target.IsPlain) :
    (nameLexeme target.display).IsWhole := by
  obtain ⟨⟨⟨-, hspace⟩, -⟩, ⟨-, hset⟩, -⟩ := h
  have hchars : target.display.toList = target.space.toList ++ '.' :: target.set.toList := by
    simp [SetName.display]
  refine ⟨⟨by simp [hchars], fun c hc => ?_⟩, fun _ hquoted => by cases hquoted⟩
  rw [hchars] at hc
  rcases List.mem_append.1 hc with hc | hc
  · exact hspace c hc
  · rcases List.mem_cons.1 hc with rfl | hc
    · decide
    · exact hset c hc

theorem Literal.isWhole_lexeme {literal : Literal} (h : literal.IsWritable) :
    literal.lexeme.IsWhole := by
  refine ⟨Literal.isProper_lexeme h, fun body hquoted => ?_⟩
  cases literal with
  | str text => cases hquoted
  | int n => cases hquoted
  | float x => exact h

theorem isWordChar_of_isAlpha {c : Char} (h : c.isAlpha = true) : isWordChar c = true :=
  Text.forall_ascii (p := fun c => c.isAlpha = true → isWordChar c = true)
    (by decide +kernel) (Text.val_lt_of_isAlpha h) h

theorem Lexeme.isWhole_of_equalIgnoringCase {text keyword : List Char} (hne : keyword ≠ [])
    (hkeyword : ∀ d ∈ keyword, d.isAlpha = true)
    (h : Text.equalIgnoringCase text keyword = true) : (Lexeme.word text).IsWhole := by
  have hlower : text.map Char.toLower = keyword.map Char.toLower := by
    simpa [Text.equalIgnoringCase] using h
  refine ⟨⟨?_, fun c hc => ?_⟩, fun _ hquoted => by cases hquoted⟩
  · rintro rfl
    exact hne (List.map_eq_nil_iff.1 hlower.symm)
  · have hmem : c.toLower ∈ keyword.map Char.toLower := hlower ▸ List.mem_map_of_mem hc
    obtain ⟨d, hd, hdc⟩ := List.mem_map.1 hmem
    have halpha := Text.isAlpha_toLower (hkeyword d hd)
    rw [hdc] at halpha
    exact isWordChar_of_isAlpha (Text.isAlpha_of_isAlpha_toLower halpha)

/-! ## Drafts -/

section Drafts

variable {spell : String → List Char}
  (hspell : ∀ keyword, Text.equalIgnoringCase (spell keyword) keyword.toList = true)

theorem Draft.exists_lexemes_eq_cons (spell : String → List Char) {draft : Draft}
    (h : draft.IsWritable) :
    ∃ word rest, draft.lexemes spell =
      .word (spell draft.command.keyword) :: .word word :: rest := by
  cases draft with
  | select target bins predicate =>
    cases bins with
    | all => exact ⟨_, _, rfl⟩
    | named names =>
      obtain ⟨-, ⟨hne, -⟩, -⟩ := h
      obtain ⟨name, names, rfl⟩ := List.exists_cons_of_ne_nil hne
      cases names with
      | nil => exact ⟨_, _, rfl⟩
      | cons other names => exact ⟨_, _, rfl⟩
  | insert target columns values => exact ⟨_, _, rfl⟩
  | delete target predicate => exact ⟨_, _, rfl⟩
  | update target assignments predicate => exact ⟨_, _, rfl⟩

theorem isWhole_of_mem_listLexemes {α : Type} {item : α → List Lexeme} {items : List α}
    (h : ∀ a ∈ items, ∀ x ∈ item a, x.IsWhole) : ∀ x ∈ listLexemes item items, x.IsWhole := by
  intro x hx
  rcases mem_listLexemes hx with rfl | ⟨a, ha, hx⟩
  · exact ⟨trivial, fun _ hquoted => by cases hquoted⟩
  · exact h a ha x hx

theorem isWhole_of_mem_equation {bin : String} {value : Literal} (hbin : IsPlain bin)
    (hvalue : value.IsWritable) : ∀ x ∈ equationLexemes bin value, x.IsWhole := by
  simp only [equationLexemes, List.forall_mem_cons]
  exact ⟨hbin.isWhole, ⟨trivial, fun _ hquoted => by cases hquoted⟩,
    Literal.isWhole_lexeme hvalue, List.forall_mem_nil _⟩

include hspell

theorem isWhole_spell {keyword : String} (hne : keyword.toList ≠ [])
    (hkeyword : ∀ d ∈ keyword.toList, d.isAlpha = true) :
    (Lexeme.word (spell keyword)).IsWhole :=
  Lexeme.isWhole_of_equalIgnoringCase hne hkeyword (hspell keyword)

theorem isWhole_of_mem_condition {predicate : Equality} (hbin : IsPlain predicate.bin)
    (hvalue : predicate.value.IsWritable) :
    ∀ x ∈ Draft.conditionLexemes spell predicate, x.IsWhole := by
  rw [Draft.conditionLexemes, List.forall_mem_cons]
  exact ⟨isWhole_spell hspell (by decide) (by decide), isWhole_of_mem_equation hbin hvalue⟩

theorem Draft.isWhole_of_mem_lexemes {draft : Draft} (h : draft.IsWritable) :
    ∀ x ∈ draft.lexemes spell, x.IsWhole := by
  have hmark : ∀ l : Lexeme, l = .leftParen ∨ l = .rightParen → l.IsWhole := by
    rintro l (rfl | rfl)
    · exact ⟨trivial, fun _ hquoted => by cases hquoted⟩
    · exact ⟨trivial, fun _ hquoted => by cases hquoted⟩
  cases draft with
  | select target bins predicate =>
    obtain ⟨htarget, hbins, hpredicate⟩ := h
    have hnames : ∀ x ∈ Draft.binLexemes bins, x.IsWhole := by
      cases bins with
      | all =>
        rw [Draft.binLexemes, List.forall_mem_singleton]
        exact ⟨⟨by decide, by decide⟩, fun _ hquoted => by cases hquoted⟩
      | named names =>
        refine isWhole_of_mem_listLexemes fun name hname => ?_
        rw [List.forall_mem_singleton]
        exact (hbins.2 name hname).1.isWhole
    have hcondition : ∀ x ∈ (predicate.map (Draft.conditionLexemes spell)).getD [],
        x.IsWhole := by
      cases predicate with
      | none => exact List.forall_mem_nil _
      | some equality =>
        obtain ⟨hbin, -, -, hvalue⟩ := hpredicate equality rfl
        exact isWhole_of_mem_condition hspell hbin hvalue
    simp only [Draft.lexemes, List.forall_mem_append, List.forall_mem_cons]
    exact ⟨⟨isWhole_spell hspell (by decide) (by decide), hnames⟩,
      isWhole_spell hspell (by decide) (by decide), htarget.isWhole, hcondition⟩
  | insert target columns values =>
    obtain ⟨htarget, -, -, hcolumns, hvalues⟩ := h
    have hnames : ∀ x ∈ listLexemes (fun name => [nameLexeme name]) columns, x.IsWhole :=
      isWhole_of_mem_listLexemes fun name hname =>
        List.forall_mem_singleton.2 (hcolumns name hname).isWhole
    have hliterals : ∀ x ∈ listLexemes (fun value => [Literal.lexeme value]) values, x.IsWhole :=
      isWhole_of_mem_listLexemes fun value hvalue =>
        List.forall_mem_singleton.2 (Literal.isWhole_lexeme (hvalues value hvalue))
    simp only [Draft.lexemes, List.forall_mem_append, List.forall_mem_cons]
    exact ⟨⟨⟨isWhole_spell hspell (by decide) (by decide),
      isWhole_spell hspell (by decide) (by decide), htarget.isWhole, hmark _ (.inl rfl), hnames⟩,
      hmark _ (.inr rfl), isWhole_spell hspell (by decide) (by decide), hmark _ (.inl rfl),
      hliterals⟩, hmark _ (.inr rfl), List.forall_mem_nil _⟩
  | delete target predicate =>
    obtain ⟨htarget, hbin, -, -, hvalue⟩ := h
    simp only [Draft.lexemes, List.forall_mem_cons]
    exact ⟨isWhole_spell hspell (by decide) (by decide),
      isWhole_spell hspell (by decide) (by decide), htarget.isWhole,
      isWhole_of_mem_condition hspell hbin hvalue⟩
  | update target assignments predicate =>
    obtain ⟨htarget, hassignments, -, hbin, -, -, hvalue⟩ := h
    have hpairs : ∀ x ∈ listLexemes (fun pair => equationLexemes pair.1 pair.2) assignments,
        x.IsWhole :=
      isWhole_of_mem_listLexemes fun pair hpair =>
        isWhole_of_mem_equation (hassignments pair hpair).1 (hassignments pair hpair).2.2
    simp only [Draft.lexemes, List.forall_mem_append, List.forall_mem_cons]
    exact ⟨⟨isWhole_spell hspell (by decide) (by decide), htarget.isWhole,
      isWhole_spell hspell (by decide) (by decide), hpairs⟩,
      isWhole_of_mem_condition hspell hbin hvalue⟩

end Drafts

/-! ## Before the tokens -/

theorem Clause.spelling_eq_gap_append_text (t : Token) (rest : List Token) :
    Clause.spelling (t :: rest) = t.gap ++ Clause.text (t :: rest) := by
  rw [Clause.spelling_cons, Clause.text, List.append_assoc]

theorem Clause.exists_text_eq {tokens : List Token} (hne : tokens ≠ [])
    (hwhole : ∀ t ∈ tokens, t.lexeme.IsWhole) :
    (∃ first rest, Clause.text tokens = first :: rest ∧ Text.isBlank first = false) ∧
      ∃ init last, Clause.text tokens = init ++ [last] ∧ Text.isBlank last = false := by
  constructor
  · obtain ⟨t, rest, rfl⟩ := List.exists_cons_of_ne_nil hne
    obtain ⟨c, cs, hchars, hc, -⟩ :=
      Lexeme.exists_chars_eq_cons (hwhole t List.mem_cons_self).1
    exact ⟨c, cs ++ Clause.spelling rest, by rw [Clause.text, Token.chars, hchars]; rfl, hc⟩
  · obtain ⟨front, t, rfl⟩ := (List.eq_nil_or_concat' tokens).resolve_left hne
    obtain ⟨init, last, hchars, hlast⟩ := (hwhole t (by simp)).exists_chars_eq_concat
    cases front with
    | nil =>
      refine ⟨init, last, ?_, hlast⟩
      rw [List.nil_append, Clause.text, Token.chars, hchars, Clause.spelling_nil, List.append_nil]
    | cons u front =>
      refine ⟨u.chars ++ (Clause.spelling front ++ t.gap ++ init), last, ?_, hlast⟩
      rw [List.cons_append, Clause.text, Clause.spelling_append, Clause.spelling_cons,
        Clause.spelling_nil, Token.chars, Token.chars, hchars]
      simp only [List.append_assoc, List.append_nil]

theorem normalize_spelling {tokens : List Token} {before after : List Char} (hne : tokens ≠ [])
    (hgaps : ∀ t ∈ tokens, ∀ c ∈ t.gap, Text.isBlank c = true)
    (hwhole : ∀ t ∈ tokens, t.lexeme.IsWhole)
    (hbefore : ∀ c ∈ before, Text.isBlank c = true)
    (hafter : ∀ c ∈ after, Text.isBlank c = true) :
    normalize (Clause.spelling tokens ++ before ++ ';' :: after) = Clause.text tokens := by
  obtain ⟨⟨first, rest, hstart, hfirst⟩, init, last, hend, hlast⟩ :=
    Clause.exists_text_eq hne hwhole
  have htrim : Text.trim (Clause.spelling tokens ++ before ++ ';' :: after) =
      Clause.text tokens ++ before ++ [';'] := by
    obtain ⟨t, others, rfl⟩ := List.exists_cons_of_ne_nil hne
    have hgap := hgaps t List.mem_cons_self
    have hblank : Text.trimEnd after = [] := Text.trimEnd_eq_nil hafter
    rw [Text.trim, Clause.spelling_eq_gap_append_text, List.append_assoc, List.append_assoc,
      Text.trimStart_append hgap, hstart, List.cons_append, Text.trimStart_cons hfirst,
      ← List.cons_append, ← List.append_assoc, Text.trimEnd_append_cons (by decide), hblank]
  have hlastChar : (Clause.text tokens ++ before ++ [';']).getLast? = some ';' :=
    List.getLast?_concat
  have hkept : (Clause.text tokens ++ before ++ [';']).dropLast = Clause.text tokens ++ before :=
    List.dropLast_concat
  simp only [normalize, htrim, hlastChar, beq_self_eq_true, if_true, hkept]
  rw [Text.trimEnd_append _ hbefore, hend, Text.trimEnd_concat hlast]

@[simp] theorem Command.ofKeyword?_keyword (command : Command) :
    Command.ofKeyword? command.keyword = some command := by
  cases command <;> rfl

theorem classify_text {command : Command} {t u : Token} {rest : List Token} {text : List Char}
    (ht : t.lexeme = .word text) (htext : (Lexeme.word text).IsProper)
    (hspell : Text.equalIgnoringCase text command.keyword.toList = true)
    (hgap : ∀ c ∈ u.gap, Text.isBlank c = true) (hne : u.gap ≠ []) :
    Command.classify (Clause.text (t :: u :: rest)) = .ok command := by
  obtain ⟨c, gap, hcons⟩ := List.exists_cons_of_ne_nil hne
  have hc : Text.isBlank c = true := hgap c (hcons ▸ List.mem_cons_self)
  have hwords : Text.words (Clause.text (t :: u :: rest)) =
      text :: Text.words (gap ++ (u.chars ++ Clause.spelling rest)) := by
    have hchars : t.chars = text := by rw [Token.chars, ht]; rfl
    rw [Clause.text, Clause.spelling_cons, hchars, hcons, List.append_assoc, List.cons_append,
      Text.words_append htext.1 (fun d hd => isBlank_of_isWordChar (htext.2 d hd)) hc]
  have hupper : String.ofList (Text.upper text) = command.keyword := by
    have hascii : ∀ c ∈ command.keyword.toList, c.val < 0x80 := by cases command <;> decide
    rw [Text.upper_of_equalIgnoringCase hascii hspell]
    cases command <;> rfl
  simp only [Command.classify, hwords, hupper, Command.ofKeyword?_keyword]

/-! ## Round trip -/

/-- **A statement is read back from its text.** The keywords are written in any case, blanks of any
kind stand between the parts, and a semicolon and more blanks at the end. -/
theorem parse_spelling {draft : Draft} (hdraft : draft.IsWritable) {spell : String → List Char}
    (hspell : ∀ keyword, Text.equalIgnoringCase (spell keyword) keyword.toList = true)
    {tokens : List Token} (htokens : tokens.map Token.lexeme = draft.lexemes spell)
    (hgaps : ∀ t ∈ tokens, ∀ c ∈ t.gap, Text.isBlank c = true)
    (hapart : tokens.IsChain Token.Apart) {before after : List Char}
    (hbefore : ∀ c ∈ before, Text.isBlank c = true)
    (hafter : ∀ c ∈ after, Text.isBlank c = true) :
    Statement.parse (Clause.spelling tokens ++ before ++ ';' :: after) = .ok draft.statement := by
  have hwhole : ∀ t ∈ tokens, t.lexeme.IsWhole := fun t ht =>
    Draft.isWhole_of_mem_lexemes hspell hdraft _ (htokens ▸ List.mem_map_of_mem ht)
  obtain ⟨word, others, hlexemes⟩ := Draft.exists_lexemes_eq_cons spell hdraft
  rw [hlexemes] at htokens
  obtain ⟨t, tokens, rfl, ht, htokens⟩ := List.map_eq_cons_iff.1 htokens
  obtain ⟨u, rest, rfl, hu, hrest⟩ := List.map_eq_cons_iff.1 htokens
  have hnormal := normalize_spelling (List.cons_ne_nil _ _) hgaps hwhole hbefore hafter
  -- the first two tokens are words, so there is a blank between them
  have hne : u.gap ≠ [] := (List.isChain_cons_cons.1 hapart).1
    (by rw [Token.kind, ht]; rfl) (by rw [Token.kind, hu]; rfl)
  have hproper : (Lexeme.word (spell draft.command.keyword)).IsProper :=
    ht ▸ (hwhole t List.mem_cons_self).1
  have hcommand : Command.classify (Clause.text (t :: u :: rest)) = .ok draft.command :=
    classify_text ht hproper (hspell _) (hgaps u (List.mem_cons_of_mem _ List.mem_cons_self)) hne
  -- only the gap before the first token is lost
  have hread : tokenize (Clause.text (t :: u :: rest)) = { t with gap := [] } :: u :: rest := by
    have hreadable : Clause.IsReadable ({ t with gap := [] } :: u :: rest) := by
      refine ⟨?_, ?_, ?_, ?_⟩
      · rw [List.forall_mem_cons]
        exact ⟨List.forall_mem_nil _, fun v hv => hgaps v (List.mem_cons_of_mem _ hv)⟩
      · rw [List.forall_mem_cons]
        exact ⟨(hwhole t List.mem_cons_self).1,
          fun v hv => (hwhole v (List.mem_cons_of_mem _ hv)).1⟩
      · rw [List.forall_mem_cons]
        exact ⟨(hwhole t List.mem_cons_self).2,
          fun v hv => (hwhole v (List.mem_cons_of_mem _ hv)).2⟩
      · rw [List.isChain_cons_cons] at hapart ⊢
        exact ⟨fun _ _ => hne, hapart.2⟩
    have hspelling := tokenize_spelling_append hreadable (List.forall_mem_nil _)
    rw [List.append_nil, Clause.spelling_eq_gap_append_text] at hspelling
    exact hspelling
  have hclause : Statement.ofClause draft.command ({ t with gap := [] } :: u :: rest) =
      .ok draft.statement :=
    Statement.ofClause_lexemes hspell hdraft
      (by rw [hlexemes, List.map_cons, List.map_cons, ht, hu, hrest])
  simp only [Statement.parse, hnormal, hcommand, hread, hclause, bind, Except.bind]
  rfl

/-- An update with keywords and marks in its strings, a number at the end of its range, and
assignments that count for nothing. -/
theorem parse_spelling_update :
    Statement.parse
        ("\tupdate ns.s SET a=') WHERE (;' ,\u3000Key = 'k',a = -9223372036854775808" ++
          "\nwHeRe\u00A0PK=', SET = ' ; \u2028").toList =
      .ok (.update
        { target := ⟨"ns", "s"⟩
          assignments := SortedMap.ofList [("a", ⟨.int Int64.minValue, "-9223372036854775808"⟩)]
          predicate := ⟨"PK", .str ", SET = "⟩ }) := by
  have hdraft : (Draft.update ⟨"ns", "s"⟩
      [("a", .str ") WHERE (;"), ("Key", .str "k"), ("a", .int Int64.minValue)]
      ⟨"PK", .str ", SET = "⟩).IsWritable := by decide +kernel
  have hspell : ∀ keyword, Text.equalIgnoringCase
      (if keyword = "UPDATE" then "update".toList
        else if keyword = "WHERE" then "wHeRe".toList else keyword.toList) keyword.toList = true := by
    intro keyword
    split
    next h => subst h; decide
    next =>
      split
      next h => subst h; decide
      next => simp [Text.equalIgnoringCase]
  have htokens : List.map Token.lexeme
      [⟨['\t'], .word "update".toList⟩, ⟨[' '], .word "ns.s".toList⟩, ⟨[' '], .word "SET".toList⟩,
        ⟨[' '], .word ['a']⟩, ⟨[], .equals⟩, ⟨[], .quoted ") WHERE (;".toList true⟩, ⟨[' '], .comma⟩,
        ⟨['\u3000'], .word "Key".toList⟩, ⟨[' '], .equals⟩, ⟨[' '], .quoted ['k'] true⟩,
        ⟨[], .comma⟩, ⟨[], .word ['a']⟩, ⟨[' '], .equals⟩,
        ⟨[' '], .word "-9223372036854775808".toList⟩, ⟨['\n'], .word "wHeRe".toList⟩,
        ⟨['\u00A0'], .word "PK".toList⟩, ⟨[], .equals⟩, ⟨[], .quoted ", SET = ".toList true⟩] =
      _ := rfl
  have hbefore : ∀ c ∈ [' '], Text.isBlank c = true := by decide
  have hafter : ∀ c ∈ [' ', '\u2028'], Text.isBlank c = true := by decide
  have hread :=
    parse_spelling hdraft hspell htokens (by decide +kernel) (by decide +kernel) hbefore hafter
  refine (congrArg Statement.parse ?_).trans (hread.trans ?_)
  · decide +kernel
  · exact congrArg Except.ok (by decide +kernel)

end RecordQuery
