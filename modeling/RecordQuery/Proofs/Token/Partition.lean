import RecordQuery.Proofs.Token.Spans

/-!
# Texts as tokens and gaps

What the tokens of a text are, with no mention of how it is read: spans in order that leave only
blanks out, each as long as a token of its kind can be.

* `IsDelimiter`: what words end at.
* `TokenKind.Stands`: how a token of a kind is written between two texts.
* `IsTokenization`: spans that are the tokens of a text. `IsTokenization.unique`: there is one row of
  them.
* `tokenize_partitions`: it is what is read.
-/

namespace RecordQuery

/-- A character that is part of no word: a blank, or one of the marks that are tokens or quotes. -/
def IsDelimiter (c : Char) : Prop :=
  Text.isBlank c = true ∨ c ∈ [',', '=', '(', ')', quoteMark]

/-- Whether a token of a kind is written as `text` where `before` and `after` stand around it. -/
def TokenKind.Stands (before text after : List Char) : TokenKind → Prop
  | .word =>
    text ≠ [] ∧ (∀ c ∈ text, ¬IsDelimiter c) ∧ (∀ c ∈ before.getLast?, IsDelimiter c) ∧
      ∀ c ∈ after.head?, IsDelimiter c
  | .quoted =>
    ∃ body, quoteMark ∉ body ∧
      (text = quoteMark :: body ++ [quoteMark] ∨ text = quoteMark :: body ∧ after = [])
  | .comma => text = [',']
  | .equals => text = ['=']
  | .leftParen => text = ['(']
  | .rightParen => text = [')']

/-- Whether spans are the tokens of a text. -/
structure IsTokenization (text : List Char) (tokens : List Span) : Prop where
  /-- No token begins before the one before it ends. -/
  ordered : tokens.Pairwise fun s t => s.stop ≤ t.start
  /-- Each is written as its kind demands, and takes at least a byte. -/
  stands : ∀ s ∈ tokens, s.start < s.stop ∧ ∃ before piece after,
    text = before ++ piece ++ after ∧ byteLength before = s.start ∧
      byteLength (before ++ piece) = s.stop ∧ s.kind.Stands before piece after
  /-- Only the last one can reach the end of the text. -/
  last : ∀ front s back, tokens = front ++ s :: back → s.stop = byteLength text → back = []
  /-- What is in no token is blank. -/
  covers : ∀ before c after, text = before ++ c :: after →
    (∀ s ∈ tokens, ¬(s.start ≤ byteLength before ∧ byteLength before < s.stop)) →
      Text.isBlank c = true

variable {text before piece after : List Char} {kind : TokenKind}

/-! ## Delimiters -/

theorem isWordChar_eq_false_iff {c : Char} : isWordChar c = false ↔ IsDelimiter c := by
  simp only [isWordChar, isMark, IsDelimiter, Bool.and_eq_false_iff, Bool.not_eq_false',
    Bool.or_eq_true, beq_iff_eq, List.mem_cons, List.not_mem_nil, or_false, or_assoc]

theorem isWordChar_iff {c : Char} : isWordChar c = true ↔ ¬IsDelimiter c := by
  rw [← isWordChar_eq_false_iff, Bool.not_eq_false]

/-! ## Kinds and lexemes -/

theorem Token.Fits.stands {t : Token} (h : t.Fits after)
    (hbefore : t.kind = .word → ∀ c ∈ before.getLast?, IsDelimiter c) :
    t.kind.Stands before t.chars after := by
  obtain ⟨gap, l⟩ := t
  obtain ⟨-, hproper, hends⟩ := h
  cases l with
  | word text =>
    obtain ⟨hne, hall⟩ := hproper
    exact ⟨hne, fun c hc => isWordChar_iff.1 (hall c hc), hbefore rfl,
      fun c hc => isWordChar_eq_false_iff.1 (hends c hc)⟩
  | quoted body closed =>
    refine ⟨body, hproper, ?_⟩
    cases closed with
    | true => exact .inl rfl
    | false => exact .inr ⟨by simp [Token.chars, Lexeme.chars], hends rfl⟩
  | comma | equals | leftParen | rightParen => rfl

theorem TokenKind.Stands.exists_lexeme (h : kind.Stands before piece after) :
    ∃ l : Lexeme, l.kind = kind ∧ l.chars = piece ∧ l.IsProper ∧ l.EndsBefore after := by
  cases kind with
  | word =>
    obtain ⟨hne, hall, -, hafter⟩ := h
    exact ⟨.word piece, rfl, rfl, ⟨hne, fun c hc => isWordChar_iff.2 (hall c hc)⟩,
      fun c hc => isWordChar_eq_false_iff.2 (hafter c hc)⟩
  | quoted =>
    obtain ⟨body, hbody, rfl | ⟨rfl, rfl⟩⟩ := h
    · exact ⟨.quoted body true, rfl, rfl, hbody, fun hclosed => by cases hclosed⟩
    · exact ⟨.quoted body false, rfl, by simp [Lexeme.chars], hbody, fun _ => rfl⟩
  | comma => exact ⟨.comma, rfl, h.symm, trivial, trivial⟩
  | equals => exact ⟨.equals, rfl, h.symm, trivial, trivial⟩
  | leftParen => exact ⟨.leftParen, rfl, h.symm, trivial, trivial⟩
  | rightParen => exact ⟨.rightParen, rfl, h.symm, trivial, trivial⟩

/-! ## One row of tokens -/

theorem eq_located_of_covers (before : List Char) {tokens : List Span} {rest : List Char}
    (hordered : tokens.Pairwise fun s t => s.stop ≤ t.start)
    (hstart : ∀ s ∈ tokens, byteLength before ≤ s.start)
    (hstands : ∀ s ∈ tokens, s.start < s.stop ∧ ∃ before' piece after,
      before ++ rest = before' ++ piece ++ after ∧ byteLength before' = s.start ∧
        byteLength (before' ++ piece) = s.stop ∧ s.kind.Stands before' piece after)
    (hcovers : ∀ gap c after, rest = gap ++ c :: after →
      (∀ s ∈ tokens, ¬(s.start ≤ byteLength (before ++ gap) ∧
        byteLength (before ++ gap) < s.stop)) → Text.isBlank c = true) :
    tokens = Clause.located (byteLength before) (tokenize rest) := by
  induction tokens generalizing before rest with
  | nil =>
    have hblank : ∀ c ∈ rest, Text.isBlank c = true := by
      intro c hc
      obtain ⟨gap, after, rfl⟩ := List.append_of_mem hc
      exact hcovers gap c after rfl (List.forall_mem_nil _)
    rw [tokenize_of_blank hblank]
    rfl
  | cons s tokens ih =>
    obtain ⟨hlater, hordered⟩ := List.pairwise_cons.1 hordered
    obtain ⟨hfirst, hstart⟩ := List.forall_mem_cons.1 hstart
    obtain ⟨⟨hne, before', piece, after, htext, hbefore', hstop, hs⟩, hstands⟩ :=
      List.forall_mem_cons.1 hstands
    -- what is before the first token is a gap, for all other tokens stand after it
    obtain ⟨gap, rfl, rfl⟩ : ∃ gap, before' = before ++ gap ∧ rest = gap ++ (piece ++ after) := by
      rw [List.append_assoc] at htext
      exact eq_append_of_byteLength_le htext (by omega)
    have hgap : ∀ c ∈ gap, Text.isBlank c = true := by
      intro c hc
      obtain ⟨gap, gap', rfl⟩ := List.append_of_mem hc
      have hlt : byteLength (before ++ gap) < s.start := by
        have hc := Char.utf8Size_pos c
        rw [← hbefore']
        simp only [byteLength_append, byteLength_cons]
        omega
      refine hcovers gap c (gap' ++ (piece ++ after)) (by simp) (List.forall_mem_cons.2 ⟨?_, ?_⟩)
      · omega
      · intro s' hs'
        have hle := hlater s' hs'
        omega
    obtain ⟨l, hkind, rfl, hproper, hends⟩ := hs.exists_lexeme
    have hread : tokenize (gap ++ (l.chars ++ after)) = ⟨gap, l⟩ :: tokenize after := by
      rw [← List.append_assoc]
      exact tokenize_append (t := ⟨gap, l⟩) ⟨hgap, hproper, hends⟩
    have hlength : byteLength before + byteLength (gap ++ l.chars) = s.stop := by
      rw [← hstop]
      simp only [byteLength_append, Nat.add_assoc]
    have hhead : s = ⟨l.kind, byteLength before + byteLength gap, s.stop⟩ := by
      rw [hkind, ← byteLength_append, hbefore']
    have htokens : tokens = Clause.located s.stop (tokenize after) := by
      rw [← hstop]
      refine ih _ hordered (fun s' hs' => hstop ▸ hlater s' hs')
        (fun s' hs' => by simpa only [List.append_assoc] using hstands s' hs') ?_
      intro gap' c after' hafter hout
      refine hcovers (gap ++ l.chars ++ gap') c after' (by simp [hafter])
        (List.forall_mem_cons.2 ⟨?_, ?_⟩)
      · -- the place is after the first token
        rw [← hstop]
        simp only [byteLength_append]
        omega
      · simpa only [List.append_assoc] using hout
    rw [hread, Clause.located_cons, Token.chars, hlength, ← htokens]
    exact congrArg (· :: tokens) hhead

/-- **There is one row of tokens of a text.** -/
theorem IsTokenization.unique {tokens : List Span} (h : IsTokenization text tokens) :
    tokens = Clause.located 0 (tokenize text) :=
  eq_located_of_covers [] h.ordered (fun _ _ => Nat.zero_le _) h.stands h.covers

/-! ## The tokens that are read -/

theorem exists_eq_of_tokenize_eq {front back : Clause} {t : Token}
    (h : tokenize text = front ++ t :: back) :
    ∃ after, text = Clause.spelling front ++ t.gap ++ t.chars ++ after ∧ t.Fits after ∧
      tokenize after = back := by
  obtain ⟨rest, rfl, hrest, -⟩ := tokenize_of_head?_eq h
  obtain ⟨after, rfl, hfits, hafter⟩ := tokenize_eq_cons_iff.1 hrest
  exact ⟨after, by simp, hfits, hafter⟩

theorem Token.exists_chars_eq_cons_of_word {t : Token} (h : t.lexeme.IsProper)
    (hword : t.kind = .word) : ∃ c rest, t.chars = c :: rest ∧ isWordChar c = true := by
  obtain ⟨gap, l⟩ := t
  cases l with
  | word text =>
    obtain ⟨hne, hall⟩ := h
    obtain ⟨c, rest, rfl⟩ := List.exists_cons_of_ne_nil hne
    exact ⟨c, rest, rfl, hall c List.mem_cons_self⟩
  | quoted body closed => cases hword
  | comma | equals | leftParen | rightParen => cases hword

/-- A token before a word ends in a delimiter: a word would go on, and a quoted string that is not
closed too. -/
theorem Token.Fits.isDelimiter_of_getLast? {u : Token} {first : Char} {rest : List Char}
    (h : u.Fits (first :: rest)) (hfirst : isWordChar first = true) :
    ∀ c ∈ u.chars.getLast?, IsDelimiter c := by
  obtain ⟨gap, l⟩ := u
  obtain ⟨-, -, hends⟩ := h
  intro c hc
  cases l with
  | word text => exact absurd hfirst (by simp [hends first rfl])
  | quoted body closed =>
    cases closed with
    | true =>
      have hchars : Token.chars ⟨gap, .quoted body true⟩ = (quoteMark :: body) ++ [quoteMark] := rfl
      rw [hchars, List.getLast?_concat] at hc
      obtain rfl := Option.mem_some.1 hc
      exact .inr (by simp)
    | false => exact absurd (hends rfl) (List.cons_ne_nil _ _)
  | comma | equals | leftParen | rightParen =>
    obtain rfl := Option.mem_some.1 hc
    exact .inr (by simp)

theorem isDelimiter_of_getLast? {front back : Clause} {t : Token}
    (h : tokenize text = front ++ t :: back) (hword : t.kind = .word) :
    ∀ c ∈ (Clause.spelling front ++ t.gap).getLast?, IsDelimiter c := by
  intro c hc
  obtain ⟨after, -, hfits, -⟩ := exists_eq_of_tokenize_eq h
  obtain hgap | ⟨gap, d, hgap⟩ := t.gap.eq_nil_or_concat
  · obtain rfl | ⟨front, u, rfl⟩ := front.eq_nil_or_concat
    · simp [hgap] at hc
    · rw [List.concat_eq_append, List.append_assoc] at h
      obtain ⟨next, -, hu, hnext⟩ := exists_eq_of_tokenize_eq h
      obtain ⟨after, rfl, -⟩ := tokenize_eq_cons_iff.1 hnext
      obtain ⟨first, rest, hchars, hfirst⟩ :=
        Token.exists_chars_eq_cons_of_word hfits.proper hword
      rw [hgap, List.nil_append, hchars, List.cons_append] at hu
      obtain ⟨d, chars, hu', -⟩ := Lexeme.exists_chars_eq_cons hu.proper
      apply hu.isDelimiter_of_getLast? hfirst
      simpa [hgap, Token.chars, hu', List.getLast?_append] using hc
  · have hd : d ∈ t.gap := by rw [hgap]; simp
    obtain rfl : d = c := by simpa [hgap, List.getLast?_append] using hc
    exact .inl (hfits.gap d hd)

theorem isBlank_of_forall_located {tokens : Clause} {tail : List Char}
    (hgaps : ∀ t ∈ tokens, ∀ c ∈ t.gap, Text.isBlank c = true)
    (htail : ∀ c ∈ tail, Text.isBlank c = true) {c : Char} (start : Nat)
    (htext : Clause.spelling tokens ++ tail = before ++ c :: after)
    (hout : ∀ s ∈ Clause.located start tokens,
      ¬(s.start ≤ start + byteLength before ∧ start + byteLength before < s.stop)) :
    Text.isBlank c = true := by
  induction tokens generalizing before start with
  | nil =>
    obtain rfl : tail = before ++ c :: after := htext
    exact htail c (by simp)
  | cons t tokens ih =>
    obtain ⟨hgap, hgaps⟩ := List.forall_mem_cons.1 hgaps
    rw [Clause.located_cons] at hout
    obtain ⟨hfirst, hout⟩ := List.forall_mem_cons.1 hout
    rw [Clause.spelling_cons, List.append_assoc] at htext
    by_cases hafter : byteLength (t.gap ++ t.chars) ≤ byteLength before
    · -- the place is after the token
      obtain ⟨before', rfl, hrest⟩ := eq_append_of_byteLength_le htext hafter
      refine ih hgaps (start + byteLength (t.gap ++ t.chars)) hrest fun s hs => ?_
      have hs := hout s hs
      rw [byteLength_append (t.gap ++ t.chars)] at hs
      omega
    · -- it is not in the token, so it is in the gap
      rw [List.append_assoc] at htext
      dsimp only at hfirst
      obtain ⟨gap, hgap', hrest⟩ := eq_append_of_byteLength_le htext.symm (by omega)
      obtain ⟨d, gap, rfl⟩ : ∃ d gap', gap = d :: gap' := by
        refine List.exists_cons_of_ne_nil ?_
        rintro rfl
        rw [hgap', List.append_nil] at hfirst hafter
        omega
      obtain ⟨rfl, -⟩ := List.cons.inj hrest
      exact hgap _ (by rw [hgap']; simp)

theorem exists_of_located_eq {front back : List Span} {s : Span}
    (h : Clause.located 0 (tokenize text) = front ++ s :: back) :
    ∃ before piece after, text = before ++ piece ++ after ∧ byteLength before = s.start ∧
      byteLength (before ++ piece) = s.stop ∧ piece ≠ [] ∧ s.kind.Stands before piece after ∧
      back = Clause.located s.stop (tokenize after) := by
  obtain ⟨c₁, c₂, htokens, -, hback⟩ := Clause.located_eq_append_iff.1 h
  cases c₂ with
  | nil => cases hback
  | cons t c₂ =>
    obtain ⟨after, htext, hfits, rfl⟩ := exists_eq_of_tokenize_eq htokens
    obtain ⟨c, chars, hchars, -⟩ := Lexeme.exists_chars_eq_cons hfits.proper
    have hlength : byteLength (Clause.spelling c₁ ++ t.gap ++ t.chars) =
        byteLength (Clause.spelling c₁) + byteLength (t.gap ++ t.chars) := by
      rw [List.append_assoc, byteLength_append]
    rw [Clause.located_cons, Nat.zero_add, ← byteLength_append, ← hlength] at hback
    obtain ⟨rfl, rfl⟩ := List.cons.inj hback
    have hne : t.chars ≠ [] := by rw [Token.chars, hchars]; exact List.cons_ne_nil _ _
    exact ⟨_, t.chars, after, htext, rfl, rfl, hne,
      hfits.stands (isDelimiter_of_getLast? htokens), rfl⟩

theorem isTokenization_located (text : List Char) :
    IsTokenization text (Clause.located 0 (tokenize text)) where
  ordered := Clause.pairwise_located 0 _
  stands s hs := by
    obtain ⟨front, back, hsplit⟩ := List.append_of_mem hs
    obtain ⟨before, piece, after, htext, hstart, hstop, hne, hstands, -⟩ :=
      exists_of_located_eq hsplit
    have hpiece := byteLength_pos hne
    rw [byteLength_append] at hstop
    exact ⟨by omega, before, piece, after, htext, hstart, by rw [byteLength_append, hstop], hstands⟩
  last front s back hsplit hend := by
    obtain ⟨before, piece, after, htext, -, hstop, -, -, hback⟩ := exists_of_located_eq hsplit
    have hafter : after = [] := by
      apply eq_nil_of_byteLength
      rw [htext, byteLength_append] at hend
      omega
    rw [hback, hafter, tokenize_of_blank (List.forall_mem_nil _), Clause.located_nil]
  covers before c after htext hout := by
    obtain ⟨tail, hspelling, htail, hgaps⟩ := Clause.exists_text_eq_spelling text
    rw [hspelling] at htext
    exact isBlank_of_forall_located hgaps htail 0 htext (by simpa only [Nat.zero_add] using hout)

/-- **A text is read as its only row of tokens, and nothing of it is lost.** It is the tokens with
gaps of blanks between them and around them, and no other spans stand in order, leave out only blanks
and are as long as their kinds demand. -/
theorem tokenize_partitions (text : List Char) :
    (∃ tail, text = Clause.spelling (tokenize text) ++ tail ∧
      (∀ c ∈ tail, Text.isBlank c = true) ∧
      ∀ t ∈ tokenize text, ∀ c ∈ t.gap, Text.isBlank c = true) ∧
    ∀ tokens, IsTokenization text tokens ↔ tokens = Clause.located 0 (tokenize text) := by
  refine ⟨Clause.exists_text_eq_spelling text, fun tokens => ⟨IsTokenization.unique, ?_⟩⟩
  rintro rfl
  exact isTokenization_located text

/-- Two quoted strings next to each other, the second one left open. -/
example : Clause.located 0 (tokenize "é='a''b c".toList) =
    [⟨.word, 0, 2⟩, ⟨.equals, 2, 3⟩, ⟨.quoted, 3, 6⟩, ⟨.quoted, 6, 10⟩] := by
  decide +kernel

end RecordQuery
