import RecordQuery.Clause
import RecordQuery.Proofs.Text.Trimming
import Mathlib.Data.List.Chain

/-!
# Reading tokens

`tokenize` is the inverse of writing tokens one after the other.

* `chars_readLexeme`, `readLexeme_chars`: what is read is a lexeme that is proper and ends where the
  rest begins, and every such lexeme is read.
* `tokenize_eq_cons_iff`: the first token of a text, with no mention of how it is scanned.
* `tokenize_spelling_append`: tokens that are written apart are read back.
* `tokenize_of_head?_eq`: the tokens before a place depend only on what stands before it and on the
  one character after it.
-/

namespace RecordQuery

/-! ## Marks -/

theorem isWordChar_of_isMark {c : Char} (h : isMark c = true) : isWordChar c = false := by
  simp [isWordChar, h]

theorem isWordChar_of_isBlank {c : Char} (h : Text.isBlank c = true) : isWordChar c = false := by
  simp [isWordChar, h]

theorem isBlank_of_isWordChar {c : Char} (h : isWordChar c = true) : Text.isBlank c = false := by
  simp only [isWordChar, Bool.and_eq_true, Bool.not_eq_true'] at h
  exact h.1

theorem isMark_of_isWordChar {c : Char} (h : isWordChar c = true) : isMark c = false := by
  simp only [isWordChar, Bool.and_eq_true, Bool.not_eq_true'] at h
  exact h.2

/-! ## Lexemes -/

namespace Lexeme

/-- What a lexeme may be made of: a word of one word character or more, a quoted string of anything
but quotes. -/
def IsProper : Lexeme → Prop
  | word text => text ≠ [] ∧ ∀ c ∈ text, isWordChar c = true
  | quoted body _ => quoteMark ∉ body
  | comma | equals | leftParen | rightParen => True

/-- Whether a lexeme cannot go on into the text after it. A quoted string that is not closed has no
text after it. -/
def EndsBefore (rest : List Char) : Lexeme → Prop
  | word _ => ∀ c ∈ rest.head?, isWordChar c = false
  | quoted _ closed => closed = false → rest = []
  | comma | equals | leftParen | rightParen => True

theorem endsBefore_congr {rest rest' : List Char} (h : rest.head? = rest'.head?) (l : Lexeme) :
    l.EndsBefore rest ↔ l.EndsBefore rest' := by
  cases l with
  | word text => simp only [EndsBefore, h]
  | quoted body closed =>
    have hnil : rest = [] ↔ rest' = [] := by
      rw [← List.head?_eq_none_iff, ← List.head?_eq_none_iff, h]
    simp only [EndsBefore, hnil]
  | comma | equals | leftParen | rightParen => exact Iff.rfl

theorem exists_chars_eq_cons {l : Lexeme} (h : l.IsProper) :
    ∃ c rest, l.chars = c :: rest ∧ Text.isBlank c = false ∧
      (l.kind ≠ .word → isMark c = true) := by
  cases l with
  | word text =>
    obtain ⟨hne, hall⟩ := h
    obtain ⟨c, rest, rfl⟩ := List.exists_cons_of_ne_nil hne
    exact ⟨c, rest, rfl, isBlank_of_isWordChar (hall c List.mem_cons_self),
      fun hkind => absurd rfl hkind⟩
  | quoted body closed => exact ⟨_, _, rfl, by decide, fun _ => by decide⟩
  | comma | equals | leftParen | rightParen =>
    exact ⟨_, _, rfl, by decide, fun _ => by decide⟩

end Lexeme

theorem readLexeme_quoteMark (rest : List Char) :
    readLexeme quoteMark rest =
      match Text.cutAt quoteMark rest with
      | some (body, after) => (.quoted body true, after)
      | none => (.quoted rest false, []) := rfl

theorem readLexeme_of_isWordChar {c : Char} (h : isWordChar c = true) (rest : List Char) :
    readLexeme c rest =
      (.word (c :: rest.takeWhile isWordChar), rest.dropWhile isWordChar) := by
  have hmark := isMark_of_isWordChar h
  simp only [isMark, Bool.or_eq_false_iff] at hmark
  obtain ⟨⟨⟨⟨h1, h2⟩, h3⟩, h4⟩, h5⟩ := hmark
  simp [readLexeme, h1, h2, h3, h4, h5]

theorem chars_readLexeme {c : Char} (hc : Text.isBlank c = false) {rest after : List Char}
    {l : Lexeme} (h : readLexeme c rest = (l, after)) :
    c :: rest = l.chars ++ after ∧ l.IsProper ∧ l.EndsBefore after := by
  by_cases hword : isWordChar c = true
  · rw [readLexeme_of_isWordChar hword] at h
    obtain ⟨rfl, rfl⟩ := Prod.mk.inj h
    refine ⟨?_, ⟨by simp, ?_⟩, ?_⟩
    · simp [Lexeme.chars]
    · intro d hd
      rcases List.mem_cons.1 hd with rfl | hd
      · exact hword
      · exact List.all_eq_true.1 List.all_takeWhile d hd
    · intro d hd
      have hhead := List.head?_dropWhile_not isWordChar rest
      rw [Option.mem_def.1 hd] at hhead
      simpa using hhead
  · by_cases hquote : c = quoteMark
    · subst hquote
      rw [readLexeme_quoteMark] at h
      split at h
      next body after' hcut =>
        obtain ⟨rfl, rfl⟩ := Prod.mk.inj h
        obtain ⟨rfl, hbody⟩ := Text.cutAt_eq_some_iff.1 hcut
        exact ⟨by simp [Lexeme.chars], hbody, by simp [Lexeme.EndsBefore]⟩
      next hcut =>
        obtain ⟨rfl, rfl⟩ := Prod.mk.inj h
        exact ⟨by simp [Lexeme.chars], Text.cutAt_eq_none_iff.1 hcut, fun _ => rfl⟩
    · have hmark : isMark c = true := by simpa [isWordChar, hc] using hword
      simp only [isMark, Bool.or_eq_true, beq_iff_eq, hquote, or_false] at hmark
      rcases hmark with ((rfl | rfl) | rfl) | rfl
      all_goals
        obtain ⟨rfl, rfl⟩ := Prod.mk.inj h
        exact ⟨rfl, trivial, trivial⟩

theorem readLexeme_chars {l : Lexeme} {c : Char} {cs after : List Char} (hl : l.IsProper)
    (hend : l.EndsBefore after) (hchars : l.chars = c :: cs) :
    readLexeme c (cs ++ after) = (l, after) := by
  cases l with
  | word text =>
    obtain ⟨-, hall⟩ := hl
    simp only [Lexeme.chars] at hchars
    subst hchars
    have hcs : ∀ d ∈ cs, isWordChar d = true := fun d hd => hall d (List.mem_cons_of_mem _ hd)
    rw [readLexeme_of_isWordChar (hall c List.mem_cons_self), List.takeWhile_append_of_pos hcs,
      List.dropWhile_append_of_pos hcs]
    cases after with
    | nil => simp
    | cons d after =>
      have hd : isWordChar d = false := hend d rfl
      simp [hd]
  | quoted body closed =>
    simp only [Lexeme.chars, List.cons_append, List.cons.injEq] at hchars
    obtain ⟨rfl, rfl⟩ := hchars
    rw [readLexeme_quoteMark]
    cases closed with
    | true =>
      have hcut : Text.cutAt quoteMark (body ++ [quoteMark] ++ after) = some (body, after) :=
        Text.cutAt_eq_some_iff.2 ⟨by simp, hl⟩
      rw [if_pos rfl, hcut]
    | false =>
      obtain rfl : after = [] := hend rfl
      have hcut : Text.cutAt quoteMark body = none := Text.cutAt_eq_none_iff.2 hl
      rw [if_neg Bool.false_ne_true, List.append_nil, List.append_nil, hcut]
  | comma | equals | leftParen | rightParen =>
    simp only [Lexeme.chars, List.cons.injEq] at hchars
    obtain ⟨rfl, rfl⟩ := hchars
    rfl

/-! ## Tokens -/

/-- Whether a token is one that is read where `rest` comes after it. -/
structure Token.Fits (rest : List Char) (t : Token) : Prop where
  gap : ∀ c ∈ t.gap, Text.isBlank c = true
  proper : t.lexeme.IsProper
  ends : t.lexeme.EndsBefore rest

theorem Token.fits_congr {rest rest' : List Char} (h : rest.head? = rest'.head?) (t : Token) :
    t.Fits rest ↔ t.Fits rest' :=
  ⟨fun ⟨hgap, hl, hend⟩ => ⟨hgap, hl, (Lexeme.endsBefore_congr h _).1 hend⟩,
    fun ⟨hgap, hl, hend⟩ => ⟨hgap, hl, (Lexeme.endsBefore_congr h _).2 hend⟩⟩

theorem tokenize_of_trimStart_eq_nil {text : List Char} (h : Text.trimStart text = []) :
    tokenize text = [] := by
  rw [tokenize]
  split
  next => rfl
  next c rest hstart => rw [h] at hstart; cases hstart

theorem tokenize_of_trimStart_eq_cons {text rest : List Char} {c : Char}
    (h : Text.trimStart text = c :: rest) :
    tokenize text =
      { gap := text.takeWhile Text.isBlank, lexeme := (readLexeme c rest).1 } ::
        tokenize (readLexeme c rest).2 := by
  rw [tokenize]
  split
  next hstart => rw [h] at hstart; cases hstart
  next c' rest' hstart =>
    rw [h] at hstart
    obtain ⟨rfl, rfl⟩ := List.cons.inj hstart
    rfl

theorem tokenize_of_blank {text : List Char} (h : ∀ c ∈ text, Text.isBlank c = true) :
    tokenize text = [] :=
  tokenize_of_trimStart_eq_nil (Text.trimStart_eq_nil h)

theorem tokenize_append {t : Token} {rest : List Char} (h : t.Fits rest) :
    tokenize (t.gap ++ t.chars ++ rest) = t :: tokenize rest := by
  obtain ⟨c, cs, hchars, hc, -⟩ := Lexeme.exists_chars_eq_cons h.proper
  have htext : t.gap ++ t.chars ++ rest = t.gap ++ (c :: (cs ++ rest)) := by
    rw [Token.chars, hchars, List.append_assoc, List.cons_append]
  have hstart : Text.trimStart (t.gap ++ (c :: (cs ++ rest))) = c :: (cs ++ rest) := by
    rw [Text.trimStart_append h.gap, Text.trimStart_cons hc]
  rw [htext, tokenize_of_trimStart_eq_cons hstart, Text.takeWhile_isBlank_append h.gap hc,
    readLexeme_chars h.proper h.ends hchars]

theorem tokenize_eq_cons_iff {text : List Char} {t : Token} {tokens : List Token} :
    tokenize text = t :: tokens ↔
      ∃ rest, text = t.gap ++ t.chars ++ rest ∧ t.Fits rest ∧ tokenize rest = tokens := by
  constructor
  · intro h
    cases hstart : Text.trimStart text with
    | nil => rw [tokenize_of_trimStart_eq_nil hstart] at h; cases h
    | cons c rest =>
      rw [tokenize_of_trimStart_eq_cons hstart] at h
      obtain ⟨rfl, rfl⟩ := List.cons.inj h
      have hc := Text.isBlank_of_trimStart_eq_cons hstart
      have hread : readLexeme c rest = ((readLexeme c rest).1, (readLexeme c rest).2) := rfl
      obtain ⟨hchars, hl, hend⟩ := chars_readLexeme hc hread
      refine ⟨(readLexeme c rest).2, ?_, ⟨?_, hl, hend⟩, rfl⟩
      · have hsplit : text = text.takeWhile Text.isBlank ++ Text.trimStart text :=
          List.takeWhile_append_dropWhile.symm
        rw [hstart, hchars, ← List.append_assoc] at hsplit
        exact hsplit
      · exact List.all_eq_true.1 List.all_takeWhile
  · rintro ⟨rest, rfl, hfits, rfl⟩
    exact tokenize_append hfits

theorem isProper_of_mem_tokenize {text : List Char} {t : Token} (h : t ∈ tokenize text) :
    t.lexeme.IsProper := by
  generalize htokens : tokenize text = tokens at h
  induction tokens generalizing text with
  | nil => cases h
  | cons first tokens ih =>
    obtain ⟨rest, -, hfits, hrest⟩ := tokenize_eq_cons_iff.1 htokens
    obtain rfl | h := List.mem_cons.1 h
    · exact hfits.proper
    · exact ih hrest h

theorem tokenize_eq_nil_iff {text : List Char} :
    tokenize text = [] ↔ ∀ c ∈ text, Text.isBlank c = true := by
  refine ⟨fun h => ?_, tokenize_of_blank⟩
  cases hstart : Text.trimStart text with
  | nil =>
    obtain ⟨cut, htext, hcut⟩ := Text.exists_append_trimStart text
    rw [hstart, List.append_nil] at htext
    rw [htext]
    exact hcut
  | cons c rest => rw [tokenize_of_trimStart_eq_cons hstart] at h; cases h

/-! ## Rows of tokens -/

/-- Whether two neighbours are written apart: a word does not run into a word. -/
def Token.Apart (t next : Token) : Prop :=
  t.kind = .word → next.kind = .word → next.gap ≠ []

instance (t next : Token) : Decidable (t.Apart next) :=
  inferInstanceAs (Decidable (_ → _ → _))

/-- Whether tokens are read back when they are written one after the other. -/
structure Clause.IsReadable (tokens : List Token) : Prop where
  gaps : ∀ t ∈ tokens, ∀ c ∈ t.gap, Text.isBlank c = true
  proper : ∀ t ∈ tokens, t.lexeme.IsProper
  closed : ∀ t ∈ tokens, ∀ body, t.lexeme ≠ .quoted body false
  apart : tokens.IsChain Token.Apart

@[simp] theorem Clause.spelling_nil : Clause.spelling [] = [] := rfl

@[simp] theorem Clause.spelling_cons (t : Token) (tokens : List Token) :
    Clause.spelling (t :: tokens) = t.gap ++ t.chars ++ Clause.spelling tokens := rfl

@[simp] theorem Clause.spelling_append (tokens tokens' : List Token) :
    Clause.spelling (tokens ++ tokens') = Clause.spelling tokens ++ Clause.spelling tokens' :=
  List.flatMap_append

theorem Clause.IsReadable.tail {t : Token} {tokens : List Token}
    (h : Clause.IsReadable (t :: tokens)) : Clause.IsReadable tokens where
  gaps := fun u hu => h.gaps u (List.mem_cons_of_mem _ hu)
  proper := fun u hu => h.proper u (List.mem_cons_of_mem _ hu)
  closed := fun u hu => h.closed u (List.mem_cons_of_mem _ hu)
  apart := h.apart.of_cons

theorem Lexeme.endsBefore_blank {l : Lexeme} {rest : List Char}
    (hclosed : ∀ body, l ≠ .quoted body false)
    (hrest : ∀ c ∈ rest.head?, Text.isBlank c = true) : l.EndsBefore rest := by
  cases l with
  | word text => exact fun c hc => isWordChar_of_isBlank (hrest c hc)
  | quoted body closed => rintro rfl; exact absurd rfl (hclosed body)
  | comma | equals | leftParen | rightParen => trivial

theorem Token.endsBefore_of_apart {t u : Token} {rest : List Char}
    (hclosed : ∀ body, t.lexeme ≠ .quoted body false) (hgap : ∀ c ∈ u.gap, Text.isBlank c = true)
    (hproper : u.lexeme.IsProper) (h : t.Apart u) :
    t.lexeme.EndsBefore (u.gap ++ u.chars ++ rest) := by
  cases hu : u.gap with
  | cons c gap =>
    apply Lexeme.endsBefore_blank hclosed
    rintro d ⟨rfl⟩
    exact hgap c (by rw [hu]; exact List.mem_cons_self)
  | nil =>
    obtain ⟨c, cs, hchars, -, hmark⟩ := Lexeme.exists_chars_eq_cons hproper
    cases hlexeme : t.lexeme with
    | word text =>
      have hkind : u.lexeme.kind ≠ .word := fun hword =>
        h (by rw [Token.kind, hlexeme]; rfl) hword hu
      have hc := isWordChar_of_isMark (hmark hkind)
      rw [Token.chars, hchars]
      rintro d ⟨rfl⟩
      exact hc
    | quoted body closed => rintro rfl; exact absurd hlexeme (hclosed body)
    | comma | equals | leftParen | rightParen => trivial

/-- **Tokens that are written apart are read back** before a text that begins with a blank. -/
theorem tokenize_spelling_append_of_head? {tokens : List Token} {rest : List Char}
    (h : Clause.IsReadable tokens) (hrest : ∀ c ∈ rest.head?, Text.isBlank c = true) :
    tokenize (Clause.spelling tokens ++ rest) = tokens ++ tokenize rest := by
  induction tokens with
  | nil => rfl
  | cons t tokens ih =>
    have hclosed := h.closed t List.mem_cons_self
    have hends : t.lexeme.EndsBefore (Clause.spelling tokens ++ rest) := by
      cases tokens with
      | nil => exact Lexeme.endsBefore_blank hclosed hrest
      | cons u tokens =>
        have hu := List.mem_cons_of_mem t (List.mem_cons_self (a := u) (l := tokens))
        rw [Clause.spelling_cons, List.append_assoc]
        exact Token.endsBefore_of_apart hclosed (h.gaps u hu) (h.proper u hu)
          (List.isChain_cons_cons.1 h.apart).1
    have hfits : t.Fits (Clause.spelling tokens ++ rest) :=
      ⟨h.gaps t List.mem_cons_self, h.proper t List.mem_cons_self, hends⟩
    rw [Clause.spelling_cons, List.append_assoc, tokenize_append hfits, ih h.tail, List.cons_append]

theorem tokenize_spelling_append {tokens : List Token} {tail : List Char}
    (h : Clause.IsReadable tokens) (htail : ∀ c ∈ tail, Text.isBlank c = true) :
    tokenize (Clause.spelling tokens ++ tail) = tokens := by
  rw [tokenize_spelling_append_of_head? h fun c hc => htail c (List.mem_of_mem_head? hc),
    tokenize_of_blank htail, List.append_nil]

/-- **Tokens depend only on what stands before them.** Where a token begins with the mark `c`, all
that follows it may change without a change to the tokens before it. -/
theorem tokenize_of_head?_eq {text : List Char} {before after : List Token} {t : Token}
    (h : tokenize text = before ++ t :: after) :
    ∃ rest, text = Clause.spelling before ++ rest ∧ tokenize rest = t :: after ∧
      ∀ rest', rest'.head? = rest.head? →
        tokenize (Clause.spelling before ++ rest') = before ++ tokenize rest' := by
  induction before generalizing text with
  | nil => exact ⟨text, rfl, h, fun _ _ => rfl⟩
  | cons u before ih =>
    obtain ⟨next, rfl, hfits, hnext⟩ := tokenize_eq_cons_iff.1 h
    obtain ⟨rest, rfl, hrest, hsame⟩ := ih hnext
    refine ⟨rest, ?_, hrest, fun rest' hhead => ?_⟩
    · rw [Clause.spelling_cons, List.append_assoc (u.gap ++ u.chars)]
    · have hcongr : (Clause.spelling before ++ rest).head? =
          (Clause.spelling before ++ rest').head? := by
        rw [List.head?_append, List.head?_append, hhead]
      rw [Clause.spelling_cons, List.append_assoc,
        tokenize_append ((u.fits_congr hcongr).1 hfits), hsame rest' hhead, List.cons_append]

end RecordQuery
