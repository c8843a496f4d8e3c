import RecordQuery.Proofs.Token.Lines
import RecordQuery.Proofs.Token.Partition

/-!
# Texts with blanks between them

Outside quoted strings blanks only keep words apart. So two texts with blanks between them are read
each by itself, and how a text is laid out does not matter.

* `Clause.IsSpaced`: tokens with gaps that keep them apart.
* `tokenize_of_isSpaced`: they are read back.
* `IsLayout`: a text that is written with given lexemes. `isLayout_iff`: it is read as those.
* `located_tokenize_append`: the tokens of two texts with blanks between them, with their bytes.
* `tokenize_composes`: both.
-/

namespace RecordQuery

/-- Whether the gaps of tokens and the text after them are blank and keep them apart: words do not run
into words, and nothing stands after a quoted string that is left open. -/
structure Clause.IsSpaced (tokens : Clause) (tail : List Char) : Prop where
  gaps : ∀ t ∈ tokens, ∀ c ∈ t.gap, Text.isBlank c = true
  apart : tokens.IsChain Token.Apart
  rest : ∀ c ∈ tail, Text.isBlank c = true
  ends : tail = [] ∨ ∀ t ∈ tokens, t.lexeme.IsClosed

/-- Whether a text is written with some lexemes and with blanks between and around them. -/
def IsLayout (written : List Lexeme) (text : List Char) : Prop :=
  ∃ tokens tail, text = Clause.spelling tokens ++ tail ∧ tokens.map Token.lexeme = written ∧
    Clause.IsSpaced tokens tail

variable {text a b w : List Char}

/-! ## Layouts -/

theorem eq_nil_of_tokenize_eq {front back : Clause} {t : Token}
    (h : tokenize text = front ++ t :: back) (hopen : ¬t.lexeme.IsClosed) :
    back = [] ∧ text = Clause.spelling (front ++ [t]) := by
  obtain ⟨after, rfl, hfits, rfl⟩ := exists_eq_of_tokenize_eq h
  obtain ⟨body, hbody⟩ := Lexeme.exists_eq_of_not_isClosed hopen
  have hends := hfits.ends
  rw [hbody] at hends
  obtain rfl : after = [] := hends rfl
  exact ⟨tokenize_of_blank (List.forall_mem_nil _), by simp⟩

theorem eq_nil_of_lexemes_eq {front back : List Lexeme} {l : Lexeme}
    (h : lexemes text = front ++ l :: back) (hopen : ¬l.IsClosed) : back = [] := by
  obtain ⟨before, others, hsplit, -, hothers⟩ := List.map_eq_append_iff.1 h
  obtain ⟨t, after, rfl, rfl, rfl⟩ := List.map_eq_cons_iff.1 hothers
  rw [(eq_nil_of_tokenize_eq hsplit hopen).1, List.map_nil]

theorem isChain_apart_tokenize (text : List Char) : (tokenize text).IsChain Token.Apart := by
  generalize htokens : tokenize text = tokens
  induction tokens generalizing text with
  | nil => exact .nil
  | cons t tokens ih =>
    obtain ⟨rest, rfl, hfits, hrest⟩ := tokenize_eq_cons_iff.1 htokens
    cases tokens with
    | nil => exact List.isChain_singleton t
    | cons u tokens =>
      refine List.isChain_cons_cons.2 ⟨fun ht hu hgap => ?_, ih rest hrest⟩
      obtain ⟨after, rfl, hufits, -⟩ := tokenize_eq_cons_iff.1 hrest
      obtain ⟨c, chars, hchars, hc⟩ := Token.exists_chars_eq_cons_of_word hufits.proper hu
      have hends := hfits.ends
      rw [hgap, List.nil_append, hchars] at hends
      cases hl : t.lexeme with
      | word text =>
        rw [hl] at hends
        exact absurd hc (by simp [hends c rfl])
      | quoted body closed => rw [Token.kind, hl] at ht; cases ht
      | comma | equals | leftParen | rightParen => rw [Token.kind, hl] at ht; cases ht

/-- **Tokens that are kept apart are read back**, the last one also if it is left open. -/
theorem tokenize_of_isSpaced {tokens : Clause} {tail : List Char}
    (h : Clause.IsSpaced tokens tail) (hproper : ∀ t ∈ tokens, t.lexeme.IsProper)
    (hlast : ∀ front t back, tokens = front ++ t :: back → ¬t.lexeme.IsClosed → back = []) :
    tokenize (Clause.spelling tokens ++ tail) = tokens := by
  obtain ⟨hgaps, hapart, htail, hends⟩ := h
  induction tokens with
  | nil => exact tokenize_of_blank htail
  | cons t tokens ih =>
    obtain ⟨hgap, hgaps⟩ := List.forall_mem_cons.1 hgaps
    have ht : t.lexeme.EndsBefore (Clause.spelling tokens ++ tail) := by
      by_cases hclosed : t.lexeme.IsClosed
      · have hne := Lexeme.ne_quoted_of_isClosed hclosed
        cases tokens with
        | nil => exact Lexeme.endsBefore_blank hne fun c hc => htail c (List.mem_of_mem_head? hc)
        | cons u tokens =>
          have hu := List.mem_cons_of_mem t (List.mem_cons_self (a := u) (l := tokens))
          rw [Clause.spelling_cons, List.append_assoc]
          exact Token.endsBefore_of_apart hne (hgaps u List.mem_cons_self) (hproper u hu)
            (List.isChain_cons_cons.1 hapart).1
      · obtain ⟨body, hbody⟩ := Lexeme.exists_eq_of_not_isClosed hclosed
        obtain rfl := hlast [] t tokens rfl hclosed
        obtain rfl | hall := hends
        · rw [hbody]
          exact fun _ => rfl
        · exact absurd (hall t List.mem_cons_self) hclosed
    rw [Clause.spelling_cons, List.append_assoc,
      tokenize_append ⟨hgap, hproper t List.mem_cons_self, ht⟩,
      ih (fun u hu => hproper u (List.mem_cons_of_mem _ hu))
        (fun front u back hsplit => hlast (t :: front) u back (by rw [hsplit, List.cons_append]))
        hgaps hapart.of_cons (hends.imp_right fun hall u hu => hall u (List.mem_cons_of_mem _ hu))]

/-- **A text is read as some lexemes exactly if it is a layout of them**, where these are the lexemes
of a text. -/
theorem isLayout_iff {text' : List Char} :
    IsLayout (lexemes text) text' ↔ lexemes text' = lexemes text := by
  constructor
  · rintro ⟨tokens, tail, rfl, hwritten, hspaced⟩
    have hproper : ∀ t ∈ tokens, t.lexeme.IsProper := by
      intro t ht
      have hmem : t.lexeme ∈ lexemes text := hwritten ▸ List.mem_map_of_mem ht
      obtain ⟨u, hu, hlexeme⟩ := List.mem_map.1 hmem
      exact hlexeme ▸ isProper_of_mem_tokenize hu
    have hlast : ∀ front t back, tokens = front ++ t :: back → ¬t.lexeme.IsClosed → back = [] := by
      rintro front t back rfl hopen
      rw [List.map_append, List.map_cons] at hwritten
      exact List.map_eq_nil_iff.1 (eq_nil_of_lexemes_eq hwritten.symm hopen)
    rw [lexemes, tokenize_of_isSpaced hspaced hproper hlast, hwritten]
  · intro h
    obtain ⟨tail, htext, htail, hgaps⟩ := Clause.exists_text_eq_spelling text'
    refine ⟨tokenize text', tail, htext, h, hgaps, isChain_apart_tokenize text', htail, ?_⟩
    by_cases hclosed : ∀ t ∈ tokenize text', t.lexeme.IsClosed
    · exact .inr hclosed
    · -- the open one is the last one and takes all that is left
      simp only [not_forall] at hclosed
      obtain ⟨t, ht, hopen⟩ := hclosed
      obtain ⟨front, back, hsplit⟩ := List.append_of_mem ht
      obtain ⟨rfl, hend⟩ := eq_nil_of_tokenize_eq hsplit hopen
      rw [hsplit] at htext
      exact .inl (List.append_right_eq_self.1 (htext.symm.trans hend))

/-! ## Two texts -/

theorem located_tokenize_gap_append {gap : List Char} (hgap : ∀ c ∈ gap, Text.isBlank c = true)
    (start : Nat) (text : List Char) :
    Clause.located start (tokenize (gap ++ text)) =
      Clause.located (start + byteLength gap) (tokenize text) := by
  cases htokens : tokenize text with
  | nil =>
    have htext := tokenize_eq_nil_iff.1 htokens
    rw [tokenize_of_blank (List.forall_mem_append.2 ⟨hgap, htext⟩)]
    rfl
  | cons t tokens =>
    obtain ⟨rest, rfl, hfits, rfl⟩ := tokenize_eq_cons_iff.1 htokens
    have hread : tokenize (gap ++ (t.gap ++ t.chars ++ rest)) =
        ⟨gap ++ t.gap, t.lexeme⟩ :: tokenize rest := by
      rw [← List.append_assoc, ← List.append_assoc]
      exact tokenize_append (t := ⟨gap ++ t.gap, t.lexeme⟩)
        ⟨List.forall_mem_append.2 ⟨hgap, hfits.gap⟩, hfits.proper, hfits.ends⟩
    rw [hread, Clause.located_cons, Clause.located_cons]
    simp only [byteLength_append, Nat.add_assoc]
    rfl

theorem isReadable_tokenize (h : ∀ l ∈ lexemes text, l.IsClosed) :
    Clause.IsReadable (tokenize text) where
  gaps := by
    obtain ⟨-, -, -, hgaps⟩ := Clause.exists_text_eq_spelling text
    exact hgaps
  proper _ ht := isProper_of_mem_tokenize ht
  closed _ ht := Lexeme.ne_quoted_of_isClosed (h _ (List.mem_map_of_mem ht))
  apart := isChain_apart_tokenize text

/-- **The tokens of two texts with blanks between them** are those of the first one, and those of the
second one moved by the bytes before it. -/
theorem located_tokenize_append (hw : w ≠ []) (hblank : ∀ c ∈ w, Text.isBlank c = true)
    (hclosed : ∀ l ∈ lexemes a, l.IsClosed) (b : List Char) :
    Clause.located 0 (tokenize (a ++ w ++ b)) =
      Clause.located 0 (tokenize a) ++
        (Clause.located 0 (tokenize b)).map (Span.shift (byteLength (a ++ w))) := by
  obtain ⟨tail, ha, htail, -⟩ := Clause.exists_text_eq_spelling a
  have hgap : ∀ c ∈ tail ++ w, Text.isBlank c = true := List.forall_mem_append.2 ⟨htail, hblank⟩
  have hhead : ∀ c ∈ (tail ++ w ++ b).head?, Text.isBlank c = true := by
    intro c hc
    rw [List.head?_append_of_ne_nil _ (List.append_ne_nil_of_right_ne_nil _ hw)] at hc
    exact hgap c (List.mem_of_mem_head? hc)
  have htext : a ++ w ++ b = Clause.spelling (tokenize a) ++ (tail ++ w ++ b) := by
    simpa only [List.append_assoc] using congrArg (· ++ (w ++ b)) ha
  have hlength : byteLength (a ++ w) =
      byteLength (Clause.spelling (tokenize a)) + byteLength (tail ++ w) := by
    rw [← byteLength_append, ← List.append_assoc, ← ha]
  rw [htext, tokenize_spelling_append_of_head? (isReadable_tokenize hclosed) hhead,
    Clause.located_append, Nat.zero_add, located_tokenize_gap_append hgap, Clause.map_shift_located,
    Nat.add_zero, hlength]

theorem lexemes_append (hw : w ≠ []) (hblank : ∀ c ∈ w, Text.isBlank c = true)
    (hclosed : ∀ l ∈ lexemes a, l.IsClosed) (b : List Char) :
    lexemes (a ++ w ++ b) = lexemes a ++ lexemes b := by
  obtain ⟨c, gap, rfl⟩ := List.exists_cons_of_ne_nil hw
  obtain ⟨hc, hgap⟩ := List.forall_mem_cons.1 hblank
  rw [List.append_assoc, List.cons_append, lexemes_append_cons hc hclosed, lexemes_gap_append hgap]

/-- **Reading composes.** A text whose quoted strings are closed and a text after some blanks are read
each by itself, the second one with its bytes moved. And every layout of the lexemes of a text, and no
other text, is read as those lexemes. -/
theorem tokenize_composes :
    (∀ a w b : List Char, w ≠ [] → (∀ c ∈ w, Text.isBlank c = true) →
      (∀ l ∈ lexemes a, l.IsClosed) →
        Clause.located 0 (tokenize (a ++ w ++ b)) =
          Clause.located 0 (tokenize a) ++
            (Clause.located 0 (tokenize b)).map (Span.shift (byteLength (a ++ w))) ∧
        lexemes (a ++ w ++ b) = lexemes a ++ lexemes b) ∧
    ∀ text text' : List Char, IsLayout (lexemes text) text' ↔ lexemes text' = lexemes text :=
  ⟨fun _ _ b hw hblank hclosed =>
    ⟨located_tokenize_append hw hblank hclosed b, lexemes_append hw hblank hclosed b⟩,
    fun _ _ => isLayout_iff⟩

/-- A tab and an ideographic space between two texts, the second of which leaves a quoted string
open. -/
theorem tokenize_composes_wide_space :
    (∀ c ∈ ['\t', '\u3000'], Text.isBlank c = true) ∧
    (∀ l ∈ lexemes "n='é'".toList, l.IsClosed) ∧
    Clause.located 0 (tokenize ("n='é'".toList ++ ['\t', '\u3000'] ++ "x 'y".toList)) =
      [⟨.word, 0, 1⟩, ⟨.equals, 1, 2⟩, ⟨.quoted, 2, 6⟩, ⟨.word, 10, 11⟩, ⟨.quoted, 12, 14⟩] := by
  have hblank : ∀ c ∈ ['\t', '\u3000'], Text.isBlank c = true := by decide
  have hclosed : ∀ l ∈ lexemes "n='é'".toList, l.IsClosed := by decide +kernel
  refine ⟨hblank, hclosed, ?_⟩
  rw [(tokenize_composes.1 "n='é'".toList ['\t', '\u3000'] "x 'y".toList
    (List.cons_ne_nil _ _) hblank hclosed).1]
  decide +kernel

end RecordQuery
