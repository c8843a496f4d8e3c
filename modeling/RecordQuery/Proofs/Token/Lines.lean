import RecordQuery.Proofs.Token.Replacing

/-!
# Texts in lines

A quoted string is the only token that blanks are a part of. So where every quoted string is closed
on the line where it begins, each line of a text can be read by itself.

* `lexemes`: what a text is read as, without the gaps between the tokens.
* `exists_mem_of_open`: a quoted string that is not closed goes on into the text after it.
* `lexemes_append_cons`: a text whose quoted strings are closed does not run into a blank.
* `lexemes_intercalate_trim`: lines that are trimmed and joined by spaces are read as the lines
  themselves.
-/

namespace RecordQuery

/-- What a text is read as, without the gaps between its tokens. -/
def lexemes (text : List Char) : List Lexeme :=
  (tokenize text).map Token.lexeme

namespace Lexeme

/-- Whether a lexeme is no quoted string that is left open. -/
def IsClosed : Lexeme → Prop
  | quoted _ closed => closed = true
  | _ => True

/-- Whether a lexeme is no quoted string that is left open or has a line break in it. -/
def IsInLine : Lexeme → Prop
  | quoted body closed => closed = true ∧ '\n' ∉ body
  | _ => True

instance (l : Lexeme) : Decidable l.IsClosed :=
  match l with
  | quoted _ closed => inferInstanceAs (Decidable (closed = true))
  | word _ | comma | equals | leftParen | rightParen => inferInstanceAs (Decidable True)

instance (l : Lexeme) : Decidable l.IsInLine :=
  match l with
  | quoted body closed => inferInstanceAs (Decidable (closed = true ∧ '\n' ∉ body))
  | word _ | comma | equals | leftParen | rightParen => inferInstanceAs (Decidable True)

theorem IsInLine.isClosed {l : Lexeme} (h : l.IsInLine) : l.IsClosed := by
  cases l with
  | quoted body closed => exact h.1
  | word text => trivial
  | comma | equals | leftParen | rightParen => trivial

theorem ne_quoted_of_isClosed {l : Lexeme} (h : l.IsClosed) (body : List Char) :
    l ≠ .quoted body false := by
  rintro rfl
  cases h

theorem exists_eq_of_not_isClosed {l : Lexeme} (h : ¬l.IsClosed) :
    ∃ body, l = .quoted body false := by
  cases l with
  | quoted body closed =>
    cases closed with
    | true => exact absurd rfl h
    | false => exact ⟨body, rfl⟩
  | word text => exact absurd trivial h
  | comma | equals | leftParen | rightParen => exact absurd trivial h

end Lexeme

variable {text rest : List Char}

/-! ## Open quoted strings -/

theorem tokenize_quoteMark {gap : List Char} (hgap : ∀ c ∈ gap, Text.isBlank c = true)
    (rest : List Char) :
    tokenize (gap ++ quoteMark :: rest) =
      match Text.cutAt quoteMark rest with
      | some (body, after) => ⟨gap, .quoted body true⟩ :: tokenize after
      | none => [⟨gap, .quoted rest false⟩] := by
  have hquote : Text.isBlank quoteMark = false := by decide
  have hstart : Text.trimStart (gap ++ quoteMark :: rest) = quoteMark :: rest := by
    rw [Text.trimStart_append hgap, Text.trimStart_cons hquote]
  rw [tokenize_of_trimStart_eq_cons hstart, Text.takeWhile_isBlank_append hgap hquote,
    readLexeme_quoteMark]
  cases Text.cutAt quoteMark rest with
  | some parts => rfl
  | none => simp [tokenize_of_blank]

/-- **A quoted string that is not closed goes on into the text after it.** There it stays open, or
it is closed after the text up to the first quote. -/
theorem exists_mem_of_open {t : Token} (ht : t ∈ tokenize text) (hopen : ¬t.lexeme.IsClosed)
    (rest : List Char) :
    ∃ u ∈ tokenize (text ++ rest), ¬u.lexeme.IsClosed ∨
      ∃ body more after, Text.cutAt quoteMark rest = some (more, after) ∧
        u.lexeme = .quoted (body ++ more) true := by
  generalize htokens : tokenize text = tokens at ht
  induction tokens generalizing text with
  | nil => cases ht
  | cons first tokens ih =>
    obtain ⟨next, rfl, hfits, hnext⟩ := tokenize_eq_cons_iff.1 htokens
    by_cases hfirst : first.lexeme.IsClosed
    · -- the open one is among the others, so there is text after the first token
      have hmem : t ∈ tokens := by
        obtain rfl | hmem := List.mem_cons.1 ht
        · exact absurd hfirst hopen
        · exact hmem
      obtain ⟨u, hu, hopen⟩ := ih hnext hmem
      have hne : next ≠ [] := by
        rintro rfl
        rw [tokenize_of_blank (List.forall_mem_nil _)] at hnext
        rw [← hnext] at hmem
        cases hmem
      have hfits' : first.Fits (next ++ rest) :=
        (first.fits_congr (List.head?_append_of_ne_nil _ hne).symm).1 hfits
      refine ⟨u, ?_, hopen⟩
      rw [List.append_assoc, tokenize_append hfits']
      exact List.mem_cons_of_mem _ hu
    · obtain ⟨gap, l⟩ := first
      obtain ⟨body, rfl⟩ := Lexeme.exists_eq_of_not_isClosed hfirst
      obtain rfl : next = [] := hfits.ends rfl
      have hbody : quoteMark ∉ body := hfits.proper
      have htext : gap ++ Token.chars ⟨gap, .quoted body false⟩ ++ [] ++ rest =
          gap ++ quoteMark :: (body ++ rest) := by simp [Token.chars, Lexeme.chars]
      rw [htext, tokenize_quoteMark hfits.gap]
      cases hcut : Text.cutAt quoteMark rest with
      | none =>
        have hnone : Text.cutAt quoteMark (body ++ rest) = none := by
          simp [Text.cutAt_eq_none_iff, hbody, Text.cutAt_eq_none_iff.1 hcut]
        rw [hnone]
        exact ⟨_, List.mem_cons_self, .inl (by simp [Lexeme.IsClosed])⟩
      | some parts =>
        obtain ⟨more, after⟩ := parts
        obtain ⟨rfl, hmore⟩ := Text.cutAt_eq_some_iff.1 hcut
        have hsome : Text.cutAt quoteMark (body ++ (more ++ quoteMark :: after)) =
            some (body ++ more, after) := by
          simp [Text.cutAt_eq_some_iff, hbody, hmore]
        rw [hsome]
        exact ⟨_, List.mem_cons_self, .inr ⟨body, more, after, rfl, rfl⟩⟩

theorem isClosed_of_append {gap : List Char} (hgap : ∀ c ∈ gap, Text.isBlank c = true)
    (h : ∀ l ∈ lexemes (text ++ gap), l.IsClosed) : ∀ l ∈ lexemes text, l.IsClosed := by
  intro l hl
  obtain ⟨t, ht, rfl⟩ := List.mem_map.1 hl
  by_contra hopen
  obtain ⟨u, hu, hopen' | ⟨-, more, after, hcut, -⟩⟩ := exists_mem_of_open ht hopen gap
  · exact hopen' (h _ (List.mem_map_of_mem hu))
  · have hquote : quoteMark ∈ gap := by
      rw [(Text.cutAt_eq_some_iff.1 hcut).1]
      simp
    exact absurd (hgap _ hquote) (by decide)

theorem isClosed_of_isInLine (h : ∀ l ∈ lexemes (text ++ '\n' :: rest), l.IsInLine) :
    ∀ l ∈ lexemes text, l.IsClosed := by
  intro l hl
  obtain ⟨t, ht, rfl⟩ := List.mem_map.1 hl
  by_contra hopen
  obtain ⟨u, hu, hopen' | ⟨body, more, after, hcut, hbody⟩⟩ :=
    exists_mem_of_open ht hopen ('\n' :: rest)
  · exact hopen' (h _ (List.mem_map_of_mem hu)).isClosed
  · have hline := h _ (List.mem_map_of_mem hu)
    rw [hbody] at hline
    -- what comes before the quote begins with the line break
    cases more with
    | nil =>
      obtain ⟨hchar, -⟩ := List.cons.inj (Text.cutAt_eq_some_iff.1 hcut).1
      exact absurd hchar (by decide)
    | cons c more =>
      obtain ⟨rfl, -⟩ := List.cons.inj (Text.cutAt_eq_some_iff.1 hcut).1
      exact hline.2 (by simp)

/-! ## Closed quoted strings -/

theorem lexemes_trimStart (text : List Char) : lexemes (Text.trimStart text) = lexemes text := by
  unfold lexemes
  rw [tokenize_trimStart]
  cases tokenize text <;> rfl

theorem lexemes_gap_append {gap : List Char} (hgap : ∀ c ∈ gap, Text.isBlank c = true)
    (text : List Char) : lexemes (gap ++ text) = lexemes text := by
  rw [← lexemes_trimStart, Text.trimStart_append hgap, lexemes_trimStart]

/-- **A text whose quoted strings are closed does not run into what comes after a blank.** -/
theorem lexemes_append_cons {c : Char} (hc : Text.isBlank c = true)
    (h : ∀ l ∈ lexemes text, l.IsClosed) (rest : List Char) :
    lexemes (text ++ c :: rest) = lexemes text ++ lexemes rest := by
  generalize htokens : tokenize text = tokens
  induction tokens generalizing text with
  | nil =>
    have hgap : ∀ d ∈ text ++ [c], Text.isBlank d = true := by
      have htext := tokenize_eq_nil_iff.1 htokens
      intro d hd
      obtain hd | hd := List.mem_append.1 hd
      · exact htext d hd
      · rwa [List.mem_singleton.1 hd]
    have hnil : lexemes text = [] := by rw [lexemes, htokens]; rfl
    rw [hnil, List.append_cons]
    exact lexemes_gap_append hgap rest
  | cons t tokens ih =>
    obtain ⟨next, rfl, hfits, hnext⟩ := tokenize_eq_cons_iff.1 htokens
    have hlexemes : lexemes (t.gap ++ t.chars ++ next) = t.lexeme :: lexemes next := by
      rw [lexemes, tokenize_append hfits]
      rfl
    rw [hlexemes] at h ⊢
    obtain ⟨hclosed, hrest⟩ := List.forall_mem_cons.1 h
    have hfits' : t.Fits (next ++ c :: rest) := by
      cases next with
      | nil =>
        refine ⟨hfits.gap, hfits.proper, ?_⟩
        apply Lexeme.endsBefore_blank (Lexeme.ne_quoted_of_isClosed hclosed)
        simpa using hc
      | cons d next =>
        have hhead : (d :: next).head? = (d :: next ++ c :: rest).head? := rfl
        exact (t.fits_congr hhead).1 hfits
    rw [List.append_assoc, lexemes, tokenize_append hfits', List.map_cons, ← lexemes,
      ih hrest hnext, List.cons_append]

theorem lexemes_trim (h : ∀ l ∈ lexemes text, l.IsClosed) :
    lexemes (Text.trim text) = lexemes text := by
  rw [← lexemes_trimStart text] at h ⊢
  obtain ⟨cut, hcut, hblank⟩ := Text.exists_trimEnd_append (Text.trimStart text)
  unfold Text.trim
  cases cut with
  | nil => rw [List.append_nil] at hcut; rw [← hcut]
  | cons c cut =>
    obtain ⟨hc, hgap⟩ := List.forall_mem_cons.1 hblank
    have hclosed := h
    rw [hcut] at hclosed
    have hjoin := lexemes_append_cons hc (isClosed_of_append hblank hclosed) cut
    have hnil : lexemes cut = [] := by rw [lexemes, tokenize_of_blank hgap]; rfl
    rw [← hcut, hnil, List.append_nil] at hjoin
    exact hjoin.symm

/-! ## Lines -/

/-- **Lines that are trimmed and joined by spaces are read as the lines themselves**, if no quoted
string goes on from one line to the next. -/
theorem lexemes_intercalate_trim {lines : List (List Char)}
    (h : ∀ l ∈ lexemes (List.intercalate ['\n'] lines), l.IsInLine) :
    lexemes (List.intercalate [' '] (lines.map Text.trim)) =
      lexemes (List.intercalate ['\n'] lines) := by
  induction lines with
  | nil => rfl
  | cons line lines ih =>
    cases lines with
    | nil =>
      simp only [List.map_cons, List.map_nil, List.intercalate_singleton] at h ⊢
      exact lexemes_trim fun l hl => (h l hl).isClosed
    | cons next lines =>
      simp only [List.map_cons, List.intercalate_cons_cons, List.append_assoc, List.cons_append,
        List.nil_append] at h ih ⊢
      have hclosed := isClosed_of_isInLine h
      have htrim := lexemes_trim hclosed
      rw [lexemes_append_cons (by decide) hclosed] at h ⊢
      rw [lexemes_append_cons (by decide) (by rwa [htrim]), htrim,
        ih fun l hl => h l (List.mem_append_right _ hl)]

end RecordQuery
