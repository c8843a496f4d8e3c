import RecordQuery.Proofs.Token.Reading
import RecordQuery.Statement.Grammar

/-!
# Replacing the content of a quoted string

A closed quoted string is a token whatever it contains, and what stands around it is read as before.

* `replaceToken`: a text with one token written anew.
* `Clause.Leads`: a text that is read as the same tokens whatever quoted string comes next.
* `tokenize_replaceToken`: only the replaced token changes.
* `normalizeEnd`: what is dropped at the end of a text. `normalize_append`: dropping blanks and a
  semicolon does not touch the quoted string.
-/

namespace RecordQuery

/-- A text in which the token at a position is written as another lexeme. The text is returned as it
is if it has no such token. -/
def replaceToken (text : List Char) (position : Nat) (l : Lexeme) : List Char :=
  match (tokenize text)[position]? with
  | none => text
  | some t =>
    let start := (Clause.spelling ((tokenize text).take position) ++ t.gap).length
    text.take start ++ l.chars ++ text.drop (start + t.chars.length)

/-- Whether a text is read as some tokens and a gap, whatever closed quoted string and whatever text
come after it. -/
def Clause.Leads (text : List Char) (before : List Token) (gap : List Char) : Prop :=
  ∀ body rest, quoteMark ∉ body →
    tokenize (text ++ ((Lexeme.quoted body true).chars ++ rest)) =
      before ++ ⟨gap, .quoted body true⟩ :: tokenize rest

/-! ## Around a quoted string -/

theorem fits_quoted {gap body : List Char} (hgap : ∀ c ∈ gap, Text.isBlank c = true)
    (hbody : quoteMark ∉ body) (rest : List Char) :
    Token.Fits rest ⟨gap, .quoted body true⟩ :=
  ⟨hgap, hbody, fun hclosed => by cases hclosed⟩

theorem Clause.leads_of_tokenize {text : List Char} {before after : List Token}
    {gap body : List Char} (h : tokenize text = before ++ ⟨gap, .quoted body true⟩ :: after) :
    ∃ rest, text = Clause.spelling before ++ gap ++ ((Lexeme.quoted body true).chars ++ rest) ∧
      tokenize rest = after ∧ quoteMark ∉ body ∧
      Clause.Leads (Clause.spelling before ++ gap) before gap := by
  obtain ⟨tail, rfl, htail, hsame⟩ := tokenize_of_head?_eq h
  obtain ⟨rest, rfl, hfits, hrest⟩ := tokenize_eq_cons_iff.1 htail
  refine ⟨rest, ?_, hrest, hfits.proper, fun body' rest' hbody' => ?_⟩
  · simp only [Token.chars, List.append_assoc]
  · have hhead : (gap ++ ((Lexeme.quoted body' true).chars ++ rest')).head? =
        (gap ++ (Lexeme.quoted body true).chars ++ rest).head? := by
      cases gap <;> rfl
    have hnext := tokenize_append (fits_quoted hfits.gap hbody' rest')
    rw [Token.chars, List.append_assoc] at hnext
    rw [List.append_assoc, hsame _ hhead, hnext]

theorem exists_replaceToken_eq {text : List Char} {position : Nat} {gap body : List Char}
    (h : (tokenize text)[position]? = some ⟨gap, .quoted body true⟩) :
    ∃ front before after rest, before.length = position ∧
      text = front ++ ((Lexeme.quoted body true).chars ++ rest) ∧ quoteMark ∉ body ∧
      tokenize text = before ++ ⟨gap, .quoted body true⟩ :: after ∧ tokenize rest = after ∧
      Clause.Leads front before gap ∧
      ∀ l : Lexeme, replaceToken text position l = front ++ (l.chars ++ rest) := by
  obtain ⟨hposition, hget⟩ := List.getElem?_eq_some_iff.1 h
  have hsplit : tokenize text = (tokenize text).take position ++
      ⟨gap, .quoted body true⟩ :: (tokenize text).drop (position + 1) := by
    rw [← hget, ← List.drop_eq_getElem_cons hposition, List.take_append_drop]
  obtain ⟨rest, htext, hrest, hbody, hleads⟩ := Clause.leads_of_tokenize hsplit
  generalize hfront : Clause.spelling ((tokenize text).take position) ++ gap = front
    at htext hleads
  refine ⟨front, _, _, rest, List.length_take_of_le (Nat.le_of_lt hposition), htext, hbody,
    hsplit, hrest, hleads, fun l => ?_⟩
  have htake : text.take front.length = front := by
    rw [htext]
    exact List.take_left
  have hdrop : text.drop (front.length + (Lexeme.quoted body true).chars.length) = rest := by
    rw [htext, ← List.drop_drop, List.drop_left, List.drop_left]
  unfold replaceToken
  rw [h]
  simp only [Token.chars, hfront]
  rw [htake, hdrop, List.append_assoc]

/-- **Only the replaced token changes.** -/
theorem tokenize_replaceToken {text : List Char} {position : Nat} {gap body body' : List Char}
    (h : (tokenize text)[position]? = some ⟨gap, .quoted body true⟩)
    (hbody' : quoteMark ∉ body') :
    tokenize (replaceToken text position (.quoted body' true)) =
      (tokenize text).set position ⟨gap, .quoted body' true⟩ := by
  obtain ⟨front, before, after, rest, rfl, -, -, htokens, hrest, hleads, hreplace⟩ :=
    exists_replaceToken_eq h
  rw [hreplace, hleads _ _ hbody', htokens, hrest, List.set_append_right _ _ (Nat.le_refl _),
    Nat.sub_self, List.set_cons_zero]

/-! ## Trimming -/

theorem tokenize_trimStart (text : List Char) :
    tokenize (Text.trimStart text) =
      match tokenize text with
      | [] => []
      | t :: rest => { t with gap := [] } :: rest := by
  obtain ⟨cut, htext, hcut⟩ := Text.exists_append_trimStart text
  cases hstart : Text.trimStart text with
  | nil =>
    rw [tokenize_of_trimStart_eq_nil hstart, tokenize_of_blank (List.forall_mem_nil _)]
  | cons c rest =>
    have hc := Text.isBlank_of_trimStart_eq_cons hstart
    rw [tokenize_of_trimStart_eq_cons hstart,
      tokenize_of_trimStart_eq_cons (Text.trimStart_cons hc rest), List.takeWhile_cons_of_neg]
    simp [hc]

theorem Clause.Leads.trimStart {text : List Char} {before : List Token} {gap : List Char}
    (h : Clause.Leads text before gap) :
    ∃ before' gap', before'.length = before.length ∧
      Clause.Leads (Text.trimStart text) before' gap' := by
  have htrim : ∀ body rest,
      Text.trimStart text ++ ((Lexeme.quoted body true).chars ++ rest) =
        Text.trimStart (text ++ ((Lexeme.quoted body true).chars ++ rest)) := fun body rest =>
    (Text.trimStart_append_cons (by decide) text _).symm
  cases before with
  | nil =>
    refine ⟨[], [], rfl, fun body rest hbody => ?_⟩
    rw [htrim, tokenize_trimStart, h body rest hbody]
    rfl
  | cons t before =>
    refine ⟨{ t with gap := [] } :: before, gap, rfl, fun body rest hbody => ?_⟩
    rw [htrim, tokenize_trimStart, h body rest hbody]
    rfl

/-- A text without the blanks at its end and without one semicolon there. -/
def normalizeEnd (text : List Char) : List Char :=
  let text := Text.trimEnd text
  if text.getLast? == some ';' then Text.trimEnd text.dropLast else text

theorem normalize_eq (text : List Char) : normalize text = normalizeEnd (Text.trimStart text) := rfl

theorem normalizeEnd_eq_nil {text : List Char} (h : ∀ c ∈ text, Text.isBlank c = true) :
    normalizeEnd text = [] := by
  unfold normalizeEnd
  rw [Text.trimEnd_eq_nil h]
  rfl

theorem normalizeEnd_eq {last : Char} {gap : List Char} (hlast : Text.isBlank last = false)
    (hgap : ∀ c ∈ gap, Text.isBlank c = true) (init : List Char) :
    normalizeEnd (init ++ last :: gap) =
      if last = ';' then Text.trimEnd init else init ++ [last] := by
  unfold normalizeEnd
  simp only [Text.trimEnd_append_cons_blank hlast init hgap, List.getLast?_concat,
    List.dropLast_concat, Option.some_beq_some, beq_iff_eq]

theorem normalizeEnd_append_cons {c : Char} (hblank : Text.isBlank c = false) (hc : c ≠ ';')
    (front rest : List Char) :
    normalizeEnd (front ++ c :: rest) = front ++ c :: normalizeEnd rest := by
  obtain hrest | ⟨init, last, gap, rfl, hlast, hgap⟩ := Text.forall_isBlank_or_exists rest
  · rw [normalizeEnd_eq hblank hrest, if_neg hc, normalizeEnd_eq_nil hrest]
  · rw [← List.cons_append, ← List.append_assoc, normalizeEnd_eq hlast hgap,
      normalizeEnd_eq hlast hgap]
    split
    · exact Text.trimEnd_append_cons hblank front init
    · rw [List.append_assoc, List.cons_append]

theorem exists_normalizeEnd_append (text : List Char) :
    ∃ cut, text = normalizeEnd text ++ cut := by
  obtain h | ⟨init, last, gap, rfl, hlast, hgap⟩ := Text.forall_isBlank_or_exists text
  · exact ⟨text, by rw [normalizeEnd_eq_nil h, List.nil_append]⟩
  · rw [normalizeEnd_eq hlast hgap]
    split
    · obtain ⟨cut, hinit, -⟩ := Text.exists_trimEnd_append init
      exact ⟨cut ++ last :: gap, by rw [← List.append_assoc, ← hinit]⟩
    · exact ⟨gap, by simp⟩

theorem trimStart_normalizeEnd (text : List Char) :
    Text.trimStart (normalizeEnd text) = normalize text := by
  rw [normalize_eq]
  obtain h | ⟨init, last, gap, rfl, hlast, hgap⟩ := Text.forall_isBlank_or_exists text
  · rw [normalizeEnd_eq_nil h, Text.trimStart_eq_nil h]
    rfl
  · rw [Text.trimStart_append_cons hlast, normalizeEnd_eq hlast hgap, normalizeEnd_eq hlast hgap]
    split
    · exact Text.trimStart_trimEnd init
    · exact Text.trimStart_append_cons hlast init []

/-- **Dropping blanks and a semicolon does not touch a quoted string**, and what is dropped after it
does not depend on it. -/
theorem normalize_append (rest : List Char) :
    ∃ kept, ∀ front body,
      normalize (front ++ ((Lexeme.quoted body true).chars ++ rest)) =
        Text.trimStart front ++ ((Lexeme.quoted body true).chars ++ kept) := by
  have hquote : Text.isBlank quoteMark = false := by decide
  refine ⟨normalizeEnd rest, fun front body => ?_⟩
  have hchars : ∀ tail : List Char, (Lexeme.quoted body true).chars ++ tail =
      quoteMark :: (body ++ quoteMark :: tail) := fun tail => by simp [Lexeme.chars]
  have hend := normalizeEnd_append_cons hquote (by decide)
    (Text.trimStart front ++ quoteMark :: body) rest
  rw [normalize_eq, hchars, hchars, Text.trimStart_append_cons hquote, ← List.cons_append,
    ← List.append_assoc, hend, List.append_assoc, List.cons_append]

end RecordQuery
