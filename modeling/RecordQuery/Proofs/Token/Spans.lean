import RecordQuery.Proofs.Text.Bytes
import RecordQuery.Proofs.Token.Reading

/-!
# Where tokens stand

A token is a kind and a span of bytes of the text that it is read from.

* `Span`, `Clause.located`: the tokens of a clause in that form.
* `located_append`, `located_eq_append_iff`: runs of tokens have runs of spans.
* `Clause.IsIn`: whether tokens stand in a text from a place on.
* `exists_text_eq_spelling`: a text is its tokens with gaps of blanks.
-/

namespace RecordQuery

/-- A kind of token and the bytes at which one stands. -/
structure Span where
  kind : TokenKind
  start : Nat
  stop : Nat
deriving DecidableEq, Repr

/-- The span in a text that has a number of bytes more before it. -/
def Span.shift (bytes : Nat) (s : Span) : Span :=
  ⟨s.kind, bytes + s.start, bytes + s.stop⟩

namespace Clause

/-- The tokens of a clause as spans, if its first gap begins at `start`. -/
def located (start : Nat) (c : Clause) : List Span :=
  List.zipWith (fun t bytes => ⟨t.kind, bytes.1, bytes.2⟩) c (spans start c)

variable {c c' : Clause} {start : Nat}

@[simp] theorem located_nil (start : Nat) : located start [] = [] := rfl

@[simp] theorem located_cons (start : Nat) (t : Token) (rest : Clause) :
    located start (t :: rest) =
      ⟨t.kind, start + byteLength t.gap, start + byteLength (t.gap ++ t.chars)⟩ ::
        located (start + byteLength (t.gap ++ t.chars)) rest := by
  rw [byteLength_append, ← Nat.add_assoc]
  rfl

theorem located_append (start : Nat) (c c' : Clause) :
    located start (c ++ c') =
      located start c ++ located (start + byteLength (spelling c)) c' := by
  induction c generalizing start with
  | nil => rfl
  | cons t rest ih =>
    rw [List.cons_append, located_cons, located_cons, ih, List.cons_append, spelling_cons,
      byteLength_append (t.gap ++ t.chars), Nat.add_assoc]

@[simp] theorem length_located (start : Nat) (c : Clause) : (located start c).length = c.length := by
  induction c generalizing start with
  | nil => rfl
  | cons t rest ih => rw [located_cons, List.length_cons, List.length_cons, ih]

theorem map_shift_located (bytes start : Nat) (c : Clause) :
    (located start c).map (Span.shift bytes) = located (bytes + start) c := by
  induction c generalizing start with
  | nil => rfl
  | cons t rest ih =>
    rw [located_cons, located_cons, List.map_cons, ih]
    simp only [Span.shift, Nat.add_assoc]

theorem located_eq_append_iff {front back : List Span} :
    located start c = front ++ back ↔
      ∃ c₁ c₂, c = c₁ ++ c₂ ∧ front = located start c₁ ∧
        back = located (start + byteLength (spelling c₁)) c₂ := by
  constructor
  · intro h
    have hsplit := located_append start (c.take front.length) (c.drop front.length)
    rw [List.take_append_drop, h] at hsplit
    have hlength : front.length ≤ c.length := by
      rw [← length_located start c, h, List.length_append]
      omega
    obtain ⟨hfront, hback⟩ := List.append_inj hsplit (by simp [hlength])
    exact ⟨_, _, (List.take_append_drop ..).symm, hfront, hback⟩
  · rintro ⟨c₁, c₂, rfl, rfl, rfl⟩
    exact located_append start c₁ c₂

theorem le_start_of_mem_located {s : Span} (h : s ∈ located start c) : start ≤ s.start := by
  induction c generalizing start with
  | nil => cases h
  | cons t rest ih =>
    rw [located_cons] at h
    obtain rfl | h := List.mem_cons.1 h
    · exact Nat.le_add_right ..
    · exact Nat.le_trans (Nat.le_add_right ..) (ih h)

theorem pairwise_located (start : Nat) (c : Clause) :
    (located start c).Pairwise fun s t => s.stop ≤ t.start := by
  induction c generalizing start with
  | nil => exact .nil
  | cons t rest ih =>
    rw [located_cons]
    exact .cons (fun s hs => le_start_of_mem_located hs) (ih _)

/-! ## The text around tokens -/

/-- Whether the tokens of a clause stand in a text, its first gap beginning at `start`. -/
def IsIn (text : List Char) (start : Nat) (c : Clause) : Prop :=
  ∃ before after, text = before ++ spelling c ++ after ∧ byteLength before = start

variable {text : List Char}

theorem IsIn.of_append (h : IsIn text start (c ++ c')) :
    IsIn text start c ∧ IsIn text (start + byteLength (spelling c)) c' := by
  obtain ⟨before, after, rfl, rfl⟩ := h
  refine ⟨⟨before, spelling c' ++ after, by simp, rfl⟩, before ++ spelling c, after, by simp, ?_⟩
  exact byteLength_append before (spelling c)

theorem IsIn.sliceBytes_eq {t : Token} {rest : Clause} (h : IsIn text start (t :: rest)) :
    sliceBytes text (start + byteLength t.gap) (start + byteLength (spelling (t :: rest))) =
      .ok (Clause.text (t :: rest)) := by
  obtain ⟨before, after, rfl, rfl⟩ := h
  refine sliceBytes_eq_ok_iff.2 ⟨before ++ t.gap, after, ?_, byteLength_append before t.gap, ?_⟩
  · simp [Clause.text]
  · simp only [byteLength_append, spelling_cons, Clause.text]
    omega

theorem exists_text_eq_spelling (text : List Char) :
    ∃ tail, text = spelling (tokenize text) ++ tail ∧ (∀ c ∈ tail, Text.isBlank c = true) ∧
      ∀ t ∈ tokenize text, ∀ c ∈ t.gap, Text.isBlank c = true := by
  generalize htokens : tokenize text = tokens
  induction tokens generalizing text with
  | nil => exact ⟨text, rfl, tokenize_eq_nil_iff.1 htokens, List.forall_mem_nil _⟩
  | cons t tokens ih =>
    obtain ⟨rest, rfl, hfits, hrest⟩ := tokenize_eq_cons_iff.1 htokens
    obtain ⟨tail, rfl, htail, hgaps⟩ := ih rest hrest
    exact ⟨tail, by simp, htail, List.forall_mem_cons.2 ⟨hfits.gap, hgaps⟩⟩

theorem isIn_tokenize (text : List Char) : IsIn text 0 (tokenize text) := by
  obtain ⟨tail, htext, -⟩ := exists_text_eq_spelling text
  exact ⟨[], tail, htext, rfl⟩

end Clause

end RecordQuery
