import RecordQuery.Proofs.Literal.Spelling
import RecordQuery.Statement.Grammar
import Mathlib.Data.List.Forall2

/-!
# Clauses that differ in quoted strings

Two tokens are alike if they are equal but for the content of a closed quoted string. No search and
no cut can tell alike clauses apart.

* `Clause.keywordPositions_alike`, `Clause.splitOn_alike`, `Clause.group?_alike`: positions, parts and
  groups.
* `Clause.Alike.eq_or_mem_text`: alike clauses are equal, or there is a quote in both.
-/

namespace RecordQuery

/-- A closed quoted string after a gap. -/
abbrev Token.ofQuoted (gap body : List Char) : Token :=
  ⟨gap, .quoted body true⟩

/-- Tokens that are equal but for the content of a closed quoted string. -/
inductive Token.Alike : Token → Token → Prop where
  | same (t : Token) : Token.Alike t t
  | quoted (gap body body' : List Char) :
    Token.Alike (Token.ofQuoted gap body) (Token.ofQuoted gap body')

/-- Clauses whose tokens are alike one by one. -/
abbrev Clause.Alike : Clause → Clause → Prop :=
  List.Forall₂ Token.Alike

namespace Token.Alike

variable {t t' : Token}

theorem symm (h : t.Alike t') : t'.Alike t := by
  cases h with
  | same => exact .same t
  | quoted gap body body' => exact .quoted gap body' body

theorem kind_eq (h : t.Alike t') : t.kind = t'.kind := by
  cases h <;> rfl

theorem word?_eq (h : t.Alike t') : t.word? = t'.word? := by
  cases h <;> rfl

theorem isKeyword_eq (h : t.Alike t') (keyword : String) :
    t.isKeyword keyword = t'.isKeyword keyword := by
  rw [Token.isKeyword, Token.isKeyword, h.word?_eq]

theorem depthAfter_eq (h : t.Alike t') (depth : Nat) :
    t.depthAfter depth = t'.depthAfter depth := by
  rw [Token.depthAfter, Token.depthAfter, h.kind_eq]

theorem isSeparator_eq (h : t.Alike t') (kind : TokenKind) (depth : Nat) :
    Clause.isSeparator kind depth t = Clause.isSeparator kind depth t' := by
  rw [Clause.isSeparator, Clause.isSeparator, h.kind_eq]

end Token.Alike

namespace Clause

variable {c c' : Clause}

theorem Alike.refl (c : Clause) : c.Alike c :=
  List.forall₂_same.2 fun t _ => .same t

theorem Alike.symm (h : c.Alike c') : c'.Alike c := by
  induction h with
  | nil => exact .nil
  | cons ht _ ih => exact .cons ht.symm ih

theorem Alike.isEmpty_eq (h : c.Alike c') : c.isEmpty = c'.isEmpty := by
  cases h <;> rfl

theorem Alike.map_kind_eq (h : c.Alike c') : c.map Token.kind = c'.map Token.kind := by
  induction h with
  | nil => rfl
  | cons ht _ ih => rw [List.map_cons, List.map_cons, ht.kind_eq, ih]

/-! ## Positions -/

theorem keywordPositionsFrom_alike (h : c.Alike c') (keyword : String) (position depth : Nat) :
    keywordPositionsFrom keyword position depth c =
      keywordPositionsFrom keyword position depth c' := by
  induction h generalizing position depth with
  | nil => rfl
  | cons ht _ ih =>
    rw [keywordPositionsFrom, keywordPositionsFrom, ih, ht.depthAfter_eq, ht.isKeyword_eq]

theorem keywordPositions_alike (h : c.Alike c') (keyword : String) :
    c.keywordPositions keyword = c'.keywordPositions keyword :=
  keywordPositionsFrom_alike h keyword 0 0

theorem wordAt?_alike (h : c.Alike c') (position : Nat) :
    c.wordAt? position = c'.wordAt? position := by
  induction h generalizing position with
  | nil => rfl
  | cons ht _ ih =>
    cases position with
    | zero => exact ht.word?_eq
    | succ position => exact ih position

theorem dottedWordAt?_alike (h : c.Alike c') (position : Nat) :
    c.dottedWordAt? position = c'.dottedWordAt? position := by
  rw [dottedWordAt?, dottedWordAt?, wordAt?_alike h]

theorem isKeywordAt_alike (h : c.Alike c') (position : Nat) (keyword : String) :
    c.isKeywordAt position keyword = c'.isKeywordAt position keyword := by
  have hany : ∀ clause : Clause, clause.isKeywordAt position keyword =
      (clause.wordAt? position).any fun text => Text.equalIgnoringCase text keyword.toList := by
    intro clause
    unfold isKeywordAt wordAt?
    cases clause[position]? <;> rfl
  rw [hany, hany, wordAt?_alike h]

theorem singleWord?_alike (h : c.Alike c') : c.singleWord? = c'.singleWord? := by
  cases h with
  | nil => rfl
  | cons ht hrest =>
    cases hrest with
    | nil => exact ht.word?_eq
    | cons => rfl

theorem slice_alike (h : c.Alike c') (start stop : Nat) :
    (c.slice start stop).Alike (c'.slice start stop) :=
  List.forall₂_drop start (List.forall₂_take stop h)

theorem tail_alike (h : c.Alike c') (start : Nat) : (c.tail start).Alike (c'.tail start) :=
  List.forall₂_drop start h

/-! ## Parts and groups -/

theorem splitFrom_alike (h : c.Alike c') (kind : TokenKind) (depth : Nat) :
    List.Forall₂ Alike (splitFrom kind depth c) (splitFrom kind depth c') := by
  induction h generalizing depth with
  | nil => exact .cons .nil .nil
  | @cons t t' rest rest' ht _ ih =>
    rw [splitFrom, splitFrom, ht.isSeparator_eq, ← ht.depthAfter_eq]
    split
    · exact .cons .nil (ih depth)
    · have hrest := ih (t.depthAfter depth)
      generalize splitFrom kind (t.depthAfter depth) rest = parts at hrest ⊢
      generalize splitFrom kind (t.depthAfter depth) rest' = parts' at hrest ⊢
      cases hrest with
      | nil => exact .cons (.cons ht .nil) .nil
      | cons hfirst hothers => exact .cons (.cons ht hfirst) hothers

theorem splitOn_alike (h : c.Alike c') (kind : TokenKind) :
    List.Forall₂ Alike (c.splitOn kind) (c'.splitOn kind) :=
  splitFrom_alike h kind 0

theorem untilClosed_alike (h : c.Alike c') (depth : Nat) :
    Option.Rel Alike (untilClosed depth c) (untilClosed depth c') := by
  induction h generalizing depth with
  | nil => exact .none
  | @cons t t' rest rest' ht _ ih =>
    have hmap : ∀ {group group' : Option Clause}, Option.Rel Alike group group' →
        Option.Rel Alike (group.map (t :: ·)) (group'.map (t' :: ·)) := by
      intro group group' hgroup
      cases hgroup with
      | none => exact .none
      | some hinner => exact .some (.cons ht hinner)
    unfold untilClosed
    rw [← ht.kind_eq]
    split
    · exact hmap (ih (depth + 1))
    · cases depth with
      | zero => exact .some .nil
      | succ depth => exact hmap (ih depth)
    · exact hmap (ih depth)

theorem group?_alike (h : c.Alike c') (position : Nat) :
    Option.Rel (fun g g' => g.1.Alike g'.1 ∧ g.2 = g'.2) (c.group? position)
      (c'.group? position) := by
  unfold group?
  have hdrop := List.forall₂_drop position h
  generalize c.drop position = rest at hdrop ⊢
  generalize c'.drop position = rest' at hdrop ⊢
  cases hdrop with
  | nil => exact .none
  | cons ht hrest =>
    simp only [← ht.kind_eq]
    split
    · have hclosed := untilClosed_alike hrest 0
      generalize untilClosed 0 _ = group at hclosed ⊢
      generalize untilClosed 0 _ = group' at hclosed ⊢
      cases hclosed with
      | none => exact .none
      | some hinner => exact .some ⟨hinner, congrArg (position + · + 2) hinner.length_eq⟩
    · exact .none

/-! ## Texts -/

theorem Alike.eq_or_mem_spelling (h : c.Alike c') :
    c = c' ∨ quoteMark ∈ spelling c ∧ quoteMark ∈ spelling c' := by
  induction h with
  | nil => exact .inl rfl
  | cons ht _ ih =>
    cases ht with
    | same t =>
      rcases ih with rfl | ⟨hmem, hmem'⟩
      · exact .inl rfl
      · exact .inr ⟨List.mem_append_right _ hmem, List.mem_append_right _ hmem'⟩
    | quoted gap body body' =>
      exact .inr ⟨by simp [spelling, Token.chars, Lexeme.chars],
        by simp [spelling, Token.chars, Lexeme.chars]⟩

theorem Alike.eq_or_mem_text (h : c.Alike c') :
    c = c' ∨ quoteMark ∈ c.text ∧ quoteMark ∈ c'.text := by
  cases h with
  | nil => exact .inl rfl
  | cons ht hrest =>
    cases ht with
    | same t =>
      rcases Alike.eq_or_mem_spelling hrest with rfl | ⟨hmem, hmem'⟩
      · exact .inl rfl
      · exact .inr ⟨List.mem_append_right _ hmem, List.mem_append_right _ hmem'⟩
    | quoted gap body body' =>
      exact .inr ⟨List.mem_append_left _ List.mem_cons_self,
        List.mem_append_left _ List.mem_cons_self⟩

theorem Alike.text_congr {α : Type} {f : List Char → α} {a : α} (h : c.Alike c')
    (hf : ∀ text, quoteMark ∈ text → f text = a) : f c.text = f c'.text := by
  rcases h.eq_or_mem_text with rfl | ⟨hmem, hmem'⟩
  · rfl
  · rw [hf _ hmem, hf _ hmem']

end Clause

end RecordQuery
