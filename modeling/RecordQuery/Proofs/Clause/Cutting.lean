import RecordQuery.Clause
import Mathlib.Data.List.Forall2

/-!
# Cutting clauses without parentheses

Where no parenthesis stands, a clause is cut at every keyword and at every separator.

* `keywordPositionsFrom_append`, `keywordPositionsFrom_cons`: the next keyword.
* `splitFrom_append_cons`, `splitFrom_eq_singleton`: the parts around separators.
* `group?_append`: the group around tokens without parentheses.
* `splitOn_listLexemes`: a list that is written with commas is read back as its items.
-/

namespace RecordQuery

namespace Lexeme

def IsFlat (l : Lexeme) : Prop :=
  l.kind ≠ .leftParen ∧ l.kind ≠ .rightParen

/-- Whether a lexeme is a given word up to the case of ASCII letters. -/
def isKeyword (keyword : String) : Lexeme → Bool
  | word text => Text.equalIgnoringCase text keyword.toList
  | _ => false

/-- Whether a lexeme is passed over in the search for a keyword. -/
def Passes (keyword : String) (l : Lexeme) : Prop :=
  l.IsFlat ∧ l.isKeyword keyword = false

end Lexeme

namespace Token

def IsFlat (t : Token) : Prop :=
  t.lexeme.IsFlat

theorem IsFlat.depthAfter_eq {t : Token} (h : t.IsFlat) (depth : Nat) :
    t.depthAfter depth = depth := by
  obtain ⟨hleft, hright⟩ := h
  unfold depthAfter
  split
  · contradiction
  · contradiction
  · rfl

theorem kind_of_isKeyword {t : Token} {keyword : String} (h : t.isKeyword keyword = true) :
    t.kind = .word := by
  unfold isKeyword word? at h
  unfold kind
  split at h
  next text hlexeme => rw [hlexeme]; rfl
  next => simp at h

theorem isKeyword_eq (keyword : String) (t : Token) :
    t.isKeyword keyword = t.lexeme.isKeyword keyword := by
  unfold isKeyword word? Lexeme.isKeyword
  cases t.lexeme <;> rfl

theorem isFlat_of_kind_eq_word {t : Token} (h : t.kind = .word) : t.IsFlat := by
  have hkind : t.lexeme.kind = .word := h
  unfold IsFlat Lexeme.IsFlat
  rw [hkind]
  exact ⟨by decide, by decide⟩

theorem isFlat_of_isKeyword {t : Token} {keyword : String} (h : t.isKeyword keyword = true) :
    t.IsFlat :=
  isFlat_of_kind_eq_word (kind_of_isKeyword h)

end Token

namespace Clause

variable {l rest : Clause} {t : Token}

/-! ## Keywords -/

theorem keywordPositionsFrom_append {keyword : String} (h : ∀ t ∈ l, t.lexeme.Passes keyword)
    (position depth : Nat) (rest : Clause) :
    keywordPositionsFrom keyword position depth (l ++ rest) =
      keywordPositionsFrom keyword (position + l.length) depth rest := by
  induction l generalizing position with
  | nil => rfl
  | cons t l ih =>
    obtain ⟨hflat, hother⟩ := h t List.mem_cons_self
    have hdepth := Token.IsFlat.depthAfter_eq (t := t) hflat depth
    rw [List.cons_append, keywordPositionsFrom, hdepth, t.isKeyword_eq, hother]
    simp only [Bool.false_eq_true, and_false, if_false]
    rw [ih fun u hu => h u (List.mem_cons_of_mem _ hu), List.length_cons]
    congr 1
    omega

theorem keywordPositionsFrom_eq_nil {keyword : String} (h : ∀ t ∈ l, t.lexeme.Passes keyword)
    (position depth : Nat) : keywordPositionsFrom keyword position depth l = [] := by
  have happend := keywordPositionsFrom_append h position depth []
  rwa [List.append_nil] at happend

theorem keywordPositionsFrom_cons {keyword : String} (h : t.isKeyword keyword = true)
    (position : Nat) (rest : Clause) :
    keywordPositionsFrom keyword position 0 (t :: rest) =
      position :: keywordPositionsFrom keyword (position + 1) 0 rest := by
  rw [keywordPositionsFrom, (Token.isFlat_of_isKeyword h).depthAfter_eq]
  simp [h]

theorem head?_keywordPositions {keyword : String} {front : Clause}
    (hfront : ∀ t ∈ front, t.lexeme.Passes keyword) (ht : t.isKeyword keyword = true)
    (back : Clause) : (keywordPositions (front ++ t :: back) keyword).head? = some front.length := by
  rw [keywordPositions, keywordPositionsFrom_append hfront, keywordPositionsFrom_cons ht,
    Nat.zero_add, List.head?_cons]

theorem keywordPositions_eq_singleton {keyword : String} {front back : Clause}
    (hfront : ∀ t ∈ front, t.lexeme.Passes keyword) (ht : t.isKeyword keyword = true)
    (hback : ∀ t ∈ back, t.lexeme.Passes keyword) :
    keywordPositions (front ++ t :: back) keyword = [front.length] := by
  rw [keywordPositions, keywordPositionsFrom_append hfront, keywordPositionsFrom_cons ht,
    keywordPositionsFrom_eq_nil hback, Nat.zero_add]

/-! ## Separators -/

theorem splitFrom_append_cons {kind : TokenKind} (hflat : ∀ t ∈ l, t.IsFlat)
    (hother : ∀ t ∈ l, t.kind ≠ kind) (hsep : t.kind = kind) (ht : t.IsFlat) (rest : Clause) :
    splitFrom kind 0 (l ++ t :: rest) = l :: splitFrom kind 0 rest := by
  induction l with
  | nil =>
    have hleft : t.kind ≠ .leftParen := ht.1
    have hright : t.kind ≠ .rightParen := ht.2
    have hseparator : isSeparator kind 0 t = true := by
      subst hsep
      simp [isSeparator, hleft, hright]
    rw [List.nil_append, splitFrom, if_pos hseparator]
  | cons u l ih =>
    have hu : isSeparator kind 0 u = false := by
      simp [isSeparator, hother u List.mem_cons_self]
    rw [List.cons_append, splitFrom, hu, (hflat u List.mem_cons_self).depthAfter_eq,
      ih (fun v hv => hflat v (List.mem_cons_of_mem _ hv))
        (fun v hv => hother v (List.mem_cons_of_mem _ hv))]
    rfl

theorem splitFrom_eq_singleton {kind : TokenKind} (hflat : ∀ t ∈ l, t.IsFlat)
    (hother : ∀ t ∈ l, t.kind ≠ kind) : splitFrom kind 0 l = [l] := by
  induction l with
  | nil => rfl
  | cons u l ih =>
    have hu : isSeparator kind 0 u = false := by
      simp [isSeparator, hother u List.mem_cons_self]
    rw [splitFrom, hu, (hflat u List.mem_cons_self).depthAfter_eq,
      ih (fun v hv => hflat v (List.mem_cons_of_mem _ hv))
        (fun v hv => hother v (List.mem_cons_of_mem _ hv))]
    rfl

/-! ## Groups -/

theorem untilClosed_cons_of_closes (hclose : t.kind = .rightParen) (rest : Clause) :
    untilClosed 0 (t :: rest) = some [] := by
  simp [untilClosed, hclose]

theorem untilClosed_cons {depth : Nat} (h : t.kind = .rightParen → depth ≠ 0) (rest : Clause) :
    untilClosed depth (t :: rest) = (untilClosed (t.depthAfter depth) rest).map (t :: ·) := by
  cases hkind : t.kind
  case rightParen =>
    obtain ⟨depth, rfl⟩ := Nat.exists_eq_succ_of_ne_zero (h hkind)
    simp [untilClosed, Token.depthAfter, hkind]
  all_goals simp [untilClosed, Token.depthAfter, hkind]

theorem untilClosed_append_cons (hflat : ∀ t ∈ l, t.IsFlat) (hclose : t.kind = .rightParen) :
    untilClosed 0 (l ++ t :: rest) = some l := by
  induction l with
  | nil => exact untilClosed_cons_of_closes hclose rest
  | cons u l ih =>
    have hu : u.IsFlat := hflat u List.mem_cons_self
    rw [List.cons_append, untilClosed_cons (fun hkind => absurd hkind hu.2), hu.depthAfter_eq,
      ih fun v hv => hflat v (List.mem_cons_of_mem _ hv)]
    rfl

theorem group?_append {opening closing : Token} (hopen : opening.kind = .leftParen)
    (hflat : ∀ t ∈ l, t.IsFlat) (hclose : closing.kind = .rightParen) (front rest : Clause) :
    group? (front ++ opening :: (l ++ closing :: rest)) front.length =
      some (l, front.length + l.length + 2) := by
  simp only [group?, List.drop_left, if_pos hopen]
  rw [untilClosed_append_cons hflat hclose]
  rfl

/-! ## Lists -/

end Clause

/-- What a list is written with: its items with commas between them. -/
def listLexemes {α : Type} (item : α → List Lexeme) (items : List α) : List Lexeme :=
  List.intercalate [.comma] (items.map item)

section Lists

variable {α β : Type} {item : α → List Lexeme} {items : List α}

theorem mem_listLexemes {x : Lexeme} (h : x ∈ listLexemes item items) :
    x = .comma ∨ ∃ a ∈ items, x ∈ item a := by
  induction items with
  | nil => simp [listLexemes] at h
  | cons a items ih =>
    cases items with
    | nil => exact .inr ⟨a, List.mem_cons_self, by simpa [listLexemes] using h⟩
    | cons b items =>
      rw [listLexemes, List.map_cons, List.map_cons, List.intercalate_cons_cons] at h
      rcases List.mem_append.1 h with h | h
      · rcases List.mem_append.1 h with h | h
        · exact .inr ⟨a, List.mem_cons_self, h⟩
        · exact .inl (List.mem_singleton.1 h)
      · refine (ih h).imp_right fun ⟨c, hc, hx⟩ => ⟨c, List.mem_cons_of_mem _ hc, hx⟩

theorem passes_of_mem_listLexemes {keyword : String}
    (h : ∀ a ∈ items, ∀ x ∈ item a, x.Passes keyword) :
    ∀ x ∈ listLexemes item items, x.Passes keyword := by
  intro x hx
  rcases mem_listLexemes hx with rfl | ⟨a, ha, hx⟩
  · exact ⟨⟨by decide, by decide⟩, rfl⟩
  · exact h a ha x hx

theorem isFlat_of_mem_listLexemes (h : ∀ a ∈ items, ∀ x ∈ item a, x.IsFlat) :
    ∀ x ∈ listLexemes item items, x.IsFlat := by
  intro x hx
  rcases mem_listLexemes hx with rfl | ⟨a, ha, hx⟩
  · exact ⟨by decide, by decide⟩
  · exact h a ha x hx

/-- **A list is read back as its items.** The parts between the commas are written with the lexemes
of the items. -/
theorem Clause.splitOn_listLexemes {l : Clause} (hne : items ≠ [])
    (hitem : ∀ a ∈ items, ∀ x ∈ item a, x.IsFlat ∧ x.kind ≠ .comma)
    (h : l.map Token.lexeme = listLexemes item items) :
    List.Forall₂ (fun a part => part.map Token.lexeme = item a) items
      (Clause.splitOn l .comma) := by
  induction items generalizing l with
  | nil => exact absurd rfl hne
  | cons a items ih =>
    have hpart : ∀ part : Clause, part.map Token.lexeme = item a →
        ∀ t ∈ part, t.IsFlat ∧ t.kind ≠ .comma := fun part hpart t ht =>
      hitem a List.mem_cons_self t.lexeme (hpart ▸ List.mem_map_of_mem ht)
    cases items with
    | nil =>
      have hl : l.map Token.lexeme = item a := by simpa [listLexemes] using h
      rw [Clause.splitOn, Clause.splitFrom_eq_singleton (fun t ht => (hpart l hl t ht).1)
        fun t ht => (hpart l hl t ht).2]
      exact .cons hl .nil
    | cons b items =>
      rw [listLexemes, List.map_cons, List.map_cons, List.intercalate_cons_cons,
        List.append_assoc] at h
      obtain ⟨part, others, rfl, hfirst, hothers⟩ := List.map_eq_append_iff.1 h
      obtain ⟨t, rest, rfl, ht, hrest⟩ := List.map_eq_cons_iff.1 hothers
      have hkind : t.kind = .comma := by rw [Token.kind, ht]; rfl
      have hflat : t.IsFlat := by
        unfold Token.IsFlat
        rw [ht]
        exact ⟨by decide, by decide⟩
      rw [Clause.splitOn, Clause.splitFrom_append_cons (fun t ht => (hpart part hfirst t ht).1)
        (fun t ht => (hpart part hfirst t ht).2) hkind hflat]
      exact .cons hfirst (ih (List.cons_ne_nil _ _)
        (fun c hc => hitem c (List.mem_cons_of_mem _ hc)) hrest)

theorem mapM_eq_pure_of_forall₂ {m : Type → Type} [Monad m] [LawfulMonad m] {γ : Type}
    {related : α → β → Prop} {f : β → m γ} {g : α → γ} {parts : List β}
    (h : List.Forall₂ related items parts)
    (hf : ∀ a ∈ items, ∀ part, related a part → f part = pure (g a)) :
    parts.mapM f = pure (items.map g) := by
  induction h with
  | nil => simp
  | @cons a part items parts hhead _ ih =>
    rw [List.mapM_cons, hf a List.mem_cons_self part hhead,
      ih fun b hb => hf b (List.mem_cons_of_mem _ hb)]
    simp

end Lists

end RecordQuery
