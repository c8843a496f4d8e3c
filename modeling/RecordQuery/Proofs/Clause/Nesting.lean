import RecordQuery.Proofs.Clause.Replacing

/-!
# Clauses by the depth of their tokens

What a clause is cut at, said by the number of parentheses that are open before each token.

* `Clause.nested`: the tokens of a clause with their depths. `Nested.isTopKeyword`, `isTopMark`: the
  keywords and marks at the top level.
* `CutOnce`: a list around the only one of its elements with a property.
* `Clause.keywordPositions_eq_singleton_iff`, `Clause.splitOnP_nested`: the position of a keyword and
  the parts between marks.
-/

namespace RecordQuery

/-! ## Cuts -/

/-- Whether two lists are what stands before and after the only element with a property. -/
def CutOnce {α : Type} (p : α → Bool) (whole left right : List α) : Prop :=
  ∃ mark, whole = left ++ mark :: right ∧ p mark = true ∧ ∀ x ∈ left ++ right, p x = false

section Cuts

variable {α : Type} {p : α → Bool} {x : α} {whole rest left right : List α}

@[simp] theorem not_cutOnce_nil : ¬CutOnce p [] left right := by
  rintro ⟨mark, h, -⟩
  simp at h

theorem cutOnce_cons_of_pos (hx : p x = true) :
    CutOnce p (x :: rest) left right ↔ left = [] ∧ right = rest ∧ ∀ y ∈ rest, p y = false := by
  constructor
  · rintro ⟨mark, h, hmark, hothers⟩
    cases left with
    | nil =>
      obtain ⟨rfl, rfl⟩ := List.cons.inj h
      exact ⟨rfl, rfl, hothers⟩
    | cons y left =>
      obtain ⟨rfl, rfl⟩ := List.cons.inj h
      exact absurd hx (by simp [hothers x (by simp)])
  · rintro ⟨rfl, rfl, hrest⟩
    exact ⟨x, rfl, hx, hrest⟩

theorem cutOnce_cons_of_neg (hx : p x = false) :
    CutOnce p (x :: rest) left right ↔ ∃ others, left = x :: others ∧ CutOnce p rest others right := by
  constructor
  · rintro ⟨mark, h, hmark, hothers⟩
    cases left with
    | nil =>
      obtain ⟨rfl, rfl⟩ := List.cons.inj h
      exact absurd hmark (by simp [hx])
    | cons y left =>
      obtain ⟨rfl, rfl⟩ := List.cons.inj h
      exact ⟨left, rfl, mark, rfl, hmark, fun z hz => hothers z (List.mem_cons_of_mem _ hz)⟩
  · rintro ⟨others, rfl, mark, rfl, hmark, hothers⟩
    exact ⟨mark, rfl, hmark, List.forall_mem_cons.2 ⟨hx, hothers⟩⟩

theorem splitOnP_eq_singleton_iff :
    whole.splitOnP p = [left] ↔ left = whole ∧ ∀ x ∈ whole, p x = false := by
  constructor
  · intro h
    have hnone : ∀ x ∈ whole, p x = false := by
      intro x hx
      by_contra hp
      -- each side of a separator has a part
      obtain ⟨before, after, rfl⟩ := List.append_of_mem hx
      rw [List.splitOnP_append_cons _ _ (Bool.of_not_eq_false hp)] at h
      have hlength := congrArg List.length h
      have hbefore := List.length_pos_of_ne_nil (List.splitOnP_ne_nil p before)
      have hafter := List.length_pos_of_ne_nil (List.splitOnP_ne_nil p after)
      rw [List.length_append, List.length_singleton] at hlength
      omega
    rw [List.splitOnP_eq_singleton hnone] at h
    exact ⟨(List.singleton_inj.1 h).symm, hnone⟩
  · rintro ⟨rfl, hnone⟩
    exact List.splitOnP_eq_singleton hnone

theorem splitOnP_eq_pair_iff : whole.splitOnP p = [left, right] ↔ CutOnce p whole left right := by
  induction whole generalizing left with
  | nil => simp
  | cons x rest ih =>
    rw [List.splitOnP_cons_eq_if_modifyHead]
    by_cases hx : p x = true
    · rw [if_pos hx, cutOnce_cons_of_pos hx, ← splitOnP_eq_singleton_iff]
      simp [eq_comm]
    · have hx := eq_false_of_ne_true hx
      rw [cutOnce_cons_of_neg hx, hx, if_neg Bool.false_ne_true]
      obtain ⟨first, others, hrest⟩ := List.exists_cons_of_ne_nil (List.splitOnP_ne_nil p rest)
      simp only [← ih, hrest, List.modifyHead_cons, List.cons.injEq]
      constructor
      · rintro ⟨rfl, rfl⟩
        exact ⟨first, rfl, rfl, rfl⟩
      · rintro ⟨others, rfl, rfl, rfl⟩
        exact ⟨rfl, rfl⟩

end Cuts

/-! ## Depths -/

/-- A token and the number of parentheses that are open before it. -/
structure Nested where
  token : Token
  depth : Nat

namespace Nested

/-- Whether a token is a keyword outside parentheses. -/
def isTopKeyword (keyword : String) (x : Nested) : Bool :=
  x.depth == 0 && x.token.isKeyword keyword

/-- Whether a token is of a kind and outside parentheses. -/
def isTopMark (kind : TokenKind) (x : Nested) : Bool :=
  x.depth == 0 && x.token.kind == kind

def text (tokens : List Nested) : List Char :=
  Clause.text (tokens.map token)

end Nested

namespace Clause

/-- The tokens of a clause with their depths, if the first one is within `depth` parentheses. -/
def nested (depth : Nat) : Clause → List Nested
  | [] => []
  | t :: rest => ⟨t, depth⟩ :: nested (t.depthAfter depth) rest

variable {c : Clause} {depth : Nat}

@[simp] theorem nested_nil : nested depth [] = [] := rfl

@[simp] theorem nested_cons (t : Token) (rest : Clause) :
    nested depth (t :: rest) = ⟨t, depth⟩ :: nested (t.depthAfter depth) rest := rfl

@[simp] theorem map_token_nested (c : Clause) : (nested depth c).map Nested.token = c := by
  induction c generalizing depth with
  | nil => rfl
  | cons t rest ih => simp [ih]

theorem nested_eq_append_cons {front back : List Nested} {x : Nested}
    (h : nested depth c = front ++ x :: back) :
    front = nested depth (front.map Nested.token) ∧
      back = nested (x.token.depthAfter x.depth) (back.map Nested.token) := by
  induction c generalizing depth front with
  | nil => simp at h
  | cons t rest ih =>
    cases front with
    | nil =>
      obtain ⟨rfl, rfl⟩ := List.cons.inj h
      simp
    | cons y front =>
      obtain ⟨rfl, hrest⟩ := List.cons.inj h
      obtain ⟨hfront, hback⟩ := ih hrest
      refine ⟨?_, hback⟩
      rw [List.map_cons, nested_cons, ← hfront]

theorem nested_cons_of_isFlat {t : Token} (ht : t.IsFlat) (rest : Clause) :
    nested depth (t :: rest) = ⟨t, depth⟩ :: nested depth rest := by
  rw [nested_cons, ht.depthAfter_eq]

/-! ## Keywords -/

theorem keywordPositionsFrom_eq_nil_iff {keyword : String} {position : Nat} :
    keywordPositionsFrom keyword position depth c = [] ↔
      ∀ x ∈ nested depth c, x.isTopKeyword keyword = false := by
  induction c generalizing position depth with
  | nil => simp [keywordPositionsFrom]
  | cons t rest ih =>
    have hrest : keywordPositionsFrom keyword (position + 1) (t.depthAfter depth) rest = [] ↔ _ := ih
    rw [keywordPositionsFrom, nested_cons, List.forall_mem_cons, ← hrest]
    by_cases ht : depth = 0 ∧ t.isKeyword keyword = true
    · simp [ht, Nested.isTopKeyword]
    · have htop : Nested.isTopKeyword keyword ⟨t, depth⟩ = false := by
        simpa [Nested.isTopKeyword] using ht
      simp [ht, htop]

theorem keywordPositionsFrom_eq_singleton_iff {keyword : String} {position found : Nat} :
    keywordPositionsFrom keyword position depth c = [found] ↔
      ∃ left right, CutOnce (Nested.isTopKeyword keyword) (nested depth c) left right ∧
        found = position + left.length := by
  induction c generalizing position depth with
  | nil => simp [keywordPositionsFrom]
  | cons t rest ih =>
    rw [keywordPositionsFrom, nested_cons]
    by_cases ht : depth = 0 ∧ t.isKeyword keyword = true
    · have htop : Nested.isTopKeyword keyword ⟨t, depth⟩ = true := by
        simpa [Nested.isTopKeyword] using ht
      simp only [if_pos ht, cutOnce_cons_of_pos htop, List.cons.injEq,
        keywordPositionsFrom_eq_nil_iff]
      constructor
      · rintro ⟨rfl, hothers⟩
        exact ⟨[], _, ⟨rfl, rfl, hothers⟩, rfl⟩
      · rintro ⟨left, right, ⟨rfl, -, hothers⟩, rfl⟩
        exact ⟨rfl, hothers⟩
    · have htop : Nested.isTopKeyword keyword ⟨t, depth⟩ = false := by
        simpa [Nested.isTopKeyword] using ht
      simp only [if_neg ht, cutOnce_cons_of_neg htop, ih]
      constructor
      · rintro ⟨left, right, hcut, rfl⟩
        exact ⟨_, right, ⟨left, rfl, hcut⟩, by simp; omega⟩
      · rintro ⟨-, right, ⟨left, rfl, hcut⟩, rfl⟩
        exact ⟨left, right, hcut, by simp; omega⟩

theorem exists_isKeyword_of_head? {tokens : Clause} {keyword : String} {position found : Nat}
    (h : (keywordPositionsFrom keyword position depth tokens).head? = some found) :
    ∃ offset t, found = position + offset ∧ tokens[offset]? = some t ∧
      t.isKeyword keyword = true := by
  induction tokens generalizing position depth with
  | nil => cases h
  | cons t rest ih =>
    rw [keywordPositionsFrom] at h
    by_cases ht : depth = 0 ∧ t.isKeyword keyword = true
    · rw [if_pos ht] at h
      obtain rfl := Option.some.inj h
      exact ⟨0, t, rfl, rfl, ht.2⟩
    · rw [if_neg ht] at h
      obtain ⟨offset, u, rfl, hu, hkeyword⟩ := ih h
      exact ⟨offset + 1, u, by omega, hu, hkeyword⟩

theorem keywordPositions_eq_singleton_iff {keyword : String} {found : Nat} :
    keywordPositions c keyword = [found] ↔
      ∃ left right, CutOnce (Nested.isTopKeyword keyword) (nested 0 c) left right ∧
        left.length = found := by
  rw [keywordPositions, keywordPositionsFrom_eq_singleton_iff]
  simp only [Nat.zero_add, eq_comm]

theorem eq_of_cutOnce_isTopKeyword {keyword : String} {left right : List Nested}
    (h : CutOnce (Nested.isTopKeyword keyword) (nested depth c) left right) :
    ∃ t, c = left.map Nested.token ++ t :: right.map Nested.token ∧ t.isKeyword keyword = true ∧
      left = nested depth (left.map Nested.token) ∧ right = nested 0 (right.map Nested.token) := by
  obtain ⟨⟨t, tDepth⟩, hwhole, hmark, -⟩ := h
  obtain ⟨rfl, ht⟩ : tDepth = 0 ∧ t.isKeyword keyword = true := by
    simpa [Nested.isTopKeyword] using hmark
  obtain ⟨hleft, hright⟩ := nested_eq_append_cons hwhole
  rw [(Token.isFlat_of_isKeyword ht).depthAfter_eq] at hright
  refine ⟨t, ?_, ht, hleft, hright⟩
  have htokens := congrArg (List.map Nested.token) hwhole
  simpa using htokens

/-! ## Parts -/

/-- **The parts of a clause are what stands between the marks outside parentheses**, each with its
depths in the clause. After a mark they are counted from zero. -/
theorem splitOnP_nested {kind : TokenKind} (hleft : kind ≠ .leftParen) (hright : kind ≠ .rightParen)
    (depth : Nat) (c : Clause) :
    ∃ first others, splitFrom kind depth c = first :: others ∧
      (nested depth c).splitOnP (Nested.isTopMark kind) =
        nested depth first :: others.map (nested 0) := by
  induction c generalizing depth with
  | nil => exact ⟨[], [], rfl, rfl⟩
  | cons t rest ih =>
    obtain ⟨first, others, hrest, hnested⟩ := ih (t.depthAfter depth)
    rw [nested_cons, List.splitOnP_cons_eq_if_modifyHead]
    have hsame : isSeparator kind depth t = Nested.isTopMark kind ⟨t, depth⟩ := by
      simp only [isSeparator, Nested.isTopMark, bne_iff_ne.2 hleft, bne_iff_ne.2 hright,
        Bool.and_true]
    cases hsep : isSeparator kind depth t with
    | true =>
      obtain ⟨rfl, hkind⟩ : depth = 0 ∧ t.kind = kind := by
        simpa [Nested.isTopMark, hsep] using hsame.symm
      have hdepth : t.depthAfter 0 = 0 := by
        unfold Token.depthAfter
        rw [hkind]
        cases kind <;> simp_all
      rw [hdepth] at hrest hnested
      refine ⟨[], first :: others, ?_, ?_⟩
      · rw [splitFrom_cons_of_isSeparator hsep, hrest]
      · simp [← hsame, hsep, hdepth, hnested]
    | false =>
      refine ⟨t :: first, others, splitFrom_cons hsep hrest, ?_⟩
      simp [← hsame, hsep, hnested]

theorem splitOnP_nested_zero {kind : TokenKind} (hleft : kind ≠ .leftParen)
    (hright : kind ≠ .rightParen) (c : Clause) :
    (nested 0 c).splitOnP (Nested.isTopMark kind) = (c.splitOn kind).map (nested 0) := by
  obtain ⟨first, others, hparts, hnested⟩ := splitOnP_nested hleft hright 0 c
  rw [splitOn, hparts, hnested, List.map_cons]

end Clause

end RecordQuery
