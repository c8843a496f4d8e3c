import RecordQuery.Proofs.Clause.Alike
import RecordQuery.Proofs.Clause.Matching

/-!
# Replacing one token of a clause

A token that is no parenthesis and no separator can be replaced by another one: it stays at its place
in its part, and all other parts and groups stay as they are.

* `Clause.splitFrom_replace`: the part in which a token stands.
* `Clause.group?_replace`: the group in which it stands, and the groups before it.
* `Clause.slice_replace`, `Clause.tail_replace`: runs of tokens.
-/

namespace RecordQuery.Clause

variable {c front back : Clause} {t t' u : Token}

/-! ## Parts -/

/-- The number of tokens up to the end of some parts, with a separator after each. -/
def extent : List Clause → Nat
  | [] => 0
  | part :: parts => part.length + 1 + extent parts

@[simp] theorem extent_nil : extent [] = 0 := rfl

@[simp] theorem extent_cons (part : Clause) (parts : List Clause) :
    extent (part :: parts) = part.length + 1 + extent parts := rfl

theorem splitFrom_cons_of_isSeparator {kind : TokenKind} {depth : Nat}
    (h : isSeparator kind depth t = true) (rest : Clause) :
    splitFrom kind depth (t :: rest) = [] :: splitFrom kind depth rest := by
  rw [splitFrom, if_pos h]

theorem splitFrom_cons {kind : TokenKind} {depth : Nat} (h : isSeparator kind depth t = false)
    {rest first : Clause} {others : List Clause}
    (hrest : splitFrom kind (t.depthAfter depth) rest = first :: others) :
    splitFrom kind depth (t :: rest) = (t :: first) :: others := by
  rw [splitFrom, h, hrest]
  rfl

theorem splitFrom_ne_nil (kind : TokenKind) (depth : Nat) (c : Clause) :
    splitFrom kind depth c ≠ [] := by
  cases c with
  | nil => exact List.cons_ne_nil _ _
  | cons t rest =>
    rw [splitFrom]
    split
    · exact List.cons_ne_nil _ _
    · split <;> exact List.cons_ne_nil _ _

/-- **A token stands at its place in its part**, and there another token can stand. -/
theorem splitFrom_replace {kind : TokenKind} {depth : Nat} {earlier later : List Clause}
    (h : splitFrom kind depth c = earlier ++ (front ++ u :: back) :: later) :
    ∃ before after, c = before ++ u :: after ∧
      before.length = extent earlier + front.length ∧
      (u.IsFlat → ∀ u' : Token, u'.IsFlat → u'.kind ≠ kind →
        splitFrom kind depth (before ++ u' :: after) =
          earlier ++ (front ++ u' :: back) :: later) := by
  induction c generalizing depth earlier front with
  | nil =>
    exfalso
    cases earlier with
    | nil => cases front <;> simp [splitFrom] at h
    | cons => simp [splitFrom] at h
  | cons w rest ih =>
    by_cases hsep : isSeparator kind depth w = true
    · rw [splitFrom_cons_of_isSeparator hsep] at h
      cases earlier with
      | nil =>
        exfalso
        cases front <;> simp at h
      | cons part earlier =>
        obtain ⟨rfl, hrest⟩ := List.cons.inj h
        obtain ⟨before, after, rfl, hlength, hreplace⟩ := ih hrest
        refine ⟨w :: before, after, rfl, ?_, fun hu u' hu' hkind => ?_⟩
        · simp only [List.length_cons, extent_cons, List.length_nil, hlength]
          omega
        · rw [List.cons_append, splitFrom_cons_of_isSeparator hsep, hreplace hu u' hu' hkind]
          rfl
    · have hsep := Bool.of_not_eq_true hsep
      obtain ⟨first, others, hrest⟩ :=
        List.exists_cons_of_ne_nil (splitFrom_ne_nil kind (w.depthAfter depth) rest)
      rw [splitFrom_cons hsep hrest] at h
      cases earlier with
      | nil =>
        obtain ⟨hpart, rfl⟩ := List.cons.inj h
        cases front with
        | nil =>
          -- the token is the first one of the clause
          obtain ⟨rfl, rfl⟩ := List.cons.inj hpart
          refine ⟨[], rest, rfl, rfl, fun hu u' hu' hkind => ?_⟩
          have hnext : isSeparator kind depth u' = false := by
            unfold isSeparator
            rw [beq_eq_false_iff_ne.2 hkind]
            simp
          rw [hu.depthAfter_eq] at hrest
          exact splitFrom_cons hnext (by rw [hu'.depthAfter_eq, hrest])
        | cons v front =>
          obtain ⟨rfl, rfl⟩ := List.cons.inj hpart
          have hinner : splitFrom kind (w.depthAfter depth) rest =
              [] ++ (front ++ u :: back) :: others := hrest
          obtain ⟨before, after, rfl, hlength, hreplace⟩ := ih hinner
          refine ⟨w :: before, after, rfl, ?_, fun hu u' hu' hkind => ?_⟩
          · simp only [List.length_cons, extent_nil] at hlength ⊢
            omega
          · exact splitFrom_cons hsep (hreplace hu u' hu' hkind)
      | cons part earlier =>
        obtain ⟨rfl, rfl⟩ := List.cons.inj h
        have hinner : splitFrom kind (w.depthAfter depth) rest =
            (first :: earlier) ++ (front ++ u :: back) :: later := hrest
        obtain ⟨before, after, rfl, hlength, hreplace⟩ := ih hinner
        refine ⟨w :: before, after, rfl, ?_, fun hu u' hu' hkind => ?_⟩
        · simp only [List.length_cons, extent_cons] at hlength ⊢
          omega
        · exact splitFrom_cons hsep (hreplace hu u' hu' hkind)

/-! ## Groups -/

theorem Alike.lefts_eq {c' : Clause} (h : c.Alike c') : lefts c = lefts c' := by
  have hcount := congrArg (List.countP (· == TokenKind.leftParen)) h.map_kind_eq
  rwa [List.countP_map, List.countP_map] at hcount

theorem Alike.rights_eq {c' : Clause} (h : c.Alike c') : rights c = rights c' := by
  have hcount := congrArg (List.countP (· == TokenKind.rightParen)) h.map_kind_eq
  rwa [List.countP_map, List.countP_map] at hcount

theorem IsBalanced.of_alike {c' : Clause} (h : c.IsBalanced) (halike : c.Alike c') :
    c'.IsBalanced where
  front front hfront := by
    rw [List.prefix_iff_eq_take.1 hfront]
    have htake : Alike (c.take front.length) (c'.take front.length) :=
      List.forall₂_take front.length halike
    rw [← htake.lefts_eq, ← htake.rights_eq]
    exact h.front _ (List.take_prefix _ _)
  whole := by rw [← halike.lefts_eq, ← halike.rights_eq, h.whole]

/-- **A group keeps its place** when its tokens are replaced by alike ones, and the text before and
after it by any other. -/
theorem group?_replace {position stop : Nat} {inner : Clause}
    (h : c.group? position = some (inner, stop)) :
    ∃ front opening closing back, c = front ++ opening :: (inner ++ closing :: back) ∧
      front.length = position ∧ stop = position + inner.length + 2 ∧
      ∀ front' inner' back', front'.length = position → inner.Alike inner' →
        group? (front' ++ opening :: (inner' ++ closing :: back')) position =
          some (inner', stop) := by
  obtain ⟨opening, closing, back, hdrop, hopening, hclosing, hbalanced, rfl⟩ :=
    group?_eq_some_iff.1 h
  refine ⟨c.take position, opening, closing, back, ?_, ?_, rfl, ?_⟩
  · rw [← hdrop, List.take_append_drop]
  · refine List.length_take_of_le ?_
    by_contra hlt
    rw [List.drop_of_length_le (by omega)] at hdrop
    cases hdrop
  · intro front' inner' back' hfront' halike
    refine group?_eq_some_iff.2 ⟨opening, closing, back', List.drop_left' hfront', hopening,
      hclosing, hbalanced.of_alike halike, ?_⟩
    rw [halike.length_eq]

theorem exists_eq_append_of_length_le {before rest : Clause}
    (h : front ++ t :: back = before ++ rest) (hlength : before.length ≤ front.length)
    (t' : Token) : ∃ rest', front ++ t' :: back = before ++ rest' := by
  have hbefore : before <+: front ++ t :: back := h ▸ List.prefix_append before rest
  obtain ⟨middle, rfl⟩ := List.prefix_of_prefix_length_le hbefore (List.prefix_append _ _) hlength
  exact ⟨middle ++ t' :: back, List.append_assoc ..⟩

theorem group?_eq_of_le {position stop : Nat} {inner : Clause}
    (h : group? (front ++ t :: back) position = some (inner, stop)) (hstop : stop ≤ front.length)
    (t' : Token) : group? (front ++ t' :: back) position = some (inner, stop) := by
  obtain ⟨before, opening, closing, after, hgroup, hbefore, hlength, hgroups⟩ := group?_replace h
  have happend : front ++ t :: back = (before ++ opening :: (inner ++ [closing])) ++ after := by
    rw [hgroup]
    simp
  have hle : (before ++ opening :: (inner ++ [closing])).length ≤ front.length := by
    simp only [List.length_append, List.length_cons, List.length_nil]
    omega
  obtain ⟨after', hafter'⟩ := exists_eq_append_of_length_le happend hle t'
  have hclause : front ++ t' :: back = before ++ opening :: (inner ++ closing :: after') := by
    rw [hafter']
    simp
  rw [hclause]
  exact hgroups before inner after' hbefore (Alike.refl inner)

/-! ## Runs -/

theorem slice_replace {start stop : Nat} {before after : Clause}
    (h : slice (front ++ t :: back) start stop = before ++ u :: after)
    (hposition : start + before.length = front.length) :
    front.length < stop ∧ u = t ∧
      ∀ t' : Token, slice (front ++ t' :: back) start stop = before ++ t' :: after := by
  have hlength := congrArg List.length h
  simp only [slice, List.length_drop, List.length_take, List.length_append,
    List.length_cons] at hlength
  have hslice : ∀ w : Token, slice (front ++ w :: back) start stop =
      front.drop start ++ w :: back.take (stop - front.length - 1) := by
    intro w
    have htake : (w :: back).take (stop - front.length) =
        w :: back.take (stop - front.length - 1) := by
      rw [← List.take_succ_cons]
      congr 1
      omega
    rw [slice, List.take_append, List.take_of_length_le (by omega), htake, List.drop_append,
      Nat.sub_eq_zero_of_le (by omega), List.drop_zero]
  rw [hslice t] at h
  obtain ⟨rfl, htail⟩ := List.append_inj h (by rw [List.length_drop]; omega)
  obtain ⟨rfl, rfl⟩ := List.cons.inj htail
  exact ⟨by omega, rfl, hslice⟩

theorem slice_eq_of_le {start stop : Nat} (h : stop ≤ front.length) :
    slice (front ++ t :: back) start stop = slice (front ++ t' :: back) start stop := by
  rw [slice, slice, List.take_append_of_le_length h, List.take_append_of_le_length h]

theorem tail_eq_of_lt {start : Nat} (h : front.length < start) :
    tail (front ++ t :: back) start = tail (front ++ t' :: back) start := by
  obtain ⟨n, rfl⟩ := Nat.exists_eq_add_of_lt h
  have htail : ∀ w : Token, tail (front ++ w :: back) (front.length + n + 1) = back.drop n := by
    intro w
    rw [tail, Nat.add_assoc, ← List.drop_drop, List.drop_left, List.drop_succ_cons]
  rw [htail t, htail t']

theorem tail_replace {start : Nat} {before after : Clause}
    (h : tail (front ++ t :: back) start = before ++ u :: after)
    (hposition : start + before.length = front.length) :
    u = t ∧ ∀ t' : Token, tail (front ++ t' :: back) start = before ++ t' :: after := by
  have htail : ∀ w : Token, tail (front ++ w :: back) start = front.drop start ++ w :: back := by
    intro w
    rw [tail, List.drop_append_of_le_length (by omega)]
  rw [htail t] at h
  obtain ⟨rfl, hrest⟩ := List.append_inj h (by rw [List.length_drop]; omega)
  obtain ⟨rfl, rfl⟩ := List.cons.inj hrest
  exact ⟨rfl, htail⟩

end RecordQuery.Clause
