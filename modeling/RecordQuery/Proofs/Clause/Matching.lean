import RecordQuery.Proofs.Clause.Cutting
import Mathlib.Order.Bounds.Basic

/-!
# Matching parentheses

A group is a balanced clause between two parentheses. It reaches from the opening one to the first
position at which as many parentheses are closed as opened, whatever stands before it.

* `Clause.IsBalanced`: whether the parentheses of a clause match. `StaysOpen`, `Closes`: the same
  within a number of open parentheses.
* `Clause.untilClosed_eq_some_iff`, `Clause.untilClosed_eq_none_iff`: what is closed, and what never
  is.
* `Clause.group?_eq_some_iff`: a group is a balanced clause between two parentheses.
* `Clause.IsLevel`: whether as many parentheses are closed as opened between two positions.
* `Clause.group?_matches`: there is a group exactly where an opening parenthesis comes to such a
  position, and it ends at the first one.
-/

namespace RecordQuery.Clause

section Balance

variable {c inner : Clause} {depth : Nat}

/-! ## Balance -/

/-- The number of parentheses that open and the number of those that close. -/
def lefts (c : Clause) : Nat :=
  c.countP fun t => t.kind == .leftParen

def rights (c : Clause) : Nat :=
  c.countP fun t => t.kind == .rightParen

/-- Whether the parentheses of a clause match: none is closed before it is opened and none is left
open. -/
structure IsBalanced (c : Clause) : Prop where
  front : ∀ front : Clause, front <+: c → rights front ≤ lefts front
  whole : rights c = lefts c

/-- Whether no parenthesis of a clause closes more than those in it and `depth` that are open before
it. -/
def StaysOpen (depth : Nat) (c : Clause) : Prop :=
  ∀ front : Clause, front <+: c → rights front ≤ lefts front + depth

/-- Whether the parentheses of a clause match those in it and `depth` that are open before it. -/
structure Closes (depth : Nat) (c : Clause) : Prop where
  front : ∀ front : Clause, front <+: c → rights front ≤ lefts front + depth
  whole : rights c = lefts c + depth

theorem closes_zero_iff : Closes 0 c ↔ IsBalanced c :=
  ⟨fun h => ⟨h.front, h.whole⟩, fun h => ⟨h.front, h.whole⟩⟩

theorem closes_iff : Closes depth c ↔ StaysOpen depth c ∧ rights c = lefts c + depth :=
  ⟨fun h => ⟨h.front, h.whole⟩, fun h => ⟨h.1, h.2⟩⟩

theorem staysOpen_nil (depth : Nat) : StaysOpen depth [] := by
  intro front hfront
  obtain rfl := List.prefix_nil.1 hfront
  exact Nat.zero_le _

theorem closes_nil_iff : Closes depth [] ↔ depth = 0 := by
  rw [closes_iff, and_iff_right (staysOpen_nil depth)]
  simp [lefts, rights, eq_comm]

theorem counts_cons {t : Token} (h : t.kind = .rightParen → depth ≠ 0) (c : Clause) :
    lefts (t :: c) + depth + rights c = lefts c + t.depthAfter depth + rights (t :: c) := by
  unfold lefts rights Token.depthAfter
  rw [List.countP_cons, List.countP_cons]
  cases hkind : t.kind
  case rightParen =>
    have hopen := h hkind
    simp
    omega
  all_goals
    simp
    try omega

theorem staysOpen_cons_iff {t : Token} :
    StaysOpen depth (t :: c) ↔
      (t.kind = .rightParen → depth ≠ 0) ∧ StaysOpen (t.depthAfter depth) c := by
  constructor
  · intro h
    have hopen : t.kind = .rightParen → depth ≠ 0 := by
      rintro hkind rfl
      have hfirst := h [t] ⟨c, rfl⟩
      simp [rights, lefts, hkind] at hfirst
    refine ⟨hopen, fun front hprefix => ?_⟩
    have hle := h (t :: front) (List.cons_prefix_cons.2 ⟨rfl, hprefix⟩)
    have hcounts := counts_cons hopen front
    omega
  · rintro ⟨hopen, hrest⟩ front hprefix
    obtain rfl | ⟨front, rfl, hfront⟩ := List.prefix_cons_iff.1 hprefix
    · exact Nat.zero_le _
    · have hle := hrest front hfront
      have hcounts := counts_cons hopen front
      omega

theorem closes_cons_iff {t : Token} :
    Closes depth (t :: c) ↔
      (t.kind = .rightParen → depth ≠ 0) ∧ Closes (t.depthAfter depth) c := by
  rw [closes_iff, closes_iff, staysOpen_cons_iff, and_assoc]
  refine and_congr_right fun hopen => and_congr_right fun _ => ?_
  have hcounts := counts_cons hopen c
  omega

/-! ## Groups -/

theorem untilClosed_eq_some_iff :
    untilClosed depth c = some inner ↔
      ∃ closing rest, c = inner ++ closing :: rest ∧ closing.kind = .rightParen ∧
        Closes depth inner := by
  induction c generalizing depth inner with
  | nil => simp [untilClosed]
  | cons t c ih =>
    by_cases hclose : t.kind = .rightParen ∧ depth = 0
    · obtain ⟨hkind, rfl⟩ := hclose
      rw [untilClosed_cons_of_closes hkind, Option.some.injEq]
      constructor
      · rintro rfl
        exact ⟨t, c, rfl, hkind, closes_nil_iff.2 rfl⟩
      · rintro ⟨closing, rest, happend, -, hinner⟩
        cases inner with
        | nil => rfl
        | cons u inner =>
          obtain ⟨rfl, -⟩ := List.cons.inj happend
          exact absurd rfl ((closes_cons_iff.1 hinner).1 hkind)
    · have hopen : t.kind = .rightParen → depth ≠ 0 := fun hkind hdepth => hclose ⟨hkind, hdepth⟩
      rw [untilClosed_cons hopen, Option.map_eq_some_iff]
      constructor
      · rintro ⟨inner, hinner, rfl⟩
        obtain ⟨closing, rest, rfl, hkind, hcloses⟩ := ih.1 hinner
        exact ⟨closing, rest, rfl, hkind, closes_cons_iff.2 ⟨hopen, hcloses⟩⟩
      · rintro ⟨closing, rest, happend, hkind, hcloses⟩
        cases inner with
        | nil =>
          obtain ⟨rfl, rfl⟩ := List.cons.inj happend
          exact absurd (closes_nil_iff.1 hcloses) (hopen hkind)
        | cons u inner =>
          obtain ⟨rfl, rfl⟩ := List.cons.inj happend
          exact ⟨inner, ih.2 ⟨closing, rest, rfl, hkind, (closes_cons_iff.1 hcloses).2⟩, rfl⟩

theorem untilClosed_eq_none_iff : untilClosed depth c = none ↔ StaysOpen depth c := by
  induction c generalizing depth with
  | nil => exact iff_of_true rfl (staysOpen_nil depth)
  | cons t c ih =>
    rw [staysOpen_cons_iff]
    by_cases hclose : t.kind = .rightParen ∧ depth = 0
    · obtain ⟨hkind, rfl⟩ := hclose
      rw [untilClosed_cons_of_closes hkind]
      simp [hkind]
    · have hopen : t.kind = .rightParen → depth ≠ 0 := fun hkind hdepth => hclose ⟨hkind, hdepth⟩
      rw [untilClosed_cons hopen, Option.map_eq_none_iff, ih]
      exact ⟨fun h => ⟨hopen, h⟩, And.right⟩

/-- **A group is a balanced clause between two parentheses.** -/
theorem group?_eq_some_iff {position stop : Nat} :
    group? c position = some (inner, stop) ↔
      ∃ opening closing rest, c.drop position = opening :: (inner ++ closing :: rest) ∧
        opening.kind = .leftParen ∧ closing.kind = .rightParen ∧ IsBalanced inner ∧
        stop = position + inner.length + 2 := by
  unfold group?
  cases c.drop position with
  | nil => simp
  | cons opening rest =>
    simp only
    by_cases hkind : opening.kind = .leftParen
    · rw [if_pos hkind, Option.map_eq_some_iff]
      constructor
      · rintro ⟨inner', hinner, heq⟩
        obtain ⟨rfl, rfl⟩ := Prod.mk.inj heq
        obtain ⟨closing, rest, rfl, hclosing, hcloses⟩ := untilClosed_eq_some_iff.1 hinner
        exact ⟨opening, closing, rest, rfl, hkind, hclosing, closes_zero_iff.1 hcloses, rfl⟩
      · rintro ⟨opening', closing, rest', happend, -, hclosing, hbalanced, rfl⟩
        obtain ⟨rfl, rfl⟩ := List.cons.inj happend
        exact ⟨inner, untilClosed_eq_some_iff.2
          ⟨closing, rest', rfl, hclosing, closes_zero_iff.2 hbalanced⟩, rfl⟩
    · rw [if_neg hkind]
      constructor
      · intro h
        cases h
      · rintro ⟨opening', closing, rest', happend, hopening, -⟩
        obtain ⟨rfl, -⟩ := List.cons.inj happend
        exact absurd hopening hkind

end Balance

/-! ## Positions -/

/-- Whether as many parentheses are closed as opened from one position up to a later one. -/
structure IsLevel (clause : Clause) (start stop : Nat) : Prop where
  later : start < stop
  within : stop ≤ clause.length
  level : rights (clause.slice start stop) = lefts (clause.slice start stop)

section Positions

variable {clause inner rest : Clause} {opening : Token} {position stop : Nat}

theorem slice_add_of_drop (hdrop : clause.drop position = opening :: rest) (n : Nat) :
    clause.slice position (position + n + 1) = opening :: rest.take n := by
  rw [slice, List.drop_take, hdrop, Nat.add_assoc, Nat.add_sub_cancel_left, List.take_succ_cons]

theorem isLevel_iff_of_drop (hdrop : clause.drop position = opening :: rest)
    (hopening : opening.kind = .leftParen) :
    clause.IsLevel position stop ↔
      ∃ front : Clause, front <+: rest ∧ rights front = lefts front + 1 ∧
        stop = position + front.length + 1 := by
  have hlength := congrArg List.length hdrop
  rw [List.length_drop, List.length_cons] at hlength
  have hlefts : ∀ front : Clause, lefts (opening :: front) = lefts front + 1 := fun front =>
    List.countP_cons_of_pos (by simp [hopening])
  have hrights : ∀ front : Clause, rights (opening :: front) = rights front := fun front =>
    List.countP_cons_of_neg (by simp [hopening])
  constructor
  · rintro ⟨hlater, hwithin, hlevel⟩
    obtain ⟨n, rfl⟩ := Nat.exists_eq_add_of_lt hlater
    rw [slice_add_of_drop hdrop, hlefts, hrights] at hlevel
    refine ⟨rest.take n, List.take_prefix n rest, hlevel, ?_⟩
    rw [List.length_take_of_le (by omega)]
  · rintro ⟨front, hfront, hcounts, rfl⟩
    have hle := hfront.length_le
    refine ⟨by omega, by omega, ?_⟩
    rw [slice_add_of_drop hdrop, hlefts, hrights, ← List.prefix_iff_eq_take.1 hfront, hcounts]

theorem map_kind_of_drop (hdrop : clause.drop position = opening :: rest) :
    clause[position]?.map Token.kind = some opening.kind := by
  rw [← List.head?_drop, hdrop]
  rfl

theorem isLeast_of_group? (h : clause.group? position = some (inner, stop)) :
    IsLeast {n | clause.IsLevel position n} stop := by
  obtain ⟨opening, closing, rest, hdrop, hopening, hclosing, hbalanced, rfl⟩ :=
    group?_eq_some_iff.1 h
  constructor
  · refine (isLevel_iff_of_drop hdrop hopening).2
      ⟨inner ++ [closing], ⟨rest, by simp⟩, ?_, by simp [Nat.add_assoc]⟩
    have hwhole := hbalanced.whole
    unfold rights lefts at hwhole ⊢
    simp [hclosing, hwhole]
  · intro n hn
    obtain ⟨front, hfront, hcounts, rfl⟩ := (isLevel_iff_of_drop hdrop hopening).1 hn
    -- a front that is too short is one of the group, where no more is closed than opened
    by_contra hlt
    have hinner : front <+: inner :=
      List.prefix_of_prefix_length_le hfront (List.prefix_append inner _) (by omega)
    have hle := hbalanced.front front hinner
    omega

theorem slice_of_group? (h : clause.group? position = some (inner, stop)) :
    inner = clause.slice (position + 1) (stop - 1) := by
  obtain ⟨opening, closing, rest, hdrop, -, -, -, rfl⟩ := group?_eq_some_iff.1 h
  have hrest : clause.drop (position + 1) = inner ++ closing :: rest := by
    rw [← List.drop_drop, hdrop, List.drop_succ_cons, List.drop_zero]
  have hlength : position + inner.length + 2 - 1 - (position + 1) = inner.length := by omega
  rw [slice, List.drop_take, hrest, hlength, List.take_left]

theorem map_kind_of_group? (h : clause.group? position = some (inner, stop)) :
    clause[position]?.map Token.kind = some .leftParen ∧
      clause[stop - 1]?.map Token.kind = some .rightParen := by
  obtain ⟨opening, closing, rest, hdrop, hopening, hclosing, -, rfl⟩ := group?_eq_some_iff.1 h
  refine ⟨hopening ▸ map_kind_of_drop hdrop, ?_⟩
  have hlast : clause.drop (position + inner.length + 2 - 1) = closing :: rest := by
    rw [show position + inner.length + 2 - 1 = position + (inner.length + 1) by omega,
      ← List.drop_drop, hdrop, List.drop_succ_cons, List.drop_left]
  exact hclosing ▸ map_kind_of_drop hlast

theorem group?_eq_none_iff :
    clause.group? position = none ↔
      clause[position]?.map Token.kind ≠ some .leftParen ∨ ∀ n, ¬clause.IsLevel position n := by
  constructor
  · intro h
    refine or_iff_not_imp_left.2 fun hkind n hn => ?_
    obtain ⟨opening, hget, hopening⟩ := Option.map_eq_some_iff.1 (not_not.1 hkind)
    rw [← List.head?_drop] at hget
    obtain ⟨rest, hdrop⟩ := List.head?_eq_some_iff.1 hget
    obtain ⟨front, hfront, hcounts, -⟩ := (isLevel_iff_of_drop hdrop hopening).1 hn
    simp only [group?, hdrop, if_pos hopening, Option.map_eq_none_iff] at h
    have hle := untilClosed_eq_none_iff.1 h front hfront
    omega
  · intro h
    by_contra hsome
    obtain ⟨⟨inner, stop⟩, hgroup⟩ := Option.ne_none_iff_exists'.1 hsome
    obtain hkind | hnever := h
    · exact hkind (map_kind_of_group? hgroup).1
    · exact hnever stop (isLeast_of_group? hgroup).1

theorem group?_append_drop {before : Clause} (h : before.length = position) :
    group? (before ++ clause.drop position) position = clause.group? position := by
  rw [group?, group?, List.drop_left' h]

/-- **Parentheses are matched exactly.** There is a group at a position if a parenthesis opens there
and, from there on, as many come to be closed as opened. The group ends behind the parenthesis with
which this is so for the first time, and what is between the two is balanced. -/
theorem group?_matches (clause : Clause) (position : Nat) :
    (∀ inner stop, clause.group? position = some (inner, stop) ↔
      clause[position]?.map Token.kind = some .leftParen ∧
        IsLeast {n | clause.IsLevel position n} stop ∧
        inner = clause.slice (position + 1) (stop - 1)) ∧
    (∀ inner stop, clause.group? position = some (inner, stop) →
      clause[stop - 1]?.map Token.kind = some .rightParen ∧ IsBalanced inner) ∧
    (clause.group? position = none ↔
      clause[position]?.map Token.kind ≠ some .leftParen ∨ ∀ n, ¬clause.IsLevel position n) ∧
    ∀ before : Clause, before.length = position →
      group? (before ++ clause.drop position) position = clause.group? position := by
  refine ⟨fun inner stop => ⟨fun h => ?_, ?_⟩, fun inner stop h => ?_, group?_eq_none_iff,
    fun before => group?_append_drop⟩
  · exact ⟨(map_kind_of_group? h).1, isLeast_of_group? h, slice_of_group? h⟩
  · rintro ⟨hkind, hleast, rfl⟩
    -- there is a group, and it can only end at the first position
    have hsome : clause.group? position ≠ none := by
      rw [Ne, group?_eq_none_iff]
      rintro (hother | hnever)
      · exact hother hkind
      · exact hnever stop hleast.1
    obtain ⟨⟨inner, stop'⟩, hgroup⟩ := Option.ne_none_iff_exists'.1 hsome
    obtain rfl := hleast.unique (isLeast_of_group? hgroup)
    rw [hgroup, slice_of_group? hgroup]
  · obtain ⟨-, -, -, -, -, -, hbalanced, -⟩ := group?_eq_some_iff.1 h
    exact ⟨(map_kind_of_group? h).2, hbalanced⟩

/-- A group with another one in it, behind a parenthesis that closes nothing, and the same group
behind two that are never closed. -/
theorem group?_matches_nested :
    group? (tokenize "a) ((b), c) d".toList) 2 =
      some (slice (tokenize "a) ((b), c) d".toList) 3 8, 9) ∧
    text (slice (tokenize "a) ((b), c) d".toList) 3 8) = "(b), c".toList ∧
    IsLeast {n | IsLevel (tokenize "a) ((b), c) d".toList) 2 n} 9 ∧
    IsBalanced (slice (tokenize "a) ((b), c) d".toList) 3 8) ∧
    group? (tokenize "((".toList ++ (tokenize "a) ((b), c) d".toList).drop 2) 2 =
      some (slice (tokenize "a) ((b), c) d".toList) 3 8, 9) := by
  obtain ⟨hgroup, hclosed, -, hbefore⟩ := group?_matches (tokenize "a) ((b), c) d".toList) 2
  have hsome : group? (tokenize "a) ((b), c) d".toList) 2 =
      some (slice (tokenize "a) ((b), c) d".toList) 3 8, 9) := by decide +kernel
  refine ⟨hsome, by decide +kernel, ((hgroup _ _).1 hsome).2.1, (hclosed _ _ hsome).2, ?_⟩
  exact (hbefore (tokenize "((".toList) (by decide +kernel)).trans hsome

end Positions

end RecordQuery.Clause
