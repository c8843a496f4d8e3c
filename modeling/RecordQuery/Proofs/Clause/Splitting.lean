import RecordQuery.Proofs.Clause.Nesting

/-!
# The parts of a clause

A clause is cut at the marks of a kind that stand outside its parentheses, and nowhere else.

* `Clause.topMarks`: those marks.
* `length_splitOnP`: there is a part before and after each cut.
* `Clause.splitOn_lossless`: the parts with the marks between them are the clause, and no part can be
  cut again.
-/

namespace RecordQuery

theorem length_splitOnP {α : Type} (p : α → Bool) (l : List α) :
    (l.splitOnP p).length = l.countP p + 1 := by
  induction l with
  | nil => rfl
  | cons x l ih =>
    rw [List.splitOnP_cons_eq_if_modifyHead]
    by_cases hx : p x = true
    · rw [if_pos hx, List.length_cons, ih, List.countP_cons_of_pos hx]
    · rw [if_neg hx, List.length_modifyHead, ih, List.countP_cons_of_neg hx]

namespace Clause

/-- The tokens of a kind that stand outside the parentheses of a clause. -/
def topMarks (kind : TokenKind) (c : Clause) : List Token :=
  ((nested 0 c).filter (Nested.isTopMark kind)).map Nested.token

variable {kind : TokenKind} {c part : Clause}

theorem nested_injective (depth : Nat) : Function.Injective (nested depth) :=
  Function.LeftInverse.injective map_token_nested

theorem length_splitOn (hleft : kind ≠ .leftParen) (hright : kind ≠ .rightParen) (c : Clause) :
    (c.splitOn kind).length = (topMarks kind c).length + 1 := by
  have hparts := splitOnP_nested_zero hleft hright c
  rw [topMarks, List.length_map, ← List.countP_eq_length_filter, ← length_splitOnP, hparts,
    List.length_map]

theorem flatten_splitOn (hleft : kind ≠ .leftParen) (hright : kind ≠ .rightParen) (c : Clause) :
    (List.zipWith (· ++ ·) (c.splitOn kind)
      ((topMarks kind c).map (fun mark => [mark]) ++ [[]])).flatten = c := by
  have hwhole := List.splitOnP_spec (p := Nested.isTopMark kind) (nested 0 c)
  rw [splitOnP_nested_zero hleft hright] at hwhole
  have htokens := congrArg (List.map Nested.token) hwhole
  rw [map_token_nested, List.map_flatten, List.map_zipWith, List.zipWith_map_left] at htokens
  have hmarks : (topMarks kind c).map (fun mark => [mark]) ++ [[]] =
      (((nested 0 c).filter (Nested.isTopMark kind)).map (fun x => [x]) ++ [[]]).map
        (List.map Nested.token) := by
    simp [topMarks]
  rw [hmarks, List.zipWith_map_right]
  simpa only [List.map_append, map_token_nested] using htokens

theorem splitOn_eq_singleton_of_mem (hleft : kind ≠ .leftParen) (hright : kind ≠ .rightParen)
    (h : part ∈ c.splitOn kind) : part.splitOn kind = [part] := by
  have hmem : nested 0 part ∈ (nested 0 c).splitOnP (Nested.isTopMark kind) := by
    rw [splitOnP_nested_zero hleft hright]
    exact List.mem_map_of_mem h
  have hpart := List.splitOnP_eq_singleton (Text.eq_false_of_mem_splitOnP hmem)
  rw [splitOnP_nested_zero hleft hright] at hpart
  exact (List.map_injective_iff.2 (nested_injective 0)) hpart

/-- **Nothing is lost in cutting a clause, and nothing is left to cut.** There is one part more than
there are marks outside parentheses, the parts with these marks between them are the clause, and each
part is its own only part. -/
theorem splitOn_lossless (hkind : kind = .comma ∨ kind = .equals) (c : Clause) :
    (c.splitOn kind).length = (topMarks kind c).length + 1 ∧
    (List.zipWith (· ++ ·) (c.splitOn kind)
      ((topMarks kind c).map (fun mark => [mark]) ++ [[]])).flatten = c ∧
    ∀ part ∈ c.splitOn kind, part.splitOn kind = [part] := by
  have hleft : kind ≠ .leftParen := by rintro rfl; simp at hkind
  have hright : kind ≠ .rightParen := by rintro rfl; simp at hkind
  exact ⟨length_splitOn hleft hright c, flatten_splitOn hleft hright c,
    fun part hpart => splitOn_eq_singleton_of_mem hleft hright hpart⟩

/-- A parenthesis that closes nothing does not hide the comma after it, and one that is not closed
hides all that follow. -/
theorem splitOn_lossless_unbalanced :
    (TokenKind.comma = .comma ∨ TokenKind.comma = .equals) ∧
    (splitOn (tokenize "a),(b,c".toList) .comma).map text = ["a)".toList, "(b,c".toList] ∧
    (splitOn (tokenize "a),(b,c".toList) .comma).length =
      (topMarks .comma (tokenize "a),(b,c".toList)).length + 1 ∧
    (List.zipWith (· ++ ·) (splitOn (tokenize "a),(b,c".toList) .comma)
      ((topMarks .comma (tokenize "a),(b,c".toList)).map (fun mark => [mark]) ++ [[]])).flatten =
        tokenize "a),(b,c".toList ∧
    ∀ part ∈ splitOn (tokenize "a),(b,c".toList) .comma, part.splitOn .comma = [part] :=
  ⟨.inl rfl, by decide +kernel, splitOn_lossless (.inl rfl) (tokenize "a),(b,c".toList)⟩

end Clause

end RecordQuery
