import RecordQuery.Text.Blank

/-!
# Pieces of a text

* `words`: the runs of characters between blanks.
* `cutAt`: what stands before and after the first occurrence of a character.

`cutAt_eq_some_iff`: a cut is at the first occurrence and loses nothing but the character.
-/

namespace RecordQuery.Text

/-- The words of a text: what stands between its blanks and is not empty. -/
def words (text : List Char) : List (List Char) :=
  (text.splitOnP isBlank).filter (fun piece => !piece.isEmpty)

/-- The parts of a text around the first occurrence of a character. -/
def cutAt (mark : Char) : List Char → Option (List Char × List Char)
  | [] => none
  | c :: rest =>
    if c == mark then some ([], rest)
    else (cutAt mark rest).map fun (before, after) => (c :: before, after)

/-! ## Words -/

@[simp] theorem words_nil : words [] = [] := by simp [words]

theorem words_append_cons {c : Char} (hc : isBlank c = true) (before after : List Char) :
    words (before ++ c :: after) = words before ++ words after := by
  simp [words, List.splitOnP_append_cons before after hc]

theorem words_eq_singleton {text : List Char} (hne : text ≠ [])
    (h : ∀ c ∈ text, isBlank c = false) : words text = [text] := by
  simp [words, List.splitOnP_eq_singleton h, hne]

/-! ## Cuts -/

theorem cutAt_eq_some_iff {mark : Char} {text before after : List Char} :
    cutAt mark text = some (before, after) ↔ text = before ++ mark :: after ∧ mark ∉ before := by
  induction text generalizing before with
  | nil => simp [cutAt]
  | cons c rest ih =>
    by_cases hc : c = mark
    · subst hc
      cases before with
      | nil => simp [cutAt, eq_comm]
      | cons d before => simp [cutAt]; grind
    · cases before with
      | nil => simp [cutAt, hc]
      | cons d before =>
        simp only [cutAt, beq_iff_eq, hc, if_false, Option.map_eq_some_iff, Prod.exists,
          Prod.mk.injEq, List.cons.injEq]
        constructor
        · rintro ⟨b, a, hcut, ⟨rfl, rfl⟩, rfl⟩
          obtain ⟨rfl, hmem⟩ := ih.1 hcut
          simp [hmem, Ne.symm hc]
        · rintro ⟨heq, hmem⟩
          simp only [List.cons_append, List.cons.injEq] at heq
          obtain ⟨rfl, rfl⟩ := heq
          have hbefore : mark ∉ before := fun h => hmem (List.mem_cons_of_mem _ h)
          exact ⟨before, after, ih.2 ⟨rfl, hbefore⟩, ⟨rfl, rfl⟩, rfl⟩

theorem cutAt_eq_none_iff {mark : Char} {text : List Char} :
    cutAt mark text = none ↔ mark ∉ text := by
  induction text with
  | nil => simp [cutAt]
  | cons c rest ih =>
    by_cases hc : c = mark
    · simp [cutAt, hc]
    · simp [cutAt, hc, ih, Ne.symm hc]

end RecordQuery.Text
