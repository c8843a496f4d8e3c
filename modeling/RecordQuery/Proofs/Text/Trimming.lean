import RecordQuery.Text.Casing
import RecordQuery.Text.Pieces

/-!
# Trimming and words

* `trimStart_append_cons`, `trimEnd_append_cons`: trimming stops at a character that is not blank.
* `forall_isBlank_or_exists`: where the end of a text is trimmed, if it is not blank.
* `trim_eq_self`, `trim_trim`: a text with no blank at its ends is not trimmed.
* `trim_append_cons`: each end of a text is trimmed on its own. `isEmpty_trim`: what is trimmed to
  nothing.
* `words_gap_append`, `words_append`: the first word of a text begins after the blanks before it and
  ends at its first blank.
* `upper_of_equalIgnoringCase`: a text that equals an ASCII word up to case has its upper case.
-/

namespace RecordQuery.Text

variable {gap text rest : List Char} {c : Char}

/-- What holds of every character of a text is decided along the text. There are finitely many
characters, but too many to go through. -/
instance (priority := 2000) decidableForallMem (p : Char → Prop) [DecidablePred p]
    (text : List Char) : Decidable (∀ c ∈ text, p c) :=
  List.decidableBAll p text

/-! ## The start -/

theorem trimStart_append (h : ∀ c ∈ gap, isBlank c = true) (text : List Char) :
    trimStart (gap ++ text) = trimStart text :=
  List.dropWhile_append_of_pos h

theorem trimStart_eq_nil (h : ∀ c ∈ text, isBlank c = true) : trimStart text = [] := by
  have happend := trimStart_append h []
  rwa [List.append_nil] at happend

theorem trimStart_append_cons (hc : isBlank c = false) (text rest : List Char) :
    trimStart (text ++ c :: rest) = trimStart text ++ c :: rest := by
  induction text with
  | nil => simp [trimStart, hc]
  | cons d text ih =>
    by_cases hd : isBlank d = true
    · simpa [trimStart, hd] using ih
    · simp [trimStart, hd]

theorem trimStart_cons (hc : isBlank c = false) (rest : List Char) :
    trimStart (c :: rest) = c :: rest :=
  trimStart_append_cons hc [] rest

theorem takeWhile_isBlank_append (h : ∀ c ∈ gap, isBlank c = true) (hc : isBlank c = false)
    (rest : List Char) : (gap ++ c :: rest).takeWhile isBlank = gap := by
  rw [List.takeWhile_append_of_pos h]
  simp [hc]

theorem isBlank_of_trimStart_eq_cons (h : trimStart text = c :: rest) : isBlank c = false := by
  have hhead := List.head?_dropWhile_not isBlank text
  rw [← trimStart, h] at hhead
  simpa using hhead

theorem trimStart_trimStart (text : List Char) : trimStart (trimStart text) = trimStart text := by
  cases htext : trimStart text with
  | nil => rfl
  | cons c rest => exact trimStart_cons (isBlank_of_trimStart_eq_cons htext) rest

/-! ## The end -/

theorem trimEnd_eq_nil (h : ∀ c ∈ text, isBlank c = true) : trimEnd text = [] := by
  induction text with
  | nil => rfl
  | cons c text ih =>
    rw [trimEnd, ih fun d hd => h d (List.mem_cons_of_mem _ hd)]
    simp [h c List.mem_cons_self]

theorem trimEnd_append (text : List Char) (h : ∀ c ∈ gap, isBlank c = true) :
    trimEnd (text ++ gap) = trimEnd text := by
  induction text with
  | nil => exact trimEnd_eq_nil h
  | cons c text ih => rw [List.cons_append, trimEnd, ih, trimEnd]

theorem trimEnd_trimEnd (text : List Char) : trimEnd (trimEnd text) = trimEnd text := by
  obtain ⟨cut, hcut, hblank⟩ := exists_trimEnd_append text
  have happend := trimEnd_append (trimEnd text) hblank
  rw [← hcut] at happend
  exact happend.symm

theorem trimEnd_append_cons (hc : isBlank c = false) (text rest : List Char) :
    trimEnd (text ++ c :: rest) = text ++ c :: trimEnd rest := by
  induction text with
  | nil =>
    rw [List.nil_append, trimEnd, List.nil_append]
    split
    next hnil => simp [hc, hnil]
    next d kept hkept => rw [hkept]
  | cons d text ih =>
    rw [List.cons_append, trimEnd, ih]
    cases htext : text ++ c :: trimEnd rest with
    | nil => simp at htext
    | cons e kept => rw [List.cons_append, htext]

theorem trimEnd_concat (hc : isBlank c = false) (text : List Char) :
    trimEnd (text ++ [c]) = text ++ [c] :=
  trimEnd_append_cons hc text []

theorem forall_isBlank_or_exists (text : List Char) :
    (∀ c ∈ text, isBlank c = true) ∨
      ∃ init last gap, text = init ++ last :: gap ∧ isBlank last = false ∧
        ∀ c ∈ gap, isBlank c = true := by
  induction text with
  | nil => exact .inl (List.forall_mem_nil _)
  | cons c text ih =>
    obtain hblank | ⟨init, last, gap, rfl, hlast, hgap⟩ := ih
    · by_cases hc : isBlank c = true
      · exact .inl (List.forall_mem_cons.2 ⟨hc, hblank⟩)
      · exact .inr ⟨[], c, text, rfl, eq_false_of_ne_true hc, hblank⟩
    · exact .inr ⟨c :: init, last, gap, rfl, hlast, hgap⟩

theorem trimEnd_append_cons_blank (hc : isBlank c = false) (text : List Char)
    (h : ∀ d ∈ gap, isBlank d = true) : trimEnd (text ++ c :: gap) = text ++ [c] := by
  rw [trimEnd_append_cons hc, trimEnd_eq_nil h]

/-! ## Both ends -/

theorem trimStart_trimEnd (text : List Char) :
    trimStart (trimEnd text) = trimEnd (trimStart text) := by
  obtain h | ⟨init, last, gap, rfl, hlast, hgap⟩ := forall_isBlank_or_exists text
  · rw [trimEnd_eq_nil h, trimStart_eq_nil h]
    rfl
  · rw [trimEnd_append_cons_blank hlast init hgap, trimStart_append_cons hlast,
      trimStart_append_cons hlast, trimEnd_append_cons_blank hlast _ hgap]

theorem trim_eq_self (h : ∀ c ∈ text, isBlank c = false) : trim text = text := by
  rcases List.eq_nil_or_concat text with rfl | ⟨init, last, rfl⟩
  · rfl
  · have hlast : isBlank last = false := h last (by simp)
    have hstart : trimStart (init ++ [last]) = init ++ [last] := by
      cases init with
      | nil => exact trimStart_cons hlast []
      | cons c init => exact trimStart_cons (h c (by simp)) _
    rw [trim, List.concat_eq_append, hstart, trimEnd_concat hlast]

theorem trim_trimStart (text : List Char) : trim (trimStart text) = trim text := by
  rw [trim, trimStart_trimStart, trim]

theorem trim_trimEnd (text : List Char) : trim (trimEnd text) = trim text := by
  rw [trim, trimStart_trimEnd, trimEnd_trimEnd, trim]

theorem trim_trim (text : List Char) : trim (trim text) = trim text :=
  (trim_trimEnd (trimStart text)).trans (trim_trimStart text)

theorem trim_append_cons (hc : isBlank c = false) (text rest : List Char) :
    trim (text ++ c :: rest) = trimStart text ++ c :: trimEnd rest := by
  rw [trim, trimStart_append_cons hc, trimEnd_append_cons hc]

theorem trim_cases (text : List Char) :
    trim text = [] ∨ ∃ init last, trim text = init ++ [last] ∧ isBlank last = false := by
  obtain h | ⟨init, last, gap, rfl, hlast, hgap⟩ := forall_isBlank_or_exists text
  · left
    rw [trim, trimStart_eq_nil h, trimEnd_nil]
  · right
    refine ⟨trimStart init, last, ?_, hlast⟩
    rw [trim, trimStart_append_cons hlast, trimEnd_append_cons_blank hlast _ hgap]

theorem trimEnd_trim (text : List Char) : trimEnd (trim text) = trim text := by
  obtain hnil | ⟨init, last, htext, hlast⟩ := trim_cases text
  · rw [hnil, trimEnd_nil]
  · rw [htext, trimEnd_concat hlast]

theorem getLast?_trimEnd_append (text line : List Char) :
    (trimEnd (text ++ ' ' :: trim line)).getLast? =
      (trim line).getLast?.or (trimEnd text).getLast? := by
  obtain hnil | ⟨init, last, hline, hlast⟩ := trim_cases line
  · rw [hnil, trimEnd_append text (by decide)]
    rfl
  · have hconcat : text ++ ' ' :: (init ++ [last]) = text ++ ' ' :: init ++ [last] := by simp
    rw [hline, hconcat, trimEnd_concat hlast, List.getLast?_concat, List.getLast?_concat]
    rfl

theorem trim_enclosed {first last : Char} (hfirst : isBlank first = false)
    (hlast : isBlank last = false) (text : List Char) :
    trim (first :: (text ++ [last])) = first :: (text ++ [last]) := by
  rw [trim, trimStart_cons hfirst]
  exact trimEnd_concat hlast (first :: text)

theorem mem_trim (h : c ∈ text) (hc : isBlank c = false) : c ∈ trim text := by
  have hblank : ∀ {cut : List Char}, (∀ d ∈ cut, isBlank d = true) → c ∉ cut := fun hcut hmem => by
    have hd := hcut c hmem
    rw [hc] at hd
    exact Bool.false_ne_true hd
  obtain ⟨start, hstart, hstartBlank⟩ := exists_append_trimStart text
  obtain ⟨cut, hcut, hcutBlank⟩ := exists_trimEnd_append (trimStart text)
  rw [hstart] at h
  have hmem := (List.mem_append.1 h).resolve_left (hblank hstartBlank)
  rw [hcut] at hmem
  exact (List.mem_append.1 hmem).resolve_right (hblank hcutBlank)

theorem mem_of_mem_trim (h : c ∈ trim text) : c ∈ text := by
  obtain ⟨start, hstart, -⟩ := exists_append_trimStart text
  obtain ⟨cut, hcut, -⟩ := exists_trimEnd_append (trimStart text)
  rw [hstart, hcut]
  exact List.mem_append_right start (List.mem_append_left cut h)

theorem isEmpty_trim (text : List Char) : (trim text).isEmpty = allBlank text := by
  rw [Bool.eq_iff_iff, List.isEmpty_iff, allBlank, List.all_eq_true]
  constructor
  · intro hnil c hmem
    cases hc : isBlank c with
    | true => rfl
    | false =>
      have hkept := mem_trim hmem hc
      rw [hnil] at hkept
      cases hkept
  · intro hblank
    rw [trim, trimStart_eq_nil hblank, trimEnd_nil]

/-! ## Words -/

theorem eq_false_of_mem_splitOnP {α : Type} {p : α → Bool} {l piece : List α}
    (h : piece ∈ l.splitOnP p) : ∀ x ∈ piece, p x = false := by
  induction l generalizing piece with
  | nil =>
    obtain rfl := List.mem_singleton.1 h
    exact nofun
  | cons y l ih =>
    rw [List.splitOnP_cons_eq_if_modifyHead] at h
    by_cases hy : p y = true
    · rw [if_pos hy] at h
      obtain rfl | h := List.mem_cons.1 h
      · exact nofun
      · exact ih h
    · rw [if_neg hy] at h
      obtain ⟨first, others, hl⟩ := List.exists_cons_of_ne_nil (List.splitOnP_ne_nil p l)
      rw [hl, List.modifyHead_cons] at h
      rw [hl] at ih
      obtain rfl | h := List.mem_cons.1 h
      · exact List.forall_mem_cons.2 ⟨eq_false_of_ne_true hy, ih List.mem_cons_self⟩
      · exact ih (List.mem_cons_of_mem _ h)

theorem words_gap_append (h : ∀ c ∈ gap, isBlank c = true) (text : List Char) :
    words (gap ++ text) = words text := by
  induction gap with
  | nil => rfl
  | cons c gap ih =>
    obtain ⟨hc, hgap⟩ := List.forall_mem_cons.1 h
    have hcut := words_append_cons hc [] (gap ++ text)
    rw [List.nil_append, words_nil, List.nil_append] at hcut
    rw [List.cons_append, hcut, ih hgap]

theorem words_append (hne : text ≠ []) (h : ∀ c ∈ text, isBlank c = false)
    (hc : isBlank c = true) (rest : List Char) :
    words (text ++ c :: rest) = text :: words rest := by
  rw [words_append_cons hc, words_eq_singleton hne h]
  rfl

/-! ## Case -/

theorem forall_ascii {p : Char → Prop} (h : ∀ n < 0x80, p (Char.ofNat n)) (hc : c.val < 0x80) :
    p c := by
  have hp := h c.toNat hc
  rwa [Char.ofNat_toNat] at hp

theorem toUpper_toLower (h : c.val < 0x80) : c.toLower.toUpper = c.toUpper :=
  forall_ascii (p := fun c => c.toLower.toUpper = c.toUpper) (by decide +kernel) h

theorem val_toLower_lt (h : c.val < 0x80) : c.toLower.val < 0x80 :=
  forall_ascii (p := fun c => c.toLower.val < 0x80) (by decide +kernel) h

theorem toLower_eq_self (h : ¬c.val < 0x80) : c.toLower = c := by
  unfold Char.toLower
  split
  next hupper =>
    have hbound : c.val < 0x80 := Nat.lt_of_le_of_lt hupper.2 (by decide)
    exact absurd hbound h
  next => rfl

theorem upperChar_of_toLower_eq {letter : Char} (hletter : letter.val < 0x80)
    (h : c.toLower = letter.toLower) : upperChar c = [letter.toUpper] := by
  by_cases hc : c.val < 0x80
  · rw [upperChar, if_pos hc, ← toUpper_toLower hc, h, toUpper_toLower hletter]
  · -- such a character is its own lower case, and that of a letter is ASCII
    rw [toLower_eq_self hc] at h
    exact absurd (h ▸ val_toLower_lt hletter) hc

theorem upper_of_equalIgnoringCase {keyword : List Char} (hascii : ∀ c ∈ keyword, c.val < 0x80)
    (h : equalIgnoringCase text keyword = true) : upper text = keyword.map Char.toUpper := by
  have hlower : text.map Char.toLower = keyword.map Char.toLower := by
    simpa [equalIgnoringCase] using h
  clear h
  induction text generalizing keyword with
  | nil =>
    obtain rfl := List.map_eq_nil_iff.1 hlower.symm
    rfl
  | cons c text ih =>
    obtain ⟨letter, rest, rfl, hletter, hrest⟩ := List.map_eq_cons_iff.1 hlower.symm
    have hc := upperChar_of_toLower_eq (hascii letter List.mem_cons_self) hletter.symm
    have htext := ih (fun d hd => hascii d (List.mem_cons_of_mem _ hd)) hrest.symm
    rw [upper, List.flatMap_cons, hc, ← upper, htext]
    rfl

theorem equalIgnoringCase_eq_false {keyword other : List Char}
    (h : equalIgnoringCase text keyword = true)
    (hne : keyword.map Char.toLower ≠ other.map Char.toLower) :
    equalIgnoringCase text other = false := by
  simp only [equalIgnoringCase, beq_iff_eq, beq_eq_false_iff_ne] at h ⊢
  rwa [h]

theorem isAlpha_of_isAlpha_toLower (h : c.toLower.isAlpha = true) : c.isAlpha = true := by
  by_cases hc : c.val < 0x80
  · exact forall_ascii (p := fun c => c.toLower.isAlpha = true → c.isAlpha = true)
      (by decide +kernel) hc h
  · rwa [toLower_eq_self hc] at h

theorem val_lt_of_isAlpha (h : c.isAlpha = true) : c.val < 0x80 := by
  have hcase : c.isUpper = true ∨ c.isLower = true := Bool.or_eq_true_iff.1 h
  rcases hcase with hupper | hlower
  · have hrange : c.val ≥ 'A'.val ∧ c.val ≤ 'Z'.val := of_decide_eq_true hupper
    exact Nat.lt_of_le_of_lt hrange.2 (by decide)
  · have hbound : c.val ≤ 'z'.val := of_decide_eq_true (Bool.and_eq_true_iff.1 hlower).2
    exact Nat.lt_of_le_of_lt hbound (by decide)

theorem isAlpha_toLower (h : c.isAlpha = true) : c.toLower.isAlpha = true :=
  forall_ascii (p := fun c => c.isAlpha = true → c.toLower.isAlpha = true)
    (by decide +kernel) (val_lt_of_isAlpha h) h

theorem equalIgnoringCase_eq_false_of_mem {keyword : List Char}
    (hkeyword : ∀ d ∈ keyword, d.isAlpha = true) (hmem : c ∈ text) (hc : c.isAlpha = false) :
    equalIgnoringCase text keyword = false := by
  simp only [equalIgnoringCase, beq_eq_false_iff_ne]
  intro heq
  have hlower : c.toLower ∈ keyword.map Char.toLower := heq ▸ List.mem_map_of_mem hmem
  obtain ⟨d, hd, hdc⟩ := List.mem_map.1 hlower
  have halpha := isAlpha_of_isAlpha_toLower (hdc ▸ isAlpha_toLower (hkeyword d hd))
  rw [hc] at halpha
  exact Bool.false_ne_true halpha

end RecordQuery.Text
