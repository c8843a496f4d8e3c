import RecordQuery.Shell.Completion
import RecordQuery.Proofs.Text.Bytes

/-!
# What is completed where

A completion is about the text before the cursor: the whole of it if a dot-command is being typed,
and else its last word. That word is read one byte after the place of the last break, which is inside
a character if the break is wider (`dropBytes?_succ`).

* `IsDotCommand`, `IsLastWord`: what is being completed.
* `Offers`: the candidates for a text in a table.
* `Completes`: a completion as it should be. `completes_iff`: where it is, and that there is no
  answer elsewhere.
-/

namespace RecordQuery.Shell

/-- Whether a text begins with a point and has no blank. -/
def IsDotCommand (text : List Char) : Prop :=
  text.head? = some '.' ∧ ∀ c ∈ text, Text.isBlank c = false

/-- The longest end of a text without a break. -/
structure IsLastWord (text word : List Char) : Prop where
  suffix : word <:+ text
  unbroken : ∀ c ∈ word, isBreak c = false
  longest : ∀ other, other <:+ text → (∀ c ∈ other, isBreak c = false) →
    other.length ≤ word.length

/-- The names of a table that begin with a text, in the order of the table. -/
structure Offers (table : List String) (text : List Char) (candidates : List String) : Prop where
  order : candidates.Sublist table
  mem_iff : ∀ name, name ∈ candidates ↔ name ∈ table ∧ text <+: name.toList

/-- A completion of the text before a cursor as it should be. -/
structure Completes (text : List Char) (start : Nat) (candidates : List String) : Prop where
  /-- It begins between two characters, and not after the cursor. -/
  boundary : ∃ before after, text = before ++ after ∧ start = byteLength before
  /-- A dot-command is completed from its point. -/
  dotCommand : IsDotCommand text → start = 0 ∧ Offers dotCommands text candidates
  /-- Anything else is completed from the start of its last word, in upper case. -/
  lastWord : ¬ IsDotCommand text → ∃ before word, text = before ++ word ∧ IsLastWord text word ∧
    start = byteLength before ∧ Offers keywords (Text.upper word) candidates

/-! ## The text before the cursor -/

theorem takeBytes?_append (text rest : List Char) :
    takeBytes? (byteLength text) (text ++ rest) = some text := by
  induction text with
  | nil => cases rest <;> rfl
  | cons c text ih =>
    have hfits : c.utf8Size ≤ byteLength (c :: text) := Nat.le_add_right ..
    have hpos : byteLength (c :: text) ≠ 0 :=
      Nat.ne_of_gt (Nat.lt_of_lt_of_le (Char.utf8Size_pos c) hfits)
    rw [List.cons_append, takeBytes?, if_pos hfits, byteLength, Nat.add_sub_cancel_left, ih]
    · rfl
    · exact hpos

theorem offers_beginningWith (table : List String) (text : List Char) :
    Offers table text (beginningWith text table) :=
  ⟨List.filter_sublist, fun name => by
    rw [beginningWith, List.mem_filter, List.isPrefixOf_iff_prefix]⟩

theorem dropBytes?_eq (text : List Char) (place : Nat) :
    dropBytes? place text = (fromByte text place).toOption := by
  induction text generalizing place with
  | nil => cases place <;> rfl
  | cons c rest ih =>
    cases place with
    | zero => rfl
    | succ place =>
      rw [dropBytes?, fromByte, cutBytes]
      · split
        next hfits =>
          rw [ih, fromByte]
          cases cutBytes (place + 1 - c.utf8Size) rest <;> rfl
        next => rfl
      · exact Nat.succ_ne_zero place

theorem dropBytes?_eq_some_iff {text after : List Char} {place : Nat} :
    dropBytes? place text = some after ↔
      ∃ before, text = before ++ after ∧ byteLength before = place := by
  rw [dropBytes?_eq]
  constructor
  · intro h
    cases hread : fromByte text place with
    | error panic =>
      rw [hread] at h
      cases h
    | ok found =>
      rw [hread] at h
      obtain rfl : found = after := Option.some.inj h
      exact eq_append_of_fromByte hread
  · rintro ⟨before, rfl, rfl⟩
    rw [fromByte_byteLength]
    rfl

/-- **One byte after a place** another character begins exactly if the one there is one byte wide. -/
theorem dropBytes?_succ (before : List Char) (mark : Char) (word : List Char) :
    dropBytes? (byteLength before + 1) (before ++ mark :: word) =
      if mark.utf8Size = 1 then some word else none := by
  split
  next hsize =>
    refine dropBytes?_eq_some_iff.2 ⟨before ++ [mark], by simp, ?_⟩
    rw [byteLength_append, byteLength_cons, hsize, byteLength_nil]
  next hwide =>
    refine Option.eq_none_iff_forall_ne_some.2 fun after hdrop => hwide ?_
    obtain ⟨before', happend, hlength⟩ := dropBytes?_eq_some_iff.1 hdrop
    obtain ⟨piece, rfl, hpiece⟩ := eq_append_of_byteLength_le happend (by omega)
    -- the piece is one byte long, and it begins with the mark
    have hbytes : byteLength piece = 1 := by
      rw [byteLength_append] at hlength
      omega
    cases piece with
    | nil => cases hbytes
    | cons c piece =>
      obtain ⟨rfl, -⟩ := List.cons.inj hpiece
      have hpos := Char.utf8Size_pos mark
      rw [byteLength_cons] at hbytes
      omega

/-! ## The last word -/

theorem lastBreak?_eq_none_iff {text : List Char} :
    lastBreak? text = none ↔ ∀ c ∈ text, isBreak c = false := by
  induction text with
  | nil => simp [lastBreak?]
  | cons c text ih =>
    rw [lastBreak?, List.forall_mem_cons, ← ih]
    cases lastBreak? text with
    | none => cases isBreak c <;> simp
    | some place => simp

theorem lastBreak?_append {mark : Char} {word : List Char} (before : List Char)
    (hmark : isBreak mark = true) (hword : ∀ c ∈ word, isBreak c = false) :
    lastBreak? (before ++ mark :: word) = some (byteLength before) := by
  induction before with
  | nil => rw [List.nil_append, lastBreak?, lastBreak?_eq_none_iff.2 hword, if_pos hmark]; rfl
  | cons c before ih => rw [List.cons_append, lastBreak?, ih]; rfl

theorem unbroken_or_exists_break (text : List Char) :
    (∀ c ∈ text, isBreak c = false) ∨
      ∃ before mark word, text = before ++ mark :: word ∧ isBreak mark = true ∧
        ∀ c ∈ word, isBreak c = false := by
  induction text with
  | nil => exact .inl (List.forall_mem_nil _)
  | cons c text ih =>
    obtain hunbroken | ⟨before, mark, word, rfl, hmark, hword⟩ := ih
    · cases hc : isBreak c with
      | false => exact .inl (List.forall_mem_cons.2 ⟨hc, hunbroken⟩)
      | true => exact .inr ⟨[], c, text, rfl, hc, hunbroken⟩
    · exact .inr ⟨c :: before, mark, word, rfl, hmark, hword⟩

theorem isLastWord_of_isBreak (before : List Char) {mark : Char} {word : List Char}
    (hmark : isBreak mark = true) (hword : ∀ c ∈ word, isBreak c = false) :
    IsLastWord (before ++ mark :: word) word := by
  refine ⟨⟨before ++ [mark], by simp⟩, hword, fun other hother hunbroken => ?_⟩
  refine Nat.le_of_not_lt fun hlonger => ?_
  have hsuffix : mark :: word <:+ other :=
    List.suffix_of_suffix_length_le (List.suffix_append before _) hother hlonger
  have hmem : mark ∈ other := hsuffix.subset List.mem_cons_self
  rw [hunbroken mark hmem] at hmark
  cases hmark

theorem isLastWord_self {text : List Char} (h : ∀ c ∈ text, isBreak c = false) :
    IsLastWord text text :=
  ⟨List.suffix_refl text, h, fun _ hother _ => hother.length_le⟩

/-- Whether the last break of a text takes more than one byte. -/
def HasWideBreak (text : List Char) : Prop :=
  ∃ before mark word, text = before ++ mark :: word ∧ isBreak mark = true ∧
    (∀ c ∈ word, isBreak c = false) ∧ mark.utf8Size ≠ 1

/-! ## Completions -/

section Cases

variable {text : List Char} (rest : List Char)

theorem complete?_append : complete? (text ++ rest) (byteLength text) =
    if text.head? == some '.' && !text.any Text.isBlank then
      some (0, beginningWith text dotCommands)
    else
      let start := ((lastBreak? text).map (· + 1)).getD 0
      (dropBytes? start text).map fun word => (start, beginningWith (Text.upper word) keywords) := by
  unfold complete?
  rw [takeBytes?_append]
  dsimp only [Option.bind_eq_bind, Option.bind_some]
  congr 1
  generalize dropBytes? _ text = word
  cases word <;> rfl

theorem isDotCommand_iff :
    (text.head? == some '.' && !text.any Text.isBlank) = true ↔ IsDotCommand text := by
  simp [IsDotCommand]

theorem complete?_of_isDotCommand (h : IsDotCommand text) :
    complete? (text ++ rest) (byteLength text) = some (0, beginningWith text dotCommands) := by
  rw [complete?_append, if_pos (isDotCommand_iff.2 h)]

theorem complete?_of_unbroken (h : ¬ IsDotCommand text) (hbreak : ∀ c ∈ text, isBreak c = false) :
    complete? (text ++ rest) (byteLength text) =
      some (0, beginningWith (Text.upper text) keywords) := by
  rw [complete?_append, if_neg (mt isDotCommand_iff.1 h), lastBreak?_eq_none_iff.2 hbreak]
  cases text <;> rfl

theorem complete?_of_break {before word : List Char} {mark : Char}
    (h : ¬ IsDotCommand (before ++ mark :: word)) (hmark : isBreak mark = true)
    (hword : ∀ c ∈ word, isBreak c = false) :
    complete? (before ++ mark :: word ++ rest) (byteLength (before ++ mark :: word)) =
      if mark.utf8Size = 1 then
        some (byteLength before + 1, beginningWith (Text.upper word) keywords)
      else none := by
  rw [complete?_append, if_neg (mt isDotCommand_iff.1 h), lastBreak?_append before hmark hword]
  dsimp only [Option.map_some, Option.getD_some]
  rw [dropBytes?_succ]
  split <;> rfl

end Cases

theorem completes_of_isDotCommand {text : List Char} (h : IsDotCommand text) :
    Completes text 0 (beginningWith text dotCommands) :=
  ⟨⟨[], text, rfl, rfl⟩, fun _ => ⟨rfl, offers_beginningWith ..⟩, fun hnot => absurd h hnot⟩

theorem completes_of_isLastWord (before : List Char) {word : List Char}
    (h : ¬ IsDotCommand (before ++ word)) (hlast : IsLastWord (before ++ word) word) :
    Completes (before ++ word) (byteLength before) (beginningWith (Text.upper word) keywords) :=
  ⟨⟨before, word, rfl, rfl⟩, fun hdot => absurd hdot h,
    fun _ => ⟨before, word, rfl, hlast, rfl, offers_beginningWith ..⟩⟩

theorem exists_completes {text : List Char} (h : IsDotCommand text ∨ ¬ HasWideBreak text)
    (rest : List Char) : ∃ start candidates,
      complete? (text ++ rest) (byteLength text) = some (start, candidates) ∧
        Completes text start candidates := by
  by_cases hdot : IsDotCommand text
  · exact ⟨_, _, complete?_of_isDotCommand rest hdot, completes_of_isDotCommand hdot⟩
  · obtain hunbroken | ⟨before, mark, word, rfl, hmark, hword⟩ := unbroken_or_exists_break text
    · exact ⟨_, _, complete?_of_unbroken rest hdot hunbroken,
        completes_of_isLastWord [] hdot (isLastWord_self hunbroken)⟩
    · have hsize : mark.utf8Size = 1 := Decidable.byContradiction fun hwide =>
        h.resolve_left hdot ⟨before, mark, word, rfl, hmark, hword, hwide⟩
      have hlast := isLastWord_of_isBreak before hmark hword
      refine ⟨_, _, (complete?_of_break rest hdot hmark hword).trans (if_pos hsize), ?_⟩
      -- the byte after the break is where the last word begins
      rw [List.append_cons] at hdot hlast ⊢
      have hstart : byteLength (before ++ [mark]) = byteLength before + 1 := by
        rw [byteLength_append, byteLength_cons, hsize, byteLength_nil]
      rw [← hstart]
      exact completes_of_isLastWord _ hdot hlast

theorem complete?_of_hasWideBreak {text : List Char} (hdot : ¬ IsDotCommand text)
    (hwide : HasWideBreak text) (rest : List Char) :
    complete? (text ++ rest) (byteLength text) = none := by
  obtain ⟨before, mark, word, rfl, hmark, hword, hsize⟩ := hwide
  rw [complete?_of_break rest hdot hmark hword, if_neg hsize]

/-- **Where completions are as they should be.** At every cursor between two characters a
dot-command, or the last word before the cursor, is completed as it should be, unless that word
follows a break of more than one byte. Then there is no answer. -/
theorem completes_iff (text rest : List Char) :
    let answer? := complete? (text ++ rest) (byteLength text)
    ((∃ start candidates, answer? = some (start, candidates) ∧ Completes text start candidates) ↔
      IsDotCommand text ∨ ¬ HasWideBreak text) ∧
    (answer? = none ↔ ¬ IsDotCommand text ∧ HasWideBreak text) := by
  intro answer?
  by_cases h : IsDotCommand text ∨ ¬ HasWideBreak text
  · obtain ⟨start, candidates, hanswer, hcompletes⟩ := exists_completes h rest
    have hsome : answer? ≠ none := by
      rw [show answer? = some (start, candidates) from hanswer]
      exact Option.some_ne_none _
    exact ⟨iff_of_true ⟨start, candidates, hanswer, hcompletes⟩ h,
      iff_of_false hsome fun hnot => h.elim hnot.1 fun hnarrow => hnarrow hnot.2⟩
  · have hdot : ¬ IsDotCommand text := fun hdot => h (.inl hdot)
    have hwide : HasWideBreak text := Classical.not_not.1 fun hnarrow => h (.inr hnarrow)
    have hanswer : answer? = none := complete?_of_hasWideBreak hdot hwide rest
    refine ⟨iff_of_false ?_ h, iff_of_true hanswer ⟨hdot, hwide⟩⟩
    rintro ⟨_, _, hsome, -⟩
    rw [hanswer] at hsome
    cases hsome

/-- The word after an ideographic space, which takes three bytes, begins at the fourth byte, and two
keywords begin with it. There is no answer. -/
theorem complete?_wide_space :
    let line := ['a', '\u3000', 's', 'e']
    byteLength line = 6 ∧ Completes line 4 ["SELECT", "SET"] ∧ complete? line 6 = none := by
  intro line
  have hdot : ¬ IsDotCommand line := fun h => absurd h.1 (by decide)
  have hlast : IsLastWord line ['s', 'e'] := isLastWord_of_isBreak ['a'] (by decide) (by decide)
  have hright : Completes line 4 (beginningWith (Text.upper ['s', 'e']) keywords) :=
    completes_of_isLastWord ['a', '\u3000'] hdot hlast
  have hcandidates : beginningWith (Text.upper ['s', 'e']) keywords = ["SELECT", "SET"] := by
    decide +kernel
  rw [hcandidates] at hright
  exact ⟨by decide, hright, by decide +kernel⟩

end RecordQuery.Shell
