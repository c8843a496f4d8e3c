import RecordQuery.CommandLine
import RecordQuery.Proofs.Shell.Typing

/-!
# Values that are typed for one bin

The line `.edit` has its arguments between blanks, and all the words from the fifth argument on make up
the value. These words are joined by spaces, so the value is what was typed only if its words were
spaced like that.

* `Text.IsSpacedOnce`: the texts whose words stand one space apart.
  `Text.intercalate_words_eq_self_iff`: these are what their words joined by spaces give.
* `Text.words_intercalate_append`: the words of a line with a text at its end.
* `Shell.submission?_editLine`: the request of the line.
* `Shell.edit_keeps_value_iff`: when it is the request of the same arguments on the command line.
-/

namespace RecordQuery

/-! ## Spacing -/

namespace Text

/-- Whether the words of a text stand one space apart. -/
structure IsSpacedOnce (text : List Char) : Prop where
  spaces : ∀ c ∈ text, isBlank c = true → c = ' '
  apart : text.IsChain fun c d => isBlank c = false ∨ isBlank d = false

instance : DecidablePred IsSpacedOnce := fun text =>
  decidable_of_iff ((∀ c ∈ text, isBlank c = true → c = ' ') ∧
      text.IsChain fun c d => isBlank c = false ∨ isBlank d = false)
    ⟨fun h => ⟨h.1, h.2⟩, fun h => ⟨h.spaces, h.apart⟩⟩

variable {word rest text : List Char} {c : Char}

theorem isSpacedOnce_of_forall (h : ∀ c ∈ word, isBlank c = false) : IsSpacedOnce word := by
  constructor
  · intro c hc hblank
    rw [h c hc] at hblank
    cases hblank
  · exact (List.pairwise_of_forall_mem_list fun c hc _ _ => .inl (h c hc)).isChain

theorem isSpacedOnce_append_cons_iff (hword : ∀ d ∈ word, isBlank d = false)
    (hc : isBlank c = true) :
    IsSpacedOnce (word ++ c :: rest) ↔
      c = ' ' ∧ (∀ d ∈ rest.head?, isBlank d = false) ∧ IsSpacedOnce rest := by
  constructor
  · intro h
    have hspaces := List.forall_mem_cons.1 (List.forall_mem_append.1 h.spaces).2
    have hapart := List.isChain_cons.1 (List.isChain_append.1 h.apart).2.1
    refine ⟨hspaces.1 hc, fun d hd => ?_, hspaces.2, hapart.2⟩
    exact (hapart.1 d hd).resolve_left (by simp [hc])
  · rintro ⟨rfl, hhead, hrest⟩
    have hfirst := isSpacedOnce_of_forall hword
    constructor
    · exact List.forall_mem_append.2
        ⟨hfirst.spaces, List.forall_mem_cons.2 ⟨fun _ => rfl, hrest.spaces⟩⟩
    · refine List.isChain_append.2 ⟨hfirst.apart, ?_, fun d hd _ _ => ?_⟩
      · exact List.isChain_cons.2 ⟨fun d hd => .inr (hhead d hd), hrest.apart⟩
      · exact .inl (hword d (List.mem_of_getLast? hd))

/-- What holds of texts without blanks, and of a text if of what stands after its first blank, holds of
every text. -/
theorem words_induction {motive : List Char → Prop}
    (word : ∀ word, (∀ c ∈ word, isBlank c = false) → motive word)
    (blank : ∀ word c rest, (∀ d ∈ word, isBlank d = false) → isBlank c = true → motive rest →
      motive (word ++ c :: rest)) (text : List Char) : motive text := by
  -- the part of a word that was met so far is kept in front
  suffices h : ∀ front, (∀ c ∈ front, isBlank c = false) → motive (front ++ text) from
    h [] (List.forall_mem_nil _)
  induction text with
  | nil =>
    intro front hfront
    rw [List.append_nil]
    exact word front hfront
  | cons c rest ih =>
    intro front hfront
    cases hc : isBlank c with
    | true => exact blank front c rest hfront hc (ih [] (List.forall_mem_nil _))
    | false =>
      rw [List.append_cons]
      exact ih (front ++ [c]) (List.forall_mem_append.2 ⟨hfront, List.forall_mem_singleton.2 hc⟩)

theorem words_ne_nil (hc : c ∈ text) (hblank : isBlank c = false) : words text ≠ [] := by
  induction text using words_induction with
  | word word hword => simp [words_eq_singleton (List.ne_nil_of_mem hc) hword]
  | blank word d rest hword hd ih =>
    rw [words_append_cons hd]
    obtain hfirst | hrest := List.mem_append.1 hc
    · simp [words_eq_singleton (List.ne_nil_of_mem hfirst) hword]
    · obtain rfl | hrest := List.mem_cons.1 hrest
      · rw [hblank] at hd
        cases hd
      · simp [ih hrest]

theorem ne_nil_and_forall_of_mem_words (h : word ∈ words text) :
    word ≠ [] ∧ ∀ c ∈ word, isBlank c = false := by
  obtain ⟨hmem, hne⟩ := List.mem_filter.1 h
  exact ⟨by simpa using hne, eq_false_of_mem_splitOnP hmem⟩

theorem isBlank_of_mem_head?_intercalate_words (text : List Char) :
    ∀ c ∈ (List.intercalate [' '] (words text)).head?, isBlank c = false := by
  cases hwords : words text with
  | nil => exact nofun
  | cons word others =>
    have hmem : word ∈ words text := hwords ▸ List.mem_cons_self
    obtain ⟨hne, hunbroken⟩ := ne_nil_and_forall_of_mem_words hmem
    obtain ⟨first, word, rfl⟩ := List.exists_cons_of_ne_nil hne
    have hhead : (List.intercalate [' '] ((first :: word) :: others)).head? = some first := by
      cases others with
      | nil => rfl
      | cons second others => rw [List.intercalate_cons_cons]; rfl
    rw [hhead]
    rintro _ ⟨⟩
    exact hunbroken first List.mem_cons_self

theorem intercalate_words_of_forall (h : ∀ c ∈ word, isBlank c = false) :
    List.intercalate [' '] (words word) = word := by
  cases word with
  | nil => rw [words_nil]; rfl
  | cons c word => rw [words_eq_singleton (List.cons_ne_nil _ _) h, List.intercalate_singleton]

theorem intercalate_words_append_cons (hne : word ≠ []) (hword : ∀ d ∈ word, isBlank d = false)
    (hc : isBlank c = true) (hrest : words rest ≠ []) :
    List.intercalate [' '] (words (word ++ c :: rest)) =
      word ++ ' ' :: List.intercalate [' '] (words rest) := by
  rw [words_append hne hword hc]
  obtain ⟨second, others, hwords⟩ := List.exists_cons_of_ne_nil hrest
  rw [hwords, List.intercalate_cons_cons, List.append_assoc]
  rfl

theorem exists_getLast?_of_append_cons (hc : isBlank c = true)
    (hlast : ∀ d ∈ (word ++ c :: rest).getLast?, isBlank d = false) :
    ∃ last, rest.getLast? = some last ∧ isBlank last = false := by
  rw [List.getLast?_append, List.getLast?_cons, Option.some_or] at hlast
  cases hrest : rest.getLast? with
  | none =>
    rw [hrest] at hlast
    rw [hlast c rfl] at hc
    cases hc
  | some last =>
    rw [hrest] at hlast
    exact ⟨last, rfl, hlast last rfl⟩

theorem intercalate_words_eq_self_iff_of_getLast? (text : List Char)
    (hlast : ∀ c ∈ text.getLast?, isBlank c = false) :
    List.intercalate [' '] (words text) = text ↔
      (∀ c ∈ text.head?, isBlank c = false) ∧ IsSpacedOnce text := by
  induction text using words_induction with
  | word word hword =>
    refine iff_of_true (intercalate_words_of_forall hword) ⟨fun c hc => ?_, ?_⟩
    · exact hword c (List.mem_of_mem_head? hc)
    · exact isSpacedOnce_of_forall hword
  | blank word c rest hword hc ih =>
    cases word with
    | nil =>
      -- a blank at the start is lost
      refine iff_of_false (fun hjoined => ?_) fun h => ?_
      · have hhead := isBlank_of_mem_head?_intercalate_words ([] ++ c :: rest) c (by rw [hjoined]; rfl)
        rw [hc] at hhead
        cases hhead
      · rw [h.1 c rfl] at hc
        cases hc
    | cons first word =>
      obtain ⟨last, hlast, hblank⟩ := exists_getLast?_of_append_cons hc hlast
      have hwords := words_ne_nil (List.mem_of_getLast? hlast) hblank
      have hhead : ∀ d ∈ ((first :: word) ++ c :: rest).head?, isBlank d = false := by
        rintro _ ⟨⟩
        exact hword first List.mem_cons_self
      have hrest : ∀ d ∈ rest.getLast?, isBlank d = false := by
        rw [hlast]
        rintro _ ⟨⟩
        exact hblank
      rw [intercalate_words_append_cons (List.cons_ne_nil _ _) hword hc hwords,
        List.append_cancel_left_eq, List.cons_eq_cons, isSpacedOnce_append_cons_iff hword hc,
        and_iff_right hhead, eq_comm (a := ' ')]
      exact and_congr_right fun _ => ih hrest

/-- **Joining the words of a text by spaces gives the text back** exactly if they stand one space apart
in it. -/
theorem intercalate_words_eq_self_iff (h : trim text = text) :
    List.intercalate [' '] (words text) = text ↔ IsSpacedOnce text := by
  have hhead : ∀ c ∈ text.head?, isBlank c = false := by
    intro c hc
    rw [← h, trim, ← trimStart_trimEnd] at hc
    obtain ⟨rest, hrest⟩ := List.head?_eq_some_iff.1 hc
    exact isBlank_of_trimStart_eq_cons hrest
  have hlast : ∀ c ∈ text.getLast?, isBlank c = false := by
    intro c hc
    obtain hnil | ⟨init, last, htext, hlast⟩ := trim_cases text
    · rw [← h, hnil] at hc
      cases hc
    · rw [← h, htext, List.getLast?_concat] at hc
      obtain rfl := Option.some.inj hc
      exact hlast
  rw [intercalate_words_eq_self_iff_of_getLast? text hlast, and_iff_right hhead]

theorem words_intercalate_append {line : List (List Char)}
    (hline : ∀ word ∈ line, word ≠ [] ∧ ∀ c ∈ word, isBlank c = false) (text : List Char) :
    words (List.intercalate [' '] (line ++ [text])) = line ++ words text := by
  induction line with
  | nil => rw [List.nil_append, List.intercalate_singleton, List.nil_append]
  | cons word line ih =>
    obtain ⟨⟨hne, hword⟩, hline⟩ := List.forall_mem_cons.1 hline
    obtain ⟨second, others, hothers⟩ := List.exists_cons_of_ne_nil
      (List.append_ne_nil_of_right_ne_nil line (List.cons_ne_nil text []))
    rw [List.cons_append, hothers, List.intercalate_cons_cons, List.append_assoc, List.singleton_append,
      words_append hne hword (by decide), ← hothers, ih hline]
    rfl

end Text

/-! ## The line -/

namespace Shell

def editLine (space set user bin value : String) : List Char :=
  (" ".intercalate [".edit", space, set, user, bin, value]).toList

theorem feed_dotCommand {front : List Char} {last : Char} (hlast : Text.isBlank last = false) :
    feed [] ('.' :: (front ++ [last])) = .dotCommand ('.' :: (front ++ [last])) := by
  unfold feed
  rw [Text.trim_enclosed (by decide) hlast front]
  rfl

section Words

variable {space set user bin value : String}
  (hwords : ∀ word ∈ [space, set, user, bin], word ≠ "" ∧ ∀ c ∈ word.toList, Text.isBlank c = false)
include hwords

theorem words_editLine :
    Text.words (editLine space set user bin value) =
      [".edit", space, set, user, bin].map String.toList ++ Text.words value.toList := by
  have hline : ∀ word ∈ [".edit", space, set, user, bin].map String.toList,
      word ≠ [] ∧ ∀ c ∈ word, Text.isBlank c = false := by
    rw [List.forall_mem_map, List.forall_mem_cons]
    refine ⟨by decide, fun word hmem => ?_⟩
    obtain ⟨hne, hword⟩ := hwords word hmem
    exact ⟨by simpa using hne, hword⟩
  rw [← Text.words_intercalate_append hline, editLine, String.toList_intercalate]
  rfl

theorem parse_editLine (hvalue : Text.words value.toList ≠ []) :
    DotCommand.parse (editLine space set user bin value) =
      .run (.editBin ⟨space, set, user⟩ bin
        (String.ofList (List.intercalate [' '] (Text.words value.toList)))) := by
  have hjoined : String.ofList (List.intercalate [' '] (Text.words value.toList)) =
      " ".intercalate ((Text.words value.toList).map String.ofList) := by
    rw [← String.toList_inj, String.toList_intercalate, String.toList_ofList, List.map_map]
    simp [Function.comp_def]
  obtain ⟨first, others, hvalue⟩ := List.exists_cons_of_ne_nil hvalue
  rw [hjoined, DotCommand.parse, words_editLine hwords, hvalue]
  simp [DotCommand.ofWords]

/-- **The line is submitted at once**, as the edit of its value. -/
theorem submission?_editLine {init : List Char} {last : Char} (hvalue : value.toList = init ++ [last])
    (hlast : Text.isBlank last = false) :
    submission? [] (editLine space set user bin value) =
      some (.editBin ⟨space, set, user⟩ bin
        (String.ofList (List.intercalate [' '] (Text.words value.toList)))) := by
  have hmem : last ∈ value.toList := by simp [hvalue]
  have hparse := parse_editLine hwords (Text.words_ne_nil hmem hlast)
  obtain ⟨front, hfront⟩ :
      ∃ front, editLine space set user bin value = '.' :: (front ++ [last]) := by
    refine ⟨"edit ".toList ++ space.toList ++ ' ' :: set.toList ++ ' ' :: user.toList ++
      ' ' :: bin.toList ++ ' ' :: init, ?_⟩
    simp [editLine, hvalue]
  rw [hfront] at hparse ⊢
  rw [submission?, feed_dotCommand hlast]
  dsimp only
  rw [hparse]

end Words

/-- **When a value arrives as it was typed.** The line `.edit` with four words and a value, one space
apart, is submitted as the edit of that record and bin. Its value is the words of the value that was
typed, joined by spaces. The command line passes a value on as it is, so both make the same request
exactly if every blank in the value is a space and no two blanks in it stand next to each other. -/
theorem edit_keeps_value_iff (space set user bin value : String)
    (hwords : ∀ word ∈ [space, set, user, bin],
      word ≠ "" ∧ ∀ c ∈ word.toList, Text.isBlank c = false)
    (hne : value ≠ "") (htrim : Text.trim value.toList = value.toList) :
    let line := (" ".intercalate [".edit", space, set, user, bin, value]).toList
    let raw := String.ofList (List.intercalate [' '] (Text.words value.toList))
    DotCommand.parse line = .run (.editBin ⟨space, set, user⟩ bin raw) ∧
      submission? [] line = some (.editBin ⟨space, set, user⟩ bin raw) ∧
      Task.ofWords? ["edit", space, set, user, bin, value] =
        some (.request (.editBin ⟨space, set, user⟩ bin value)) ∧
      (raw = value ↔ Text.IsSpacedOnce value.toList) := by
  intro line raw
  obtain ⟨init, last, hvalue, hlast⟩ :
      ∃ init last, value.toList = init ++ [last] ∧ Text.isBlank last = false := by
    rw [← htrim]
    refine (Text.trim_cases value.toList).resolve_left fun hnil => hne ?_
    rwa [htrim, String.toList_eq_nil_iff] at hnil
  have hmem : last ∈ value.toList := by simp [hvalue]
  refine ⟨?_, submission?_editLine hwords hvalue hlast, rfl, ?_⟩
  · exact parse_editLine hwords (Text.words_ne_nil hmem hlast)
  · rw [← Text.intercalate_words_eq_self_iff htrim, ← String.toList_inj, String.toList_ofList]

/-- A value with single spaces arrives as it was typed. -/
theorem edit_keeps_value_name :
    let line := ".edit test users u1 name John Doe".toList
    DotCommand.parse line = .run (.editBin ⟨"test", "users", "u1"⟩ "name" "John Doe") ∧
      submission? [] line = some (.editBin ⟨"test", "users", "u1"⟩ "name" "John Doe") := by
  obtain ⟨hparse, hsubmitted, -, hkept⟩ := edit_keeps_value_iff "test" "users" "u1" "name" "John Doe"
    (by decide) (by decide) (by decide)
  rw [hkept.2 (by decide)] at hparse hsubmitted
  exact ⟨hparse, hsubmitted⟩

/-- Two spaces in a value arrive as one. -/
theorem edit_joins_spaces :
    let line := ".edit test users u1 name a  b".toList
    DotCommand.parse line = .run (.editBin ⟨"test", "users", "u1"⟩ "name" "a b") ∧
      DotCommand.parse line ≠ .run (.editBin ⟨"test", "users", "u1"⟩ "name" "a  b") ∧
      Task.ofWords? ["edit", "test", "users", "u1", "name", "a  b"] =
        some (.request (.editBin ⟨"test", "users", "u1"⟩ "name" "a  b")) := by
  decide +kernel

end Shell

end RecordQuery
