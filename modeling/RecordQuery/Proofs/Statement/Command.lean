import RecordQuery.Proofs.Statement.Shape
import RecordQuery.Proofs.Token.Replacing

/-!
# The command of a text

The command of a text is that of its first word. What is dropped at the ends of a statement does not
count, if there is a statement: then its first word ends at a blank.

* `Command.ofKeyword?_upper_eq_none`: no keyword has a mark in it.
* `Statement.exists_second_token`: a statement has more tokens than its command.
* `Command.classify_of_parse`: a text that reads as a statement has the command of the statement.
-/

namespace RecordQuery

/-! ## The first word -/

theorem Command.ofKeyword?_upper_eq_none {word : List Char} {c : Char} (hc : isMark c = true)
    (h : c ∈ word) : Command.ofKeyword? (String.ofList (Text.upper word)) = none := by
  have hupper : c ∈ Text.upperChar c := by
    simp only [isMark, Bool.or_eq_true, beq_iff_eq] at hc
    obtain (((rfl | rfl) | rfl) | rfl) | rfl := hc
    all_goals decide +kernel
  have hmem : c ∈ (String.ofList (Text.upper word)).toList := by
    rw [String.toList_ofList]
    exact List.mem_flatMap.2 ⟨c, h, hupper⟩
  have hne : ∀ keyword : String, (∀ d ∈ keyword.toList, isMark d = false) →
      String.ofList (Text.upper word) ≠ keyword := by
    rintro keyword hkeyword rfl
    rw [hkeyword c hmem] at hc
    exact Bool.false_ne_true hc
  unfold Command.ofKeyword?
  rw [if_neg (hne _ (by decide)), if_neg (hne _ (by decide)), if_neg (hne _ (by decide)),
    if_neg (hne _ (by decide))]

theorem exists_words_eq_cons {text : List Char} (hne : text ≠ [])
    (hstart : ∀ c ∈ text.head?, Text.isBlank c = false) :
    ∃ others, Text.words text = text.takeWhile (fun c => !Text.isBlank c) :: others := by
  obtain ⟨c, rest, rfl⟩ := List.exists_cons_of_ne_nil hne
  have hc : Text.isBlank c = false := hstart c rfl
  have hsplit := List.takeWhile_append_dropWhile (p := fun c => !Text.isBlank c) (l := c :: rest)
  have hword : (c :: rest).takeWhile (fun c => !Text.isBlank c) ≠ [] := by
    simp [hc]
  have hall : ∀ d ∈ (c :: rest).takeWhile (fun c => !Text.isBlank c), Text.isBlank d = false := by
    intro d hd
    simpa using List.all_eq_true.1 List.all_takeWhile d hd
  cases hrest : (c :: rest).dropWhile (fun c => !Text.isBlank c) with
  | nil =>
    rw [hrest, List.append_nil] at hsplit
    refine ⟨[], ?_⟩
    rw [hsplit] at hall ⊢
    exact Text.words_eq_singleton hne hall
  | cons d tail =>
    have hd : Text.isBlank d = true := by
      have hhead := List.head?_dropWhile_not (fun c => !Text.isBlank c) (c :: rest)
      rw [hrest] at hhead
      simpa using hhead
    refine ⟨Text.words tail, ?_⟩
    rw [hrest] at hsplit
    conv_lhs => rw [← hsplit]
    exact Text.words_append hword hall hd tail

theorem head?_trimStart (text : List Char) :
    ∀ c ∈ (Text.trimStart text).head?, Text.isBlank c = false := by
  intro c hc
  obtain ⟨rest, hrest⟩ := List.head?_eq_some_iff.1 hc
  exact Text.isBlank_of_trimStart_eq_cons hrest

theorem exists_append_normalize (text : List Char) :
    ∃ gap cut, text = gap ++ (normalize text ++ cut) ∧ ∀ c ∈ gap, Text.isBlank c = true := by
  obtain ⟨gap, htext, hgap⟩ := Text.exists_append_trimStart text
  obtain ⟨cut, hcut⟩ := exists_normalizeEnd_append (Text.trimStart text)
  exact ⟨gap, cut, by rw [normalize_eq, ← hcut, ← htext], hgap⟩

theorem head?_normalize (text : List Char) :
    ∀ c ∈ (normalize text).head?, Text.isBlank c = false := by
  intro c hc
  obtain ⟨cut, hcut⟩ := exists_normalizeEnd_append (Text.trimStart text)
  refine head?_trimStart text c ?_
  rw [hcut, ← normalize_eq, List.head?_append, Option.mem_def.1 hc]
  rfl

theorem Command.classify_congr {gap word rest rest' : List Char} {c : Char}
    (hgap : ∀ d ∈ gap, Text.isBlank d = true) (hne : word ≠ [])
    (hword : ∀ d ∈ word, Text.isBlank d = false) (hc : Text.isBlank c = true) :
    Command.classify (gap ++ (word ++ c :: rest)) = Command.classify (word ++ c :: rest') := by
  unfold Command.classify
  rw [Text.words_gap_append hgap, Text.words_append hne hword hc, Text.words_append hne hword hc]

/-! ## The end of the first word -/

theorem Statement.exists_second_token {clause : Clause} {command : Command} {s : Statement}
    (h : Statement.ofClause command clause = .ok s) : ∃ t, clause[1]? = some t := by
  cases command with
  | select =>
    obtain ⟨select, hselect, -⟩ := map_eq_ok_iff.1 h
    obtain ⟨start, -, hprojection, -⟩ := SelectStatement.ofClause_eq_ok_iff.1 hselect
    cases hsecond : clause[1]? with
    | some t => exact ⟨t, rfl⟩
    | none =>
      -- the bins to show would stand there
      have hlength : (clause.take start).length ≤ 1 :=
        Nat.le_trans (List.length_take_le' ..) (List.getElem?_eq_none_iff.1 hsecond)
      rw [Clause.slice, List.drop_eq_nil_of_le hlength] at hprojection
      cases hprojection
  | insert =>
    obtain ⟨insert, hinsert, -⟩ := map_eq_ok_iff.1 h
    have hinto := (InsertStatement.ofClause_eq_ok_iff.1 hinsert).1
    obtain ⟨t, ht, -⟩ := (Option.any_eq_true _ _).1 hinto
    exact ⟨t, ht⟩
  | delete =>
    obtain ⟨delete, hdelete, -⟩ := map_eq_ok_iff.1 h
    have hfrom := (DeleteStatement.ofClause_eq_ok_iff.1 hdelete).1
    obtain ⟨t, ht, -⟩ := (Option.any_eq_true _ _).1 hfrom
    exact ⟨t, ht⟩
  | update =>
    obtain ⟨update, hupdate, -⟩ := map_eq_ok_iff.1 h
    obtain ⟨⟨word, hword, -⟩, -⟩ := UpdateStatement.ofClause_eq_ok_iff.1 hupdate
    obtain ⟨t, ht, -⟩ := Option.bind_eq_some_iff.1 (Option.filter_eq_some_iff.1 hword).1
    exact ⟨t, ht⟩

theorem tokenize_of_isWordChar {text : List Char} (h : ∀ c ∈ text, isWordChar c = true) :
    (tokenize text)[1]? = none := by
  by_cases hne : text = []
  · rw [hne, tokenize_of_blank (List.forall_mem_nil _)]
    rfl
  · have hfits : Token.Fits [] ⟨[], .word text⟩ :=
      ⟨List.forall_mem_nil _, ⟨hne, h⟩, fun c hc => by cases hc⟩
    have hword := tokenize_append hfits
    rw [tokenize_of_blank (List.forall_mem_nil _)] at hword
    simp only [Token.chars, Lexeme.chars, List.nil_append, List.append_nil] at hword
    rw [hword]
    rfl

/-- **The first word of a statement ends at a blank.** Without one the text is its first word, and a
word with a mark in it is no keyword. -/
theorem Command.exists_blank_of_classify {text : List Char} {command : Command}
    (hstart : ∀ c ∈ text.head?, Text.isBlank c = false)
    (hclassify : Command.classify text = .ok command) (hsecond : ∃ t, (tokenize text)[1]? = some t) :
    ∃ word c rest, text = word ++ c :: rest ∧ word ≠ [] ∧
      (∀ d ∈ word, Text.isBlank d = false) ∧ Text.isBlank c = true := by
  have hne : text ≠ [] := by
    rintro rfl
    cases hclassify
  obtain ⟨first, tail, rfl⟩ := List.exists_cons_of_ne_nil hne
  have hfirst : Text.isBlank first = false := hstart first rfl
  have hsplit := List.takeWhile_append_dropWhile (p := fun c => !Text.isBlank c) (l := first :: tail)
  have hword : ∀ d ∈ (first :: tail).takeWhile (fun c => !Text.isBlank c), Text.isBlank d = false := by
    intro d hd
    simpa using List.all_eq_true.1 List.all_takeWhile d hd
  cases hrest : (first :: tail).dropWhile (fun c => !Text.isBlank c) with
  | cons c rest =>
    rw [hrest] at hsplit
    refine ⟨_, c, rest, hsplit.symm, by simp [hfirst], hword, ?_⟩
    have hhead := List.head?_dropWhile_not (fun c => !Text.isBlank c) (first :: tail)
    rw [hrest] at hhead
    simpa using hhead
  | nil =>
    rw [hrest, List.append_nil] at hsplit
    rw [hsplit] at hword
    -- two tokens without a blank: one of them has a mark
    obtain ⟨c, hc, hmark⟩ : ∃ c ∈ first :: tail, isMark c = true := by
      by_contra hnone
      obtain ⟨t, ht⟩ := hsecond
      rw [tokenize_of_isWordChar fun c hc => ?_] at ht
      · cases ht
      · have hunmarked : isMark c = false := eq_false_of_ne_true fun h => hnone ⟨c, hc, h⟩
        simp [isWordChar, hword c hc, hunmarked]
    unfold Command.classify at hclassify
    rw [Text.words_eq_singleton (List.cons_ne_nil _ _) hword] at hclassify
    dsimp only at hclassify
    rw [Command.ofKeyword?_upper_eq_none hmark hc] at hclassify
    cases hclassify

/-- **A text that reads as a statement has the command of the statement**, whatever is dropped at its
two ends. -/
theorem Command.classify_of_parse {text : List Char} {s : Statement}
    (h : Statement.parse text = .ok s) : Command.classify text = .ok s.command := by
  obtain ⟨hclassify, hclause⟩ := Statement.parse_eq_ok_iff.1 h
  obtain ⟨word, c, rest, hnormal, hne, hword, hc⟩ := Command.exists_blank_of_classify
    (head?_normalize text) hclassify (Statement.exists_second_token hclause)
  obtain ⟨gap, cut, htext, hgap⟩ := exists_append_normalize text
  rw [htext, hnormal, List.append_assoc, List.cons_append]
  rw [hnormal] at hclassify
  rw [← hclassify]
  exact Command.classify_congr hgap hne hword hc

end RecordQuery
