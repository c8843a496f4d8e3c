import RecordQuery.Proofs.Clause.Nesting
import RecordQuery.Proofs.Statement.Command

/-!
# How statements open

The first tokens of a statement are its command and, for all but selections, the name of a set.

* `Token.IsCommand`, `Command.classify_normalize_iff`: the command of a text is that of its first
  token, if a word comes next.
* `Token.IsTarget`, `Clause.isTargetAt_iff`: the name of a set is a word of two parts.
-/

namespace RecordQuery

/-! ## Commands -/

def Token.IsCommand (command : Command) (t : Token) : Prop :=
  ∃ word, t.lexeme = .word word ∧ Command.classify word = .ok command

theorem Token.IsCommand.kind {t : Token} {command : Command} (h : t.IsCommand command) :
    t.kind = .word := by
  obtain ⟨word, hlexeme, -⟩ := h
  rw [Token.kind, hlexeme]
  rfl

theorem Lexeme.isBlank_of_isProper {word : List Char} (h : (Lexeme.word word).IsProper) :
    ∀ c ∈ word, Text.isBlank c = false :=
  fun c hc => isBlank_of_isWordChar (h.2 c hc)

namespace Command

variable {word : List Char} {command : Command}

theorem classify_word (hne : word ≠ []) (hword : ∀ c ∈ word, Text.isBlank c = false) :
    classify word = .ok command ↔
      ofKeyword? (String.ofList (Text.upper word)) = some command := by
  unfold classify
  rw [Text.words_eq_singleton hne hword]
  dsimp only
  cases ofKeyword? (String.ofList (Text.upper word)) with
  | none => simp
  | some found => simp

theorem classify_append {c : Char} (hne : word ≠ []) (hword : ∀ d ∈ word, Text.isBlank d = false)
    (hc : Text.isBlank c = true) (rest : List Char) :
    classify (word ++ c :: rest) = classify word := by
  unfold classify
  rw [Text.words_append hne hword hc, Text.words_eq_singleton hne hword]

theorem isProper_of_classify (hne : word ≠ []) (hword : ∀ c ∈ word, Text.isBlank c = false)
    (h : classify word = .ok command) : (Lexeme.word word).IsProper := by
  refine ⟨hne, fun c hc => ?_⟩
  have hmark : isMark c = false := by
    by_contra hmark
    have hnone := ofKeyword?_upper_eq_none (Bool.of_not_eq_false hmark) hc
    rw [(classify_word hne hword).1 h] at hnone
    cases hnone
  simp [isWordChar, hword c hc, hmark]

end Command

theorem exists_blank_of_word {text word : List Char} {first second : Token} {others : List Token}
    (h : tokenize text = first :: second :: others) (hfirst : first.lexeme = .word word)
    (hsecond : second.kind = .word) :
    ∃ c rest, text = first.gap ++ (word ++ c :: rest) ∧ Text.isBlank c = true ∧
      ∀ d ∈ first.gap, Text.isBlank d = true := by
  obtain ⟨next, rfl, hfits, hnext⟩ := tokenize_eq_cons_iff.1 h
  obtain ⟨tail, rfl, hnextFits, -⟩ := tokenize_eq_cons_iff.1 hnext
  have hend := hfits.ends
  rw [hfirst] at hend
  obtain ⟨gap, lexeme⟩ := second
  cases gap with
  | nil =>
    -- without a blank the two words would be one
    cases lexeme with
    | word text =>
      obtain ⟨hne, hall⟩ := hnextFits.proper
      obtain ⟨d, chars, rfl⟩ := List.exists_cons_of_ne_nil hne
      have hword : isWordChar d = false := hend d rfl
      rw [hall d List.mem_cons_self] at hword
      cases hword
    | quoted body closed => cases hsecond
    | comma | equals | leftParen | rightParen => cases hsecond
  | cons c gap =>
    refine ⟨c, gap ++ Token.chars ⟨c :: gap, lexeme⟩ ++ tail, ?_, ?_, hfits.gap⟩
    · simp [Token.chars, hfirst, Lexeme.chars]
    · exact hnextFits.gap c List.mem_cons_self

theorem Command.exists_word_of_classify {text : List Char} {first second : Token}
    {others : List Token} (h : tokenize (normalize text) = first :: second :: others)
    {command : Command} (hclassify : Command.classify (normalize text) = .ok command) :
    ∃ word, (Text.words (normalize text)).head? = some word ∧ first.lexeme = .word word ∧
      Command.classify word = .ok command := by
  obtain ⟨word, c, rest, htext, hne, hword, hc⟩ := Command.exists_blank_of_classify
    (head?_normalize text) hclassify ⟨second, by rw [h]; rfl⟩
  rw [htext, classify_append hne hword hc] at hclassify
  have hfits : Token.Fits (c :: rest) ⟨[], .word word⟩ :=
    ⟨List.forall_mem_nil _, isProper_of_classify hne hword hclassify,
      Lexeme.endsBefore_blank (fun body => Lexeme.noConfusion) (by simpa using hc)⟩
  have htokens := tokenize_append hfits
  simp only [Token.chars, Lexeme.chars, List.nil_append] at htokens
  rw [htext, htokens] at h
  obtain ⟨rfl, -⟩ := List.cons.inj h
  refine ⟨word, ?_, rfl, hclassify⟩
  rw [htext, Text.words_append hne hword hc]
  rfl

theorem Command.classify_of_head?_words {text word : List Char}
    (hstart : ∀ c ∈ text.head?, Text.isBlank c = false)
    (h : (Text.words text).head? = some word) :
    Command.classify text = Command.classify word := by
  have hne : text ≠ [] := by
    rintro rfl
    cases h
  obtain ⟨others, hwords⟩ := exists_words_eq_cons hne hstart
  rw [hwords] at h
  obtain rfl := Option.some.inj h
  have hword : text.takeWhile (fun c => !Text.isBlank c) ≠ [] := by
    obtain ⟨c, rest, rfl⟩ := List.exists_cons_of_ne_nil hne
    simp [hstart c rfl]
  have hall : ∀ c ∈ text.takeWhile (fun c => !Text.isBlank c), Text.isBlank c = false := by
    intro c hc
    simpa using List.all_eq_true.1 List.all_takeWhile c hc
  unfold classify
  rw [hwords, Text.words_eq_singleton hword hall]

/-- **The command of a text is that of its first token**, if a word comes next. -/
theorem Command.classify_normalize_iff {text : List Char} {first second : Token}
    {others : List Token} (h : tokenize (normalize text) = first :: second :: others)
    (hsecond : second.kind = .word) {command : Command} :
    Command.classify (normalize text) = .ok command ↔ first.IsCommand command := by
  constructor
  · intro hclassify
    obtain ⟨word, -, hfirst, hclassify⟩ := exists_word_of_classify h hclassify
    exact ⟨word, hfirst, hclassify⟩
  · rintro ⟨word, hfirst, hclassify⟩
    have hproper := isProper_of_mem_tokenize (h ▸ List.mem_cons_self)
    rw [hfirst] at hproper
    obtain ⟨c, rest, htext, hc, hgap⟩ := exists_blank_of_word h hfirst hsecond
    rw [htext, classify_congr hgap hproper.1 (Lexeme.isBlank_of_isProper hproper) hc,
      classify_append hproper.1 (Lexeme.isBlank_of_isProper hproper) hc]
    · exact hclassify
    · exact []

theorem Token.isKeyword_eq_false_of_isCommand {t : Token} {command : Command}
    (h : t.IsCommand command) (hproper : t.lexeme.IsProper) {keyword : String}
    (hascii : ∀ c ∈ keyword.toList, c.val < 0x80)
    (hnone : Command.ofKeyword? (String.ofList (keyword.toList.map Char.toUpper)) = none) :
    t.isKeyword keyword = false := by
  obtain ⟨word, hlexeme, hclassify⟩ := h
  rw [hlexeme] at hproper
  rw [Command.classify_word hproper.1 (Lexeme.isBlank_of_isProper hproper)] at hclassify
  rw [Token.isKeyword_eq, hlexeme]
  by_contra hkeyword
  rw [Text.upper_of_equalIgnoringCase hascii (Bool.of_not_eq_false hkeyword), hnone] at hclassify
  cases hclassify

/-! ## Targets -/

/-- **The name of a set is two parts with one point between them**, and neither part is empty. -/
theorem SetName.parse?_eq_some_iff {word : List Char} {target : SetName} :
    SetName.parse? word = some target ↔
      CutOnce (· == '.') word target.space.toList target.set.toList ∧
        target.space ≠ "" ∧ target.set ≠ "" := by
  rw [← splitOnP_eq_pair_iff]
  unfold SetName.parse? List.splitOn
  constructor
  · intro h
    split at h
    next space set hparts =>
      split at h
      next => cases h
      next hne =>
        cases h
        simp only [Bool.or_eq_true, List.isEmpty_iff, not_or] at hne
        simp [hparts, hne]
    next => cases h
  · rintro ⟨hparts, hspace, hset⟩
    rw [hparts]
    simp [hspace, hset, String.ofList_toList]

def Token.IsTarget (target : SetName) (t : Token) : Prop :=
  ∃ word, t.lexeme = .word word ∧
    CutOnce (· == '.') word target.space.toList target.set.toList ∧
    target.space ≠ "" ∧ target.set ≠ ""

theorem Token.IsTarget.kind {t : Token} {target : SetName} (h : t.IsTarget target) :
    t.kind = .word := by
  obtain ⟨word, hlexeme, -⟩ := h
  rw [Token.kind, hlexeme]
  rfl

theorem Token.IsTarget.contains {t : Token} {target : SetName} (h : t.IsTarget target) :
    ∃ word, t.lexeme = .word word ∧ '.' ∈ word := by
  obtain ⟨word, hlexeme, ⟨mark, rfl, hmark, -⟩, -⟩ := h
  obtain rfl := eq_of_beq hmark
  exact ⟨_, hlexeme, by simp⟩

theorem Token.IsTarget.isKeyword_eq_false {t : Token} {target : SetName} (h : t.IsTarget target)
    {keyword : String} (hkeyword : ∀ c ∈ keyword.toList, c.isAlpha = true) :
    t.isKeyword keyword = false := by
  obtain ⟨word, hlexeme, hdot⟩ := h.contains
  rw [Token.isKeyword_eq, hlexeme]
  exact Text.equalIgnoringCase_eq_false_of_mem hkeyword hdot (by decide)

theorem Clause.isTargetAt_iff {tokens : Clause} {position : Nat} {target : SetName} :
    tokens.IsTargetAt position target ↔ ∃ t, tokens[position]? = some t ∧ t.IsTarget target := by
  unfold Clause.IsTargetAt Clause.dottedWordAt? Clause.wordAt?
  constructor
  · rintro ⟨word, hword, htarget⟩
    obtain ⟨hat, -⟩ := Option.filter_eq_some_iff.1 hword
    obtain ⟨t, ht, hread⟩ := Option.bind_eq_some_iff.1 hat
    unfold Token.word? at hread
    split at hread
    next text hlexeme =>
      obtain rfl := Option.some.inj hread
      exact ⟨t, ht, text, hlexeme, SetName.parse?_eq_some_iff.1 htarget⟩
    next => cases hread
  · rintro ⟨t, ht, htarget⟩
    obtain ⟨word, hlexeme, hdot⟩ := htarget.contains
    obtain ⟨word', hlexeme', hparts⟩ := htarget
    obtain rfl : word = word' := by simpa [hlexeme] using hlexeme'
    refine ⟨word, ?_, SetName.parse?_eq_some_iff.2 hparts⟩
    simp [ht, Token.word?, hlexeme, hdot]

end RecordQuery
