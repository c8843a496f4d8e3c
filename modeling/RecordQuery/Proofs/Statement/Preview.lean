import RecordQuery.Proofs.Clause.Nesting
import RecordQuery.Proofs.Statement.Shape
import RecordQuery.Proofs.Token.Replacing

/-!
# Selections and deletions with the same condition

A selection is cut at the one `FROM` that it has, a deletion is read word by word up to its
condition. Both read the same condition in the same text, unless that text has a `FROM` of its own.

* `SelectStatement.ofClause_of_delete`: the two readers on the same tokens.
* `tokenize_normalize_where`: the tokens of a text up to its condition.
* `Statement.parse_select_of_delete`: the two readers on texts.
-/

namespace RecordQuery

/-! ## Clauses that begin with words -/

namespace Clause

/-- The tokens of words with a blank between them. -/
def ofWords : List (List Char) → Clause
  | [] => []
  | first :: others => ⟨[], .word first⟩ :: others.map fun word => ⟨[' '], .word word⟩

variable {keyword : String} {c : Clause}

theorem keywordPositionsFrom_eq_nil_congr (position position' depth : Nat) :
    keywordPositionsFrom keyword position depth c = [] ↔
      keywordPositionsFrom keyword position' depth c = [] := by
  rw [keywordPositionsFrom_eq_nil_iff, keywordPositionsFrom_eq_nil_iff]

theorem keywordPositionsFrom_word (gap word : List Char) (position : Nat) :
    keywordPositionsFrom keyword position 0 (⟨gap, .word word⟩ :: c) =
      if Text.equalIgnoringCase word keyword.toList = true then
        position :: keywordPositionsFrom keyword (position + 1) 0 c
      else keywordPositionsFrom keyword (position + 1) 0 c := by
  simp [keywordPositionsFrom, Token.depthAfter, Token.kind, Lexeme.kind, Token.isKeyword,
    Token.word?]

theorem not_keyword_of_dotted (keyword : String) {word : List Char} (h : word.contains '.' = true)
    (hkeyword : ∀ d ∈ keyword.toList, d.isAlpha = true) :
    ¬Text.equalIgnoringCase word keyword.toList = true := by
  rw [Text.equalIgnoringCase_eq_false_of_mem hkeyword (List.contains_iff_mem.1 h) (by decide)]
  exact Bool.false_ne_true

end Clause

/-- The selection of all bins with the target and the condition of a deletion. -/
def DeleteStatement.selection (deletion : DeleteStatement) : SelectStatement :=
  { target := deletion.target, bins := .all, predicate := some deletion.predicate }

open Clause in
/-- **The two readers agree.** Where a deletion is read from the words before its condition and from
the condition, so is its selection, if no `FROM` stands in the condition. -/
theorem SelectStatement.ofClause_of_delete {word : List Char} {condition : Clause}
    {deletion : DeleteStatement}
    (h : DeleteStatement.ofClause
      (ofWords ["DELETE".toList, "FROM".toList, word, "WHERE".toList] ++ condition) = .ok deletion)
    (hfrom : condition.keywordPositions "FROM" = []) :
    SelectStatement.ofClause
        (ofWords ["SELECT".toList, ['*'], "FROM".toList, word, "WHERE".toList] ++ condition) =
      .ok deletion.selection := by
  obtain ⟨-, ⟨word', hword, htarget⟩, hwhere, hpredicate, -⟩ :=
    DeleteStatement.ofClause_eq_ok_iff.1 h
  obtain ⟨hat, hdot⟩ := Option.filter_eq_some_iff.1 hword
  obtain rfl : word = word' := Option.some.inj hat
  have hnofrom := not_keyword_of_dotted "FROM" hdot (by decide)
  have hnowhere := not_keyword_of_dotted "WHERE" hdot (by decide)
  -- The deletion has read its one `WHERE`, so the condition has none; the positions in it differ
  -- between the two statements.
  have hrest : ∀ position, keywordPositionsFrom "WHERE" position 0 condition = [] := by
    intro position
    simp only [keywordPositions, ofWords, List.map_cons, List.map_nil, List.cons_append,
      List.nil_append, keywordPositionsFrom_word] at hwhere
    rw [if_neg (by decide), if_neg (by decide), if_neg hnowhere, if_pos (by decide)] at hwhere
    exact (keywordPositionsFrom_eq_nil_congr _ _ _).1 (List.cons.inj hwhere).2
  refine SelectStatement.ofClause_eq_ok_iff.2 ⟨2, ?_, rfl, .inr ⟨1, deletion.predicate, ?_, ?_,
    hpredicate, rfl⟩⟩
  · simp only [keywordPositions, ofWords, List.map_cons, List.map_nil, List.cons_append,
      List.nil_append, keywordPositionsFrom_word]
    rw [if_neg (by decide), if_neg (by decide), if_pos (by decide), if_neg hnofrom,
      if_neg (by decide), (keywordPositionsFrom_eq_nil_congr _ _ _).1 hfrom]
  · show keywordPositionsFrom "WHERE" 0 0 (⟨_, .word word⟩ :: ⟨_, .word _⟩ :: condition) = _
    rw [keywordPositionsFrom_word, keywordPositionsFrom_word, if_neg hnowhere, if_pos (by decide),
      hrest]
  · exact htarget

/-! ## Texts that begin with words -/

namespace Clause

variable {words : List (List Char)}

theorem mem_ofWords {t : Token} (h : t ∈ ofWords words) :
    ∃ word ∈ words, t = ⟨[], .word word⟩ ∨ t = ⟨[' '], .word word⟩ := by
  cases words with
  | nil => cases h
  | cons first others =>
    obtain rfl | h := List.mem_cons.1 h
    · exact ⟨first, List.mem_cons_self, .inl rfl⟩
    · obtain ⟨word, hword, rfl⟩ := List.mem_map.1 h
      exact ⟨word, List.mem_cons_of_mem _ hword, .inr rfl⟩

theorem isReadable_ofWords (hproper : ∀ word ∈ words, (Lexeme.word word).IsProper) :
    IsReadable (ofWords words) where
  gaps t ht := by
    obtain ⟨word, -, rfl | rfl⟩ := mem_ofWords ht
    · exact List.forall_mem_nil _
    · exact List.forall_mem_singleton.2 (by decide)
  proper t ht := by
    obtain ⟨word, hword, rfl | rfl⟩ := mem_ofWords ht
    · exact hproper word hword
    · exact hproper word hword
  closed t ht := by
    obtain ⟨word, -, rfl | rfl⟩ := mem_ofWords ht
    · exact fun body => Lexeme.noConfusion
    · exact fun body => Lexeme.noConfusion
  apart := by
    cases words with
    | nil => exact .nil
    | cons first others =>
      have hchain : ∀ (t : Token) (others : List (List Char)),
          (t :: others.map fun word => ⟨[' '], .word word⟩).IsChain Token.Apart := by
        intro t others
        induction others generalizing t with
        | nil => exact .singleton t
        | cons word others ih => exact .cons_cons (fun _ _ => List.cons_ne_nil _ _) (ih _)
      exact hchain _ _

theorem normalize_where (hne : words ≠ [])
    (hproper : ∀ word ∈ words, (Lexeme.word word).IsProper) (text : List Char) :
    normalize (spelling (ofWords (words ++ ["WHERE".toList])) ++ ' ' :: text) =
      spelling (ofWords (words ++ ["WHERE".toList])) ++ normalizeEnd (' ' :: text) := by
  obtain ⟨first, others, rfl⟩ := List.exists_cons_of_ne_nil hne
  obtain ⟨c, cs, hfirst, hc, -⟩ :=
    Lexeme.exists_chars_eq_cons (hproper first List.mem_cons_self)
  obtain rfl : first = c :: cs := hfirst
  -- The `E` of `WHERE` is where trimming the end stops at the latest.
  have hspelling : spelling (ofWords ((c :: cs) :: others ++ ["WHERE".toList])) =
      c :: (cs ++ spelling (others.map fun word => ⟨[' '], .word word⟩) ++ " WHER".toList) ++
        ['E'] := by
    simp [ofWords, Token.chars, Lexeme.chars]
  rw [hspelling, normalize_eq, List.cons_append, List.cons_append, Text.trimStart_cons hc,
    List.append_assoc, List.singleton_append, ← List.cons_append,
    normalizeEnd_append_cons (by decide) (by decide)]
  simp

theorem head?_normalizeEnd (text : List Char) :
    ∀ c ∈ (normalizeEnd (' ' :: text)).head?, Text.isBlank c = true := by
  obtain ⟨cut, hcut⟩ := exists_normalizeEnd_append (' ' :: text)
  cases hend : normalizeEnd (' ' :: text) with
  | nil => simp
  | cons c rest =>
    rw [hend, List.cons_append] at hcut
    rintro d ⟨rfl⟩
    rw [← (List.cons.inj hcut).1]
    decide

theorem tokenize_normalize_where (hne : words ≠ [])
    (hproper : ∀ word ∈ words, (Lexeme.word word).IsProper) (text : List Char) :
    tokenize (normalize (spelling (ofWords (words ++ ["WHERE".toList])) ++ ' ' :: text)) =
      ofWords (words ++ ["WHERE".toList]) ++ tokenize (normalizeEnd (' ' :: text)) := by
  have hwords : ∀ word ∈ words ++ ["WHERE".toList], (Lexeme.word word).IsProper := by
    refine List.forall_mem_append.2 ⟨hproper, List.forall_mem_singleton.2 ?_⟩
    exact ⟨by decide, by decide⟩
  rw [normalize_where hne hproper,
    tokenize_spelling_append_of_head? (isReadable_ofWords hwords) (head?_normalizeEnd text)]

theorem keywordPositions_normalize (keyword : String) (text : List Char) :
    keywordPositions (tokenize (normalizeEnd (' ' :: text))) keyword =
      keywordPositions (tokenize (normalize text)) keyword := by
  have htrim : normalize text = Text.trimStart (normalizeEnd (' ' :: text)) := by
    rw [trimStart_normalizeEnd]
    rfl
  rw [htrim, tokenize_trimStart]
  cases tokenize (normalizeEnd (' ' :: text)) with
  | nil => rfl
  | cons t rest => rfl

end Clause

theorem Statement.parse_select_of_delete {word text : List Char} {deletion : DeleteStatement}
    (hword : (Lexeme.word word).IsProper)
    (hfrom : Clause.keywordPositions (tokenize (normalize text)) "FROM" = [])
    (h : parse ("DELETE FROM ".toList ++ word ++ " WHERE ".toList ++ text) =
      .ok (.delete deletion)) :
    parse ("SELECT * FROM ".toList ++ word ++ " WHERE ".toList ++ text) =
      .ok (.select deletion.selection) := by
  have hfromProper : (Lexeme.word "FROM".toList).IsProper := ⟨by decide, by decide⟩
  have hdeleteProper : ∀ other ∈ ["DELETE".toList, "FROM".toList, word],
      (Lexeme.word other).IsProper :=
    List.forall_mem_cons.2 ⟨⟨by decide, by decide⟩,
      List.forall_mem_cons.2 ⟨hfromProper, List.forall_mem_singleton.2 hword⟩⟩
  have hselectProper : ∀ other ∈ ["SELECT".toList, ['*'], "FROM".toList, word],
      (Lexeme.word other).IsProper :=
    List.forall_mem_cons.2 ⟨⟨by decide, by decide⟩,
      List.forall_mem_cons.2 ⟨⟨by decide, by decide⟩,
        List.forall_mem_cons.2 ⟨hfromProper, List.forall_mem_singleton.2 hword⟩⟩⟩
  have hdelete : "DELETE FROM ".toList ++ word ++ " WHERE ".toList ++ text =
      Clause.spelling (Clause.ofWords (["DELETE".toList, "FROM".toList, word] ++
        ["WHERE".toList])) ++ ' ' :: text := by
    simp [Clause.ofWords, Token.chars, Lexeme.chars]
  have hselect : "SELECT * FROM ".toList ++ word ++ " WHERE ".toList ++ text =
      Clause.spelling (Clause.ofWords (["SELECT".toList, ['*'], "FROM".toList, word] ++
        ["WHERE".toList])) ++ ' ' :: text := by
    simp [Clause.ofWords, Token.chars, Lexeme.chars]
  have hread : DeleteStatement.ofClause
      (Clause.ofWords ["DELETE".toList, "FROM".toList, word, "WHERE".toList] ++
        tokenize (normalizeEnd (' ' :: text))) = .ok deletion := by
    rw [hdelete, parse_eq_ok_iff, Clause.tokenize_normalize_where (List.cons_ne_nil _ _)
      hdeleteProper] at h
    obtain ⟨deletion', hread, heq⟩ := map_eq_ok_iff.1 h.2
    cases heq
    exact hread
  rw [hselect, parse_eq_ok_iff, Clause.tokenize_normalize_where (List.cons_ne_nil _ _)
    hselectProper]
  constructor
  · have hkeyword : Command.ofKeyword? (String.ofList (Text.upper "SELECT".toList)) =
        some .select := by decide +kernel
    rw [Clause.normalize_where (List.cons_ne_nil _ _) hselectProper]
    simp only [Clause.ofWords, List.cons_append, Clause.spelling_cons, Token.chars, Lexeme.chars,
      List.nil_append, List.map_cons, List.append_assoc, Command.classify]
    rw [Text.words_append (by decide) (by decide) (by decide)]
    simp only [hkeyword]
    rfl
  · refine map_eq_ok_iff.2 ⟨_, SelectStatement.ofClause_of_delete hread ?_, rfl⟩
    rw [Clause.keywordPositions_normalize]
    exact hfrom

end RecordQuery
