import RecordQuery.Proofs.Bytes.Statements

/-!
# No panics

Reading a text by bytes comes to segments whose tokens stand in the text, so whatever is asked of them
has an answer.

* `Segment.Reached`: the segments that reading a text can come to. `Segment.reached_of_run`: every
  run of tokens is one.
* `Segment.Answers`: what holds of a segment that is where a clause stands.
* `reading_never_panics`: statements, literals and segments are read without a panic.
-/

namespace RecordQuery

namespace Segment

/-- The segments that reading a text can come to: that of all tokens, and what is cut from another. -/
inductive Reached (text : List Char) : Segment → Prop where
  | whole {tokens : List Span} (hscan : Bytes.scan text = .ok tokens) : Reached text ⟨text, tokens⟩
  | slice {seg part : Segment} {start stop : Nat} (hseg : Reached text seg)
      (hpart : seg.slice start stop = .ok part) : Reached text part
  | part {seg part : Segment} {kind : TokenKind} {parts : List Segment} (hseg : Reached text seg)
      (hparts : seg.splitOn kind = .ok parts) (hmem : part ∈ parts) : Reached text part
  | group {seg inner : Segment} {opening next : Nat} (hseg : Reached text seg)
      (hgroup : seg.group? opening = .ok (some (inner, next))) : Reached text inner

/-- What holds of a segment that is where a clause stands in a text: its places are in order between
characters, and whatever is asked of it is answered as the clause answers it. -/
structure Answers (source : List Char) (seg : Segment) (c : Clause) : Prop where
  boundaries : ∀ s ∈ seg.tokens, IsBoundary source s.start ∧ IsBoundary source s.stop
  ordered : ∀ first ∈ seg.tokens.head?, ∀ last ∈ seg.tokens.getLast?, first.start ≤ last.stop
  text : seg.text = .ok c.text
  textAt? : ∀ position, seg.textAt? position = .ok (c.textAt? position)
  wordAt? : ∀ position, seg.wordAt? position = .ok (c.wordAt? position)
  isKeywordAt : ∀ position keyword,
    seg.isKeywordAt position keyword = .ok (c.isKeywordAt position keyword)
  singleWord? : seg.singleWord? = .ok c.singleWord?
  keywordPositions : ∀ keyword, seg.keywordPositions keyword = .ok (c.keywordPositions keyword)
  slice : ∀ start stop, ∃ part,
    seg.slice start stop = .ok part ∧ part.Shows source (c.slice start stop)
  tail : ∀ start, ∃ part, seg.tail start = .ok part ∧ part.Shows source (c.tail start)
  splitOn : ∀ kind, ∃ parts,
    seg.splitOn kind = .ok parts ∧ List.Forall₂ (Shows source) parts (c.splitOn kind)
  group? : ∀ opening, ∃ g,
    seg.group? opening = .ok g ∧ Option.Rel (ShowsGroup source) g (c.group? opening)

variable {text : List Char} {seg : Segment} {c : Clause}

theorem Shows.answers (h : seg.Shows text c) : seg.Answers text c where
  boundaries s hs := by
    obtain ⟨t, -, ht⟩ := exists_of_mem_forall₂ h.forall₂ hs
    exact (exists_sliceBytes_iff.1 ⟨_, ht.text⟩).2
  ordered first hfirst last hlast := by
    have htext := h.text_eq
    rw [Segment.text, hfirst, hlast] at htext
    exact (exists_sliceBytes_iff.1 ⟨_, htext⟩).1
  text := h.text_eq
  textAt? := h.textAt?_eq
  wordAt? := h.wordAt?_eq
  isKeywordAt := h.isKeywordAt_eq
  singleWord? := h.singleWord?_eq
  keywordPositions := h.keywordPositions_eq
  slice := h.exists_slice
  tail := h.exists_tail
  splitOn := h.exists_splitOn
  group? := h.exists_group?

theorem Reached.exists_shows (h : Reached text seg) : ∃ c, seg.Shows text c := by
  induction h with
  | whole hscan =>
    obtain rfl := Except.ok.inj ((Bytes.scan_eq text).symm.trans hscan)
    exact ⟨_, shows_tokenize text⟩
  | @slice seg part start stop _ hpart ih =>
    obtain ⟨c, hc⟩ := ih
    obtain ⟨part', hpart', hshows⟩ := hc.exists_slice start stop
    obtain rfl := Except.ok.inj (hpart'.symm.trans hpart)
    exact ⟨_, hshows⟩
  | @part seg part kind parts _ hparts hmem ih =>
    obtain ⟨c, hc⟩ := ih
    obtain ⟨parts', hparts', hall⟩ := hc.exists_splitOn kind
    obtain rfl := Except.ok.inj (hparts'.symm.trans hparts)
    obtain ⟨c', -, hshows⟩ := exists_of_mem_forall₂ hall hmem
    exact ⟨c', hshows⟩
  | @group seg inner opening next _ hgroup ih =>
    obtain ⟨c, hc⟩ := ih
    obtain ⟨g, hg, hrel⟩ := hc.exists_group? opening
    obtain rfl := Except.ok.inj (hg.symm.trans hgroup)
    generalize c.group? opening = group at hrel
    cases hrel with
    | some hinner => exact ⟨_, hinner.1⟩

theorem reached_of_run {run : List Span} (h : run <:+: Clause.located 0 (tokenize text)) :
    Reached text ⟨text, run⟩ := by
  obtain ⟨front, back, htokens⟩ := h
  have hslice : slice ⟨text, Clause.located 0 (tokenize text)⟩ front.length (front ++ run).length =
      .ok ⟨text, run⟩ := by
    rw [slice_eq, ← htokens, List.take_left, List.drop_left]
  exact .slice (.whole (Bytes.scan_eq text)) hslice

end Segment

/-- **Reading never panics.** Every text is scanned, read as a statement and typed as a literal by its
bytes with the outcome that it has by characters, and every segment on the way answers as the clause
that stands there. -/
theorem reading_never_panics (text : List Char) :
    Bytes.scan text = .ok (Clause.located 0 (tokenize text)) ∧
    Statement.parseBytes text = .ok (Statement.parse text) ∧
    Literal.coerceBytes text = .ok (Literal.coerce text) ∧
    ∀ seg, Segment.Reached text seg → ∃ c, seg.Shows text c ∧ seg.Answers text c := by
  refine ⟨Bytes.scan_eq text, Statement.parseBytes_eq text, Literal.coerceBytes_eq text, ?_⟩
  intro seg hseg
  obtain ⟨c, hc⟩ := hseg.exists_shows
  exact ⟨c, hc, hc.answers⟩

/-- The condition of a deletion whose bin and value take two bytes a letter: its places, its text, and
the statement around it. -/
theorem reading_never_panics_accents :
    Segment.Reached "DELETE FROM a.b WHERE ü = 'é)'".toList
      ⟨"DELETE FROM a.b WHERE ü = 'é)'".toList,
        [⟨.word, 22, 24⟩, ⟨.equals, 25, 26⟩, ⟨.quoted, 27, 32⟩]⟩ ∧
    Statement.parseBytes "DELETE FROM a.b WHERE ü = 'é)'".toList =
      .ok (.ok (.delete ⟨⟨"a", "b"⟩, ⟨"ü", .str "é)"⟩⟩)) ∧
    ∃ c, Segment.Answers "DELETE FROM a.b WHERE ü = 'é)'".toList
      ⟨"DELETE FROM a.b WHERE ü = 'é)'".toList,
        [⟨.word, 22, 24⟩, ⟨.equals, 25, 26⟩, ⟨.quoted, 27, 32⟩]⟩ c := by
  have hreached : Segment.Reached "DELETE FROM a.b WHERE ü = 'é)'".toList
      ⟨"DELETE FROM a.b WHERE ü = 'é)'".toList,
        [⟨.word, 22, 24⟩, ⟨.equals, 25, 26⟩, ⟨.quoted, 27, 32⟩]⟩ :=
    Segment.reached_of_run
      ⟨[⟨.word, 0, 6⟩, ⟨.word, 7, 11⟩, ⟨.word, 12, 15⟩, ⟨.word, 16, 21⟩], [], by decide +kernel⟩
  obtain ⟨-, hparse, -, hsegments⟩ := reading_never_panics "DELETE FROM a.b WHERE ü = 'é)'".toList
  obtain ⟨c, -, hanswers⟩ := hsegments _ hreached
  refine ⟨hreached, hparse.trans ?_, c, hanswers⟩
  decide +kernel

/-- A segment that is not reached may panic: its places may cut a character, be out of order, or close
a parenthesis that is not open. -/
example :
    Segment.text ⟨['é'], [⟨.word, 1, 2⟩]⟩ = .error .boundary ∧
    Segment.text ⟨['a', 'b'], [⟨.word, 1, 2⟩, ⟨.word, 0, 0⟩]⟩ = .error .range ∧
    Segment.closeFrom ⟨[')'], [⟨.rightParen, 0, 1⟩]⟩ 0 0 0 [⟨.rightParen, 0, 1⟩] =
      .error .underflow := ⟨rfl, rfl, rfl⟩

end RecordQuery
