import RecordQuery.Proofs.Bytes.Scanning
import RecordQuery.Proofs.Clause.Replacing

/-!
# Segments

A segment is a run of the tokens of a text, kept as the whole text and the places of the tokens. What
is asked of a clause is asked of a segment by cutting the text at these places, and by positions that
must be in range.

* `Segment.slice`, `Segment.tail`, `Segment.text`, `Segment.keywordPositions`, `Segment.splitOn`,
  `Segment.group?`: the operations on segments. Each may panic.
* `Segment.Shows`: whether a segment is where a clause stands in its text.
* `Segment.Shows.exists_slice`, `Segment.Shows.text_eq` and so on: such a segment answers as the clause
  does, and nothing panics.
-/

namespace RecordQuery

/-! ## Operations -/

/-- A count less one, which must not be zero. -/
def decrement : Nat → Checked Nat
  | 0 => .error .underflow
  | count + 1 => .ok count

namespace Span

variable (source : List Char)

def text (s : Span) : Checked (List Char) :=
  sliceBytes source s.start s.stop

/-- Whether a token is a given word up to the case of ASCII letters. Only words have their text
looked at. -/
def isKeyword (keyword : String) (s : Span) : Checked Bool :=
  if s.kind = .word then
    (s.text source).map fun text => Text.equalIgnoringCase text keyword.toList
  else .ok false

/-- Whether a token is a given word outside parentheses, `depth` being open before it. -/
def isTopKeyword (keyword : String) (depth : Nat) (s : Span) : Checked Bool :=
  if depth = 0 then s.isKeyword source keyword else .ok false

def word? (s : Span) : Checked (Option (List Char)) :=
  if s.kind = .word then (s.text source).map some else .ok none

/-- The number of parentheses that are open after a token, `depth` being open before it. -/
def depthAfter (depth : Nat) (s : Span) : Nat :=
  match s.kind with
  | .leftParen => depth + 1
  | .rightParen => depth - 1
  | _ => depth

/-- Whether a token within `depth` parentheses separates the parts of a segment. -/
def isSeparator (kind : TokenKind) (depth : Nat) (s : Span) : Bool :=
  depth == 0 && s.kind == kind && kind != .leftParen && kind != .rightParen

end Span

/-- A run of the tokens of a text. -/
structure Segment where
  source : List Char
  tokens : List Span
deriving DecidableEq, Repr

namespace Segment

/-- The source text from the start of the first token to the end of the last. -/
def text (seg : Segment) : Checked (List Char) :=
  match seg.tokens.head?, seg.tokens.getLast? with
  | some first, some last => sliceBytes seg.source first.start last.stop
  | _, _ => .ok []

def textAt? (seg : Segment) (position : Nat) : Checked (Option (List Char)) :=
  match seg.tokens[position]? with
  | some s => (s.text seg.source).map some
  | none => .ok none

def wordAt? (seg : Segment) (position : Nat) : Checked (Option (List Char)) :=
  match seg.tokens[position]? with
  | some s => s.word? seg.source
  | none => .ok none

def isKeywordAt (seg : Segment) (position : Nat) (keyword : String) : Checked Bool :=
  match seg.tokens[position]? with
  | some s => s.isKeyword seg.source keyword
  | none => .ok false

/-- The word that a segment consists of, if it is a single word. -/
def singleWord? (seg : Segment) : Checked (Option (List Char)) :=
  match seg.tokens with
  | [s] => s.word? seg.source
  | _ => .ok none

/-- The tokens from one position up to another, both of which must be in range and in order. -/
def run (tokens : List Span) (start stop : Nat) : Checked (List Span) :=
  if start ≤ stop ∧ stop ≤ tokens.length then .ok ((tokens.take stop).drop start)
  else .error .range

/-- The segment from one position up to another; positions beyond the end stand for the end. -/
def slice (seg : Segment) (start stop : Nat) : Checked Segment :=
  let stop := min stop seg.tokens.length
  (run seg.tokens (min start stop) stop).map fun tokens => { seg with tokens }

def tail (seg : Segment) (start : Nat) : Checked Segment :=
  seg.slice start seg.tokens.length

/-- The positions of a keyword among tokens, the first of which is at `position` and within `depth`
parentheses. -/
def positionsFrom (source : List Char) (keyword : String) (position depth : Nat) :
    List Span → Checked (List Nat)
  | [] => .ok []
  | s :: rest => do
    let found ← s.isTopKeyword source keyword depth
    let later ← positionsFrom source keyword (position + 1) (s.depthAfter depth) rest
    return if found then position :: later else later

def keywordPositions (seg : Segment) (keyword : String) : Checked (List Nat) :=
  positionsFrom seg.source keyword 0 0 seg.tokens

/-- The parts of a segment from the position `start` on, the tokens from `position` on being still to
be looked at, the first of them within `depth` parentheses. -/
def partsFrom (seg : Segment) (kind : TokenKind) (start position depth : Nat) :
    List Span → Checked (List Segment)
  | [] => (seg.tail start).map fun last => [last]
  | s :: rest =>
    if s.isSeparator kind depth then do
      let part ← seg.slice start position
      let later ← partsFrom seg kind (position + 1) (position + 1) depth rest
      return part :: later
    else partsFrom seg kind start (position + 1) (s.depthAfter depth) rest

/-- The parts of a segment between the tokens of a kind that stand outside parentheses. -/
def splitOn (seg : Segment) (kind : TokenKind) : Checked (List Segment) :=
  partsFrom seg kind 0 0 0 seg.tokens

/-- The group that opens at the position `opening`, the tokens from `position` on being still to be
looked at and `depth` parentheses being open. A closing parenthesis takes one from the depth, whatever
the depth is. -/
def closeFrom (seg : Segment) (opening position depth : Nat) :
    List Span → Checked (Option (Segment × Nat))
  | [] => .ok none
  | s :: rest =>
    match s.kind with
    | .leftParen => closeFrom seg opening (position + 1) (depth + 1) rest
    | .rightParen => do
      let depth ← decrement depth
      if depth = 0 then
        let inner ← seg.slice (opening + 1) position
        return some (inner, position + 1)
      else closeFrom seg opening (position + 1) depth rest
    | _ => closeFrom seg opening (position + 1) depth rest

/-- The group that opens at a position: the segment between its parentheses and the position after
the closing one. -/
def group? (seg : Segment) (opening : Nat) : Checked (Option (Segment × Nat)) :=
  match seg.tokens.drop opening with
  | [] => .ok none
  | s :: rest =>
    if s.kind = .leftParen then closeFrom seg opening opening 0 (s :: rest) else .ok none

end Segment

/-! ## Tokens at their places -/

/-- Whether a span is where a token stands in a text. -/
structure Span.Shows (source : List Char) (s : Span) (t : Token) : Prop where
  kind : s.kind = t.kind
  text : s.text source = .ok t.chars

section Tokens

variable {source : List Char} {s : Span} {t : Token}

theorem Span.Shows.depthAfter (h : s.Shows source t) (depth : Nat) :
    s.depthAfter depth = t.depthAfter depth := by
  rw [Span.depthAfter, h.kind]
  rfl

theorem Span.Shows.isSeparator (h : s.Shows source t) (kind : TokenKind) (depth : Nat) :
    s.isSeparator kind depth = Clause.isSeparator kind depth t := by
  rw [Span.isSeparator, h.kind, Clause.isSeparator]

theorem Token.word?_eq (t : Token) :
    t.word? = if t.kind = .word then some t.chars else none := by
  obtain ⟨gap, l⟩ := t
  cases l <;> rfl

theorem Span.Shows.word? (h : s.Shows source t) : s.word? source = .ok t.word? := by
  rw [Span.word?, h.kind, h.text, Token.word?_eq]
  split <;> rfl

theorem Span.Shows.isKeyword (h : s.Shows source t) (keyword : String) :
    s.isKeyword source keyword = .ok (t.isKeyword keyword) := by
  rw [Span.isKeyword, h.kind, h.text, Token.isKeyword, Token.word?_eq]
  split <;> rfl

theorem Span.Shows.isTopKeyword (h : s.Shows source t) (keyword : String) (depth : Nat) :
    s.isTopKeyword source keyword depth = .ok (decide (depth = 0 ∧ t.isKeyword keyword)) := by
  rw [Span.isTopKeyword, h.isKeyword]
  split <;> simp [*]

end Tokens

namespace Clause

variable {start : Nat} {text : List Char}

theorem located_take (start n : Nat) (c : Clause) :
    (located start c).take n = located start (c.take n) := by
  induction c generalizing start n with
  | nil => simp
  | cons t rest ih =>
    cases n with
    | zero => rfl
    | succ n => rw [located_cons, List.take_succ_cons, List.take_succ_cons, located_cons, ih]

theorem located_drop (start n : Nat) (c : Clause) :
    (located start c).drop n = located (start + byteLength (spelling (c.take n))) (c.drop n) := by
  have hsplit := located_append start (c.take n) (c.drop n)
  rw [List.take_append_drop, ← located_take] at hsplit
  have hparts := List.take_append_drop n (located start c)
  exact List.append_cancel_left (hparts.trans hsplit)

theorem exists_getLast?_located (start : Nat) (t : Token) (rest : Clause) :
    ∃ last, (located start (t :: rest)).getLast? = some last ∧
      last.stop = start + byteLength (spelling (t :: rest)) := by
  induction rest generalizing start t with
  | nil => exact ⟨_, rfl, by simp [byteLength_append, Nat.add_assoc]⟩
  | cons u rest ih =>
    obtain ⟨last, hlast, hstop⟩ := ih (start + byteLength (t.gap ++ t.chars)) u
    refine ⟨last, ?_, ?_⟩
    · rw [located_cons, List.getLast?_cons, hlast]
      rfl
    · rw [hstop, spelling_cons t, byteLength_append (t.gap ++ t.chars), Nat.add_assoc]

theorem IsIn.forall₂_shows {c : Clause} (h : IsIn text start c) :
    List.Forall₂ (Span.Shows text) (c.located start) c := by
  induction c generalizing start with
  | nil => exact .nil
  | cons t rest ih =>
    obtain ⟨hfirst, hrest⟩ := IsIn.of_append (c := [t]) h
    have htext := hfirst.sliceBytes_eq
    simp only [spelling_cons, spelling_nil, List.append_nil, Clause.text] at htext hrest
    rw [located_cons]
    exact .cons ⟨rfl, htext⟩ (ih hrest)

end Clause

/-! ## Clauses at their places -/

namespace Segment

/-- Whether a segment is where a clause stands in a text. -/
structure Shows (source : List Char) (seg : Segment) (c : Clause) : Prop where
  source_eq : seg.source = source
  tokens_eq : ∃ start, Clause.IsIn source start c ∧ seg.tokens = c.located start

variable {source : List Char} {seg : Segment} {c : Clause}

theorem Shows.forall₂ (h : seg.Shows source c) :
    List.Forall₂ (Span.Shows source) seg.tokens c := by
  obtain ⟨-, start, hin, htokens⟩ := h
  rw [htokens]
  exact hin.forall₂_shows

theorem Shows.length_eq (h : seg.Shows source c) : seg.tokens.length = c.length :=
  h.forall₂.length_eq

theorem Shows.getElem? {clause : Clause} (h : seg.Shows source clause) (position : Nat) :
    seg.tokens[position]? = none ∧ clause[position]? = none ∨
      ∃ s t, seg.tokens[position]? = some s ∧ clause[position]? = some t ∧ s.Shows source t := by
  have hall := h.forall₂
  clear h
  generalize seg.tokens = tokens at hall
  induction hall generalizing position with
  | nil => exact .inl ⟨rfl, rfl⟩
  | cons hfirst _ ih =>
    cases position with
    | zero => exact .inr ⟨_, _, rfl, rfl, hfirst⟩
    | succ position => exact ih position

theorem Shows.text_eq (h : seg.Shows source c) : seg.text = .ok c.text := by
  obtain ⟨text, tokens⟩ := seg
  obtain ⟨rfl, start, hin, rfl⟩ := h
  cases c with
  | nil => rfl
  | cons t rest =>
    obtain ⟨last, hlast, hstop⟩ := Clause.exists_getLast?_located start t rest
    rw [Segment.text, hlast, Clause.located_cons, List.head?_cons]
    dsimp only
    rw [hstop]
    exact hin.sliceBytes_eq

theorem Shows.textAt?_eq (h : seg.Shows source c) (position : Nat) :
    seg.textAt? position = .ok (c.textAt? position) := by
  rw [Segment.textAt?, Clause.textAt?, h.source_eq]
  obtain ⟨hs, ht⟩ | ⟨s, t, hs, ht, hshows⟩ := h.getElem? position
  · rw [hs, ht]; rfl
  · rw [hs, ht]; exact congrArg (Except.map some) hshows.text

theorem Shows.wordAt?_eq (h : seg.Shows source c) (position : Nat) :
    seg.wordAt? position = .ok (c.wordAt? position) := by
  rw [Segment.wordAt?, Clause.wordAt?, h.source_eq]
  obtain ⟨hs, ht⟩ | ⟨s, t, hs, ht, hshows⟩ := h.getElem? position
  · rw [hs, ht]; rfl
  · rw [hs, ht]; exact hshows.word?

theorem Shows.isKeywordAt_eq (h : seg.Shows source c) (position : Nat) (keyword : String) :
    seg.isKeywordAt position keyword = .ok (c.isKeywordAt position keyword) := by
  rw [Segment.isKeywordAt, Clause.isKeywordAt, h.source_eq]
  obtain ⟨hs, ht⟩ | ⟨s, t, hs, ht, hshows⟩ := h.getElem? position
  · rw [hs, ht]; rfl
  · rw [hs, ht]; exact hshows.isKeyword keyword

theorem Shows.singleWord?_eq (h : seg.Shows source c) : seg.singleWord? = .ok c.singleWord? := by
  have hall := h.forall₂
  rw [Segment.singleWord?, h.source_eq]
  generalize seg.tokens = tokens at hall
  cases hall with
  | nil => rfl
  | cons hfirst hrest =>
    cases hrest with
    | nil => exact hfirst.word?
    | cons _ _ => rfl

/-! ### Positions of keywords -/

theorem positionsFrom_eq {tokens : List Span} {keyword : String}
    (h : List.Forall₂ (Span.Shows source) tokens c) (position depth : Nat) :
    positionsFrom source keyword position depth tokens =
      .ok (Clause.keywordPositionsFrom keyword position depth c) := by
  induction h generalizing position depth with
  | nil => rfl
  | @cons s t tokens c ht _ ih =>
    rw [positionsFrom, ht.isTopKeyword, ok_bind, ih, ok_bind, ht.depthAfter,
      Clause.keywordPositionsFrom]
    simp only [decide_eq_true_eq]
    rfl

theorem Shows.keywordPositions_eq (h : seg.Shows source c) (keyword : String) :
    seg.keywordPositions keyword = .ok (c.keywordPositions keyword) := by
  rw [Segment.keywordPositions, h.source_eq]
  exact positionsFrom_eq h.forall₂ 0 0

/-! ### Runs of tokens -/

theorem slice_eq (seg : Segment) (start stop : Nat) :
    seg.slice start stop = .ok { seg with tokens := (seg.tokens.take stop).drop start } := by
  have hrange : min start (min stop seg.tokens.length) ≤ min stop seg.tokens.length ∧
      min stop seg.tokens.length ≤ seg.tokens.length := by omega
  have hrun : (seg.tokens.take (min stop seg.tokens.length)).drop
      (min start (min stop seg.tokens.length)) = (seg.tokens.take stop).drop start := by
    rw [← List.take_eq_take_min, ← List.length_take]
    exact List.drop_eq_drop_min.symm
  rw [slice, run, if_pos hrange, hrun]
  rfl

theorem Shows.run (h : seg.Shows source c) (start stop : Nat) :
    Shows source { seg with tokens := (seg.tokens.take stop).drop start } (c.slice start stop) := by
  obtain ⟨hsource, first, hin, htokens⟩ := h
  rw [← List.take_append_drop stop c] at hin
  obtain ⟨hin, -⟩ := hin.of_append
  rw [← List.take_append_drop start (c.take stop)] at hin
  obtain ⟨-, hin⟩ := hin.of_append
  refine ⟨hsource, _, hin, ?_⟩
  dsimp only
  rw [htokens, Clause.located_take, Clause.located_drop]
  rfl

theorem Shows.exists_slice (h : seg.Shows source c) (start stop : Nat) :
    ∃ part, seg.slice start stop = .ok part ∧ part.Shows source (c.slice start stop) :=
  ⟨_, slice_eq seg start stop, h.run start stop⟩

theorem Shows.exists_tail (h : seg.Shows source c) (start : Nat) :
    ∃ part, seg.tail start = .ok part ∧ part.Shows source (c.tail start) := by
  obtain ⟨part, hpart, hshows⟩ := h.exists_slice start seg.tokens.length
  rw [h.length_eq, Clause.slice, List.take_length] at hshows
  exact ⟨part, hpart, hshows⟩

theorem Shows.exists_middle {front current rest : Clause}
    (h : seg.Shows source (front ++ current ++ rest)) :
    ∃ part, seg.slice front.length (front ++ current).length = .ok part ∧
      part.Shows source current := by
  have hslice : Clause.slice (front ++ current ++ rest) front.length (front ++ current).length =
      current := by
    rw [Clause.slice, List.take_left, List.drop_left]
  obtain ⟨part, hpart, hshows⟩ := h.exists_slice front.length (front ++ current).length
  rw [hslice] at hshows
  exact ⟨part, hpart, hshows⟩

/-! ### Parts and groups -/

theorem modifyHead_nil_append {α : Type} (l : List (List α)) :
    (l.modifyHead fun first => [] ++ first) = l := by
  cases l <;> rfl

/-- The parts that are cut while the tokens of a clause are looked at. `front` is what is cut already
and `current` what is seen of the part at hand. -/
theorem exists_partsFrom (kind : TokenKind) (front current : Clause) {rest : Clause}
    {tokens : List Span} (h : seg.Shows source (front ++ current ++ rest))
    (hrest : List.Forall₂ (Span.Shows source) tokens rest) (depth : Nat) :
    ∃ parts, seg.partsFrom kind front.length (front ++ current).length depth tokens = .ok parts ∧
      List.Forall₂ (Shows source) parts
        ((Clause.splitFrom kind depth rest).modifyHead fun first => current ++ first) := by
  induction hrest generalizing front current depth with
  | nil =>
    obtain ⟨last, hlast, hshows⟩ := h.exists_tail front.length
    have htail : Clause.tail (front ++ current ++ []) front.length = current ++ [] := by
      rw [Clause.tail, List.append_assoc, List.drop_left]
    rw [htail] at hshows
    refine ⟨[last], ?_, .cons hshows .nil⟩
    rw [partsFrom, hlast]
    rfl
  | @cons s t tokens rest ht _ ih =>
    rw [partsFrom, ht.isSeparator]
    by_cases hcut : Clause.isSeparator kind depth t = true
    · obtain ⟨part, hpart, hshows⟩ := h.exists_middle
      have hnext : front ++ current ++ t :: rest = front ++ current ++ [t] ++ [] ++ rest := by simp
      have hplace : (front ++ current ++ [t] ++ []).length = (front ++ current).length + 1 ∧
          (front ++ current ++ [t]).length = (front ++ current).length + 1 := by
        simp [Nat.add_assoc]
      rw [hnext] at h
      obtain ⟨later, hlater, hall⟩ := ih _ _ h depth
      rw [hplace.1, hplace.2] at hlater
      refine ⟨part :: later, ?_, ?_⟩
      · rw [if_pos hcut, hpart, ok_bind, hlater]
        rfl
      · rw [Clause.splitFrom_cons_of_isSeparator hcut, List.modifyHead_cons, List.append_nil]
        rw [modifyHead_nil_append] at hall
        exact .cons hshows hall
    · rw [Bool.not_eq_true] at hcut
      obtain ⟨first, others, hfirst⟩ :=
        List.exists_cons_of_ne_nil (Clause.splitFrom_ne_nil kind (t.depthAfter depth) rest)
      have hnext : front ++ current ++ t :: rest = front ++ (current ++ [t]) ++ rest := by simp
      have hplace : (front ++ (current ++ [t])).length = (front ++ current).length + 1 := by
        simp [Nat.add_assoc]
      rw [hnext] at h
      obtain ⟨parts, hparts, hall⟩ := ih _ _ h (t.depthAfter depth)
      rw [hplace] at hparts
      refine ⟨parts, ?_, ?_⟩
      · rw [if_neg (by simp [hcut]), ht.depthAfter, hparts]
      · rw [Clause.splitFrom_cons hcut hfirst, List.modifyHead_cons]
        rw [hfirst, List.modifyHead_cons, List.append_assoc] at hall
        exact hall

theorem Shows.exists_splitOn (h : seg.Shows source c) (kind : TokenKind) :
    ∃ parts, seg.splitOn kind = .ok parts ∧ List.Forall₂ (Shows source) parts (c.splitOn kind) := by
  obtain ⟨parts, hparts, hall⟩ := exists_partsFrom kind [] [] h h.forall₂ 0
  rw [modifyHead_nil_append] at hall
  exact ⟨parts, hparts, hall⟩

/-- Whether a group of a segment is where a group of a clause stands. -/
def ShowsGroup (source : List Char) (g : Segment × Nat) (g' : Clause × Nat) : Prop :=
  g.1.Shows source g'.1 ∧ g.2 = g'.2

/-- The group that is closed while the tokens of a clause are looked at. `front` is what stands up to
its parenthesis and `current` what is seen of it, so the depth is positive: the parenthesis that opens
it is counted. -/
theorem exists_closeFrom {front current rest : Clause} {tokens : List Span} {opening : Nat}
    (hopening : front.length = opening + 1) (h : seg.Shows source (front ++ current ++ rest))
    (hrest : List.Forall₂ (Span.Shows source) tokens rest) (depth : Nat) :
    ∃ g, seg.closeFrom opening (front ++ current).length (depth + 1) tokens = .ok g ∧
      Option.Rel (ShowsGroup source) g ((Clause.untilClosed depth rest).map fun inner =>
        (current ++ inner, (front ++ current).length + inner.length + 1)) := by
  induction hrest generalizing current depth with
  | nil => exact ⟨none, rfl, .none⟩
  | @cons s t tokens rest ht _ ih =>
    -- what comes next, once a token is passed
    have hpass : ∀ depth', ∃ g,
        seg.closeFrom opening ((front ++ current).length + 1) (depth' + 1) tokens = .ok g ∧
          Option.Rel (ShowsGroup source) g
            (((Clause.untilClosed depth' rest).map (t :: ·)).map fun inner =>
              (current ++ inner, (front ++ current).length + inner.length + 1)) := by
      intro depth'
      have hnext : front ++ current ++ t :: rest = front ++ (current ++ [t]) ++ rest := by simp
      obtain ⟨g, hg, hrel⟩ := ih (hnext ▸ h) depth'
      have hplace : (front ++ (current ++ [t])).length = (front ++ current).length + 1 := by
        simp [Nat.add_assoc]
      have hsame : (fun inner : Clause =>
            (current ++ [t] ++ inner, (front ++ current).length + 1 + inner.length + 1)) =
          (fun inner => (current ++ inner, (front ++ current).length + inner.length + 1)) ∘
            (t :: ·) := by
        funext inner
        simp [Nat.add_assoc, Nat.add_comm 1]
      rw [hplace] at hg hrel
      rw [hsame, ← Option.map_map] at hrel
      exact ⟨g, hg, hrel⟩
    unfold Segment.closeFrom Clause.untilClosed
    rw [ht.kind]
    cases hkind : t.kind with
    | leftParen => exact hpass (depth + 1)
    | rightParen =>
      cases depth with
      | zero =>
        obtain ⟨inner, hinner, hshows⟩ := h.exists_middle
        rw [← List.append_nil current] at hshows
        refine ⟨some (inner, (front ++ current).length + 1), ?_, .some ⟨hshows, rfl⟩⟩
        dsimp only
        rw [decrement, ok_bind, if_pos rfl, ← hopening, hinner]
        rfl
      | succ depth => exact hpass depth
    | word | quoted | comma | equals => exact hpass depth

/-- **The group of a segment** is where that of the clause stands, and nothing is taken from a depth
of zero. -/
theorem Shows.exists_group? (h : seg.Shows source c) (opening : Nat) :
    ∃ g, seg.group? opening = .ok g ∧ Option.Rel (ShowsGroup source) g (c.group? opening) := by
  have hall := List.forall₂_drop opening h.forall₂
  have hsplit := List.take_append_drop opening c
  rw [Segment.group?, Clause.group?]
  cases hdrop : c.drop opening with
  | nil =>
    rw [hdrop, List.forall₂_nil_right_iff] at hall
    rw [hall]
    exact ⟨none, rfl, .none⟩
  | cons t rest =>
    rw [hdrop] at hall hsplit
    obtain ⟨s, tokens, ht, hrest, htokens⟩ := List.forall₂_cons_right_iff.1 hall
    rw [htokens]
    dsimp only
    rw [ht.kind]
    by_cases hopen : t.kind = .leftParen
    · have hfront : (c.take opening ++ [t]).length = opening + 1 := by
        have hlength := congrArg List.length hdrop
        rw [List.length_drop, List.length_cons] at hlength
        rw [List.length_append, List.length_take, List.length_singleton]
        omega
      have hnext : c = c.take opening ++ [t] ++ [] ++ rest := by simpa using hsplit.symm
      obtain ⟨g, hg, hrel⟩ := exists_closeFrom hfront (hnext ▸ h) hrest 0
      rw [List.append_nil, hfront] at hg hrel
      rw [if_pos hopen, if_pos hopen, closeFrom, ht.kind, hopen]
      refine ⟨g, hg, ?_⟩
      simpa only [List.nil_append, Nat.add_right_comm] using hrel
    · rw [if_neg hopen, if_neg hopen]
      exact ⟨none, rfl, .none⟩

end Segment

end RecordQuery
