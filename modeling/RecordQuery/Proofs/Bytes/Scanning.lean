import RecordQuery.Proofs.Token.Spans

/-!
# Reading tokens by bytes

The tokens of a text as they are read at a place in its bytes, which moves on from character to
character. Each look at the text starts at a byte and can go wrong; none does.

* `charAt?`, `advance`, `skipWhile`: single steps and runs of them.
* `scan`: the tokens of a text.
* `skipWhile_eq`, `tokenAt_eq`, `nextToken?_eq`: what each reads where some text is already read.
* `scan_eq`: the tokens are those of `tokenize`, each at its place.
-/

namespace RecordQuery.Bytes

/-! ## Steps -/

/-- The character that begins at a place, if the text goes on. -/
def charAt? (text : List Char) (place : Nat) : Checked (Option Char) :=
  (fromByte text place).map List.head?

/-- The place after the character at a place. At the end of the text nothing moves. -/
def advance (text : List Char) (place : Nat) : Checked Nat :=
  (charAt? text place).map fun
    | some c => place + c.utf8Size
    | none => place

theorem charAt?_eq (before rest : List Char) :
    charAt? (before ++ rest) (byteLength before) = .ok rest.head? := by
  rw [charAt?, fromByte_byteLength]
  rfl

theorem advance_eq (before rest : List Char) :
    advance (before ++ rest) (byteLength before) = .ok (byteLength (before ++ rest.take 1)) := by
  rw [advance, charAt?_eq, byteLength_append]
  cases rest with
  | nil => rfl
  | cons c rest => rfl

theorem eq_append_of_charAt? {text : List Char} {place : Nat} {c? : Option Char}
    (h : charAt? text place = .ok c?) :
    ∃ before rest, text = before ++ rest ∧ byteLength before = place ∧ rest.head? = c? := by
  obtain ⟨rest, hrest, rfl⟩ := map_eq_ok_iff.1 h
  obtain ⟨before, htext, hplace⟩ := eq_append_of_fromByte hrest
  exact ⟨before, rest, htext, hplace, rfl⟩

theorem le_byteLength_of_charAt? {text : List Char} {place : Nat} {c : Char}
    (h : charAt? text place = .ok (some c)) : place + c.utf8Size ≤ byteLength text := by
  obtain ⟨before, rest, rfl, rfl, hc⟩ := eq_append_of_charAt? h
  obtain ⟨rest, rfl⟩ := List.head?_eq_some_iff.1 hc
  rw [byteLength_append, byteLength_cons]
  omega

/-- The place after the characters from a place on that have a property. -/
def skipWhile (text : List Char) (p : Char → Bool) (place : Nat) : Checked Nat :=
  match _current : charAt? text place with
  | .error panic => .error panic
  | .ok none => .ok place
  | .ok (some c) => if p c then skipWhile text p (place + c.utf8Size) else .ok place
termination_by byteLength text - place
decreasing_by
  have hc := Char.utf8Size_pos c
  have hle := le_byteLength_of_charAt? _current
  omega

theorem skipWhile_eq_bind (text : List Char) (p : Char → Bool) (place : Nat) :
    skipWhile text p place = charAt? text place >>= fun
      | none => .ok place
      | some c => if p c then skipWhile text p (place + c.utf8Size) else .ok place := by
  rw [skipWhile]
  split
  next panic hcurrent => rw [hcurrent]; rfl
  next hcurrent => rw [hcurrent]; rfl
  next c hcurrent => rw [hcurrent]; rfl

theorem skipWhile_eq {p : Char → Bool} (before rest : List Char) {passed : List Char}
    (hpassed : ∀ c ∈ passed, p c = true) (hrest : ∀ c ∈ rest.head?, p c = false) :
    skipWhile (before ++ (passed ++ rest)) p (byteLength before) =
      .ok (byteLength (before ++ passed)) := by
  induction passed generalizing before with
  | nil =>
    rw [skipWhile_eq_bind, charAt?_eq, ok_bind, List.nil_append, List.append_nil]
    cases hhead : rest.head? with
    | none => rfl
    | some c => exact if_neg (by simp [hrest c hhead])
  | cons c passed ih =>
    obtain ⟨hc, hpassed⟩ := List.forall_mem_cons.1 hpassed
    have hlater := ih (before ++ [c]) hpassed
    rw [byteLength_append, List.append_assoc, List.append_assoc] at hlater
    rw [skipWhile_eq_bind, charAt?_eq, ok_bind]
    exact (if_pos hc).trans hlater

theorem isBoundary_of_skipWhile {text : List Char} {p : Char → Bool} {place stop : Nat}
    (h : skipWhile text p place = .ok stop) : IsBoundary text place := by
  rw [skipWhile_eq_bind] at h
  obtain ⟨c?, hcurrent, -⟩ := bind_eq_ok_iff.1 h
  obtain ⟨before, rest, htext, hplace, -⟩ := eq_append_of_charAt? hcurrent
  exact ⟨before, rest, htext, hplace⟩

/-! ## Tokens -/

/-- The place after the quoted string that begins at a place. It goes on to the next quotation mark,
or to the end of the text. -/
def stringEnd (text : List Char) (place : Nat) : Checked Nat := do
  let body ← advance text place
  let mark ← skipWhile text (· != quoteMark) body
  advance text mark

/-- The kind of the token that begins with a character at a place, and the place after it. -/
def tokenAt (text : List Char) (c : Char) (place : Nat) : Checked (TokenKind × Nat) :=
  if c == ',' then (advance text place).map fun stop => (.comma, stop)
  else if c == '=' then (advance text place).map fun stop => (.equals, stop)
  else if c == '(' then (advance text place).map fun stop => (.leftParen, stop)
  else if c == ')' then (advance text place).map fun stop => (.rightParen, stop)
  else if c == quoteMark then (stringEnd text place).map fun stop => (.quoted, stop)
  else (skipWhile text isWordChar place).map fun stop => (.word, stop)

/-- The first token from a place on. -/
def nextToken? (text : List Char) (place : Nat) : Checked (Option Span) := do
  let start ← skipWhile text Text.isBlank place
  match ← charAt? text start with
  | none => return none
  | some c =>
    let (kind, stop) ← tokenAt text c start
    return some ⟨kind, start, stop⟩

theorem stringEnd_eq (before : List Char) {body mark after : List Char} (hbody : quoteMark ∉ body)
    (hmark : mark = [quoteMark] ∨ mark = [] ∧ after = []) :
    stringEnd (before ++ (quoteMark :: body ++ mark ++ after)) (byteLength before) =
      .ok (byteLength (before ++ (quoteMark :: body ++ mark))) := by
  generalize htext : before ++ (quoteMark :: body ++ mark ++ after) = text
  -- a closing mark is all that is left to pass, and without one nothing is left
  obtain ⟨htake, hhead⟩ : (mark ++ after).take 1 = mark ∧
      ∀ c ∈ (mark ++ after).head?, (c != quoteMark) = false := by
    obtain rfl | ⟨rfl, rfl⟩ := hmark <;> simp
  have hopening : advance text (byteLength before) = .ok (byteLength (before ++ [quoteMark])) := by
    rw [← htext]
    exact advance_eq before (quoteMark :: (body ++ mark ++ after))
  have hpassed : skipWhile text (· != quoteMark) (byteLength (before ++ [quoteMark])) =
      .ok (byteLength (before ++ [quoteMark] ++ body)) := by
    have hsplit : text = before ++ [quoteMark] ++ (body ++ (mark ++ after)) := by simp [← htext]
    rw [hsplit]
    exact skipWhile_eq _ _ (fun c hc => bne_iff_ne.2 fun heq => hbody (heq ▸ hc)) hhead
  have hclosing : advance text (byteLength (before ++ [quoteMark] ++ body)) =
      .ok (byteLength (before ++ [quoteMark] ++ body ++ mark)) := by
    have hsplit : text = before ++ [quoteMark] ++ body ++ (mark ++ after) := by simp [← htext]
    rw [hsplit, advance_eq, htake]
  rw [stringEnd, hopening, ok_bind, hpassed, ok_bind, hclosing]
  simp

theorem tokenAt_eq (before : List Char) {l : Lexeme} {c : Char} {cs after : List Char}
    (hproper : l.IsProper) (hends : l.EndsBefore after) (hchars : l.chars = c :: cs) :
    tokenAt (before ++ (l.chars ++ after)) c (byteLength before) =
      .ok (l.kind, byteLength (before ++ l.chars)) := by
  cases l with
  | word text =>
    obtain ⟨-, hall⟩ := hproper
    obtain rfl : text = c :: cs := hchars
    have hmark := isMark_of_isWordChar (hall c List.mem_cons_self)
    simp only [isMark, Bool.or_eq_false_iff] at hmark
    obtain ⟨⟨⟨⟨hcomma, hequals⟩, hleft⟩, hright⟩, hquote⟩ := hmark
    have hword : skipWhile (before ++ (c :: cs ++ after)) isWordChar (byteLength before) =
        .ok (byteLength (before ++ c :: cs)) := skipWhile_eq before after hall hends
    simp only [tokenAt, hcomma, hequals, hleft, hright, hquote, Bool.false_eq_true, if_false,
      Lexeme.chars, hword]
    rfl
  | quoted body closed =>
    obtain ⟨rfl, rfl⟩ := List.cons.inj hchars
    have hmark : (if closed then [quoteMark] else []) = [quoteMark] ∨
        (if closed then [quoteMark] else []) = [] ∧ after = [] := by
      cases closed with
      | true => exact .inl rfl
      | false => exact .inr ⟨rfl, hends rfl⟩
    have hstop := stringEnd_eq before hproper hmark
    rw [Lexeme.chars]
    exact congrArg (Except.map fun stop => (TokenKind.quoted, stop)) hstop
  | comma | equals | leftParen | rightParen =>
    obtain ⟨rfl, rfl⟩ := List.cons.inj hchars
    simp only [tokenAt, Lexeme.chars, advance_eq]
    rfl

theorem nextToken?_eq (before rest : List Char) :
    nextToken? (before ++ rest) (byteLength before) =
      .ok (Clause.located (byteLength before) (tokenize rest)).head? := by
  cases htokens : tokenize rest with
  | nil =>
    have hskip := skipWhile_eq before [] (tokenize_eq_nil_iff.1 htokens) (by simp)
    have hend := charAt?_eq (before ++ rest) []
    rw [List.append_nil] at hskip hend
    rw [nextToken?, hskip, ok_bind, hend]
    rfl
  | cons t tokens =>
    obtain ⟨after, rfl, hfits, -⟩ := tokenize_eq_cons_iff.1 htokens
    obtain ⟨c, cs, hchars, hc, -⟩ := Lexeme.exists_chars_eq_cons hfits.proper
    have hhead : (t.chars ++ after).head? = some c := by rw [Token.chars, hchars]; rfl
    have hskip := skipWhile_eq before (t.chars ++ after) hfits.gap
      (by rw [hhead]; rintro d ⟨rfl⟩; exact hc)
    have hcurrent := charAt?_eq (before ++ t.gap) (t.chars ++ after)
    have htoken := tokenAt_eq (before ++ t.gap) hfits.proper hfits.ends hchars
    rw [hhead, List.append_assoc] at hcurrent
    rw [List.append_assoc] at htoken
    rw [nextToken?, List.append_assoc, hskip, ok_bind, hcurrent, ok_bind]
    dsimp only
    rw [Token.chars, htoken, ok_bind, Clause.located_cons]
    simp only [Token.kind, Token.chars, byteLength_append, Nat.add_assoc, List.head?_cons]
    rfl

theorem lt_stop_of_nextToken? {text : List Char} {place : Nat} {s : Span}
    (h : nextToken? text place = .ok (some s)) : place < s.stop ∧ s.stop ≤ byteLength text := by
  obtain ⟨start, hstart, -⟩ := bind_eq_ok_iff.1 h
  obtain ⟨before, rest, rfl, rfl⟩ := isBoundary_of_skipWhile hstart
  rw [nextToken?_eq] at h
  cases htokens : tokenize rest with
  | nil => rw [htokens] at h; cases h
  | cons t tokens =>
    rw [htokens, Clause.located_cons] at h
    obtain rfl := Option.some.inj (Except.ok.inj h)
    obtain ⟨after, rfl, hfits, -⟩ := tokenize_eq_cons_iff.1 htokens
    obtain ⟨c, cs, hchars, -⟩ := Lexeme.exists_chars_eq_cons hfits.proper
    have hpos : 0 < byteLength t.chars :=
      byteLength_pos (by rw [Token.chars, hchars]; exact List.cons_ne_nil c cs)
    simp only [byteLength_append]
    omega

def scanFrom (text : List Char) (place : Nat) : Checked (List Span) :=
  match _next : nextToken? text place with
  | .error panic => .error panic
  | .ok none => .ok []
  | .ok (some s) => (scanFrom text s.stop).map fun later => s :: later
termination_by byteLength text - place
decreasing_by
  have hs := lt_stop_of_nextToken? _next
  omega

def scan (text : List Char) : Checked (List Span) :=
  scanFrom text 0

theorem scanFrom_eq_bind (text : List Char) (place : Nat) :
    scanFrom text place = nextToken? text place >>= fun
      | none => .ok []
      | some s => (scanFrom text s.stop).map fun later => s :: later := by
  rw [scanFrom]
  split
  next panic hnext => rw [hnext]; rfl
  next hnext => rw [hnext]; rfl
  next s hnext => rw [hnext]; rfl

theorem scanFrom_eq (before rest : List Char) :
    scanFrom (before ++ rest) (byteLength before) =
      .ok (Clause.located (byteLength before) (tokenize rest)) := by
  generalize htokens : tokenize rest = tokens
  induction tokens generalizing before rest with
  | nil =>
    rw [scanFrom_eq_bind, nextToken?_eq, htokens]
    rfl
  | cons t tokens ih =>
    obtain ⟨after, rfl, -, hafter⟩ := tokenize_eq_cons_iff.1 htokens
    have hlater := ih (before ++ (t.gap ++ t.chars)) after hafter
    rw [byteLength_append, List.append_assoc] at hlater
    rw [scanFrom_eq_bind, nextToken?_eq, htokens, ok_bind, Clause.located_cons, List.head?_cons]
    dsimp only
    rw [hlater]
    rfl

/-- **Reading a text by bytes never panics**, and its tokens are read, each at its place. -/
theorem scan_eq (text : List Char) : scan text = .ok (Clause.located 0 (tokenize text)) :=
  scanFrom_eq [] text

end RecordQuery.Bytes
