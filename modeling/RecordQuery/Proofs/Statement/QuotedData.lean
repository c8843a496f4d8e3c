import RecordQuery.Proofs.Statement.Command
import RecordQuery.Proofs.Statement.Substitution
import RecordQuery.Proofs.Token.Replacing

/-!
# Quoted data cannot change the structure of a statement

`parse_replaceToken`: when the content of one closed quoted string of a text is replaced, the text is
read as before but for the value that the string is.

* `Command.classify_alike`: a quoted string in the first word of a text is no part of a keyword.
-/

namespace RecordQuery

/-! ## The first word -/

/-- **A quoted string in a text does not change its command.** A text with a quote in its first word
has none. -/
theorem Command.classify_alike {front : List Char}
    (hstart : ∀ c ∈ front.head?, Text.isBlank c = false) (x y rest : List Char) :
    Agree (fun e e' => e.code = e'.code) Eq
      (Command.classify (front ++ ((Lexeme.quoted x true).chars ++ rest)))
      (Command.classify (front ++ ((Lexeme.quoted y true).chars ++ rest))) := by
  have hwords : ∀ body, ∃ others,
      Text.words (front ++ ((Lexeme.quoted body true).chars ++ rest)) =
        (front ++ ((Lexeme.quoted body true).chars ++ rest)).takeWhile
          (fun c => !Text.isBlank c) :: others := by
    intro body
    refine exists_words_eq_cons (by cases front <;> exact List.cons_ne_nil _ _) ?_
    cases front with
    | nil =>
      rintro c ⟨rfl⟩
      decide
    | cons c front => exact hstart
  obtain ⟨others, hx⟩ := hwords x
  obtain ⟨others', hy⟩ := hwords y
  unfold Command.classify
  rw [hx, hy]
  by_cases hblank : ∀ c ∈ front, Text.isBlank c = false
  · -- the quoted string is in the first word
    have hmem : ∀ body, quoteMark ∈
        (front ++ ((Lexeme.quoted body true).chars ++ rest)).takeWhile
          (fun c => !Text.isBlank c) := by
      intro body
      rw [List.takeWhile_append_of_pos (fun c hc => by rw [hblank c hc]; rfl)]
      exact List.mem_append_right _ List.mem_cons_self
    dsimp only
    rw [Command.ofKeyword?_upper_eq_none (by decide) (hmem x),
      Command.ofKeyword?_upper_eq_none (by decide) (hmem y)]
    exact rfl
  · -- the first word ends before it
    have hsame : ∀ tail : List Char, (front ++ tail).takeWhile (fun c => !Text.isBlank c) =
        front.takeWhile fun c => !Text.isBlank c := by
      intro tail
      rw [List.takeWhile_append, if_neg]
      intro hlength
      refine hblank fun c hc => ?_
      have hfront := (List.takeWhile_prefix _).eq_of_length hlength
      rw [← hfront] at hc
      simpa using List.all_eq_true.1 List.all_takeWhile c hc
    rw [hsame, hsame]
    dsimp only
    split
    · exact rfl
    · exact rfl

/-! ## Statements -/

/-- **Quoted data cannot change the structure of a statement.** When the content of a closed quoted
string is replaced, the tokens are of the same kinds, and the text is read as a statement of the same
command on the same set, or refused with the same code. Where the string is a whole value, the two
statements differ in this value only. -/
theorem parse_replaceToken {text : List Char} {position : Nat} {gap x y : List Char}
    (htoken : (tokenize text)[position]? = some ⟨gap, .quoted x true⟩) (hy : quoteMark ∉ y) :
    (tokenize (replaceToken text position (.quoted y true))).map Token.kind =
        (tokenize text).map Token.kind ∧
      Agree (fun e e' => e.code = e'.code)
        (fun s s' => s.command = s'.command ∧ s.target = s'.target ∧
          ∀ earlier part later,
            Clause.valueParts (tokenize (normalize text)) s.command = earlier ++ part :: later →
            part.position = position → part.tokens.length = 1 →
            Statement.DifferIn part later (String.ofList x) (String.ofList y) s s')
        (Statement.parse text) (Statement.parse (replaceToken text position (.quoted y true))) := by
  constructor
  · have hkind : ((tokenize text).map Token.kind)[position]? =
        some (Token.kind ⟨gap, .quoted y true⟩) := by
      rw [List.getElem?_map, htoken]
      rfl
    obtain ⟨hposition, hget⟩ := List.getElem?_eq_some_iff.1 hkind
    rw [tokenize_replaceToken htoken hy, List.map_set, ← hget, List.set_getElem_self]
  obtain ⟨front, before, -, rest, hlength, htext, hx, -, -, hleads, hreplace⟩ :=
    exists_replaceToken_eq htoken
  rw [hreplace]
  obtain ⟨kept, hkept⟩ := normalize_append rest
  obtain ⟨before', gap', hlength', hleads'⟩ := hleads.trimStart
  have hnormal : normalize text =
      Text.trimStart front ++ ((Lexeme.quoted x true).chars ++ kept) := by
    rw [htext, hkept]
  have hcommand := Command.classify_alike (head?_trimStart front) x y kept
  unfold Statement.parse
  dsimp only
  rw [hnormal, hkept, hleads' x kept hx, hleads' y kept hy]
  refine hcommand.bind ?_
  rintro command _ rfl
  have hread := Statement.ofClause_alike command (alike_replace before' (tokenize kept) gap' x y)
  refine Agree.mapError (hread.and_eq_ok.mono ?_) fun _ _ _ => rfl
  rintro s s' ⟨⟨hsame, htarget⟩, hs, hs'⟩
  refine ⟨hsame, htarget, fun earlier part later hparts hposition hwhole => ?_⟩
  rw [Statement.command_of_ofClause hs] at hparts
  obtain ⟨u, hwhole⟩ := List.length_eq_one_iff.1 hwhole
  obtain ⟨s'', hs'', hdiffer⟩ := Statement.ofClause_replace (y := y) hs hparts
    (by rw [hposition, hlength', hlength]) hwhole
  obtain rfl := Except.ok.inj (hs'.symm.trans hs'')
  exact hdiffer

/-- Marks and keywords in a quoted value stay in it. -/
theorem parse_replaceToken_insert :
    ∃ s s', Statement.parse "insert into a.b (PK, note) VALUES (1, 'x');".toList = .ok s ∧
      Statement.parse "insert into a.b (PK, note) VALUES (1, '), (WHERE; = ');".toList = .ok s' ∧
      s.valueAt? (.inserted 1) = some (.str "x") ∧
      s' = s.withString (.inserted 1) "), (WHERE; = " := by
  have htoken : (tokenize "insert into a.b (PK, note) VALUES (1, 'x');".toList)[12]? =
      some ⟨[' '], .quoted ['x'] true⟩ := by decide +kernel
  have hy : quoteMark ∉ "), (WHERE; = ".toList := by decide +kernel
  have htext : replaceToken "insert into a.b (PK, note) VALUES (1, 'x');".toList 12
      (.quoted "), (WHERE; = ".toList true) =
        "insert into a.b (PK, note) VALUES (1, '), (WHERE; = ');".toList := by decide +kernel
  have hcommand : (Statement.parse
      "insert into a.b (PK, note) VALUES (1, 'x');".toList).toOption.map Statement.command =
        some .insert := by decide +kernel
  have hparts : Clause.valueParts (tokenize (normalize
      "insert into a.b (PK, note) VALUES (1, 'x');".toList)) .insert =
        [⟨.inserted 0, 10, [⟨[], .word ['1']⟩]⟩] ++
          ⟨.inserted 1, 12, [⟨[' '], .quoted ['x'] true⟩]⟩ :: [] := by decide +kernel
  rcases agree_iff.1 (parse_replaceToken htoken hy).2 with
    ⟨s, s', hs, hs', -, -, hvalue⟩ | ⟨e, e', hs, -, -⟩
  · rw [hs] at hcommand
    have hinsert : s.command = .insert := Option.some.inj hcommand
    rw [hinsert] at hvalue
    obtain ⟨hold, -, hnew⟩ := (hvalue _ _ _ hparts rfl rfl).1 nofun
    exact ⟨s, s', hs, htext ▸ hs', hold, hnew⟩
  · rw [hs] at hcommand
    cases hcommand

end RecordQuery
