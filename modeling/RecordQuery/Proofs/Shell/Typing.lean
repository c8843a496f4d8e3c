import Mathlib.Data.List.Induction
import RecordQuery.Proofs.Shell.Sessions
import RecordQuery.Proofs.Token.Lines

/-!
# Statements that are typed in lines

A statement that is typed over several lines is submitted as one text after its last line.

* `Shell.runAll_of_lines`: the lines of an input are steps of a shell.
* `Shell.typed`: the text of a statement in lines. `Shell.feed_typed`: each line is added to it.
* `Shell.steps_statement`: the lines up to the first one that ends in a semicolon are submitted as one
  statement, which is read as the lines are.
-/

namespace RecordQuery

/-! ## Joined lines -/

theorem intercalate_concat (separator : List Char) {pieces : List (List Char)}
    (hne : pieces ≠ []) (piece : List Char) :
    List.intercalate separator (pieces ++ [piece]) =
      List.intercalate separator pieces ++ separator ++ piece := by
  induction pieces with
  | nil => exact absurd rfl hne
  | cons first rest ih =>
    cases rest with
    | nil => simp
    | cons second rest =>
      have hrest := ih (List.cons_ne_nil _ _)
      simp only [List.cons_append, List.intercalate_cons_cons, List.append_assoc] at hrest ⊢
      rw [hrest]

namespace Shell

theorem steps_concat {shell after : Shell} {lines : List (List Char)} {emissions : List Emission}
    (h : shell.steps lines = (emissions, some after)) (line : List Char) :
    shell.steps (lines ++ [line]) =
      (emissions ++ (after.step line).1, (after.step line).2) := by
  induction lines generalizing shell emissions with
  | nil =>
    obtain ⟨rfl, rfl⟩ : emissions = [] ∧ after = shell := by
      simpa [steps, eq_comm] using h
    simp only [List.nil_append, steps]
    split <;> simp_all
  | cons first rest ih =>
    rw [List.cons_append, steps]
    rw [steps] at h
    split at h
    next first' shell' hstep =>
      simp only [Prod.mk.injEq] at h
      obtain ⟨rfl, hlast⟩ := h
      simp only [ih (Prod.ext rfl hlast), List.append_assoc]
    next => simp at h

/-! ## Inputs -/

theorem splitOn_lines {lines : List (List Char)} (h : ∀ line ∈ lines, '\n' ∉ line) :
    (lines.flatMap (· ++ ['\n'])).splitOn '\n' = lines ++ [[]] := by
  induction lines with
  | nil => rfl
  | cons line rest ih =>
    obtain ⟨hline, hrest⟩ := List.forall_mem_cons.1 h
    have hkept : ∀ c ∈ line, (c == '\n') = false := fun c hc =>
      beq_eq_false_iff_ne.2 fun heq => hline (heq ▸ hc)
    rw [List.flatMap_cons, List.append_assoc, List.singleton_append, List.splitOn,
      List.splitOnP_append_cons_of_forall_mem hkept _ (beq_self_eq_true '\n'), ← List.splitOn,
      ih hrest, List.cons_append]

theorem inputLines_of_lines {lines : List (List Char)} (hbreaks : ∀ line ∈ lines, '\n' ∉ line)
    (hbackspaces : ∀ line ∈ lines, '\x08' ∉ line) :
    inputLines (lines.flatMap (· ++ ['\n'])) = lines := by
  unfold inputLines
  rw [splitOn_lines hbreaks]
  dsimp only
  rw [if_pos List.getLast?_concat, List.dropLast_concat]
  have herase : ∀ line ∈ lines, Text.erase line = line := fun line hline =>
    Text.erase_of_not_mem (hbackspaces line hline)
  rw [List.map_congr_left herase, List.map_id']

/-- An input without backspaces is taken line by line. -/
theorem runAll_of_lines (shell : Shell) {lines : List (List Char)}
    (hbreaks : ∀ line ∈ lines, '\n' ∉ line) (hbackspaces : ∀ line ∈ lines, '\x08' ∉ line) :
    shell.runAll (lines.flatMap (· ++ ['\n'])) = welcome ++ (shell.steps lines).1 ++ farewell := by
  rw [runAll, inputLines_of_lines hbreaks hbackspaces]

/-! ## Statements -/

/-- Whether a line ends in a semicolon, up to blanks. -/
def EndsStatement (line : List Char) : Prop :=
  (Text.trim line).getLast? = some ';'

instance (line : List Char) : Decidable (EndsStatement line) :=
  inferInstanceAs (Decidable (_ = _))

/-- Whether a line begins a statement: it is not blank and no dot-command. -/
def BeginsStatement (line : List Char) : Prop :=
  Text.trim line ≠ [] ∧ (Text.trim line).head? ≠ some '.'

instance (line : List Char) : Decidable (BeginsStatement line) :=
  inferInstanceAs (Decidable (_ ∧ _))

/-- The text of lines that are typed one after the other, without the blanks around them. -/
def typed (lines : List (List Char)) : List Char :=
  List.intercalate [' '] (lines.map Text.trim)

theorem typed_concat {lines : List (List Char)} (hne : lines ≠ []) (line : List Char) :
    typed (lines ++ [line]) = typed lines ++ ' ' :: Text.trim line := by
  have hmap : lines.map Text.trim ≠ [] := by simpa using hne
  unfold typed
  rw [List.map_append, List.map_singleton, intercalate_concat _ hmap]
  simp

theorem begins_of_append {lines rest : List (List Char)}
    (h : ∀ first ∈ (lines ++ rest).head?, BeginsStatement first) :
    ∀ first ∈ lines.head?, BeginsStatement first := by
  intro first hfirst
  apply h
  rw [List.head?_append, Option.mem_def.1 hfirst]
  rfl

theorem typed_begins {lines : List (List Char)} (hne : lines ≠ [])
    (h : ∀ first ∈ lines.head?, BeginsStatement first) :
    typed lines ≠ [] ∧ (typed lines).head? ≠ some '.' := by
  obtain ⟨first, rest, rfl⟩ := List.exists_cons_of_ne_nil hne
  obtain ⟨hfirst, hdot⟩ := h first rfl
  obtain ⟨c, chars, htrim⟩ := List.exists_cons_of_ne_nil hfirst
  have hhead : (typed (first :: rest)).head? = (Text.trim first).head? := by
    unfold typed
    cases rest with
    | nil => simp
    | cons next rest => simp [List.intercalate_cons_cons, htrim]
  refine ⟨fun hnil => ?_, hhead ▸ hdot⟩
  rw [hnil, htrim] at hhead
  cases hhead

theorem getLast?_trimEnd_typed_concat (lines : List (List Char)) (line : List Char) :
    (Text.trimEnd (typed (lines ++ [line]))).getLast? =
      (Text.trim line).getLast?.or (Text.trimEnd (typed lines)).getLast? := by
  by_cases hlines : lines = []
  · subst hlines
    simp [typed, Text.trimEnd_trim]
  · rw [typed_concat hlines, Text.getLast?_trimEnd_append]

theorem getLast?_trimEnd_typed_ne {lines : List (List Char)}
    (h : ∀ line ∈ lines, ¬EndsStatement line) :
    (Text.trimEnd (typed lines)).getLast? ≠ some ';' := by
  induction lines using List.reverseRecOn with
  | nil => simp [typed]
  | append_singleton lines line ih =>
    have hline : ¬EndsStatement line := h line (by simp)
    have hlines := ih fun other hother => h other (by simp [hother])
    intro hends
    rw [getLast?_trimEnd_typed_concat, Option.or_eq_some_iff] at hends
    obtain hends | ⟨-, hends⟩ := hends
    · exact hline hends
    · exact hlines hends

/-- **A line is added to what is typed**, and ends the statement if it ends in a semicolon. -/
theorem feed_typed {lines : List (List Char)} {line : List Char}
    (hbegins : ∀ first ∈ (lines ++ [line]).head?, BeginsStatement first)
    (hlines : ∀ other ∈ lines, ¬EndsStatement other) :
    feed (typed lines) line =
      if EndsStatement line then .statement (typed (lines ++ [line]))
      else .incomplete (typed (lines ++ [line])) := by
  have htext : (if (typed lines).isEmpty then Text.trim line
      else typed lines ++ ' ' :: Text.trim line) = typed (lines ++ [line]) := by
    by_cases hnil : lines = []
    · subst hnil
      simp [typed]
    · have hne := (typed_begins hnil (begins_of_append hbegins)).1
      rw [typed_concat hnil, if_neg (by simpa using hne)]
  obtain ⟨hne, hdot⟩ := typed_begins (by simp) hbegins
  have hend : (Text.trimEnd (typed (lines ++ [line]))).getLast? = some ';' ↔ EndsStatement line := by
    simp [getLast?_trimEnd_typed_concat, getLast?_trimEnd_typed_ne hlines, EndsStatement]
  unfold feed
  simp only [htext]
  by_cases hline : EndsStatement line
  · simp [isComplete, hne, hdot, hend, hline]
  · simp [isComplete, hne, hdot, hend, hline]

/-- **Lines that do not end a statement are kept**, and nothing is printed or submitted for them. -/
theorem steps_typed {shell : Shell} (hbuffer : shell.buffer = []) {lines : List (List Char)}
    (hbegins : ∀ first ∈ lines.head?, BeginsStatement first)
    (hlines : ∀ line ∈ lines, ¬EndsStatement line) :
    shell.steps lines = ([], some { shell with buffer := typed lines }) := by
  induction lines using List.reverseRecOn with
  | nil =>
    have hshell : { shell with buffer := [] } = shell := by rw [← hbuffer]
    exact congrArg (fun shell => ([], some shell)) hshell.symm
  | append_singleton lines line ih =>
    have hkept : ∀ other ∈ lines, ¬EndsStatement other := fun other hother =>
      hlines other (List.mem_append_left _ hother)
    have hfeed := feed_typed hbegins hkept
    rw [if_neg (hlines line (by simp))] at hfeed
    rw [steps_concat (ih (begins_of_append hbegins) hkept)]
    simp [step, hfeed]

/-- **A statement that is typed in lines is submitted as one text**, after its last line. Before that
nothing is printed or submitted and all that changes is what is typed so far, whatever the lines
after the first one begin with. With its last line the shell submits this one request; if no other one
waits, it runs on the store as it is, and its deliveries are printed. The text is read as the lines
are. -/
theorem steps_statement {shell : Shell} (hbuffer : shell.buffer = []) {lines : List (List Char)}
    (hfirst : ∀ first ∈ lines.head?, BeginsStatement first)
    (hlast : ∃ last ∈ lines.getLast?, EndsStatement last)
    (hothers : ∀ line ∈ lines.dropLast, ¬EndsStatement line)
    (hquoted : ∀ l ∈ lexemes (List.intercalate ['\n'] lines), l.IsInLine) :
    let text := String.ofList (typed lines)
    (∀ count < lines.length, ∃ buffer,
      shell.steps (lines.take count) = ([], some { shell with buffer })) ∧
    (∃ emissions after, shell.steps lines = (emissions, some after) ∧
      after.buffer = [] ∧
      after.session.submitted = shell.session.submitted ++ [.statement text] ∧
      (shell.session.engine.AtRest →
        let engine := shell.session.engine
        let run := (Request.statement text).run engine.executor engine.workspace
        emissions = emit shell.format run.1 ++ (if shell.timing then [.elapsed] else []) ∧
          after.session.engine = { engine with workspace := run.2 } ∧
          after.session.engine.AtRest)) ∧
    lexemes text.toList = lexemes (List.intercalate ['\n'] lines) := by
  intro text
  obtain ⟨last, hlast, hends⟩ := hlast
  obtain ⟨init, rfl⟩ := List.getLast?_eq_some_iff.1 hlast
  rw [List.dropLast_concat] at hothers
  refine ⟨fun count hcount => ?_, ?_, ?_⟩
  · have hcount' : count ≤ init.length := by
      simpa [Nat.lt_succ_iff] using hcount
    rw [List.take_append_of_le_length hcount']
    refine ⟨_, steps_typed hbuffer ?_ fun line hline => hothers line (List.mem_of_mem_take hline)⟩
    have hsplit := begins_of_append hfirst
    rw [← List.take_append_drop count init] at hsplit
    exact begins_of_append hsplit
  · have hfeed := feed_typed hfirst hothers
    rw [if_pos hends] at hfeed
    let waiting : Shell := { shell with buffer := typed init }
    have hsubmission : submission? waiting.buffer last = some (.statement text) := by
      simp [submission?, waiting, hfeed, text]
    obtain ⟨emissions, after, hstep, hafter⟩ := step_submits hsubmission
    refine ⟨emissions, after, ?_, hafter⟩
    rw [steps_concat (steps_typed hbuffer (begins_of_append hfirst) hothers), hstep]
    rfl
  · rw [String.toList_ofList]
    exact lexemes_intercalate_trim hquoted

/-- An insertion with a blank line, a line that begins with a point and a quoted semicolon. -/
theorem steps_statement_points :
    let shell : Shell :=
      { session :=
          { engine :=
              { executor := { client := Store.client }
                workspace := { store := .empty {} }
                queryQueue := { name := "query" }
                writeQueue := { name := "write" } } }
        format := .table }
    let lines := ["INSERT INTO a.b (Pk, n) ".toList, "VALUES (';', ".toList, [], "\t.5 ) ; ".toList]
    ∃ text waiting after,
      shell.steps (lines.take 3) = ([], some waiting) ∧ waiting.session.submitted = [] ∧
      shell.steps lines = ([.line "Record inserted: a.b.;", .elapsed], some after) ∧
      after.session.submitted = [.statement text] ∧
      (after.session.engine.workspace.store.find? ⟨"a", "b", ";"⟩).isSome = true ∧
      lexemes text.toList = lexemes "INSERT INTO a.b (Pk, n)\nVALUES (';', .5 ) ;".toList := by
  intro shell lines
  have hquoted : ∀ l ∈ lexemes (List.intercalate ['\n'] lines), l.IsInLine := by
    decide +kernel
  have hbuffer : shell.buffer = [] := rfl
  have hfirst : ∀ first ∈ lines.head?, BeginsStatement first := by decide
  have hothers : ∀ line ∈ lines.dropLast, ¬EndsStatement line := by decide
  have hrest : shell.session.engine.AtRest :=
    ⟨fun kind => by cases kind <;> rfl, fun kind => by cases kind <;> rfl, rfl⟩
  obtain ⟨hkept, ⟨emissions, after, hsteps, -, hsubmitted, hrun⟩, hlexemes⟩ :=
    steps_statement hbuffer hfirst ⟨_, rfl, by decide⟩ hothers hquoted
  obtain ⟨rfl, hengine, -⟩ := hrun hrest
  obtain ⟨buffer, hbefore⟩ := hkept 3 (by decide)
  refine ⟨_, _, after, hbefore, rfl, ?_, hsubmitted, ?_, ?_⟩
  · rw [hsteps]
    exact congrArg (fun emissions => (emissions, some after)) (by decide +kernel)
  · rw [hengine]
    decide +kernel
  · rw [hlexemes]
    decide +kernel

end Shell

end RecordQuery
