import RecordQuery.Proofs.Bytes.Segments

/-!
# Reading statements by bytes

The grammar of statements over segments. A reading may panic, and else it ends as that of the clause.

* `Literal.coerceBytes`: the literal of a text, its quotation marks cut off by places.
* `Reading`, `settled`: readings, and those that do not panic.
* `SelectStatement.ofSegment`, `InsertStatement.ofSegment`, `DeleteStatement.ofSegment`,
  `UpdateStatement.ofSegment`: the four shapes.
* `Statement.parseBytes`: a statement of a text.
* `parseBytes_eq`: it is read as by `Statement.parse`, and nothing panics.
-/

namespace RecordQuery

/-! ## Literals -/

/-- The literal of a text. The marks around a quoted text are cut off, one byte at each end; any other
text is typed as a whole. -/
def Literal.coerceBytes (raw : List Char) : Checked Literal :=
  let text := Text.trim raw
  if 2 ≤ byteLength text ∧ text.head? = some quoteMark ∧ text.getLast? = some quoteMark then do
    let stop ← decrement (byteLength text)
    let inner ← sliceBytes text 1 stop
    return .str (String.ofList inner)
  else .ok (Literal.ofTrimmed text)

def Assignment.ofRawBytes (raw : List Char) : Checked Assignment := do
  let written := Text.trim raw
  let value ← Literal.coerceBytes written
  return { value, text := value.asStr?.getD (String.ofList written) }

theorem Literal.coerceBytes_eq (raw : List Char) :
    Literal.coerceBytes raw = .ok (Literal.coerce raw) := by
  rw [Literal.coerceBytes, Literal.coerce]
  generalize Text.trim raw = text
  split
  next hquoted =>
    obtain ⟨hlength, hfirst, hlast⟩ := hquoted
    obtain ⟨rest, rfl⟩ := List.head?_eq_some_iff.1 hfirst
    -- there is a second byte, so the last mark is another one than the first
    have hne : rest ≠ [] := by
      rintro rfl
      exact absurd hlength (by decide)
    rw [List.getLast?_cons_of_ne_nil hne] at hlast
    obtain ⟨inner, rfl⟩ := List.getLast?_eq_some_iff.1 hlast
    have hstop : byteLength (quoteMark :: (inner ++ [quoteMark])) =
        byteLength (quoteMark :: inner) + 1 :=
      byteLength_append (quoteMark :: inner) [quoteMark]
    have hslice : sliceBytes (quoteMark :: (inner ++ [quoteMark])) 1
        (byteLength (quoteMark :: inner)) = .ok inner :=
      sliceBytes_eq_ok_iff.2 ⟨[quoteMark], [quoteMark], by simp, rfl, by simp⟩
    have hunquote : unquote? (quoteMark :: (inner ++ [quoteMark])) = some inner := by
      simp [unquote?]
    rw [hstop, decrement, ok_bind, hslice, ok_bind, ofTrimmed, hunquote]
    rfl
  next => rfl

theorem Assignment.ofRawBytes_eq (raw : List Char) :
    Assignment.ofRawBytes raw = .ok (Assignment.ofRaw raw) := by
  rw [Assignment.ofRawBytes, Literal.coerceBytes_eq]
  rfl

/-! ## Readings -/

/-- A reading of a statement: it may panic, and else it comes to a result or to a syntax error. -/
abbrev Reading (α : Type) : Type := ExceptT SyntaxError Checked α

variable {α β γ δ : Type}

/-- A reading that does not panic. -/
def settled (outcome : Except SyntaxError α) : Reading α :=
  ExceptT.mk (.ok outcome)

theorem liftM_ok_bind (x : α) (f : α → Reading β) :
    ((liftM (Except.ok x : Checked α) : Reading α) >>= f) = f x := rfl

theorem settled_bind {outcome : Except SyntaxError α} {f : α → Reading β}
    {g : α → Except SyntaxError β} (h : ∀ x, f x = settled (g x)) :
    settled outcome >>= f = settled (outcome >>= g) := by
  cases outcome with
  | ok x => exact h x
  | error e => rfl

theorem map_settled (outcome : Except SyntaxError α) (f : α → β) :
    (settled outcome).map f = settled (outcome.map f) := by
  cases outcome <;> rfl

theorem settled_orElse_bind {R : α → γ → Prop} {x : Option α} {y : Option γ}
    {f : α → Reading β} {g : γ → Except SyntaxError β} (e : SyntaxError) (h : Option.Rel R x y)
    (hf : ∀ a c, R a c → f a = settled (g c)) :
    settled (e.orElse x) >>= f = settled (e.orElse y >>= g) := by
  cases h with
  | none => rfl
  | some hx => exact hf _ _ hx

theorem mapM_eq_settled {R : α → γ → Prop} {l : List α} {l' : List γ} {f : α → Reading β}
    {g : γ → Except SyntaxError β} (h : List.Forall₂ R l l')
    (hf : ∀ a c, R a c → f a = settled (g c)) : l.mapM f = settled (l'.mapM g) := by
  induction h with
  | nil => rfl
  | cons hfirst _ ih =>
    rw [List.mapM_cons, List.mapM_cons, hf _ _ hfirst]
    refine settled_bind fun x => ?_
    rw [ih]
    exact settled_bind fun _ => rfl

theorem run_mapM_eq {R : α → γ → Prop} {l : List α} {l' : List γ} {f : α → Checked (Option β)}
    {g : γ → Option β} (h : List.Forall₂ R l l') (hf : ∀ a c, R a c → f a = .ok (g c)) :
    (l.mapM fun a => OptionT.mk (f a)).run = .ok (l'.mapM g) := by
  induction h with
  | nil => rfl
  | @cons a c l l' hfirst _ ih =>
    rw [List.mapM_cons, List.mapM_cons, OptionT.run_bind, OptionT.run_mk, hf _ _ hfirst,
      Option.elimM, ok_bind]
    cases g c with
    | none => rfl
    | some b =>
      dsimp only [Option.elim]
      rw [OptionT.run_bind, ih]
      cases l'.mapM g <;> rfl

/-! ## Parts -/

namespace Segment

def name (seg : Segment) : Checked String :=
  seg.text.map String.ofList

def dottedWordAt? (seg : Segment) (position : Nat) : Checked (Option (List Char)) :=
  (seg.wordAt? position).map fun word => word.filter fun word => word.contains '.'

/-- The two sides of the only equals sign of a segment; neither may be empty. -/
def equality? (seg : Segment) : Checked (Option Equality) := do
  match ← seg.splitOn .equals with
  | [bin, value] =>
    if bin.tokens.isEmpty || value.tokens.isEmpty then return none
    else return some { bin := ← bin.name, value := ← Literal.coerceBytes (← value.text) }
  | _ => return none

/-- The name of a bin to show, which may be neither empty nor a star. -/
def binName? (part : Segment) : Checked (Option String) :=
  part.text.map fun text =>
    if text.isEmpty || text == ['*'] then none else some (String.ofList text)

/-- The names of a list of bins; there is at least one. -/
def binNames? (seg : Segment) : Checked (Option (List String)) := do
  if seg.tokens.isEmpty then return none
  else
    let parts ← seg.splitOn .comma
    (parts.mapM fun part => OptionT.mk part.binName?).run

/-- The bins that a selection shows: all of them for a star, else the listed ones. -/
def projection? (seg : Segment) : Checked (Option BinSelection) := do
  if (← seg.singleWord?) == some ['*'] then return some .all
  else return (← seg.binNames?).map .named

def assignment (seg : Segment) : Reading (String × Assignment) := do
  match ← seg.splitOn .equals with
  | [bin, value] =>
    if bin.tokens.isEmpty then settled (.error (.updatePair (← seg.name)))
    else if value.tokens.isEmpty then settled (.error (.updateValue (← seg.name)))
    else return (← bin.name, ← Assignment.ofRawBytes (← value.text))
  | _ => settled (.error (.updatePair (← seg.name)))

/-- The assignments of an update, of which the last one to a bin counts. -/
def assignments (seg : Segment) : Reading (SortedMap Assignment) := do
  if seg.tokens.isEmpty then return .empty
  else
    let parts ← seg.splitOn .comma
    return SortedMap.ofList (← parts.mapM assignment)

/-- The columns of an insertion, none of which may be empty. -/
def columns (seg : Segment) : Reading (List String) := do
  let parts ← seg.splitOn .comma
  parts.mapM fun part => do
    let text ← part.text
    if text.isEmpty then settled (.error .insertShape) else return String.ofList text

/-- The values of an insertion, none of which may be empty. -/
def values (parts : List Segment) : Reading (List Literal) :=
  parts.mapM fun part => do
    let text ← part.text
    if text.isEmpty then settled (.error (.insertValue (String.ofList text)))
    else return ← Literal.coerceBytes text

variable {source : List Char} {seg : Segment} {c : Clause}

theorem Shows.isEmpty_eq (h : seg.Shows source c) : seg.tokens.isEmpty = c.isEmpty := by
  rw [Bool.eq_iff_iff, List.isEmpty_iff_length_eq_zero, List.isEmpty_iff_length_eq_zero,
    h.length_eq]

theorem Shows.name_eq (h : seg.Shows source c) : seg.name = .ok c.name := by
  rw [Segment.name, h.text_eq]
  rfl

theorem Shows.dottedWordAt?_eq (h : seg.Shows source c) (position : Nat) :
    seg.dottedWordAt? position = .ok (c.dottedWordAt? position) := by
  rw [Segment.dottedWordAt?, h.wordAt?_eq]
  rfl

theorem Shows.equality?_eq (h : seg.Shows source c) : seg.equality? = .ok c.equality? := by
  obtain ⟨parts, hparts, hall⟩ := h.exists_splitOn .equals
  rw [Segment.equality?, hparts, ok_bind, Clause.equality?]
  generalize c.splitOn .equals = clauses at hall
  rcases hall with _ | ⟨hbin, _ | ⟨hvalue, _ | ⟨_, _⟩⟩⟩
  · rfl
  · rfl
  · dsimp only
    rw [hbin.isEmpty_eq, hvalue.isEmpty_eq]
    split
    · rfl
    · rw [hbin.name_eq, ok_bind, hvalue.text_eq, ok_bind, Literal.coerceBytes_eq]
      rfl
  · rfl

theorem Shows.binName?_eq (h : seg.Shows source c) :
    seg.binName? = .ok (if c.text.isEmpty || c.text == ['*'] then none else some c.name) := by
  rw [Segment.binName?, h.text_eq]
  rfl

theorem Shows.binNames?_eq (h : seg.Shows source c) : seg.binNames? = .ok c.binNames? := by
  obtain ⟨parts, hparts, hall⟩ := h.exists_splitOn .comma
  rw [Segment.binNames?, Clause.binNames?, h.isEmpty_eq]
  split
  · rfl
  · rw [hparts, ok_bind]
    exact run_mapM_eq hall fun part clause hpart => hpart.binName?_eq

theorem Shows.projection?_eq (h : seg.Shows source c) : seg.projection? = .ok c.projection? := by
  rw [Segment.projection?, Clause.projection?, h.singleWord?_eq, ok_bind]
  split
  · rfl
  · rw [h.binNames?_eq]
    rfl

theorem Shows.assignment_eq (h : seg.Shows source c) : seg.assignment = settled c.assignment := by
  obtain ⟨parts, hparts, hall⟩ := h.exists_splitOn .equals
  rw [Segment.assignment, hparts, liftM_ok_bind, Clause.assignment]
  generalize c.splitOn .equals = clauses at hall
  rcases hall with _ | ⟨hbin, _ | ⟨hvalue, _ | ⟨_, _⟩⟩⟩
  · dsimp only
    rw [h.name_eq]
    rfl
  · dsimp only
    rw [h.name_eq]
    rfl
  · dsimp only
    rw [hbin.isEmpty_eq, hvalue.isEmpty_eq]
    split
    · rw [h.name_eq]
      rfl
    · split
      · rw [h.name_eq]
        rfl
      · rw [hbin.name_eq, liftM_ok_bind, hvalue.text_eq, liftM_ok_bind, Assignment.ofRawBytes_eq]
        rfl
  · dsimp only
    rw [h.name_eq]
    rfl

theorem Shows.assignments_eq (h : seg.Shows source c) : seg.assignments = settled c.assignments := by
  obtain ⟨parts, hparts, hall⟩ := h.exists_splitOn .comma
  rw [Segment.assignments, Clause.assignments, h.isEmpty_eq]
  split
  · rfl
  · rw [hparts, liftM_ok_bind, mapM_eq_settled hall fun part clause hpart => hpart.assignment_eq]
    exact settled_bind fun _ => rfl

theorem Shows.columns_eq (h : seg.Shows source c) : seg.columns = settled c.columns := by
  obtain ⟨parts, hparts, hall⟩ := h.exists_splitOn .comma
  rw [Segment.columns, Clause.columns, hparts, liftM_ok_bind]
  refine mapM_eq_settled hall fun part clause hpart => ?_
  rw [hpart.text_eq, liftM_ok_bind]
  split <;> rfl

theorem values_eq {parts : List Segment} {clauses : List Clause}
    (h : List.Forall₂ (Shows source) parts clauses) :
    values parts = settled (Clause.values clauses) := by
  refine mapM_eq_settled h fun part clause hpart => ?_
  rw [hpart.text_eq, liftM_ok_bind, Literal.coerceBytes_eq]
  split <;> rfl

end Segment

/-! ## Statements -/

/-- The rest of a selection, once its bins are read: the set and the condition, if there is one. -/
def SelectStatement.ofSegments (bins : BinSelection) (target : Segment)
    (condition : Option Segment) : Reading SelectStatement := do
  let word ← target.singleWord?
  let target ← settled (SyntaxError.selectTarget.orElse (word.bind SetName.parse?))
  match condition with
  | none => return { target, bins, predicate := none }
  | some condition =>
    let predicate ← settled (SyntaxError.selectCondition.orElse (← condition.equality?))
    return { target, bins, predicate := some predicate }

/-- Reads `SELECT bins FROM set` with `WHERE bin = value` or without. -/
def SelectStatement.ofSegment (seg : Segment) : Reading SelectStatement := do
  match ← seg.keywordPositions "FROM" with
  | [start] =>
    let shown ← seg.slice 1 start
    let bins ← settled (SyntaxError.selectShape.orElse (← shown.projection?))
    let rest ← seg.tail (start + 1)
    match ← rest.keywordPositions "WHERE" with
    | [] => SelectStatement.ofSegments bins rest none
    | [position] =>
      let target ← rest.slice 0 position
      let condition ← rest.tail (position + 1)
      SelectStatement.ofSegments bins target (some condition)
    | _ => settled (.error .selectCondition)
  | _ => settled (.error .selectShape)

/-- Reads `INSERT INTO set (columns) VALUES (values)`. -/
def InsertStatement.ofSegment (seg : Segment) : Reading InsertStatement := do
  settled (SyntaxError.insertUnsupported.unless (← seg.isKeywordAt 1 "INTO"))
  let word ← settled (SyntaxError.insertShape.orElse (← seg.dottedWordAt? 2))
  let target ← settled (SyntaxError.insertTarget.orElse (SetName.parse? word))
  let (columnList, position) ← settled (SyntaxError.insertShape.orElse (← seg.group? 3))
  settled (SyntaxError.insertShape.unless (← seg.isKeywordAt position "VALUES"))
  let (valueList, stop) ← settled (SyntaxError.insertShape.orElse (← seg.group? (position + 1)))
  settled (SyntaxError.insertShape.unless (stop == seg.tokens.length))
  let columns ← columnList.columns
  let parts ← valueList.splitOn .comma
  settled (SyntaxError.insertCount.unless (parts.length == columns.length))
  let values ← Segment.values parts
  return { target, columns, values }

def DeleteStatement.ofSegment (seg : Segment) : Reading DeleteStatement := do
  settled (SyntaxError.deleteUnsupported.unless (← seg.isKeywordAt 1 "FROM"))
  let word ← settled (SyntaxError.deleteShape.orElse (← seg.dottedWordAt? 2))
  let target ← settled (SyntaxError.deleteTarget.orElse (SetName.parse? word))
  let conditions ← seg.keywordPositions "WHERE"
  let position ← settled (SyntaxError.deleteWithoutCondition.orElse conditions.head?)
  settled (SyntaxError.deleteShape.unless (position == 3))
  settled (SyntaxError.deleteCondition.unless (conditions.length ≤ 1))
  let condition ← seg.tail (position + 1)
  let predicate ← settled (SyntaxError.deleteCondition.orElse (← condition.equality?))
  settled (SyntaxError.deleteValue.unless predicate.value.isString)
  return { target, predicate }

/-- Reads `UPDATE set SET assignments WHERE bin = value`. Assignments to the key column are read
and dropped. -/
def UpdateStatement.ofSegment (seg : Segment) : Reading UpdateStatement := do
  let word ← settled (SyntaxError.updateUnsupported.orElse (← seg.dottedWordAt? 1))
  let target ← settled (SyntaxError.updateTarget.orElse (SetName.parse? word))
  let conditions ← seg.keywordPositions "WHERE"
  let starts ← seg.keywordPositions "SET"
  let start ← settled (SyntaxError.updateShape.orElse starts.head?)
  let position ← settled (SyntaxError.updateShape.orElse conditions.head?)
  settled (SyntaxError.updateShape.unless (start == 2 && start < position))
  let list ← seg.slice (start + 1) position
  let assignments ← list.assignments
  settled (SyntaxError.updateCondition.unless (conditions.length ≤ 1))
  let condition ← seg.tail (position + 1)
  let predicate ← settled (SyntaxError.updateCondition.orElse (← condition.equality?))
  settled (SyntaxError.updateKey.unless predicate.value.isString)
  let kept := assignments.filter fun bin _ => !isKeyColumn bin
  settled (SyntaxError.updateNothing.unless !kept.isEmpty)
  return { target, assignments := kept, predicate }

def Statement.ofSegment (command : Command) (seg : Segment) : Reading Statement :=
  match command with
  | .select => (SelectStatement.ofSegment seg).map .select
  | .insert => (InsertStatement.ofSegment seg).map .insert
  | .delete => (DeleteStatement.ofSegment seg).map .delete
  | .update => (UpdateStatement.ofSegment seg).map .update

def Statement.parseBytes (text : List Char) : Checked (Except Error Statement) :=
  let text := normalize text
  match Command.classify text with
  | .error e => .ok (.error e)
  | .ok command => do
    let tokens ← Bytes.scan text
    let statement ← (Statement.ofSegment command ⟨text, tokens⟩).run
    return statement.mapError fun e => Error.parse e.message

section Statements

variable {source : List Char} {seg : Segment} {c : Clause}

theorem SelectStatement.ofSegments_eq (bins : BinSelection) {target : Segment} {targetClause : Clause}
    {condition : Option Segment} {conditionClause : Option Clause}
    (htarget : target.Shows source targetClause)
    (hcondition : Option.Rel (Segment.Shows source) condition conditionClause) :
    SelectStatement.ofSegments bins target condition = settled (do
      let target ← SyntaxError.selectTarget.orElse (targetClause.singleWord?.bind SetName.parse?)
      match conditionClause with
      | none => return { target, bins, predicate := none }
      | some condition =>
        let predicate ← SyntaxError.selectCondition.orElse condition.equality?
        return { target, bins, predicate := some predicate }) := by
  rw [SelectStatement.ofSegments, htarget.singleWord?_eq, liftM_ok_bind]
  refine settled_bind fun target => ?_
  cases hcondition with
  | none => rfl
  | some hshows =>
    dsimp only
    rw [hshows.equality?_eq, liftM_ok_bind]
    exact settled_bind fun _ => rfl

theorem SelectStatement.ofSegment_eq (h : seg.Shows source c) :
    SelectStatement.ofSegment seg = settled (SelectStatement.ofClause c) := by
  rw [SelectStatement.ofSegment, SelectStatement.ofClause, h.keywordPositions_eq, liftM_ok_bind]
  obtain _ | ⟨start, _ | ⟨_, _⟩⟩ := c.keywordPositions "FROM"
  · rfl
  · obtain ⟨shown, hshown, hshows⟩ := h.exists_slice 1 start
    dsimp only
    rw [hshown, liftM_ok_bind, hshows.projection?_eq, liftM_ok_bind]
    refine settled_bind fun bins => ?_
    obtain ⟨rest, hrest, hshows⟩ := h.exists_tail (start + 1)
    rw [hrest, liftM_ok_bind, hshows.keywordPositions_eq, liftM_ok_bind]
    obtain _ | ⟨position, _ | ⟨_, _⟩⟩ := (c.tail (start + 1)).keywordPositions "WHERE"
    · exact SelectStatement.ofSegments_eq bins hshows .none
    · obtain ⟨target, htarget, htargetShows⟩ := hshows.exists_slice 0 position
      obtain ⟨condition, hcondition, hconditionShows⟩ := hshows.exists_tail (position + 1)
      dsimp only
      rw [htarget, liftM_ok_bind, hcondition, liftM_ok_bind]
      exact SelectStatement.ofSegments_eq bins htargetShows (.some hconditionShows)
    · rfl
  · rfl

theorem InsertStatement.ofSegment_eq (h : seg.Shows source c) :
    InsertStatement.ofSegment seg = settled (InsertStatement.ofClause c) := by
  rw [InsertStatement.ofSegment, InsertStatement.ofClause, h.isKeywordAt_eq, liftM_ok_bind]
  refine settled_bind fun _ => ?_
  rw [h.dottedWordAt?_eq, liftM_ok_bind]
  refine settled_bind fun word => ?_
  refine settled_bind fun target => ?_
  obtain ⟨g, hg, hgroup⟩ := h.exists_group? 3
  rw [hg, liftM_ok_bind]
  refine settled_orElse_bind _ hgroup ?_
  rintro ⟨columnList, position⟩ ⟨columnClause, position'⟩ ⟨hcolumns, hposition⟩
  dsimp only at hcolumns hposition ⊢
  subst hposition
  rw [h.isKeywordAt_eq, liftM_ok_bind]
  refine settled_bind fun _ => ?_
  obtain ⟨g, hg, hgroup⟩ := h.exists_group? (position + 1)
  rw [hg, liftM_ok_bind]
  refine settled_orElse_bind _ hgroup ?_
  rintro ⟨valueList, stop⟩ ⟨valueClause, stop'⟩ ⟨hvalues, hstop⟩
  dsimp only at hvalues hstop ⊢
  subst hstop
  rw [h.length_eq]
  refine settled_bind fun _ => ?_
  rw [hcolumns.columns_eq]
  refine settled_bind fun columns => ?_
  obtain ⟨parts, hparts, hall⟩ := hvalues.exists_splitOn .comma
  rw [hparts, liftM_ok_bind, hall.length_eq]
  refine settled_bind fun _ => ?_
  rw [Segment.values_eq hall]
  exact settled_bind fun _ => rfl

theorem DeleteStatement.ofSegment_eq (h : seg.Shows source c) :
    DeleteStatement.ofSegment seg = settled (DeleteStatement.ofClause c) := by
  rw [DeleteStatement.ofSegment, DeleteStatement.ofClause, h.isKeywordAt_eq, liftM_ok_bind]
  refine settled_bind fun _ => ?_
  rw [h.dottedWordAt?_eq, liftM_ok_bind]
  refine settled_bind fun word => ?_
  refine settled_bind fun target => ?_
  rw [h.keywordPositions_eq, liftM_ok_bind]
  refine settled_bind fun position => ?_
  refine settled_bind fun _ => ?_
  refine settled_bind fun _ => ?_
  obtain ⟨condition, hcondition, hshows⟩ := h.exists_tail (position + 1)
  rw [hcondition, liftM_ok_bind, hshows.equality?_eq, liftM_ok_bind]
  refine settled_bind fun predicate => ?_
  exact settled_bind fun _ => rfl

theorem UpdateStatement.ofSegment_eq (h : seg.Shows source c) :
    UpdateStatement.ofSegment seg = settled (UpdateStatement.ofClause c) := by
  rw [UpdateStatement.ofSegment, UpdateStatement.ofClause, h.dottedWordAt?_eq, liftM_ok_bind]
  refine settled_bind fun word => ?_
  refine settled_bind fun target => ?_
  rw [h.keywordPositions_eq, liftM_ok_bind, h.keywordPositions_eq, liftM_ok_bind]
  refine settled_bind fun start => ?_
  refine settled_bind fun position => ?_
  refine settled_bind fun _ => ?_
  obtain ⟨list, hlist, hshows⟩ := h.exists_slice (start + 1) position
  rw [hlist, liftM_ok_bind, hshows.assignments_eq]
  refine settled_bind fun assignments => ?_
  refine settled_bind fun _ => ?_
  obtain ⟨condition, hcondition, hshows⟩ := h.exists_tail (position + 1)
  rw [hcondition, liftM_ok_bind, hshows.equality?_eq, liftM_ok_bind]
  refine settled_bind fun predicate => ?_
  refine settled_bind fun _ => ?_
  exact settled_bind fun _ => rfl

theorem Statement.ofSegment_eq (command : Command) (h : seg.Shows source c) :
    Statement.ofSegment command seg = settled (Statement.ofClause command c) := by
  cases command with
  | select => rw [ofSegment, SelectStatement.ofSegment_eq h, map_settled]; rfl
  | insert => rw [ofSegment, InsertStatement.ofSegment_eq h, map_settled]; rfl
  | delete => rw [ofSegment, DeleteStatement.ofSegment_eq h, map_settled]; rfl
  | update => rw [ofSegment, UpdateStatement.ofSegment_eq h, map_settled]; rfl

theorem Segment.shows_tokenize (text : List Char) :
    Segment.Shows text ⟨text, Clause.located 0 (tokenize text)⟩ (tokenize text) :=
  ⟨rfl, 0, Clause.isIn_tokenize text, rfl⟩

/-- **A statement is read by bytes as by characters.** -/
theorem Statement.parseBytes_eq (text : List Char) :
    Statement.parseBytes text = .ok (Statement.parse text) := by
  rw [Statement.parseBytes, Statement.parse]
  generalize normalize text = text
  cases Command.classify text with
  | error e => rfl
  | ok command =>
    dsimp only
    rw [Bytes.scan_eq, ok_bind, Statement.ofSegment_eq command (Segment.shows_tokenize text)]
    rfl

end Statements

end RecordQuery
