import RecordQuery.Proofs.Executor.Screening
import RecordQuery.Proofs.Request.Running
import RecordQuery.Proofs.Statement.Command

/-!
# The queue of a statement and its calls

`Request.queue_of_calls`: the queue of a text is that of the statement that it reads as, and the
calls that a run of the text makes are calls of that queue.

* `Command.makes`: the calls of each of the four statements.
* `Makes`: a run with no other calls. `Executor.makes_run`: a statement makes the calls of its
  command only.
-/

namespace RecordQuery

variable {σ α β : Type}

/-- The calls of a command: finding and deleting records, or reading and writing one. -/
def Command.makes : Command → StoreCall → Bool
  | .select, .query => true
  | .insert, .put _ => true
  | .delete, .query | .delete, .delete _ => true
  | .update, .get _ | .update, .put _ => true
  | _, _ => false

/-- No call is of another kind. -/
def Makes (kind : StoreCall → Bool) : RunCondition σ α := fun _ calls _ _ =>
  ∀ call ∈ calls, kind call = true

section Rules

variable {kind : StoreCall → Bool} {action : StoreM σ α}
  {logged : StoreM (σ × List StoreCall) α} {f : α → StoreM σ β}
  {loggedNext : α → StoreM (σ × List StoreCall) β}

theorem makes_pure (a : α) : Logs (Makes kind) (pure a : StoreM σ α) (pure a) :=
  logs_pure a fun _ => List.forall_mem_nil _

theorem makes_noted {call : StoreCall} (h : kind call = true) (action : StoreM σ α) :
    Logs (Makes kind) action (action.noted call) :=
  logs_noted call action fun _ _ _ => List.forall_mem_singleton.2 h

theorem Logs.makes_within (context : String) (h : Logs (Makes kind) action logged) :
    Logs (Makes kind) (StoreM.within context action) (StoreM.within context logged) :=
  h.within context fun _ _ _ _ hcalls => hcalls

theorem Logs.makes_map (g : α → β) (h : Logs (Makes kind) action logged) :
    Logs (Makes kind) (g <$> action) (g <$> logged) :=
  h.map fun _ _ _ _ hcalls => hcalls

theorem Logs.makes_bind (h : Logs (Makes kind) action logged)
    (hf : ∀ a, Logs (Makes kind) (f a) (loggedNext a)) :
    Logs (Makes kind) (action >>= f) (logged >>= loggedNext) :=
  h.bind hf (fun _ _ _ _ hcalls => hcalls) fun _ _ _ _ _ _ _ hcalls hcalls' =>
    List.forall_mem_append.2 ⟨hcalls, hcalls'⟩

theorem makes_tryCatch {handle : Error → StoreM σ α}
    {loggedHandle : Error → StoreM (σ × List StoreCall) α}
    (h : Logs (Makes kind) action logged)
    (hhandle : ∀ e, Logs (Makes kind) (handle e) (loggedHandle e)) :
    Logs (Makes kind) (tryCatch action handle) (tryCatch logged loggedHandle) :=
  h.tryCatch hhandle (fun _ _ _ _ hcalls => hcalls) fun _ _ _ _ _ _ _ hcalls hcalls' =>
    List.forall_mem_append.2 ⟨hcalls, hcalls'⟩

end Rules

/-! ## Statements -/

namespace Executor

variable (executor : Executor σ) {kind : StoreCall → Bool}

theorem makes_fetch (hquery : kind .query = true) (context : String) (query : IndexQuery) :
    Logs (Makes kind) (executor.fetch context query) (executor.logged.fetch context query) :=
  ((makes_noted hquery _).makes_bind fun _ =>
    logs_liftM _ fun _ => List.forall_mem_nil _).makes_within context

theorem makes_select (statement : SelectStatement) :
    Logs (Makes Command.select.makes) (executor.select statement)
      (executor.logged.select statement) :=
  (executor.makes_fetch rfl _ _).makes_bind fun _ => makes_pure _

theorem makes_insert (generated : String) (statement : InsertStatement) :
    Logs (Makes Command.insert.makes) (executor.insert generated statement)
      (executor.logged.insert generated statement) :=
  ((makes_noted rfl _).makes_within _).makes_bind fun _ => makes_pure _

theorem makes_sweep (report : DeleteReport) (keys : List RecordKey) :
    Logs (Makes Command.delete.makes) (executor.sweep report keys)
      (executor.logged.sweep report keys) := by
  induction keys generalizing report with
  | nil => exact makes_pure report
  | cons key keys ih =>
    refine Logs.makes_bind ?_ ih
    exact makes_tryCatch ((makes_noted rfl _).makes_map _) fun _ => makes_pure _

theorem makes_delete (statement : DeleteStatement) :
    Logs (Makes Command.delete.makes) (executor.delete statement)
      (executor.logged.delete statement) :=
  (executor.makes_fetch rfl _ _).makes_bind fun _ => executor.makes_sweep _ _

theorem makes_update (statement : UpdateStatement) :
    Logs (Makes Command.update.makes) (executor.update statement)
      (executor.logged.update statement) := by
  have hwrite : ∀ existing : Bins,
      let narrowed := narrowAll statement.assignments existing
      let written := narrowed.mapValues fun _ narrowed => narrowed.value
      let report : UpdateReport :=
        { key := statement.key, written, fallbacks := narrowed.values.filterMap Narrowed.fallback }
      Logs (Makes Command.update.makes)
        (do
          StoreM.within "Error updating record" (executor.client.put statement.key written)
          return report)
        (do
          StoreM.within "Error updating record" (executor.logged.client.put statement.key written)
          return report) :=
    fun _ => ((makes_noted rfl _).makes_within _).makes_bind fun _ => makes_pure _
  unfold update
  dsimp only
  by_cases hnarrow : executor.narrowUpdates = true
  · have hlogged : executor.logged.narrowUpdates = true := hnarrow
    rw [if_pos hnarrow, if_pos hlogged]
    refine Logs.makes_bind ((makes_noted rfl _).makes_within _) fun record => ?_
    exact Logs.makes_bind (makes_pure _) hwrite
  · have hlogged : ¬ executor.logged.narrowUpdates = true := hnarrow
    rw [if_neg hnarrow, if_neg hlogged]
    exact Logs.makes_bind (makes_pure _) hwrite

theorem makes_run (generated : String) (statement : Statement) :
    Logs (Makes statement.command.makes) (executor.run generated statement)
      (executor.logged.run generated statement) := by
  cases statement with
  | select statement => exact (executor.makes_select statement).makes_map _
  | insert statement => exact (executor.makes_insert generated statement).makes_map _
  | delete statement => exact (executor.makes_delete statement).makes_map _
  | update statement => exact (executor.makes_update statement).makes_map _

/-! ## Texts -/

/-- Every call is one of the statement that a text reads as. -/
def MakesRead (text : List Char) : RunCondition σ α := fun _ calls _ _ =>
  ∀ call ∈ calls, ∃ statement, Statement.parse text = .ok statement ∧
    statement.command.makes call = true

theorem makesRead_bind {text : List Char} {action : StoreM σ α}
    {logged : StoreM (σ × List StoreCall) α} {f : α → StoreM σ β}
    {loggedNext : α → StoreM (σ × List StoreCall) β} (h : Logs Guards action logged)
    (hf : ∀ a, Logs (MakesRead text) (f a) (loggedNext a)) :
    Logs (MakesRead text) (action >>= f) (logged >>= loggedNext) := by
  refine h.bind hf ?_ ?_
  · rintro s calls e s' ⟨rfl, -⟩
    exact List.forall_mem_nil _
  · rintro s calls a s' calls' r s'' ⟨rfl, -⟩ hcalls
    exact hcalls

theorem makesRead_execute (generated : String) (text : List Char) :
    Logs (MakesRead text) (executor.execute generated text)
      (executor.logged.execute generated text) := by
  have hparse : Logs (fun _ calls r _ => calls = [] ∧ r = Statement.parse text)
      (liftM (Statement.parse text) : StoreM σ Statement) (liftM (Statement.parse text)) :=
    logs_liftM _ fun _ => ⟨rfl, rfl⟩
  have hread : Logs (MakesRead text)
      (do
        let statement ← liftM (Statement.parse text)
        executor.run generated statement)
      (do
        let statement ← liftM (Statement.parse text)
        executor.logged.run generated statement) := by
    refine hparse.bind (executor.makes_run generated) ?_ ?_
    · rintro s calls e s' ⟨rfl, -⟩
      exact List.forall_mem_nil _
    · rintro s calls statement s' calls' r s'' ⟨rfl, hstatement⟩ hcalls call hcall
      exact ⟨statement, hstatement.symm, hcalls call hcall⟩
  have hconnected := makesRead_bind executor.guards_ensureConnected fun _ => hread
  -- a blank text is refused before the connection is looked at
  unfold execute
  by_cases hblank : Text.allBlank text = true
  · rw [if_pos hblank, if_pos hblank]
    exact makesRead_bind (guards_throw rfl) fun _ => hconnected
  · rw [if_neg hblank, if_neg hblank]
    exact hconnected

end Executor

/-! ## Queues -/

theorem Command.queue_of_makes {command : Command} {call : StoreCall}
    (h : command.makes call = true) :
    (∀ user, call = .put user → QueueKind.ofCommand command = .write) ∧
      (∀ user, call = .delete user → QueueKind.ofCommand command = .query) ∧
      (call = .query → QueueKind.ofCommand command = .query) := by
  refine ⟨?_, ?_, ?_⟩
  · rintro user rfl
    cases command <;> first | rfl | cases h
  · rintro user rfl
    cases command <;> first | rfl | cases h
  · rintro rfl
    cases command <;> first | rfl | cases h

def Workspace.logged (workspace : Workspace σ) (calls : List StoreCall) :
    Workspace (σ × List StoreCall) :=
  { store := (workspace.store, calls), keys := workspace.keys }

theorem Request.run_logged_statement (executor : Executor σ) (workspace : Workspace σ)
    (text : String) :
    ∃ calls,
      (Request.statement text).run executor.logged (workspace.logged []) =
        (((Request.statement text).run executor workspace).1,
          ((Request.statement text).run executor workspace).2.logged calls) ∧
      ∀ call ∈ calls, ∃ statement, Statement.parse text.toList = .ok statement ∧
        statement.command.makes call = true := by
  obtain ⟨calls, hrun, hcalls⟩ :=
    executor.makesRead_execute workspace.keys.next text.toList workspace.store []
  refine ⟨calls, ?_, hcalls⟩
  rw [Request.run_eq, Request.run_eq, Request.messages_statement, Request.messages_statement]
  dsimp only [Workspace.logged, Workspace.keysAfter]
  rw [hrun]
  rfl

/-- **The queue of a text is that of what is run.** A text that reads as a statement has the command
and the queue of the statement. Whatever a store answers, a run of any text that writes a record is
one of the queue for writing, and a run that queries or deletes is one of the queue for reading. -/
theorem Request.queue_of_calls (text : String) :
    (∀ statement, Statement.parse text.toList = .ok statement →
      Command.classify text.toList = .ok statement.command ∧
        (Request.statement text).queue = .ofCommand statement.command) ∧
    ∀ {σ : Type} (executor : Executor σ) (workspace : Workspace σ), ∃ calls,
      (Request.statement text).run executor.logged (workspace.logged []) =
        (((Request.statement text).run executor workspace).1,
          ((Request.statement text).run executor workspace).2.logged calls) ∧
      ∀ call ∈ calls,
        (∀ user, call = .put user → (Request.statement text).queue = .write) ∧
        (∀ user, call = .delete user → (Request.statement text).queue = .query) ∧
        (call = .query → (Request.statement text).queue = .query) := by
  have hqueue : ∀ statement, Statement.parse text.toList = .ok statement →
      Command.classify text.toList = .ok statement.command ∧
        (Request.statement text).queue = .ofCommand statement.command := by
    intro statement hparse
    have hclassify := Command.classify_of_parse hparse
    refine ⟨hclassify, ?_⟩
    unfold Request.queue
    dsimp only
    rw [hclassify]
  refine ⟨hqueue, fun executor workspace => ?_⟩
  obtain ⟨calls, hrun, hcalls⟩ := Request.run_logged_statement executor workspace text
  refine ⟨calls, hrun, fun call hcall => ?_⟩
  obtain ⟨statement, hparse, hmakes⟩ := hcalls call hcall
  rw [(hqueue statement hparse).2]
  exact Command.queue_of_makes hmakes

/-- A wide blank, a long s and a lone semicolon, and a statement that writes a record. -/
theorem Request.queue_of_calls_trimmed :
    (Command.classify "\u3000ſelect * FROM a.b ;".toList = .ok .select ∧
      (Request.statement "\u3000ſelect * FROM a.b ;").queue = .query) ∧
    StoreCall.put "x" ∈ ((Request.statement " Update a.b SET n = 1 WHERE PK = x\t;").run
      { client := Store.client.logged } { store := (Store.empty {}, []) }).2.store.2 ∧
    (Request.statement " Update a.b SET n = 1 WHERE PK = x\t;").queue = .write := by
  have hparse : Statement.parse "\u3000ſelect * FROM a.b ;".toList =
      .ok (.select ⟨⟨"a", "b"⟩, .all, none⟩) := by decide +kernel
  obtain ⟨calls, hrun, hqueue⟩ := (Request.queue_of_calls
    " Update a.b SET n = 1 WHERE PK = x\t;").2 { client := Store.client } { store := Store.empty {} }
  have hput : StoreCall.put "x" ∈ ((Request.statement " Update a.b SET n = 1 WHERE PK = x\t;").run
      { client := Store.client.logged } { store := (Store.empty {}, []) }).2.store.2 := by
    decide +kernel
  refine ⟨(Request.queue_of_calls _).1 _ hparse, hput, ?_⟩
  have hcalls : _ = calls := congrArg (fun result => result.2.store.2) hrun
  exact (hqueue (.put "x") (hcalls ▸ hput)).1 "x" rfl

end RecordQuery
