import RecordQuery.Proofs.Outcome
import RecordQuery.Proofs.Store.Calls

/-!
# Rejections come before any call

`Executor.isRejection_iff_no_call`: an entry point of the executor fails with a rejection exactly if
it has made no call of the store, and a rejection leaves the state of the store as it was.

* `Guards`: steps that make no call and fail with rejections only.
* `Late`: steps that fail only after a call, and with no rejection. An error of the store passes
  through `StoreM.within`, which leaves no rejection.
-/

namespace RecordQuery

variable {σ α β : Type}

/-! ## Conditions -/

/-- Nothing is called and nothing changes, and a failure is a rejection. -/
def Guards : RunCondition σ α := fun s calls r s' =>
  calls = [] ∧ s' = s ∧ ∀ e, r = .error e → e.isRejection = true

/-- Something is called. -/
def Called : RunCondition σ α := fun _ calls _ _ =>
  calls ≠ []

/-- A failure comes after a call and is no rejection. -/
def Late : RunCondition σ α := fun _ calls r _ =>
  ∀ e, r = .error e → calls ≠ [] ∧ e.isRejection = false

/-- A failure is a rejection exactly if nothing is called, and after a rejection the state is what it
was before. -/
def Screened : RunCondition σ α := fun s calls r s' =>
  ∀ e, r = .error e →
    (e.isRejection = true ↔ calls = []) ∧ (e.isRejection = true → s' = s)

section Conditions

variable {action : StoreM σ α} {logged : StoreM (σ × List StoreCall) α} {f : α → StoreM σ β}
  {loggedNext : α → StoreM (σ × List StoreCall) β}

theorem Logs.late_within (context : String) (h : Logs Called action logged) :
    Logs Late (StoreM.within context action) (StoreM.within context logged) := by
  refine h.within context fun s calls r s' hcalls e he => ⟨hcalls, ?_⟩
  cases r with
  | ok a => cases he
  | error e' =>
    cases he
    exact Error.isRejection_withContext context _

theorem guards_throw {e : Error} (h : e.isRejection = true) :
    Logs Guards (throw e : StoreM σ α) (throw e) := by
  intro s log
  refine ⟨[], by rw [List.append_nil]; rfl, rfl, rfl, fun e' he => ?_⟩
  cases he
  exact h

theorem late_call (context : String) (call : StoreCall) (action : StoreM σ α) :
    Logs Late (StoreM.within context action) (StoreM.within context (action.noted call)) :=
  (logs_noted call action fun _ _ _ => List.cons_ne_nil _ _).late_within context

theorem late_pure (a : α) : Logs Late (pure a : StoreM σ α) (pure a) :=
  logs_pure a fun _ _ he => by cases he

theorem Logs.late_bind (h : Logs Late action logged) (hf : ∀ a, Logs Late (f a) (loggedNext a)) :
    Logs Late (action >>= f) (logged >>= loggedNext) := by
  refine h.bind hf ?_ ?_
  · intro s calls e s' hlate e' he
    cases he
    exact hlate _ rfl
  · intro s calls a s' calls' r s'' _ hlate e he
    obtain ⟨hcalls', hrejection⟩ := hlate e he
    exact ⟨List.append_ne_nil_of_right_ne_nil _ hcalls', hrejection⟩

theorem Logs.late_map (g : α → β) (h : Logs Late action logged) :
    Logs Late (g <$> action) (g <$> logged) := by
  refine h.map fun s calls r s' hlate e he => ?_
  cases r with
  | ok a => cases he
  | error e' =>
    cases he
    exact hlate _ rfl

theorem Logs.screened_of_late (h : Logs Late action logged) : Logs Screened action logged := by
  refine h.mono fun s calls r s' hlate e he => ?_
  obtain ⟨hcalls, hrejection⟩ := hlate e he
  simp [hcalls, hrejection]

theorem Logs.screened_bind (h : Logs Guards action logged)
    (hf : ∀ a, Logs Screened (f a) (loggedNext a)) :
    Logs Screened (action >>= f) (logged >>= loggedNext) := by
  refine h.bind hf ?_ ?_
  · rintro s calls e s' ⟨rfl, rfl, hrejection⟩ e' he
    cases he
    simp [hrejection _ rfl]
  · rintro s calls a s' calls' r s'' ⟨rfl, rfl, -⟩ hscreened
    exact hscreened

end Conditions

/-! ## Steps of the executor -/

namespace Executor

variable (executor : Executor σ)

theorem isRejection_of_classify {text : List Char} {e : Error}
    (h : Command.classify text = .error e) : e.isRejection = true := by
  unfold Command.classify at h
  split at h
  next =>
    cases h
    rfl
  next =>
    dsimp only at h
    split at h
    next => cases h
    next =>
      cases h
      rfl

theorem isRejection_of_parse {text : List Char} {e : Error} (h : Statement.parse text = .error e) :
    e.isRejection = true := by
  unfold Statement.parse at h
  dsimp only at h
  cases hcommand : Command.classify (normalize text) with
  | error e' =>
    rw [hcommand] at h
    cases h
    exact isRejection_of_classify hcommand
  | ok command =>
    rw [hcommand, ok_bind] at h
    cases hread : Statement.ofClause command (tokenize (normalize text)) with
    | error e' =>
      rw [hread] at h
      cases h
      rfl
    | ok statement =>
      rw [hread] at h
      cases h

theorem guards_parse (text : List Char) :
    Logs Guards (liftM (Statement.parse text) : StoreM σ Statement)
      (liftM (Statement.parse text)) :=
  logs_liftM _ fun _ => ⟨rfl, rfl, fun _ he => isRejection_of_parse he⟩

theorem run_ensureConnected (s : σ) :
    executor.ensureConnected.run s =
      (if executor.client.isConnected s then .ok () else .error .notConnected, s) := by
  unfold ensureConnected
  rw [StoreM.run_bind, StoreM.run_get]
  dsimp only
  by_cases h : executor.client.isConnected s = true
  · simp [h]
  · simp [h]

theorem guards_ensureConnected :
    Logs Guards executor.ensureConnected executor.logged.ensureConnected := by
  intro s log
  rw [run_ensureConnected, run_ensureConnected]
  refine ⟨[], by rw [List.append_nil]; rfl, rfl, rfl, fun e he => ?_⟩
  dsimp only at he
  split at he
  · cases he
  · cases he
    rfl

theorem late_fetch (context : String) (query : IndexQuery) :
    Logs Late (executor.fetch context query) (executor.logged.fetch context query) := by
  have hquery : Logs Called (executor.client.query query)
      ((executor.client.query query).noted .query) :=
    logs_noted _ _ fun _ _ _ => List.cons_ne_nil _ _
  refine Logs.late_within context (hquery.bind (Q := fun _ _ _ _ _ => True)
    (fun stream => logs_liftM _ fun _ => trivial) (fun _ _ _ _ h => h) ?_)
  intro s calls stream s' calls' r s'' hcalls _
  exact List.append_ne_nil_of_left_ne_nil hcalls _

/-! ## Statements -/

theorem late_select (statement : SelectStatement) :
    Logs Late (executor.select statement) (executor.logged.select statement) :=
  (executor.late_fetch _ _).late_bind fun _ => late_pure _

theorem late_insert (generated : String) (statement : InsertStatement) :
    Logs Late (executor.insert generated statement)
      (executor.logged.insert generated statement) :=
  (late_call _ _ _).late_bind fun _ => late_pure _

theorem late_sweep (report : DeleteReport) (keys : List RecordKey) :
    Logs Late (executor.sweep report keys) (executor.logged.sweep report keys) := by
  induction keys generalizing report with
  | nil => exact late_pure report
  | cons key keys ih =>
    refine Logs.late_bind ?_ ih
    have hcall : Logs (fun _ _ _ _ => True) (executor.client.delete key)
        ((executor.client.delete key).noted (.delete key.user)) :=
      logs_noted _ _ fun _ _ _ => trivial
    have hdelete := hcall.map (f := fun existed =>
      if existed then { report with deleted := report.deleted + 1 } else report)
      (S := fun _ _ _ _ => True) fun _ _ _ _ _ => trivial
    have hnote : ∀ e : Error,
        Logs (fun _ _ r _ => ∃ report', r = .ok report')
          (pure { report with failures := report.failures ++ [(key, e.message)] } :
            StoreM σ DeleteReport)
          (pure { report with failures := report.failures ++ [(key, e.message)] }) :=
      fun e => logs_pure _ fun _ => ⟨_, rfl⟩
    -- the handler leaves no failure, so that there is nothing to tell of one
    refine hdelete.tryCatch hnote (fun _ _ _ _ _ _ he => by cases he) ?_
    rintro s calls e s' calls' r s'' - ⟨report', rfl⟩ e' he
    cases he

theorem late_delete (statement : DeleteStatement) :
    Logs Late (executor.delete statement) (executor.logged.delete statement) :=
  (executor.late_fetch _ _).late_bind fun _ => executor.late_sweep _ _

theorem late_update (statement : UpdateStatement) :
    Logs Late (executor.update statement) (executor.logged.update statement) := by
  unfold update
  dsimp only
  by_cases hnarrow : executor.narrowUpdates = true
  · have hlogged : executor.logged.narrowUpdates = true := hnarrow
    rw [if_pos hnarrow, if_pos hlogged]
    refine Logs.late_bind (late_call _ _ _) fun record => ?_
    refine Logs.late_bind (late_pure _) fun existing => ?_
    exact (late_call _ _ _).late_bind fun _ => late_pure _
  · have hlogged : ¬ executor.logged.narrowUpdates = true := hnarrow
    rw [if_neg hnarrow, if_neg hlogged]
    refine Logs.late_bind (late_pure _) fun existing => ?_
    exact (late_call _ _ _).late_bind fun _ => late_pure _

theorem late_run (generated : String) (statement : Statement) :
    Logs Late (executor.run generated statement) (executor.logged.run generated statement) := by
  cases statement with
  | select statement => exact (executor.late_select statement).late_map _
  | insert statement => exact (executor.late_insert generated statement).late_map _
  | delete statement => exact (executor.late_delete statement).late_map _
  | update statement => exact (executor.late_update statement).late_map _

theorem screened_execute (generated : String) (text : List Char) :
    Logs Screened (executor.execute generated text) (executor.logged.execute generated text) := by
  unfold execute
  dsimp only
  have hrest : Logs Screened
      (do
        executor.ensureConnected
        let statement ← liftM (Statement.parse text)
        executor.run generated statement)
      (do
        executor.logged.ensureConnected
        let statement ← liftM (Statement.parse text)
        executor.logged.run generated statement) :=
    executor.guards_ensureConnected.screened_bind fun _ =>
      (guards_parse text).screened_bind fun statement =>
        (executor.late_run generated statement).screened_of_late
  by_cases hblank : Text.allBlank text = true
  · rw [if_pos hblank, if_pos hblank]
    exact (guards_throw rfl).screened_bind fun _ => hrest
  · rw [if_neg hblank, if_neg hblank]
    exact hrest

theorem screened_editBin (key : RecordKey) (bin raw : String) :
    Logs Screened (executor.editBin key bin raw) (executor.logged.editBin key bin raw) :=
  executor.guards_ensureConnected.screened_bind fun _ =>
    Logs.screened_of_late
      ((late_call _ _ _).late_bind fun _ => (late_call _ _ _).late_bind fun _ => late_pure _)

/-- **Rejections come before any call.** Whatever a client answers to its calls, an entry point of
the executor fails with a rejection exactly if it has made no call, and the state of the client is
then what it was. -/
theorem isRejection_iff_no_call :
    (∀ generated text, Logs Screened (executor.execute generated text)
      (executor.logged.execute generated text)) ∧
    (∀ space set, Logs Screened (executor.browse space set)
      (executor.logged.browse space set)) ∧
    (∀ key, Logs Screened (executor.deleteRecord key) (executor.logged.deleteRecord key)) ∧
    (∀ key bin raw, Logs Screened (executor.editBin key bin raw)
      (executor.logged.editBin key bin raw)) ∧
    (∀ target, Logs Screened (executor.truncate target) (executor.logged.truncate target)) ∧
    Logs Screened executor.catalogue executor.logged.catalogue := by
  have hguard := executor.guards_ensureConnected
  refine ⟨executor.screened_execute, fun space set => ?_, fun key => ?_, executor.screened_editBin,
    fun target => ?_, ?_⟩
  · exact hguard.screened_bind fun _ =>
      ((late_call _ _ _).late_bind fun _ => late_pure _).screened_of_late
  · exact hguard.screened_bind fun _ => (late_call _ _ _).screened_of_late
  · exact hguard.screened_bind fun _ => (late_call _ _ _).screened_of_late
  · exact hguard.screened_bind fun _ => (late_call _ _ _).screened_of_late

end Executor

end RecordQuery
