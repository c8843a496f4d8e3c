import RecordQuery.Executor

/-!
# Runs of store actions and the calls that they make

* `StoreM.run_bind`, `StoreM.run_tryCatch`, `StoreM.run_within`: an action is run step by step.
* `StoreClient.logged`: a client that notes every call before it is made.
* `Logs`: an action on the logged client does what it does on the client, and its result, its state
  and its calls satisfy a condition. `Logs.bind`, `Logs.tryCatch`: the rules for longer actions.
  `Logs.run_eq`: such an action without the log.
-/

namespace RecordQuery

variable {σ α β : Type}

/-! ## Runs -/

namespace StoreM

@[simp] theorem run_pure (a : α) (s : σ) : (pure a : StoreM σ α).run s = (.ok a, s) := rfl

@[simp] theorem run_throw (e : Error) (s : σ) :
    (throw e : StoreM σ α).run s = (.error e, s) := rfl

@[simp] theorem run_get (s : σ) : (get : StoreM σ σ).run s = (.ok s, s) := rfl

@[simp] theorem run_liftM (r : Except Error α) (s : σ) :
    (liftM r : StoreM σ α).run s = (r, s) := by
  cases r <;> rfl

theorem run_bind (action : StoreM σ α) (f : α → StoreM σ β) (s : σ) :
    (action >>= f).run s =
      match action.run s with
      | (.ok a, s') => (f a).run s'
      | (.error e, s') => (.error e, s') := by
  show ExceptT.bindCont f (action.run s).1 (action.run s).2 = _
  generalize action.run s = result
  obtain ⟨r, s'⟩ := result
  cases r <;> rfl

theorem run_map (f : α → β) (action : StoreM σ α) (s : σ) :
    (f <$> action).run s = ((action.run s).1.map f, (action.run s).2) := by
  rw [map_eq_pure_bind, run_bind]
  cases h : action.run s with
  | mk r s' => cases r <;> rfl

theorem run_tryCatch (action : StoreM σ α) (handle : Error → StoreM σ α) (s : σ) :
    (tryCatch action handle : StoreM σ α).run s =
      match action.run s with
      | (.ok a, s') => (.ok a, s')
      | (.error e, s') => (handle e).run s' := by
  show (ExceptT.tryCatch action handle).run s = _
  unfold ExceptT.tryCatch ExceptT.run ExceptT.mk
  simp only [bind, StateT.bind]
  generalize action s = result
  obtain ⟨r, s'⟩ := result
  cases r <;> rfl

theorem run_within (context : String) (action : StoreM σ α) (s : σ) :
    (StoreM.within context action).run s =
      ((action.run s).1.mapError (Error.withContext context), (action.run s).2) :=
  rfl

/-- The action with a call put into the log before it is made. -/
def noted (call : StoreCall) (action : StoreM σ α) : StoreM (σ × List StoreCall) α :=
  ExceptT.mk fun state =>
    let (r, s) := action.run state.1
    (r, (s, state.2 ++ [call]))

theorem run_noted (call : StoreCall) (action : StoreM σ α) (s : σ) (log : List StoreCall) :
    (action.noted call).run (s, log) =
      ((action.run s).1, ((action.run s).2, log ++ [call])) :=
  rfl

end StoreM

/-- The client with a log of its calls. Asking whether it is connected is no call. -/
def StoreClient.logged (client : StoreClient σ) : StoreClient (σ × List StoreCall) where
  isConnected state := client.isConnected state.1
  query query := (client.query query).noted .query
  get key bins := (client.get key bins).noted (.get key.user)
  put key bins := (client.put key bins).noted (.put key.user)
  delete key := (client.delete key).noted (.delete key.user)
  scan space set := (client.scan space set).noted .scan
  truncate target := (client.truncate target).noted .truncate
  catalogue := client.catalogue.noted .catalogue

def Executor.logged (executor : Executor σ) : Executor (σ × List StoreCall) :=
  { client := executor.client.logged, narrowUpdates := executor.narrowUpdates }

/-! ## Runs with a log -/

/-- A condition on the state before a run, its calls, its result and the state after it. -/
abbrev RunCondition (σ α : Type) := σ → List StoreCall → Except Error α → σ → Prop

/-- Whether an action with a log does what the action does and appends its calls to the log, and a
condition holds of every run. -/
def Logs (condition : RunCondition σ α) (action : StoreM σ α)
    (logged : StoreM (σ × List StoreCall) α) : Prop :=
  ∀ s log, ∃ calls,
    logged.run (s, log) = ((action.run s).1, ((action.run s).2, log ++ calls)) ∧
      condition s calls (action.run s).1 (action.run s).2

section Logs

variable {P R : RunCondition σ α} {S : RunCondition σ β} {action : StoreM σ α}
  {logged : StoreM (σ × List StoreCall) α}

theorem Logs.mono (h : Logs P action logged) (hP : ∀ s calls r s', P s calls r s' → R s calls r s') :
    Logs R action logged := by
  intro s log
  obtain ⟨calls, hrun, hcondition⟩ := h s log
  exact ⟨calls, hrun, hP _ _ _ _ hcondition⟩

theorem Logs.run_eq (h : Logs P action logged) {s s' : σ} {log log' : List StoreCall}
    {r : Except Error α} (hrun : logged.run (s, log) = (r, (s', log'))) :
    action.run s = (r, s') := by
  obtain ⟨calls, hlogged, -⟩ := h s log
  obtain ⟨hresult, hstate⟩ := Prod.mk.inj (hlogged.symm.trans hrun)
  exact Prod.ext hresult (Prod.mk.inj hstate).1

theorem logs_pure (a : α) (hP : ∀ s, P s [] (.ok a) s) : Logs P (pure a) (pure a) := by
  intro s log
  exact ⟨[], by rw [List.append_nil]; rfl, hP s⟩

theorem logs_liftM (r : Except Error α) (hP : ∀ s, P s [] r s) :
    Logs P (liftM r : StoreM σ α) (liftM r) := by
  intro s log
  refine ⟨[], ?_, ?_⟩
  · rw [List.append_nil, StoreM.run_liftM, StoreM.run_liftM]
  · rw [StoreM.run_liftM]
    exact hP s

theorem logs_noted (call : StoreCall) (action : StoreM σ α)
    (hP : ∀ s r s', P s [call] r s') : Logs P action (action.noted call) :=
  fun _ _ => ⟨[call], rfl, hP _ _ _⟩

/-- **An action that goes on after another one.** Its calls come after those of the first one. -/
theorem Logs.bind {Q : α → RunCondition σ β} {f : α → StoreM σ β}
    {loggedNext : α → StoreM (σ × List StoreCall) β}
    (h : Logs P action logged) (hf : ∀ a, Logs (Q a) (f a) (loggedNext a))
    (herror : ∀ s calls e s', P s calls (.error e) s' → S s calls (.error e) s')
    (hok : ∀ s calls a s' calls' r s'', P s calls (.ok a) s' → Q a s' calls' r s'' →
      S s (calls ++ calls') r s'') :
    Logs S (action >>= f) (logged >>= loggedNext) := by
  intro s log
  obtain ⟨calls, hrun, hcondition⟩ := h s log
  rw [StoreM.run_bind, StoreM.run_bind, hrun]
  generalize action.run s = result at hcondition ⊢
  obtain ⟨r, s'⟩ := result
  cases r with
  | error e => exact ⟨calls, rfl, herror _ _ _ _ hcondition⟩
  | ok a =>
    obtain ⟨calls', hrun', hcondition'⟩ := hf a s' (log ++ calls)
    refine ⟨calls ++ calls', ?_, hok _ _ _ _ _ _ _ hcondition hcondition'⟩
    rw [← List.append_assoc]
    exact hrun'

theorem Logs.tryCatch {handle : Error → StoreM σ α}
    {loggedHandle : Error → StoreM (σ × List StoreCall) α} {P' : RunCondition σ α}
    (h : Logs P action logged) (hhandle : ∀ e, Logs P' (handle e) (loggedHandle e))
    (hok : ∀ s calls a s', P s calls (.ok a) s' → R s calls (.ok a) s')
    (herror : ∀ s calls e s' calls' r s'', P s calls (.error e) s' → P' s' calls' r s'' →
      R s (calls ++ calls') r s'') :
    Logs R (tryCatch action handle) (tryCatch logged loggedHandle) := by
  intro s log
  obtain ⟨calls, hrun, hcondition⟩ := h s log
  rw [StoreM.run_tryCatch, StoreM.run_tryCatch, hrun]
  generalize action.run s = result at hcondition ⊢
  obtain ⟨r, s'⟩ := result
  cases r with
  | ok a => exact ⟨calls, rfl, hok _ _ _ _ hcondition⟩
  | error e =>
    obtain ⟨calls', hrun', hcondition'⟩ := hhandle e s' (log ++ calls)
    refine ⟨calls ++ calls', ?_, herror _ _ _ _ _ _ _ hcondition hcondition'⟩
    rw [← List.append_assoc]
    exact hrun'

theorem Logs.within (context : String) (h : Logs P action logged)
    (hR : ∀ s calls r s', P s calls r s' →
      R s calls (r.mapError (Error.withContext context)) s') :
    Logs R (StoreM.within context action) (StoreM.within context logged) := by
  intro s log
  obtain ⟨calls, hrun, hcondition⟩ := h s log
  rw [StoreM.run_within, StoreM.run_within, hrun]
  exact ⟨calls, rfl, hR _ _ _ _ hcondition⟩

theorem Logs.map {f : α → β} (h : Logs P action logged)
    (hS : ∀ s calls r s', P s calls r s' → S s calls (r.map f) s') :
    Logs S (f <$> action) (f <$> logged) := by
  intro s log
  obtain ⟨calls, hrun, hcondition⟩ := h s log
  rw [StoreM.run_map, StoreM.run_map, hrun]
  exact ⟨calls, rfl, hS _ _ _ _ hcondition⟩

end Logs

end RecordQuery
