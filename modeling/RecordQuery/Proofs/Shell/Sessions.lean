import RecordQuery.Proofs.Engine.Channel
import RecordQuery.Proofs.Outcome
import RecordQuery.Shell

/-!
# Sessions run one request at a time

* `Engine.AtRest`: an engine for which nothing waits. `Engine.AtRest.submit_settle`: a request that is
  submitted to it runs at once, and all that it delivers is received.
* `Session.run_of_atRest`: so a session at rest runs a request, and is at rest again.
* `Shell.submission?`: the request that a line makes a shell submit. `Shell.submitted_of_step`: the
  shell submits this one and no other. `Shell.step_submits`: it is run and its deliveries are printed.
* `Shell.atRest_of_start`: a shell is at rest whenever it asks for a line.
-/

namespace RecordQuery

namespace Engine

variable {σ : Type} {engine : Engine σ}

/-- Requests are taken, none waits, and nothing is left to receive. -/
structure AtRest (engine : Engine σ) : Prop where
  isOpen : ∀ kind, (engine.queue kind).isOpen = true
  idle : ∀ kind, (engine.queue kind).waiting = []
  channel : engine.channel = []

theorem atRest_withWorkspace (h : engine.AtRest) (workspace : Workspace σ) :
    AtRest { engine with workspace } where
  isOpen kind := by
    rw [← h.isOpen kind]
    cases kind <;> rfl
  idle kind := by
    rw [← h.idle kind]
    cases kind <;> rfl
  channel := h.channel

theorem ext_queue {engine other : Engine σ} (hexecutor : engine.executor = other.executor)
    (hworkspace : engine.workspace = other.workspace)
    (hqueue : ∀ kind, engine.queue kind = other.queue kind)
    (hchannel : engine.channel = other.channel) : engine = other := by
  obtain ⟨executor, workspace, queryQueue, writeQueue, channel⟩ := engine
  obtain ⟨executor', workspace', queryQueue', writeQueue', channel'⟩ := other
  have hquery : queryQueue = queryQueue' := hqueue .query
  have hwrite : writeQueue = writeQueue' := hqueue .write
  dsimp only at hexecutor hworkspace hchannel
  rw [hexecutor, hworkspace, hchannel, hquery, hwrite]

/-- **An engine at rest runs a request at once**, and is at rest again when its deliveries are
received. -/
theorem AtRest.submit_settle (h : engine.AtRest) (request : Request) :
    (engine.submit request).1 = .ok request.queue ∧
      (engine.submit request).2.settle.receive =
        ((request.run engine.executor engine.workspace).1,
          { engine with workspace := (request.run engine.executor engine.workspace).2 }) := by
  let queue : TaskQueue Request := { engine.queue request.queue with waiting := [request] }
  have hsubmit : engine.submit request =
      (.ok request.queue, engine.withQueue queue request.queue) := by
    rw [submit_of_isOpen (h.isOpen _), h.idle, List.nil_append]
  have hstart : Runs engine [] [] engine := ⟨rfl, rfl, [], rfl, h.channel⟩
  have hothers : ∀ other, other ≠ request.queue →
      ((engine.withQueue queue request.queue).queue other).waiting = [] := fun other hother => by
    rw [queue_withQueue_of_ne _ _ hother, h.idle]
  have hruns := (hstart.withQueue queue request.queue).settle hothers
  rw [queue_withQueue] at hruns
  obtain ⟨pending, hlists, hchannel⟩ := hruns.channel
  obtain rfl : [(request.run engine.executor engine.workspace).1] = pending := hlists
  rw [hsubmit]
  refine ⟨rfl, ?_⟩
  rw [receive, hchannel, Message.receive_frame_cons]
  refine Prod.ext rfl (ext_queue hruns.executor hruns.workspace (fun kind => ?_) h.channel.symm)
  rw [queue_withChannel, queue_settle]
  have hidle : { engine.queue kind with waiting := [] } = engine.queue kind := by
    rw [← h.idle kind]
  by_cases hkind : kind = request.queue
  · rw [hkind, queue_withQueue]
    exact (hkind ▸ hidle).trans (by cases request.queue <;> rfl)
  · rw [queue_withQueue_of_ne _ _ hkind]
    exact hidle.trans (by cases kind <;> rfl)

end Engine

namespace Session

variable {session : Session}

theorem submitted_run (session : Session) (request : Request) :
    (session.run request).2.submitted = session.submitted ++ [request] := by
  unfold run
  split <;> rename_i hsubmit <;> exact congrArg (fun result => result.2.submitted) hsubmit.symm

theorem run_of_atRest (h : session.engine.AtRest) (request : Request) :
    let run := request.run session.engine.executor session.engine.workspace
    session.run request =
      (run.1, { engine := { session.engine with workspace := run.2 }
                submitted := session.submitted ++ [request] }) := by
  obtain ⟨hanswer, hreceive⟩ := h.submit_settle request
  have hsubmit : session.submit request =
      (.ok request.queue, { engine := (session.engine.submit request).2
                            submitted := session.submitted ++ [request] }) := by
    rw [← hanswer]
    rfl
  unfold run
  rw [hsubmit]
  dsimp only
  rw [hreceive]

theorem atRest_run (h : session.engine.AtRest) (request : Request) :
    (session.run request).2.engine.AtRest := by
  rw [run_of_atRest h]
  exact Engine.atRest_withWorkspace h _

theorem atRest_setConnected (h : session.engine.AtRest) (connected : Bool) :
    (session.setConnected connected).engine.AtRest :=
  Engine.atRest_withWorkspace h _

theorem atRest_start {store : Store} (h : start store = .ok session) : session.engine.AtRest := by
  obtain ⟨engine, hengine, rfl⟩ := map_eq_ok_iff.1 h
  obtain ⟨settings, -, rfl⟩ := map_eq_ok_iff.1 hengine
  exact ⟨fun kind => by cases kind <;> rfl, fun kind => by cases kind <;> rfl, rfl⟩

end Session

namespace Shell

/-- The request that a line makes a shell submit. -/
def submission? (buffer line : List Char) : Option Request :=
  match feed buffer line with
  | .incomplete _ => none
  | .dotCommand text =>
    match DotCommand.parse text with
    | .run request => some request
    | _ => none
  | .statement text => some (.statement (String.ofList text))

theorem step_of_submission? {shell : Shell} {line : List Char} {request : Request}
    (h : submission? shell.buffer line = some request) :
    let run := { shell with buffer := [] }.runRequest request
    shell.step line = (run.1, some run.2) := by
  unfold submission? at h
  unfold step
  cases hfeed : feed shell.buffer line with
  | incomplete buffer => simp [hfeed] at h
  | dotCommand text =>
    simp only [hfeed] at h ⊢
    split at h
    next hparse =>
      obtain rfl := Option.some.inj h
      rw [hparse]
      rfl
    next => cases h
  | statement text =>
    simp only [hfeed, Option.some.injEq] at h ⊢
    rw [h]
    rfl

theorem session_runDotCommand (shell : Shell) {after : Shell} {command : DotCommand}
    (hrun : ∀ request, command ≠ .run request)
    (h : (shell.runDotCommand command).2 = some after) :
    after.session = shell.session ∨
      ∃ connected, after.session = shell.session.setConnected connected := by
  cases command with
  | run request => exact absurd rfl (hrun request)
  | exit => cases h
  | connect =>
    obtain rfl := Option.some.inj h
    exact .inr ⟨true, rfl⟩
  | disconnect =>
    obtain rfl := Option.some.inj h
    exact .inr ⟨false, rfl⟩
  | format name =>
    have hset : (shell.setFormat name).2.session = shell.session := by
      unfold setFormat
      split
      · rfl
      · split <;> rfl
    obtain rfl := Option.some.inj h
    exact .inl hset
  | timer value =>
    have hset : (shell.setTimer value).2.session = shell.session := by
      unfold setTimer
      split
      · rfl
      · dsimp only
        split
        · rfl
        · split <;> rfl
    obtain rfl := Option.some.inj h
    exact .inl hset
  | help | clear | usage text | unknown name =>
    obtain rfl := Option.some.inj h
    exact .inl rfl

/-- What a line does to a session: it runs one request, or nothing but the connection changes. -/
theorem session_of_step {shell after : Shell} {line : List Char}
    (hstep : (shell.step line).2 = some after) :
    (∃ request, submission? shell.buffer line = some request ∧
      after.session = (shell.session.run request).2) ∨
    submission? shell.buffer line = none ∧
      (after.session = shell.session ∨
        ∃ connected, after.session = shell.session.setConnected connected) := by
  cases hsubmission : submission? shell.buffer line with
  | some request =>
    rw [step_of_submission? hsubmission] at hstep
    obtain rfl := Option.some.inj hstep
    exact .inl ⟨request, rfl, rfl⟩
  | none =>
    refine .inr ⟨rfl, ?_⟩
    unfold submission? at hsubmission
    unfold step at hstep
    cases hfeed : feed shell.buffer line with
    | incomplete buffer =>
      simp only [hfeed, Option.some.injEq] at hstep
      left
      rw [← hstep]
    | dotCommand text =>
      simp only [hfeed] at hsubmission hstep
      have hrun : ∀ request, DotCommand.parse text ≠ .run request := by
        intro request hparse
        simp [hparse] at hsubmission
      exact ({ shell with buffer := [] } : Shell).session_runDotCommand hrun hstep
    | statement text => simp [hfeed] at hsubmission

/-- **A line makes a shell submit one request or none.** -/
theorem submitted_of_step {shell after : Shell} {line : List Char}
    (hstep : (shell.step line).2 = some after) :
    after.session.submitted =
      shell.session.submitted ++ (submission? shell.buffer line).toList := by
  obtain ⟨request, hsubmission, hsession⟩ | ⟨hsubmission, hsession | ⟨connected, hsession⟩⟩ :=
    session_of_step hstep
  · rw [hsubmission, hsession, Session.submitted_run]
    rfl
  · rw [hsubmission, hsession, Option.toList_none, List.append_nil]
  · rw [hsubmission, hsession, Option.toList_none, List.append_nil]
    rfl

@[simp] theorem buffer_runRequest (shell : Shell) (request : Request) :
    (shell.runRequest request).2.buffer = shell.buffer := rfl

@[simp] theorem session_runRequest (shell : Shell) (request : Request) :
    (shell.runRequest request).2.session = (shell.session.run request).2 := rfl

theorem fst_runRequest (shell : Shell) (request : Request) :
    (shell.runRequest request).1 =
      emit shell.format (shell.session.run request).1 ++ (if shell.timing then [.elapsed] else []) :=
  rfl

/-- **A request that a line submits is run.** If no other one waits, it runs on the store as it is, and
its deliveries are printed. -/
theorem step_submits {shell : Shell} {line : List Char} {request : Request}
    (h : submission? shell.buffer line = some request) :
    ∃ emissions after, shell.step line = (emissions, some after) ∧ after.buffer = [] ∧
      after.session.submitted = shell.session.submitted ++ [request] ∧
      (shell.session.engine.AtRest →
        let engine := shell.session.engine
        let run := request.run engine.executor engine.workspace
        emissions = emit shell.format run.1 ++ (if shell.timing then [.elapsed] else []) ∧
          after.session.engine = { engine with workspace := run.2 } ∧
          after.session.engine.AtRest) := by
  let cleared : Shell := { shell with buffer := [] }
  refine ⟨(cleared.runRequest request).1, (cleared.runRequest request).2, step_of_submission? h,
    cleared.buffer_runRequest request, ?_, fun hrest => ?_⟩
  · have hsubmitted := submitted_of_step (congrArg Prod.snd (step_of_submission? h))
    rw [h] at hsubmitted
    exact hsubmitted
  · rw [fst_runRequest, session_runRequest]
    have hrun := Session.run_of_atRest hrest request
    have hafter := Session.atRest_run hrest request
    dsimp only [cleared]
    rw [hrun] at hafter ⊢
    exact ⟨rfl, rfl, hafter⟩

theorem atRest_steps {shell after : Shell} {lines : List (List Char)}
    (h : shell.session.engine.AtRest) (hsteps : (shell.steps lines).2 = some after) :
    after.session.engine.AtRest := by
  induction lines generalizing shell with
  | nil =>
    obtain rfl := Option.some.inj hsteps
    exact h
  | cons line rest ih =>
    unfold steps at hsteps
    split at hsteps
    next emissions next hstep =>
      refine ih ?_ hsteps
      obtain ⟨request, -, hsession⟩ | ⟨-, hsession | ⟨connected, hsession⟩⟩ :=
        session_of_step (congrArg Prod.snd hstep)
      · rw [hsession]
        exact Session.atRest_run h request
      · rw [hsession]
        exact h
      · rw [hsession]
        exact Session.atRest_setConnected h connected
    next => cases hsteps

/-- **Whenever a shell asks for a line, its session is at rest.** -/
theorem atRest_of_start {store : Store} {session : Session} (h : Session.start store = .ok session)
    (format : OutputFormat) {lines : List (List Char)} {after : Shell}
    (hsteps : (({ session, format } : Shell).steps lines).2 = some after) :
    after.session.engine.AtRest :=
  atRest_steps (Session.atRest_start h) hsteps

end Shell

end RecordQuery
