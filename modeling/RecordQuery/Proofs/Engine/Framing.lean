import RecordQuery.Proofs.Engine.Events
import RecordQuery.Store.Faults

/-!
# The engine runs requests one after the other

`Engine.runs_in_order`: if the requests that an engine takes are all of one queue, then its user
receives, request by request, what the requests deliver when they run one after the other.

* `Observed.Follows`: what holds after any events, kept by each (`Follows.submit_accepted`,
  `Follows.submit_refused`, `Follows.work`, `Follows.receive`, `Follows.shutdown`).
* `Follows.runs_all_of_turns`: the requests that wait are run by as many turns of their worker.
-/

namespace RecordQuery

variable {σ : Type}

namespace Engine

namespace Observed

/-- What holds after some events if the requests that were taken are of one queue. -/
structure Follows (start : Engine σ) (kind : QueueKind) (accepted refused : List Request)
    (closed : Bool) (observed : Observed σ) : Prop where
  answers : observed.answers =
    accepted.map (fun _ => .ok kind) ++ refused.map fun _ => refusal
  runs : ∃ done, accepted = done ++ (observed.engine.queue kind).waiting ∧
    Runs start done observed.received observed.engine
  idle : ∀ other, other ≠ kind → (observed.engine.queue other).waiting = []
  isOpen : ∀ other, (observed.engine.queue other).isOpen = !closed
  finished : closed = true → (observed.engine.queue kind).waiting = []

namespace Follows

variable {start : Engine σ} {kind : QueueKind} {accepted refused : List Request} {closed : Bool}
  {observed : Observed σ}

theorem submit_refused (h : Follows start kind accepted refused true observed)
    (request : Request) :
    Follows start kind accepted (refused ++ [request]) true (observed.step (.submit request)) := by
  have hstep : observed.step (.submit request) =
      { observed with answers := observed.answers ++ [refusal] } := by
    rw [step, submit_of_closed (h.isOpen request.queue)]
    rfl
  rw [hstep]
  constructor
  · rw [List.map_append, ← List.append_assoc, ← h.answers]
    rfl
  · exact h.runs
  · exact h.idle
  · exact h.isOpen
  · exact h.finished

theorem submit_accepted {request : Request}
    (h : Follows start request.queue accepted [] false observed) :
    Follows start request.queue (accepted ++ [request]) [] false
      (observed.step (.submit request)) := by
  have hstep : observed.step (.submit request) =
      { observed with
        engine := observed.engine.withQueue
          { observed.engine.queue request.queue with
            waiting := (observed.engine.queue request.queue).waiting ++ [request] }
          request.queue
        answers := observed.answers ++ [.ok request.queue] } := by
    rw [step, submit_of_isOpen (h.isOpen request.queue)]
  rw [hstep]
  constructor
  · rw [h.answers, List.map_append, List.map_nil, List.append_nil, List.append_nil]
    rfl
  · obtain ⟨done, hdone, hruns⟩ := h.runs
    refine ⟨done, ?_, hruns.withQueue _ _⟩
    rw [hdone, queue_withQueue, List.append_assoc]
  · intro other hother
    dsimp only
    rw [queue_withQueue_of_ne _ _ hother]
    exact h.idle other hother
  · intro other
    rw [← h.isOpen other]
    by_cases hother : other = request.queue
    · rw [hother, queue_withQueue]
    · rw [queue_withQueue_of_ne _ _ hother]
  · exact fun hclosed => absurd hclosed Bool.false_ne_true

theorem work (h : Follows start kind accepted refused closed observed) (other : QueueKind) :
    Follows start kind accepted refused closed (observed.step (.work other)) := by
  by_cases hother : other = kind
  · subst hother
    rw [step]
    constructor
    · exact h.answers
    · obtain ⟨done, hdone, hruns⟩ := h.runs
      refine ⟨_, ?_, hruns.work other⟩
      rw [hdone, queue_work, if_pos rfl, List.append_assoc, ← List.drop_one, List.take_append_drop]
    · intro another hanother
      dsimp only
      rw [queue_work, if_neg hanother]
      exact h.idle another hanother
    · intro another
      rw [queue_work, ← h.isOpen another]
      split
      next hsame => rw [hsame]
      next => rfl
    · intro hclosed
      rw [queue_work, if_pos rfl, h.finished hclosed, List.tail_nil]
  · rw [step, work_of_nil (h.idle other hother)]
    exact h

theorem receive (h : Follows start kind accepted refused closed observed) :
    Follows start kind accepted refused closed (observed.step .receive) := by
  obtain ⟨done, hdone, hruns⟩ := h.runs
  obtain ⟨pending, hlists, hchannel⟩ := hruns.channel
  cases pending with
  | nil =>
    rw [step_receive_nil hchannel]
    exact h
  | cons items pending =>
    rw [step_receive_cons hchannel]
    constructor
    · exact h.answers
    · refine ⟨done, ?_, hruns.executor, hruns.workspace, pending, ?_, rfl⟩
      · rw [queue_withChannel]
        exact hdone
      · rw [hlists, List.append_cons]
    · intro other hother
      rw [queue_withChannel]
      exact h.idle other hother
    · intro other
      rw [queue_withChannel]
      exact h.isOpen other
    · intro hclosed
      rw [queue_withChannel]
      exact h.finished hclosed

theorem shutdown (h : Follows start kind accepted refused closed observed) :
    Follows start kind accepted refused true (observed.step .shutdown) := by
  rw [step]
  constructor
  · exact h.answers
  · obtain ⟨done, hdone, hruns⟩ := h.runs
    refine ⟨_, ?_, hruns.shutdown h.idle⟩
    rw [hdone, queue_shutdown, List.append_nil]
  · intro other hother
    rw [queue_shutdown]
  · intro other
    rw [queue_shutdown]
    rfl
  · intro _
    rw [queue_shutdown]

theorem foldl_quiet (h : Follows start kind accepted refused closed observed) {later : List Event}
    (hquiet : ∀ event ∈ later, event.request? = none) :
    ∃ closed', Follows start kind accepted refused closed' (later.foldl step observed) := by
  induction later generalizing observed closed with
  | nil => exact ⟨closed, h⟩
  | cons event rest ih =>
    obtain ⟨hevent, hrest⟩ := List.forall_mem_cons.1 hquiet
    cases event with
    | submit request => cases hevent
    | work other => exact ih (h.work other) hrest
    | receive => exact ih h.receive hrest
    | shutdown => exact ih h.shutdown hrest

theorem runs_all (h : Follows start kind accepted refused closed observed)
    (hnone : (observed.engine.queue kind).waiting = []) :
    Runs start accepted observed.received observed.engine := by
  obtain ⟨done, hdone, hruns⟩ := h.runs
  rw [hnone, List.append_nil] at hdone
  rw [hdone]
  exact hruns

/-- Turns of the worker, as many as requests wait, run them all, whatever else goes on. -/
theorem runs_all_of_turns (h : Follows start kind accepted refused closed observed)
    {later : List Event} (hquiet : ∀ event ∈ later, event.request? = none)
    (hturns : (observed.engine.queue kind).backlog ≤ later.count (.work kind)) :
    Runs start accepted (later.foldl step observed).received (later.foldl step observed).engine := by
  obtain ⟨closed', hlater⟩ := h.foldl_quiet hquiet
  refine hlater.runs_all (List.eq_nil_of_length_eq_zero ?_)
  have hlength := length_waiting_foldl_step observed kind hquiet
  rw [TaskQueue.backlog] at hturns
  omega

/-- An engine settles by turns of its workers, so settling runs what waits. -/
theorem runs_settle (h : Follows start kind accepted refused closed observed) :
    Runs start accepted observed.received observed.engine.settle := by
  have hruns := h.runs_all_of_turns (fun _ => Event.request?_of_mem_settling)
    (Event.backlog_le_count_settling observed.engine kind)
  rw [foldl_settling] at hruns
  exact hruns

end Follows

theorem follows_foldl_step {start : Engine σ} {kind : QueueKind}
    (hstart : Follows start kind [] [] false { engine := start }) (events : List Event)
    (hkind : ∀ request ∈ Event.accepted events, request.queue = kind) :
    Follows start kind (Event.accepted events) (Event.refused events)
      (decide (.shutdown ∈ events)) (events.foldl step { engine := start }) := by
  -- by the last event: whether its request is taken depends on what came before it
  induction events using List.reverseRecOn with
  | nil => exact hstart
  | append_singleton events event ih =>
    obtain ⟨haccepted, hrefused⟩ := Event.accepted_concat events event
    have h := ih fun request hrequest =>
      hkind request (haccepted ▸ List.mem_append_left _ hrequest)
    have hshutdown : decide (.shutdown ∈ events ++ [event]) =
        (decide (.shutdown ∈ events) || decide (.shutdown = event)) := by
      simp
    rw [haccepted, hrefused, hshutdown, List.foldl_append]
    cases event with
    | submit request =>
      by_cases hclosed : .shutdown ∈ events
      · rw [if_pos hclosed, if_pos hclosed, List.append_nil]
        rw [decide_eq_true hclosed] at h ⊢
        exact h.submit_refused request
      · obtain rfl : request.queue = kind := by
          refine hkind request ?_
          rw [haccepted, if_neg hclosed]
          exact List.mem_append_right _ (List.mem_singleton_self request)
        rw [if_neg hclosed, if_neg hclosed, List.append_nil, (Event.accepted_of_notMem hclosed).2]
        rw [(Event.accepted_of_notMem hclosed).2, decide_eq_false hclosed] at h
        rw [decide_eq_false hclosed]
        exact h.submit_accepted
    | work other =>
      simp only [Event.request?, Option.toList_none, ite_self, List.append_nil, reduceCtorEq,
        decide_false, Bool.or_false]
      exact h.work other
    | receive =>
      simp only [Event.request?, Option.toList_none, ite_self, List.append_nil, reduceCtorEq,
        decide_false, Bool.or_false]
      exact h.receive
    | shutdown =>
      simp only [Event.request?, Option.toList_none, ite_self, List.append_nil, decide_true,
        Bool.or_true]
      exact h.shutdown

/-- Receives the lists that are missing of those of some requests. -/
def receiveMissing (observed : Observed σ) (requests : List Request) : Observed σ :=
  (List.replicate (requests.length - observed.received.length) Event.receive).foldl step observed

theorem receiveMissing_of_runs {start : Engine σ} {done : List Request} {observed : Observed σ}
    (h : Runs start done observed.received observed.engine) :
    observed.receiveMissing done =
      { observed with
        engine := { observed.engine with channel := [] }
        received := (Request.runAll start.executor done start.workspace).1 } := by
  obtain ⟨pending, hlists, hchannel⟩ := h.channel
  have hlength : done.length - observed.received.length = pending.length := by
    rw [← Request.length_runAll start.executor done start.workspace, hlists, List.length_append,
      Nat.add_sub_cancel_left]
  rw [receiveMissing, hlength, foldl_receive hchannel, hlists]

end Observed

theorem follows_start {client : StoreClient σ} {settings : EngineSettings} {store : σ}
    {keys : KeySupply} {start : Engine σ}
    (hstart : Engine.start client settings store keys = .ok start) (kind : QueueKind) :
    Observed.Follows start kind [] [] false { engine := start } := by
  obtain ⟨settings, -, rfl⟩ := map_eq_ok_iff.1 hstart
  constructor
  · rfl
  · refine ⟨[], by cases kind <;> rfl, rfl, rfl, [], rfl, rfl⟩
  · intro other _
    cases other <;> rfl
  · intro other
    cases other <;> rfl
  · exact fun hclosed => absurd hclosed Bool.false_ne_true

/-- **The engine runs requests one after the other.** An engine is started on a store, which may fail
as it likes, with any supply of keys, and then its user submits and receives and shuts it down and its
workers work, in any order. If all requests that it takes are of one queue, these are the requests
that were submitted before a shutdown; every other one is answered by an error. Each request has a
list of deliveries of its own, which is not empty and has no mark in it, as it comes from running all
of them one after the other on the store. What was received are the first of these lists. When as
many were received as requests were taken, or the engine is shut down, the store is as it is after
that run. Once the worker has taken as many turns as requests wait, whatever else goes on, all have
run, and the lists that are missing are received. -/
theorem runs_in_order {client : StoreClient σ} {settings : EngineSettings} {store : σ}
    {keys : KeySupply} {start : Engine σ}
    (hstart : Engine.start client settings store keys = .ok start) {kind : QueueKind}
    {events : List Event} (hkind : ∀ request ∈ Event.accepted events, request.queue = kind) :
    let observed := events.foldl Observed.step { engine := start }
    let accepted := Event.accepted events
    let lists := (Request.runAll start.executor accepted { store, keys }).1
    let workspace := (Request.runAll start.executor accepted { store, keys }).2
    observed.answers = accepted.map (fun _ => .ok kind) ++
        (Event.refused events).map (fun _ => .error (.internal "engine is shut down")) ∧
      lists.length = accepted.length ∧ (∀ items ∈ lists, items ≠ []) ∧
      (∀ (request : Request) (workspace : Workspace σ),
        .finished ∉ (request.messages start.executor workspace).1 ∧
          (request.run start.executor workspace).1.map Delivery.message =
            (request.messages start.executor workspace).1) ∧
      observed.received <+: lists ∧
      (observed.received.length = accepted.length →
        observed.received = lists ∧ observed.engine.workspace = workspace ∧
          observed.engine.channel = []) ∧
      (.shutdown ∈ events →
        observed.engine.workspace = workspace ∧
          (observed.receiveMissing accepted).received = lists ∧
          ∀ request, observed.engine.submit request =
            (.error (.internal "engine is shut down"), observed.engine)) ∧
      (∀ later : List Event, (∀ event ∈ later, event.request? = none) →
        (observed.engine.queue kind).backlog ≤ later.count (.work kind) →
        let after := later.foldl Observed.step observed
        after.engine.workspace = workspace ∧
          after.receiveMissing accepted =
            { after with engine := { after.engine with channel := [] }, received := lists }) ∧
      let settled := { observed with engine := observed.engine.settle }
      settled.engine.workspace = workspace ∧
        settled.receiveMissing accepted =
          { settled with engine := { settled.engine with channel := [] }, received := lists } := by
  intro observed accepted lists workspace
  have hfollows := Observed.follows_foldl_step (follows_start hstart kind) events hkind
  have hworkspace : start.workspace = { store, keys } := by
    obtain ⟨settings, -, rfl⟩ := map_eq_ok_iff.1 hstart
    rfl
  have hlists : (Request.runAll start.executor accepted start.workspace).1 = lists := by
    rw [hworkspace]
  have hworkspaces : (Request.runAll start.executor accepted start.workspace).2 = workspace := by
    rw [hworkspace]
  have hlength : lists.length = accepted.length := Request.length_runAll _ _ _
  have hafter : ∀ {after : Observed σ}, Runs start accepted after.received after.engine →
      after.engine.workspace = workspace ∧
        after.receiveMissing accepted =
          { after with engine := { after.engine with channel := [] }, received := lists } := by
    intro after hruns
    refine ⟨hruns.workspace.trans hworkspaces, ?_⟩
    rw [Observed.receiveMissing_of_runs hruns, hlists]
  -- what was received is compared with the lists when nothing waits any more
  have hsettled : Runs start accepted observed.received observed.engine.settle :=
    hfollows.runs_settle
  have hfirst : observed.received <+: lists := by
    obtain ⟨pending, hpending, -⟩ := hsettled.channel
    exact ⟨pending, (hlists.symm.trans hpending).symm⟩
  refine ⟨hfollows.answers, hlength, Request.ne_nil_of_mem_runAll _ _ _,
    fun request workspace => ⟨(request.isReport_messages _ workspace).2,
      request.map_message_run _ workspace⟩, hfirst,
    fun hreceived => ⟨hfirst.eq_of_length (hreceived.trans hlength.symm), ?_⟩, fun hshut => ?_,
    fun later hquiet hturns => hafter (hfollows.runs_all_of_turns hquiet hturns), hafter hsettled⟩
  · obtain ⟨done, hdone, hruns⟩ := hfollows.runs
    obtain ⟨hnone, hchannel⟩ := hruns.all_received (hreceived.trans (congrArg _ hdone))
    exact ⟨((hfollows.runs_all hnone).workspace).trans hworkspaces, hchannel⟩
  · have hruns := hfollows.runs_all (hfollows.finished (decide_eq_true hshut))
    refine ⟨(hafter hruns).1, congrArg Observed.received (hafter hruns).2,
      fun request => submit_of_closed ?_⟩
    rw [hfollows.isOpen, decide_eq_true hshut]
    rfl

/-- Two insertions without keys around a deletion that times out, each received after its turn, and a
selection and a deletion, the second of which still waits. -/
theorem runs_in_order_two_queues :
    let key : RecordKey := ⟨"a", "b", "x"⟩
    let faulty : FaultyStore :=
      { store := (Store.empty {}).write key (.ofList [("n", .str "1")])
        faults := { stuck := ["y"] } }
    let keys := KeySupply.ofStream fun draw => if draw = 0 then "p" else "q"
    let writes : List Request := [.statement "INSERT INTO a.b (n) VALUES ('2')",
      .deleteRecord ⟨"a", "b", "y"⟩, .statement "INSERT INTO a.b (n) VALUES ('3')"]
    let reads : List Request :=
      [.statement "SELECT n FROM a.b", .statement "DELETE FROM a.b WHERE n = '1'"]
    let writing : List Event := writes.map .submit ++
      [.receive, .work .write, .receive, .work .query, .work .write, .work .write, .receive,
        .receive, .shutdown, .submit .catalogue]
    let reading : List Event := reads.map .submit ++ [.work .query, .receive, .receive]
    ∃ start, Engine.start FaultyStore.client {} faulty keys = .ok start ∧
      let written := writing.foldl Observed.step { engine := start }
      let read := reading.foldl Observed.step { engine := start }
      let later := [Event.work .write, Event.work .query].foldl Observed.step read
      written.received = (Request.runAll start.executor writes { store := faulty, keys }).1 ∧
        written.received.map (List.map Delivery.isError) = [[false], [true], [false]] ∧
        written.answers =
          [.ok .write, .ok .write, .ok .write, .error (.internal "engine is shut down")] ∧
        (written.engine.workspace.store.store.find? ⟨"a", "b", "p"⟩).isSome = true ∧
        (written.engine.workspace.store.store.find? ⟨"a", "b", "q"⟩).isSome = true ∧
        read.received.length = 1 ∧ (read.engine.workspace.store.store.find? key).isSome = true ∧
        (later.receiveMissing reads).received =
          (Request.runAll start.executor reads { store := faulty, keys }).1 ∧
        (later.engine.workspace.store.store.find? key).isNone = true := by
  intro key faulty keys writes reads writing reading
  let start : Engine FaultyStore :=
    { executor := { client := FaultyStore.client }
      workspace := { store := faulty, keys }
      queryQueue := { name := ({} : EngineSettings).queryQueue }
      writeQueue := { name := ({} : EngineSettings).writeQueue } }
  have hstart : Engine.start FaultyStore.client {} faulty keys = .ok start := rfl
  refine ⟨start, hstart, ?_⟩
  intro written read later
  have hwrites : ∀ request ∈ Event.accepted writing, request.queue = .write := by decide +kernel
  have hreads : ∀ request ∈ Event.accepted reading, request.queue = .query := by decide +kernel
  have hcount : written.received.length = 3 := by decide +kernel
  have hturns : (read.engine.queue .query).backlog ≤
      [Event.work .write, Event.work .query].count (.work .query) := by decide +kernel
  obtain ⟨hanswers, -, -, -, -, hall, -⟩ := runs_in_order hstart hwrites
  obtain ⟨-, -, -, -, -, -, -, hlater, -⟩ := runs_in_order hstart hreads
  obtain ⟨-, hmissing⟩ := hlater [.work .write, .work .query] (by decide) hturns
  exact ⟨(hall hcount).1, by decide +kernel, hanswers, by decide +kernel, by decide +kernel,
    by decide +kernel, by decide +kernel, congrArg Observed.received hmissing, by decide +kernel⟩

end Engine

end RecordQuery
