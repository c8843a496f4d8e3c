import RecordQuery.Engine
import RecordQuery.Proofs.Request.Running

/-!
# Queues and the channel of an engine

* `Message.frame`: lists of deliveries in a channel, each with a mark after it.
  `Message.receive_frame_cons`: a list is cut out again at its mark.
* `Engine.queue_work`, `queue_workTimes`: the queues after turns of a worker.
* `Engine.Runs`: some requests have run one after the other, and the channel holds of their
  deliveries what was not received. `Runs.work`: one more turn of a worker.
-/

namespace RecordQuery

variable {σ : Type}

/-! ## Frames -/

def Message.isMark : Message → Bool
  | .finished => true
  | _ => false

/-- The deliveries of requests in a channel: each list ends at a mark. -/
def Message.frame (lists : List (List Delivery)) : List Message :=
  lists.flatMap fun items => items.map Delivery.message ++ [.finished]

theorem Message.frame_concat (lists : List (List Delivery)) (items : List Delivery) :
    frame (lists ++ [items]) = frame lists ++ items.map Delivery.message ++ [.finished] := by
  unfold frame
  rw [List.flatMap_append, List.flatMap_singleton, List.append_assoc]

theorem Message.receive_frame_cons (items : List Delivery) (lists : List (List Delivery)) :
    receive (frame (items :: lists)) = (items, frame lists) := by
  have hcut : ∀ rest : List Message,
      receive (items.map Delivery.message ++ .finished :: rest) = (items, rest) := by
    intro rest
    induction items with
    | nil => rfl
    | cons item items ih =>
      rw [List.map_cons, List.cons_append, receive, Delivery.delivery?_message, ih]
  unfold frame
  rw [List.flatMap_cons, List.append_assoc, List.singleton_append]
  exact hcut _

theorem Message.any_isMark_frame_cons (items : List Delivery) (lists : List (List Delivery)) :
    (frame (items :: lists)).any isMark = true := by
  refine List.any_eq_true.2 ⟨.finished, ?_, rfl⟩
  exact List.mem_append_left _ (List.mem_append_right _ (List.mem_singleton_self _))

namespace Engine

/-! ## Queues -/

@[simp] theorem queue_withQueue (engine : Engine σ) (queue : TaskQueue Request) (kind : QueueKind) :
    (engine.withQueue queue kind).queue kind = queue := by
  cases kind <;> rfl

theorem queue_withQueue_of_ne (engine : Engine σ) (queue : TaskQueue Request)
    {kind other : QueueKind} (h : other ≠ kind) :
    (engine.withQueue queue kind).queue other = engine.queue other := by
  cases kind <;> cases other <;> first | rfl | exact absurd rfl h

@[simp] theorem executor_withQueue (engine : Engine σ) (queue : TaskQueue Request)
    (kind : QueueKind) : (engine.withQueue queue kind).executor = engine.executor := by
  cases kind <;> rfl

@[simp] theorem workspace_withQueue (engine : Engine σ) (queue : TaskQueue Request)
    (kind : QueueKind) : (engine.withQueue queue kind).workspace = engine.workspace := by
  cases kind <;> rfl

@[simp] theorem channel_withQueue (engine : Engine σ) (queue : TaskQueue Request)
    (kind : QueueKind) : (engine.withQueue queue kind).channel = engine.channel := by
  cases kind <;> rfl

theorem queue_withChannel (engine : Engine σ) (channel : List Message) (kind : QueueKind) :
    ({ engine with channel } : Engine σ).queue kind = engine.queue kind := by
  cases kind <;> rfl

@[simp] theorem queue_perform (engine : Engine σ) (request : Request) (kind : QueueKind) :
    (engine.perform request).queue kind = engine.queue kind := by
  cases kind <;> rfl

theorem submit_of_isOpen {engine : Engine σ} {request : Request}
    (h : (engine.queue request.queue).isOpen = true) :
    engine.submit request =
      (.ok request.queue,
        engine.withQueue
          { engine.queue request.queue with
            waiting := (engine.queue request.queue).waiting ++ [request] }
          request.queue) := by
  unfold submit
  dsimp only
  rw [TaskQueue.push, if_pos h]

theorem submit_of_closed {engine : Engine σ} {request : Request}
    (h : (engine.queue request.queue).isOpen = false) :
    engine.submit request = (.error (.internal "engine is shut down"), engine) := by
  unfold submit
  dsimp only
  rw [TaskQueue.push, if_neg (ne_true_of_eq_false h)]

theorem work_of_nil {engine : Engine σ} {kind : QueueKind}
    (h : (engine.queue kind).waiting = []) : engine.work kind = engine := by
  unfold work
  rw [TaskQueue.next?, h]

theorem work_of_cons {engine : Engine σ} {kind : QueueKind} {request : Request}
    {rest : List Request} (h : (engine.queue kind).waiting = request :: rest) :
    engine.work kind =
      (engine.withQueue { engine.queue kind with waiting := rest } kind).perform request := by
  unfold work
  rw [TaskQueue.next?, h]

theorem queue_work (engine : Engine σ) (kind other : QueueKind) :
    (engine.work kind).queue other =
      if other = kind then
        { engine.queue kind with waiting := (engine.queue kind).waiting.tail }
      else engine.queue other := by
  cases hwaiting : (engine.queue kind).waiting with
  | nil =>
    rw [work_of_nil hwaiting, List.tail_nil]
    by_cases h : other = kind
    · rw [if_pos h, h, ← hwaiting]
    · rw [if_neg h]
  | cons request rest =>
    rw [work_of_cons hwaiting, queue_perform, List.tail_cons]
    by_cases h : other = kind
    · rw [if_pos h, h, queue_withQueue]
    · rw [if_neg h, queue_withQueue_of_ne _ _ h]

theorem queue_workTimes (engine : Engine σ) (kind other : QueueKind) (turns : Nat) :
    (engine.workTimes kind turns).queue other =
      if other = kind then
        { engine.queue kind with waiting := (engine.queue kind).waiting.drop turns }
      else engine.queue other := by
  induction turns generalizing engine with
  | zero =>
    rw [workTimes]
    by_cases h : other = kind
    · rw [if_pos h, h, List.drop_zero]
    · rw [if_neg h]
  | succ turns ih =>
    rw [workTimes, ih, queue_work, queue_work]
    by_cases h : other = kind
    · rw [if_pos h, if_pos h, if_pos rfl, List.drop_tail]
    · rw [if_neg h, if_neg h, if_neg h]

theorem queue_workAll (engine : Engine σ) (kind other : QueueKind) :
    (engine.workAll kind).queue other =
      if other = kind then { engine.queue kind with waiting := [] } else engine.queue other := by
  unfold workAll
  rw [queue_workTimes, TaskQueue.backlog, List.drop_length]

theorem queue_settle (engine : Engine σ) (kind : QueueKind) :
    engine.settle.queue kind = { engine.queue kind with waiting := [] } := by
  unfold settle
  cases kind with
  | query => rw [queue_workAll, if_neg (by decide), queue_workAll, if_pos rfl]
  | write => rw [queue_workAll, if_pos rfl, queue_workAll, if_neg (by decide)]

theorem queue_shutdown (engine : Engine σ) (kind : QueueKind) :
    engine.shutdown.queue kind = { engine.queue kind with waiting := [], isOpen := false } := by
  have hclose : engine.shutdown.queue kind = (engine.settle.queue kind).close.2 := by
    cases kind <;> rfl
  rw [hclose, queue_settle]
  rfl

/-! ## Requests that have run -/

/-- Since an engine was started some requests have run, one after the other. Of their deliveries some
lists were received, and the others stand in the channel. -/
structure Runs (start : Engine σ) (done : List Request) (received : List (List Delivery))
    (engine : Engine σ) : Prop where
  executor : engine.executor = start.executor
  workspace : engine.workspace = (Request.runAll start.executor done start.workspace).2
  channel : ∃ pending,
    (Request.runAll start.executor done start.workspace).1 = received ++ pending ∧
      engine.channel = Message.frame pending

namespace Runs

variable {start engine : Engine σ} {done : List Request} {received : List (List Delivery)}

theorem perform (h : Runs start done received engine) (request : Request) :
    Runs start (done ++ [request]) received (engine.perform request) := by
  obtain ⟨pending, hlists, hchannel⟩ := h.channel
  refine ⟨h.executor, ?_, pending ++ [(request.run engine.executor engine.workspace).1], ?_, ?_⟩
  · rw [Request.runAll_concat]
    dsimp only
    rw [← h.workspace, ← h.executor]
    rfl
  · rw [Request.runAll_concat]
    dsimp only
    rw [← h.workspace, hlists, h.executor, List.append_assoc]
  · rw [Message.frame_concat, ← hchannel, Request.map_message_run]
    rfl

theorem withQueue (h : Runs start done received engine) (queue : TaskQueue Request)
    (kind : QueueKind) : Runs start done received (engine.withQueue queue kind) where
  executor := by rw [executor_withQueue, h.executor]
  workspace := by rw [workspace_withQueue, h.workspace]
  channel := by
    rw [channel_withQueue]
    exact h.channel

theorem work (h : Runs start done received engine) (kind : QueueKind) :
    Runs start (done ++ (engine.queue kind).waiting.take 1) received (engine.work kind) := by
  cases hwaiting : (engine.queue kind).waiting with
  | nil =>
    rw [work_of_nil hwaiting, List.take_nil, List.append_nil]
    exact h
  | cons request rest =>
    rw [work_of_cons hwaiting]
    exact (h.withQueue _ kind).perform request

theorem workTimes (h : Runs start done received engine) (kind : QueueKind) (turns : Nat) :
    Runs start (done ++ (engine.queue kind).waiting.take turns) received
      (engine.workTimes kind turns) := by
  induction turns generalizing done engine with
  | zero =>
    rw [List.take_zero, List.append_nil]
    exact h
  | succ turns ih =>
    have hrest := ih (h.work kind)
    rw [queue_work, if_pos rfl, List.append_assoc] at hrest
    have htake : (engine.queue kind).waiting.take (turns + 1) =
        (engine.queue kind).waiting.take 1 ++ (engine.queue kind).waiting.tail.take turns := by
      cases (engine.queue kind).waiting <;> simp
    rw [htake]
    exact hrest

theorem workAll (h : Runs start done received engine) (kind : QueueKind) :
    Runs start (done ++ (engine.queue kind).waiting) received (engine.workAll kind) := by
  have hall := h.workTimes kind (engine.queue kind).backlog
  rw [TaskQueue.backlog, List.take_length] at hall
  exact hall

theorem settle (h : Runs start done received engine) {kind : QueueKind}
    (hidle : ∀ other, other ≠ kind → (engine.queue other).waiting = []) :
    Runs start (done ++ (engine.queue kind).waiting) received engine.settle := by
  have hboth := (h.workAll .query).workAll .write
  rw [queue_workAll, if_neg (by decide)] at hboth
  cases kind with
  | query =>
    rw [hidle .write (by decide), List.append_nil] at hboth
    exact hboth
  | write =>
    rw [hidle .query (by decide), List.append_nil] at hboth
    exact hboth

theorem shutdown (h : Runs start done received engine) {kind : QueueKind}
    (hidle : ∀ other, other ≠ kind → (engine.queue other).waiting = []) :
    Runs start (done ++ (engine.queue kind).waiting) received engine.shutdown :=
  let hsettled := h.settle hidle
  ⟨hsettled.executor, hsettled.workspace, hsettled.channel⟩

theorem all_received (h : Runs start done received engine) {waiting : List Request}
    (hcount : received.length = (done ++ waiting).length) : waiting = [] ∧ engine.channel = [] := by
  obtain ⟨pending, hlists, hchannel⟩ := h.channel
  have hlength := congrArg List.length hlists
  rw [Request.length_runAll, List.length_append] at hlength
  rw [List.length_append] at hcount
  obtain rfl : pending = [] := List.eq_nil_of_length_eq_zero (by omega)
  exact ⟨List.eq_nil_of_length_eq_zero (by omega), hchannel⟩

end Runs

end Engine

end RecordQuery
