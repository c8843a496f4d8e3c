import Mathlib.Data.List.Induction
import Mathlib.Data.List.TakeWhile
import RecordQuery.Proofs.Engine.Channel
import RecordQuery.Proofs.Outcome

/-!
# What happens to an engine

* `Engine.Event`, `Observed.step`: what happens to an engine, in any order, and what its user gets.
* `Event.accepted`, `Event.refused`: the requests that are submitted before a shutdown and after it.
* `Observed.foldl_settling`: an engine settles by turns of its workers.
* `Observed.length_waiting_foldl_step`: each turn of a worker takes a request from its queue.
-/

namespace RecordQuery

variable {σ : Type}

namespace Engine

/-! ## Events -/

inductive Event where
  | submit (request : Request)
  /-- The worker of a queue runs its next request, if one waits. -/
  | work (kind : QueueKind)
  /-- The user receives, which waits for a mark. -/
  | receive
  | shutdown
deriving DecidableEq

namespace Event

def request? : Event → Option Request
  | .submit request => some request
  | _ => none

/-- The requests that are submitted before a shutdown. -/
def accepted (events : List Event) : List Request :=
  (events.takeWhile (· ≠ .shutdown)).filterMap request?

/-- The requests that are submitted after a shutdown. -/
def refused (events : List Event) : List Request :=
  (events.dropWhile (· ≠ .shutdown)).filterMap request?

/-- As many turns of each worker as requests wait in its queue. -/
def settling (engine : Engine σ) : List Event :=
  List.replicate (engine.queue .query).backlog (.work .query) ++
    List.replicate (engine.queue .write).backlog (.work .write)

theorem request?_of_mem_settling {engine : Engine σ} {event : Event} (h : event ∈ settling engine) :
    event.request? = none := by
  obtain h | h := List.mem_append.1 h
  · rw [List.eq_of_mem_replicate h]
    rfl
  · rw [List.eq_of_mem_replicate h]
    rfl

theorem backlog_le_count_settling (engine : Engine σ) (kind : QueueKind) :
    (engine.queue kind).backlog ≤ (settling engine).count (.work kind) := by
  unfold settling
  rw [List.count_append]
  cases kind with
  | query =>
    rw [List.count_replicate_self]
    exact Nat.le_add_right ..
  | write =>
    rw [List.count_replicate_self]
    exact Nat.le_add_left ..

theorem forall_ne_shutdown {events : List Event} (h : .shutdown ∉ events) :
    ∀ event ∈ events, decide (event ≠ .shutdown) = true := by
  intro event hevent
  exact decide_eq_true fun heq => h (heq ▸ hevent)

theorem accepted_of_notMem {events : List Event} (h : .shutdown ∉ events) :
    accepted events = events.filterMap request? ∧ refused events = [] := by
  have hall := forall_ne_shutdown h
  unfold accepted refused
  rw [List.takeWhile_eq_self_iff.2 hall, List.dropWhile_eq_nil_iff.2 hall]
  exact ⟨rfl, rfl⟩

theorem accepted_append_shutdown {before : List Event} (h : .shutdown ∉ before)
    (after : List Event) :
    accepted (before ++ .shutdown :: after) = before.filterMap request? ∧
      refused (before ++ .shutdown :: after) = after.filterMap request? := by
  have hall := forall_ne_shutdown h
  unfold accepted refused
  rw [List.takeWhile_append_of_pos hall, List.dropWhile_append_of_pos hall,
    List.takeWhile_cons_of_neg (by simp), List.dropWhile_cons_of_neg (by simp), List.append_nil]
  exact ⟨rfl, rfl⟩

theorem accepted_concat (events : List Event) (event : Event) :
    accepted (events ++ [event]) =
        accepted events ++ (if .shutdown ∈ events then [] else event.request?.toList) ∧
      refused (events ++ [event]) =
        refused events ++ (if .shutdown ∈ events then event.request?.toList else []) := by
  have hsingle : [event].filterMap request? = event.request?.toList := by
    cases event <;> rfl
  by_cases h : .shutdown ∈ events
  · obtain ⟨before, after, rfl, hbefore⟩ := List.eq_append_cons_of_mem h
    obtain ⟨haccepted, hrefused⟩ := accepted_append_shutdown hbefore after
    obtain ⟨haccepted', hrefused'⟩ := accepted_append_shutdown hbefore (after ++ [event])
    rw [if_pos h, if_pos h, List.append_assoc, List.cons_append, haccepted, haccepted', hrefused,
      hrefused', List.filterMap_append, hsingle, List.append_nil]
    exact ⟨rfl, rfl⟩
  · obtain ⟨haccepted, hrefused⟩ := accepted_of_notMem h
    rw [if_neg h, if_neg h, haccepted, hrefused]
    by_cases hevent : event = .shutdown
    · subst hevent
      obtain ⟨haccepted', hrefused'⟩ := accepted_append_shutdown h []
      exact ⟨haccepted'.trans (List.append_nil _).symm, hrefused'⟩
    · have hconcat : .shutdown ∉ events ++ [event] := by
        rw [List.mem_append, List.mem_singleton]
        rintro (hmem | heq)
        · exact h hmem
        · exact hevent heq.symm
      obtain ⟨haccepted', hrefused'⟩ := accepted_of_notMem hconcat
      rw [haccepted', hrefused', List.filterMap_append, hsingle]
      exact ⟨rfl, rfl⟩

end Event

/-- The answer of an engine that is shut down. -/
def refusal : Except Error QueueKind :=
  .error (.internal "engine is shut down")

/-- An engine, and what its user has got from it. -/
structure Observed (σ : Type) where
  engine : Engine σ
  answers : List (Except Error QueueKind) := []
  received : List (List Delivery) := []

namespace Observed

/-- What an event changes. While no mark is in the channel, nothing is received. -/
def step (observed : Observed σ) : Event → Observed σ
  | .submit request =>
    let (answer, engine) := observed.engine.submit request
    { observed with engine, answers := observed.answers ++ [answer] }
  | .work kind => { observed with engine := observed.engine.work kind }
  | .receive =>
    if observed.engine.channel.any Message.isMark then
      let (items, engine) := observed.engine.receive
      { observed with engine, received := observed.received ++ [items] }
    else observed
  | .shutdown => { observed with engine := observed.engine.shutdown }

theorem step_receive_nil {observed : Observed σ}
    (h : observed.engine.channel = Message.frame []) : observed.step .receive = observed := by
  rw [step, h]
  rfl

theorem step_receive_cons {observed : Observed σ} {items : List Delivery}
    {lists : List (List Delivery)} (h : observed.engine.channel = Message.frame (items :: lists)) :
    observed.step .receive =
      { observed with
        engine := { observed.engine with channel := Message.frame lists }
        received := observed.received ++ [items] } := by
  rw [step, if_pos (by rw [h]; exact Message.any_isMark_frame_cons items lists), Engine.receive, h,
    Message.receive_frame_cons]

theorem foldl_receive {observed : Observed σ} {lists : List (List Delivery)}
    (h : observed.engine.channel = Message.frame lists) :
    (List.replicate lists.length Event.receive).foldl step observed =
      { observed with
        engine := { observed.engine with channel := [] }
        received := observed.received ++ lists } := by
  induction lists generalizing observed with
  | nil =>
    rw [List.append_nil]
    exact congrArg (fun channel =>
      { observed with engine := { observed.engine with channel } }) h
  | cons items lists ih =>
    rw [List.length_cons, List.replicate_succ, List.foldl_cons, step_receive_cons h, ih rfl,
      List.append_cons observed.received items lists]

theorem foldl_work (observed : Observed σ) (kind : QueueKind) (turns : Nat) :
    (List.replicate turns (Event.work kind)).foldl step observed =
      { observed with engine := observed.engine.workTimes kind turns } := by
  induction turns generalizing observed with
  | zero => rfl
  | succ turns ih =>
    rw [List.replicate_succ, List.foldl_cons, ih]
    rfl

/-- **An engine settles by turns of its workers**, as many of each as requests wait there. -/
theorem foldl_settling (observed : Observed σ) :
    (Event.settling observed.engine).foldl step observed =
      { observed with engine := observed.engine.settle } := by
  have hwrite : (observed.engine.workAll .query).queue .write = observed.engine.queue .write := by
    rw [queue_workAll, if_neg (by decide)]
  unfold Event.settling
  rw [List.foldl_append, foldl_work, foldl_work, settle, workAll, hwrite]
  rfl

theorem length_waiting_step (observed : Observed σ) (kind : QueueKind) {event : Event}
    (h : event.request? = none) :
    ((observed.step event).engine.queue kind).waiting.length ≤
      (observed.engine.queue kind).waiting.length - [event].count (.work kind) := by
  cases event with
  | submit request => cases h
  | work other =>
    rw [step, queue_work]
    by_cases hkind : kind = other
    · subst hkind
      simp
    · rw [if_neg hkind, List.count_eq_zero_of_not_mem]
      · exact Nat.le_refl _
      · simpa using hkind
  | receive =>
    have hqueue : (observed.step .receive).engine.queue kind = observed.engine.queue kind := by
      rw [step]
      split
      · exact queue_withChannel _ _ kind
      · rfl
    rw [hqueue]
    simp
  | shutdown =>
    rw [step, queue_shutdown]
    exact Nat.zero_le _

theorem length_waiting_foldl_step (observed : Observed σ) (kind : QueueKind) {events : List Event}
    (h : ∀ event ∈ events, event.request? = none) :
    ((events.foldl step observed).engine.queue kind).waiting.length ≤
      (observed.engine.queue kind).waiting.length - events.count (.work kind) := by
  induction events generalizing observed with
  | nil => exact Nat.le_refl _
  | cons event rest ih =>
    obtain ⟨hevent, hrest⟩ := List.forall_mem_cons.1 h
    have hstep := length_waiting_step observed kind hevent
    have hlater := ih (observed.step event) hrest
    have hcount : (event :: rest).count (.work kind) =
        [event].count (.work kind) + rest.count (.work kind) := by
      rw [← List.count_append, List.singleton_append]
    rw [List.foldl_cons, hcount]
    omega

end Observed

end Engine

end RecordQuery
