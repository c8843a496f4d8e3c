import RecordQuery.Proofs.Store.Calls
import RecordQuery.Request

/-!
# Runs of requests

* `KeySupply.next_afterAll_ofStream`: the keys of a stream are drawn in their order.
* `Request.isReport_messages`: every request sends something, and no mark. So all that it sends is
  delivered (`Request.map_message_run`).
* `Request.runAll`: requests that run one after the other.
-/

namespace RecordQuery

variable {σ α : Type}

/-! ## Keys -/

/-- A supply after keys that were drawn, each of which was stored or lost. -/
def KeySupply.afterAll (supply : KeySupply) (drawn : List Bool) : KeySupply :=
  drawn.foldl KeySupply.after supply

/-- A stream yields its keys in their order, whatever becomes of them. -/
theorem KeySupply.next_afterAll_ofStream (keys : Nat → String) (drawn : List Bool) :
    ((ofStream keys).afterAll drawn).next = keys drawn.length := by
  have hafter : ∀ supply : KeySupply, supply.draw = (ofStream keys).draw →
      (supply.afterAll drawn).next = keys (supply.stored + supply.lost + drawn.length) := by
    induction drawn with
    | nil =>
      intro supply hdraw
      exact congrArg (fun draw => draw supply.stored supply.lost) hdraw
    | cons isStored rest ih =>
      intro supply hdraw
      have hkept : (supply.after isStored).draw = (ofStream keys).draw := by
        cases isStored <;> exact hdraw
      have hcount : (supply.after isStored).stored + (supply.after isStored).lost =
          supply.stored + supply.lost + 1 := by
        cases isStored <;> simp only [after] <;> grind
      have hrest := ih (supply.after isStored) hkept
      rw [hcount] at hrest
      rw [List.length_cons, Nat.add_comm rest.length, ← Nat.add_assoc]
      exact hrest
  simpa [ofStream] using hafter (ofStream keys) rfl

/-- The keys of a workspace after a statement with a given result. -/
def Workspace.keysAfter (workspace : Workspace σ) (executor : Executor σ) (text : String)
    (result : Except Error Outcome) : KeySupply :=
  if executor.draws text.toList workspace.store then workspace.keys.after result.isOk
  else workspace.keys

theorem Workspace.keysAfter_of_draws {workspace : Workspace σ} {executor : Executor σ}
    {text : String} (h : executor.draws text.toList workspace.store = false)
    (result : Except Error Outcome) :
    workspace.keysAfter executor text result = workspace.keys := by
  unfold keysAfter
  rw [h]
  exact if_neg Bool.false_ne_true

/-! ## Statements -/

theorem Workspace.act_eq (workspace : Workspace σ) (action : StoreM σ α) :
    workspace.act action =
      ((action.run workspace.store).1, { workspace with store := (action.run workspace.store).2 }) :=
  rfl

theorem Request.messages_statement (executor : Executor σ) (text : String)
    (workspace : Workspace σ) :
    (Request.statement text).messages executor workspace =
      let run := (executor.execute workspace.keys.next text.toList).run workspace.store
      (messagesOf Outcome.messages run.1, ⟨run.2, workspace.keysAfter executor text run.1⟩) :=
  rfl

theorem Request.messages_statement_of_draws {executor : Executor σ} {text : String}
    {workspace : Workspace σ} (h : executor.draws text.toList workspace.store = false) :
    (Request.statement text).messages executor workspace =
      let run := (executor.execute workspace.keys.next text.toList).run workspace.store
      (messagesOf Outcome.messages run.1, { workspace with store := run.2 }) := by
  rw [messages_statement]
  dsimp only
  rw [Workspace.keysAfter_of_draws h]

theorem Request.run_eq (executor : Executor σ) (request : Request) (workspace : Workspace σ) :
    request.run executor workspace =
      ((request.messages executor workspace).1.filterMap Message.delivery?,
        (request.messages executor workspace).2) :=
  rfl

theorem Request.run_catalogue (executor : Executor σ) (workspace : Workspace σ) :
    Request.catalogue.run executor workspace =
      let run := executor.catalogue.run workspace.store
      ((messagesOf (fun catalogue =>
        [.rows catalogue.rows, .status "Namespaces and sets loaded."]) run.1).filterMap
          Message.delivery?,
        { workspace with store := run.2 }) :=
  rfl

/-! ## Messages and deliveries -/

def Delivery.message : Delivery → Message
  | rows found => .rows found
  | error message => .error message
  | status message => .status message

@[simp] theorem Delivery.delivery?_message (item : Delivery) :
    item.message.delivery? = some item := by
  cases item <;> rfl

/-- There is something to tell, and no mark amid it. -/
def IsReport (messages : List Message) : Prop :=
  messages ≠ [] ∧ .finished ∉ messages

theorem IsReport.map_message {messages : List Message} (h : IsReport messages) :
    (messages.filterMap Message.delivery?).map Delivery.message = messages := by
  obtain ⟨-, hmark⟩ := h
  induction messages with
  | nil => rfl
  | cons message rest ih =>
    obtain ⟨hmessage, hrest⟩ := not_or.1 (mt List.mem_cons.2 hmark)
    cases message with
    | finished => exact absurd rfl hmessage
    | rows found => exact congrArg (Message.rows found :: ·) (ih hrest)
    | error message => exact congrArg (Message.error message :: ·) (ih hrest)
    | status message => exact congrArg (Message.status message :: ·) (ih hrest)

theorem isReport_messagesOf {messages : α → List Message} (h : ∀ a, IsReport (messages a))
    (result : Except Error α) : IsReport (messagesOf messages result) := by
  cases result with
  | ok a => exact h a
  | error e => exact ⟨List.cons_ne_nil _ _, by simp [messagesOf]⟩

theorem isReport_statusWithNotices (fallbacks : List TypeFallback) (summary : String) :
    IsReport (statusWithNotices fallbacks summary) := by
  refine ⟨List.append_ne_nil_of_right_ne_nil _ (List.cons_ne_nil _ _), ?_⟩
  simp [statusWithNotices]

theorem Outcome.isReport_messages (outcome : Outcome) : IsReport outcome.messages := by
  cases outcome with
  | rows found => exact ⟨List.cons_ne_nil _ _, by simp [messages]⟩
  | inserted key generated => exact ⟨List.cons_ne_nil _ _, by simp [messages]⟩
  | deleted report =>
    exact ⟨List.append_ne_nil_of_right_ne_nil _ (List.cons_ne_nil _ _), by simp [messages]⟩
  | updated report => exact isReport_statusWithNotices _ _

/-- **Every request tells of its result**, whether it succeeds or not, and sends no mark of its own. -/
theorem Request.isReport_messages (executor : Executor σ) (request : Request)
    (workspace : Workspace σ) : IsReport (request.messages executor workspace).1 := by
  cases request with
  | statement text => exact isReport_messagesOf Outcome.isReport_messages _
  | browse space set =>
    exact isReport_messagesOf (fun _ => ⟨List.cons_ne_nil _ _, by simp⟩) _
  | deleteRecord key =>
    exact isReport_messagesOf (fun _ => ⟨List.cons_ne_nil _ _, by simp⟩) _
  | editBin key bin raw => exact isReport_messagesOf (fun _ => isReport_statusWithNotices _ _) _
  | truncate target =>
    exact isReport_messagesOf (fun _ => ⟨List.cons_ne_nil _ _, by simp⟩) _
  | catalogue =>
    exact isReport_messagesOf (fun _ => ⟨List.cons_ne_nil _ _, by simp⟩) _

theorem Request.map_message_run (executor : Executor σ) (request : Request)
    (workspace : Workspace σ) :
    (request.run executor workspace).1.map Delivery.message =
      (request.messages executor workspace).1 :=
  (request.isReport_messages executor workspace).map_message

theorem Request.run_ne_nil (executor : Executor σ) (request : Request) (workspace : Workspace σ) :
    (request.run executor workspace).1 ≠ [] := by
  intro hnil
  have hmessages := request.map_message_run executor workspace
  rw [hnil] at hmessages
  exact (request.isReport_messages executor workspace).1 hmessages.symm

/-! ## One after the other -/

/-- The deliveries of each of some requests that run one after the other, and the workspace after
them. -/
def Request.runAll (executor : Executor σ) :
    List Request → Workspace σ → List (List Delivery) × Workspace σ
  | [], workspace => ([], workspace)
  | request :: rest, workspace =>
    let (items, workspace) := request.run executor workspace
    let (lists, workspace) := runAll executor rest workspace
    (items :: lists, workspace)

theorem Request.runAll_concat (executor : Executor σ) (requests : List Request) (request : Request)
    (workspace : Workspace σ) :
    runAll executor (requests ++ [request]) workspace =
      let before := runAll executor requests workspace
      let last := request.run executor before.2
      (before.1 ++ [last.1], last.2) := by
  induction requests generalizing workspace with
  | nil => rfl
  | cons first rest ih =>
    rw [List.cons_append, runAll, runAll]
    dsimp only
    rw [ih]
    rfl

theorem Request.length_runAll (executor : Executor σ) (requests : List Request)
    (workspace : Workspace σ) : (runAll executor requests workspace).1.length = requests.length := by
  induction requests generalizing workspace with
  | nil => rfl
  | cons first rest ih => exact congrArg Nat.succ (ih _)

theorem Request.ne_nil_of_mem_runAll (executor : Executor σ) (requests : List Request)
    (workspace : Workspace σ) : ∀ items ∈ (runAll executor requests workspace).1, items ≠ [] := by
  induction requests generalizing workspace with
  | nil => exact List.forall_mem_nil _
  | cons first rest ih => exact List.forall_mem_cons.2 ⟨run_ne_nil executor first workspace, ih _⟩

end RecordQuery
