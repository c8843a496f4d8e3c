import RecordQuery.KeySupply

/-!
# Requests and deliveries

A request is a piece of work for an engine, and a delivery is a piece of its result.

* `Request.queue`: which of the two queues a request belongs to.
* `Request.messages`: runs a request to its end and yields what is sent for it.
* `Request.run`: the same with the deliveries among the messages.
-/

namespace RecordQuery

/-- The queues of an engine: one for reading and sweeping, one for single writes. -/
inductive QueueKind where
  | query
  | write
deriving DecidableEq, Repr

def QueueKind.name : QueueKind → String
  | .query => "Query"
  | .write => "Write"

def QueueKind.ofCommand : Command → QueueKind
  | .select | .delete => .query
  | .insert | .update => .write

/-- A piece of work for an engine. -/
inductive Request where
  | statement (text : String)
  | browse (space : String) (set : Option String)
  | deleteRecord (key : RecordKey)
  | editBin (key : RecordKey) (bin raw : String)
  | truncate (target : SetName)
  | catalogue
deriving DecidableEq, Repr

/-- The queue of a request. What is not a statement of any command is refused on the queue for
reading. -/
def Request.queue : Request → QueueKind
  | .statement text =>
    match Command.classify text.toList with
    | .ok command => .ofCommand command
    | .error _ => .query
  | .browse _ _ => .query
  | .deleteRecord _ | .editBin _ _ _ | .truncate _ | .catalogue => .write

/-- What an engine sends to its user: a piece of the result of a request, or the mark after the last
piece. -/
inductive Message where
  | rows (rows : List Row)
  | error (message : String)
  | status (message : String)
  | finished

/-- A piece of the result of a request. -/
inductive Delivery where
  | rows (rows : List Row)
  | error (message : String)
  | status (message : String)

def Delivery.isError : Delivery → Bool
  | error _ => true
  | _ => false

def Message.delivery? : Message → Option Delivery
  | rows found => some (.rows found)
  | error message => some (.error message)
  | status message => some (.status message)
  | finished => none

/-! ## Results as messages -/

def statusWithNotices (fallbacks : List TypeFallback) (summary : String) : List Message :=
  fallbacks.map (fun fallback => Message.status fallback.message) ++ [.status summary]

def Outcome.messages : Outcome → List Message
  | .rows found => [.rows found]
  | .inserted key _ => [.status ("Record inserted: " ++ key.display)]
  | .deleted report => report.failureMessages.map .error ++ [.status report.summary]
  | .updated report => statusWithNotices report.fallbacks report.summary

/-- The rows of a catalogue: one for each set, and one for each namespace without sets. -/
def Catalogue.rows (catalogue : Catalogue) : List Row :=
  catalogue.entries.flatMap fun (space, sets) =>
    if sets.isEmpty then [.ofList [("Namespace", .str space)]]
    else sets.map fun set => .ofList [("Namespace", .str space), ("Set", .str set)]

/-- The messages of an action: those of its value, or its error. -/
def messagesOf {α : Type} (messages : α → List Message) : Except Error α → List Message
  | .ok a => messages a
  | .error e => [.error e.message]

/-- The messages of a deleted record, or of one that was not there. -/
def deletedMessages (key : RecordKey) (existed : Bool) : List Message :=
  [.status ("Record with key '" ++ key.user ++ (if existed then "' deleted." else "' not found."))]

/-! ## Running -/

/-- What requests work on: a store, and the keys for new records. -/
structure Workspace (σ : Type) where
  store : σ
  keys : KeySupply := {}

namespace Workspace

variable {σ α : Type}

def act (workspace : Workspace σ) (action : StoreM σ α) : Except Error α × Workspace σ :=
  let (result, store) := action.run workspace.store
  (result, { workspace with store })

/-- Runs a statement in a workspace, from which it draws the key for a new record. -/
def execute (executor : Executor σ) (text : String) (workspace : Workspace σ) :
    Except Error Outcome × Workspace σ :=
  let (result, after) := workspace.act (executor.execute workspace.keys.next text.toList)
  let keys :=
    if executor.draws text.toList workspace.store then workspace.keys.after result.isOk
    else workspace.keys
  (result, { after with keys })

end Workspace

namespace Request

variable {σ : Type}

/-- Runs a request to its end and yields what is sent for it. -/
def messages (executor : Executor σ) (request : Request) (workspace : Workspace σ) :
    List Message × Workspace σ :=
  match request with
  | .statement text =>
    let (result, workspace) := workspace.execute executor text
    (messagesOf Outcome.messages result, workspace)
  | .browse space set =>
    let (result, workspace) := workspace.act (executor.browse space set)
    (messagesOf (fun rows => [.rows rows, .status "Scan completed."]) result, workspace)
  | .deleteRecord key =>
    let (result, workspace) := workspace.act (executor.deleteRecord key)
    (messagesOf (deletedMessages key) result, workspace)
  | .editBin key bin raw =>
    let (result, workspace) := workspace.act (executor.editBin key bin raw)
    (messagesOf (fun edit => statusWithNotices edit.fallback.toList edit.summary) result, workspace)
  | .truncate target =>
    let (result, workspace) := workspace.act (executor.truncate target)
    (messagesOf (fun _ => [.status ("Set deleted: " ++ target.display)]) result, workspace)
  | .catalogue =>
    let (result, workspace) := workspace.act executor.catalogue
    (messagesOf (fun catalogue =>
      [.rows catalogue.rows, .status "Namespaces and sets loaded."]) result, workspace)

/-- Runs a request to its end and yields its deliveries. -/
def run (executor : Executor σ) (request : Request) (workspace : Workspace σ) :
    List Delivery × Workspace σ :=
  let (messages, workspace) := request.messages executor workspace
  (messages.filterMap Message.delivery?, workspace)

end Request

end RecordQuery
