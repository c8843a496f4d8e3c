import RecordQuery.Request
import RecordQuery.TaskQueue

/-!
# The engine

An engine queues requests and runs the requests of each queue in the order in which they came. What
is sent for a request goes to a channel, followed by a mark, and is received from there request by
request.

* `Engine.start`: an engine with usable settings.
* `Engine.submit`: queues a request.
* `Engine.work`: runs the next request of a queue. `Engine.settle` does so until none waits.
* `Engine.receive`: takes the deliveries of one request from the channel.
* `Engine.shutdown`: finishes what waits and takes no more.
-/

namespace RecordQuery

/-- The deliveries up to the first mark, and the channel after it. -/
def Message.receive : List Message → List Delivery × List Message
  | [] => ([], [])
  | message :: rest =>
    match message.delivery? with
    | none => ([], rest)
    | some item =>
      let (items, rest) := receive rest
      (item :: items, rest)

structure Engine (σ : Type) where
  executor : Executor σ
  workspace : Workspace σ
  queryQueue : TaskQueue Request
  writeQueue : TaskQueue Request
  channel : List Message := []

namespace Engine

variable {σ : Type}

def start (client : StoreClient σ) (settings : EngineSettings) (store : σ)
    (keys : KeySupply := {}) : Except Error (Engine σ) :=
  settings.validated.map fun settings =>
    { executor := { client, narrowUpdates := settings.narrowUpdates }
      workspace := { store, keys }
      queryQueue := { name := settings.queryQueue }
      writeQueue := { name := settings.writeQueue } }

def queue (engine : Engine σ) : QueueKind → TaskQueue Request
  | .query => engine.queryQueue
  | .write => engine.writeQueue

def withQueue (engine : Engine σ) (queue : TaskQueue Request) : QueueKind → Engine σ
  | .query => { engine with queryQueue := queue }
  | .write => { engine with writeQueue := queue }

/-- Queues a request and tells where. An engine that is shut down takes none. -/
def submit (engine : Engine σ) (request : Request) : Except Error QueueKind × Engine σ :=
  let kind := request.queue
  match (engine.queue kind).push request with
  | (true, queue) => (.ok kind, engine.withQueue queue kind)
  | (false, _) => (.error (.internal "engine is shut down"), engine)

/-- Runs a request and puts its messages and a mark into the channel. -/
def perform (engine : Engine σ) (request : Request) : Engine σ :=
  let (messages, workspace) := request.messages engine.executor engine.workspace
  { engine with workspace, channel := engine.channel ++ messages ++ [.finished] }

/-- Runs the next request of a queue, if one waits there. -/
def work (engine : Engine σ) (kind : QueueKind) : Engine σ :=
  match (engine.queue kind).next? with
  | none => engine
  | some (request, queue) => (engine.withQueue queue kind).perform request

/-- Lets the worker of a queue take so many turns. -/
def workTimes (engine : Engine σ) (kind : QueueKind) : Nat → Engine σ
  | 0 => engine
  | turns + 1 => (engine.work kind).workTimes kind turns

def workAll (engine : Engine σ) (kind : QueueKind) : Engine σ :=
  engine.workTimes kind (engine.queue kind).backlog

def settle (engine : Engine σ) : Engine σ :=
  (engine.workAll .query).workAll .write

/-- Takes the deliveries of one request from the channel. -/
def receive (engine : Engine σ) : List Delivery × Engine σ :=
  let (items, channel) := Message.receive engine.channel
  (items, { engine with channel })

/-- Runs all requests that wait and takes no more. -/
def shutdown (engine : Engine σ) : Engine σ :=
  let engine := engine.settle
  { engine with
    queryQueue := engine.queryQueue.close.2
    writeQueue := engine.writeQueue.close.2 }

end Engine

end RecordQuery
