/-!
# Task queues

A named queue takes tasks as long as it is open, and its one worker runs them in the order in which
they came. Closing a queue lets the worker finish what is waiting.
-/

namespace RecordQuery

structure TaskQueue (α : Type) where
  name : String
  /-- The tasks that wait for the worker, the next one first. -/
  waiting : List α := []
  isOpen : Bool := true

namespace TaskQueue

variable {α : Type}

/-- The queue with one more task at its end, and whether the task was taken. -/
def push (queue : TaskQueue α) (task : α) : Bool × TaskQueue α :=
  if queue.isOpen then (true, { queue with waiting := queue.waiting ++ [task] })
  else (false, queue)

def backlog (queue : TaskQueue α) : Nat :=
  queue.waiting.length

/-- The next task and the queue without it. -/
def next? (queue : TaskQueue α) : Option (α × TaskQueue α) :=
  match queue.waiting with
  | [] => none
  | task :: rest => some (task, { queue with waiting := rest })

/-- The tasks that are still run when the queue is closed, and the closed queue. -/
def close (queue : TaskQueue α) : List α × TaskQueue α :=
  (queue.waiting, { queue with waiting := [], isOpen := false })

end TaskQueue

end RecordQuery
