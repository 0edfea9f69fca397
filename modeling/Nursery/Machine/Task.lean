import Nursery.Machine.Agenda

/-!
# Tasks from outside

A task is made for a node of the tree and queued at once.  Its outcome is kept until somebody
takes it, which can happen once.  A look that comes too early registers the task that looked, so
that it will be woken.

* `Context` : who runs a line, and where.
* `State.launch` : a task is made for a node and queued.
* `State.takeOutcome`, `State.pollHandle` : the outcome is taken, or looked for.
-/

namespace Nursery

/-- What a look finds. -/
inductive Polled (α : Type) where
  /-- It is there. -/
  | ready (value : α)
  /-- It is not there yet. -/
  | pending
  /-- It was taken before. -/
  | panics (message : String)

/-- Who runs a line, and on which runtime.  No field of the state says so: the thread of a worker
runs the lines of the slice that it is in, and the main thread those between the slices, so the
context of a line is that of the slice and there is nothing to be set or put back. -/
structure Context where
  /-- Who runs the line. -/
  who : Speaker
  /-- The runtime of the thread, if it belongs to one. -/
  home : Option RuntimeId := none

namespace Context

/-- The task whose body runs the line. -/
def task (c : Context) : Option TaskId :=
  match c.who with
  | .task t => some t
  | _ => none

/-- The actor whose handler runs the line. -/
def actor (c : Context) : Option ActorId :=
  match c.who with
  | .actor a => some a
  | _ => none

end Context

namespace State

/-- A task with a body is made for a node and put into the queue of a runtime. -/
def launch (s : State) (n : TaskId) (home : RuntimeId) (body : List Line) (blocking : Bool) :
    State :=
  let task : Task := { fiber := some { code := body }, home := home, blocking := blocking }
  let s := { s.setPhase n .ready with tasks := s.tasks.set n task }
  (s.log (.spawned n (s.priority n))).enqueue home (s.priority n) (.task n)

/-- The outcome of a task that ended is taken, if it is still there. -/
def takeOutcome (s : State) (t : TaskId) : State × Option (Except TaskError Int64) :=
  (s.modifyTask t fun m => { m with outcome := none }, (s.tasks.get? t).bind Task.outcome)

/-- A task looks at the handle of another one.  The look is one step, so the other one does not end
between the question and the registration, and there is no need to ask again after that. -/
def pollHandle (s : State) (t poller : TaskId) : State × Polled (Except TaskError Int64) :=
  if (s.phase t).isTerminal then
    match s.takeOutcome t with
    | (s, some outcome) => (s, .ready outcome)
    | (s, none) => (s, .panics "task handle polled after completion")
  else
    (s.modifyTask t fun m => { m with waiters := m.waiters ++ [.task poller] }, .pending)

end State

end Nursery
