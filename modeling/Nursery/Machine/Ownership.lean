import Nursery.Machine.State

/-!
# Who keeps what alive

A task lives as long as somebody refers to it: its handle, a run queue, the worker that runs it,
an item of the agenda, or a waker that is registered where somebody can still get at it.  These
references are read off the state, so there are no counts that could be wrong.  Two tasks that
refer to each other keep each other alive for ever.

A node lives as long as its task or group does, or the signal of its group, or as long as a living
parent lists it.  Nothing else depends on the life of a node but whether its children still see
it.

* `State.held` : somebody refers to a task.
* `State.signalAlive` : the owner or a child of a group can still get at its signal.
* `State.alive` : a node is alive.
* `State.isCancelled` : a node or one of its living ancestors is flagged.
-/

namespace Nursery

/-- The waker tells a given group. -/
def Waker.tells (g : TaskId) : Waker → Bool
  | .member group _ _ => group = g
  | .task _ => false

/-- The item of the agenda refers to a task. -/
def Action.refersTo (t : TaskId) : Action → Bool
  | .wake (.task u) | .forget u | .discard (.task u) => u = t
  | _ => false

/-- The item of the agenda refers to the signal of a group. -/
def Action.tells (g : TaskId) : Action → Bool
  | .wake w => w.tells g
  | .forgetSignal h => h = g
  | _ => false

/-- The slice is one of a given task. -/
def Slice.runs (t : TaskId) : Slice → Bool
  | .task u _ => u = t
  | .drain .. => false

namespace State

/-- The owner or a child of a group can still get at its signal. -/
def signalAlive (s : State) (g : TaskId) : Bool :=
  s.groups.contains g
    || s.tasks.any (fun _ task => task.waiters.any (Waker.tells g))
    || s.agenda.any (Action.tells g)

/-- A waker of the task is registered where somebody can still get at it. -/
def registered (s : State) (t : TaskId) : Bool :=
  s.tasks.any (fun _ task => task.waiters.any (· = .task t))
    || s.signals.any (fun g signal => signal.waker = some t && s.signalAlive g)
    || s.calls.any (fun _ call => call.waker = some t && call.reachable)
    || s.parked.any (fun _ u => u = t)
    || (s.nodes.get? t).any Node.joining

/-- Somebody refers to the task. -/
def held (s : State) (t : TaskId) : Bool :=
  (s.tasks.get? t).any (fun task => !task.handleDropped)
    || s.runtimes.any (fun _ rt =>
        rt.queue.any (· = .task t) || rt.slice.any (Slice.runs t))
    || s.agenda.any (Action.refersTo t)
    || s.registered t

/-- A node is alive for its own sake: its task, its group or the signal of its group is. -/
def rooted (s : State) (n : TaskId) : Bool :=
  s.tasks.contains n || s.groups.contains n || s.signalAlive n

/-- A node is alive: for its own sake, or because a living parent lists it.  The walk goes up and
is over after as many steps as the node has predecessors. -/
def aliveWithin (s : State) : Nat → TaskId → Bool
  | 0, n => s.rooted n
  | steps + 1, n =>
    s.rooted n ||
      match (s.nodes.get? n).bind Node.parent with
      | some p => (s.children p).contains n && s.aliveWithin steps p
      | none => false

/-- A node is alive. -/
def alive (s : State) (n : TaskId) : Bool :=
  s.aliveWithin n.index n

/-- The parent of a node, while it is alive. -/
def livingParent (s : State) (n : TaskId) : Option TaskId :=
  ((s.nodes.get? n).bind Node.parent).filter s.alive

/-- A node or one of the living nodes above it is flagged. -/
def cancelledWithin (s : State) : Nat → TaskId → Bool
  | 0, n => s.flagged n
  | steps + 1, n =>
    s.flagged n ||
      match s.livingParent n with
      | some p => s.cancelledWithin steps p
      | none => false

/-- A node counts as cancelled if it or one of the living nodes above it is flagged. -/
def isCancelled (s : State) (n : TaskId) : Bool :=
  s.cancelledWithin n.index n

end State

end Nursery
