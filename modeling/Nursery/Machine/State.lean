import Nursery.Machine.Fiber
import Nursery.RunQueue

/-!
# The state of the machine

Everything that lives while a script runs is a record in one of the finite maps of the state:
nodes of the task tree, tasks, groups and their signals, calls, actors and runtimes.  Nothing
refers to anything else but by name.

Dropping one thing may end the life of others, waking one task may drop another, and a destructor
may panic.  The machine therefore never recurses into such consequences: it keeps an *agenda* of
what remains to be done, does the first item, and puts the consequences in front of the rest, so
the agenda plays the part of a call stack.

There are several runtimes, each with one worker, and a worker may be held in the middle of a slice
while the main thread or another worker goes on.  An operation is one step: nobody comes in between
its look at a record and what it does to that, and between two steps a task may be woken from
outside.  Runs in which several workers of one runtime are in their slices at a time are left out,
and so are those in which two threads are inside of one operation.

* `Node`, `Task`, `Group`, `Signal`, `Call`, `Actor`, `Runtime` : the records.
* `Slice`, `Stage` : what a worker is doing, at which point of it.
* `Action` : an item of the agenda.
* `State` : all of it, with the record of the events so far.
-/

namespace Nursery

/-- What is to be done when something that was waited for is there. -/
inductive Waker where
  /-- Put a task back into its run queue. -/
  | task (t : TaskId)
  /-- Tell a group that one of its children ended. -/
  | member (group : TaskId) (index : Nat) (child : TaskId)
deriving DecidableEq, Repr

/-- A node of the task tree.  Nodes are never removed from the state; whether one is still alive
follows from what refers to it. -/
structure Node where
  /-- What the node stands for. -/
  kind : NodeKind
  /-- The band of everything that runs for the node. -/
  priority : Priority
  /-- The node it was attached to, unless it is a root. -/
  parent : Option TaskId
  /-- The node was cancelled. -/
  flagged : Bool := false
  /-- The attached children that were not reaped yet, the oldest first. -/
  children : List TaskId := []
  /-- The task of the node waits for its last child to be reaped. -/
  joining : Bool := false
  /-- The owner of the node is done with its own work. -/
  finished : Bool := false
  /-- The node has left its parent. -/
  reaped : Bool := false
  /-- Where the task of the node is in its life; a group stays suspended. -/
  phase : Phase := .suspended

/-- A task. -/
structure Task where
  /-- The rest of its body, until that ends. -/
  fiber : Option Fiber
  /-- The runtime whose queue it is put into. -/
  home : RuntimeId
  /-- The main thread is blocked on the task, and an error of its body is an ordinary result. -/
  blocking : Bool := false
  /-- How the task ended, until somebody learns of it. -/
  outcome : Option (Except TaskError Int64) := none
  /-- What the body gave to the main thread that is blocked on it. -/
  answer : Option (Except TaskError Int64) := none
  /-- Who is to be woken at its end. -/
  waiters : List Waker := []
  /-- Its handle was dropped. -/
  handleDropped : Bool := false
  /-- Whether its failure was seen has been looked into. -/
  reported : Bool := false

/-- A group of tasks, as its owner sees it. -/
structure Group where
  /-- The children, in the order in which they were added. -/
  children : List TaskId := []
  /-- How many of them were not collected yet. -/
  remaining : Nat := 0
  /-- A failure of the group was reported. -/
  failed : Bool := false
  /-- The runtime of its children. -/
  home : RuntimeId

/-- What the children of a group share with its owner. -/
structure Signal where
  /-- A child failed and cancelled the group. -/
  tripped : Bool := false
  /-- The places of the children that ended and were not collected, in the order of their end. -/
  completed : List Nat := []
  /-- The task that waits for the next one. -/
  waker : Option TaskId := none

/-- A call to an actor. -/
structure Call where
  /-- The call entered the mailbox; otherwise it was refused. -/
  accepted : Bool
  /-- What the caller can learn, until it does. -/
  outcome : Option (Except ActorError Int64) := none
  /-- The reply was given. -/
  answered : Bool := false
  /-- The task that waits for the reply. -/
  waker : Option TaskId := none
  /-- The caller dropped the call. -/
  dropped : Bool := false

/-- The caller or the message can still get at the place of the reply. -/
def Call.reachable (c : Call) : Bool :=
  !c.dropped || !c.answered

/-- A message in a mailbox. -/
structure Message where
  /-- What the actor is to do. -/
  handler : List Line
  /-- The call that waits for the reply. -/
  reply : Option CallId

/-- An actor. -/
structure Actor where
  /-- The band of its slices. -/
  priority : Priority
  /-- What only its handlers get to see. -/
  state : List Int64
  /-- The messages that wait, the oldest first. -/
  mailbox : List Message := []
  /-- A slice of the actor is queued or running. -/
  scheduled : Bool := false

/-- An entry of a run queue. -/
inductive Entry where
  /-- A task that is ready. -/
  | task (t : TaskId)
  /-- An actor with messages. -/
  | drain (a : ActorId)
  /-- A marker that the main thread put there. -/
  | marker (serial : Nat)
deriving DecidableEq, Repr

/-- How a body ended. -/
inductive Ending where
  /-- It returned a value or an error. -/
  | returned (result : Except TaskError Int64)
  /-- It panicked. -/
  | panicked (message : String)

/-- How far a slice of a task has come. -/
inductive Stage where
  /-- The body is running. -/
  | polling
  /-- The body has suspended itself. -/
  | suspending
  /-- The body has ended and its frame is being dropped. -/
  | ended (ending : Ending)
  /-- The body is over and the children are looked at. -/
  | joining
  /-- The end of the task is known to all. -/
  | leaving

/-- How far a slice of an actor has come. -/
inductive HandlerStage where
  /-- No message is being handled. -/
  | idle
  /-- A message is being handled. -/
  | handling (code : List Line) (frame : Frame) (reply : Option CallId)
  /-- The handler has ended and its frame is being dropped. -/
  | replying (reply : Option CallId) (result : Except String Int64)

/-- What a worker is doing. -/
inductive Slice where
  /-- It runs a task. -/
  | task (t : TaskId) (stage : Stage)
  /-- It runs an actor, which has handled a number of messages. -/
  | drain (a : ActorId) (handled : Nat) (stage : HandlerStage)

/-- A runtime with its worker: there is one, however many the settings ask for. -/
structure Runtime where
  /-- What it was built with. -/
  settings : Settings
  /-- The work that is ready. -/
  queue : RunQueue Entry := {}
  /-- The queue takes nothing more. -/
  closed : Bool := false
  /-- The slice in progress. -/
  slice : Option Slice := none
  /-- The worker is paused in the middle of a slice, and tells this when it goes on. -/
  paused : Option (List Event) := none

/-- What a worker is let go on for. -/
inductive Goal where
  /-- Until nothing is queued. -/
  | quiet
  /-- Until the marker has come up a number of times. -/
  | rounds (serial : Nat) (left : Nat) (band : Priority)
  /-- Until nothing is queued, without pauses, while the main thread is blocked. -/
  | blocking
  /-- Until the slice in progress is over. -/
  | closing

/-- Why a worker stopped. -/
inductive Stop where
  /-- Nothing is queued. -/
  | quiet
  /-- The marker has come up often enough. -/
  | paused
  /-- A line paused the worker in the middle of a slice. -/
  | held
deriving DecidableEq, Repr

/-- An item of the agenda. -/
inductive Action where
  /-- Flag a node and all nodes below it. -/
  | cancel (n : TaskId)
  /-- The owner of a node is done with its own work. -/
  | finish (n : TaskId)
  /-- A node leaves its parent. -/
  | detach (n : TaskId)
  /-- Use up a waker. -/
  | wake (w : Waker)
  /-- Note that a child of a group ended, and wake whoever waits for it. -/
  | announce (g : TaskId) (index : Nat)
  /-- Wake whoever waits for the end of a task. -/
  | wakeWaiters (t : TaskId)
  /-- Log the failure of a task whose handle is gone. -/
  | reportFailure (t : TaskId)
  /-- Give a call its reply. -/
  | answer (c : CallId) (outcome : Except ActorError Int64)
  /-- Tell a result or log something. -/
  | record (e : Event)
  /-- Panic, if a body is running and is not panicking already. -/
  | complain (message : String)
  /-- Drop a resource. -/
  | release (r : Resource)
  /-- Drop what a group owns. -/
  | dissolve (g : TaskId)
  /-- A reference to a task was given up; the last one takes the task with it. -/
  | forget (t : TaskId)
  /-- Drop what is left of a task whose body was dropped before its end. -/
  | bury (t : TaskId)
  /-- A reference to the signal of a group was given up; the last one takes its waker with it. -/
  | forgetSignal (g : TaskId)
  /-- Drop an entry that a run queue did not take or did not keep. -/
  | discard (e : Entry)
  /-- Drop the messages of an actor whose slice was discarded. -/
  | abandon (a : ActorId)

/-- The state of the machine. -/
structure State where
  /-- Every node ever made. -/
  nodes : Store TaskId Node := {}
  /-- The tasks that somebody still refers to. -/
  tasks : Store TaskId Task := {}
  /-- The groups that were not dropped. -/
  groups : Store TaskId Group := {}
  /-- What the groups ever made share with their children. -/
  signals : Store TaskId Signal := {}
  /-- Every call ever made. -/
  calls : Store CallId Call := {}
  /-- Every actor ever made. -/
  actors : Store ActorId Actor := {}
  /-- Every runtime ever built. -/
  runtimes : Store RuntimeId Runtime := {}
  /-- The runtimes that can be addressed, by their places. -/
  places : Store Nat RuntimeId := {}
  /-- The resources that all lines can get at. -/
  shared : Frame := []
  /-- The actors by name. -/
  actorNames : Store String ActorId := {}
  /-- The tasks that parked, by name. -/
  parked : Store String TaskId := {}
  /-- The tasks by the name under which they were spawned. -/
  taskNames : Store String TaskId := {}
  /-- How many markers were used. -/
  markers : Nat := 0
  /-- What remains to be done before anything else. -/
  agenda : List Action := []
  /-- The message of the panic that is unwinding the running body. -/
  unwinding : Option String := none
  /-- The worker that was let go on, and what for; the main thread runs otherwise. -/
  active : Option (RuntimeId × Goal) := none
  /-- Why the last worker stopped. -/
  stopped : Option Stop := none
  /-- What happened so far. -/
  trace : Array Event := #[]

namespace State

instance : Inhabited State := ⟨{}⟩

/-- The state with one more event. -/
def tell (s : State) (e : Event) : State :=
  { s with trace := s.trace.push e }

/-- The state with one more log entry. -/
def log (s : State) (e : LogEntry) : State :=
  s.tell (.logged e)

/-- The state with more to be done first. -/
def doFirst (s : State) (actions : List Action) : State :=
  { s with agenda := actions ++ s.agenda }

/-- The state with the node of a task or of a group changed. -/
def modifyNode (s : State) (n : TaskId) (f : Node → Node) : State :=
  { s with nodes := s.nodes.modify n f }

/-- The state with a task changed. -/
def modifyTask (s : State) (t : TaskId) (f : Task → Task) : State :=
  { s with tasks := s.tasks.modify t f }

/-- The state with a group changed. -/
def modifyGroup (s : State) (g : TaskId) (f : Group → Group) : State :=
  { s with groups := s.groups.modify g f }

/-- The state with the signal of a group changed. -/
def modifySignal (s : State) (g : TaskId) (f : Signal → Signal) : State :=
  { s with signals := s.signals.modify g f }

/-- The state with a call changed. -/
def modifyCall (s : State) (c : CallId) (f : Call → Call) : State :=
  { s with calls := s.calls.modify c f }

/-- The state with an actor changed. -/
def modifyActor (s : State) (a : ActorId) (f : Actor → Actor) : State :=
  { s with actors := s.actors.modify a f }

/-- The state with a runtime changed. -/
def modifyRuntime (s : State) (r : RuntimeId) (f : Runtime → Runtime) : State :=
  { s with runtimes := s.runtimes.modify r f }

/-- The phase of a task; an unknown one counts as suspended. -/
def phase (s : State) (t : TaskId) : Phase :=
  ((s.nodes.get? t).map Node.phase).getD .suspended

/-- The state with a task in another phase. -/
def setPhase (s : State) (t : TaskId) (p : Phase) : State :=
  s.modifyNode t fun n => { n with phase := p }

/-- The band of everything that runs for a node. -/
def priority (s : State) (n : TaskId) : Priority :=
  ((s.nodes.get? n).map Node.priority).getD .normal

/-- A node carries the flag itself. -/
def flagged (s : State) (n : TaskId) : Bool :=
  (s.nodes.get? n).any Node.flagged

/-- The children of a node that were not reaped yet. -/
def children (s : State) (n : TaskId) : List TaskId :=
  ((s.nodes.get? n).map Node.children).getD []

/-- The slice that a worker is in the middle of. -/
def slice (s : State) (r : RuntimeId) : Option Slice :=
  (s.runtimes.get? r).bind Runtime.slice

/-- The state with a worker doing something else. -/
def setSlice (s : State) (r : RuntimeId) (slice : Option Slice) : State :=
  s.modifyRuntime r fun rt => { rt with slice := slice }

/-- The runtime takes nothing more; an unknown one never did. -/
def closed (s : State) (r : RuntimeId) : Bool :=
  ((s.runtimes.get? r).map Runtime.closed).getD true

/-- A body is running: the worker that was let go on is inside a task's own code or is dropping
what that left behind. -/
def inBody (s : State) : Bool :=
  match s.active with
  | some (r, _) =>
    match s.slice r with
    | some (.task t .polling) | some (.task t .suspending) =>
      ((s.tasks.get? t).bind Task.fiber).isSome
    | some (.task _ (.ended _)) => true
    | _ => false
  | none => false

/-- An entry goes to the back of its band; a closed queue drops it. -/
def enqueue (s : State) (r : RuntimeId) (p : Priority) (e : Entry) : State :=
  if s.closed r then s.doFirst [.discard e]
  else s.modifyRuntime r fun rt => { rt with queue := rt.queue.push p e }

end State

end Nursery
