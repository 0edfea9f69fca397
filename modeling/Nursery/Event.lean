import Nursery.Failure
import Nursery.Settings
import Nursery.Script

/-!
# Events

What happens while a script runs is recorded as a list of events: lines tell their results, and
the runtime logs what it does at five levels.  A log entry is kept as what it is about; its level,
its wording and its fields are derived.

* `Phase` : where a task is in its life.
* `Report` : the result of a line or a command.
* `LogEntry` : what the runtime logs, with `level`, `message` and `fields`.
* `Event` : a told result or a log entry, and `Event.shownAt`, whether a threshold lets it pass.
-/

namespace Nursery

/-- Whether a node of the tree stands for a task or for a group. -/
inductive NodeKind where
  /-- A task. -/
  | task
  /-- A group of tasks. -/
  | group
deriving DecidableEq, Repr

/-- The name of a kind of node. -/
def NodeKind.name : NodeKind → String
  | task => "Task"
  | group => "Group"

/-- Where a task is in its life. -/
inductive Phase where
  /-- It waits to be woken. -/
  | suspended
  /-- It is in the run queue. -/
  | ready
  /-- A worker is running a slice of it. -/
  | running
  /-- It was woken while a worker runs a slice of it. -/
  | notified
  /-- It ended with a value. -/
  | completed
  /-- It ended because it noticed its cancellation. -/
  | cancelled
  /-- It ended with an error or a panic. -/
  | failed
deriving DecidableEq, Repr

namespace Phase

/-- The task has ended. -/
def isTerminal : Phase → Bool
  | completed | cancelled | failed => true
  | _ => false

/-- The name of a phase; a task that was woken in its slice still counts as running. -/
def name : Phase → String
  | suspended => "Suspended"
  | ready => "Ready"
  | running | notified => "Running"
  | completed => "Completed"
  | cancelled => "Cancelled"
  | failed => "Failed"

end Phase

/-- Who runs a line. -/
inductive Speaker where
  /-- The main thread. -/
  | main
  /-- The body of a task. -/
  | task (t : TaskId)
  /-- A handler of an actor. -/
  | actor (a : ActorId)
deriving DecidableEq, Repr

/-- The name of whoever runs a line. -/
def Speaker.text : Speaker → String
  | main => "main"
  | task t => t.text
  | actor a => a.text

/-- The result of a line or of a command. -/
inductive Report where
  /-- Nothing to report. -/
  | nothing
  /-- A truth value. -/
  | flag (value : Bool)
  /-- A number. -/
  | number (value : Int)
  /-- A text. -/
  | text (value : String)
  /-- Data passed on. -/
  | datum (value : Datum)
  /-- The state of an actor. -/
  | numbers (values : List Int64)
  /-- The value of a task, of a call or of a child. -/
  | value (value : Int64)
  /-- The values of the children of a group. -/
  | values (values : List Int64)
  /-- A task ended without a value. -/
  | taskError (e : TaskError)
  /-- A child of a group failed. -/
  | groupError (e : GroupError)
  /-- A message was not answered with a value. -/
  | actorError (e : ActorError)
  /-- The size of a group, and whether it is empty. -/
  | size (count : Nat) (empty : Bool)
  /-- The turns taken, and whether cancellation ended them. -/
  | turns (count : Nat) (cancelled : Bool)
  /-- The written form of an actor and its name. -/
  | identity (description : String) (name : String)
  /-- A panic on the main thread. -/
  | panic (message : String)
  /-- A runtime could not be built. -/
  | buildError (e : BuildError)

/-- The levels of the log. -/
inductive Level where
  /-- Something is wrong. -/
  | error
  /-- Something is odd. -/
  | warn
  /-- What one wants to know when looking for a mistake. -/
  | debug
  /-- Everything. -/
  | trace
deriving DecidableEq, Repr

namespace Level

/-- How much detail a level stands for. -/
def detail : Level → Nat
  | error => 1
  | warn => 2
  | debug => 3
  | trace => 4

/-- The name of a level. -/
def name : Level → String
  | error => "error"
  | warn => "warn"
  | debug => "debug"
  | trace => "trace"

end Level

/-- What the runtime logs. -/
inductive LogEntry where
  /-- The flag of a node was set. -/
  | cancelled (node : TaskId) (kind : NodeKind)
  /-- A task was spawned. -/
  | spawned (task : TaskId) (priority : Priority)
  /-- The body of a task failed. -/
  | bodyFailed (task : TaskId) (error : TaskError)
  /-- A task ended. -/
  | finished (task : TaskId) (phase : Phase)
  /-- A task failed and nobody is left to learn of it. -/
  | unobserved (task : TaskId) (error : TaskError)
  /-- A node left its parent. -/
  | reaped (parent : TaskId) (child : TaskId)
  /-- A child failed after the failure of the group was known. -/
  | suppressed (group : TaskId) (child : TaskId) (error : TaskError)
  /-- The first child of a group failed. -/
  | childFailed (group : TaskId) (child : TaskId)
  /-- A group was dropped with children outstanding. -/
  | groupDropped (group : TaskId) (outstanding : Nat)
  /-- An actor was made. -/
  | actorCreated (actor : ActorId) (priority : Priority)
  /-- An actor called itself. -/
  | reentrantCall (actor : ActorId)
  /-- A handler panicked and its caller learns of it. -/
  | handlerPanicked (actor : ActorId) (message : String)
  /-- A handler panicked and nobody waits for its reply. -/
  | unheardPanic (actor : ActorId) (message : String)
  /-- A slice of an actor is over. -/
  | drained (actor : ActorId) (handled : Nat)
  /-- The messages of an actor were dropped. -/
  | abandoned (actor : ActorId) (dropped : Nat)
  /-- A run queue was closed. -/
  | shutDown (discarded : Nat)
deriving DecidableEq, Repr

namespace LogEntry

/-- The level of a log entry. -/
def level : LogEntry → Level
  | unobserved .. | groupDropped .. | unheardPanic .. => .error
  | suppressed .. | reentrantCall .. => .warn
  | cancelled .. | bodyFailed .. | childFailed .. | handlerPanicked .. | abandoned ..
  | shutDown .. => .debug
  | spawned .. | finished .. | reaped .. | actorCreated .. | drained .. => .trace

/-- The wording of a log entry. -/
def message : LogEntry → String
  | cancelled .. => "cancelled"
  | spawned .. => "spawned"
  | bodyFailed .. => "task body failed, cancelling its subtree"
  | finished .. => "task finished"
  | unobserved .. => "task failed and nobody awaited it"
  | reaped .. => "reaped"
  | suppressed .. => "suppressed failure of task group child"
  | childFailed .. => "task group child failed, cancelling siblings"
  | groupDropped .. => "task group dropped without being awaited"
  | actorCreated .. => "actor created"
  | reentrantCall .. => "reentrant actor call rejected"
  | handlerPanicked .. => "actor handler panicked"
  | unheardPanic .. => "actor handler panicked with nobody awaiting it"
  | drained .. => "actor drained"
  | abandoned .. => "actor mailbox abandoned"
  | shutDown .. => "scheduler shut down"

/-- The named fields of a log entry. -/
def fieldList : LogEntry → List (String × String)
  | cancelled node kind => [("node", node.text), ("kind", kind.name)]
  | spawned task priority => [("task", task.text), ("priority", priority.name)]
  | bodyFailed task error => [("task", task.text), ("error", error.message)]
  | finished task phase => [("task", task.text), ("state", phase.name)]
  | unobserved task error => [("task", task.text), ("error", error.message)]
  | reaped parent child => [("parent", parent.text), ("child", child.text)]
  | suppressed group child error =>
    [("group", group.text), ("task", child.text), ("error", error.message)]
  | childFailed group child => [("group", group.text), ("task", child.text)]
  | groupDropped group outstanding =>
    [("group", group.text), ("outstanding", toString outstanding)]
  | actorCreated actor priority => [("actor", actor.text), ("priority", priority.name)]
  | reentrantCall actor => [("actor", actor.text)]
  | handlerPanicked actor message => [("actor", actor.text), ("message", message)]
  | unheardPanic actor message => [("actor", actor.text), ("message", message)]
  | drained actor handled => [("actor", actor.text), ("handled", toString handled)]
  | abandoned actor dropped => [("actor", actor.text), ("dropped", toString dropped)]
  | shutDown discarded => [("discarded", toString discarded)]

/-- The fields of a log entry in one line. -/
def fields (e : LogEntry) : String :=
  " ".intercalate (e.fieldList.map fun f => f.1 ++ "=" ++ f.2)

end LogEntry

/-- Something that happened while a script ran. -/
inductive Event where
  /-- A line told its result. -/
  | told (who : Speaker) (label : String) (report : Report)
  /-- The runtime logged something. -/
  | logged (entry : LogEntry)

/-- A threshold lets the event pass: told results always, log entries up to its detail. -/
def Event.shownAt (threshold : Option Level) : Event → Bool
  | told .. => true
  | logged entry =>
    match threshold with
    | some level => entry.level.detail ≤ level.detail
    | none => false

end Nursery
