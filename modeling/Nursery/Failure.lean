import Nursery.Text.Quoted
import Nursery.Name

/-!
# Why work produces no value

Each kind of failure lists its causes and gives the wording of each in one place.  A foreign
error is known only by what it says and by what the chain of its own causes says, so that is all
a `Fault` keeps.

* `TaskError` : why a task produced no value.
* `GroupError` : the first failure among the children of a group.
* `ActorError` : why a message to an actor was not answered with a value.
* `message`, `sources` : what an error says, and what each error behind it says in turn.
* `describe` : the written form of an error inside a description.
-/

namespace Nursery

/-- An arbitrary error, known by what it says and by what the errors behind it say. -/
structure Fault where
  /-- What the error itself says. -/
  message : String
  /-- What its cause says, then the cause of that, and so on. -/
  causes : List String := []
deriving DecidableEq, Repr

/-- Why a task produced no value. -/
inductive TaskError where
  /-- The task noticed that it was cancelled and stopped. -/
  | cancelled
  /-- The body of the task ended with an error. -/
  | failed (source : Fault)
  /-- The body of the task panicked. -/
  | panicked (message : String)
deriving DecidableEq, Repr

namespace TaskError

/-- The wording of a task's error. -/
def message : TaskError → String
  | cancelled => "task was cancelled"
  | failed source => "task failed: " ++ source.message
  | panicked message => "task panicked: " ++ message

/-- What the errors behind a task's error say, the nearest first. -/
def sources : TaskError → List String
  | failed source => source.message :: source.causes
  | _ => []

/-- The task stopped because it was cancelled; every other cause is a failure. -/
def isCancelled : TaskError → Bool
  | cancelled => true
  | _ => false

/-- A task's error seen as an arbitrary error. -/
def toFault (e : TaskError) : Fault :=
  ⟨e.message, e.sources⟩

/-- The written form of a task's error, where its cause has one. -/
def describe : TaskError → String
  | cancelled => "Cancelled"
  | failed source => "Failed(" ++ source.message ++ ")"
  | panicked message => "Panicked(" ++ Text.quoted message ++ ")"

end TaskError

/-- What a task that asks learns when it, or a task above it, was cancelled. -/
def cancellationMessage : String := TaskError.cancelled.message

/-- The first failure among the children of a group. -/
structure GroupError where
  /-- The child that failed first. -/
  child : TaskId
  /-- What it failed with. -/
  source : TaskError
deriving DecidableEq, Repr

namespace GroupError

/-- The wording of a group's error. -/
def message (e : GroupError) : String :=
  "child " ++ e.child.text ++ " of task group failed"

/-- What the errors behind a group's error say, the nearest first. -/
def sources (e : GroupError) : List String :=
  e.source.message :: e.source.sources

/-- A group's error seen as an arbitrary error. -/
def toFault (e : GroupError) : Fault :=
  ⟨e.message, e.sources⟩

end GroupError

/-- Why a message to an actor was not answered with a value. -/
inductive ActorError where
  /-- The handler panicked. -/
  | handlerPanicked (message : String)
  /-- The actor called itself from one of its own handlers. -/
  | reentrant
  /-- The caller's thread belongs to no runtime. -/
  | noRuntime
  /-- The message was dropped before it was handled. -/
  | dropped
deriving DecidableEq, Repr

namespace ActorError

/-- The wording of an actor's error. -/
def message : ActorError → String
  | handlerPanicked message => "actor handler panicked: " ++ message
  | reentrant => "actor called itself from inside one of its own handlers"
  | noRuntime => "actor call issued outside of a runtime"
  | dropped => "actor message dropped before it was handled"

/-- An actor's error seen as an arbitrary error; nothing stands behind it. -/
def toFault (e : ActorError) : Fault :=
  ⟨e.message, []⟩

/-- The written form of an actor's error. -/
def describe : ActorError → String
  | handlerPanicked message => "HandlerPanicked(" ++ Text.quoted message ++ ")"
  | reentrant => "Reentrant"
  | noRuntime => "NoRuntime"
  | dropped => "Dropped"

end ActorError

end Nursery
