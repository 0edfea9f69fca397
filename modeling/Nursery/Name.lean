/-!
# The names of tasks, actors, calls and runtimes

Tasks and task groups are numbered together, in the order in which they are made; actors, calls
and runtimes each have a numbering of their own.  Readers see the numbers from one.

* `TaskId.text`, `ActorId.text` : the name a reader sees.
* `TaskId.describe`, `ActorId.describe` : the name inside a description.
-/

namespace Nursery

/-- The name of a task or of a task group. -/
structure TaskId where
  /-- How many tasks and groups were made before. -/
  index : Nat
deriving DecidableEq, Repr, Inhabited

namespace TaskId

/-- The name a reader sees. -/
def text (t : TaskId) : String :=
  "task-" ++ toString (t.index + 1)

/-- The name inside a description. -/
def describe (t : TaskId) : String :=
  "TaskId(" ++ toString (t.index + 1) ++ ")"

end TaskId

/-- The name of an actor. -/
structure ActorId where
  /-- How many actors were made before. -/
  index : Nat
deriving DecidableEq, Repr, Inhabited

namespace ActorId

/-- The name a reader sees. -/
def text (a : ActorId) : String :=
  "actor-" ++ toString (a.index + 1)

/-- The name inside a description. -/
def describe (a : ActorId) : String :=
  "ActorId(" ++ toString (a.index + 1) ++ ")"

end ActorId

/-- The name of a call to an actor. -/
structure CallId where
  /-- How many calls were made before. -/
  index : Nat
deriving DecidableEq, Repr, Inhabited

/-- The name of a runtime; a runtime that was dropped keeps it. -/
structure RuntimeId where
  /-- How many runtimes were made before. -/
  index : Nat
deriving DecidableEq, Repr, Inhabited

end Nursery
