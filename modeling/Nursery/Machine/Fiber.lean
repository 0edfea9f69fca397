import Nursery.Event
import Nursery.Store

/-!
# Frames and suspended bodies

What a body or a handler makes it owns under a name: the handles of tasks, groups and calls.  A
body that waits is kept as the lines that remain, its frame, and what it waits for.  When a body
goes before its end, what it waits for goes first if that was taken out of the frame, and then the
frame goes in the order of its making.

* `Resource`, `Frame` : what can be owned, and by what name.
* `Wait` : what a body is suspended at.
* `Fiber` : the rest of a body, and `Fiber.resources`, everything it owns.
-/

namespace Nursery

/-- Something that a body or a handler owns under a name. -/
inductive Resource where
  /-- The handle of a task. -/
  | handle (t : TaskId)
  /-- A group of tasks. -/
  | group (g : TaskId)
  /-- A call to an actor. -/
  | call (c : CallId)
deriving DecidableEq, Repr

/-- The resources of a body, of a handler or of the main thread, in the order of their making. -/
abbrev Frame := List (String × Resource)

namespace Frame

/-- The resource under a name. -/
def find? (f : Frame) (name : String) : Option Resource :=
  Store.lookup name f

/-- The frame without a name. -/
def without (f : Frame) (name : String) : Frame :=
  Store.remove name f

/-- The frame with a resource under a name at its end; what was under that name is gone. -/
def bind (f : Frame) (name : String) (r : Resource) : Frame :=
  f.without name ++ [(name, r)]

/-- The resources of a frame, in the order of their making. -/
def resources (f : Frame) : List Resource :=
  f.map Prod.snd

end Frame

/-- What a suspended body waits for. -/
inductive Wait where
  /-- The next slice, and some more of them. -/
  | yielding (left : Nat)
  /-- The next slice, unless cancelled or out of turns. -/
  | spinning (turns : Nat) (limit : Nat)
  /-- Any wake. -/
  | parked
  /-- A handle or a call, either taken out of the frame or left in it. -/
  | awaiting (r : Resource) (taken : Bool)
  /-- The first of several handles, which were taken out of the frame. -/
  | selecting (handles : List (String × TaskId))
  /-- The next child of a group. -/
  | next (g : TaskId)
  /-- All children of a group, which may belong to this wait alone; with the values collected so
  far and the failure reported so far. -/
  | all (g : TaskId) (own : Bool) (values : List Int64) (failure : Option GroupError)
  /-- Nothing: the group that the line made is being filled. -/
  | filling (g : TaskId) (plan : List PlanItem)

/-- A body suspended in the middle of a line. -/
structure Waiting where
  /-- The tag of the line. -/
  tag : Tag
  /-- What happens if the result is an error. -/
  attempt : Attempt
  /-- What the line waits for. -/
  wait : Wait

/-- The resources that a wait owns besides the frame. -/
def Wait.resources : Wait → List Resource
  | .awaiting r true => [r]
  | .selecting handles => handles.map fun h => .handle h.2
  | .all g true _ _ | .filling g _ => [.group g]
  | _ => []

/-- The rest of a body. -/
structure Fiber where
  /-- The lines that remain. -/
  code : List Line
  /-- What the body owns. -/
  frame : Frame := []
  /-- The sum of all values the body waited for. -/
  sum : Int64 := 0
  /-- The body has had its first slice. -/
  begun : Bool := false
  /-- What the body is suspended at. -/
  waiting : Option Waiting := none

/-- Everything a suspended body owns, in the order in which it is dropped. -/
def Fiber.resources (f : Fiber) : List Resource :=
  (match f.waiting with
    | some w => w.wait.resources
    | none => []) ++ f.frame.resources

end Nursery
