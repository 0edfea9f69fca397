import Nursery.Machine.State

/-!
# Failures that only the log keeps

Two kinds of failures are not returned to anybody: that of a child that comes after the one which
its group reports, and that of a task whose handle was dropped before anybody looked.  The log
keeps both.

* `Loss`, `Event.loss?`, `losses` : which failures a record says so of.
* `Event.outcry?`, `outcries` : which groups it says were dropped with children outstanding.
* `losses_push`, `outcries_push` : a record grows by one event at a time.
* `State.unseen` : the failure of a task that is still to be logged.
-/

namespace Nursery

/-- A failure that is only logged. -/
inductive Loss where
  /-- A child of a group failed after the one that the group reports. -/
  | suppressed (group child : TaskId) (error : TaskError)
  /-- A task failed, and its handle is gone. -/
  | unobserved (task : TaskId) (error : TaskError)
deriving DecidableEq

/-- The failure that an event says nobody is told of. -/
def Event.loss? : Event → Option Loss
  | .logged (.suppressed g t e) => some (.suppressed g t e)
  | .logged (.unobserved t e) => some (.unobserved t e)
  | _ => none

/-- The failures that only a record keeps, the oldest first. -/
def losses (trace : Array Event) : List Loss :=
  trace.toList.filterMap Event.loss?

theorem losses_push (trace : Array Event) (e : Event) :
    losses (trace.push e) = losses trace ++ e.loss?.toList := by
  cases h : e.loss? <;> simp [losses, h]

theorem losses_push_of_none (trace : Array Event) {e : Event} (other : e.loss? = none) :
    losses (trace.push e) = losses trace := by
  rw [losses_push, other, Option.toList_none, List.append_nil]

/-- The group that an event says was dropped with children outstanding. -/
def Event.outcry? : Event → Option TaskId
  | .logged (.groupDropped g _) => some g
  | _ => none

/-- The groups that a record says were dropped with children outstanding, the oldest first. -/
def outcries (trace : Array Event) : List TaskId :=
  trace.toList.filterMap Event.outcry?

theorem outcries_push (trace : Array Event) (e : Event) :
    outcries (trace.push e) = outcries trace ++ e.outcry?.toList := by
  cases h : e.outcry? <;> simp [outcries, h]

theorem outcries_push_of_none (trace : Array Event) {e : Event} (other : e.outcry? = none) :
    outcries (trace.push e) = outcries trace := by
  rw [outcries_push, other, Option.toList_none, List.append_nil]

/-- An event says neither that a failure is lost nor that a group was dropped. -/
def Event.Fair (e : Event) : Prop :=
  e.loss? = none ∧ e.outcry? = none

/-- The failure of a task that nobody has looked at and that was not logged. -/
def Task.unseen (t : TaskId) (task : Task) : List Loss :=
  match task.reported, task.outcome with
  | false, some (.error e) => if e.isCancelled then [] else [.unobserved t e]
  | _, _ => []

/-- The failure of a task that is still to be logged, if its handle is gone. -/
def State.unseen (s : State) (t : TaskId) : List Loss :=
  (s.tasks.get? t).toList.flatMap (Task.unseen t)

end Nursery
