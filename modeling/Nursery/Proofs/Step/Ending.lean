import Nursery.Machine.Worker

/-!
# The end of a body

When the frame of a body is gone, its task keeps how it ended.  A result of the root task goes to
the main thread that is blocked on it, and is no failure of that task.

* `Ending.outcome`, `Ending.report` : what whoever waits for a task learns, and the main thread.
* `Ending.given`, `Ending.answer` : what the task keeps for the one and for the other.
* `State.endBody_eq` : the end of a body, in one change to the task.
-/

namespace Nursery

namespace Ending

/-- What the one who waits for a task learns of its end. -/
def outcome : Ending → Except TaskError Int64
  | .returned result => result
  | .panicked message => .error (.panicked message)

/-- What the main thread learns of the end of the task that it was blocked on: a result is handed
on, and a panic goes on there. -/
def report : Ending → Report
  | .returned (.ok value) => .value value
  | .returned (.error e) => .taskError e
  | .panicked message => .panic (TaskError.panicked message).message

/-- What a task keeps of the end of its body.  The result of the root is handed to the main thread
that is blocked on it. -/
def keep (blocking : Bool) (ending : Ending) (m : Task) : Task :=
  match ending, blocking with
  | .returned result, true => { m with outcome := some (.ok 0), answer := some result }
  | _, _ => { m with outcome := some ending.outcome }

/-- The outcome that a task is given by the end of its body. -/
def given (blocking : Bool) (ending : Ending) : Except TaskError Int64 :=
  match ending, blocking with
  | .returned _, true => .ok 0
  | _, _ => ending.outcome

/-- The result that the main thread is given by the end of a body. -/
def answer (blocking : Bool) (ending : Ending) : Option (Except TaskError Int64) :=
  match ending, blocking with
  | .returned result, true => some result
  | _, _ => none

variable (blocking : Bool) (ending : Ending) (m : Task)

@[simp]
theorem fiber_keep : (ending.keep blocking m).fiber = m.fiber := by
  unfold keep
  split <;> rfl

@[simp]
theorem outcome_keep : (ending.keep blocking m).outcome = some (ending.given blocking) := by
  cases ending <;> cases blocking <;> rfl

@[simp]
theorem answer_keep : (ending.keep blocking m).answer = (ending.answer blocking).or m.answer := by
  cases ending <;> cases blocking <;> rfl

@[simp]
theorem blocking_keep : (ending.keep blocking m).blocking = m.blocking := by
  unfold keep
  split <;> rfl

end Ending

namespace State

/-- The end of a body is kept, and some tasks are to be cancelled. -/
theorem endBody_eq (s : State) (home : RuntimeId) (t : TaskId) (ending : Ending) :
    ∃ (trace : Array Event) (cancelled : List TaskId), s.endBody home t ending =
      { (s.setSlice home (some (.task t .joining))).modifyTask t
          (ending.keep ((s.tasks.get? t).any Task.blocking)) with
        unwinding := none, trace := trace }.doFirst (cancelled.map .cancel) := by
  have fails : ∀ e : TaskError, ∃ (trace : Array Event) (cancelled : List TaskId),
      (let s := modifyTask
        { s.setSlice home (some (.task t .joining)) with unwinding := none } t
          fun m => { m with outcome := some (.error e) }
      if e.isCancelled then s
      else (s.log (.bodyFailed t e)).doFirst ((s.children t).map .cancel)) =
      { (s.setSlice home (some (.task t .joining))).modifyTask t
          (fun m => { m with outcome := some (.error e) }) with
        unwinding := none, trace := trace }.doFirst (cancelled.map .cancel) := by
    intro e
    dsimp only
    split
    · exact ⟨s.trace, [], rfl⟩
    · exact ⟨_, _, rfl⟩
  unfold endBody
  dsimp only
  cases ending with
  | panicked message => exact fails (.panicked message)
  | returned result =>
    cases (s.tasks.get? t).any Task.blocking with
    | true => exact ⟨s.trace, [], rfl⟩
    | false =>
      cases result with
      | ok value => exact ⟨s.trace, [], rfl⟩
      | error e => exact fails e

end State

end Nursery
