import Nursery.Machine.Handler

/-!
# The worker of a runtime

A worker takes the next entry of its run queue and runs one slice of it: of a task until its body
is suspended or its end is known to all, of an actor until its mailbox is empty or it has handled
as many messages as it may at a time.  One step of the machine does the first item of the agenda,
or, when there is none, the next thing the worker has to do.

* `State.work` : the next thing a worker does.
* `State.step` : one step of the machine.
* `State.run` : a number of steps, until the machine rests.
-/

namespace Nursery

namespace State

/-- The worker stops and the main thread goes on. -/
def stop (s : State) (why : Stop) : State :=
  { s with active := none, stopped := some why }

/-- A slice of a task that is not over yet is at its end: a task that was woken meanwhile goes
straight back into the queue. -/
def endPending (s : State) (home : RuntimeId) (t : TaskId) : State :=
  let s := s.setSlice home none
  if s.phase t = .running then (s.setPhase t .suspended).doFirst [.forget t]
  else
    let s := s.setPhase t .ready
    match s.tasks.get? t with
    -- the queue gets its entry before the worker gives up its own reference
    | some task => (s.doFirst [.forget t]).enqueue task.home (s.priority t) (.task t)
    | none => s

/-- The outcome that a body's end gives its task.  A panic in a destructor takes the place of what
the body returned. -/
def endingOf (unwinding : Option String) : Ending → Ending
  | .returned result =>
    match unwinding with
    | some message => .panicked message
    | none => .returned result
  | .panicked message => .panicked message

/-- The body of a task is over: its outcome is kept, and a failure cancels the children. -/
def endBody (s : State) (home : RuntimeId) (t : TaskId) (ending : Ending) : State :=
  let blocking := (s.tasks.get? t).any Task.blocking
  let s := { s.setSlice home (some (.task t .joining)) with unwinding := none }
  let fails (s : State) (e : TaskError) : State :=
    let s := s.modifyTask t fun m => { m with outcome := some (.error e) }
    if e.isCancelled then s
    else (s.log (.bodyFailed t e)).doFirst ((s.children t).map .cancel)
  match ending with
  | .panicked message => fails s (.panicked message)
  | .returned result =>
    if blocking then
      s.modifyTask t fun m => { m with outcome := some (.ok 0), answer := some result }
    else
      match result with
      | .ok value => s.modifyTask t fun m => { m with outcome := some (.ok value) }
      | .error e => fails s e

/-- The phase in which an outcome leaves its task. -/
def finalPhase : Option (Except TaskError Int64) → Phase
  | some (.ok _) => .completed
  | some (.error .cancelled) => .cancelled
  | _ => .failed

/-- The end of a task becomes known: it leaves its parent and everyone who waits is woken. -/
def complete (s : State) (home : RuntimeId) (t : TaskId) : State :=
  let p := finalPhase ((s.tasks.get? t).bind Task.outcome)
  (((s.setPhase t p).log (.finished t p)).setSlice home (some (.task t .leaving))).doFirst
    [.finish t, .wakeWaiters t, .reportFailure t]

/-- A task whose body is over ends when its last child has left it. -/
def joinChildren (s : State) (home : RuntimeId) (t : TaskId) : State :=
  if (s.children t).isEmpty then
    (s.modifyNode t fun n => { n with joining := false }).complete home t
  else (s.modifyNode t fun n => { n with joining := true }).endPending home t

/-- The next thing that a worker does for a task. -/
def taskStep (s : State) (home : RuntimeId) (t : TaskId) : Stage → State
  | .polling =>
    match s.tasks.get? t with
    | none => s.setSlice home none
    | some task =>
      match task.fiber, s.unwinding with
      | some f, some message =>
        { state := s, fiber := f, flow := .panic message [] : Turn }.takeEffect home t
      | some f, none => s.bodyStep home t f
      | none, _ => s.joinChildren home t
  | .suspending =>
    match (s.tasks.get? t).bind Task.fiber, s.unwinding with
    | some f, some message =>
      { state := s, fiber := f, flow := .panic message [] : Turn }.takeEffect home t
    | _, _ => s.endPending home t
  | .ended ending => s.endBody home t (endingOf s.unwinding ending)
  | .joining => s.joinChildren home t
  | .leaving => (s.setSlice home none).doFirst [.forget t]

/-- A slice of an actor is over; with messages left another one is queued behind everything that
is ready now. -/
def endDrain (s : State) (home : RuntimeId) (a : ActorId) (handled : Nat) : State :=
  let s := (s.setSlice home none).log (.drained a handled)
  match s.actors.get? a with
  | none => s
  | some actor =>
    if actor.mailbox.isEmpty then s.modifyActor a fun m => { m with scheduled := false }
    else s.enqueue home actor.priority (.drain a)

/-- How many messages an actor may handle at a time. -/
def batch (s : State) (r : RuntimeId) : Nat :=
  ((s.runtimes.get? r).map fun rt => rt.settings.batch).getD 0

/-- The next message of an actor is taken up, if it may handle one more and there is one. -/
def nextMessage (s : State) (home : RuntimeId) (a : ActorId) (handled : Nat) : State :=
  match s.actors.get? a with
  | none => s.setSlice home none
  | some actor =>
    if handled < s.batch home then
      match actor.mailbox with
      | [] => s.endDrain home a handled
      | message :: rest =>
        (s.modifyActor a fun m => { m with mailbox := rest }).setSlice home
          (some (.drain a handled (.handling message.handler [] message.reply)))
    else s.endDrain home a handled

/-- A handler is over and its reply is given; a panic is logged. -/
def endHandler (s : State) (home : RuntimeId) (a : ActorId) (handled : Nat)
    (reply : Option CallId) (result : Except String Int64) : State :=
  let s := s.setSlice home (some (.drain a (handled + 1) .idle))
  match result, reply with
  | .ok value, some c => s.doFirst [.answer c (.ok value)]
  | .ok _, none => s
  | .error message, some c =>
    (s.log (.handlerPanicked a message)).doFirst [.answer c (.error (.handlerPanicked message))]
  | .error message, none => s.log (.unheardPanic a message)

/-- The next thing that a worker does for an actor. -/
def drainStep (s : State) (home : RuntimeId) (a : ActorId) (handled : Nat) :
    HandlerStage → State
  | .idle => s.nextMessage home a handled
  | .handling code frame reply => s.handlerStep home a handled code frame reply
  | .replying reply result => s.endHandler home a handled reply result

/-- A task that is due gets a slice; an entry of a task that is not due is dropped. -/
def beginTask (s : State) (home : RuntimeId) (t : TaskId) : State :=
  if s.phase t = .ready ∨ s.phase t = .notified then
    (s.setPhase t .running).setSlice home (some (.task t .polling))
  else s.doFirst [.forget t]

/-- The marker that the worker counts comes up: the last time it stops the worker, before that it
goes to the back of its band again.  Any other marker is nothing. -/
def meetMarker (s : State) (home : RuntimeId) (goal : Goal) (serial : Nat) : State :=
  match goal with
  | .rounds counted left band =>
    if counted = serial then
      if left ≤ 1 then s.stop .paused
      else
        { s.enqueue home band (.marker serial) with
          active := some (home, .rounds counted (left - 1) band) }
    else s
  | _ => s

/-- The next thing that a worker does. -/
def work (s : State) (home : RuntimeId) (goal : Goal) : State :=
  match s.runtimes.get? home with
  | none => s.stop .quiet
  | some rt =>
    match rt.slice with
    | some (.task t stage) => s.taskStep home t stage
    | some (.drain a handled stage) => s.drainStep home a handled stage
    | none =>
      if rt.closed then s.stop .quiet
      else
        match rt.queue.pop? with
        | none => s.stop .quiet
        | some (entry, queue) =>
          let s := s.modifyRuntime home fun rt => { rt with queue := queue }
          match entry with
          | .task t => s.beginTask home t
          | .drain a => s.setSlice home (some (.drain a 0 .idle))
          | .marker serial => s.meetMarker home goal serial

/-- Nothing remains to be done and no worker was let go on. -/
def resting (s : State) : Bool :=
  s.agenda.isEmpty && s.active.isNone

/-- One step of the machine; a machine that rests goes on resting. -/
def step (s : State) : State :=
  match s.agenda, s.active with
  | action :: rest, _ => { s with agenda := rest }.perform action
  | [], some (home, goal) => s.work home goal
  | [], none => s

/-- At most a number of steps, until the machine rests. -/
def run : Nat → State → State
  | 0, s => s
  | limit + 1, s => if s.resting then s else run limit s.step

end State

end Nursery
