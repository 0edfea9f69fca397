import Nursery.Machine.Tree

/-!
# The agenda

Each item of the agenda has an immediate effect and consequences, which are put in front of the
rest.  A panic that a destructor raises gives up what was still to be called and keeps what is
still to be dropped.

* `State.perform` : the effect of an item.
* `Action.afterPanic` : what a panic leaves of an item.
* `State.resume`, `State.inform` : the two kinds of wakers.
* `State.release` : the end of a resource.
* `State.forgetTask`, `State.buryTask` : the end of a task that nobody refers to.
-/

namespace Nursery

/-- The message of the panic that an unfinished group raises. -/
def groupComplaint : String :=
  "task group dropped without being awaited"

/-- What giving up a waker unused comes to. -/
def Waker.forget : Waker → Action
  | .task t => .forget t
  | .member g _ _ => .forgetSignal g

/-- What a panic leaves of an item: nothing is called any more, but everything is dropped. -/
def Action.afterPanic : Action → Option Action
  | .wake w => some w.forget
  | .release r => some (.release r)
  | .dissolve g => some (.dissolve g)
  | .forget t => some (.forget t)
  | .bury t => some (.bury t)
  | .forgetSignal g => some (.forgetSignal g)
  | .discard e => some (.discard e)
  | .abandon a => some (.abandon a)
  | .answer c outcome => some (.answer c outcome)
  | .cancel _ | .finish _ | .detach _ | .announce .. | .wakeWaiters _ | .reportFailure _
  | .record _ | .complain _ => none

namespace State

/-- A suspended task goes to the back of its band, a running one is noted to have been woken; in
every other phase it is on its way already. -/
def resume (s : State) (t : TaskId) : State :=
  match s.phase t with
  | .suspended =>
    match s.tasks.get? t with
    | some task => (s.setPhase t .ready).enqueue task.home (s.priority t) (.task t)
    | none => s
  | .running => (s.setPhase t .notified).doFirst [.forget t]
  | _ => s.doFirst [.forget t]

/-- A group learns that a child ended; the first child that failed cancels the group before. -/
def inform (s : State) (g : TaskId) (index : Nat) (child : TaskId) : State :=
  let rest : List Action := [.announce g index, .forgetSignal g]
  let tripped := (s.signals.get? g).any Signal.tripped
  if s.phase child = .failed ∧ tripped = false then
    ((s.modifySignal g fun m => { m with tripped := true }).log (.childFailed g child)).doFirst
      (.cancel g :: rest)
  else s.doFirst rest

/-- Use up a waker. -/
def wake (s : State) : Waker → State
  | .task t => s.resume t
  | .member g index child => s.inform g index child

/-- A child of a group has ended: its place is queued and whoever waits for it is woken. -/
def announce (s : State) (g : TaskId) (index : Nat) : State :=
  match s.signals.get? g with
  | none => s
  | some signal =>
    (s.modifySignal g fun m =>
      { m with completed := m.completed ++ [index], waker := none }).doFirst
        (signal.waker.toList.map fun t => .wake (.task t))

/-- Everyone who waits for the end of a task is woken, in the order in which they came. -/
def wakeWaiters (s : State) (t : TaskId) : State :=
  match s.tasks.get? t with
  | none => s
  | some task =>
    (s.modifyTask t fun m => { m with waiters := [] }).doFirst (task.waiters.map .wake)

/-- A failure that nobody can learn of any more is logged, once. -/
def reportUnobserved (s : State) (t : TaskId) : State :=
  match s.tasks.get? t with
  | none => s
  | some task =>
    if task.reported then s
    else
      let s := s.modifyTask t fun m => { m with reported := true }
      match task.outcome with
      | some (.error e) => if e.isCancelled then s else s.log (.unobserved t e)
      | _ => s

/-- The failure of a task is logged if its handle was dropped before. -/
def reportFailure (s : State) (t : TaskId) : State :=
  if s.phase t = .failed ∧ (s.tasks.get? t).any Task.handleDropped = true then
    s.reportUnobserved t
  else s

/-- A call gets its reply, and whoever waits for it is woken. -/
def answer (s : State) (c : CallId) (outcome : Except ActorError Int64) : State :=
  match s.calls.get? c with
  | none => s
  | some call =>
    (s.modifyCall c fun m =>
      { m with outcome := some outcome, answered := true, waker := none }).doFirst
        (call.waker.toList.map fun t => .wake (.task t))

/-- A handle is dropped: a failure that was not looked at is logged, and the task may go. -/
def dropHandle (s : State) (t : TaskId) : State :=
  let s := s.modifyTask t fun m => { m with handleDropped := true }
  (if s.phase t = .failed then s.reportUnobserved t else s).doFirst [.forget t]

/-- A group is dropped.  With children outstanding it is cancelled, and the body that drops it
panics. -/
def dropGroup (s : State) (g : TaskId) : State :=
  match s.groups.get? g with
  | none => s
  | some group =>
    if group.remaining = 0 then s.doFirst [.finish g, .dissolve g]
    -- the complaint comes last but one: a panic leaves only the dissolving
    else
      s.doFirst
        [.cancel g, .record (.logged (.groupDropped g group.remaining)), .finish g,
          .complain groupComplaint, .dissolve g]

/-- A call is dropped.  Where nobody will write a reply, whoever waits for one is given up. -/
def dropCall (s : State) (c : CallId) : State :=
  match s.calls.get? c with
  | none => s
  | some call =>
    if call.answered then
      (s.modifyCall c fun m => { m with dropped := true, waker := none }).doFirst
        (call.waker.toList.map .forget)
    else s.modifyCall c fun m => { m with dropped := true }

/-- A resource is dropped. -/
def release (s : State) : Resource → State
  | .handle t => s.dropHandle t
  | .group g => s.dropGroup g
  | .call c => s.dropCall c

/-- What a group owns is dropped: the handles of its children, then its part of the signal. -/
def dissolve (s : State) (g : TaskId) : State :=
  match s.groups.get? g with
  | none => s
  | some group =>
    { s with groups := s.groups.erase g }.doFirst
      (group.children.map (fun t => Action.release (.handle t)) ++ [Action.forgetSignal g])

/-- A task that nobody refers to goes: what its body owns is dropped first, while its node is
still there. -/
def forgetTask (s : State) (t : TaskId) : State :=
  match s.tasks.get? t with
  | none => s
  | some task =>
    if s.held t then s
    else
      (s.modifyTask t fun m => { m with fiber := none }).doFirst
        ((task.fiber.toList.flatMap Fiber.resources).map Action.release ++ [Action.bury t])

/-- A task without a body goes, and the wakers that were registered with it are given up. -/
def buryTask (s : State) (t : TaskId) : State :=
  match s.tasks.get? t with
  | none => s
  | some task =>
    { s with tasks := s.tasks.erase t }.doFirst (task.waiters.map Waker.forget)

/-- A signal that nobody can get at gives up the task that waited there. -/
def forgetSignal (s : State) (g : TaskId) : State :=
  if s.signalAlive g then s
  else
    match s.signals.get? g with
    | none => s
    | some signal =>
      (s.modifySignal g fun m => { m with waker := none }).doFirst
        (signal.waker.toList.map .forget)

/-- The messages of an actor whose slice was discarded are dropped in order, and each call among
them learns of it. -/
def abandon (s : State) (a : ActorId) : State :=
  match s.actors.get? a with
  | none => s
  | some actor =>
    let s := s.modifyActor a fun m => { m with scheduled := false, mailbox := [] }
    let s := if actor.mailbox.isEmpty then s else s.log (.abandoned a actor.mailbox.length)
    s.doFirst ((actor.mailbox.filterMap Message.reply).map fun c => .answer c (.error .dropped))

/-- An entry that no run queue keeps: the reference to a task is given up, the messages of an
actor are dropped, and a marker is nothing. -/
def discard (s : State) : Entry → State
  | .task t => s.doFirst [.forget t]
  | .drain a => s.doFirst [.abandon a]
  | .marker _ => s

/-- A destructor panics if a body is running, unless that is panicking already. -/
def complain (s : State) (message : String) : State :=
  if s.inBody ∧ s.unwinding.isNone then
    { s with unwinding := some message, agenda := s.agenda.filterMap Action.afterPanic }
  else s

/-- The effect of an item of the agenda. -/
def perform (s : State) : Action → State
  | .cancel n => s.cancelNode n
  | .finish n => s.finishNode n
  | .detach n => s.detachNode n
  | .wake w => s.wake w
  | .announce g index => s.announce g index
  | .wakeWaiters t => s.wakeWaiters t
  | .reportFailure t => s.reportFailure t
  | .answer c outcome => s.answer c outcome
  | .record e => s.tell e
  | .complain message => s.complain message
  | .release r => s.release r
  | .dissolve g => s.dissolve g
  | .forget t => s.forgetTask t
  | .bury t => s.buryTask t
  | .forgetSignal g => s.forgetSignal g
  | .discard e => s.discard e
  | .abandon a => s.abandon a

end State

end Nursery
