import Nursery.Machine.Task

/-!
# Actors from outside

A message enters a mailbox before the line that posts it is over, so the messages of one line
after the other are handled in that order.  An actor has at most one slice, queued or running, as
long as it has messages.  Who calls an actor learns of the reply, or of the reason why there is
none.

* `State.post` : a message enters a mailbox.
* `State.callActor`, `State.sendActor` : a message is accepted or refused.
* `State.pollCall` : the reply of a call is looked for.
-/

namespace Nursery

namespace State

/-- A message goes to the back of a mailbox, and a slice of the actor is queued if none is. -/
def post (s : State) (a : ActorId) (home : RuntimeId) (message : Message) : State :=
  match s.actors.get? a with
  | none => s
  | some actor =>
    let s := s.modifyActor a fun m =>
      { m with mailbox := m.mailbox ++ [message], scheduled := true }
    if actor.scheduled then s else s.enqueue home actor.priority (.drain a)

/-- The call made next. -/
def nextCall (s : State) : CallId :=
  ⟨s.calls.size⟩

/-- A call that is refused. -/
def refuse (s : State) (e : ActorError) : State :=
  { s with calls := s.calls.set s.nextCall { accepted := false, outcome := some (.error e) } }

/-- An actor is called.  It cannot call itself, and a thread without a runtime can call nobody. -/
def callActor (s : State) (c : Context) (a : ActorId) (handler : List Line) : State :=
  if c.actor = some a then (s.log (.reentrantCall a)).refuse .reentrant
  else
    match c.home with
    | none => s.refuse .noRuntime
    | some home =>
      { s with calls := s.calls.set s.nextCall { accepted := true } }.post a home
        ⟨handler, some s.nextCall⟩

/-- A message is sent to an actor, unless the thread belongs to no runtime. -/
def sendActor (s : State) (c : Context) (a : ActorId) (handler : List Line) :
    Except ActorError State :=
  match c.home with
  | none => .error .noRuntime
  | some home => .ok (s.post a home ⟨handler, none⟩)

/-- A task looks at a call.  A refusal can be taken once; a call whose reply was taken waits for
another one. -/
def pollCall (s : State) (c : CallId) (poller : TaskId) :
    State × Polled (Except ActorError Int64) :=
  match s.calls.get? c with
  | none => (s, .pending)
  | some call =>
    match call.outcome with
    | some outcome => (s.modifyCall c fun m => { m with outcome := none }, .ready outcome)
    | none =>
      -- nothing tells a reply that was taken from one that is still to come
      if call.accepted then
        ((s.modifyCall c fun m => { m with waker := some poller }).doFirst
          (call.waker.toList.map .forget), .pending)
      else (s, .panics "actor call polled after completion")

end State

end Nursery
