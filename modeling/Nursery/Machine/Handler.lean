import Nursery.Machine.Body

/-!
# The handlers of an actor

A handler runs line by line with the state of its actor in hand.  It cannot wait.  It ends with a
reply, which is the value of its last line or what it measures of the state, or with a panic,
which leaves the state as it is then.

* `State.handlerLine` : what a line of a handler does.
* `Answer` : what came of it.
* `State.handlerStep` : the next thing a handler does.
-/

namespace Nursery

/-- What came of a line of a handler. -/
structure Answer where
  /-- The state after the effect. -/
  state : State
  /-- The lines that remain. -/
  code : List Line
  /-- The frame after the effect. -/
  frame : Frame
  /-- What remains to be done before the handler goes on. -/
  after : List Action := []
  /-- The reply or the message of a panic, if the handler has ended. -/
  ended : Option (Except String Int64) := none
  /-- What the worker tells when it goes on, if the line paused it. -/
  pause : Option (List Event) := none

namespace State

/-- The state of an actor. -/
def actorState (s : State) (a : ActorId) : List Int64 :=
  ((s.actors.get? a).map Actor.state).getD []

/-- The state with an actor in another state. -/
def setActorState (s : State) (a : ActorId) (xs : List Int64) : State :=
  s.modifyActor a fun m => { m with state := xs }

/-- A list with its last element changed. -/
def changeLast (f : Int64 → Int64) : List Int64 → List Int64
  | [] => []
  | [x] => [f x]
  | x :: y :: rest => x :: changeLast f (y :: rest)

/-- The last element as a report. -/
def lastReport (xs : List Int64) : Report :=
  match xs.getLast? with
  | some x => .number x.toInt
  | none => .nothing

/-- What a measure gives of the state of an actor. -/
def measure (xs : List Int64) : Measure → Int64
  | .length => Int64.ofNat xs.length
  | .top => xs.getLast?.getD (-1)
  | .sum => xs.foldl (· + ·) 0

/-- The reply that a handler ends with. -/
def replyValue (xs : List Int64) (value : Option Int64) : Option Measure → Int64
  | some m => measure xs m
  | none => value.getD 0

/-- The effect of a line on the state of its actor, and what it reports, if it has one. -/
def onState? (xs : List Int64) : Act → Option (List Int64 × Report)
  | .push x => some (xs ++ [x], .number (xs.length + 1))
  | .pop => some (xs.dropLast, lastReport xs)
  | .double => some (changeLast (fun x => x + x) xs, lastReport (changeLast (fun x => x + x) xs))
  | .increment x =>
    let ys := if xs.isEmpty then [x] else changeLast (· + x) xs
    some (ys, lastReport ys)
  | .get => some (xs, .numbers xs)
  | _ => none

/-- What a line of a handler does. -/
def handlerLine (s : State) (home : RuntimeId) (a : ActorId) (code : List Line) (frame : Frame)
    (tag : Tag) (act : Act) : Answer :=
  let who : Speaker := .actor a
  let done (s : State) (report : Report) : Answer :=
    { state := s, code := code, frame := frame, after := tag.tells who report }
  match onState? (s.actorState a) act with
  | some (xs, report) => done (s.setActorState a xs) report
  | none =>
    match act with
    | .ret value measure =>
      { state := s, code := code, frame := frame,
        ended := some (.ok (replyValue (s.actorState a) value measure)) }
    | .loop 0 _ => { state := s, code := code, frame := frame }
    | .loop (left + 1) body =>
      { state := s, code := body ++ .mk tag (.loop left body) :: code, frame := frame }
    | .hold =>
      if s.mayPause then
        { state := s.tell (.told who "hold" .nothing), code := code, frame := frame,
          pause := some (tag.events who (.text "resumed")) }
      else done s (.text "resumed")
    | .blockInside place =>
      if s.places.contains place then
        { state := s, code := code, frame := frame,
          ended := some (.error "block_on cannot be called from a runtime worker thread") }
      else done s .missing
    | act =>
      match s.plain? ⟨who, some home⟩ frame tag act with
      | none => done s .unknown
      | some reaction =>
        match reaction.result with
        | .ok report =>
          { state := reaction.state, code := code, frame := reaction.frame,
            after := reaction.after ++ tag.tells who report }
        | .error message =>
          { state := reaction.state, code := code, frame := reaction.frame,
            after := reaction.after, ended := some (.error message) }

end State

/-- What came of a line takes effect on the slice of the worker. -/
def Answer.takeEffect (answer : Answer) (home : RuntimeId) (a : ActorId) (handled : Nat)
    (reply : Option CallId) : State :=
  let s := { answer.state with agenda := answer.state.agenda ++ answer.after }
  match answer.ended with
  | some result =>
    let s := s.setSlice home (some (.drain a handled (.replying reply result)))
    { s with agenda := s.agenda ++ answer.frame.resources.map .release }
  | none =>
    let s := s.setSlice home
      (some (.drain a handled (.handling answer.code answer.frame reply)))
    match answer.pause with
    | some later =>
      { s.modifyRuntime home fun rt => { rt with paused := some later } with
        active := none, stopped := some .held }
    | none => s

namespace State

/-- The next thing that a handler does. -/
def handlerStep (s : State) (home : RuntimeId) (a : ActorId) (handled : Nat) (code : List Line)
    (frame : Frame) (reply : Option CallId) : State :=
  let answer : Answer :=
    match code with
    | [] => { state := s, code := [], frame := frame, ended := some (.ok 0) }
    | .mk tag act :: rest => s.handlerLine home a rest frame tag act
  answer.takeEffect home a handled reply

end State

end Nursery
