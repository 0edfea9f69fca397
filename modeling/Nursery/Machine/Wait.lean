import Nursery.Machine.Plain

/-!
# Waiting

A line that waits looks for what it waits for.  If that is not there, the body is suspended in the
middle of the line, and the next slice, whatever it was woken by, looks again.  When it is there,
its values are added to the sum of the body, and an error is reported, or ends the body.

* `Turn`, `Flow` : what came of a turn of a body, and how the body goes on.
* `Harvest`, `State.harvest` : the result of a line that waited, and what it does to the body.
* `State.poll` : another look of a suspended line.
-/

namespace Nursery

/-- How a body goes on. -/
inductive Flow where
  /-- With the line it is in, or with the next one. -/
  | next
  /-- It is suspended. -/
  | suspend
  /-- It returns. -/
  | finish (result : Except TaskError Int64)
  /-- It panics, which drops what the line owned. -/
  | panic (message : String) (owned : List Resource)
  /-- Its worker is paused, and tells the events when it goes on. -/
  | pause (later : List Event)

/-- What came of a turn of a body. -/
structure Turn where
  /-- The state after the effect. -/
  state : State
  /-- The rest of the body. -/
  fiber : Fiber
  /-- What remains to be done before the body goes on. -/
  after : List Action := []
  /-- How it goes on. -/
  flow : Flow := .next

/-- The events by which a line tells its result; a quiet line has none. -/
def Tag.events (tag : Tag) (who : Speaker) (report : Report) : List Event :=
  if tag.quiet then [] else [.told who tag.label report]

/-- The telling of a line's result as something to be done. -/
def Tag.tells (tag : Tag) (who : Speaker) (report : Report) : List Action :=
  (tag.events who report).map .record

/-- The result of a line that waited. -/
inductive Harvest where
  /-- Values, which the body adds up. -/
  | values (report : Report) (values : List Int64)
  /-- An error, with what it is as a cause and what it is by itself. -/
  | failure (report : Report) (fault : Fault) (error : TaskError)

namespace Harvest

/-- The outcome of a task as a result. -/
def ofTask : Except TaskError Int64 → Harvest
  | .ok value => .values (.value value) [value]
  | .error e => .failure (.taskError e) e.toFault e

/-- The reply of an actor as a result; its error is always a cause. -/
def ofCall : Except ActorError Int64 → Harvest
  | .ok value => .values (.value value) [value]
  | .error e => .failure (.actorError e) e.toFault (.failed e.toFault)

/-- The next result of a group as a result. -/
def ofNext : Option (Except GroupError Int64) → Harvest
  | none => .values (.text "none") []
  | some (.ok value) => .values (.value value) [value]
  | some (.error e) => .failure (.groupError e) e.toFault e.source

/-- All results of a group as a result. -/
def ofAll : Except GroupError (List Int64) → Harvest
  | .ok xs => .values (.values xs) xs
  | .error e => .failure (.groupError e) e.toFault e.source

end Harvest

namespace State

/-- A line is over and tells its result. -/
def tells (s : State) (t : TaskId) (f : Fiber) (tag : Tag) (report : Report) : Turn :=
  { state := s, fiber := f, after := tag.tells (.task t) report }

/-- A line that waited is over: its values are added up, or its error is dealt with. -/
def harvest (s : State) (t : TaskId) (f : Fiber) (tag : Tag) (attempt : Attempt)
    (after : List Action) : Harvest → Turn
  | .values report xs =>
    { state := s, fiber := { f with sum := xs.foldl (· + ·) f.sum },
      after := after ++ tag.tells (.task t) report }
  | .failure report fault error =>
    { state := s, fiber := f, after := after ++ tag.tells (.task t) report,
      flow :=
        match attempt with
        | .report => .next
        | .wrap => .finish (.error (.failed fault))
        | .raise => .finish (.error error) }

/-- A body is suspended in the middle of a line. -/
def suspends (s : State) (f : Fiber) (tag : Tag) (attempt : Attempt) (wait : Wait)
    (after : List Action) : Turn :=
  { state := s, fiber := { f with waiting := some ⟨tag, attempt, wait⟩ }, after := after,
    flow := .suspend }

/-- A task looks at a handle or at a call; a group is never ready by itself. -/
def pollResource (s : State) (t : TaskId) : Resource → State × Polled Harvest
  | .handle u =>
    match s.pollHandle u t with
    | (s, .ready outcome) => (s, .ready (.ofTask outcome))
    | (s, .pending) => (s, .pending)
    | (s, .panics message) => (s, .panics message)
  | .call c =>
    match s.pollCall c t with
    | (s, .ready outcome) => (s, .ready (.ofCall outcome))
    | (s, .pending) => (s, .pending)
    | (s, .panics message) => (s, .panics message)
  | .group _ => (s, .pending)

/-- The first of several handles that is ready, with its name and those of the others. -/
def pollFirst (t : TaskId) (seen : List (String × TaskId)) :
    List (String × TaskId) → State →
      State × Polled (String × TaskId × Except TaskError Int64 × List (String × TaskId))
  | [], s => (s, .pending)
  | (name, u) :: rest, s =>
    match s.pollHandle u t with
    | (s, .ready outcome) => (s, .ready (name, u, outcome, seen ++ rest))
    | (s, .pending) => pollFirst t (seen ++ [(name, u)]) rest s
    | (s, .panics message) => (s, .panics message)

/-- A turn of giving way until cancelled or out of turns. -/
def spin (s : State) (t : TaskId) (f : Fiber) (tag : Tag) (turns limit : Nat) : Turn :=
  if turns < limit ∧ s.isCancelled t = false then
    s.suspends f tag .report (.spinning turns limit) [.wake (.task t)]
  else s.tells t f tag (.turns turns (s.isCancelled t))

/-- A turn of giving way a number of times. -/
def giveWay (s : State) (t : TaskId) (f : Fiber) (tag : Tag) (left : Nat) : Turn :=
  if left = 0 then s.tells t f tag .nothing
  else s.suspends f tag .report (.yielding left) [.wake (.task t)]

/-- A look at a handle or a call that a line waits for. -/
def awaitResource (s : State) (t : TaskId) (f : Fiber) (tag : Tag) (attempt : Attempt)
    (r : Resource) (taken : Bool) : Turn :=
  match s.pollResource t r with
  | (s, .ready h) => s.harvest t f tag attempt (if taken then [.release r] else []) h
  | (s, .pending) => s.suspends f tag attempt (.awaiting r taken) []
  | (s, .panics message) =>
    { state := s, fiber := f, flow := .panic message (if taken then [r] else []) }

/-- A look at the handles of which a line waits for the first. -/
def awaitFirst (s : State) (t : TaskId) (f : Fiber) (tag : Tag) (attempt : Attempt)
    (handles : List (String × TaskId)) : Turn :=
  match pollFirst t [] handles s with
  | (s, .ready (name, u, outcome, others)) =>
    let frame := others.foldl (fun frame h => frame.bind h.1 (.handle h.2)) f.frame
    s.harvest t { f with frame := frame } tag attempt
      [.release (.handle u), .record (.told (.task t) "first" (.text name))] (.ofTask outcome)
  | (s, .pending) => s.suspends f tag attempt (.selecting handles) []
  | (s, .panics message) =>
    { state := s, fiber := f, flow := .panic message (handles.map fun h => .handle h.2) }

/-- A look at a group for its next result. -/
def awaitNext (s : State) (t : TaskId) (f : Fiber) (tag : Tag) (attempt : Attempt)
    (g : TaskId) : Turn :=
  match s.pollNext g t with
  | (s, .ready result) => s.harvest t f tag attempt [] (.ofNext result)
  | (s, .pending) => s.suspends f tag attempt (.next g) []
  | (s, .panics message) => { state := s, fiber := f, flow := .panic message [] }

/-- A look at a group for all its results; a group of the line's own is dropped with the last. -/
def awaitAll (s : State) (t : TaskId) (f : Fiber) (tag : Tag) (attempt : Attempt) (g : TaskId)
    (own : Bool) (tally : Tally) : Turn :=
  let owned : List Resource := if own then [.group g] else []
  match s.pollAll g t tally with
  | (s, _, .ready result) =>
    s.harvest t f tag attempt (owned.map .release) (.ofAll result)
  | (s, tally, .pending) =>
    s.suspends f tag attempt (.all g own tally.values tally.failure) []
  | (s, _, .panics message) => { state := s, fiber := f, flow := .panic message owned }

/-- The next thing done to the group that a line fills. -/
def fill (s : State) (t : TaskId) (f : Fiber) (tag : Tag) (attempt : Attempt) (g : TaskId) :
    List PlanItem → Turn
  | [] => s.awaitAll t f tag attempt g true ⟨[], none⟩
  | item :: rest =>
    let f := { f with waiting := some ⟨tag, attempt, .filling g rest⟩ }
    match item, s.groups.get? g with
    | .add priority body, some group =>
      { state := s.addChild g group priority body, fiber := f,
        after := [.record (.told (.task t) "add" (.text s.nextNode.text))] }
    | .cancelAll, _ => { state := s, fiber := f, after := [.cancel g] }
    | .panic payload, _ =>
      { state := s, fiber := { f with waiting := none },
        flow := .panic payload.message [.group g] }
    | _, some group =>
      { state := s, fiber := f,
        after := [.record (.told (.task t) "glen"
          (.size group.remaining (group.remaining = 0)))] }
    | _, none => { state := s, fiber := f }

/-- Another look of a line that the body is suspended in. -/
def poll (s : State) (t : TaskId) (f : Fiber) (w : Waiting) : Turn :=
  let f := { f with waiting := none }
  match w.wait with
  | .yielding left => s.giveWay t f w.tag (left - 1)
  | .spinning turns limit => s.spin t f w.tag (turns + 1) limit
  | .parked => s.tells t f w.tag .nothing
  | .awaiting r taken => s.awaitResource t f w.tag w.attempt r taken
  | .selecting handles => s.awaitFirst t f w.tag w.attempt handles
  | .next g => s.awaitNext t f w.tag w.attempt g
  | .all g own values failure => s.awaitAll t f w.tag w.attempt g own ⟨values, failure⟩
  | .filling g plan => s.fill t f w.tag w.attempt g plan

end State

end Nursery
