import Nursery.Machine.Wait

/-!
# The body of a task

A body runs line by line until it ends, panics, suspends itself or pauses its worker.  Its end
takes the frame with it; so does a panic, after what the line owned that panicked.

* `State.runLine` : what a line of a body does.
* `Turn.takeEffect` : what came of it changes the task and the slice of its worker.
* `State.bodyStep` : the next thing a body does.
-/

namespace Nursery

namespace State

/-- A line waits for the handle or the call under its name. -/
def awaitNamed (s : State) (t : TaskId) (f : Fiber) (tag : Tag) (keep : Bool)
    (attempt : Attempt) : Turn :=
  let (s, frame) := s.adopt f.frame tag.target
  match frame.find? tag.target with
  | some (.group _) | none => s.tells t { f with frame := frame } tag .missing
  | some r =>
    let frame := if keep then frame else frame.without tag.target
    s.awaitResource t { f with frame := frame } tag attempt r (!keep)

/-- A line looks at the handle or the call under its name. -/
def pollNamed (s : State) (t : TaskId) (f : Fiber) (tag : Tag) (keep : Bool)
    (attempt : Attempt) : Turn :=
  let (s, frame) := s.adopt f.frame tag.target
  let f := { f with frame := frame }
  match frame.find? tag.target with
  | none => s.tells t f tag .missing
  | some r =>
    match s.pollResource t r with
    | (s, .ready h) =>
      if keep then s.harvest t f tag attempt [] h
      else s.harvest t { f with frame := frame.without tag.target } tag attempt [.release r] h
    | (s, .pending) => s.tells t f tag (.text "pending")
    | (s, .panics message) => { state := s, fiber := f, flow := .panic message [] }

/-- The handles under several names are taken out of a frame; what else is under them moves to its
end. -/
def takeHandles : List String → Frame → List (String × TaskId) × Frame
  | [], frame => ([], frame)
  | name :: rest, frame =>
    match frame.find? name with
    | some (.handle u) =>
      let (taken, frame) := takeHandles rest (frame.without name)
      ((name, u) :: taken, frame)
    | some r => takeHandles rest (frame.bind name r)
    | none => takeHandles rest frame

/-- The group under the name of a line, which is moved into the frame if it was shared. -/
def adoptGroup (s : State) (frame : Frame) (name : String) : State × Frame × Option TaskId :=
  let (s, frame) := s.adopt frame name
  match frame.find? name with
  | some (.group g) => (s, frame, some g)
  | _ => (s, frame, none)

/-- Whether a line may pause the worker now. -/
def mayPause (s : State) : Bool :=
  match s.active with
  | some (_, .quiet) | some (_, .rounds ..) => true
  | _ => false

/-- What a line of a body does. -/
def runLine (s : State) (home : RuntimeId) (t : TaskId) (f : Fiber) (tag : Tag) : Act → Turn
  | .ret value _ => { state := s, fiber := f, flow := .finish (.ok (value.getD f.sum)) }
  | .fail message cause =>
    { state := s, fiber := f, flow := .finish (.error (.failed ⟨message, cause.toList⟩)) }
  | .raiseCancelled => { state := s, fiber := f, flow := .finish (.error .cancelled) }
  | .raisePanicked message =>
    { state := s, fiber := f, flow := .finish (.error (.panicked message)) }
  | .check =>
    if s.isCancelled t then
      { s.tells t f tag (.text cancellationMessage) with flow := .finish (.error .cancelled) }
    else s.tells t f tag (.text "ok")
  | .yieldTimes times => s.giveWay t f tag times
  | .spin limit => s.spin t f tag 0 limit
  | .park =>
    { s with parked := s.parked.set tag.binding t }.suspends f tag .report .parked
      ((s.parked.get? tag.binding).toList.map Action.forget ++
        [Action.record (.told (.task t) "parked" .nothing)])
  | .wakeSelf times =>
    { state := s, fiber := f,
      after := (if times = 0 then [] else [.wake (.task t)]) ++ tag.tells (.task t) .nothing }
  | .loop times body =>
    match times with
    | 0 => { state := s, fiber := f }
    | left + 1 =>
      { state := s, fiber := { f with code := body ++ .mk tag (.loop left body) :: f.code } }
  | .ifCancelled yes no =>
    { state := s, fiber := { f with code := (if s.isCancelled t then yes else no) ++ f.code } }
  | .await keep attempt => s.awaitNamed t f tag keep attempt
  | .poll keep attempt => s.pollNamed t f tag keep attempt
  | .any names attempt =>
    let (taken, frame) := takeHandles names f.frame
    let f := { f with frame := frame }
    if taken.isEmpty then s.tells t f tag .missing else s.awaitFirst t f tag attempt taken
  | .next attempt =>
    match s.adoptGroup f.frame tag.target with
    | (s, frame, some g) => s.awaitNext t { f with frame := frame } tag attempt g
    | (s, frame, none) => s.tells t { f with frame := frame } tag .missing
  | .all attempt =>
    match s.adoptGroup f.frame tag.target with
    | (s, frame, some g) => s.awaitAll t { f with frame := frame } tag attempt g false ⟨[], none⟩
    | (s, frame, none) => s.tells t { f with frame := frame } tag .missing
  | .withGroup plan attempt =>
    let g := s.nextNode
    { state := s.makeGroup ⟨.task t, some home⟩ home,
      fiber := { f with waiting := some ⟨tag, attempt, .filling g plan⟩ } }
  | .hold =>
    if s.mayPause then
      { state := s.tell (.told (.task t) "hold" .nothing), fiber := f,
        flow := .pause (tag.events (.task t) (.text "resumed")) }
    else s.tells t f tag (.text "resumed")
  | .blockInside place =>
    if s.places.contains place then
      { state := s, fiber := f,
        flow := .panic "block_on cannot be called from a runtime worker thread" [] }
    else s.tells t f tag .missing
  | act =>
    match s.plain? ⟨.task t, some home⟩ f.frame tag act with
    | none => s.tells t f tag .unknown
    | some reaction =>
      let f := { f with frame := reaction.frame }
      match reaction.result with
      | .ok report =>
        { state := reaction.state, fiber := f,
          after := reaction.after ++ tag.tells (.task t) report }
      | .error message =>
        { state := reaction.state, fiber := f, after := reaction.after,
          flow := .panic message [] }

end State

/-- The report of the end of a body. -/
def endReport : Except TaskError Int64 → Report
  | .ok value => .value value
  | .error e => .taskError e

/-- A turn takes effect on the task and on the slice of its worker. -/
def Turn.takeEffect (turn : Turn) (home : RuntimeId) (t : TaskId) : State :=
  let s := { turn.state with agenda := turn.state.agenda ++ turn.after }
  match turn.flow with
  | .next => s.modifyTask t fun m => { m with fiber := some turn.fiber }
  | .suspend =>
    (s.modifyTask t fun m => { m with fiber := some turn.fiber }).setSlice home
      (some (.task t .suspending))
  | .finish result =>
    let s := (s.modifyTask t fun m => { m with fiber := none }).setSlice home
      (some (.task t (.ended (.returned result))))
    { s with agenda := s.agenda ++
        .record (.told (.task t) "end" (endReport result)) ::
          turn.fiber.resources.map .release }
  | .panic message owned =>
    let s := (s.modifyTask t fun m => { m with fiber := none }).setSlice home
      (some (.task t (.ended (.panicked message))))
    { s with
      unwinding := some message
      agenda := s.agenda ++ (owned ++ turn.fiber.resources).map .release }
  | .pause later =>
    let s := s.modifyTask t fun m => { m with fiber := some turn.fiber }
    { s.modifyRuntime home fun rt => { rt with paused := some later } with
      active := none, stopped := some .held }

namespace State

/-- The next thing that the body of a task does. -/
def bodyStep (s : State) (home : RuntimeId) (t : TaskId) (f : Fiber) : State :=
  if f.begun = false then
    (s.tell (.told (.task t) "begin" .nothing)).modifyTask t fun m =>
      { m with fiber := some { f with begun := true } }
  else
    match f.waiting, f.code with
    | some w, _ => (s.poll t f w).takeEffect home t
    | none, [] => { state := s, fiber := f, flow := .finish (.ok 0) : Turn }.takeEffect home t
    | none, .mk tag act :: rest =>
      (s.runLine home t { f with code := rest } tag act).takeEffect home t

end State

end Nursery
