import Nursery.Machine.Group
import Nursery.Machine.Mailbox

/-!
# Lines that do not wait

Most lines mean the same in the body of a task, in a handler of an actor and on the main thread.
A line that looks at a resource finds it in the frame or in the shared table; a line that uses one
moves it from the shared table into the frame first.

* `State.plain?` : what such a line does and reports, if it is one.
* `Reaction` : its effect, what remains to be done before it is over, and its result.
-/

namespace Nursery

/-- What a line has done. -/
structure Reaction where
  /-- The state after its own effect. -/
  state : State
  /-- The frame after its own effect. -/
  frame : Frame
  /-- What remains to be done before the result is told. -/
  after : List Action := []
  /-- The result, or the message of a panic. -/
  result : Except String Report

/-- The report of a line whose name is unknown or names something else. -/
def Report.missing : Report :=
  .text "missing"

/-- The report of a line that means nothing where it stands. -/
def Report.unknown : Report :=
  .text "unknown"

namespace State

/-- The resource under a name in a frame, else in the shared table. -/
def find? (s : State) (frame : Frame) (name : String) : Option Resource :=
  frame.find? name <|> s.shared.find? name

/-- The task whose handle has a name. -/
def findHandle? (s : State) (frame : Frame) (name : String) : Option TaskId :=
  match s.find? frame name with
  | some (.handle t) => some t
  | _ => none

/-- The group that has a name. -/
def findGroup? (s : State) (frame : Frame) (name : String) : Option TaskId :=
  match s.find? frame name with
  | some (.group g) => some g
  | _ => none

/-- A name that is in the shared table but not in the frame moves to the end of the frame. -/
def adopt (s : State) (frame : Frame) (name : String) : State × Frame :=
  match frame.find? name, s.shared.find? name with
  | none, some r => ({ s with shared := s.shared.without name }, frame.bind name r)
  | _, _ => (s, frame)

/-- A resource goes under a name to the end of the shared table; what was there is dropped. -/
def share (s : State) (name : String) (r : Resource) : State × List Action :=
  ({ s with shared := s.shared.bind name r },
    (s.shared.find? name).toList.map .release)

/-- The written form of a handle. -/
def describeHandle (s : State) (t : TaskId) : String :=
  "TaskHandle \x7b id: " ++ t.describe ++ ", state: " ++ (s.phase t).name ++ " \x7d"

/-- The reply of a call is still to come; once it was taken, another one is. -/
def callPending (s : State) (c : CallId) : Bool :=
  (s.calls.get? c).any fun call => call.accepted && call.outcome.isNone

/-- The written form of a call. -/
def describeCall (s : State) (c : CallId) : String :=
  "ActorCall \x7b pending: " ++ toString (s.callPending c) ++ " \x7d"

/-- The written form of an actor. -/
def describeActor (a : ActorId) : String :=
  "Actor \x7b id: " ++ a.describe ++ " \x7d"

/-- The name of the thread that runs a line. -/
def threadName (s : State) (c : Context) : String :=
  match c.home.bind s.runtimes.get? with
  | some rt => rt.settings.threadName 0
  | none => "main"

/-- The actor that has a name. -/
def findActor? (s : State) (name : String) : Option ActorId :=
  s.actorNames.get? name

/-- A line that only reports. -/
def reports (s : State) (frame : Frame) (report : Report) : Reaction :=
  { state := s, frame := frame, result := .ok report }

/-- A line that reports about something it has to find first. -/
def reportsOn {α : Type} (s : State) (frame : Frame) (found : Option α) (report : α → Report) :
    Reaction :=
  s.reports frame ((found.map report).getD .missing)

/-- A line that panics without a further effect. -/
def panics (s : State) (frame : Frame) (message : String) : Reaction :=
  { state := s, frame := frame, result := .error message }

/-- A new resource goes under a name to the end of the frame; what was there is dropped after. -/
def binds (s : State) (frame : Frame) (name : String) (r : Resource) (report : Report) :
    Reaction where
  state := s
  frame := frame.bind name r
  after := (frame.find? name).toList.map .release
  result := .ok report

/-- A task is spawned below the current one, or as a root. -/
def spawn (s : State) (c : Context) (frame : Frame) (tag : Tag) (priority : Option Priority)
    (detached : Bool) (body : List Line) : Reaction :=
  match c.home with
  | none => s.panics frame "spawn must be called within the context of a runtime"
  | some home =>
    let inherited := (c.task.map s.priority).getD .normal
    let t := s.nextNode
    let s :=
      if detached then s.addNode .task inherited none
      else s.addNode .task (priority.getD inherited) c.task
    let s := { s.launch t home body false with taskNames := s.taskNames.set tag.binding t }
    s.binds frame tag.binding (.handle t) (.text t.text)

/-- A root task is spawned on the runtime in a place. -/
def spawnOn (s : State) (frame : Frame) (tag : Tag) (place : Nat) (priority : Option Priority)
    (body : List Line) : Reaction :=
  match s.places.get? place with
  | none => s.reports frame .missing
  | some home =>
    let t := s.nextNode
    let s := s.addNode .task (priority.getD .normal) none
    let s := { s.launch t home body false with taskNames := s.taskNames.set tag.binding t }
    s.binds frame tag.binding (.handle t) (.text t.text)

/-- A group is made under a name. -/
def bindGroup (s : State) (c : Context) (frame : Frame) (tag : Tag) : Reaction :=
  match c.home with
  | none => s.panics frame "task groups must be created within the context of a runtime"
  | some home =>
    (s.makeGroup c home).binds frame tag.binding (.group s.nextNode) (.text "group")

/-- A child is added to a group. -/
def add (s : State) (frame : Frame) (tag : Tag) (priority : Option Priority)
    (body : List Line) : Reaction :=
  let (s, frame) := s.adopt frame tag.target
  match frame.find? tag.target with
  | some (.group g) =>
    match s.groups.get? g with
    | some group =>
      let t := s.nextNode
      let s := s.addChild g group priority body
      { s with taskNames := s.taskNames.set tag.binding t }.reports frame (.text t.text)
    | none => s.reports frame .missing
  | _ => s.reports frame .missing

/-- A resource is dropped by name. -/
def dropNamed (s : State) (frame : Frame) (name : String) : Reaction :=
  match frame.find? name, s.shared.find? name with
  | some r, _ =>
    { state := s, frame := frame.without name, after := [.release r],
      result := .ok (.text "dropped") }
  | none, some r =>
    { state := { s with shared := s.shared.without name }, frame := frame, after := [.release r],
      result := .ok (.text "dropped") }
  | none, none => s.reports frame .missing

/-- A resource moves from the frame to the shared table. -/
def shareNamed (s : State) (frame : Frame) (name : String) : Reaction :=
  match frame.find? name with
  | some r =>
    let (s, after) := s.share name r
    { state := s, frame := frame.without name, after := after, result := .ok (.text "put") }
  | none => s.reports frame .missing

/-- The phase of the child of a group that was spawned under a name. -/
def childPhase (s : State) (frame : Frame) (name child : String) : Report :=
  match s.findGroup? frame name, s.taskNames.get? child with
  | some g, some t =>
    if (s.groups.get? g).any (fun group => group.children.contains t) then
      .text (s.phase t).name
    else .nothing
  | _, _ => .missing

/-- An actor is made under a name. -/
def bindActor (s : State) (frame : Frame) (tag : Tag) (init : List Int64)
    (priority : Option Priority) : Reaction :=
  let a : ActorId := ⟨s.actors.size⟩
  let actor : Actor := { priority := priority.getD .normal, state := init }
  let s := { s with
    actors := s.actors.set a actor
    actorNames := s.actorNames.set tag.binding a }
  (s.log (.actorCreated a actor.priority)).reports frame (.text a.text)

/-- An actor is called, and the call goes under a name. -/
def bindCall (s : State) (c : Context) (frame : Frame) (tag : Tag) (handler : List Line) :
    Reaction :=
  match s.findActor? tag.target with
  | none => s.reports frame .missing
  | some a =>
    (s.callActor c a handler).binds frame tag.binding (.call s.nextCall) (.text "call")

/-- A message is sent to an actor. -/
def send (s : State) (c : Context) (frame : Frame) (tag : Tag) (handler : List Line) : Reaction :=
  match s.findActor? tag.target with
  | none => s.reports frame .missing
  | some a =>
    match s.sendActor c a handler with
    | .ok s => s.reports frame (.text "sent")
    | .error e => s.reports frame (.actorError e)

/-- What a line does that means the same everywhere, if it is one. -/
def plain? (s : State) (c : Context) (frame : Frame) (tag : Tag) : Act → Option Reaction
  | .note value => some (s.reports frame (.datum value))
  | .currentTask =>
    some (s.reports frame ((c.task.map fun t => Report.text t.text).getD .nothing))
  | .isCancelled => some (s.reports frame (.flag (c.task.any s.isCancelled)))
  | .thread => some (s.reports frame (.text (s.threadName c)))
  | .panic payload =>
    some ((s.tell (.told c.who "panic" .nothing)).panics frame payload.message)
  | .spawn priority detached body => some (s.spawn c frame tag priority detached body)
  | .spawnOn place priority body => some (s.spawnOn frame tag place priority body)
  | .phase =>
    some (s.reportsOn frame (s.findHandle? frame tag.target) fun t => .text (s.phase t).name)
  | .isTerminal =>
    some (s.reportsOn frame (s.findHandle? frame tag.target) fun t => .flag (s.phase t).isTerminal)
  | .isFinished =>
    some (s.reportsOn frame (s.findHandle? frame tag.target) fun t => .flag (s.phase t).isTerminal)
  | .handleCancelled =>
    some (s.reportsOn frame (s.findHandle? frame tag.target) fun t => .flag (s.isCancelled t))
  | .handleTask =>
    some (s.reportsOn frame (s.findHandle? frame tag.target) fun t => .text t.text)
  | .cancel =>
    some (match s.findHandle? frame tag.target with
      | some t =>
        { state := s, frame := frame, after := [.cancel t], result := .ok (.flag true) }
      | none => s.reports frame .missing)
  | .describe =>
    some (match s.find? frame tag.target with
      | some (.handle t) => s.reports frame (.text (s.describeHandle t))
      | some (.call k) => s.reports frame (.text (s.describeCall k))
      | _ => s.reports frame .missing)
  | .drop => some (s.dropNamed frame tag.target)
  | .share => some (s.shareNamed frame tag.target)
  | .group => some (s.bindGroup c frame tag)
  | .add priority body => some (s.add frame tag priority body)
  | .groupSize =>
    some (s.reportsOn frame ((s.findGroup? frame tag.target).bind s.groups.get?) fun group =>
      .size group.remaining (group.remaining = 0))
  | .cancelGroup =>
    some (match s.findGroup? frame tag.target with
      | some g =>
        { state := s, frame := frame, after := [.cancel g], result := .ok (.flag true) }
      | none => s.reports frame .missing)
  | .groupCancelled =>
    some (s.reportsOn frame (s.findGroup? frame tag.target) fun g => .flag (s.isCancelled g))
  | .childPhase child => some (s.reports frame (s.childPhase frame tag.target child))
  | .actor init priority => some (s.bindActor frame tag init priority)
  | .describeActor =>
    some (s.reportsOn frame (s.findActor? tag.target) fun a =>
      .identity (describeActor a) a.text)
  | .pending =>
    some (s.reportsOn frame ((s.findActor? tag.target).bind s.actors.get?) fun actor =>
      .number actor.mailbox.length)
  | .call handler => some (s.bindCall c frame tag handler)
  | .send handler => some (s.send c frame tag handler)
  | .wake =>
    some (match s.parked.get? tag.target with
      | some t =>
        { state := s, frame := frame, after := [.wake (.task t)], result := .ok (.text "woken") }
      | none => s.reports frame .missing)
  | _ => none

end State

end Nursery
