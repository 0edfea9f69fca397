import Nursery.Machine.Worker

/-!
# Sessions

A session runs a script: one command after the other on the main thread, while every worker is
paused.  A command makes one or more *moves*, each from a machine that rests, and lets the machine
run until it rests again.  Only some moves let a worker go on; it has stopped again when the
machine rests.  The resources that a line on the main thread leaves behind move to the shared
table.

* `State.install`, `State.start`, `State.close`, `State.launchRoot`, `State.leaveRoot`,
  `State.begin`, `State.shelve` : the moves.
* `State.command` : what a command does and reports.
* `Session.play` : the answers of a script, command by command.
-/

namespace Nursery

/-- The entry was not put into the queue by the main thread. -/
def Entry.isWork : Entry → Bool
  | .marker _ => false
  | _ => true

namespace State

/-! ### Moves -/

/-- A runtime is built and stands in a place. -/
def install (s : State) (place : Nat) (settings : Settings) : State :=
  let r : RuntimeId := ⟨s.runtimes.size⟩
  { s with
    runtimes := s.runtimes.set r { settings := settings }
    places := s.places.set place r }

/-- A worker is let go on; if it was paused in the middle of a slice it tells so. -/
def start (s : State) (r : RuntimeId) (goal : Goal) : State :=
  let later := ((s.runtimes.get? r).bind Runtime.paused).getD []
  { later.foldl tell (s.modifyRuntime r fun rt => { rt with paused := none }) with
    active := some (r, goal), stopped := none }

/-- A marker is put at the back of a band, and the worker is let go on until it has come up a
number of times. -/
def startRounds (s : State) (r : RuntimeId) (rounds : Nat) (band : Priority) : State :=
  ({ s with markers := s.markers + 1 }.enqueue r band (.marker (s.markers + 1))).start r
    (.rounds (s.markers + 1) rounds band)

/-- A queue takes nothing more, and what it held is to be dropped in the order in which it would
have been served. -/
def close (s : State) (r : RuntimeId) : State :=
  let entries := ((s.runtimes.get? r).map fun rt => rt.queue.toList.filter Entry.isWork).getD []
  ((s.modifyRuntime r fun rt => { rt with closed := true, queue := {} }).log
    (.shutDown entries.length)).doFirst (entries.map .discard)

/-- The root task on which the main thread blocks is made and queued. -/
def launchRoot (s : State) (r : RuntimeId) (body : List Line) : State :=
  (s.addNode .task .normal none).launch s.nextNode r body true

/-- The main thread has learnt how the root task ended, and drops its handle. -/
def leaveRoot (s : State) (t : TaskId) : State :=
  (s.takeOutcome t).1.doFirst [.release (.handle t)]

/-- What a line on the main thread has done takes effect. -/
def begin (reaction : Reaction) : State :=
  { reaction.state with agenda := reaction.state.agenda ++ reaction.after }

/-- The resources of a frame move to the shared table one by one; what was there is to be
dropped. -/
def shelve (s : State) (frame : Frame) : State :=
  frame.foldl (fun s item =>
    let (s, dropped) := s.share item.1 item.2
    { s with agenda := s.agenda ++ dropped }) s

/-! ### Commands -/

/-- Why the worker has stopped, as a report. -/
def stopReport (s : State) : Report :=
  match s.stopped with
  | some .paused => .text "paused"
  | some .held => .text "held"
  | _ => .text "quiet"

/-- A runtime with one worker is built in a free place.  Settings that are refused are told first;
a worker that cannot be named ends the attempt with a panic. -/
def build (s : State) (place : Nat) (batch : Option Nat) (threadStem : Option String) :
    State × Report :=
  if s.places.contains place then (s, .text "exists")
  else
    let settings :=
      { workers := some 1, batch := batch, threadStem := threadStem : Builder }.settings
    match settings.check?, settings.namingPanic? with
    | some e, _ => (s, .buildError e)
    | none, some message => (s, .panic message)
    | none, none => (s.install place settings, .text "built")

/-- A worker is let go on until nothing is queued, or for a number of rounds of a marker. -/
def runWorker (limit : Nat) (s : State) (place rounds : Nat) (band : Priority) : State × Report :=
  match s.places.get? place with
  | none => (s, .missing)
  | some r =>
    let s := run limit (if rounds = 0 then s.start r .quiet else s.startRounds r rounds band)
    (s, s.stopReport)

/-- What the main thread learns of the task that it was blocked on, once that has ended. -/
def blockReport (s : State) (t : TaskId) : Report :=
  if (s.phase t).isTerminal then
    match (s.tasks.get? t).bind Task.outcome, (s.tasks.get? t).bind Task.answer with
    | some (.error e), _ => .panic e.message
    | _, some (.ok value) => .value value
    | _, some (.error e) => .taskError e
    | _, none => .nothing
  else .nothing

/-- A body is run to its end as a root task while the main thread waits; before that the worker is
let go on until nothing is queued. -/
def blockOn (limit : Nat) (s : State) (place : Nat) (body : List Line) : State × Report :=
  match s.places.get? place with
  | none => (s, .missing)
  | some r =>
    let s := run limit (s.start r .quiet)
    if s.stopped = some .held then (s, .text "held")
    else
      let t := s.nextNode
      let s := run limit (s.launchRoot r body)
      let s := run limit (s.start r .blocking)
      (run limit (s.leaveRoot t), s.blockReport t)

/-- A runtime is dropped: it leaves its place, its queue is closed, what it held is dropped, and
the slice in progress comes to its end. -/
def dropRuntime (limit : Nat) (s : State) (place : Nat) : State × Report :=
  match s.places.get? place with
  | none => (s, .missing)
  | some r =>
    let s := run limit ({ s with places := s.places.erase place }.close r)
    (run limit (s.start r .closing), .text "stopped")

/-- A line runs on the main thread. -/
def mainLine (limit : Nat) (s : State) (tag : Tag) (act : Act) : State × Report :=
  match s.plain? { who := .main } [] tag act with
  | none => (s, .unknown)
  | some reaction =>
    (run limit ((run limit (begin reaction)).shelve reaction.frame),
      match reaction.result with
      | .ok report => report
      | .error message => .panic message)

/-- What a command does and reports. -/
def command (limit : Nat) (s : State) : Command → State × Report
  | .build place batch threadStem => s.build place batch threadStem
  | .run place rounds band => s.runWorker limit place rounds band
  | .blockOn place body => s.blockOn limit place body
  | .dropRuntime place => s.dropRuntime limit place
  | .describeRuntime place =>
    match (s.places.get? place).bind s.runtimes.get? with
    | some rt => (s, .text (rt.settings.describeRuntime (rt.settings.workers.getD 1)))
    | none => (s, .missing)
  | .check => (s, .text "ok")
  | .line (.mk tag act) => s.mainLine limit tag act

end State

namespace Session

/-- What a command answered. -/
structure Step where
  /-- Its result. -/
  report : Report
  /-- What happened meanwhile. -/
  events : List Event

/-- One command, with the events that a threshold lets pass. -/
def perform (limit : Nat) (threshold : Option Level) (s : State) (c : Command) : State × Step :=
  let (s', report) := s.command limit c
  (s', ⟨report, (s'.trace.toList.drop s.trace.size).filter (Event.shownAt threshold)⟩)

/-- The commands of a script one after the other. -/
def playFrom (limit : Nat) (threshold : Option Level) : State → Script → List Step
  | _, [] => []
  | s, c :: rest =>
    let (s, answer) := perform limit threshold s c
    answer :: playFrom limit threshold s rest

/-- A number of steps that no run of the machine within a script gets to.  Every line makes a
bounded number of tasks, calls and wakers; a slice needs a wake, and a wake needs a line or the
end of one of these, so the steps are bounded by a cubic polynomial of the script's weight. -/
def patience (script : Script) : Nat :=
  1000 * Nat.pow (script.weight + 10) 3

/-- The answers of a script. -/
def play (threshold : Option Level) (script : Script) : List Step :=
  playFrom (patience script) threshold {} script

end Session

end Nursery
