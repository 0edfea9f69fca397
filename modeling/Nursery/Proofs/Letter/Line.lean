import Nursery.Proofs.Course
import Nursery.Proofs.Group.Look

/-!
# Lines that call an actor or send to it

A line hands a letter to an actor: it calls the actor or sends a message to it.  Which line does so
next can be read off the state, and so can who runs it: a line runs in the handler of an actor if
that is what the worker is in, and it belongs to a runtime if a worker runs it.

* `Letter` : what a line hands to an actor.
* `State.letter?` : the letter that the next step hands over.
* `Posts` : a transition that hands a letter over.
* `Posts.thread`, `Posts.handles` : **the context of the line is that of its thread.**
* `Posts.leaves` : the transition does what the letter comes to, and nothing else that actors, calls
  or queues can tell.
-/

namespace Nursery

/-- What a line hands to an actor. -/
structure Letter where
  /-- Who runs the line, and on which runtime. -/
  context : Context
  /-- The frame of the line. -/
  frame : Frame
  /-- How the line reports. -/
  tag : Tag
  /-- The actor. -/
  actor : ActorId
  /-- The handler that it is to run. -/
  handler : List Line
  /-- The line waits for a reply. -/
  calls : Bool

/-- What a letter comes to. -/
def Letter.reaction (l : Letter) (s : State) : Reaction :=
  if l.calls then s.bindCall l.context l.frame l.tag l.handler
  else s.send l.context l.frame l.tag l.handler

/-- The message that a letter brings. -/
def Letter.message (l : Letter) (s : State) : Message :=
  ⟨l.handler, if l.calls then some s.nextCall else none⟩

namespace State

/-- The letter of a line. -/
def lineLetter (s : State) (c : Context) (frame : Frame) (tag : Tag) : Act → Option Letter
  | .call handler => (s.findActor? tag.target).map fun a => ⟨c, frame, tag, a, handler, true⟩
  | .send handler => (s.findActor? tag.target).map fun a => ⟨c, frame, tag, a, handler, false⟩
  | _ => none

/-- The letter that the body of a task hands over next. -/
def bodyLetter (s : State) (home : RuntimeId) (t : TaskId) (f : Fiber) : Option Letter :=
  match f.begun, f.waiting, f.code with
  | true, none, .mk tag act :: _ => s.lineLetter ⟨.task t, some home⟩ f.frame tag act
  | _, _, _ => none

/-- The letter that a worker hands over next at some point of its slice. -/
def sliceLetter (s : State) (home : RuntimeId) : Option Slice → Option Letter
  | some (.task t .polling) =>
    match (s.tasks.get? t).bind Task.fiber, s.unwinding with
    | some f, none => s.bodyLetter home t f
    | _, _ => none
  | some (.drain a _ (.handling (.mk tag act :: _) frame _)) =>
    s.lineLetter ⟨.actor a, some home⟩ frame tag act
  | _ => none

/-- The letter that the next step of the machine hands over. -/
def letter? (s : State) : Option Letter :=
  match s.agenda, s.active with
  | [], some (home, _) => s.sliceLetter home (s.slice home)
  | _, _ => none

/-- The line that runs next is one of a handler of an actor. -/
def InHandler (s : State) (a : ActorId) : Prop :=
  ∃ r code reply, s.thread = some r ∧ s.Handling r a code reply

end State

/-- A transition hands a letter over, and the line reports what came of it. -/
inductive Posts (l : Letter) (report : Report) (s : State) : Desk → State → Desk → Prop where
  /-- In the body of a task or in a handler. -/
  | step {d : Desk} (next : s.letter? = some l) (told : (l.reaction s).result = .ok report) :
      Posts l report s d s.step d
  /-- On the main thread. -/
  | main {tag : Tag} {act : Act} (rests : s.resting = true)
      (reads : s.lineLetter { who := .main } [] tag act = some l)
      (told : (l.reaction s).result = .ok report) :
      Posts l report s .clear (State.begin (l.reaction s)) (.frame (l.reaction s).frame)

/-- A state is left by a letter, as far as actors, calls and queues can tell. -/
structure Leaves (x s' : State) : Prop where
  /-- The actors. -/
  actors : s'.actors = x.actors
  /-- The calls. -/
  calls : s'.calls = x.calls
  /-- The queues. -/
  queue : ∀ r, s'.queue r = x.queue r

variable {s s' : State} {d d' : Desk} {c : Context} {frame : Frame} {tag : Tag} {act : Act}
  {l : Letter} {report : Report} {a : ActorId} {home : RuntimeId} {t : TaskId} {f : Fiber}

/-! ### What a line does -/

/-- What the letter of a line comes to is what the line does. -/
theorem State.plain?_letter (reads : s.lineLetter c frame tag act = some l) :
    s.plain? c frame tag act = some (l.reaction s) ∧ l.context = c ∧ l.frame = frame ∧
      l.tag = tag ∧ s.findActor? tag.target = some l.actor := by
  unfold lineLetter at reads
  split at reads
  · obtain ⟨a, found, rfl⟩ := Option.map_eq_some_iff.1 reads
    exact ⟨rfl, rfl, rfl, rfl, found⟩
  · obtain ⟨a, found, rfl⟩ := Option.map_eq_some_iff.1 reads
    exact ⟨rfl, rfl, rfl, rfl, found⟩
  · cases reads

theorem Letter.runLine (reads : s.lineLetter ⟨.task t, some home⟩ f.frame tag act = some l)
    (told : (l.reaction s).result = .ok report) :
    s.runLine home t f tag act = {
      state := (l.reaction s).state, fiber := { f with frame := (l.reaction s).frame },
      after := (l.reaction s).after ++ tag.tells (.task t) report } := by
  have plain := (State.plain?_letter reads).1
  cases act with
  | call | send =>
    unfold State.runLine
    simp only [plain, told]
  | _ => cases reads

theorem Letter.handlerLine {code : List Line}
    (reads : s.lineLetter ⟨.actor a, some home⟩ frame tag act = some l)
    (told : (l.reaction s).result = .ok report) :
    s.handlerLine home a code frame tag act = {
      state := (l.reaction s).state, code := code, frame := (l.reaction s).frame,
      after := (l.reaction s).after ++ tag.tells (.actor a) report } := by
  have plain := (State.plain?_letter reads).1
  cases act with
  | call | send =>
    unfold State.handlerLine
    simp only [State.onState?, plain, told]
  | _ => cases reads

namespace Leaves

variable {x : State}

theorem of_same (actors : s'.actors = x.actors) (calls : s'.calls = x.calls)
    (runtimes : s'.runtimes = x.runtimes) : Leaves x s' :=
  ⟨actors, calls, fun r => by rw [State.queue, State.queue, runtimes]⟩

theorem setSlice (h : Leaves x s') (home : RuntimeId) (y : Option Slice) :
    Leaves x (s'.setSlice home y) :=
  ⟨h.actors, h.calls, fun r => by
    rw [← h.queue r]
    have same : ((s'.setSlice home y).runtimes.get? r).map Runtime.queue =
        (s'.runtimes.get? r).map Runtime.queue := Store.map_get?_modify_same fun _ => rfl
    rw [State.queue, State.queue, same]⟩

end Leaves

/-- What the step does that hands a letter over. -/
structure Steps (l : Letter) (s : State) : Prop where
  /-- Nothing else is to be done before. -/
  idle : s.agenda = []
  /-- The line belongs to the runtime of the worker. -/
  home : l.context.home = s.thread
  /-- It belongs to the handler that the worker is in. -/
  handles : ∀ a, l.context.actor = some a ↔ s.InHandler a
  /-- The worker is at work. -/
  thread : s.thread ≠ none
  /-- The actor is known by its name. -/
  found : s.findActor? l.tag.target = some l.actor
  /-- The letter comes to what it comes to. -/
  leaves : ∀ report, (l.reaction s).result = .ok report → Leaves (l.reaction s).state s.step
  /-- Then the result is told. -/
  tells : ∀ report, (l.reaction s).result = .ok report →
    s.step.agenda = (l.reaction s).state.agenda ++
      ((l.reaction s).after ++ l.tag.tells l.context.who report)

/-- A body hands a letter over. -/
theorem Steps.of_body {goal : Goal} {task : Task} (idle : s.agenda = [])
    (active : s.active = some (home, goal)) (during : s.slice home = some (.task t .polling))
    (found : s.tasks.get? t = some task) (stored : task.fiber = some f) (calm : s.unwinding = none)
    (next : s.bodyLetter home t f = some l) : Steps l s := by
  have thread : s.thread = some home := by rw [State.thread, active]; rfl
  have step := State.step_body idle active during found stored calm
  unfold State.bodyLetter at next
  split at next
  · rename_i tag act rest begun free code
    obtain ⟨plain, context, -, same, actor⟩ := State.plain?_letter next
    have turn : s.bodyStep home t f =
        (s.runLine home t { f with code := rest } tag act).takeEffect home t := by
      rw [State.bodyStep, if_neg (by rw [begun]; decide), free, code]
    have line : ∀ report, (l.reaction s).result = .ok report → _ := fun report =>
      Letter.runLine (f := { f with code := rest }) next
    refine ⟨idle, by rw [context, thread], fun a => ?_, by simp [thread], by rw [same, actor],
      fun report told => ?_, fun report told => ?_⟩
    · -- the worker is in a task, so in no handler
      rw [context]
      refine ⟨fun none => (by cases none), ?_⟩
      rintro ⟨r, code, reply, here, handled, frame, slice⟩
      cases thread.symm.trans here
      cases during.symm.trans slice
    · rw [step, turn, line report told]
      exact .of_same rfl rfl rfl
    · rw [step, turn, line report told, context, same]
      rfl
  · cases next

/-- A handler hands a letter over. -/
theorem Steps.of_handler {goal : Goal} {handled : Nat} {rest : List Line} {reply : Option CallId}
    (idle : s.agenda = []) (active : s.active = some (home, goal))
    (during : s.slice home =
      some (.drain a handled (.handling (.mk tag act :: rest) frame reply)))
    (next : s.lineLetter ⟨.actor a, some home⟩ frame tag act = some l) : Steps l s := by
  have thread : s.thread = some home := by rw [State.thread, active]; rfl
  obtain ⟨plain, context, -, same, actor⟩ := State.plain?_letter next
  have step : s.step = s.handlerStep home a handled (.mk tag act :: rest) frame reply := by
    obtain ⟨rt, built, slice⟩ := State.slice_eq during
    simp only [State.step, idle, active, State.work, built, slice, State.drainStep]
  refine ⟨idle, by rw [context, thread], fun b => ?_, by simp [thread], by rw [same, actor],
    fun report told => ?_, fun report told => ?_⟩
  · -- a worker is in one handler at a time
    rw [context]
    constructor
    · intro mine
      cases mine
      exact ⟨home, _, reply, thread, handled, frame, during⟩
    · rintro ⟨r, code, reply, here, handled, frame, slice⟩
      cases thread.symm.trans here
      cases during.symm.trans slice
      rfl
  · rw [step, State.handlerStep, Letter.handlerLine next told]
    refine .setSlice ?_ _ _
    exact .of_same rfl rfl rfl
  · rw [step, State.handlerStep, Letter.handlerLine next told, context, same]
    rfl

theorem State.step_letter (next : s.letter? = some l) : Steps l s := by
  unfold letter? at next
  split at next
  · rename_i home goal idle active
    unfold sliceLetter at next
    split at next
    · rename_i t during
      split at next
      · rename_i f stored calm
        obtain ⟨task, found, stored⟩ := Option.bind_eq_some_iff.1 stored
        exact .of_body idle active during found stored calm next
      · cases next
    · rename_i during
      exact .of_handler idle active during next
    · cases next
  · cases next

/-! ### What a transition does -/

theorem Posts.transition (h : Posts l report s d s' d') : Transition s d s' d' := by
  cases h with
  | step => exact .step
  | main rests reads told =>
    exact .move rests (.line (State.plain?_letter reads).1)

/-- A line belongs to the runtime of the thread that it runs on, if that is a worker. -/
theorem Posts.thread (h : Posts l report s d s' d') : l.context.home = s.thread := by
  cases h with
  | step next => exact (State.step_letter next).home
  | main rests reads =>
    rw [(State.plain?_letter reads).2.1, State.thread]
    rw [State.still_of_resting rests]
    rfl

/-- A line belongs to the handler of an actor if that is what the worker is in. -/
theorem Posts.handles (h : Posts l report s d s' d') (a : ActorId) :
    l.context.actor = some a ↔ s.InHandler a := by
  cases h with
  | step next => exact (State.step_letter next).handles a
  | main rests reads =>
    rw [(State.plain?_letter reads).2.1]
    refine ⟨fun none => (by cases none), ?_⟩
    rintro ⟨r, code, reply, here, -⟩
    simp [State.thread, State.still_of_resting rests] at here

theorem Posts.found (h : Posts l report s d s' d') : s.findActor? l.tag.target = some l.actor := by
  cases h with
  | step next => exact (State.step_letter next).found
  | main rests reads =>
    obtain ⟨-, -, -, same, found⟩ := State.plain?_letter reads
    rw [same, found]

/-- A letter always comes to something. -/
theorem Letter.reports (found : s.findActor? l.tag.target = some l.actor) :
    ∃ report, (l.reaction s).result = .ok report := by
  unfold Letter.reaction
  split
  · exact ⟨_, by rw [State.bindCall, found]; rfl⟩
  · unfold State.send
    rw [found]
    dsimp only
    split
    · exact ⟨_, rfl⟩
    · exact ⟨_, rfl⟩

/-- A step that comes to a letter hands it over. -/
theorem State.posts (next : s.letter? = some l) (d : Desk) :
    ∃ report, Posts l report s d s.step d := by
  obtain ⟨report, told⟩ := Letter.reports (State.step_letter next).found
  exact ⟨report, .step next told⟩

theorem Posts.told (h : Posts l report s d s' d') : (l.reaction s).result = .ok report := by
  cases h with
  | step _ told => exact told
  | main _ _ told => exact told

/-- **A letter comes to what it comes to**, whoever hands it over. -/
theorem Posts.leaves (h : Posts l report s d s' d') : Leaves (l.reaction s).state s' := by
  cases h with
  | step next told => exact (State.step_letter next).leaves report told
  | main => exact .of_same rfl rfl rfl

end Nursery
