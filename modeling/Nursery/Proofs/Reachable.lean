import Nursery.Machine.Session
import Mathlib.Logic.Relation

/-!
# Reachable states

The machine runs by itself until it rests; then the main thread makes a move.  A line of the main
thread leaves a frame that is shelved only when the machine rests again, a blocked main thread
holds the handle of the root task, and a runtime that is dropped is waited for.  What the main
thread has in hand between two moves is its *desk*.

* `Desk`, `Move` : the moves of the main thread, each from a machine that rests.
* `Transition` : a step of the machine, a move, or a stray wake.
* `Reachable` : a state that some run gets to, whatever the moves and their order.
* `Leads` : one state is reached from another.
* `reachable_run` : the machine itself only reaches such states.
* `enlist`, `reachable_blocked` : the main thread spawns a root task, or blocks on one.
* `family` : a run with a parent and a child.
-/

namespace Nursery

/-- What the main thread has in hand between two moves. -/
inductive Desk where
  /-- Nothing. -/
  | clear
  /-- The frame of the line that it has run. -/
  | frame (f : Frame)
  /-- The handle of the root task on which it blocks. -/
  | blocked (r : RuntimeId) (t : TaskId)
  /-- A runtime that it has closed and whose worker it waits for. -/
  | closing (r : RuntimeId)

/-- The resources on a desk. -/
def Desk.resources : Desk → List Resource
  | .frame f => f.resources
  | .blocked _ t => [.handle t]
  | .clear | .closing _ => []

/-- The moves of the main thread. -/
inductive Move (s : State) : Desk → State → Desk → Prop where
  /-- A runtime is built, if the place is free and the settings allow it. -/
  | build (place : Nat) (batch : Option Nat) (threadStem : Option String) :
      Move s .clear (s.build place batch threadStem).1 .clear
  /-- A worker is let go on until nothing is queued. -/
  | start {place : Nat} {r : RuntimeId} (found : s.places.get? place = some r) :
      Move s .clear (s.start r .quiet) .clear
  /-- A worker is let go on for a number of rounds of a marker. -/
  | startRounds {place : Nat} {r : RuntimeId} (found : s.places.get? place = some r)
      (rounds : Nat) (band : Priority) : Move s .clear (s.startRounds r rounds band) .clear
  /-- A root task is made, on which the main thread will block. -/
  | launchRoot {place : Nat} {r : RuntimeId} (found : s.places.get? place = some r)
      (body : List Line) : Move s .clear (s.launchRoot r body) (.blocked r s.nextNode)
  /-- The worker is let go on while the main thread blocks. -/
  | block {r : RuntimeId} {t : TaskId} :
      Move s (.blocked r t) (s.start r .blocking) (.blocked r t)
  /-- The root task has ended and the main thread takes its outcome. -/
  | leaveRoot {r : RuntimeId} {t : TaskId} (ended : (s.phase t).isTerminal = true) :
      Move s (.blocked r t) (s.leaveRoot t) .clear
  /-- A runtime leaves its place and is closed. -/
  | close {place : Nat} {r : RuntimeId} (found : s.places.get? place = some r) :
      Move s .clear ({ s with places := s.places.erase place }.close r) (.closing r)
  /-- The worker of a closed runtime comes to the end of its slice. -/
  | join {r : RuntimeId} : Move s (.closing r) (s.start r .closing) .clear
  /-- A line runs on the main thread. -/
  | line {tag : Tag} {act : Act} {reaction : Reaction}
      (plain : s.plain? { who := .main } [] tag act = some reaction) :
      Move s .clear (State.begin reaction) (.frame reaction.frame)
  /-- What the line has left moves to the shared table. -/
  | shelve {f : Frame} : Move s (.frame f) (s.shelve f) .clear

/-- A step of the machine, a move of the main thread while the machine rests, or a stray wake.
Whoever was given a waker may have kept a copy of it, so between any two things that the machine
does, a task may be woken for no reason, on whatever thread and however often. -/
inductive Transition (s : State) (d : Desk) : State → Desk → Prop where
  /-- The machine does the next thing. -/
  | step : Transition s d s.step d
  /-- A task is woken that somebody still refers to. -/
  | stray {t : TaskId} {task : Task} (idle : s.agenda = []) (found : s.tasks.get? t = some task) :
      Transition s d (s.doFirst [.wake (.task t)]) d
  /-- The main thread makes a move. -/
  | move {s' : State} {d' : Desk} (rests : s.resting = true) (m : Move s d s' d') :
      Transition s d s' d'

/-- A state that some run gets to. -/
inductive Reachable : State → Desk → Prop where
  /-- Nothing has happened yet. -/
  | init : Reachable {} .clear
  /-- One transition later. -/
  | next {s s' : State} {d d' : Desk} (h : Reachable s d) (t : Transition s d s' d') :
      Reachable s' d'

/-- One state is reached from another. -/
inductive Leads (s : State) (d : Desk) : State → Desk → Prop where
  /-- By nothing at all. -/
  | refl : Leads s d s d
  /-- By one transition more. -/
  | next {s' s'' : State} {d' d'' : Desk} (h : Leads s d s' d') (t : Transition s' d' s'' d'') :
      Leads s d s'' d''

theorem Reachable.leads {s s' : State} {d d' : Desk} (h : Reachable s d)
    (hl : Leads s d s' d') : Reachable s' d' := by
  induction hl with
  | refl => exact h
  | next _ ht ih => exact .next ih ht

theorem Leads.trans {s s' s'' : State} {d d' d'' : Desk} (h : Leads s d s' d')
    (h' : Leads s' d' s'' d'') : Leads s d s'' d'' := by
  induction h' with
  | refl => exact h
  | next _ ht ih => exact .next ih ht

theorem leads_run (limit : Nat) : ∀ (s : State) (d : Desk), Leads s d (State.run limit s) d := by
  induction limit with
  | zero => exact fun s d => .refl
  | succ limit ih =>
    intro s d
    rw [State.run]
    split
    · exact .refl
    · exact (Leads.refl.next .step).trans (ih s.step d)

theorem reachable_run {s : State} {d : Desk} (h : Reachable s d) (limit : Nat) :
    Reachable (State.run limit s) d :=
  h.leads (leads_run limit s d)

/-! ### Root tasks -/

/-- The main thread has spawned a root task under a name. -/
def enlist (s : State) (name : String) (body : List Line) : State :=
  let reaction := s.spawnOn [] ⟨"spawn", none, some name, true⟩ 0 none body
  (State.begin reaction).shelve reaction.frame

theorem Reachable.enlist (h : Reachable s .clear) (rests : s.resting = true) (name : String)
    (body : List Line) (idle : (State.begin
      (s.spawnOn [] ⟨"spawn", none, some name, true⟩ 0 none body)).resting = true) :
    Reachable (enlist s name body) .clear := by
  have line : s.plain? { who := .main } [] ⟨"spawn", none, some name, true⟩
      (.spawnOn 0 none body) = some _ := rfl
  exact (h.next (.move rests (.line line))).next (.move idle .shelve)

/-- The main thread builds a runtime and blocks on a root task. -/
theorem reachable_blocked (body : List Line) (steps : Nat) :
    Reachable (State.run steps
      (((({} : State).build 0 none none).1.launchRoot ⟨0⟩ body).start ⟨0⟩ .blocking))
      (.blocked ⟨0⟩ ⟨0⟩) := by
  have built : Reachable (({} : State).build 0 none none).1 .clear :=
    .next .init (.move rfl (.build 0 none none))
  have placed : (({} : State).build 0 none none).1.places.get? 0 = some ⟨0⟩ := by decide
  have launched : Reachable ((({} : State).build 0 none none).1.launchRoot ⟨0⟩ body)
      (.blocked ⟨0⟩ ⟨0⟩) := built.next (.move rfl (.launchRoot placed body))
  have started := launched.next (.move rfl .block)
  exact reachable_run started steps

/-! ### A family -/

/-- The body of a root task that spawns a child, which gives way once, and waits for it. -/
def familyBody : List Line :=
  [.mk ⟨"spawn", none, some "child", true⟩
    (.spawn none false [.mk ⟨"yield", none, none, true⟩ (.yieldTimes 1)]),
    .mk ⟨"await", some "child", none, true⟩ (.await true .report)]

/-- The main thread is blocked on that root task, and the machine has made a number of steps. -/
def family (steps : Nat) : State :=
  State.run steps (((({} : State).build 0 none none).1.launchRoot ⟨0⟩ familyBody).start ⟨0⟩
    .blocking)

theorem reachable_family (steps : Nat) : Reachable (family steps) (.blocked ⟨0⟩ ⟨0⟩) :=
  reachable_blocked familyBody steps

end Nursery
