import Nursery.Proofs.Delivery.Parcel
import Nursery.Proofs.Group.Look

/-!
# How a body comes to its end

A body comes to its end in a turn: it returns, or it panics.  Where a panic goes on in it that a
destructor has raised, the worker ends it instead.

* `Turn.ending?` : how a turn ends its body.
* `EndsBody` : the own turn of a body ends it.
* `Sound.lastTurn` : the last turn of a body, with what it leaves to be dropped.
* `Transition.endsBody` : **no body in which nothing panics is over without one.**
-/

namespace Nursery

/-- How a turn ends its body. -/
def Turn.ending? (turn : Turn) : Option Ending :=
  match turn.flow with
  | .finish result => some (.returned result)
  | .panic message _ => some (.panicked message)
  | .next | .suspend | .pause _ => none

/-- The panic that the end of a body comes with. -/
def Ending.raised : Ending → Option String
  | .returned _ => none
  | .panicked message => some message

/-- The body of a task ends in a transition: nothing panics in it yet, and its own turn ends it. -/
inductive EndsBody (t : TaskId) (s s' : State) : Ending → Prop where
  | turn {home : RuntimeId} {task : Task} {f : Fiber} {ending : Ending}
      (runs : s.Runs home t task f) (calm : s.unwinding = none)
      (takes : s' = (s.bodyTurn home t f).takeEffect home t)
      (ends : (s.bodyTurn home t f).ending? = some ending) : EndsBody t s s' ending

variable {s s' : State} {d d' : Desk} {home r : RuntimeId} {goal : Goal} {t : TaskId} {task : Task}
  {f : Fiber} {ending : Ending} {past : List State}

theorem Turn.ending?_of_slice {turn : Turn}
    (inside : ∀ ending, turn.state.slice home ≠ some (.task t (.ended ending)))
    (after : (turn.takeEffect home t).slice home = some (.task t (.ended ending))) :
    turn.ending? = some ending := by
  obtain ⟨x, f, as, flow⟩ := turn
  -- what the worker is at when the turn has taken effect
  have at_end : ∀ {y : State} {slice : Slice}, (y.setSlice home (some slice)).slice home =
      some (.task t (.ended ending)) → slice = .task t (.ended ending) := by
    intro y slice now
    rcases State.slice_setSlice now with ⟨-, new⟩ | ⟨other, -⟩
    · exact Option.some.inj new
    · exact absurd rfl other
  cases flow with
  | next => exact absurd after (inside ending)
  | suspend => cases at_end after
  | finish result => cases at_end after; rfl
  | panic message owned => cases at_end after; rfl
  | pause later =>
    refine absurd ?_ (inside ending)
    rw [← after]
    exact (State.slice_modifyRuntime_same home fun _ => by rfl).symm

/-- The last turn of a body goes on panicking, or panics itself. -/
theorem Turn.unwinding_takeEffect {turn : Turn} (ends : turn.ending? = some ending) :
    (turn.takeEffect home t).unwinding = ending.raised.or turn.state.unwinding := by
  obtain ⟨x, f, after, flow⟩ := turn
  cases flow with
  | next | suspend | pause => cases ends
  | finish result => cases ends; rfl
  | panic message owned => cases ends; rfl

theorem State.slice_endPending (s : State) (home : RuntimeId) (t : TaskId) :
    (s.endPending home t).slice home = none := by
  have gone : ∀ slice, (s.setSlice home none).slice home ≠ some slice := by
    intro slice now
    rcases State.slice_setSlice now with ⟨-, new⟩ | ⟨other, -⟩
    · cases new
    · exact other rfl
  have free := Option.eq_none_iff_forall_ne_some.2 gone
  unfold State.endPending
  dsimp only
  split
  · exact free
  · split
    · rw [Effect.slice_enqueue]
      exact free
    · exact free

/-- A panic goes on in a body, at the beginning of its slice or at the end. -/
theorem State.step_unwound {message : String} (idle : s.agenda = [])
    (active : s.active = some (home, goal)) (runs : s.Runs home t task f)
    (raised : s.unwinding = some message) :
    s.step = ({ state := s, fiber := f, flow := .panic message [] } : Turn).takeEffect home t := by
  have bound : (s.tasks.get? t).bind Task.fiber = some f := by
    rw [runs.found, Option.bind_some, runs.fiber]
  rcases runs.slice with polling | suspending
  · obtain ⟨rt, built, slice⟩ := State.slice_eq polling
    simp only [State.step, idle, active, State.work, built, slice, State.taskStep, runs.found,
      runs.fiber, raised]
  · obtain ⟨rt, built, slice⟩ := State.slice_eq suspending
    simp only [State.step, idle, active, State.work, built, slice, State.taskStep, bound, raised]

/-- The end of a body comes with a turn: one of its own, or the one in which a panic goes on. -/
theorem Sound.lastTurn (sound : Sound s d) (idle : s.agenda = [])
    (active : s.active = some (home, goal)) (runs : s.Runs home t task f)
    (after : s.step.slice home = some (.task t (.ended ending))) :
    ∃ turn : Turn, turn.Fits ⟨.task t, some home⟩ s f.resources t ∧
      s.step = turn.takeEffect home t ∧ turn.ending? = some ending ∧
      (s.unwinding = none ∧ turn = s.bodyTurn home t f ∨
        ∃ message, s.unwinding = some message ∧ ending = .panicked message) := by
  have inside : ∀ ending, s.slice home ≠ some (.task t (.ended ending)) := by
    intro ending now
    rcases runs.slice with polling | suspending
    · cases polling.symm.trans now
    · cases suspending.symm.trans now
  have own : ∀ w, f.waiting = some w → w.wait.OnOwn f.resources := fun w waits =>
    sound.wakeful.waitsOnOwn t task f w runs.found runs.fiber waits
  -- a panic that goes on ends the body, whatever its next line is
  cases calm : s.unwinding with
  | some message =>
    have step := State.step_unwound idle active runs calm
    rw [step] at after
    cases Turn.ending?_of_slice inside after
    exact ⟨_, State.unwind_fits own, step, rfl, .inr ⟨message, rfl, rfl⟩⟩
  | none =>
    rcases runs.slice with polling | suspending
    · have step := State.step_body idle active polling runs.found runs.fiber calm
      cases begun : f.begun with
      | false =>
        rw [step, State.bodyStep, if_pos begun] at after
        cases polling.symm.trans after
      | true =>
        have takes := step.trans (State.bodyStep_eq begun)
        have fits := (State.bodyTurn_fits idle polling runs.found runs.fiber calm own begun).1
        refine ⟨_, fits, takes, Turn.ending?_of_slice (fun ending now => ?_) (takes ▸ after),
          .inl ⟨rfl, rfl⟩⟩
        have same : (s.bodyTurn home t f).state.slice home = s.slice home :=
          (fits.changes.keeps sound.formed).slice home
        exact inside ending (same.symm.trans now)
    · obtain ⟨rt, built, slice⟩ := State.slice_eq suspending
      have bound : (s.tasks.get? t).bind Task.fiber = some f := by
        rw [runs.found, Option.bind_some, runs.fiber]
      have step : s.step = s.endPending home t := by
        simp only [State.step, idle, active, State.work, built, slice, State.taskStep, bound, calm]
      rw [step, State.slice_endPending] at after
      cases after

/-- A worker comes to the end of a body while it is at work on that. -/
theorem Transition.atWork (sound : Sound s d) (tr : Transition s d s' d')
    (before : s.slice r ≠ some (.task t (.ended ending)))
    (after : s'.slice r = some (.task t (.ended ending))) :
    s' = s.step ∧ s.agenda = [] ∧ ∃ goal task f, s.active = some (r, goal) ∧ s.Runs r t task f := by
  have same : ∀ {P : Prop}, s'.slice r = s.slice r → P := fun same =>
    absurd (same.symm.trans after) before
  cases tr with
  | step =>
    have next := State.step_cases sound.wakeful.waitsOnOwn
    generalize now : s.step = s' at next after same
    cases next with
    | item first e =>
      subst first
      exact same (e.slice r)
    | @work home goal s' idle active w =>
      by_cases mine : home = r
      · subst mine
        subst now
        rcases w.keeping sound.formed ⟨home, ending, after⟩ with ⟨q, e, during⟩ | ⟨task, f, runs⟩
        · exfalso
          by_cases here : q = home
          · -- the worker keeps the end, and goes on with the children
            subst here
            obtain ⟨trace, cancelled, eq⟩ := s.endBody_eq q t (State.endingOf s.unwinding e)
            rw [State.step_ended idle active during, eq] at after
            have joining : (s.setSlice q (some (.task t .joining))).slice q =
                some (.task t .joining) := State.slice_setSlice_self during
            cases joining.symm.trans after
          · have still := (w.slice_of_ne sound.formed (Ne.symm here)).trans during
            exact here (sound.step.dispatch.one_slice still after)
        · exact ⟨rfl, idle, goal, task, f, active, runs⟩
      · exact same (w.slice_of_ne sound.formed mine)
    | rest => exact same rfl
  | stray => exact same rfl
  | move rests m => exact same (m.slice sound.formed (State.idle_of_resting rests) r)

/-- **A body in which nothing panics is over when its own turn has ended it.** -/
theorem Transition.endsBody (sound : Sound s d) (tr : Transition s d s' d')
    (before : s.slice r ≠ some (.task t (.ended ending)))
    (after : s'.slice r = some (.task t (.ended ending))) (calm : s.unwinding = none) :
    EndsBody t s s' ending ∧ s'.unwinding = ending.raised := by
  obtain ⟨rfl, idle, goal, task, f, active, runs⟩ := tr.atWork sound before after
  obtain ⟨turn, fits, takes, ends, ⟨-, rfl⟩ | ⟨message, raised, -⟩⟩ :=
    sound.lastTurn idle active runs after
  · have same : (s.bodyTurn r t f).state.unwinding = s.unwinding :=
      (fits.changes.keeps sound.formed).unwinding
    refine ⟨.turn runs calm takes ends, ?_⟩
    rw [takes, Turn.unwinding_takeEffect ends, same, calm, Option.or_none]
  · cases calm.symm.trans raised

theorem State.ends_of_mem_endings {e : Ending} (kept : e ∈ State.endings t s s') :
    ∃ r goal ending, s.active = some (r, goal) ∧ s.slice r = some (.task t (.ended ending)) ∧
      e = State.endingOf s.unwinding ending := by
  unfold State.endings at kept
  split at kept
  · rename_i r thread
    obtain ⟨⟨_, goal⟩, active, rfl⟩ := Option.map_eq_some_iff.1 thread
    generalize during : s.slice _ = x at kept
    generalize s'.slice _ = y at kept
    unfold Slice.endings at kept
    split at kept
    · rename_i u ending _
      split at kept
      · rename_i mine
        subst mine
        exact ⟨_, goal, ending, active, during, List.mem_singleton.1 kept⟩
      · cases kept
    · cases kept
  · cases kept

end Nursery
