import Nursery.Proofs.Invariant.Kinship
import Nursery.Proofs.Invariant.Wakeful

/-!
# Every reachable state is sound

The invariants hold in the first state and are kept by every step of the machine, by every move of
the main thread and by every stray wake, so they hold in every state that some run gets to.

* `State.step_cases` : a step does an item of the agenda, or a worker does the next thing.
* `Sound` : all invariants together.
* `Reachable.sound` : a reachable state is sound.
-/

namespace Nursery

variable {s s' : State} {d d' : Desk} {a : Action} {home : RuntimeId} {goal : Goal}

theorem State.idle_of_resting (rests : s.resting = true) : s.agenda = [] := by
  simp only [resting, Bool.and_eq_true, List.isEmpty_iff] at rests
  exact rests.1

theorem State.still_of_resting (rests : s.resting = true) : s.active = none := by
  rw [resting, Bool.and_eq_true, Option.isNone_iff_eq_none] at rests
  exact rests.2

/-- What the machine does next. -/
inductive Next (s : State) : State → Prop where
  /-- It does the first item of the agenda. -/
  | item {a : Action} {s₀ s' : State} (first : s = s₀.doFirst [a]) (e : Effect s₀ a s') : Next s s'
  /-- The worker that was let go on does the next thing. -/
  | work {home : RuntimeId} {goal : Goal} {s' : State} (idle : s.agenda = [])
      (active : s.active = some (home, goal)) (w : Work s home s') : Next s s'
  /-- It rests. -/
  | rest (rests : s.resting = true) : Next s s

/-- The machine does nothing else. -/
theorem State.step_cases (own : s.WaitsOnOwn) : Next s s.step := by
  unfold step
  split
  · rename_i action rest agenda
    have e : Effect { s with agenda := rest } action ({ s with agenda := rest }.perform action) :=
      perform_effect action
    exact .item (by simp [doFirst, ← agenda]) e
  · rename_i home goal agenda active
    exact .work agenda active (work_cases agenda own goal)
  · rename_i agenda active
    exact .rest (by simp [resting, agenda, active])

/-- All invariants together. -/
structure Sound (s : State) (d : Desk) : Prop where
  /-- Every record is listed once and under a name of its own. -/
  formed : Formed s
  /-- Every runtime that something names was built. -/
  housed : Housed s
  /-- No resource has two owners. -/
  own : Own s d.resources []
  /-- Nobody refers to a task that goes. -/
  tether : Tether s
  /-- The queues, the workers and the phases agree. -/
  dispatch : Dispatch s
  /-- Parents and children agree. -/
  kinship : Kinship s
  /-- A panic silences nobody. -/
  hushed : Hushed s
  /-- Whoever waits will be woken. -/
  wakeful : Wakeful s

namespace Sound

theorem init : Sound {} .clear where
  formed := .init
  housed := .init
  own := .init
  tether := .init
  dispatch := .init
  kinship := .init
  hushed := .init
  wakeful := .init

theorem effect (e : Effect s a s') (h : Sound (s.doFirst [a]) d) : Sound s' d := by
  have formed : Formed s := { h.formed with }
  have housed : Housed s := { h.housed with }
  refine {
    formed := formed.effect e
    housed := housed.effect e
    own := h.own.effect formed ?_ e
    tether := h.tether.effect formed h.own e
    dispatch := h.dispatch.effect formed h.tether e
    kinship := h.kinship.effect formed e
    hushed := h.hushed.effect e
    wakeful := h.wakeful.effect formed h.own h.tether h.hushed e }
  rintro t task rfl found
  exact (h.tether.buried t List.mem_cons_self).handle task found

theorem work (idle : s.agenda = []) (active : s.active = some (home, goal)) (w : Work s home s')
    (h : Sound s d) : Sound s' d where
  formed := h.formed.work h.dispatch.known w
  housed := h.housed.work h.formed w
  own := h.own.work h.formed w
  tether := h.tether.work h.formed h.own h.dispatch.known idle w
  dispatch := h.dispatch.work h.formed w
  kinship := h.kinship.work h.formed h.dispatch w
  hushed := .work h.formed idle active w
  wakeful := h.wakeful.work h.formed h.dispatch h.own idle w

/-- A step of the machine keeps the invariants. -/
theorem step (h : Sound s d) : Sound s.step d := by
  have next := State.step_cases h.wakeful.waitsOnOwn
  generalize s.step = s' at next
  cases next with
  | item first e =>
    subst first
    exact h.effect e
  | work idle active w => exact h.work idle active w
  | rest => exact h

theorem move (rests : s.resting = true) (m : Move s d s' d') (h : Sound s d) : Sound s' d' := by
  have idle := State.idle_of_resting rests
  exact {
    formed := h.formed.move idle m
    housed := h.housed.move h.formed idle m
    own := h.own.move h.formed idle m
    tether := h.tether.move h.formed idle m h.own
    dispatch := h.dispatch.move h.formed h.housed idle m
    kinship := h.kinship.move h.formed idle m
    hushed := .move h.formed idle m
    wakeful := h.wakeful.move h.formed h.dispatch idle m h.own }

theorem stray (idle : s.agenda = []) (t : TaskId) (h : Sound s d) :
    Sound (s.doFirst [.wake (.task t)]) d where
  formed := { h.formed with }
  housed := { h.housed with }
  own := h.own.doFirst rfl
  tether := {
    buried := fun u hb => by simp [State.doFirst, idle] at hb
    signals := fun g signal u found waits => (h.tether.signals g signal u found waits).doFirst _
    calls := h.tether.calls
    leaving := fun u hw => by simp [State.doFirst, idle] at hw
    reporting := fun u hw => by simp [State.doFirst, idle] at hw }
  dispatch := h.dispatch.doFirst _
  kinship := h.kinship.doFirst fun a ha => by
    rw [List.mem_singleton.1 ha]
    exact trivial
  hushed := .of_line ((State.OfLine.idle idle).doFirst (by simp [Action.ofLine]))
    (.doFirst_idle idle (by simp))
  wakeful := h.wakeful.doFirst _

end Sound

/-- **Every reachable state is sound.** -/
theorem Reachable.sound (h : Reachable s d) : Sound s d := by
  induction h with
  | init => exact .init
  | next _ t ih =>
    cases t with
    | step => exact ih.step
    | stray idle => exact ih.stray idle _
    | move rests m => exact ih.move rests m

end Nursery
