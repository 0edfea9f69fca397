import Nursery.Proofs.Invariant.Sound

/-!
# Where a worker may stand still

A worker that was not let go on is in no slice, or it was paused inside a line of a body or of a
handler.  So between two moves of the main thread no slice is at any other stage.

* `Slice.inLine` : a line is running.
* `Halted` : the invariant.
* `Reachable.halted` : it holds in every reachable state.
-/

namespace Nursery

/-- A line of a body or of a handler is running. -/
def Slice.inLine : Slice → Bool
  | .task _ .polling | .drain _ _ (.handling ..) => true
  | _ => false

/-- A worker that was not let go on is in no slice, or a line is running in it. -/
def Halted (s : State) : Prop :=
  ∀ r slice, s.slice r = some slice → (∀ goal, s.active ≠ some (r, goal)) → slice.inLine = true

variable {s s' : State} {d d' : Desk} {home r : RuntimeId} {goal : Goal}

theorem Work.slice_of_ne (formed : Formed s) (w : Work s home s') (hr : home ≠ r) :
    s'.slice r = s.slice r := by
  have moved : ∀ {x : State} {f : Runtime → Runtime}, (x.modifyRuntime home f).slice r =
      x.slice r := State.slice_modifyRuntime_of_ne hr
  have queued : ∀ (x : State) (h : RuntimeId) (p : Priority) (e : Entry),
      (x.enqueue h p e).slice r = x.slice r := fun _ h p e => Effect.slice_enqueue h p e r
  cases w with
  | stop => rfl
  | lost | rest | forgotten | endBody | leave | drained | reply => exact moved
  | next _ _ changes => exact (changes.keeps formed).slice r
  | suspend _ _ changes | ends _ _ changes | pause _ _ _ changes | handle _ changes
  | handled _ _ changes => exact moved.trans ((changes.keeps formed).slice r)
  | hold _ _ changes => exact moved.trans (moved.trans ((changes.keeps formed).slice r))
  | again => exact (queued _ _ _ _).trans moved
  | complete => exact moved
  | receive => exact moved
  | drainAgain => exact (queued _ _ _ _).trans moved
  | begin | beginDrain => exact moved.trans moved
  | refuse | markerStop | markerSkip => exact moved
  | markerAgain => exact (queued _ _ _ _).trans moved

/-- A worker goes on, or stops in no slice, or inside a line. -/
theorem Work.halts (formed : Formed s) (active : s.active = some (home, goal))
    (w : Work s home s') :
    (∃ goal', s'.active = some (home, goal')) ∨
      ∀ slice, s'.slice home = some slice → slice.inLine = true := by
  have queued : ∀ (x : State) (h : RuntimeId) (p : Priority) (e : Entry),
      (x.enqueue h p e).active = x.active := fun _ h p e => (Keeps.enqueue h p e).active
  cases w with
  | stop _ free =>
    refine .inr fun slice during => ?_
    cases free.symm.trans during
  | lost | rest | forgotten | endBody | complete | leave | receive | drained | reply | begin
  | refuse | beginDrain | markerSkip => exact .inl ⟨goal, active⟩
  | next _ _ changes | suspend _ _ changes | ends _ _ changes | handle _ changes
  | handled _ _ changes => exact .inl ⟨goal, (changes.keeps formed).active.trans active⟩
  | pause _ _ polling changes =>
    refine .inr fun slice during => ?_
    have same := (State.slice_modifyRuntime_same _ fun _ => by rfl).symm.trans during
    cases (polling.symm.trans ((changes.keeps formed).slice home).symm).trans same
    rfl
  | @hold a handled code code' frame frame' reply s₁ later =>
    refine .inr fun slice during => ?_
    have same := (State.slice_modifyRuntime_same _ fun _ => by rfl).symm.trans during
    rcases State.slice_setSlice (s := s₁) same with ⟨-, now⟩ | ⟨other, -⟩
    · cases now
      rfl
    · exact absurd rfl other
  | again | drainAgain => exact .inl ⟨goal, (queued _ _ _ _).trans active⟩
  | @markerStop serial queue takes =>
    obtain ⟨rt, found, free, -, -⟩ := takes.found
    have popped : (s.popped home queue).slice home = s.slice home :=
      State.slice_modifyRuntime_same _ fun _ => rfl
    have none : s.slice home = Option.none := by simp [State.slice, found, free]
    refine .inr fun slice during => ?_
    cases (popped.trans none).symm.trans during
  | markerAgain _ goal' => exact .inl ⟨goal', rfl⟩

theorem Move.slice (formed : Formed s) (idle : s.agenda = []) (m : Move s d s' d') (r : RuntimeId) :
    s'.slice r = s.slice r := by
  have started : ∀ (x : State) (h : RuntimeId) (g : Goal), (x.start h g).slice r = x.slice r := by
    intro x h g
    obtain ⟨trace, eq⟩ := x.start_eq h g
    rw [eq]
    exact State.slice_modifyRuntime_same h fun _ => by rfl
  cases m with
  | build place batch stem =>
    rcases s.build_cases place batch stem with same | ⟨-, settings, built⟩
    · rw [same]
    · rw [built]
      have fresh : s.runtimes.get? ⟨s.runtimes.size⟩ = none :=
        formed.runtimes.fresh (k := ⟨s.runtimes.size⟩) rfl
      by_cases new : (⟨s.runtimes.size⟩ : RuntimeId) = r
      · subst new
        simp [State.slice, State.install, Store.get?_set_self, fresh]
      · simp [State.slice, State.install, Store.get?_set_of_ne new]
  | start | block | join => exact started _ _ _
  | @startRounds _ home _ rounds band =>
    exact (started _ _ _).trans
      (Effect.slice_enqueue (s := { s with markers := s.markers + 1 }) home
      band (.marker (s.markers + 1)) r)
  | @launchRoot _ home _ body =>
    have keeps : Keeps s (s.launchRoot home body) := .launch formed _ _ _ _ _
    exact keeps.slice r
  | leaveRoot => rfl
  | @close _ home => exact State.slice_modifyRuntime_same home fun _ => by rfl
  | line plain => exact ((State.plain?_fits idle plain).keeps formed).slice r
  | @shelve f =>
    exact ((State.shelve_changes (c := { who := .main }) f s []).keeps formed).slice r

namespace Halted

theorem init : Halted {} := by
  intro r slice during
  simp [State.slice, Store.get?, Store.lookup] at during

theorem step (sound : Sound s d) (h : Halted s) : Halted s.step := by
  have next := State.step_cases sound.wakeful.waitsOnOwn
  generalize s.step = s' at next
  intro r slice during still
  cases next with
  | item first e =>
    subst first
    exact h r slice ((e.slice r).symm.trans during) fun goal now => still goal (e.active.trans now)
  | @work home goal _ idle active w =>
    by_cases hr : home = r
    · subst hr
      rcases w.halts sound.formed active with ⟨goal', goes⟩ | halts
      · exact absurd goes (still goal')
      · exact halts slice during
    · refine h r slice ((w.slice_of_ne sound.formed hr).symm.trans during) fun goal' now => ?_
      cases active.symm.trans now
      exact hr rfl
  | rest => exact h r slice during still

theorem move (sound : Sound s d) (rests : s.resting = true) (m : Move s d s' d') (h : Halted s) :
    Halted s' := by
  intro r slice during _
  have still := State.still_of_resting rests
  have same := m.slice sound.formed (State.idle_of_resting rests) r
  refine h r slice (same.symm.trans during) fun goal => ?_
  simp [still]

end Halted

/-- **In every reachable state** a worker that was not let go on stands still inside a line. -/
theorem Reachable.halted (h : Reachable s d) : Halted s := by
  induction h with
  | init => exact .init
  | next h t ih =>
    cases t with
    | step => exact ih.step h.sound
    | stray => exact ih
    | move rests m => exact ih.move h.sound rests m

end Nursery
