import Nursery.Proofs.Invariant.Carried
import Nursery.Proofs.Invariant.Halted

/-!
# The end of a closed runtime

A runtime that is closed leaves its place and is let go on once more, to come to the end of the
slice that it was in.  It does not pause in the meantime, so when its worker has stopped it is in
no slice, and it never will be in one again.

* `Stands` : no runtime is closed and none is moved.
* `Joined` : the invariant.
* `Joined.unsliced` : a closed runtime whose worker was waited for is in no slice.
* `Reachable.joined` : the invariant holds in every reachable state.
* `Transition.built` : no runtime goes.
-/

namespace Nursery

/-- No runtime goes or is closed, and every one stays in its place. -/
structure Stands (s s' : State) : Prop where
  /-- No runtime goes. -/
  built : ∀ r, s.Built r → s'.Built r
  /-- No runtime is closed. -/
  closed : ∀ r, s'.closed r = s.closed r
  /-- Every one stays in its place. -/
  places : s'.places = s.places

/-- A closed runtime has no place, and only goes on to come to the end of its slice. -/
structure Joined (s : State) (d : Desk) : Prop where
  /-- No runtime is in two places. -/
  apart : ∀ place place' r, s.places.get? place = some r → s.places.get? place' = some r →
    place = place'
  /-- A runtime that has a place is open. -/
  placed : ∀ place r, s.places.get? place = some r → s.closed r = false
  /-- So is the one on which the main thread blocks. -/
  blocked : ∀ r t, d = .blocked r t → s.closed r = false
  /-- A closed one is let go on for one purpose only. -/
  ending : ∀ r goal, s.active = some (r, goal) → s.closed r = true → goal = .closing
  /-- If it is in a slice, that is going on or is still to be waited for. -/
  sliced : ∀ r slice, s.slice r = some slice → s.closed r = true →
    d = .closing r ∨ s.active = some (r, .closing)

variable {s s' s'' : State} {d d' : Desk} {home r : RuntimeId} {goal : Goal} {e : Action}

namespace Stands

theorem refl (s : State) : Stands s s :=
  ⟨fun _ there => there, fun _ => rfl, rfl⟩

theorem trans (h : Stands s s') (h' : Stands s' s'') : Stands s s'' :=
  ⟨fun r there => h'.built r (h.built r there), fun r => (h'.closed r).trans (h.closed r),
    h'.places.trans h.places⟩

theorem modifyRuntime (home : RuntimeId) {f : Runtime → Runtime}
    (same : ∀ rt, (f rt).closed = rt.closed) : Stands s (s.modifyRuntime home f) :=
  ⟨fun _ there => there.modifyRuntime home f, State.closed_modifyRuntime same, rfl⟩

theorem setSlice (home : RuntimeId) (slice : Option Slice) : Stands s (s.setSlice home slice) :=
  modifyRuntime home fun _ => rfl

theorem of_keeps (h : Keeps s s') : Stands s s' := by
  refine ⟨fun r there => ?_, h.closed, h.places⟩
  obtain ⟨rt, found⟩ := there
  exact h.built r rt found

theorem enqueue (h : Stands s s') (home : RuntimeId) (p : Priority) (e : Entry) :
    Stands s (s'.enqueue home p e) :=
  h.trans (of_keeps (.enqueue home p e))

theorem effect (h : Effect s e s') : Stands s s' := by
  refine ⟨fun r there => ?_, h.closed, h.places⟩
  cases h with
  | resume =>
    refine State.Built.enqueue ?_ _ _ _
    exact there
  | _ => exact there

theorem work (formed : Formed s) (w : Work s home s') : Stands s s' := by
  have line : ∀ {c : Context} {hand hand' : List Resource} {s₁ : State},
      Changes c s hand s₁ hand' → Stands s s₁ := fun hc => of_keeps (hc.keeps formed)
  have popped : ∀ queue, Stands s (s.popped home queue) := fun _ => modifyRuntime home fun _ => rfl
  have goes : ∀ slice, Stands s (s.setSlice home slice) := setSlice home
  cases w with
  | stop => exact { refl s with }
  | lost | rest | forgotten | leave | drained | endBody | complete | receive | reply =>
    exact { goes _ with }
  | next _ _ changes => exact { line changes with }
  | suspend _ _ changes | ends _ _ changes | handle _ changes | handled _ _ changes =>
    exact { (line changes).trans (setSlice home _) with }
  | pause _ _ _ changes =>
    refine { (line changes).trans (modifyRuntime home fun _ => ?_) with }
    rfl
  | hold _ _ changes =>
    refine { ((line changes).trans (setSlice home _)).trans (modifyRuntime home fun _ => ?_) with }
    rfl
  | again | drainAgain =>
    refine enqueue ?_ _ _ _
    exact { goes none with }
  | begin | beginDrain => exact { (popped _).trans (setSlice home _) with }
  | refuse | markerStop | markerSkip => exact { popped _ with }
  | markerAgain band => exact { (popped _).enqueue home band _ with }

end Stands

/-! ### Between two moves -/

theorem State.mayPause_of_closing (active : s.active = some (home, .closing)) :
    s.mayPause = false := by
  rw [mayPause, active]

/-- A worker stops in no slice, or it pauses, or it goes on for the same purpose, or it counts a
marker in an open queue. -/
theorem Work.goes (formed : Formed s) (active : s.active = some (home, goal)) (w : Work s home s') :
    s'.active = none ∧ (s'.slice home = none ∨ s.mayPause = true) ∨
      s'.active = some (home, goal) ∨
        s.closed home = false ∧ ∃ goal', s'.active = some (home, goal') := by
  cases w with
  | stop _ free => exact .inl ⟨rfl, .inl free⟩
  | lost | rest | forgotten | endBody | complete | leave | receive | drained | reply | begin
  | refuse | beginDrain | markerSkip => exact .inr (.inl active)
  | next _ _ changes | suspend _ _ changes | ends _ _ changes | handle _ changes
  | handled _ _ changes => exact .inr (.inl ((changes.keeps formed).active.trans active))
  | pause _ _ _ _ _ may | hold _ _ _ may => exact .inl ⟨rfl, .inr may⟩
  | again | drainAgain => exact .inr (.inl ((Keeps.enqueue _ _ _).active.trans active))
  | @markerStop serial queue takes =>
    have popped : (s.popped home queue).slice home = s.slice home :=
      State.slice_modifyRuntime_same home fun _ => rfl
    exact .inl ⟨rfl, .inl (popped.trans takes.free)⟩
  | markerAgain band goal' takes =>
    obtain ⟨rt, found, -, running, -⟩ := takes.found
    exact .inr (.inr ⟨by simp [State.closed, found, running], goal', rfl⟩)

namespace Joined

theorem init : Joined {} .clear where
  apart _ _ _ found := by cases found
  placed _ _ found := by cases found
  blocked _ _ none := by cases none
  ending _ _ none := by cases none
  sliced _ _ none := by cases none

theorem keep (h : Joined s d) (stands : Stands s s') (slice : ∀ r, s'.slice r = s.slice r)
    (active : s'.active = s.active) : Joined s' d where
  apart place place' r found found' := by
    rw [stands.places] at found found'
    exact h.apart place place' r found found'
  placed place r found := by
    rw [stands.places] at found
    exact (stands.closed r).trans (h.placed place r found)
  blocked r t waits := (stands.closed r).trans (h.blocked r t waits)
  ending r goal goes shut := h.ending r goal (active ▸ goes) (stands.closed r ▸ shut)
  sliced r x during shut := by
    rw [active]
    exact h.sliced r x (slice r ▸ during) (stands.closed r ▸ shut)

theorem work (formed : Formed s) (active : s.active = some (home, goal)) (w : Work s home s')
    (h : Joined s d) : Joined s' d := by
  have stands : Stands s s' := .work formed w
  have closing : s.closed home = true → goal = .closing := h.ending home goal active
  refine {
    apart := fun place place' r found found' => ?_
    placed := fun place r found => ?_
    blocked := fun r t waits => (stands.closed r).trans (h.blocked r t waits)
    ending := fun r goal' goes shut => ?_
    sliced := fun r x during shut => ?_ }
  · rw [stands.places] at found found'
    exact h.apart place place' r found found'
  · rw [stands.places] at found
    exact (stands.closed r).trans (h.placed place r found)
  · rw [stands.closed] at shut
    rcases w.goes formed active with ⟨none, -⟩ | same | ⟨running, goal'', goes'⟩
    · cases none.symm.trans goes
    · cases same.symm.trans goes
      exact closing shut
    · cases goes'.symm.trans goes
      cases running.symm.trans shut
  · rw [stands.closed] at shut
    by_cases hr : home = r
    · subst hr
      rcases w.goes formed active with ⟨-, none | may⟩ | same | ⟨running, -⟩
      · cases none.symm.trans during
      · cases (State.mayPause_of_closing (closing shut ▸ active)).symm.trans may
      · exact .inr (closing shut ▸ same)
      · cases running.symm.trans shut
    · refine .inl
        ((h.sliced r x ((w.slice_of_ne formed hr).symm.trans during) shut).resolve_right ?_)
      intro other
      cases active.symm.trans other
      exact hr rfl

theorem step (sound : Sound s d) (h : Joined s d) : Joined s.step d := by
  have next := State.step_cases sound.wakeful.waitsOnOwn
  generalize s.step = s' at next
  cases next with
  | item first e =>
    subst first
    exact h.keep (s := State.doFirst _ _) { Stands.effect e with } e.slice e.active
  | work _ active w => exact h.work sound.formed active w
  | rest => exact h

/-! ### Moves -/

/-- While no worker is let go on and none is waited for, a closed runtime is in no slice. -/
theorem unsliced (h : Joined s d) (still : s.active = none) (joined : d ≠ .closing r)
    (shut : s.closed r = true) : s.slice r = none := by
  cases during : s.slice r with
  | none => rfl
  | some x =>
    rcases h.sliced r x during shut with waits | goes
    · exact absurd waits joined
    · cases still.symm.trans goes

theorem start (h : Joined s d) (still : s.active = none) (r : RuntimeId) (goal : Goal)
    (fits : s.closed r = true → goal = .closing)
    (waited : ∀ r', d = .closing r' → r' = r ∧ goal = .closing)
    (blocked : ∀ r t, d' = .blocked r t → s.closed r = false) : Joined (s.start r goal) d' := by
  obtain ⟨trace, eq⟩ := s.start_eq r goal
  have slice : ∀ r', (s.start r goal).slice r' = s.slice r' := by
    intro r'
    rw [eq]
    exact State.slice_modifyRuntime_same r fun _ => by rfl
  have closed : ∀ r', (s.start r goal).closed r' = s.closed r' := by
    intro r'
    rw [eq]
    exact State.closed_modifyRuntime (fun _ => by rfl) r'
  have places : (s.start r goal).places = s.places := by
    rw [eq]
    rfl
  have active : (s.start r goal).active = some (r, goal) := by rw [eq]
  refine {
    apart := fun place place' r' found found' => ?_
    placed := fun place r' found => ?_
    blocked := fun r' t waits => (closed r').trans (blocked r' t waits)
    ending := fun r' goal' goes shut => ?_
    sliced := fun r' x during shut => ?_ }
  · rw [places] at found found'
    exact h.apart place place' r' found found'
  · rw [places] at found
    exact (closed r').trans (h.placed place r' found)
  · rw [closed] at shut
    cases active.symm.trans goes
    exact fits shut
  · rw [closed] at shut
    rcases h.sliced r' x ((slice r').symm.trans during) shut with waits | goes
    · obtain ⟨rfl, rfl⟩ := waited r' waits
      exact .inr active
    · cases still.symm.trans goes

theorem turn (h : Joined s d) (still : s.active = none) (before : ∀ r, d ≠ .closing r)
    (keeps : Keeps s s') (blocked : ∀ r t, d' = .blocked r t → s.closed r = false) :
    Joined s' d' where
  apart := by
    rw [keeps.places]
    exact h.apart
  placed place r found := (keeps.closed r).trans (h.placed place r (keeps.places ▸ found))
  blocked r t waits := (keeps.closed r).trans (blocked r t waits)
  ending r goal goes := by cases still.symm.trans (keeps.active.symm.trans goes)
  sliced r x during shut := by
    have none := h.unsliced still (before r) ((keeps.closed r).symm.trans shut)
    cases none.symm.trans ((keeps.slice r).symm.trans during)

theorem install (h : Joined s d) (formed : Formed s) {place : Nat}
    (free : s.places.contains place = false) (settings : Settings) :
    Joined (s.install place settings) d := by
  have fresh : s.runtimes.get? ⟨s.runtimes.size⟩ = none :=
    formed.runtimes.fresh (k := ⟨s.runtimes.size⟩) rfl
  have running : (s.install place settings).closed ⟨s.runtimes.size⟩ = false := by
    simp [State.closed, State.install, Store.get?_set_self]
  -- nobody has a place on a runtime that was not built
  have unplaced : ∀ place', s.places.get? place' ≠ some ⟨s.runtimes.size⟩ := by
    intro place' found
    have running := h.placed place' _ found
    simp [State.closed, fresh] at running
  have runtimes : ∀ r, ⟨s.runtimes.size⟩ ≠ r →
      (s.install place settings).runtimes.get? r = s.runtimes.get? r :=
    fun r other => Store.get?_set_of_ne other
  have closed : ∀ r, ⟨s.runtimes.size⟩ ≠ r → (s.install place settings).closed r = s.closed r :=
    fun r other => by rw [State.closed, runtimes r other, State.closed]
  -- the place is new, and all other places are as before
  have old : ∀ {place' r}, (s.install place settings).places.get? place' = some r →
      place' = place ∧ r = ⟨s.runtimes.size⟩ ∨ s.places.get? place' = some r := by
    intro place' r found
    by_cases same : place = place'
    · subst same
      simp only [State.install, Store.get?_set_self, Option.some.injEq] at found
      exact .inl ⟨rfl, found.symm⟩
    · exact .inr ((Store.get?_set_of_ne same).symm.trans found)
  have open_ : ∀ r, s.closed r = false → (s.install place settings).closed r = false := by
    intro r was
    by_cases new : ⟨s.runtimes.size⟩ = r
    · rwa [← new]
    · rwa [closed r new]
  refine {
    apart := fun place' place'' r found found' => ?_
    placed := fun place' r found => ?_
    blocked := fun r t waits => open_ r (h.blocked r t waits)
    ending := fun r goal goes shut => ?_
    sliced := fun r x during shut => ?_ }
  · rcases old found with ⟨here, new⟩ | was
    · rcases old found' with ⟨here', -⟩ | was'
      · exact here.trans here'.symm
      · exact absurd (new ▸ was') (unplaced place'')
    · rcases old found' with ⟨-, new⟩ | was'
      · exact absurd (new ▸ was) (unplaced place')
      · exact h.apart place' place'' r was was'
  · rcases old found with ⟨rfl, rfl⟩ | found
    · exact running
    · exact open_ r (h.placed place' r found)
  · by_cases new : ⟨s.runtimes.size⟩ = r
    · subst new
      cases running.symm.trans shut
    · exact h.ending r goal goes ((closed r new).symm.trans shut)
  · by_cases new : ⟨s.runtimes.size⟩ = r
    · subst new
      cases running.symm.trans shut
    · rw [State.slice, runtimes r new] at during
      exact h.sliced r x during ((closed r new).symm.trans shut)

theorem close (h : Joined s .clear) (still : s.active = none) {place : Nat}
    (found : s.places.get? place = some r) :
    Joined ({ s with places := s.places.erase place }.close r) (.closing r) := by
  have closed : ∀ r', r ≠ r' →
      ({ s with places := s.places.erase place }.close r).closed r' = s.closed r' := by
    intro r' other
    simp [State.closed, State.close, State.doFirst, State.log, State.tell, State.modifyRuntime,
      Store.get?_modify_of_ne other]
  have slice : ∀ r', ({ s with places := s.places.erase place }.close r).slice r' = s.slice r' :=
    fun r' => State.slice_modifyRuntime_same r fun _ => by rfl
  have old : ∀ {place' r'}, ({ s with places := s.places.erase place }.close r).places.get? place' =
      some r' → place ≠ place' ∧ s.places.get? place' = some r' := by
    intro place' r' found'
    have erased : (s.places.erase place).get? place' = some r' := found'
    rw [Store.get?_erase] at erased
    split at erased
    · cases erased
    · rename_i other
      exact ⟨other, erased⟩
  refine {
    apart := fun place' place'' r' found' found'' => h.apart _ _ r' (old found').2 (old found'').2
    placed := fun place' r' found' => ?_
    blocked := fun r' t waits => by cases waits
    ending := fun r' goal goes => by cases still.symm.trans goes
    sliced := fun r' x during shut => ?_ }
  · obtain ⟨other, was⟩ := old found'
    have hr : r ≠ r' := by
      rintro rfl
      exact other (h.apart _ _ r found was)
    exact (closed r' hr).trans (h.placed place' r' was)
  · by_cases hr : r = r'
    · exact .inl (by rw [hr])
    · have none := h.unsliced still (by simp) ((closed r' hr).symm.trans shut)
      cases none.symm.trans ((slice r').symm.trans during)

theorem move (formed : Formed s) (rests : s.resting = true) (m : Move s d s' d') (h : Joined s d) :
    Joined s' d' := by
  have idle := State.idle_of_resting rests
  have still := State.still_of_resting rests
  cases m with
  | build place batch stem =>
    rcases s.build_cases place batch stem with same | ⟨free, settings, built⟩
    · rwa [same]
    · rw [built]
      exact h.install formed free settings
  | @start place r found =>
    have running := h.placed place r found
    exact h.start still r .quiet (fun shut => by cases running.symm.trans shut)
      (fun _ waits => by cases waits) fun _ _ waits => by cases waits
  | @startRounds place r found rounds band =>
    have keeps : Keeps s ({ s with markers := s.markers + 1 }.enqueue r band
        (.marker (s.markers + 1))) := by
      refine .trans ?_ (.enqueue _ _ _)
      exact { Keeps.refl s with }
    have marked : Joined _ .clear := h.turn still (fun r => by simp) keeps fun _ _ waits => by
      cases waits
    have running := (keeps.closed r).trans (h.placed place r found)
    exact marked.start (keeps.active.trans still) r _ (fun shut => by cases running.symm.trans shut)
      (fun _ waits => by cases waits) fun _ _ waits => by cases waits
  | launchRoot found body =>
    exact h.turn still (fun r => by simp) (.launch formed _ _ _ _ _) fun r t waits => by
      cases waits
      exact h.placed _ _ found
  | @block r t =>
    have running := h.blocked r t rfl
    refine h.start still r .blocking (fun shut => by cases running.symm.trans shut)
      (fun _ waits => by cases waits) fun _ _ waits => ?_
    cases waits
    exact running
  | @leaveRoot r t =>
    have keeps : Keeps s (s.leaveRoot t) :=
      { Keeps.modifyTask t fun m => ⟨m.waiters, none, rfl⟩ with }
    exact h.turn still (fun r => by simp) keeps fun _ _ waits => by cases waits
  | close found => exact h.close still found
  | @join r =>
    exact h.start still r .closing (fun _ => rfl) (fun r' waits => by cases waits; exact ⟨rfl, rfl⟩)
      fun _ _ waits => by cases waits
  | line plain =>
    exact h.turn still (fun r => by simp) ((State.plain?_fits idle plain).keeps formed)
      fun _ _ waits => by cases waits
  | @shelve f =>
    exact h.turn still (fun r => by simp)
      ((State.shelve_changes (c := { who := .main }) f s []).keeps formed) fun _ _ waits => by
        cases waits

end Joined

/-- A move of the main thread leaves every runtime there. -/
theorem Move.built (formed : Formed s) (idle : s.agenda = []) (m : Move s d s' d')
    (there : s.Built r) : s'.Built r := by
  have started : ∀ {x : State} (h : RuntimeId) (g : Goal), x.Built r → (x.start h g).Built r := by
    intro x h g there
    obtain ⟨trace, eq⟩ := x.start_eq h g
    rw [eq]
    exact there.modifyRuntime h _
  have kept : ∀ {x : State}, Keeps s x → x.Built r := fun keeps =>
    (Stands.of_keeps keeps).built r there
  cases m with
  | build place batch stem =>
    rcases s.build_cases place batch stem with same | ⟨-, settings, built⟩
    · rwa [same]
    · rw [built]
      by_cases new : (⟨s.runtimes.size⟩ : RuntimeId) = r
      · subst new
        exact ⟨_, Store.get?_set_self⟩
      · obtain ⟨rt, found⟩ := there
        exact ⟨rt, (Store.get?_set_of_ne new).trans found⟩
  | start | block | join => exact started _ _ there
  | startRounds =>
    refine started _ _ (State.Built.enqueue ?_ _ _ _)
    exact there
  | launchRoot => exact kept (.launch formed _ _ _ _ _)
  | leaveRoot => exact there
  | close => exact there.modifyRuntime _ _
  | line plain => exact kept ((State.plain?_fits idle plain).keeps formed)
  | @shelve f => exact kept ((State.shelve_changes (c := { who := .main }) f s []).keeps formed)

/-- A runtime that was built stays there. -/
theorem Transition.built (sound : Sound s d) (t : Transition s d s' d') (there : s.Built r) :
    s'.Built r := by
  cases t with
  | step =>
    have next := State.step_cases sound.wakeful.waitsOnOwn
    generalize s.step = s' at next
    cases next with
    | item first e =>
      subst first
      exact (Stands.effect e).built r there
    | work _ _ w => exact (Stands.work sound.formed w).built r there
    | rest => exact there
  | stray => exact there
  | move rests m => exact m.built sound.formed (State.idle_of_resting rests) there

/-- **In every reachable state** a closed runtime is in no slice any more, unless the main thread
still has to wait for it or is doing so. -/
theorem Reachable.joined (h : Reachable s d) : Joined s d := by
  induction h with
  | init => exact .init
  | next h t ih =>
    cases t with
    | step => exact ih.step h.sound
    | stray => exact ih.keep { Stands.refl _ with } (fun _ => rfl) rfl
    | move rests m => exact ih.move h.sound.formed rests m

end Nursery
