import Nursery.Proofs.Backlog.Traffic

/-!
# How a slice goes on and how it ends

A worker stays with the entry that its slice was begun for.  An actor takes a message up only while
it has taken up fewer than its runtime allows at a time.  When the slice is over, all that it has
set off is done, and the entry goes to the back of a band or nowhere; nothing else gets into the
queue then.

* `Slice.entry`, `Slice.taken` : what a slice is for, and how many messages it has taken up.
* `Slice.Fares` : what becomes of a slice in a transition.
* `Transition.fares` : nothing else becomes of it.
* `Transition.fresh_slice` : a slice that begins has taken nothing up.
-/

namespace Nursery

namespace Slice

/-- The entry that a slice was begun for. -/
def entry : Slice → Entry
  | .task t _ => .task t
  | .drain a .. => .drain a

/-- How many messages were taken up in a slice. -/
def taken : Slice → Nat
  | .task .. => 0
  | .drain _ handled .idle => handled
  | .drain _ handled _ => handled + 1

/-- What becomes of a slice in a transition. -/
inductive Fares (r : RuntimeId) (x : Slice) (s s' : State) : Prop where
  /-- It goes on. -/
  | goesOn {y : Slice} (after : s'.slice r = some y) (entry : y.entry = x.entry)
      (taken : y.taken = x.taken + (Slice.pickups (some x) (some y)).length)
      (bound : y.taken = x.taken ∨ y.taken ≤ s.batch r)
  /-- It is over. -/
  | ends (idle : s.agenda = []) (after : s'.slice r = none)
      (same : s'.scheduler r = s.scheduler r)
  /-- It is over, and its entry is queued again. -/
  | again {p : Priority} (idle : s.agenda = []) (after : s'.slice r = none)
      (running : (s.scheduler r).closed = false)
      (pushed : s'.scheduler r =
        { s.scheduler r with queue := (s.scheduler r).queue.push p x.entry })

theorem isWork_entry (x : Slice) : x.entry.isWork = true := by
  cases x <;> rfl

end Slice

variable {s s' : State} {d d' : Desk} {r home : RuntimeId} {goal : Goal} {x : Slice}

namespace Slice.Fares

theorem stays (during : s.slice r = some x) (same : s'.slice r = s.slice r) : x.Fares r s s' :=
  .goesOn (same.trans during) rfl (by rw [pickups_self]; rfl) (.inl rfl)

theorem quiet {y : Slice} (after : s'.slice r = some y) (entry : y.entry = x.entry)
    (taken : y.taken = x.taken) (none : pickups (some x) (some y) = []) : x.Fares r s s' :=
  .goesOn after entry (by rw [none, taken]; rfl) (.inl taken)

theorem enqueue {z : State} (idle : s.agenda = []) (free : z.slice r = none)
    (same : z.scheduler r = s.scheduler r) (p : Priority) :
    x.Fares r s (z.enqueue r p x.entry) := by
  have after := (Effect.slice_enqueue r p x.entry r).trans free
  have queued : (z.enqueue r p x.entry).scheduler r = z.scheduler r ∨ _ :=
    State.scheduler_enqueue p x.entry
  rw [same] at queued
  rcases queued with shut | ⟨running, pushed⟩
  · exact .ends idle after shut
  · exact .again idle after running pushed

end Slice.Fares

/-- A message is taken up only where one more may be handled. -/
theorem State.lt_batch {a : ActorId} {handled : Nat} {y : Slice} (idle : s.agenda = [])
    (active : s.active = some (home, goal)) (during : s.slice home = some (.drain a handled .idle))
    (after : s.step.slice home = some y) : handled < s.batch home := by
  by_contra full
  obtain ⟨rt, found, slice⟩ := State.slice_eq during
  have left := State.slice_setSlice_self (y := none) during
  -- otherwise the slice ends here
  have ended : s.step.slice home = none := by
    simp only [State.step, idle, active, State.work, found, slice, State.drainStep,
      State.nextMessage, full, if_false]
    split
    · exact left
    · rename_i actor known
      have told : ((s.setSlice home none).log (.drained a handled)).slice home = none := left
      unfold State.endDrain
      dsimp only
      split
      · exact told
      · split
        · exact told
        · exact (Effect.slice_enqueue ..).trans told
  cases ended.symm.trans after

/-- What becomes of the slice that a worker is in. -/
theorem Work.fares (sound : Sound s d) (idle : s.agenda = [])
    (active : s.active = some (home, goal)) (during : s.slice home = some x)
    (w : Work s home s.step) : x.Fares home s s.step := by
  have formed := sound.formed
  have left : (s.setSlice home none).slice home = none := State.slice_setSlice_self during
  have free : s.slice home ≠ none := by simp [during]
  -- lines leave every worker where it is
  have line : ∀ {c : Context} {hand hand' : List Resource} {z : State},
      Changes c s hand z hand' → z.slice home = some x :=
    fun changes => ((changes.keeps formed).slice home).trans during
  have put : ∀ {y : Slice}, (s.setSlice home (some y)).slice home = some y :=
    State.slice_setSlice_self during
  have bound : ∀ {a : ActorId} {handled : Nat} {y : Slice},
      s.slice home = some (.drain a handled .idle) → s.step.slice home = some y →
        handled < s.batch home := State.lt_batch idle active
  generalize s.step = s' at w bound
  cases w with
  | stop _ none => exact absurd none free
  | lost => exact .ends idle left (State.scheduler_setSlice _)
  | next _ _ changes => exact .stays during ((changes.keeps formed).slice home)
  | suspend _ polling changes =>
    have inside := line changes
    cases during.symm.trans polling
    exact .quiet (State.slice_setSlice_self inside) rfl rfl rfl
  | ends _ runs changes =>
    have inside := line changes
    rcases runs.slice with polling | polling <;>
      · cases during.symm.trans polling
        exact .quiet (State.slice_setSlice_self inside) rfl rfl rfl
  | pause _ _ _ changes =>
    exact .stays during ((State.slice_modifyRuntime_same _ fun _ => by rfl).trans
      ((changes.keeps formed).slice home))
  | rest | forgotten => exact .ends idle left (State.scheduler_setSlice _)
  | @again t task stage joining here _ _ found =>
    cases during.symm.trans here
    -- a worker runs the tasks of its own runtime only
    obtain ⟨m, known, at_home⟩ := Option.map_eq_some_iff.1 (sound.dispatch.slice_fits here).1
    cases known.symm.trans found
    rw [at_home]
    refine Slice.Fares.enqueue (x := .task t stage) idle ?_ ?_ _
    · exact left
    · exact State.scheduler_setSlice _
  | endBody _ _ here =>
    cases during.symm.trans here
    exact .quiet put rfl rfl rfl
  | complete _ here =>
    cases during.symm.trans here
    exact .quiet put rfl rfl rfl
  | leave => exact .ends idle left (State.scheduler_setSlice _)
  | @receive a handled _ message rest here =>
    cases during.symm.trans here
    have after := State.slice_setSlice_self
      (s := s.modifyActor a fun m => { m with mailbox := rest })
      (y := some (.drain a handled (.handling message.handler [] message.reply))) here
    exact .goesOn after rfl rfl (.inr (bound here after))
  | drained => exact .ends idle left (State.scheduler_setSlice _)
  | @drainAgain a handled _ here =>
    cases during.symm.trans here
    refine Slice.Fares.enqueue (x := .drain a handled .idle) idle ?_ ?_ _
    · exact left
    · exact State.scheduler_setSlice _
  | handle here changes | handled _ here changes =>
    cases during.symm.trans here
    exact .quiet (State.slice_setSlice_self (line changes)) rfl rfl rfl
  | hold _ here changes =>
    cases during.symm.trans here
    exact .quiet ((State.slice_modifyRuntime_same _ fun _ => by rfl).trans
      (State.slice_setSlice_self (line changes))) rfl rfl rfl
  | reply _ _ here =>
    cases during.symm.trans here
    exact .quiet put rfl rfl rfl
  | begin takes | refuse takes | beginDrain takes | markerStop takes | markerAgain _ _ takes
  | markerSkip takes => exact absurd takes.free free

/-- **What becomes of a slice in a transition.** -/
theorem Transition.fares (h : Reachable s d) (t : Transition s d s' d')
    (during : s.slice r = some x) :
    x.Fares r s s' := by
  have sound := h.sound
  cases t with
  | step =>
    have next := State.step_cases sound.wakeful.waitsOnOwn
    generalize made : s.step = s' at next
    cases next with
    | item first e => exact .stays during ((e.slice r).trans (by rw [first]; rfl))
    | @work home goal _ idle active w =>
      by_cases here : home = r
      · subst here
        subst made
        exact w.fares sound idle active during
      · exact .stays during (w.slice_of_ne sound.formed here)
    | rest => exact .stays during rfl
  | stray => exact .stays during rfl
  | move rests m =>
    exact .stays during (m.slice sound.formed (State.idle_of_resting rests) r)

/-! ### How a slice begins -/

/-- A slice that a worker begins has taken nothing up. -/
theorem Work.fresh_slice (free : s.slice home = none) (w : Work s home s')
    (after : s'.slice home = some x) : x.taken = 0 := by
  have other : ∀ {y : Slice}, s.slice home = some y → x.taken = 0 := by
    intro y during
    cases free.symm.trans during
  cases w with
  | stop => exact other after
  | begin takes | beginDrain takes =>
    cases (State.slice_setSlice_popped takes).symm.trans after
    rfl
  | refuse takes | markerStop takes | markerSkip takes =>
    cases takes.slice_popped.symm.trans after
  | markerAgain _ _ takes =>
    cases ((Effect.slice_enqueue ..).trans takes.slice_popped).symm.trans after
  | lost during | rest during | again during | forgotten during | endBody _ _ during
  | complete _ during | leave during | receive during | drained during | drainAgain during
  | handle during | hold _ during | handled _ during | reply _ _ during => exact other during
  | next _ polling | suspend _ polling | pause _ _ polling => exact other polling
  | ends _ runs => exact runs.slice.elim other other

theorem Transition.fresh_slice (h : Reachable s d) (t : Transition s d s' d')
    (free : s.slice r = none) (after : s'.slice r = some x) : x.taken = 0 := by
  have sound := h.sound
  have stays : s'.slice r = s.slice r → x.taken = 0 := by
    intro same
    cases free.symm.trans (same.symm.trans after)
  cases t with
  | step =>
    have next := State.step_cases sound.wakeful.waitsOnOwn
    generalize s.step = s' at next after stays
    cases next with
    | item first e => exact stays ((e.slice r).trans (by rw [first]; rfl))
    | @work home _ _ _ _ w =>
      by_cases here : home = r
      · subst here
        exact w.fresh_slice free after
      · exact stays (w.slice_of_ne sound.formed here)
    | rest => exact stays rfl
  | stray => exact stays rfl
  | move rests m => exact stays (m.slice sound.formed (State.idle_of_resting rests) r)

end Nursery
