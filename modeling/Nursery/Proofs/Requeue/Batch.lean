import Nursery.Proofs.Requeue.Slices

/-!
# How many messages a slice takes up

A runtime keeps the settings that it was built with.  One slice of an actor takes up as many
messages as they allow at most, whatever its handlers send to it meanwhile.

* `Transition.batch` : no transition changes how many messages may be handled at a time.
* `State.picks` : the messages that are taken up in the slice of a runtime.
* `Within` : a run during which a worker is in one slice.
* `Within.taken_le` : **a slice takes up a batch at most.**
-/

namespace Nursery

variable {s s' s₀ x : State} {d d' d₀ dx : Desk} {r home : RuntimeId} {during : List State}
  {c : Context} {hand hand' : List Resource} {a : Action} {e : Entry}

/-! ### The settings of a runtime stay -/

namespace State

theorem batch_modifyRuntime {f : Runtime → Runtime} (same : ∀ rt, (f rt).settings = rt.settings) :
    (s.modifyRuntime home f).batch r = s.batch r :=
  congrArg (Option.getD · 0) (Store.map_get?_modify_same fun rt => by rw [same])

theorem batch_enqueue (s : State) (home : RuntimeId) (p : Priority) (e : Entry) :
    (s.enqueue home p e).batch r = s.batch r := by
  unfold enqueue
  split
  · rfl
  · exact batch_modifyRuntime fun _ => rfl

theorem batch_post (s : State) (b : ActorId) (home : RuntimeId) (m : Message) :
    (s.post b home m).batch r = s.batch r := by
  unfold post
  split
  · rfl
  · dsimp only
    split
    · rfl
    · exact batch_enqueue ..

theorem batch_start (s : State) (home : RuntimeId) (goal : Goal) :
    (s.start home goal).batch r = s.batch r := by
  obtain ⟨trace, eq⟩ := s.start_eq home goal
  rw [eq]
  exact batch_modifyRuntime fun _ => by rfl

end State

theorem Change.batch (formed : Formed s) (hc : Change c s hand s' hand') :
    s'.batch r = s.batch r := by
  cases hc with
  | spawn priority body =>
    obtain ⟨nodes, trace, -, eq⟩ := State.launch_addNode_eq formed.nodes priority _ _ body false
    rw [eq]
    exact State.batch_enqueue ..
  | group =>
    obtain ⟨nodes, trace, priority, -, eq⟩ := State.makeGroup_eq formed.nodes c _
    rw [eq]
    rfl
  | @add g group priority body =>
    obtain ⟨nodes, trace, p, -, eq⟩ :=
      State.addChild_eq formed.nodes formed.fresh_task g group priority body
    rw [eq]
    exact State.batch_enqueue ..
  | call | send => exact State.batch_post ..
  | _ => rfl

theorem Changes.batch (formed : Formed s) (hc : Changes c s hand s' hand') :
    s'.batch r = s.batch r :=
  (hc.invariant (I := fun x _ => Formed x ∧ x.batch r = s.batch r)
    (fun hc h => ⟨h.1.change hc, (hc.batch h.1).trans h.2⟩) ⟨formed, rfl⟩).2

theorem Effect.batch (e : Effect s a s') : s'.batch r = s.batch r := by
  cases e with
  | resume => exact State.batch_enqueue ..
  | _ => rfl

theorem Work.batch (formed : Formed s) (w : Work s home s') : s'.batch r = s.batch r := by
  have line : ∀ {c : Context} {hand hand' : List Resource} {z : State},
      Changes c s hand z hand' → z.batch r = s.batch r := fun changes => changes.batch formed
  -- a slice, a pause and a queue are no settings
  have moved : ∀ {z : State} {f : Runtime → Runtime}, (∀ rt, (f rt).settings = rt.settings) →
      (z.modifyRuntime home f).batch r = z.batch r := State.batch_modifyRuntime
  cases w with
  | stop => rfl
  | next _ _ changes =>
    have same := line changes
    exact same
  | suspend _ _ changes | ends _ _ changes | pause _ _ _ changes | handle _ changes
  | handled _ _ changes =>
    have same := line changes
    exact (moved fun _ => by rfl).trans same
  | hold _ _ changes =>
    have same := line changes
    exact (moved fun _ => by rfl).trans ((moved fun _ => by rfl).trans same)
  | again | drainAgain => exact (State.batch_enqueue ..).trans (moved fun _ => by rfl)
  | begin | beginDrain => exact (moved fun _ => by rfl).trans (moved fun _ => by rfl)
  | markerAgain => exact (State.batch_enqueue ..).trans (moved fun _ => by rfl)
  | _ => exact moved fun _ => by rfl

theorem Move.batch (formed : Formed s) (idle : s.agenda = []) (built : s.Built r)
    (m : Move s d s' d') : s'.batch r = s.batch r := by
  cases m with
  | build place batch stem =>
    rcases s.build_cases place batch stem with same | ⟨-, settings, eq⟩
    · rw [same]
    · rw [eq]
      -- a runtime that is built now is not one that was there
      have new : (⟨s.runtimes.size⟩ : RuntimeId) ≠ r := by
        rintro rfl
        obtain ⟨rt, found⟩ := built
        cases (formed.runtimes.fresh (k := ⟨s.runtimes.size⟩) rfl).symm.trans found
      simp only [State.batch, State.install, Store.get?_set_of_ne new]
  | start | block | join => exact State.batch_start ..
  | startRounds => exact (State.batch_start ..).trans (State.batch_enqueue ..)
  | @launchRoot _ home _ body =>
    obtain ⟨nodes, trace, -, eq⟩ := State.launch_addNode_eq formed.nodes .normal none home body true
    rw [State.launchRoot, eq]
    exact State.batch_enqueue ..
  | leaveRoot => rfl
  | close => exact State.batch_modifyRuntime fun _ => by rfl
  | line plain => exact (State.plain?_fits idle plain).batch formed
  | @shelve f => exact (State.shelve_changes (c := { who := .main }) f s []).batch formed

/-- **No transition changes how many messages may be handled at a time.** -/
theorem Transition.batch (h : Reachable s d) (t : Transition s d s' d') (built : s.Built r) :
    s'.batch r = s.batch r := by
  have sound := h.sound
  cases t with
  | step =>
    have next := State.step_cases sound.wakeful.waitsOnOwn
    generalize s.step = s' at next
    cases next with
    | item first e => exact e.batch.trans (by rw [first]; rfl)
    | work _ _ w => exact w.batch sound.formed
    | rest => rfl
  | stray => rfl
  | move rests m => exact m.batch sound.formed (State.idle_of_resting rests) built

/-! ### One slice -/

/-- The messages that are taken up in the slice of a runtime. -/
def State.picks (r : RuntimeId) (s s' : State) : List Pickup :=
  Slice.pickups (s.slice r) (s'.slice r)

/-- A worker begins a slice for an entry, and is in that slice in all states from then on. -/
structure Within (r : RuntimeId) (e : Entry) (x s₀ : State) (during : List State) (s : State) :
    Prop where
  /-- The slice begins. -/
  begun : State.begins r x s₀ = [e]
  /-- It is not over yet. -/
  lasts : ∀ y ∈ s :: during, (y.slice r).map Slice.entry = some e

namespace Within

theorem begun_eq {before after : Option Slice} (begun : Slice.begun before after = [e]) :
    before = none ∧ ∃ y, after = some y := by
  rcases before with _ | before
  · rcases after with _ | after
    · cases begun
    · exact ⟨rfl, after, rfl⟩
  · cases before <;> cases begun

theorem taken_eq (w : Within r e x s₀ during s) (h : Reachable x dx)
    (t : Transition x dx s₀ d₀) (p : Path s₀ d₀ during s d) :
    s.batch r = s₀.batch r ∧ ∃ y, s.slice r = some y ∧
      (gather (State.picks r) s during).length = y.taken ∧ y.taken ≤ s₀.batch r := by
  obtain ⟨begun, lasts⟩ := w
  obtain ⟨free, y₀, first⟩ := begun_eq begun
  have fresh := t.fresh_slice h free first
  induction p with
  | refl => exact ⟨rfl, y₀, first, fresh.symm, by omega⟩
  | @next during s s' d d' p t' ih =>
    obtain ⟨same, y, now, count, bound⟩ := ih fun z hz => lasts z (List.mem_cons_of_mem _ hz)
    have there := (h.next t).leads p.leads
    obtain ⟨z, after, -⟩ := Option.map_eq_some_iff.1 (lasts s' List.mem_cons_self)
    have batch := t'.batch there (State.built_of_slice now)
    cases t'.fares there now with
    | ends _ none | again _ none => cases none.symm.trans after
    | goesOn after' entry taken fits =>
      cases after.symm.trans after'
      refine ⟨batch.trans same, z, after, ?_, by omega⟩
      rw [gather_cons, List.length_append, count, State.picks, now, after, taken]

/-- **A slice takes up a batch at most.** -/
theorem taken_le (w : Within r e x s₀ during s) (h : Reachable x dx)
    (t : Transition x dx s₀ d₀) (p : Path s₀ d₀ during s d) :
    (gather (State.picks r) s during).length ≤ s₀.batch r := by
  obtain ⟨-, y, -, count, bound⟩ := w.taken_eq h t p
  rwa [count]

end Within

end Nursery
