import Nursery.Proofs.Invariant.Sound

/-!
# The bands of the actors

The slice of an actor is queued in the band that the actor was made with, whoever queues it, and a
closed runtime has nothing in its queue.

* `State.queue`, `State.rank` : what is queued on a runtime, and the band of an actor.
* `Ranked` : the invariant.
* `Reachable.ranked` : it holds in every reachable state.
-/

namespace Nursery

namespace State

/-- What is queued on a runtime. -/
def queue (s : State) (r : RuntimeId) : RunQueue Entry :=
  ((s.runtimes.get? r).map Runtime.queue).getD {}

/-- The band of an actor, if it was made. -/
def rank (s : State) (a : ActorId) : Option Priority :=
  (s.actors.get? a).map Actor.priority

/-- An entry is one of an actor only in the band of that actor. -/
def FitsBand (s : State) (p : Priority) (e : Entry) : Prop :=
  ∀ a, e = .drain a → s.rank a = some p

end State

/-- The slices of the actors are in their bands, and closed queues are empty. -/
structure Ranked (s : State) : Prop where
  /-- Every slice of an actor that is queued is in the band of the actor. -/
  band : ∀ r p e, e ∈ (s.queue r).band p → s.FitsBand p e
  /-- A closed queue is empty. -/
  closed : ∀ r e, s.closed r = true → e ∉ (s.queue r).toList

namespace Ranked

variable {s s' : State} {d d' : Desk} {c : Context} {hand hand' : List Resource}
  {home : RuntimeId} {goal : Goal} {a : Action}

theorem init : Ranked {} where
  band r p e queued := by cases p <;> cases queued
  closed r e _ queued := by cases queued

theorem fewer (h : Ranked s) (rank : ∀ a p, s.rank a = some p → s'.rank a = some p)
    (queue : ∀ r p e, e ∈ (s'.queue r).band p → e ∈ (s.queue r).band p)
    (closed : ∀ r, s'.closed r = true → s.closed r = true ∨ (s'.queue r).toList = []) :
    Ranked s' where
  band r p e queued b hb := rank b p (h.band r p e (queue r p e queued) b hb)
  closed r e shut queued := by
    rcases closed r shut with shut | empty
    · obtain ⟨p, hp⟩ := RunQueue.mem_toList.1 queued
      exact h.closed r e shut (RunQueue.mem_toList.2 ⟨p, queue r p e hp⟩)
    · simp [empty] at queued

theorem of_eq (h : Ranked s) (actors : s'.actors = s.actors) (runtimes : s'.runtimes = s.runtimes) :
    Ranked s' := by
  refine h.fewer (fun b p => ?_) (fun r p e => ?_) fun r => ?_
  · simp only [State.rank, actors, imp_self]
  · simp only [State.queue, runtimes, imp_self]
  · simp only [State.closed, runtimes]
    exact .inl

theorem modifyActor (h : Ranked s) (b : ActorId) {f : Actor → Actor}
    (same : ∀ m, (f m).priority = m.priority) : Ranked (s.modifyActor b f) := by
  refine h.fewer (fun x p known => ?_) (fun _ _ _ queued => queued) fun _ shut => .inl shut
  rw [← known]
  exact Store.map_get?_modify_same same

theorem modifyRuntime (h : Ranked s) (r : RuntimeId) {f : Runtime → Runtime}
    (queue : ∀ rt, (f rt).queue = rt.queue) (closed : ∀ rt, (f rt).closed = rt.closed) :
    Ranked (s.modifyRuntime r f) := by
  have same : ∀ x, (s.modifyRuntime r f).queue x = s.queue x := fun x =>
    congrArg (Option.getD · ({} : RunQueue Entry)) (Store.map_get?_modify_same queue)
  refine h.fewer (fun _ _ known => known) (fun x p e queued => ?_) fun x shut => .inl ?_
  · rwa [same] at queued
  · rw [← shut]
    exact (congrArg (Option.getD · true) (Store.map_get?_modify_same closed)).symm

theorem enqueue (h : Ranked s) (r : RuntimeId) {p : Priority} {e : Entry} (fits : s.FitsBand p e) :
    Ranked (s.enqueue r p e) := by
  unfold State.enqueue
  split
  · exact h.of_eq rfl rfl
  · rename_i running
    have pushed : ∀ x, ((s.modifyRuntime r fun rt =>
        { rt with queue := rt.queue.push p e }).queue x = s.queue x) ∨
        x = r ∧ (s.modifyRuntime r fun rt =>
          { rt with queue := rt.queue.push p e }).queue x = (s.queue x).push p e := by
      intro x
      by_cases hr : r = x
      · subst hr
        cases found : s.runtimes.get? r with
        | none => simp [State.closed, found] at running
        | some rt =>
          refine .inr ⟨rfl, ?_⟩
          simp [State.queue, State.modifyRuntime, Store.get?_modify_self, found]
      · left
        simp only [State.queue, State.modifyRuntime, Store.get?_modify_of_ne hr]
    have shut_of : ∀ x, (s.modifyRuntime r fun rt =>
        { rt with queue := rt.queue.push p e }).closed x = s.closed x := fun x =>
      congrArg (Option.getD · true) (Store.map_get?_modify_same fun _ => by rfl)
    refine ⟨fun x q e' queued => ?_, fun x e' shut queued => ?_⟩
    · rcases pushed x with same | ⟨rfl, push⟩
      · rw [same] at queued
        exact h.band x q e' queued
      · rw [push, RunQueue.mem_band_push] at queued
        rcases queued with queued | ⟨rfl, rfl⟩
        · exact h.band x q e' queued
        · exact fits
    · rw [shut_of] at shut
      rcases pushed x with same | ⟨rfl, -⟩
      · rw [same] at queued
        exact h.closed x e' shut queued
      · exact running shut

theorem enqueueTask (h : Ranked s) (r : RuntimeId) (p : Priority) (t : TaskId) :
    Ranked (s.enqueue r p (.task t)) :=
  h.enqueue r fun _ other => by cases other

theorem popped {e : Entry} {queue : RunQueue Entry} (h : Ranked s)
    (takes : s.Takes home e queue) : Ranked (s.popped home queue) := by
  obtain ⟨rt, found, -, running, pop⟩ := takes.found
  refine h.fewer (fun _ _ known => known) (fun r p e queued => ?_) fun r shut => .inl ?_
  · by_cases hr : home = r
    · subst hr
      have now : (s.popped home queue).queue home = queue := by
        simp [State.queue, State.popped, State.modifyRuntime, Store.get?_modify_self, found]
      have was : s.queue home = rt.queue := by simp [State.queue, found]
      rw [now] at queued
      rw [was]
      exact RunQueue.mem_band_of_pop? pop queued
    · simpa only [State.queue, State.popped, State.modifyRuntime,
        Store.get?_modify_of_ne hr] using queued
  · rw [← shut]
    exact (congrArg (Option.getD · true) (Store.map_get?_modify_same fun _ => by rfl)).symm

theorem post (h : Ranked s) (b : ActorId) (r : RuntimeId) (m : Message) :
    Ranked (s.post b r m) := by
  unfold State.post
  cases found : s.actors.get? b with
  | none => exact h
  | some actor =>
    have mail : Ranked (s.modifyActor b fun n =>
        { n with mailbox := n.mailbox ++ [m], scheduled := true }) :=
      h.modifyActor b fun _ => rfl
    dsimp only
    split
    · exact mail
    · refine mail.enqueue r fun x hx => ?_
      cases hx
      simp [State.rank, State.modifyActor, Store.get?_modify_self, found]

theorem launch (h : Ranked s) (nodes : Store TaskId Node) (tasks : Store TaskId Task)
    (groups : Store TaskId Group) (trace : Array Event) (p : Priority) (t : TaskId) :
    Ranked ({ s with nodes := nodes, tasks := tasks, groups := groups, trace := trace }.enqueue
      home p (.task t)) := by
  refine enqueueTask (h.of_eq ?_ ?_) home p t <;> rfl

/-! ### Transitions -/

theorem effect (h : Ranked s) (e : Effect s a s') : Ranked s' := by
  cases e with
  | @resume t =>
    have ready : Ranked (s.setPhase t .ready) := h.of_eq rfl rfl
    exact ready.enqueueTask _ _ _
  | @abandon b =>
    have gone : Ranked (s.modifyActor b fun m => { m with scheduled := false, mailbox := [] }) :=
      h.modifyActor b fun _ => rfl
    exact gone.of_eq rfl rfl
  | _ => exact h.of_eq rfl rfl

theorem change (formed : Formed s) (hc : Change c s hand s' hand') (h : Ranked s) : Ranked s' := by
  cases hc with
  | spawn priority body =>
    obtain ⟨nodes, trace, -, eq⟩ := State.launch_addNode_eq formed.nodes priority _ _ body false
    rw [eq]
    exact h.launch _ _ s.groups _ _ _
  | group =>
    obtain ⟨nodes, trace, priority, -, eq⟩ := State.makeGroup_eq formed.nodes c _
    rw [eq]
    exact h.of_eq rfl rfl
  | @add g group priority body =>
    obtain ⟨nodes, trace, p, -, eq⟩ :=
      State.addChild_eq formed.nodes formed.fresh_task g group priority body
    rw [eq]
    exact h.launch _ _ _ _ _ _
  | actor name priority init =>
    refine h.fewer (fun b p known => ?_) (fun _ _ _ queued => queued) fun _ shut => .inl shut
    have old : (⟨s.actors.size⟩ : ActorId) ≠ b := by
      rintro rfl
      have fresh := formed.actors.fresh (k := ⟨s.actors.size⟩) rfl
      simp [State.rank, fresh] at known
    simpa only [State.rank, Store.get?_set_of_ne old] using known
  | call handler =>
    have called : Ranked { s with calls := s.calls.set s.nextCall { accepted := true } } :=
      h.of_eq rfl rfl
    exact called.post _ _ _
  | send => exact h.post _ _ _
  | state => exact h.modifyActor _ fun _ => rfl
  | _ => exact h.of_eq rfl rfl

theorem changes (formed : Formed s) (hc : Changes c s hand s' hand') (h : Ranked s) : Ranked s' :=
  (hc.invariant (I := fun s _ => Formed s ∧ Ranked s)
    (fun hc h => ⟨h.1.change hc, h.2.change h.1 hc⟩) ⟨formed, h⟩).2

theorem setSlice (h : Ranked s) (r : RuntimeId) (slice : Option Slice) :
    Ranked (s.setSlice r slice) :=
  h.modifyRuntime r (fun _ => rfl) fun _ => rfl

theorem work (formed : Formed s) (w : Work s home s') (h : Ranked s) : Ranked s' := by
  have line : ∀ {c : Context} {hand hand' : List Resource} {s₁ : State},
      Changes c s hand s₁ hand' → Ranked s₁ := fun hc => changes formed hc h
  cases w with
  | stop => exact h.of_eq rfl rfl
  | lost => exact h.setSlice _ _
  | next _ _ changes => exact (line changes).of_eq rfl rfl
  | suspend _ _ changes => exact ((line changes).setSlice _ _).of_eq rfl rfl
  | ends _ _ changes => exact ((line changes).setSlice _ _).of_eq rfl rfl
  | pause _ _ _ changes =>
    exact ((line changes).modifyRuntime home (fun _ => by rfl) fun _ => by rfl).of_eq rfl rfl
  | rest | forgotten | endBody | complete | leave | reply => exact (h.setSlice _ _).of_eq rfl rfl
  | @again t _ _ joining =>
    have ready : Ranked (((s.setSlice home none).modifyNode t fun m =>
        { m with joining := joining m, phase := .ready }).doFirst [.forget t]) :=
      (h.setSlice home none).of_eq rfl rfl
    exact ready.enqueueTask _ _ _
  | receive => exact (h.modifyActor _ fun _ => by rfl).setSlice _ _
  | @drained b handled =>
    have told : Ranked ((s.setSlice home none).log (.drained b handled)) :=
      (h.setSlice home none).of_eq rfl rfl
    exact told.modifyActor b fun _ => rfl
  | @drainAgain b handled actor during found =>
    have told : Ranked ((s.setSlice home none).log (.drained b handled)) :=
      (h.setSlice home none).of_eq rfl rfl
    refine told.enqueue home fun x hx => ?_
    cases hx
    have rank : ((s.setSlice home none).log (.drained b handled)).rank b = s.rank b := rfl
    rw [rank, State.rank, found, Option.map_some]
  | handle _ changes => exact (line changes).setSlice _ _
  | hold _ _ changes =>
    exact (((line changes).setSlice _ _).modifyRuntime home (fun _ => by rfl) fun _ => by rfl).of_eq
      rfl rfl
  | handled _ _ changes => exact ((line changes).setSlice _ _).of_eq rfl rfl
  | begin takes => exact ((h.popped takes).setSlice _ _).of_eq rfl rfl
  | refuse takes | markerStop takes => exact (h.popped takes).of_eq rfl rfl
  | beginDrain takes => exact (h.popped takes).setSlice _ _
  | markerAgain band _ takes =>
    exact ((h.popped takes).enqueue home fun _ other => by cases other).of_eq rfl rfl
  | markerSkip takes => exact h.popped takes

theorem start (h : Ranked s) (r : RuntimeId) (goal : Goal) : Ranked (s.start r goal) := by
  obtain ⟨trace, eq⟩ := s.start_eq r goal
  rw [eq]
  exact (h.modifyRuntime r (fun _ => by rfl) fun _ => by rfl).of_eq rfl rfl

theorem close (h : Ranked s) (r : RuntimeId) : Ranked (s.close r) := by
  have queue : ∀ x, (s.close r).queue x = s.queue x ∨ (s.close r).queue x = {} := by
    intro x
    by_cases hr : r = x
    · subst hr
      right
      cases found : s.runtimes.get? r with
      | none =>
        simp [State.queue, State.close, State.log, State.tell, State.doFirst, State.modifyRuntime,
          Store.get?_modify_self, found]
      | some rt =>
        simp [State.queue, State.close, State.log, State.tell, State.doFirst, State.modifyRuntime,
          Store.get?_modify_self, found]
    · left
      simp only [State.queue, State.close, State.log, State.tell, State.doFirst,
        State.modifyRuntime, Store.get?_modify_of_ne hr]
  have closed : ∀ x, (s.close r).closed x = true → s.closed x = true ∨
      ((s.close r).queue x).toList = [] := by
    intro x shut
    by_cases hr : r = x
    · subst hr
      right
      cases found : s.runtimes.get? r <;>
        simp [State.queue, State.close, State.log, State.tell, State.doFirst, State.modifyRuntime,
          Store.get?_modify_self, found, RunQueue.toList]
    · left
      simpa only [State.closed, State.close, State.log, State.tell, State.doFirst,
        State.modifyRuntime, Store.get?_modify_of_ne hr] using shut
  refine h.fewer (fun _ _ known => known) (fun x p e queued => ?_) closed
  rcases queue x with same | empty
  · rwa [same] at queued
  · rw [empty] at queued
    cases p <;> cases queued

theorem move (formed : Formed s) (idle : s.agenda = []) (m : Move s d s' d') (h : Ranked s) :
    Ranked s' := by
  cases m with
  | build place batch stem =>
    rcases s.build_cases place batch stem with same | ⟨-, settings, built⟩
    · rw [same]
      exact h
    · rw [built]
      refine h.fewer (fun _ _ known => known) (fun r p e queued => ?_) fun r shut => .inl ?_
      · by_cases new : (⟨s.runtimes.size⟩ : RuntimeId) = r
        · subst new
          simp only [State.queue, State.install, Store.get?_set_self] at queued
          cases p <;> cases queued
        · simpa only [State.queue, State.install, Store.get?_set_of_ne new] using queued
      · by_cases new : (⟨s.runtimes.size⟩ : RuntimeId) = r
        · subst new
          simp [State.closed, State.install, Store.get?_set_self] at shut
        · simpa only [State.closed, State.install, Store.get?_set_of_ne new] using shut
  | start | block | join => exact h.start _ _
  | startRounds _ rounds band =>
    have marked : Ranked { s with markers := s.markers + 1 } := h.of_eq rfl rfl
    exact (marked.enqueue _ fun _ other => by cases other).start _ _
  | @launchRoot _ r _ body =>
    obtain ⟨nodes, trace, -, eq⟩ := State.launch_addNode_eq formed.nodes .normal none r body true
    rw [State.launchRoot, eq]
    exact h.launch _ _ s.groups _ _ _
  | leaveRoot => exact h.of_eq rfl rfl
  | @close place r =>
    have removed : Ranked { s with places := s.places.erase place } := h.of_eq rfl rfl
    exact removed.close r
  | line plain => exact changes formed (State.plain?_fits idle plain) h
  | @shelve f => exact changes formed (State.shelve_changes (c := { who := .main }) f s []) h

end Ranked

/-- **In every reachable state** the slices of the actors are in their bands. -/
theorem Reachable.ranked {s : State} {d : Desk} (h : Reachable s d) : Ranked s := by
  induction h with
  | init => exact .init
  | next h t ih =>
    cases t with
    | step =>
      have next := State.step_cases h.sound.wakeful.waitsOnOwn
      generalize State.step _ = s' at next
      cases next with
      | @item _ s₀ _ first e =>
        subst first
        have pre : Ranked s₀ := ih.of_eq rfl rfl
        exact pre.effect e
      | work idle _ w => exact ih.work h.sound.formed w
      | rest => exact ih
    | stray => exact ih.of_eq rfl rfl
    | move rests m => exact ih.move h.sound.formed (State.idle_of_resting rests) m

end Nursery
