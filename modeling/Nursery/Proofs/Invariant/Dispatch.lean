import Nursery.Proofs.Invariant.Housed
import Nursery.Proofs.Invariant.Tether

/-!
# The queues, the workers and the phases agree

A queue holds the tasks of its runtime that are ready, each once and in the band of its priority,
and an open queue holds all of them.  A worker is in the middle of a task of its own runtime, which
is running, or was woken meanwhile, or has ended and is about to leave.

* `Stage.Fits` : the phases that go with the stages of a slice.
* `Dispatch` : the invariant.
* `Dispatch.effect`, `Dispatch.change`, `Dispatch.work`, `Dispatch.move` : it is kept.
-/

namespace Nursery

/-- The phases that go with a stage of a slice. -/
def Stage.Fits (p : Phase) : Stage → Prop
  | .leaving => p.isTerminal = true
  | _ => p = .running ∨ p = .notified

/-- The queues, the workers and the phases of the tasks agree. -/
structure Dispatch (s : State) : Prop where
  /-- What is queued belongs to the runtime, is ready, and is in the band of its priority. -/
  queued : ∀ r rt p t, s.runtimes.get? r = some rt → .task t ∈ rt.queue.band p →
    s.home? t = some r ∧ s.phase t = .ready ∧ s.priority t = p
  /-- Nothing is queued twice. -/
  once : ∀ r rt t, s.runtimes.get? r = some rt → rt.queue.toList.count (.task t) ≤ 1
  /-- What is ready on an open runtime is queued. -/
  ready : ∀ r rt t, s.runtimes.get? r = some rt → rt.closed = false → s.home? t = some r →
    s.phase t = .ready → .task t ∈ rt.queue.toList
  /-- What a worker runs belongs to its runtime, in a phase that goes with the stage. -/
  slice : ∀ r rt t stage, s.runtimes.get? r = some rt → rt.slice = some (.task t stage) →
    s.home? t = some r ∧ stage.Fits (s.phase t)

namespace Dispatch

variable {s s' : State} {c : Context} {hand hand' rest base : List Resource} {a : Action}

theorem init : Dispatch {} where
  queued r rt p t h := by simp [Store.get?, Store.lookup] at h
  once r rt t h := by simp [Store.get?, Store.lookup] at h
  ready r rt t h := by simp [Store.get?, Store.lookup] at h
  slice r rt t stage h := by simp [Store.get?, Store.lookup] at h

/-! ### What follows at once -/

theorem mem_queue (h : Dispatch s) {r : RuntimeId} {rt : Runtime} {t : TaskId}
    (found : s.runtimes.get? r = some rt) (queued : .task t ∈ rt.queue.toList) :
    s.home? t = some r ∧ s.phase t = .ready := by
  obtain ⟨p, hp⟩ := RunQueue.mem_toList.1 queued
  obtain ⟨home, ready, -⟩ := h.queued r rt p t found hp
  exact ⟨home, ready⟩

theorem not_queued (h : Dispatch s) {r : RuntimeId} {rt : Runtime} {t : TaskId}
    (found : s.runtimes.get? r = some rt) (other : s.phase t ≠ .ready) :
    .task t ∉ rt.queue.toList :=
  fun queued => other (h.mem_queue found queued).2

theorem slice_fits (h : Dispatch s) {r : RuntimeId} {t : TaskId} {stage : Stage}
    (during : s.slice r = some (.task t stage)) :
    s.home? t = some r ∧ stage.Fits (s.phase t) := by
  obtain ⟨rt, found, slice⟩ := State.slice_eq during
  exact h.slice r rt t stage found slice

theorem known (h : Dispatch s) (r : RuntimeId) (t : TaskId) (stage : Stage)
    (during : s.slice r = some (.task t stage)) : ∃ task, s.tasks.get? t = some task := by
  obtain ⟨task, found, -⟩ := Option.map_eq_some_iff.1 (h.slice_fits during).1
  exact ⟨task, found⟩

theorem not_sliced (h : Dispatch s) {t : TaskId}
    (up : s.phase t = .suspended ∨ s.phase t = .ready) (r : RuntimeId) (stage : Stage) :
    s.slice r ≠ some (.task t stage) := by
  intro during
  have fits := (h.slice_fits during).2
  cases stage <;> rcases up with up | up <;> simp [Stage.Fits, up, Phase.isTerminal] at fits

/-! ### Changes to one record -/

theorem alike (h : Dispatch s) (phase : ∀ t, s'.phase t = s.phase t)
    (priority : ∀ t r, s.home? t = some r → s'.priority t = s.priority t)
    (home : ∀ t, s'.home? t = s.home? t) (runtimes : s'.runtimes = s.runtimes) :
    Dispatch s' where
  queued r rt p t found queued := by
    obtain ⟨at_home, ready, band⟩ := h.queued r rt p t (runtimes ▸ found) queued
    exact ⟨(home t).trans at_home, (phase t).trans ready, (priority t r at_home).trans band⟩
  once r rt t found := h.once r rt t (runtimes ▸ found)
  ready r rt t found open_ at_home ready :=
    h.ready r rt t (runtimes ▸ found) open_ (home t ▸ at_home) (phase t ▸ ready)
  slice r rt t stage found slice := by
    rw [phase, home]
    exact h.slice r rt t stage (runtimes ▸ found) slice

theorem tell (h : Dispatch s) (e : Event) : Dispatch (s.tell e) :=
  { h with }

theorem doFirst (h : Dispatch s) (as : List Action) : Dispatch (s.doFirst as) :=
  { h with }

theorem doLast (h : Dispatch s) (as : List Action) : Dispatch (s.doLast as) :=
  { h with }

theorem modifyNode (h : Dispatch s) {n : TaskId} {f : Node → Node}
    (phase : ∀ m, (f m).phase = m.phase) (priority : ∀ m, (f m).priority = m.priority) :
    Dispatch (s.modifyNode n f) :=
  h.alike (fun _ => State.phase_modifyNode_same phase)
    (fun _ _ _ => State.priority_modifyNode_same priority) (fun _ => rfl) rfl

theorem modifyTask (h : Dispatch s) {t : TaskId} {f : Task → Task}
    (same : ∀ m, (f m).home = m.home) : Dispatch (s.modifyTask t f) :=
  h.alike (fun _ => rfl) (fun _ _ _ => rfl) (fun _ => State.home?_modifyTask same) rfl

theorem modifyRuntime (h : Dispatch s) {home : RuntimeId} {f : Runtime → Runtime}
    (queue : ∀ rt, (f rt).queue = rt.queue) (closed : ∀ rt, (f rt).closed = rt.closed)
    (slice : ∀ rt t stage, s.runtimes.get? home = some rt →
      (f rt).slice = some (.task t stage) →
        rt.slice = some (.task t stage) ∨ s.home? t = some home ∧ stage.Fits (s.phase t)) :
    Dispatch (s.modifyRuntime home f) where
  queued r rt p t found queued := by
    obtain ⟨m, hm, rfl⟩ := Store.get?_modify_eq_some.1 found
    refine h.queued r m p t hm ?_
    split at queued
    · rwa [queue] at queued
    · exact queued
  once r rt t found := by
    obtain ⟨m, hm, rfl⟩ := Store.get?_modify_eq_some.1 found
    split
    · rw [queue]
      exact h.once r m t hm
    · exact h.once r m t hm
  ready r rt t found open_ at_home ready := by
    obtain ⟨m, hm, rfl⟩ := Store.get?_modify_eq_some.1 found
    split at open_
    · rename_i same
      rw [if_pos same, queue]
      exact h.ready r m t hm (closed m ▸ open_) at_home ready
    · rename_i other
      rw [if_neg other]
      exact h.ready r m t hm open_ at_home ready
  slice r rt t stage found during := by
    obtain ⟨m, hm, rfl⟩ := Store.get?_modify_eq_some.1 found
    split at during
    · rename_i same
      subst same
      rcases slice m t stage hm during with old | new
      · exact h.slice _ m t stage hm old
      · exact new
    · exact h.slice r m t stage hm during

theorem setPaused (h : Dispatch s) (home : RuntimeId) (later : Option (List Event)) :
    Dispatch (s.modifyRuntime home fun rt => { rt with paused := later }) :=
  h.modifyRuntime (fun _ => rfl) (fun _ => rfl) fun _ _ _ _ during => .inl during

theorem setSlice (h : Dispatch s) (home : RuntimeId) {slice : Option Slice}
    (other : ∀ t stage, slice ≠ some (.task t stage)) : Dispatch (s.setSlice home slice) :=
  h.modifyRuntime (fun _ => rfl) (fun _ => rfl) fun _ t stage _ during =>
    absurd during (other t stage)

theorem setTask (h : Dispatch s) {home : RuntimeId} {t : TaskId} (stage : Stage)
    (here : s.home? t = some home) (fits : stage.Fits (s.phase t)) :
    Dispatch (s.setSlice home (some (.task t stage))) :=
  h.modifyRuntime (fun _ => rfl) (fun _ => rfl) fun _ u stage' _ during => by
    cases during
    exact .inr ⟨here, fits⟩

theorem enqueue (h : Dispatch s) (home : RuntimeId) (p : Priority) {e : Entry}
    (other : ∀ t, e ≠ .task t) : Dispatch (s.enqueue home p e) := by
  unfold State.enqueue
  split
  · exact h.doFirst _
  · exact {
      queued := fun r rt q t found queued => by
        obtain ⟨m, hm, rfl⟩ := Store.get?_modify_eq_some.1 found
        refine h.queued r m q t hm ?_
        split at queued
        · rcases RunQueue.mem_band_push.1 queued with queued | ⟨-, same⟩
          · exact queued
          · exact absurd same.symm (other t)
        · exact queued
      once := fun r rt t found => by
        obtain ⟨m, hm, rfl⟩ := Store.get?_modify_eq_some.1 found
        split
        · rw [RunQueue.count_push, List.count_cons_of_ne (other t)]
          exact h.once r m t hm
        · exact h.once r m t hm
      ready := fun r rt t found open_ at_home ready => by
        obtain ⟨m, hm, rfl⟩ := Store.get?_modify_eq_some.1 found
        split at open_
        · rename_i same
          rw [if_pos same]
          exact RunQueue.mem_push.2 (.inl (h.ready r m t hm open_ at_home ready))
        · rename_i other
          rw [if_neg other]
          exact h.ready r m t hm open_ at_home ready
      slice := fun r rt t stage found during => by
        obtain ⟨m, hm, rfl⟩ := Store.get?_modify_eq_some.1 found
        split at during
        · exact h.slice r m t stage hm during
        · exact h.slice r m t stage hm during }

/-- A task that becomes ready goes into the queue of its runtime.  Until then it is in no slice and
in no queue, and no other task is touched. -/
theorem accept (h : Dispatch s) {t : TaskId} {home : RuntimeId} {p : Priority}
    (idle : s.phase t = .ready → False) (free : ∀ r stage, s.slice r ≠ some (.task t stage))
    (others : ∀ u, u ≠ t →
      s'.phase u = s.phase u ∧ s'.priority u = s.priority u ∧ s'.home? u = s.home? u)
    (here : s'.home? t = some home) (ready : s'.phase t = .ready) (band : s'.priority t = p)
    (runtimes : s'.runtimes = s.runtimes) : Dispatch (s'.enqueue home p (.task t)) := by
  have queued : ∀ r rt q u, s.runtimes.get? r = some rt → .task u ∈ rt.queue.band q →
      s'.home? u = some r ∧ s'.phase u = .ready ∧ s'.priority u = q := by
    intro r rt q u found hu
    obtain ⟨at_home, up, same⟩ := h.queued r rt q u found hu
    have hut : u ≠ t := by
      rintro rfl
      exact idle up
    obtain ⟨phase, priority, home⟩ := others u hut
    exact ⟨home.trans at_home, phase.trans up, priority.trans same⟩
  have slice : ∀ r rt u stage, s.runtimes.get? r = some rt → rt.slice = some (.task u stage) →
      s'.home? u = some r ∧ stage.Fits (s'.phase u) := by
    intro r rt u stage found during
    have hut : u ≠ t := by
      rintro rfl
      exact free r stage (by simp [State.slice, found, during])
    obtain ⟨phase, -, home⟩ := others u hut
    rw [phase, home]
    exact h.slice r rt u stage found during
  have old : ∀ r rt u, s.runtimes.get? r = some rt → rt.closed = false → u ≠ t →
      s'.home? u = some r → s'.phase u = .ready → .task u ∈ rt.queue.toList := by
    intro r rt u found open_ hut at_home up
    obtain ⟨phase, -, home⟩ := others u hut
    exact h.ready r rt u found open_ (home ▸ at_home) (phase ▸ up)
  unfold State.enqueue
  split
  · rename_i shut
    exact {
      queued := fun r rt q u found => queued r rt q u (runtimes ▸ found)
      once := fun r rt u found => h.once r rt u (runtimes ▸ found)
      ready := fun r rt u found open_ at_home up => by
        refine old r rt u (runtimes ▸ found) open_ ?_ at_home up
        -- the queue of the new task is closed, so nothing is said of it
        rintro rfl
        cases here.symm.trans at_home
        have found' : s'.runtimes.get? home = some rt := found
        simp [State.closed, found', open_] at shut
      slice := fun r rt u stage found => slice r rt u stage (runtimes ▸ found) }
  · exact {
      queued := fun r rt q u found hu => by
        obtain ⟨m, hm, rfl⟩ := Store.get?_modify_eq_some.1 found
        rw [runtimes] at hm
        split at hu
        · rename_i same
          rcases RunQueue.mem_band_push.1 hu with hu | ⟨rfl, new⟩
          · exact queued r m q u hm hu
          · cases new
            exact ⟨same ▸ here, ready, band⟩
        · exact queued r m q u hm hu
      once := fun r rt u found => by
        obtain ⟨m, hm, rfl⟩ := Store.get?_modify_eq_some.1 found
        rw [runtimes] at hm
        have before := h.once r m u hm
        split
        · rw [RunQueue.count_push]
          by_cases hut : u = t
          · subst hut
            have none := List.count_eq_zero.2 (h.not_queued hm idle)
            rw [List.count_cons_self]
            omega
          · rw [List.count_cons_of_ne (by simpa using Ne.symm hut)]
            exact before
        · exact before
      ready := fun r rt u found open_ at_home up => by
        obtain ⟨m, hm, rfl⟩ := Store.get?_modify_eq_some.1 found
        rw [runtimes] at hm
        by_cases hut : u = t
        · subst hut
          cases here.symm.trans at_home
          rw [if_pos rfl]
          exact RunQueue.mem_push.2 (.inr rfl)
        · split at open_
          · rename_i same
            rw [if_pos same]
            exact RunQueue.mem_push.2 (.inl (old r m u hm open_ hut at_home up))
          · rename_i other
            rw [if_neg other]
            exact old r m u hm open_ hut at_home up
      slice := fun r rt u stage found during => by
        obtain ⟨m, hm, rfl⟩ := Store.get?_modify_eq_some.1 found
        rw [runtimes] at hm
        split at during
        · exact slice r m u stage hm during
        · exact slice r m u stage hm during }

theorem shift (h : Dispatch s) {t : TaskId} {f : Node → Node} {p : Phase}
    (phase : ∀ m, (f m).phase = p) (priority : ∀ m, (f m).priority = m.priority)
    (was : s.phase t ≠ .ready) (now : p ≠ .ready)
    (fits : ∀ r stage, s.slice r = some (.task t stage) → stage.Fits p) :
    Dispatch (s.modifyNode t f) := by
  have bands : ∀ u, (s.modifyNode t f).priority u = s.priority u :=
    fun u => State.priority_modifyNode_same priority
  exact {
    queued := fun r rt q u found queued => by
      obtain ⟨home, ready, band⟩ := h.queued r rt q u found queued
      have htu : t ≠ u := by
        rintro rfl
        exact was ready
      exact ⟨home, (State.phase_modifyNode_of_ne htu).trans ready, (bands u).trans band⟩
    once := h.once
    ready := fun r rt u found open_ home ready => by
      by_cases htu : t = u
      · subst htu
        cases hn : s.nodes.get? t with
        | none => exact absurd ((State.phase_modifyNode_of_none hn).symm.trans ready) was
        | some node =>
          have new : (s.modifyNode t f).phase t = p :=
            (State.phase_modifyNode_self hn).trans (phase _)
          exact absurd (new.symm.trans ready) now
      · exact h.ready r rt u found open_ home ((State.phase_modifyNode_of_ne htu).symm.trans ready)
    slice := fun r rt u stage found during => by
      obtain ⟨home, old⟩ := h.slice r rt u stage found during
      refine ⟨home, ?_⟩
      by_cases htu : t = u
      · subst htu
        cases hn : s.nodes.get? t with
        | none => rwa [State.phase_modifyNode_of_none hn]
        | some node =>
          rw [State.phase_modifyNode_self hn, phase]
          have found' : s.runtimes.get? r = some rt := found
          exact fits r stage (by simp [State.slice, found', during])
      · rwa [State.phase_modifyNode_of_ne htu] }

theorem eraseTask (h : Dispatch s) {t : TaskId} (loose : s.Loose t) :
    Dispatch { s with tasks := s.tasks.erase t } := by
  have home : ∀ u, u ≠ t → ({ s with tasks := s.tasks.erase t } : State).home? u = s.home? u := by
    intro u hut
    rw [State.home?, Store.get?_erase, if_neg (Ne.symm hut)]
    rfl
  exact { h with
    queued := fun r rt p u found queued => by
      have hut : u ≠ t := by
        rintro rfl
        exact loose.queue r rt found (RunQueue.mem_toList.2 ⟨p, queued⟩)
      rw [home u hut]
      exact h.queued r rt p u found queued
    ready := fun r rt u found open_ at_home ready => by
      have hut : u ≠ t := by
        rintro rfl
        simp [State.home?, Store.get?_erase] at at_home
      exact h.ready r rt u found open_ (home u hut ▸ at_home) ready
    slice := fun r rt u stage found during => by
      have hut : u ≠ t := by
        rintro rfl
        have := loose.slice r rt _ found during
        simp [Slice.runs] at this
      rw [home u hut]
      exact h.slice r rt u stage found during }

/-! ### Items of the agenda -/

theorem resume (formed : Formed s) (h : Dispatch s) {t : TaskId} {task : Task}
    (suspended : s.phase t = .suspended) (found : s.tasks.get? t = some task) :
    Dispatch ((s.setPhase t .ready).enqueue task.home (s.priority t) (.task t)) := by
  obtain ⟨node, hn, -⟩ := Option.map_eq_some_iff.1 (formed.tasks t task found)
  have band : ∀ u, (s.setPhase t .ready).priority u = s.priority u :=
    fun u => State.priority_modifyNode_same fun _ => rfl
  refine h.accept (by simp [suspended]) (h.not_sliced (.inl suspended)) (fun u hut => ?_) ?_ ?_
    (band t) rfl
  · exact ⟨State.phase_modifyNode_of_ne (Ne.symm hut), band u, rfl⟩
  · exact congrArg (Option.map Task.home) found
  · exact State.phase_modifyNode_self hn

theorem effect (formed : Formed s) (tether : Tether (s.doFirst [a])) (e : Effect s a s')
    (pre : Dispatch (s.doFirst [a])) : Dispatch s' := by
  have h : Dispatch s := { pre with }
  cases e with
  | spent | awake | inform | trip | announce | answer | record | panic | dropGroup | dropUndrained
  | dropAnswered | dropPending | dissolve | silence | discardTask | discardDrain | abandon =>
    exact { h with }
  | cancel | finish => exact { h.modifyNode (fun _ => by rfl) (fun _ => by rfl) with }
  | orphan => exact h.modifyNode (fun _ => by rfl) (fun _ => by rfl)
  | reap | reapLast =>
    exact { (h.modifyNode (fun _ => by rfl) (fun _ => by rfl)).modifyNode (fun _ => by rfl)
      (fun _ => by rfl) with }
  | resume suspended found => exact h.resume formed suspended found
  | @notify t running =>
    have fits : ∀ r stage, s.slice r = some (.task t stage) → stage.Fits .notified := by
      intro r stage during
      have := (h.slice_fits during).2
      rw [running] at this
      cases stage <;> simp [Stage.Fits, Phase.isTerminal] at this ⊢
    exact { h.shift (fun _ => by rfl) (fun _ => by rfl) (by simp [running]) (by simp) fits with }
  | wakeWaiters | forget => exact { h.modifyTask (fun _ => by rfl) with }
  | @reportFailure t f trace only | @dropHandle t f trace only =>
    have kept := h.modifyTask (t := t) (f := f) fun m => by
      obtain ⟨b, eq⟩ := only m
      rw [eq]
    exact { kept with }
  | @bury t => exact { h.eraseTask (tether.buried t List.mem_cons_self).pop with }

/-! ### Lines -/

theorem launch (formed : Formed s) (h : Dispatch s) {priority : Priority} {parent : Option TaskId}
    {nodes : Store TaskId Node} (grown : Grown s .task priority parent .ready nodes)
    (trace : Array Event) (task : Task) (groups : Store TaskId Group) :
    Dispatch ({ s with
      nodes := nodes, trace := trace, groups := groups
      tasks := s.tasks.set s.nextNode task }.enqueue task.home priority (.task s.nextNode)) := by
  have fresh := State.fresh_nextNode formed.nodes
  have unseen : s.phase s.nextNode = .suspended := by simp [State.phase, fresh]
  obtain ⟨b, new⟩ := grown.new
  refine h.accept (by simp [unseen]) (h.not_sliced (.inl unseen)) (fun u hut => ⟨?_, ?_, ?_⟩) ?_ ?_
    ?_ rfl
  · exact grown.phase_old rfl hut
  · exact congrArg (Option.getD · _) (grown.field (fun _ _ => rfl) hut)
  · exact congrArg (Option.map Task.home) (Store.get?_set_of_ne (Ne.symm hut))
  · exact congrArg (Option.map Task.home) Store.get?_set_self
  · exact grown.phase_new rfl
  · simp [State.priority, new]

theorem makeGroup (formed : Formed s) (h : Dispatch s) (c : Context) (home : RuntimeId) :
    Dispatch (s.makeGroup c home) := by
  obtain ⟨nodes, trace, priority, grown, eq⟩ := State.makeGroup_eq formed.nodes c home
  obtain ⟨b, new⟩ := grown.new
  rw [eq]
  refine h.alike (fun t => ?_) (fun t r known => ?_) (fun _ => rfl) rfl
  · by_cases ht : t = s.nextNode
    · subst ht
      simp [State.phase, new, State.fresh_nextNode formed.nodes]
    · exact grown.phase_old rfl ht
  · have ht : t ≠ s.nextNode := by
      rintro rfl
      simp [State.home?, formed.fresh_task] at known
    exact congrArg (Option.getD · _) (grown.field (fun _ _ => rfl) ht)

theorem post (h : Dispatch s) (a : ActorId) (home : RuntimeId) (message : Message) :
    Dispatch (s.post a home message) := by
  unfold State.post
  split
  · exact h
  · dsimp only
    split
    · exact { h with }
    · refine enqueue ?_ _ _ (by simp)
      exact { h with }

theorem change (formed : Formed s) (hc : Change c s hand s' hand') (h : Dispatch s) :
    Dispatch s' := by
  cases hc with
  | tell | shed | nameTask | adopt | share | actor | refuse | learn | expect | draw | fail
  | listen | park | state | record | release | cancel | wake => exact { h with }
  | @spawn home parent priority body =>
    obtain ⟨nodes, trace, grown, eq⟩ :=
      State.launch_addNode_eq formed.nodes priority parent home body false
    rw [eq]
    exact h.launch formed grown trace _ s.groups
  | group => exact h.makeGroup formed _ _
  | @add g group priority body =>
    obtain ⟨nodes, trace, p, grown, eq⟩ :=
      State.addChild_eq formed.nodes formed.fresh_task g group priority body
    rw [eq]
    exact h.launch formed grown trace _ _
  | call =>
    refine post ?_ _ _ _
    exact { h with }
  | send => exact h.post _ _ _
  | register | take => exact h.modifyTask fun _ => by rfl

theorem changes (formed : Formed s) (hc : Changes c s hand s' hand') (h : Dispatch s) :
    Dispatch s' :=
  (hc.invariant (I := fun s _ => Formed s ∧ Dispatch s)
    (fun hc h => ⟨h.1.change hc, h.2.change h.1 hc⟩) ⟨formed, h⟩).2

/-! ### Work -/

/-- The body of a task is at work only on its own runtime, and the task is running or was woken. -/
theorem runs (h : Dispatch s) {home : RuntimeId} {t : TaskId} {task : Task} {f : Fiber}
    (runs : s.Runs home t task f) :
    s.home? t = some home ∧ (s.phase t = .running ∨ s.phase t = .notified) := by
  rcases runs.slice with during | during
  · exact h.slice_fits during
  · exact h.slice_fits during

theorem one_slice (h : Dispatch s) {home r : RuntimeId} {t : TaskId} {stage stage' : Stage}
    (during : s.slice home = some (.task t stage)) (other : s.slice r = some (.task t stage')) :
    home = r := by
  have mine := (h.slice_fits during).1
  rw [(h.slice_fits other).1] at mine
  exact (Option.some.inj mine).symm

theorem only_slice (h : Dispatch s) {home r : RuntimeId} {t : TaskId} {stage new stage' : Stage}
    (during : s.slice home = some (.task t stage))
    (now : (s.setSlice home (some (.task t new))).slice r = some (.task t stage')) :
    stage' = new := by
  rcases State.slice_setSlice now with ⟨-, same⟩ | ⟨hr, old⟩
  · cases same
    rfl
  · exact absurd (h.one_slice during old) hr

theorem unsliced (h : Dispatch s) {home : RuntimeId} {t : TaskId} {stage : Stage}
    (during : s.slice home = some (.task t stage)) (r : RuntimeId) (stage' : Stage) :
    (s.setSlice home none).slice r ≠ some (.task t stage') := by
  intro other
  by_cases hr : home = r
  · subst hr
    cases hn : s.runtimes.get? home <;>
      simp [State.slice, State.setSlice, State.modifyRuntime, Store.get?_modify_self, hn] at other
  · have other' : s.slice r = some (.task t stage') := by
      simpa [State.slice, State.setSlice, State.modifyRuntime, Store.get?_modify_of_ne hr]
        using other
    exact hr (h.one_slice during other')

theorem popped (h : Dispatch s) {home : RuntimeId} {e : Entry} {queue : RunQueue Entry}
    (takes : s.Takes home e queue) (other : ∀ t, e ≠ .task t) :
    Dispatch (s.popped home queue) := by
  obtain ⟨rt₀, found₀, -, -, pop⟩ := takes.found
  have first := RunQueue.toList_pop? pop
  -- the entry that is taken is no task, so no task has lost its place
  exact {
    queued := fun r rt p t found queued => by
      obtain ⟨m, hm, rfl⟩ := Store.get?_modify_eq_some.1 found
      refine h.queued r m p t hm ?_
      split at queued
      · rename_i same
        subst same
        cases found₀.symm.trans hm
        exact RunQueue.mem_band_of_pop? pop queued
      · exact queued
    once := fun r rt t found => by
      obtain ⟨m, hm, rfl⟩ := Store.get?_modify_eq_some.1 found
      have before := h.once r m t hm
      split
      · rename_i same
        subst same
        cases found₀.symm.trans hm
        rwa [first, List.count_cons_of_ne (other t)] at before
      · exact before
    ready := fun r rt t found open_ at_home ready => by
      obtain ⟨m, hm, rfl⟩ := Store.get?_modify_eq_some.1 found
      split at open_
      · rename_i same
        have before := h.ready r m t hm open_ at_home ready
        rw [if_pos same]
        subst same
        cases found₀.symm.trans hm
        rw [first] at before
        rcases List.mem_cons.1 before with head | tail
        · exact absurd head.symm (other t)
        · exact tail
      · rename_i other
        rw [if_neg other]
        exact h.ready r m t hm open_ at_home ready
    slice := fun r rt t stage found during => by
      obtain ⟨m, hm, rfl⟩ := Store.get?_modify_eq_some.1 found
      split at during
      · exact h.slice r m t stage hm during
      · exact h.slice r m t stage hm during }

theorem taken (h : Dispatch s) {home : RuntimeId} {t : TaskId} {queue : RunQueue Entry}
    (takes : s.Takes home (.task t) queue) :
    s.home? t = some home ∧ s.phase t = .ready ∧ .task t ∉ queue.toList := by
  obtain ⟨rt, found, -, -, pop⟩ := takes.found
  have first := RunQueue.toList_pop? pop
  obtain ⟨at_home, ready⟩ := h.mem_queue found (RunQueue.mem_of_pop? pop)
  refine ⟨at_home, ready, fun again => ?_⟩
  have once := h.once home rt t found
  rw [first, List.count_cons_self] at once
  have := List.count_pos_iff.2 again
  omega

theorem begin (formed : Formed s) (h : Dispatch s) {home : RuntimeId} {t : TaskId}
    {queue : RunQueue Entry} (takes : s.Takes home (.task t) queue) :
    Dispatch (((s.popped home queue).setPhase t .running).setSlice home
      (some (.task t .polling))) := by
  obtain ⟨at_home, ready, alone⟩ := h.taken takes
  obtain ⟨rt₀, found₀, free, -, pop⟩ := takes.found
  obtain ⟨task, known, -⟩ := Option.map_eq_some_iff.1 at_home
  obtain ⟨node, hn, -⟩ := Option.map_eq_some_iff.1 (formed.tasks t task known)
  have first := RunQueue.toList_pop? pop
  have running : (s.setPhase t .running).phase t = .running := State.phase_modifyNode_self hn
  have phase : ∀ u, u ≠ t → (s.setPhase t .running).phase u = s.phase u :=
    fun u hut => State.phase_modifyNode_of_ne (Ne.symm hut)
  have band : ∀ u, (s.setPhase t .running).priority u = s.priority u :=
    fun u => State.priority_modifyNode_same fun _ => rfl
  -- the two changes of the runtime are one
  have both : ((s.popped home queue).setPhase t .running).setSlice home (some (.task t .polling)) =
      (s.setPhase t .running).modifyRuntime home fun rt =>
        { rt with queue := queue, slice := some (.task t .polling) } := by
    simp [State.popped, State.setPhase, State.modifyNode, State.setSlice, State.modifyRuntime,
      Store.modify_modify]
  rw [both]
  exact {
    queued := fun r rt p u found queued => by
      obtain ⟨m, hm, rfl⟩ := Store.get?_modify_eq_some.1 found
      have old : .task u ∈ m.queue.band p ∧ u ≠ t := by
        split at queued
        · rename_i same
          subst same
          cases found₀.symm.trans hm
          refine ⟨RunQueue.mem_band_of_pop? pop queued, ?_⟩
          rintro rfl
          exact alone (RunQueue.mem_toList.2 ⟨p, queued⟩)
        · rename_i other
          refine ⟨queued, ?_⟩
          rintro rfl
          have := (h.queued r m p u hm queued).1
          exact other (Option.some.inj (at_home.symm.trans this))
      obtain ⟨here, up, in_band⟩ := h.queued r m p u hm old.1
      exact ⟨here, (phase u old.2).trans up, (band u).trans in_band⟩
    once := fun r rt u found => by
      obtain ⟨m, hm, rfl⟩ := Store.get?_modify_eq_some.1 found
      have before := h.once r m u hm
      split
      · rename_i same
        subst same
        cases found₀.symm.trans hm
        rw [first, List.count_cons] at before
        exact Nat.le_trans (Nat.le_add_right _ _) before
      · exact before
    ready := fun r rt u found open_ here up => by
      obtain ⟨m, hm, rfl⟩ := Store.get?_modify_eq_some.1 found
      -- the task itself is running now
      have hut : u ≠ t := by
        rintro rfl
        exact absurd (running.symm.trans up) (by simp)
      have up' := (phase u hut).symm.trans up
      split at open_
      · rename_i same
        have before := h.ready r m u hm open_ here up'
        rw [if_pos same]
        subst same
        cases found₀.symm.trans hm
        rw [first] at before
        rcases List.mem_cons.1 before with head | tail
        · cases head
          exact absurd rfl hut
        · exact tail
      · rename_i other
        rw [if_neg other]
        exact h.ready r m u hm open_ here up'
    slice := fun r rt u stage found during => by
      obtain ⟨m, hm, rfl⟩ := Store.get?_modify_eq_some.1 found
      split at during
      · rename_i same
        cases during
        exact ⟨same ▸ at_home, .inl running⟩
      · have hut : u ≠ t := by
          rintro rfl
          refine h.not_sliced (.inr ready) r stage ?_
          simp only [State.slice, State.setPhase, State.modifyNode] at hm ⊢
          rw [hm, Option.bind_some, during]
        obtain ⟨here, fits⟩ := h.slice r m u stage hm during
        refine ⟨here, ?_⟩
        rw [← phase u hut] at fits
        exact fits }

theorem again (formed : Formed s) (h : Dispatch s) {home : RuntimeId} {t : TaskId} {task : Task}
    {stage : Stage} {joining : Node → Bool} (during : s.slice home = some (.task t stage))
    (ongoing : s.phase t ≠ .ready) (found : s.tasks.get? t = some task) :
    Dispatch ((((s.setSlice home none).modifyNode t fun m =>
      { m with joining := joining m, phase := .ready }).doFirst [.forget t]).enqueue
        task.home (s.priority t) (.task t)) := by
  obtain ⟨node, hn, -⟩ := Option.map_eq_some_iff.1 (formed.tasks t task found)
  have left : Dispatch (s.setSlice home none) := h.setSlice home (by simp)
  refine left.accept ongoing (h.unsliced during) (fun u hut => ⟨?_, ?_, rfl⟩) ?_ ?_ ?_ rfl
  · exact State.phase_modifyNode_of_ne (Ne.symm hut)
  · exact State.priority_modifyNode_same fun _ => rfl
  · exact congrArg (Option.map Task.home) found
  · exact State.phase_modifyNode_self (s := s.setSlice home none) hn
  · exact State.priority_modifyNode_same fun _ => rfl

theorem ongoing_of_waits (h : Dispatch s) {home : RuntimeId} {t : TaskId} {stage : Stage}
    {joining : Node → Bool} (during : s.slice home = some (.task t stage))
    (why : s.Waits t stage joining) : s.phase t = .running ∨ s.phase t = .notified := by
  have fits := (h.slice_fits during).2
  rcases why with ⟨rfl, -⟩ | ⟨rfl | ⟨rfl, -⟩, -⟩
  · exact fits
  · exact fits
  · exact fits

theorem ongoing_of_over (h : Dispatch s) {home : RuntimeId} {t : TaskId} {stage : Stage}
    (during : s.slice home = some (.task t stage)) (past : s.Over t stage) :
    s.phase t = .running ∨ s.phase t = .notified := by
  have fits := (h.slice_fits during).2
  rcases past with rfl | ⟨rfl, -⟩
  · exact fits
  · exact fits

theorem work (formed : Formed s) {home : RuntimeId} (w : Work s home s') (h : Dispatch s) :
    Dispatch s' := by
  -- a turn of a body, up to what is stored of the body
  have body : ∀ {t : TaskId} {task : Task} {f : Fiber} {s₁ : State} {hand : List Resource},
      s.Runs home t task f → Changes ⟨.task t, some home⟩ s f.resources s₁ hand →
        ∀ fiber, Dispatch (s₁.modifyTask t fun m => { m with fiber := fiber }) ∧
          (s₁.modifyTask t fun m => { m with fiber := fiber }).home? t = some home ∧
          (s₁.phase t = .running ∨ s₁.phase t = .notified) := by
    intro t task f s₁ hand runs hc fiber
    have h₁ := h.changes formed hc
    obtain ⟨task', runs'⟩ := runs.keeps (hc.keeps formed)
    obtain ⟨here, fits⟩ := h₁.runs runs'
    exact ⟨h₁.modifyTask fun _ => by rfl, (State.home?_modifyTask fun _ => by rfl).trans here, fits⟩
  cases w with
  | stop => exact { h with }
  | lost => exact h.setSlice home (by simp)
  | next runs _ changes => exact (body runs changes _).1
  | suspend runs _ changes =>
    obtain ⟨stored, here, fits⟩ := body runs changes (some _)
    exact stored.setTask .suspending here fits
  | @ends _ _ _ _ _ ending _ told runs changes =>
    obtain ⟨stored, here, fits⟩ := body runs changes none
    exact { stored.setTask (.ended ending) here fits with }
  | @pause _ _ _ f' _ later runs _ changes =>
    exact { (body runs changes (some f')).1.setPaused home (some later) with }
  | @rest t stage joining during why running =>
    have left : Dispatch (s.setSlice home none) := h.setSlice home (by simp)
    have resting := left.shift (t := t)
      (f := fun m => { m with joining := joining m, phase := .suspended }) (fun _ => rfl)
      (fun _ => rfl) (fun ready => by cases running.symm.trans ready) (by simp)
      (fun r stage' other => absurd other (h.unsliced during r stage'))
    exact resting.doFirst _
  | again during why woken found =>
    refine h.again formed during (fun ready => ?_) found
    rcases h.ongoing_of_waits during why with up | up <;> simp [up] at ready
  | forgotten during _ missing =>
    obtain ⟨task, found⟩ := h.known _ _ _ during
    exact absurd (missing.symm.trans found) (by simp)
  | @endBody t ending f trace cancelled during only =>
    obtain ⟨here, fits⟩ := h.slice_fits during
    have joined : Dispatch (s.setSlice home (some (.task t .joining))) :=
      h.setTask .joining here fits
    have kept := joined.modifyTask (t := t) (f := f) fun m => by
      obtain ⟨o, a, eq⟩ := only m
      rw [eq]
    exact { kept with }
  | @complete t stage p trace during past alone ended =>
    have up := h.ongoing_of_over during past
    obtain ⟨here, -⟩ := h.slice_fits during
    obtain ⟨task, known, -⟩ := Option.map_eq_some_iff.1 here
    obtain ⟨node, hn, -⟩ := Option.map_eq_some_iff.1 (formed.tasks t task known)
    have left : Dispatch (s.setSlice home none) := h.setSlice home (by simp)
    have gone := left.shift (t := t) (f := fun m => { m with joining := false, phase := p })
      (fun _ => rfl) (fun _ => rfl)
      (fun ready => by
        have ready' : s.phase t = .ready := ready
        rcases up with up | up <;> simp [up] at ready')
      (by rintro rfl; simp [Phase.isTerminal] at ended)
      (fun r stage' other => absurd other (h.unsliced during r stage'))
    have leaving := gone.setTask .leaving here (by
      rw [State.phase_modifyNode_self (s := s.setSlice home none) hn]
      exact ended)
    have same : ((s.setSlice home none).modifyNode t fun m =>
        { m with joining := false, phase := p }).setSlice home (some (.task t .leaving)) =
      (s.modifyNode t fun m => { m with joining := false, phase := p }).setSlice home
        (some (.task t .leaving)) := by
      simp [State.setSlice, State.modifyNode, State.modifyRuntime, Store.modify_modify]
    rw [same] at leaving
    exact { leaving with }
  | leave => exact (h.setSlice home (by simp)).doFirst _
  | @receive a =>
    have taken : ∀ f, Dispatch (s.modifyActor a f) := fun _ => { h with }
    exact (taken _).setSlice home (by simp)
  | drained => exact { h.setSlice home (by simp) with }
  | drainAgain => exact ((h.setSlice home (by simp)).tell _).enqueue _ _ (by simp)
  | handle during changes => exact (h.changes formed changes).setSlice home (by simp)
  | @hold a handled _ code' _ frame' reply s₁ later during changes =>
    have stored : Dispatch (s₁.setSlice home
        (some (.drain a handled (.handling code' frame' reply)))) :=
      (h.changes formed changes).setSlice home (by simp)
    exact { stored.setPaused home (some later) with }
  | handled result during changes =>
    exact ((h.changes formed changes).setSlice home (by simp)).doLast _
  | @reply a handled reply result trace outcome =>
    have past : Dispatch (s.setSlice home (some (.drain a (handled + 1) .idle))) :=
      h.setSlice home (by simp)
    exact { past with }
  | begin takes => exact h.begin formed takes
  | refuse takes undue => exact absurd (.inl (h.taken takes).2.1) undue
  | beginDrain takes => exact (h.popped takes (by simp)).setSlice home (by simp)
  | markerStop takes => exact { h.popped takes (by simp) with }
  | markerAgain band goal takes =>
    exact { (h.popped takes (by simp)).enqueue home band (by simp) with }
  | markerSkip takes => exact h.popped takes (by simp)

/-! ### Moves -/

theorem start (h : Dispatch s) (r : RuntimeId) (goal : Goal) : Dispatch (s.start r goal) := by
  obtain ⟨trace, eq⟩ := s.start_eq r goal
  rw [eq]
  exact { h.setPaused r none with }

theorem install (formed : Formed s) (housed : Housed s) (h : Dispatch s) (place : Nat)
    (settings : Settings) :
    Dispatch (s.install place settings) := by
  have fresh := formed.runtimes.fresh (k := ⟨s.runtimes.size⟩) rfl
  have old : ∀ r rt, (s.install place settings).runtimes.get? r = some rt →
      s.runtimes.get? r = some rt ∨ r = ⟨s.runtimes.size⟩ ∧ rt = { settings := settings } := by
    intro r rt found
    by_cases new : (⟨s.runtimes.size⟩ : RuntimeId) = r
    · subst new
      simp only [State.install, Store.get?_set_self, Option.some.injEq] at found
      exact .inr ⟨rfl, found.symm⟩
    · exact .inl ((Store.get?_set_of_ne new).symm.trans found)
  exact {
    queued := fun r rt p t found queued => by
      rcases old r rt found with found | ⟨rfl, rfl⟩
      · exact h.queued r rt p t found queued
      · cases p <;> simp [RunQueue.band] at queued
    once := fun r rt t found => by
      rcases old r rt found with found | ⟨rfl, rfl⟩
      · exact h.once r rt t found
      · simp [RunQueue.toList]
    ready := fun r rt t found open_ at_home ready => by
      rcases old r rt found with found | ⟨rfl, rfl⟩
      · exact h.ready r rt t found open_ at_home ready
      · obtain ⟨m, hm⟩ := housed.tasks t _ at_home
        exact absurd (fresh.symm.trans hm) (by simp)
    slice := fun r rt t stage found during => by
      rcases old r rt found with found | ⟨rfl, rfl⟩
      · exact h.slice r rt t stage found during
      · cases during }

theorem close (h : Dispatch s) (r : RuntimeId) : Dispatch (s.close r) where
  queued r' rt p t found queued := by
    obtain ⟨m, hm, rfl⟩ := Store.get?_modify_eq_some.1 found
    split at queued
    · cases p <;> simp [RunQueue.band] at queued
    · exact h.queued r' m p t hm queued
  once r' rt t found := by
    obtain ⟨m, hm, rfl⟩ := Store.get?_modify_eq_some.1 found
    split
    · simp [RunQueue.toList]
    · exact h.once r' m t hm
  ready r' rt t found open_ at_home ready := by
    obtain ⟨m, hm, rfl⟩ := Store.get?_modify_eq_some.1 found
    split at open_
    · cases open_
    · rename_i other
      rw [if_neg other]
      exact h.ready r' m t hm open_ at_home ready
  slice r' rt t stage found during := by
    obtain ⟨m, hm, rfl⟩ := Store.get?_modify_eq_some.1 found
    split at during
    · exact h.slice r' m t stage hm during
    · exact h.slice r' m t stage hm during

theorem move (formed : Formed s) (housed : Housed s) (idle : s.agenda = []) {d d' : Desk}
    (m : Move s d s' d') (h : Dispatch s) : Dispatch s' := by
  cases m with
  | build place batch stem =>
    rcases s.build_cases place batch stem with same | ⟨-, settings, built⟩
    · rwa [same]
    · rw [built]
      exact h.install formed housed place settings
  | start | block | join => exact h.start _ _
  | startRounds _ rounds band =>
    have marked : Dispatch { s with markers := s.markers + 1 } := { h with }
    exact (marked.enqueue _ _ (by simp)).start _ _
  | @launchRoot _ r _ body =>
    obtain ⟨nodes, trace, grown, eq⟩ :=
      State.launch_addNode_eq formed.nodes .normal none r body true
    rw [State.launchRoot, eq]
    exact h.launch formed grown trace _ s.groups
  | leaveRoot => exact (h.modifyTask fun _ => by rfl).doFirst _
  | @close place r =>
    have removed : Dispatch { s with places := s.places.erase place } := { h with }
    exact removed.close r
  | line plain => exact h.changes formed (State.plain?_fits idle plain)
  | @shelve f => exact h.changes formed (State.shelve_changes (c := { who := .main }) f s [])

end Dispatch

end Nursery
