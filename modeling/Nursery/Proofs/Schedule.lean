import Nursery.Proofs.Invariant.Halted
import Nursery.Proofs.Invariant.Lasts

/-!
# The phases of the tasks and the queues agree

A task that is ready is queued once, and no other task is queued, however often and from wherever
it is woken.  So an entry that comes up always starts a slice, and no task gets two slices at a
time, nor another one after its end.

* `Dispatch.count` : how often a task is queued.
* `Dispatch.during` : a task in a slice is running, or was woken meanwhile, or has ended.
* `State.step_takes` : an entry that comes up starts a slice.
* `queue_agrees` : the queues and the phases agree in every reachable state, and an end is final.
-/

namespace Nursery

variable {s : State} {d : Desk} {r : RuntimeId} {rt : Runtime} {t : TaskId} {stage : Stage}

namespace Dispatch

/-- A task of an open runtime is queued once if it is ready, and not at all otherwise. -/
theorem count (h : Dispatch s) (home : s.home? t = some r) (found : s.runtimes.get? r = some rt)
    (running : rt.closed = false) :
    rt.queue.toList.count (.task t) = if s.phase t = .ready then 1 else 0 := by
  by_cases ready : s.phase t = .ready
  · rw [if_pos ready]
    have queued := List.count_pos_iff.2 (h.ready r rt t found running home ready)
    have once := h.once r rt t found
    omega
  · rw [if_neg ready]
    exact List.count_eq_zero.2 (h.not_queued found ready)

/-- A task in a slice is running, or was woken meanwhile; only while its slice is being left it
has ended. -/
theorem during (h : Dispatch s) (slice : s.slice r = some (.task t stage)) :
    s.phase t = .running ∨ s.phase t = .notified ∨
      stage = .leaving ∧ (s.phase t).isTerminal = true := by
  have fits := (h.slice_fits slice).2
  cases stage with
  | leaving => exact .inr (.inr ⟨rfl, fits⟩)
  | polling | suspending | ended | joining => exact fits.imp_right .inl

theorem left_of_ended (h : Dispatch s) (ended : (s.phase t).isTerminal = true)
    (slice : s.slice r = some (.task t stage)) : stage = .leaving := by
  rcases h.during slice with up | up | ⟨leaving, -⟩
  · simp [up, Phase.isTerminal] at ended
  · simp [up, Phase.isTerminal] at ended
  · exact leaving

theorem not_taken (h : Dispatch s) (slice : s.slice r = some (.task t stage)) (home : RuntimeId)
    (queue : RunQueue Entry) : ¬ s.Takes home (.task t) queue := by
  intro takes
  exact h.not_sliced (.inr (h.taken takes).2.1) r stage slice

end Dispatch

/-- Between two moves of the main thread a task in a slice is running, or was woken meanwhile. -/
theorem Sound.held (h : Sound s d) (halted : Halted s) (rests : s.resting = true)
    (slice : s.slice r = some (.task t stage)) : s.phase t = .running ∨ s.phase t = .notified := by
  have still : ∀ goal, s.active ≠ some (r, goal) := by
    intro goal active
    simp [State.resting, active] at rests
  have line := halted r _ slice still
  rcases h.dispatch.during slice with up | up | ⟨leaving, -⟩
  · exact .inl up
  · exact .inr up
  · subst leaving
    cases line

/-- An entry that comes up starts a slice if its task is ready. -/
theorem State.step_takes {goal : Goal} {queue : RunQueue Entry} (idle : s.agenda = [])
    (active : s.active = some (r, goal)) (takes : s.Takes r (.task t) queue)
    (ready : s.phase t = .ready) :
    s.step = ((s.popped r queue).setPhase t .running).setSlice r (some (.task t .polling)) := by
  obtain ⟨rt, found, free, running, pop⟩ := takes.found
  have next : s.step = (s.popped r queue).beginTask r t := by
    simp [State.step, idle, active, State.work, found, free, running, pop, State.popped]
  have same : (s.popped r queue).phase t = .ready := ready
  rw [next, State.beginTask, if_pos (.inl same)]

/-- **The queues and the phases agree.**  On an open runtime a task is queued once if it is ready
and not at all otherwise, on its own runtime and in the band of its priority.  A task in a slice is
running or was woken meanwhile, also while its worker is held; it is in no other slice, and no
second one can start.  An entry that comes up always starts a slice.  A task that has ended is
never polled, its phase never changes again, and a priority never changes at all. -/
theorem queue_agrees (h : Reachable s d) :
    (∀ t r rt, s.home? t = some r → s.runtimes.get? r = some rt → rt.closed = false →
      rt.queue.toList.count (.task t) = if s.phase t = .ready then 1 else 0) ∧
    (∀ t r rt p, s.runtimes.get? r = some rt → .task t ∈ rt.queue.band p →
      s.home? t = some r ∧ s.priority t = p) ∧
    (∀ t r stage, s.slice r = some (.task t stage) →
      (s.phase t = .running ∨ s.phase t = .notified ∨
        stage = .leaving ∧ (s.phase t).isTerminal = true) ∧
      (s.resting = true → s.phase t = .running ∨ s.phase t = .notified) ∧
      (∀ r' stage', s.slice r' = some (.task t stage') → r' = r) ∧
      ∀ r' queue, ¬ s.Takes r' (.task t) queue) ∧
    (∀ t r queue, s.Takes r (.task t) queue → s.phase t = .ready ∧
      ∀ goal, s.agenda = [] → s.active = some (r, goal) → s.step =
        ((s.popped r queue).setPhase t .running).setSlice r (some (.task t .polling))) ∧
    (∀ t r, (s.phase t).isTerminal = true → s.slice r ≠ some (.task t .polling)) ∧
    ∀ s' d', Leads s d s' d' → ∀ t m, s.nodes.get? t = some m →
      s'.priority t = s.priority t ∧
      ((s.phase t).isTerminal = true → s'.phase t = s.phase t) := by
  have sound := h.sound
  have dispatch := sound.dispatch
  refine ⟨fun t r rt => dispatch.count, fun t r rt p found queued => ?_,
    fun t r stage slice => ⟨dispatch.during slice, ?_, ?_, dispatch.not_taken slice⟩,
    fun t r queue takes => ?_, fun t r ended slice => ?_, fun s' d' leads t m found => ?_⟩
  · obtain ⟨home, -, band⟩ := dispatch.queued r rt p t found queued
    exact ⟨home, band⟩
  · exact fun rests => sound.held h.halted rests slice
  · exact fun r' stage' other => dispatch.one_slice other slice
  · have ready := (dispatch.taken takes).2.1
    exact ⟨ready, fun goal idle active => State.step_takes idle active takes ready⟩
  · cases dispatch.left_of_ended ended slice
  · have lasts := leads.lasts h
    exact ⟨lasts.priority found, lasts.phase⟩

/-- The child is ready and queued once. -/
theorem queue_agrees_family : (family 6).phase ⟨1⟩ = .ready ∧
    ∃ rt, (family 6).runtimes.get? ⟨0⟩ = some rt ∧ rt.queue.toList.count (.task ⟨1⟩) = 1 := by
  have ready : (family 6).phase ⟨1⟩ = .ready := by decide
  have home : (family 6).home? ⟨1⟩ = some ⟨0⟩ := by decide
  have count := (queue_agrees (reachable_family 6)).1 ⟨1⟩ ⟨0⟩ _ home rfl rfl
  rw [if_pos ready] at count
  exact ⟨ready, _, rfl, count⟩

end Nursery
