import Nursery.Proofs.Aftermath
import Nursery.Proofs.Delivery.Balance
import Nursery.Proofs.Group.Alarm

/-!
# A task that has ended

When a task has ended, its body is over, and whoever waited for it is woken before anything else is
done.  Nobody comes to wait for it after that.  So once nothing is left to be done, nothing is left
of the task but its outcome.

* `Settled` : the invariant.
* `Reachable.settled` : it holds in every reachable state.
* `Settled.alone` : nobody waits for a task that has ended.
-/

namespace Nursery

/-- Of a task that has ended only the outcome is left, or its waiters are about to be woken. -/
structure Settled (s : State) : Prop where
  /-- Its body is over. -/
  bodiless : ∀ t m, s.tasks.get? t = some m → (s.phase t).isTerminal = true → m.fiber = none
  /-- Nobody waits for it, or the waiters are about to be woken. -/
  waiters : ∀ t m, s.tasks.get? t = some m → (s.phase t).isTerminal = true →
    m.waiters = [] ∨ .wakeWaiters t ∈ s.agenda

variable {s s' : State} {d d' : Desk} {a : Action} {t : TaskId} {m m' : Task}

/-- An item of the agenda wakes the waiters of a task, or leaves that to be done. -/
theorem Effect.wakes (hushed : Hushed (s.doFirst [a])) (e : Effect s a s')
    (ahead : .wakeWaiters t ∈ (s.doFirst [a]).agenda) (found' : s'.tasks.get? t = some m') :
    m'.waiters = [] ∨ .wakeWaiters t ∈ s'.agenda := by
  rcases List.mem_cons.1 ahead with rfl | behind
  · left
    cases e with
    | spent missing => cases missing.symm.trans found'
    | wakeWaiters =>
      obtain ⟨m, found, rfl⟩ := Store.get?_modify_eq_some.1 found'
      rw [if_pos rfl]
  · exact .inr (e.alarms hushed behind rfl)

/-- The waiters of a task that has ended are woken, or that is left to be done. -/
theorem Transition.wakes (sound : Sound s d) (tr : Transition s d s' d')
    (ahead : .wakeWaiters t ∈ s.agenda) (found' : s'.tasks.get? t = some m') :
    m'.waiters = [] ∨ .wakeWaiters t ∈ s'.agenda := by
  cases tr with
  | step =>
    cases agenda : s.agenda with
    | nil =>
      rw [agenda] at ahead
      cases ahead
    | cons a as =>
      obtain ⟨same, e⟩ := State.step_item agenda
      exact e.wakes (same ▸ sound.hushed) (same ▸ ahead) found'
  | stray idle =>
    rw [idle] at ahead
    cases ahead
  | move rests =>
    rw [State.idle_of_resting rests] at ahead
    cases ahead

namespace Settled

theorem init : Settled {} :=
  ⟨fun _ _ found => (by cases found), fun _ _ found => (by cases found)⟩

/-- **A transition leaves nothing of a task that has ended**, whether it ends now or before. -/
theorem next (h : Reachable s d) (tr : Transition s d s' d') (settled : Settled s) :
    Settled s' := by
  have sound := h.sound
  -- a task that ends now has an outcome, so its body is over
  have ends : ∀ t m, s.tasks.get? t = some m → (s.phase t).isTerminal = false →
      (s'.phase t).isTerminal = true → m.fiber = none ∧ .wakeWaiters t ∈ s'.agenda := by
    intro t m found ongoing ended
    obtain ⟨o, given, -, wakes, -⟩ := tr.completes h ongoing ended
    refine ⟨?_, wakes⟩
    by_contra body
    rw [State.outcome?, found, Option.bind_some, h.early t m found (.inl body)] at given
    cases given
  -- a task that is known now was made before
  have unmade : ∀ t, s.nodes.get? t = none → (s'.phase t).isTerminal = true → False := by
    intro t unmade ended
    have ongoing : (s.phase t).isTerminal = false := by
      rw [State.phase, unmade]
      rfl
    obtain ⟨o, given, -⟩ := tr.completes h ongoing ended
    obtain ⟨m, found, -⟩ := Option.bind_eq_some_iff.1 given
    obtain ⟨node, there, -⟩ := Option.map_eq_some_iff.1 (sound.formed.tasks t m found)
    cases unmade.symm.trans there
  refine ⟨fun t m' found' ended => ?_, fun t m' found' ended => ?_⟩
  · cases tr.disposes sound t with
    | absent gone => cases gone.symm.trans found'
    | made fresh => exact (unmade t fresh ended).elim
    | goes found after keeps =>
      cases after.symm.trans found'
      cases before : (s.phase t).isTerminal with
      | true => exact keeps.fiber (settled.bodiless t _ found before)
      | false => exact keeps.fiber (ends t _ found before ended).1
    | ends found after =>
      cases after.symm.trans found'
      rw [Ending.fiber_keep]
      cases before : (s.phase t).isTerminal with
      | true => exact settled.bodiless t _ found before
      | false => exact (ends t _ found before ended).1
  · cases tr.disposes sound t with
    | absent gone => cases gone.symm.trans found'
    | made fresh => exact (unmade t fresh ended).elim
    | goes found after keeps =>
      cases after.symm.trans found'
      cases before : (s.phase t).isTerminal with
      | true =>
        rcases settled.waiters t _ found before with nobody | ahead
        · have fewer := keeps.waiters before
          rw [nobody] at fewer
          exact .inl (List.subset_nil.1 fewer)
        · exact tr.wakes sound ahead found'
      | false => exact .inr (ends t _ found before ended).2
    | ends found after keeping =>
      obtain ⟨r, ending, during⟩ := keeping
      have ongoing : (s.phase t).isTerminal = false := by
        rcases (sound.dispatch.slice_fits during).2 with up | up <;> rw [up] <;> rfl
      exact .inr (ends t _ found ongoing ended).2

/-- When nothing is left to be done, nobody waits for a task that has ended. -/
theorem alone (h : Settled s) (idle : s.agenda = []) (found : s.tasks.get? t = some m)
    (ended : (s.phase t).isTerminal = true) : m.waiters = [] :=
  (h.waiters t m found ended).resolve_right (by simp [idle])

end Settled

/-- **Of a task that has ended only the outcome is left.** -/
theorem Reachable.settled (h : Reachable s d) : Settled s := by
  induction h with
  | init => exact .init
  | next h tr ih => exact ih.next h tr

end Nursery
