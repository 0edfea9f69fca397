import Nursery.Proofs.Invariant.Sound

/-!
# No wake is lost

A task that is suspended waits for something that is not there yet.  Whatever comes first, the look
of the task or the thing that it looks for, and wherever the thing comes from, the task is put back
into its queue or is noted to have been woken before its slice is over.

* `Wait.Unmet`, `State.Unmet` : what a task waits for is not there.
* `no_lost_wake` : **a task stays suspended only while what it waits for is not there.**
-/

namespace Nursery

/-- What a wait is for is not there.  Whoever parked waits for a wake alone; whoever gives way or
fills a group waits for nothing. -/
def Wait.Unmet (s : State) : Wait → Prop
  | .yielding _ | .spinning .. | .filling .. => False
  | .parked => True
  | .awaiting (.handle u) _ => (s.phase u).isTerminal = false
  | .awaiting (.call k) _ => ∃ call, s.calls.get? k = some call ∧ call.outcome = none
  | .awaiting (.group _) _ => False
  | .selecting handles => ∀ h ∈ handles, (s.phase h.2).isTerminal = false
  | .next g | .all g .. =>
    s.completed g = [] ∧ ∃ group, s.groups.get? g = some group ∧ 0 < group.remaining

/-- What a task waits for is not there: what its body looks for, or, when the body is over, the end
of its children. -/
def State.Unmet (s : State) (t : TaskId) : Option Fiber → Prop
  | some f => ∃ w, f.waiting = some w ∧ w.wait.Unmet s
  | none => s.children t ≠ []

variable {s s' : State} {d d' : Desk} {t : TaskId} {task : Task}

/-- What a wait is for is there for its owner to look at, so an armed wait is unmet. -/
theorem Wait.Armed.unmet {w : Wait} {rs : List Resource} (there : ∀ r ∈ rs, s.Has r)
    (own : w.OnOwn rs) (h : w.Armed s t) : w.Unmet s := by
  have listens : ∀ g, .group g ∈ rs → s.Listens t g →
      s.completed g = [] ∧ ∃ group, s.groups.get? g = some group ∧ 0 < group.remaining := by
    intro g mine armed
    obtain ⟨group, found⟩ := there _ mine
    exact ⟨armed.1, group, found, armed.2.1 group found⟩
  cases w with
  | yielding | spinning | filling => exact h
  | parked => exact trivial
  | awaiting r taken =>
    cases r with
    | handle u => exact h.1
    | group g => exact h
    | call k =>
      obtain ⟨call, found, -⟩ := there _ own
      exact ⟨call, found, (h call found).2.1⟩
  | selecting handles => exact fun x hx => (h x hx).1
  | next g => exact listens g own h
  | all g => exact listens g own h

/-- What a dormant task waits for is not there, or a wake is on its way, or the task is about to go
because nobody refers to it. -/
theorem Sound.unmet (h : Sound s d) (found : s.tasks.get? t = some task) (dormant : s.Dormant t) :
    s.Unmet t task.fiber ∨ s.Roused t ∨ .bury t ∈ s.agenda := by
  have tended := h.wakeful t task found
  rcases tended.attended dormant with woken | waits
  · exact .inr (.inl woken)
  have there : ∀ r ∈ task.resources, s.Has r := fun r hr =>
    h.own.there r (Nat.lt_of_lt_of_le (State.owners_of_task h.formed found hr)
      (Nat.le_add_right _ _))
  cases hf : task.fiber with
  | none =>
    rw [hf] at waits
    rcases waits with buried | ⟨node, hn, some_left, -⟩
    · exact .inr (.inr buried)
    · refine .inl ?_
      show s.children t ≠ []
      rwa [State.children_of_get? hn]
  | some f =>
    rw [hf] at waits
    obtain ⟨w, hw, armed⟩ := waits
    rw [Task.resources_of_fiber hf] at there
    exact .inl ⟨w, hw, armed.unmet there (tended.own f w hf hw)⟩

theorem Sound.unmet_of_idle (h : Sound s d) (found : s.tasks.get? t = some task)
    (dormant : s.Dormant t) (idle : s.agenda = []) : s.Unmet t task.fiber := by
  rcases h.unmet found dormant with unmet | (now | ⟨u, m, later, -⟩) | buried
  · exact unmet
  · simp [idle] at now
  · simp [idle] at later
  · simp [idle] at buried

/-- A wake brings a dormant task back. -/
theorem Sound.woken (h : Sound s d) (found : s.tasks.get? t = some task) (dormant : s.Dormant t)
    {rest : List Action} (first : s.agenda = .wake (.task t) :: rest) :
    s.phase t = .suspended ∧ s.step.phase t = .ready ∨
      s.phase t = .running ∧ s.step.phase t = .notified := by
  obtain ⟨node, hn, -⟩ := Option.map_eq_some_iff.1 (h.formed.tasks t task found)
  have look : s.step = { s with agenda := rest }.resume t := by
    simp [State.step, first, State.perform, State.wake]
  have next : ∀ p, ({ s with agenda := rest }.setPhase t p).phase t = p :=
    fun p => State.phase_modifyNode_self (s := { s with agenda := rest }) hn
  rw [look, State.resume]
  rcases dormant with suspended | ⟨running, -⟩
  · have same : ({ s with agenda := rest } : State).phase t = .suspended := suspended
    have known : ({ s with agenda := rest } : State).tasks.get? t = some task := found
    simp only [same, known, State.phase_enqueue]
    exact .inl ⟨suspended, next .ready⟩
  · have same : ({ s with agenda := rest } : State).phase t = .running := running
    simp only [same]
    exact .inr ⟨running, next .notified⟩

/-- **No wake is lost.**  Between two things that the machine does, a task that is suspended, or
whose slice is about to end so, waits for something that is not there.  While the consequences of a
step are still being worked off, what it waits for may have come, but then a wake for the task is
among them, and that wake makes it ready, or notes that it was woken while it ran. -/
theorem no_lost_wake (h : Reachable s d) (found : s.tasks.get? t = some task)
    (dormant : s.Dormant t) :
    (s.agenda = [] → s.Unmet t task.fiber) ∧
    (¬ s.Unmet t task.fiber → s.Roused t ∨ .bury t ∈ s.agenda) ∧
    ∀ rest, s.agenda = .wake (.task t) :: rest →
      s.phase t = .suspended ∧ s.step.phase t = .ready ∨
        s.phase t = .running ∧ s.step.phase t = .notified := by
  have sound := h.sound
  exact ⟨sound.unmet_of_idle found dormant, fun met => (sound.unmet found dormant).resolve_left met,
    fun rest first => sound.woken found dormant first⟩

/-- The parent waits for the child, which has not ended. -/
theorem no_lost_wake_family : (family 6).phase ⟨0⟩ = .suspended ∧
    ∃ task, (family 6).tasks.get? ⟨0⟩ = some task ∧ (family 6).Unmet ⟨0⟩ task.fiber := by
  have suspended : (family 6).phase ⟨0⟩ = .suspended := by decide
  have idle : (family 6).agenda = [] := List.isEmpty_iff.1 (by decide)
  exact ⟨suspended, _, rfl, (no_lost_wake (reachable_family 6) rfl (.inl suspended)).1 idle⟩

end Nursery
