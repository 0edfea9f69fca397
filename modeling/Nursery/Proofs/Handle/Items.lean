import Nursery.Proofs.Handle.Twin

/-!
# Twins and the agenda

An item of the agenda is done in both runs.  It may find out of the dropped handle in two places
only: where the last reference to the task is given up, which cannot happen in the run that keeps
the handle, and where the failure of the task is looked into, which is not looked into there.

* `Twin.reported` : the failure is looked into in one of the runs only.
* `Twin.perform` : **an item of the agenda leaves twins**, unless it takes the task away.
-/

namespace Nursery

variable {s s' k k' : State} {t u n : TaskId} {m : Task} {a : Action}

/-- The item gives up the last reference to a task, or drops its handle once more. -/
def Action.Rids (s : State) (t : TaskId) : Action → Prop
  | .forget u => u = t ∧ s.held t = false
  | .release (.handle u) => u = t
  | _ => False

namespace Twin

theorem mark (h : Twin t s k) {f : Task → Task} (marks : ∀ m, (f m).keptAs t t = m.keptAs t t) :
    Twin t (s.modifyTask t f) k :=
  { h with tasks := h.tasks.trans (Store.map_modify marks).symm }

/-- In one of the runs the failure of the task may be logged. -/
theorem reported (h : Twin t s k) : Twin t (s.reportUnobserved t) k := by
  unfold State.reportUnobserved
  cases s.tasks.get? t with
  | none => exact h
  | some m =>
    have marked : Twin t (s.modifyTask t fun m => { m with reported := true }) k :=
      h.mark fun m => by rw [Task.keptAs_self, Task.keptAs_self]
    dsimp only
    split
    · exact h
    · split
      · split
        · exact marked
        · exact { marked with alike := marked.alike.unobserved (decide_eq_true rfl) }
      · exact marked

theorem reportUnobserved (h : Twin t s k) (other : t ≠ u) :
    Twin t (s.reportUnobserved u) (k.reportUnobserved u) := by
  unfold State.reportUnobserved
  rw [h.get?_of_ne other]
  cases s.tasks.get? u with
  | none => exact h
  | some m =>
    have marked := h.modifyTask u (f := fun m => { m with reported := true })
      fun m => by rw [Task.keptAs_of_ne other, Task.keptAs_of_ne other]
    dsimp only
    split
    · exact h
    · split
      · split
        · exact marked
        · exact marked.log _
      · exact marked

theorem reportFailure (h : Twin t s k) (u : TaskId) :
    Twin t (s.reportFailure u) (k.reportFailure u) := by
  by_cases mine : t = u
  · -- The task still has its handle in `k`, so that its failure is not looked into there.
    subst mine
    have kept : (k.tasks.get? t).any Task.handleDropped = false := by
      rw [h.get?]
      cases s.tasks.get? t with
      | none => rfl
      | some m => rw [Option.map_some, Task.keptAs_self]; rfl
    have none : k.reportFailure t = k := by simp [State.reportFailure, kept]
    rw [none, State.reportFailure]
    split
    · exact h.reported
    · exact h
  · rw [State.reportFailure, State.reportFailure, h.phase, h.get?_of_ne mine]
    split
    · exact h.reportUnobserved mine
    · exact h

theorem dropHandle (h : Twin t s k) (other : t ≠ u) : Twin t (s.dropHandle u) (k.dropHandle u) := by
  have marked := h.modifyTask u (f := fun m => { m with handleDropped := true })
    fun m => by rw [Task.keptAs_of_ne other, Task.keptAs_of_ne other]
  unfold State.dropHandle
  simp only [marked.phase]
  split
  · exact (marked.reportUnobserved other).doFirst _
  · exact marked.doFirst _

theorem resume (h : Twin t s k) (u : TaskId) : Twin t (s.resume u) (k.resume u) := by
  unfold State.resume
  rw [h.phase, h.get?, h.priority]
  cases s.phase u with
  | suspended =>
    cases s.tasks.get? u with
    | none => exact h
    | some m => exact (h.setPhase u _).enqueue _ _ _
  | running => exact (h.setPhase u _).doFirst _
  | _ => exact h.doFirst _

theorem inform (h : Twin t s k) (g : TaskId) (index : Nat) (child : TaskId) :
    Twin t (s.inform g index child) (k.inform g index child) := by
  unfold State.inform
  simp only [h.signals, h.phase]
  split
  · exact ((h.modifySignal g _).log _).doFirst _
  · exact h.doFirst _

theorem announce (h : Twin t s k) (g : TaskId) (index : Nat) :
    Twin t (s.announce g index) (k.announce g index) := by
  unfold State.announce
  rw [h.signals]
  cases s.signals.get? g with
  | none => exact h
  | some signal => exact (h.modifySignal g _).doFirst _

theorem wakeWaiters (h : Twin t s k) (u : TaskId) :
    Twin t (s.wakeWaiters u) (k.wakeWaiters u) := by
  unfold State.wakeWaiters
  rw [h.get?]
  cases s.tasks.get? u with
  | none => exact h
  | some m => exact (h.modifyTask u fun _ => by rfl).doFirst _

theorem answer (h : Twin t s k) (c : CallId) (outcome : Except ActorError Int64) :
    Twin t (s.answer c outcome) (k.answer c outcome) := by
  unfold State.answer
  rw [h.calls]
  cases s.calls.get? c with
  | none => exact h
  | some call => exact (h.modifyCall c _).doFirst _

theorem dropGroup (h : Twin t s k) (g : TaskId) : Twin t (s.dropGroup g) (k.dropGroup g) := by
  unfold State.dropGroup
  rw [h.groups]
  cases s.groups.get? g with
  | none => exact h
  | some group =>
    dsimp only
    split <;> exact h.doFirst _

theorem dropCall (h : Twin t s k) (c : CallId) : Twin t (s.dropCall c) (k.dropCall c) := by
  unfold State.dropCall
  rw [h.calls]
  cases s.calls.get? c with
  | none => exact h
  | some call =>
    dsimp only
    split
    · exact (h.modifyCall c _).doFirst _
    · exact h.modifyCall c _

theorem dissolve (h : Twin t s k) (g : TaskId) : Twin t (s.dissolve g) (k.dissolve g) := by
  have gone : Twin t { s with groups := s.groups.erase g } { k with groups := k.groups.erase g } :=
    { h with groups := congrArg (·.erase g) h.groups }
  unfold State.dissolve
  cases found : s.groups.get? g with
  | none => rwa [h.groups, found]
  | some group =>
    rw [h.groups] at gone ⊢
    rw [found]
    exact gone.doFirst _

theorem forgetTask (h : Twin t s k) (last : t = u → s.held u = true) :
    Twin t (s.forgetTask u) (k.forgetTask u) := by
  unfold State.forgetTask
  rw [h.get?]
  cases found : s.tasks.get? u with
  | none => exact h
  | some m =>
    -- The handle is a reference that `s` lacks, and does not count where `s` has another one.
    have held : k.held u = s.held u := by
      by_cases mine : t = u
      · subst mine
        rw [last rfl, h.held_self found]
      · exact h.held mine
    simp only [Option.map_some, held]
    split
    · exact h
    · exact (h.modifyTask u fun _ => by rfl).doFirst _

theorem buryTask (h : Twin t s k) (u : TaskId) : Twin t (s.buryTask u) (k.buryTask u) := by
  have gone : Twin t { s with tasks := s.tasks.erase u } { k with tasks := k.tasks.erase u } :=
    { h with tasks := (congrArg (·.erase u) h.tasks).trans Store.erase_map }
  unfold State.buryTask
  rw [h.get?]
  cases s.tasks.get? u with
  | none => exact h
  | some m => exact gone.doFirst _

theorem forgetSignal (h : Twin t s k) (g : TaskId) :
    Twin t (s.forgetSignal g) (k.forgetSignal g) := by
  unfold State.forgetSignal
  rw [h.signalAlive, h.signals]
  split
  · exact h
  · cases s.signals.get? g with
    | none => exact h
    | some signal => exact (h.modifySignal g _).doFirst _

theorem abandon (h : Twin t s k) (a : ActorId) : Twin t (s.abandon a) (k.abandon a) := by
  unfold State.abandon
  rw [h.actors]
  cases s.actors.get? a with
  | none => exact h
  | some actor =>
    have left := h.modifyActor a fun m => { m with scheduled := false, mailbox := [] }
    dsimp only
    split
    · exact left.doFirst _
    · exact (left.log _).doFirst _

theorem complain (h : Twin t s k) (message : String) :
    Twin t (s.complain message) (k.complain message) := by
  unfold State.complain
  rw [h.inBody, h.unwinding]
  split
  · exact { h with
      unwinding := rfl
      agenda := congrArg (List.filterMap Action.afterPanic) h.agenda }
  · exact h

/-- **An item of the agenda leaves twins**, unless it takes the task away. -/
theorem perform (h : Twin t s k) (keeps : ¬ a.Rids s t) : Twin t (s.perform a) (k.perform a) := by
  cases a with
  | cancel n => exact h.cancelNode n
  | finish n => exact h.finishNode n
  | detach n => exact h.detachNode n
  | wake w =>
    cases w with
    | task u => exact h.resume u
    | member g index child => exact h.inform g index child
  | announce g index => exact h.announce g index
  | wakeWaiters u => exact h.wakeWaiters u
  | reportFailure u => exact h.reportFailure u
  | answer c outcome => exact h.answer c outcome
  | record e => exact h.tell e
  | complain message => exact h.complain message
  | release r =>
    cases r with
    | handle u => exact h.dropHandle (Ne.symm keeps)
    | group g => exact h.dropGroup g
    | call c => exact h.dropCall c
  | dissolve g => exact h.dissolve g
  | forget u =>
    refine h.forgetTask fun mine => ?_
    subst mine
    simpa [Action.Rids] using keeps
  | bury u => exact h.buryTask u
  | forgetSignal g => exact h.forgetSignal g
  | discard e =>
    cases e with
    | task u => exact h.doFirst _
    | drain a => exact h.doFirst _
    | marker serial => exact h
  | abandon a => exact h.abandon a

end Twin

end Nursery
