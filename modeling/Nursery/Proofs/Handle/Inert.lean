import Nursery.Proofs.Group.Release
import Nursery.Proofs.Handle.Moves

/-!
# The handle of a task that has not ended is dropped

The drop marks the task and gives up one reference to it.  If somebody else refers to the task,
that is all: the runs that follow are those that would have followed had the handle been kept, for
as long as somebody refers to the task.  If nobody does, the body goes at once with all it owns, in
the middle of whatever dropped the handle.

* `State.unheld` : the handle of a task was dropped, and nothing else.
* `Inert`, `dropped_handle` : **what the drop of a handle comes to.**
* `dropped_handle_deserted` : a task that parked stays.
* `drop_destroys` : the drop may cancel tasks, take a body away and panic.
-/

namespace Nursery

/-- The state with the handle of a task dropped, with the rest of the agenda. -/
def State.unheld (s : State) (t : TaskId) (rest : List Action) : State :=
  ({ s with agenda := rest } : State).modifyTask t fun m => { m with handleDropped := true }

/-- What the drop of the handle of a task comes to, with what remains to be done behind it. -/
structure Inert (s : State) (d : Desk) (t : TaskId) (rest : List Action) : Prop where
  /-- The drop marks the task and gives up a reference. -/
  marks : s.step = (s.unheld t rest).doFirst [.forget t]
  /-- If somebody else refers to the task, that is all. -/
  stays : (s.unheld t rest).held t = true → s.step.step = s.unheld t rest
  /-- As long as somebody refers to the task it stays, and whatever happens could have happened if
  the handle had been kept, but for what is said of its failure. -/
  forth : (s.unheld t rest).held t = true → ∀ s' d', LeadsHolding t (s.unheld t rest) d s' d' →
    s'.Unhandled t ∧ ∃ k, Leads { s with agenda := rest } d k d' ∧ Twin t s' k
  /-- Whatever could have happened if the handle had been kept happens without it, or nobody refers
  to the task any more before that. -/
  back : (s.unheld t rest).held t = true → ∀ k d', Leads { s with agenda := rest } d k d' →
    (∃ s', LeadsHolding t (s.unheld t rest) d s' d' ∧ Twin t s' k) ∨
      ∃ s' d'', LeadsHolding t (s.unheld t rest) d s' d'' ∧ s'.Forgets t
  /-- If nobody else refers to the task, its body goes at once, and what that owned is dropped
  before anything else is done. -/
  goes : (s.unheld t rest).held t = false → ∃ m, s.tasks.get? t = some m ∧ s.step.step =
    ((s.unheld t rest).modifyTask t fun m => { m with fiber := none }).doFirst
      (m.resources.map .release ++ [.bury t])
  /-- Once the task has ended, the last reference takes nothing with it but the record. -/
  ends : ∀ s' d' as m, Leads s d s' d' → s'.tasks.get? t = some m →
    (s'.phase t).isTerminal = true → s'.agenda = .forget t :: as →
      ({ s' with agenda := as } : State).held t = false →
        s'.step.step = { s' with agenda := as, tasks := s'.tasks.erase t }
  /-- The task leaves its parent only when it has ended. -/
  leaves : ∀ s' d' node, Leads s d s' d' → s'.nodes.get? t = some node → node.reaped = true →
    (s'.phase t).isTerminal = true

variable {s s' k k' : State} {d d' : Desk} {t u : TaskId} {m : Task} {rest as : List Action}

/-! ### One run follows the other one -/

theorem LeadsHolding.reaches (h : LeadsHolding t s d s' d') (reachable : Reachable s d) :
    Reachable s' d' :=
  reachable.leads h.leads

/-- A run without the handle is followed by one with it. -/
theorem LeadsHolding.follow (h : LeadsHolding t s d s' d') (reachable : Reachable s d)
    (unhandled : s.Unhandled t) (twin : Twin t s k) :
    s'.Unhandled t ∧ ∃ k', Leads k d k' d' ∧ Twin t s' k' := by
  induction h with
  | refl => exact ⟨unhandled, k, .refl, twin⟩
  | next l held tr ih =>
    obtain ⟨there, k', l', twin'⟩ := ih
    have sound := (l.reaches reachable).sound
    obtain ⟨k'', tr', twin''⟩ := twin'.follow sound there held tr
    exact ⟨there.next sound held tr, k'', l'.next tr', twin''⟩

/-- A run with the handle is followed by one without it, until nobody refers to the task. -/
theorem Leads.follow (l : Leads k d k' d') (reachable : Reachable s d)
    (unhandled : s.Unhandled t) (twin : Twin t s k) :
    (∃ s', LeadsHolding t s d s' d' ∧ Twin t s' k') ∨
      ∃ s' d'', LeadsHolding t s d s' d'' ∧ s'.Forgets t := by
  induction l with
  | refl => exact .inl ⟨s, .refl, twin⟩
  | next _ tr ih =>
    rcases ih with ⟨s', l', twin'⟩ | gone
    · by_cases held : s'.Forgets t
      · exact .inr ⟨s', _, l', held⟩
      · have sound := (l'.reaches reachable).sound
        obtain ⟨there, -⟩ := l'.follow reachable unhandled twin
        obtain ⟨s'', tr', twin''⟩ := twin'.follow_back sound there held tr
        exact .inl ⟨s'', l'.next held tr', twin''⟩
    · exact .inr gone

/-! ### The drop -/

namespace State

theorem step_drop (agenda : s.agenda = .release (.handle t) :: rest)
    (goes_on : (s.phase t).isTerminal = false) :
    s.step = (s.unheld t rest).doFirst [.forget t] := by
  have alive : (s.unheld t rest).phase t ≠ .failed := fun failed => by
    rw [show s.phase t = .failed from failed] at goes_on
    cases goes_on
  rw [step_of_agenda agenda]
  exact congrArg (doFirst · [.forget t]) (if_neg alive)

theorem step_forget (held : s.held t = true) : (s.doFirst [.forget t]).step = s := by
  rw [@step_of_agenda (s.doFirst [.forget t]) (.forget t) s.agenda rfl]
  change s.forgetTask t = s
  unfold forgetTask
  split
  · rfl
  · rw [if_pos held]

theorem step_forget_last (found : s.tasks.get? t = some m) (free : s.held t = false) :
    (s.doFirst [.forget t]).step = (s.modifyTask t fun m => { m with fiber := none }).doFirst
      (m.resources.map .release ++ [.bury t]) := by
  rw [@step_of_agenda (s.doFirst [.forget t]) (.forget t) s.agenda rfl]
  change s.forgetTask t = _
  unfold forgetTask
  rw [found]
  dsimp only
  rw [if_neg (by rw [free]; exact Bool.false_ne_true)]
  rfl

theorem step_bury (found : s.tasks.get? t = some m) : (s.doFirst [.bury t]).step =
    { s with tasks := s.tasks.erase t }.doFirst (m.waiters.map Waker.forget) := by
  rw [@step_of_agenda (s.doFirst [.bury t]) (.bury t) s.agenda rfl]
  change s.buryTask t = _
  unfold buryTask
  rw [found]

theorem step_forget_ended (h : Reachable s d) (found : s.tasks.get? t = some m)
    (ended : (s.phase t).isTerminal = true) (agenda : s.agenda = .forget t :: as)
    (free : ({ s with agenda := as } : State).held t = false) :
    s.step.step = { s with agenda := as, tasks := s.tasks.erase t } := by
  have bodiless : m.resources = [] := by
    rw [Task.resources, h.settled.bodiless t m found ended]
    rfl
  have unawaited : m.waiters = [] := by
    refine (h.settled.waiters t m found ended).resolve_right fun asked => ?_
    -- whoever is about to wake its waiters is still in its slice
    obtain ⟨-, r, during⟩ := h.sound.tether.leaving t asked
    have held : ({ s with agenda := as } : State).held t = true := held_of_slice during
    rw [free] at held
    cases held
  have first : s.step = (({ s with agenda := as } : State).modifyTask t fun m =>
      { m with fiber := none }).doFirst [.bury t] := by
    have forgets := step_forget_last (s := { s with agenda := as }) found free
    rwa [bodiless, doFirst, List.singleton_append, ← agenda] at forgets
  have there : ((({ s with agenda := as } : State).modifyTask t fun m =>
      { m with fiber := none }).tasks.get? t) = some { m with fiber := none } :=
    Store.get?_modify_eq_some.2 ⟨m, found, by rw [if_pos rfl]⟩
  rw [first, step_bury there, show Task.waiters _ = [] from unawaited]
  exact congrArg (fun tasks => { s with agenda := as, tasks := tasks }) Store.erase_modify

end State

/-- A task leaves its parent only when it has ended. -/
theorem Reachable.ended_of_reaped {node : Node} (h : Reachable s d)
    (found : s.nodes.get? t = some node) (kind : node.kind = .task) (reaped : node.reaped = true) :
    (s.phase t).isTerminal = true := by
  have kinship := h.sound.kinship
  obtain ⟨finished, -⟩ := kinship.reaped t node found reaped
  refine (kinship.finished t node found finished).resolve_right fun done => ?_
  have group := done.1
  rw [State.kind?, found, Option.map_some, kind] at group
  cases group

/-- The state without the handle is a twin of the one with it. -/
theorem Twin.unheld (formed : Formed s) (found : s.tasks.get? t = some m)
    (handle : m.handleDropped = false) (unreported : m.reported = false) :
    Twin t (s.unheld t rest) { s with agenda := rest } where
  tasks := by
    refine Eq.symm ((Store.map_modify fun m => ?_).trans
      (Store.map_eq_self formed.distinctTasks fun u m' found' => ?_))
    · rw [Task.keptAs_self, Task.keptAs_self]
    · by_cases mine : t = u
      · subst mine
        cases found.symm.trans found'
        exact Task.keptAs_of_fresh handle unreported
      · exact Task.keptAs_of_ne mine m'
  alike := .refl ..
  nodes := rfl
  groups := rfl
  signals := rfl
  calls := rfl
  actors := rfl
  runtimes := rfl
  places := rfl
  shared := rfl
  actorNames := rfl
  parked := rfl
  taskNames := rfl
  markers := rfl
  agenda := rfl
  unwinding := rfl
  active := rfl
  stopped := rfl

/-- **The drop of a handle** is inert as long as somebody else refers to the task. -/
theorem dropped_handle (h : Reachable s d) (agenda : s.agenda = .release (.handle t) :: rest)
    (goes_on : (s.phase t).isTerminal = false) : Inert s d t rest := by
  have sound := h.sound
  obtain ⟨m, found, handle⟩ := sound.own.has_of_agenda (r := .handle t)
    (agenda ▸ List.mem_cons_self) List.mem_cons_self
  have unreported : m.reported = false := by
    by_contra reported
    obtain ⟨dropped, -⟩ := h.reports.fair t m found (Bool.not_eq_false _ ▸ reported)
    rw [handle] at dropped
    cases dropped
  have marks := State.step_drop agenda goes_on
  have stays : (s.unheld t rest).held t = true → s.step.step = s.unheld t rest := fun held => by
    rw [marks, State.step_forget held]
  have there : (s.unheld t rest).tasks.get? t = some { m with handleDropped := true } :=
    Store.get?_modify_eq_some.2 ⟨m, found, by rw [if_pos rfl]⟩
  have unhandled : (s.unheld t rest).Unhandled t := by
    refine ⟨⟨_, there, rfl⟩, fun buried => ?_⟩
    have loose := sound.tether.buried t (agenda ▸ List.mem_cons_of_mem _ buried)
    rw [loose.handle m found] at handle
    cases handle
  have reachable : (s.unheld t rest).held t = true → Reachable (s.unheld t rest) d := fun held =>
    stays held ▸ (h.next .step).next .step
  have twin : Twin t (s.unheld t rest) { s with agenda := rest } :=
    .unheld sound.formed found handle unreported
  exact {
    marks, stays
    forth := fun held s' d' l => l.follow (reachable held) unhandled twin
    back := fun held k d' l => l.follow (reachable held) unhandled twin
    goes := fun free => ⟨m, found, by rw [marks, State.step_forget_last there free]; rfl⟩
    ends := fun s' d' as m l found ended agenda free =>
      State.step_forget_ended (h.leads l) found ended agenda free
    leaves := fun s' d' node l there reaped => by
      obtain ⟨first, known, kind⟩ := Option.map_eq_some_iff.1 (sound.formed.tasks t m found)
      obtain ⟨node', there', lasts⟩ := l.lasts h t first known
      cases there.symm.trans there'
      exact (h.leads l).ended_of_reaped there (lasts.kind.trans kind) reaped }

/-! ### A handle that holds the last reference to a task -/

/-- The body of a task that makes a group with a child, which parks, and parks itself. -/
def guardianBody : List Line :=
  [.mk ⟨"group", none, some "wards", true⟩ .group,
    .mk ⟨"add", some "wards", some "ward", true⟩
      (.add none [.mk ⟨"park", some "ward", none, true⟩ .park]),
    .mk ⟨"park", none, some "name", true⟩ .park]

/-- The body of a task that parks under the same name. -/
def namesakeBody : List Line :=
  [.mk ⟨"park", none, some "name", true⟩ .park]

/-- The body of a task that drops the handle of the first one. -/
def dropperBody : List Line :=
  [.mk ⟨"drop", some "guardian", none, true⟩ .drop]

/-- A worker runs two tasks, and the second one drops the handle of the first one. -/
def deserted : State :=
  State.run 11 ((enlist (enlist (({} : State).build 0 none none).1 "guardian" guardianBody)
    "dropper" dropperBody).start ⟨0⟩ .quiet)

/-- Between them another task parks under the name of the first one. -/
def bereft : State :=
  State.run 18 ((enlist (enlist (enlist (({} : State).build 0 none none).1 "guardian" guardianBody)
    "namesake" namesakeBody) "dropper" dropperBody).start ⟨0⟩ .quiet)

theorem reachable_deserted : Reachable deserted .clear := by
  have built : Reachable (({} : State).build 0 none none).1 .clear :=
    .next .init (.move rfl (.build 0 none none))
  have guarded := built.enlist (by decide) "guardian" guardianBody (by decide)
  have dropping := guarded.enlist (by decide) "dropper" dropperBody (by decide)
  exact reachable_run (dropping.next (.move (by decide)
    (.start (show Store.get? _ 0 = some ⟨0⟩ by decide)))) 11

theorem reachable_bereft : Reachable bereft .clear := by
  have built : Reachable (({} : State).build 0 none none).1 .clear :=
    .next .init (.move rfl (.build 0 none none))
  have guarded := built.enlist (by decide) "guardian" guardianBody (by decide)
  have renamed := guarded.enlist (by decide) "namesake" namesakeBody (by decide)
  have dropping := renamed.enlist (by decide) "dropper" dropperBody (by decide)
  exact reachable_run (dropping.next (.move (by decide)
    (.start (show Store.get? _ 0 = some ⟨0⟩ by decide)))) 18

/-- The first task is parked where its waker can be found, so the drop of its handle leaves it as
it is. -/
theorem dropped_handle_deserted : ∃ s, Reachable s .clear ∧ s.agenda = [.release (.handle ⟨0⟩)] ∧
    (s.phase ⟨0⟩).isTerminal = false ∧ s.step.step = s.unheld ⟨0⟩ [] := by
  have agenda : deserted.agenda = [.release (.handle ⟨0⟩)] := by rfl
  have goes_on : (deserted.phase ⟨0⟩).isTerminal = false := by decide +kernel
  have held : (deserted.unheld ⟨0⟩ []).held ⟨0⟩ = true := by decide +kernel
  exact ⟨deserted, reachable_deserted, agenda, goes_on,
    (dropped_handle reachable_deserted agenda goes_on).stays held⟩

/-- As long as something is to be done, the machine works it off. -/
theorem Unrolls.iterate (n : Nat) (busy : ∀ k < n, (State.step^[k] s).agenda.isEmpty = false) :
    Unrolls [] s (State.step^[n] s) := by
  induction n with
  | zero => exact .refl
  | succ n ih =>
    have before := ih fun k less => busy k (less.trans (Nat.lt_succ_self n))
    rw [Function.iterate_succ_apply']
    cases agenda : (State.step^[n] s).agenda with
    | nil =>
      have some_ := busy n (Nat.lt_succ_self n)
      rw [agenda] at some_
      cases some_
    | cons a as => exact before.next (by rw [agenda, List.append_nil])

/-- **The drop of a handle is not inert.**  The last reference to a suspended task may go with its
handle.  Then the task is gone when the drop is over, the tasks of a group that it owned are
flagged, and the body that has dropped the handle panics. -/
theorem drop_destroys : ¬ ∀ s d t rest s', Reachable s d → s.agenda = .release (.handle t) :: rest →
    (s.phase t).isTerminal = false → (∀ r rt, s.runtimes.get? r = some rt → rt.closed = false) →
    Unrolls rest s s' → s'.agenda = rest →
      (s'.tasks.get? t).isSome = true ∨ (∀ n, s'.flagged n = s.flagged n) ∨
        s'.unwinding = s.unwinding := by
  intro claim
  have alive : ∀ r rt, bereft.runtimes.get? r = some rt → rt.closed = false := by
    intro r rt found
    have all : bereft.runtimes.entries.all (fun e => !e.2.closed) = true := by decide +kernel
    have mine := List.all_eq_true.1 all _ (Store.lookup_mem found)
    simpa using mine
  have way : Unrolls [] bereft (State.step^[13] bereft) := .iterate 13 (by decide +kernel)
  have done : (State.step^[13] bereft).agenda = [] := List.isEmpty_iff.1 (by decide +kernel)
  rcases claim bereft .clear ⟨0⟩ [] (State.step^[13] bereft) reachable_bereft (by rfl)
    (by decide +kernel) alive way done with there | same | calm
  · revert there
    decide +kernel
  · have ward := same ⟨4⟩
    revert ward
    decide +kernel
  · revert calm
    decide +kernel

end Nursery
