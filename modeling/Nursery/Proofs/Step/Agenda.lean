import Nursery.Machine.Agenda
import Nursery.Proofs.Log
import Nursery.Proofs.Node

/-!
# What an item of the agenda does

`Effect` lists everything that the first item of an agenda can come to, each with what decides for
it and with the state that it leaves.  An invariant of the agenda is checked for each of them once.

* `Action.Spent` : an item finds nothing to do, and why.
* `Effect` : what an item comes to, in a state from whose agenda it was taken.
* `State.perform_effect` : an item comes to nothing else.
-/

namespace Nursery

/-- Why an item of the agenda finds nothing to do. -/
def Action.Spent (s : State) : Action → Prop
  | .cancel n => ∀ node, s.nodes.get? n = some node → node.flagged = true
  | .detach n => ∀ node, s.nodes.get? n = some node → node.reaped = true
  | .wake (.task t) => s.phase t = .suspended ∧ s.tasks.get? t = none
  | .announce g _ => s.signals.get? g = none
  | .wakeWaiters t | .bury t => s.tasks.get? t = none
  | .answer k _ | .release (.call k) => s.calls.get? k = none
  | .release (.group g) | .dissolve g => s.groups.get? g = none
  | .complain _ => ¬ (s.inBody = true ∧ s.unwinding.isNone = true)
  | .forget t => s.tasks.get? t = none ∨ s.held t = true
  | .forgetSignal g => s.signalAlive g = true ∨ s.signals.get? g = none
  | .abandon a => s.actors.get? a = none
  | .reportFailure t => s.phase t = .failed → ∀ task, s.tasks.get? t = some task →
    task.handleDropped = true → task.reported = true
  | .discard (.marker _) => True
  | .finish _ | .wake (.member ..) | .record _ | .release (.handle _) | .discard _ => False

/-- What an item comes to in a state from whose agenda it was taken. -/
inductive Effect (s : State) : Action → State → Prop where
  /-- It finds nothing to do. -/
  | spent {a : Action} (why : a.Spent s) : Effect s a s
  /-- A node is flagged, and its children are next. -/
  | cancel {n : TaskId} {node : Node} (found : s.nodes.get? n = some node)
      (unflagged : node.flagged = false) :
      Effect s (.cancel n)
        (((s.modifyNode n fun m => { m with flagged := true }).log (.cancelled n node.kind)).doFirst
          (node.children.map .cancel))
  /-- The owner of a node is done. -/
  | finish (n : TaskId) :
      Effect s (.finish n)
        ((s.modifyNode n fun m => { m with finished := true }).doFirst
          (if s.children n = [] then [.detach n] else []))
  /-- A node leaves a parent that is not there any more. -/
  | orphan {n : TaskId} {node : Node} (found : s.nodes.get? n = some node)
      (attached : node.reaped = false)
      (alone : ∀ p, node.parent = some p → s.nodes.get? p ≠ none → s.alive p = false) :
      Effect s (.detach n) (s.modifyNode n fun m => { m with reaped := true })
  /-- A node leaves its parent, which keeps other children. -/
  | reap {n p : TaskId} {node above : Node} (found : s.nodes.get? n = some node)
      (attached : node.reaped = false) (parent : node.parent = some p)
      (listed : (s.nodes.modify n fun m => { m with reaped := true }).get? p = some above)
      (more : above.children.filter (· ≠ n) ≠ []) :
      Effect s (.detach n)
        (((s.modifyNode n fun m => { m with reaped := true }).modifyNode p fun m =>
          { m with children := above.children.filter (· ≠ n) }).log (.reaped p n))
  /-- The last child of a node leaves it. -/
  | reapLast {n p : TaskId} {node above : Node} (found : s.nodes.get? n = some node)
      (attached : node.reaped = false) (parent : node.parent = some p)
      (listed : (s.nodes.modify n fun m => { m with reaped := true }).get? p = some above)
      (last : above.children.filter (· ≠ n) = []) :
      Effect s (.detach n)
        ((((s.modifyNode n fun m => { m with reaped := true }).modifyNode p fun m =>
          { m with children := [], joining := false }).log (.reaped p n)).doFirst
            ((if above.joining then [.wake (.task p)] else []) ++
              (if above.finished then [.detach p] else [])))
  /-- A suspended task is put into its queue. -/
  | resume {t : TaskId} {task : Task} (suspended : s.phase t = .suspended)
      (found : s.tasks.get? t = some task) :
      Effect s (.wake (.task t))
        ((s.setPhase t .ready).enqueue task.home (s.priority t) (.task t))
  /-- A running task is noted to have been woken. -/
  | notify {t : TaskId} (running : s.phase t = .running) :
      Effect s (.wake (.task t)) ((s.setPhase t .notified).doFirst [.forget t])
  /-- The task is on its way already, or has ended. -/
  | awake {t : TaskId} (up : s.phase t ≠ .suspended) (stopped : s.phase t ≠ .running) :
      Effect s (.wake (.task t)) (s.doFirst [.forget t])
  /-- A group learns that a child ended, which is not the first one that failed. -/
  | inform (g : TaskId) (index : Nat) (child : TaskId)
      (late : s.phase child = .failed → (s.signals.get? g).any Signal.tripped = true) :
      Effect s (.wake (.member g index child)) (s.doFirst [.announce g index, .forgetSignal g])
  /-- A group learns that its first child failed. -/
  | trip {g : TaskId} (index : Nat) {child : TaskId} (failed : s.phase child = .failed)
      (first : (s.signals.get? g).any Signal.tripped = false) :
      Effect s (.wake (.member g index child))
        (((s.modifySignal g fun m => { m with tripped := true }).log
          (.childFailed g child)).doFirst [.cancel g, .announce g index, .forgetSignal g])
  /-- The place of a child is queued, and whoever waits for it is woken. -/
  | announce {g : TaskId} (index : Nat) {signal : Signal} (found : s.signals.get? g = some signal) :
      Effect s (.announce g index)
        ((s.modifySignal g fun m =>
          { m with completed := m.completed ++ [index], waker := none }).doFirst
            (signal.waker.toList.map fun t => .wake (.task t)))
  /-- Everyone who waits for the end of a task is woken. -/
  | wakeWaiters {t : TaskId} {task : Task} (found : s.tasks.get? t = some task) :
      Effect s (.wakeWaiters t)
        ((s.modifyTask t fun m => { m with waiters := [] }).doFirst (task.waiters.map .wake))
  /-- A failure whose handle is gone is looked into. -/
  | reportFailure {t : TaskId} {f : Task → Task} (trace : Array Event)
      (only : ∀ m, ∃ b, f m = { m with reported := b }) (failed : s.phase t = .failed)
      (dropped : (s.tasks.get? t).any Task.handleDropped = true)
      (looked : ∀ task, s.tasks.get? t = some task → (f task).reported = true)
      (logged : losses trace = losses s.trace ++ s.unseen t)
      (hush : outcries trace = outcries s.trace) :
      Effect s (.reportFailure t) { s.modifyTask t f with trace := trace }
  /-- A call gets its reply, and whoever waits for it is woken. -/
  | answer {k : CallId} (outcome : Except ActorError Int64) {call : Call}
      (found : s.calls.get? k = some call) :
      Effect s (.answer k outcome)
        ((s.modifyCall k fun m =>
          { m with outcome := some outcome, answered := true, waker := none }).doFirst
            (call.waker.toList.map fun t => .wake (.task t)))
  /-- An event is told. -/
  | record (e : Event) : Effect s (.record e) (s.tell e)
  /-- A body panics while it drops a group. -/
  | panic (message : String) (inside : s.inBody = true) (calm : s.unwinding.isNone = true) :
      Effect s (.complain message)
        { s with unwinding := some message, agenda := s.agenda.filterMap Action.afterPanic }
  /-- A handle is dropped, and a failure is looked into. -/
  | dropHandle {t : TaskId} {f : Task → Task} (trace : Array Event)
      (only : ∀ m, ∃ b, f m = { m with handleDropped := true, reported := b })
      (looked : ∀ task, s.tasks.get? t = some task →
        (f task).reported = (task.reported || decide (s.phase t = .failed)))
      (logged : losses trace = losses s.trace ++ if s.phase t = .failed then s.unseen t else [])
      (hush : outcries trace = outcries s.trace) :
      Effect s (.release (.handle t))
        ({ s.modifyTask t f with trace := trace }.doFirst [.forget t])
  /-- A group without children outstanding is dropped. -/
  | dropGroup {g : TaskId} {group : Group} (found : s.groups.get? g = some group)
      (drained : group.remaining = 0) :
      Effect s (.release (.group g)) (s.doFirst [.finish g, .dissolve g])
  /-- A group with children outstanding is dropped. -/
  | dropUndrained {g : TaskId} {group : Group} (found : s.groups.get? g = some group)
      (outstanding : group.remaining ≠ 0) :
      Effect s (.release (.group g))
        (s.doFirst
          [.cancel g, .record (.logged (.groupDropped g group.remaining)), .finish g,
            .complain groupComplaint, .dissolve g])
  /-- A call that was answered is dropped. -/
  | dropAnswered {k : CallId} {call : Call} (found : s.calls.get? k = some call)
      (answered : call.answered = true) :
      Effect s (.release (.call k))
        ((s.modifyCall k fun m => { m with dropped := true, waker := none }).doFirst
          (call.waker.toList.map .forget))
  /-- A call that was not answered is dropped. -/
  | dropPending {k : CallId} {call : Call} (found : s.calls.get? k = some call)
      (pending : call.answered = false) :
      Effect s (.release (.call k)) (s.modifyCall k fun m => { m with dropped := true })
  /-- What a group owns is dropped. -/
  | dissolve {g : TaskId} {group : Group} (found : s.groups.get? g = some group) :
      Effect s (.dissolve g)
        ({ s with groups := s.groups.erase g }.doFirst
          (group.children.map (fun t => Action.release (.handle t)) ++ [Action.forgetSignal g]))
  /-- The body of a task that nobody refers to is dropped. -/
  | forget {t : TaskId} {task : Task} (found : s.tasks.get? t = some task)
      (loose : s.held t = false) :
      Effect s (.forget t)
        ((s.modifyTask t fun m => { m with fiber := none }).doFirst
          ((task.fiber.toList.flatMap Fiber.resources).map Action.release ++ [Action.bury t]))
  /-- A task without a body goes. -/
  | bury {t : TaskId} {task : Task} (found : s.tasks.get? t = some task) :
      Effect s (.bury t)
        ({ s with tasks := s.tasks.erase t }.doFirst (task.waiters.map Waker.forget))
  /-- A signal that nobody can get at gives up the task that waited there. -/
  | silence {g : TaskId} {signal : Signal} (dead : s.signalAlive g = false)
      (found : s.signals.get? g = some signal) :
      Effect s (.forgetSignal g)
        ((s.modifySignal g fun m => { m with waker := none }).doFirst
          (signal.waker.toList.map .forget))
  /-- The entry of a task is dropped. -/
  | discardTask (t : TaskId) : Effect s (.discard (.task t)) (s.doFirst [.forget t])
  /-- The entry of an actor is dropped. -/
  | discardDrain (a : ActorId) : Effect s (.discard (.drain a)) (s.doFirst [.abandon a])
  /-- The messages of an actor are dropped. -/
  | abandon {a : ActorId} {actor : Actor} (trace : Array Event)
      (found : s.actors.get? a = some actor) (mute : losses trace = losses s.trace)
      (hush : outcries trace = outcries s.trace) :
      Effect s (.abandon a)
        ({ s.modifyActor a fun m => { m with scheduled := false, mailbox := [] } with
            trace := trace }.doFirst
          ((actor.mailbox.filterMap Message.reply).map fun k => .answer k (.error .dropped)))

namespace State

variable {s : State}

theorem detachNode_effect (n : TaskId) : Effect s (.detach n) (s.detachNode n) := by
  unfold detachNode
  split
  · rename_i missing
    exact .spent fun node found => by simp [missing] at found
  · rename_i node found
    split
    · rename_i reaped
      refine .spent fun other same => ?_
      cases found.symm.trans same
      exact reaped
    · rename_i attached
      rw [Bool.not_eq_true] at attached
      dsimp only
      split
      · rename_i p living
        have parent : node.parent = some p := by
          have := (Option.filter_eq_some_iff.1 living).1
          simpa [modifyNode, Store.get?_modify_self, found] using this
        unfold reap
        split
        · rename_i missing
          refine .orphan found attached fun q above known => ?_
          cases above.symm.trans parent
          exact absurd (Store.get?_modify_eq_none.1 missing) known
        · rename_i above listed
          dsimp only
          split
          · rename_i last
            have last' := List.isEmpty_iff.1 last
            rw [last']
            exact .reapLast found attached parent listed last'
          · rename_i more
            exact .reap found attached parent listed fun none => more (List.isEmpty_iff.2 none)
      · rename_i dead
        refine .orphan found attached fun p above _ => ?_
        rw [livingParent, found, Option.bind_some, above, Option.filter_eq_none_iff] at dead
        simpa using dead p rfl

theorem resume_effect (t : TaskId) : Effect s (.wake (.task t)) (s.resume t) := by
  unfold resume
  split
  · rename_i suspended
    split
    · rename_i task found
      exact .resume suspended found
    · rename_i missing
      exact .spent ⟨suspended, missing⟩
  · rename_i running
    exact .notify running
  · rename_i up stopped
    exact .awake up stopped

theorem inform_effect (g : TaskId) (index : Nat) (child : TaskId) :
    Effect s (.wake (.member g index child)) (s.inform g index child) := by
  unfold inform
  dsimp only
  split
  · rename_i first
    exact .trip index first.1 first.2
  · rename_i late
    exact .inform g index child fun failed =>
      Bool.not_eq_false _ ▸ fun fresh => late ⟨failed, fresh⟩

/-- Looking into a failure changes nothing but whether that was done, and the failure is logged if
nobody has seen it, and nothing else is. -/
theorem reportUnobserved_eq (t : TaskId) : ∃ f trace, (∀ m, ∃ b, f m = { m with reported := b }) ∧
    (∀ task, s.tasks.get? t = some task → (f task).reported = true) ∧
      losses trace = losses s.trace ++ s.unseen t ∧ outcries trace = outcries s.trace ∧
        s.reportUnobserved t = { s.modifyTask t f with trace := trace } := by
  unfold reportUnobserved unseen
  split
  · rename_i missing
    refine ⟨id, s.trace, fun m => ⟨m.reported, rfl⟩, by simp [missing], by simp [missing], rfl, ?_⟩
    rw [modifyTask, Store.modify_of_none missing]
  · rename_i task found
    split
    · rename_i reported
      refine ⟨fun m => m, s.trace, fun m => ⟨m.reported, rfl⟩, ?_,
        by simp [found, Task.unseen, reported], rfl, ?_⟩
      · intro other same
        cases found.symm.trans same
        exact reported
      · rw [modifyTask, Store.modify_self]
    · rename_i unreported
      rw [Bool.not_eq_true] at unreported
      dsimp only
      have marks : ∀ trace, losses trace = losses s.trace ++ task.unseen t →
          outcries trace = outcries s.trace →
          ∃ f trace', (∀ m, ∃ b, f m = { m with reported := b }) ∧
            (∀ task, s.tasks.get? t = some task → (f task).reported = true) ∧
              losses trace' = losses s.trace ++ (s.tasks.get? t).toList.flatMap (Task.unseen t) ∧
                outcries trace' = outcries s.trace ∧
                { s.modifyTask t fun m => { m with reported := true } with trace := trace } =
                  { s.modifyTask t f with trace := trace' } := fun trace logged hush =>
        ⟨fun m => { m with reported := true }, trace, fun m => ⟨true, rfl⟩, fun _ _ => rfl,
          by simpa [found] using logged, hush, rfl⟩
      split
      · rename_i e outcome
        split
        · rename_i cancelled
          exact marks _ (by simp [Task.unseen, unreported, outcome, cancelled]) rfl
        · rename_i failed
          refine marks _ ?_ (outcries_push_of_none _ rfl)
          rw [losses_push]
          simp [modifyTask, Task.unseen, unreported, outcome, failed, Event.loss?]
      · rename_i harmless
        refine marks _ ?_ rfl
        unfold Task.unseen
        split
        · rename_i e _ outcome
          exact absurd outcome (harmless e)
        · simp

theorem reportFailure_effect (t : TaskId) : Effect s (.reportFailure t) (s.reportFailure t) := by
  unfold reportFailure
  split
  · rename_i due
    obtain ⟨f, trace, only, looked, logged, hush, eq⟩ := reportUnobserved_eq (s := s) t
    rw [eq]
    exact .reportFailure trace only due.1 due.2 looked logged hush
  · rename_i undue
    refine .spent fun failed task found dropped => absurd ⟨failed, ?_⟩ undue
    rw [found]
    exact dropped

theorem dropHandle_effect (t : TaskId) :
    Effect s (.release (.handle t)) (s.dropHandle t) := by
  unfold dropHandle
  dsimp only
  have phase : (s.modifyTask t fun m => { m with handleDropped := true }).phase t = s.phase t := rfl
  rw [phase]
  split
  · rename_i failed
    obtain ⟨f, trace, only, looked, logged, hush, eq⟩ :=
      reportUnobserved_eq (s := s.modifyTask t fun m => { m with handleDropped := true }) t
    have unseen : (s.modifyTask t fun m => { m with handleDropped := true }).unseen t =
        s.unseen t := by
      rw [State.unseen, State.unseen, modifyTask, Store.get?_modify_self]
      cases s.tasks.get? t <;> rfl
    rw [eq]
    simp only [modifyTask, Store.modify_modify]
    refine .dropHandle trace (fun m => ?_) (fun task found => ?_) ?_ hush
    · obtain ⟨b, same⟩ := only { m with handleDropped := true }
      exact ⟨b, same⟩
    · rw [looked _ (by rw [modifyTask, Store.get?_modify_self, found]; rfl)]
      simp [failed]
    · rw [if_pos failed, ← unseen]
      exact logged
  · rename_i ongoing
    exact .dropHandle s.trace (fun m => ⟨m.reported, rfl⟩) (fun _ _ => by simp [ongoing])
      (by simp [ongoing]) rfl

theorem dropGroup_effect (g : TaskId) : Effect s (.release (.group g)) (s.dropGroup g) := by
  unfold dropGroup
  split
  · rename_i missing
    exact .spent missing
  · rename_i group found
    split
    · rename_i drained
      exact .dropGroup found drained
    · rename_i outstanding
      exact .dropUndrained found outstanding

theorem dropCall_effect (k : CallId) : Effect s (.release (.call k)) (s.dropCall k) := by
  unfold dropCall
  split
  · rename_i missing
    exact .spent missing
  · rename_i call found
    split
    · rename_i answered
      exact .dropAnswered found answered
    · rename_i pending
      exact .dropPending found (Bool.not_eq_true _ ▸ pending)

/-- **Every item of the agenda has one of the effects.** -/
theorem perform_effect (a : Action) : Effect s a (s.perform a) := by
  cases a with
  | cancel n =>
    simp only [perform, cancelNode]
    split
    · rename_i missing
      exact .spent fun node found => by simp [missing] at found
    · rename_i node found
      split
      · rename_i flagged
        refine .spent fun other same => ?_
        cases found.symm.trans same
        exact flagged
      · rename_i unflagged
        exact .cancel found (Bool.not_eq_true _ ▸ unflagged)
  | finish n =>
    simp only [perform, finishNode]
    have same : (s.modifyNode n fun m => { m with finished := true }).children n = s.children n :=
      children_modifyNode_same fun _ => rfl
    have := Effect.finish (s := s) n
    rw [same]
    split
    · rename_i empty
      rwa [if_pos (List.isEmpty_iff.1 empty)] at this
    · rename_i some_left
      rwa [if_neg fun none => some_left (List.isEmpty_iff.2 none)] at this
  | detach n => exact detachNode_effect n
  | wake w =>
    cases w with
    | task t => exact resume_effect t
    | member g index child => exact inform_effect g index child
  | announce g index =>
    simp only [perform, State.announce]
    split
    · rename_i missing
      exact .spent missing
    · rename_i signal found
      exact .announce index found
  | wakeWaiters t =>
    simp only [perform, State.wakeWaiters]
    split
    · rename_i missing
      exact .spent missing
    · rename_i task found
      exact .wakeWaiters found
  | reportFailure t => exact reportFailure_effect t
  | answer k outcome =>
    simp only [perform, State.answer]
    split
    · rename_i missing
      exact .spent missing
    · rename_i call found
      exact .answer outcome found
  | record e => exact .record e
  | complain message =>
    simp only [perform, State.complain]
    split
    · rename_i raise
      exact .panic message raise.1 raise.2
    · rename_i hushed
      exact .spent hushed
  | release r =>
    cases r with
    | handle t => exact dropHandle_effect t
    | group g => exact dropGroup_effect g
    | call k => exact dropCall_effect k
  | dissolve g =>
    simp only [perform, State.dissolve]
    split
    · rename_i missing
      exact .spent missing
    · rename_i group found
      exact .dissolve found
  | forget t =>
    simp only [perform, forgetTask]
    split
    · rename_i missing
      exact .spent (.inl missing)
    · rename_i task found
      split
      · rename_i held
        exact .spent (.inr held)
      · rename_i loose
        exact .forget found (Bool.not_eq_true _ ▸ loose)
  | bury t =>
    simp only [perform, buryTask]
    split
    · rename_i missing
      exact .spent missing
    · rename_i task found
      exact .bury found
  | forgetSignal g =>
    simp only [perform, State.forgetSignal]
    split
    · rename_i alive
      exact .spent (.inl alive)
    · rename_i dead
      split
      · rename_i missing
        exact .spent (.inr missing)
      · rename_i signal found
        exact .silence (Bool.not_eq_true _ ▸ dead) found
  | discard e =>
    cases e with
    | task t => exact .discardTask t
    | drain a => exact .discardDrain a
    | marker serial => exact .spent trivial
  | abandon a =>
    simp only [perform, State.abandon]
    split
    · rename_i missing
      exact .spent missing
    · rename_i actor found
      split
      · exact .abandon s.trace found rfl rfl
      · exact .abandon _ found (losses_push_of_none _ rfl) (outcries_push_of_none _ rfl)

end State

end Nursery
