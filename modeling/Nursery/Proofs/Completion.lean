import Nursery.Proofs.Invariant.Lasts

/-!
# A task ends after everything below it

A task that was attached to another one, or to a group of it, holds that one up.  When a task has
ended, nothing below it goes on, at any depth and through any groups, so whoever learns how it
ended knows that all of its work is over.  A root is below nobody and holds up nobody.

* `State.Below` : a node was attached below another one, at any depth.
* `State.SubtreeEnded` : a task has ended, and so has every task below it.
* `State.Yields` : the outcome of a task is taken.
* `subtree_ended` : **a task that has ended leaves nothing unfinished below it.**
-/

namespace Nursery

namespace State

/-- A node was attached below another one, at any depth. -/
inductive Below (s : State) (p : TaskId) : TaskId → Prop where
  /-- It was attached to that one itself. -/
  | child {n : TaskId} {node : Node} (found : s.nodes.get? n = some node)
      (parent : node.parent = some p) : Below s p n
  /-- It was attached to one that is below that one. -/
  | deeper {m n : TaskId} {node : Node} (above : Below s p m) (found : s.nodes.get? n = some node)
      (parent : node.parent = some m) : Below s p n

/-- A task has ended and lists nobody, and so has every task below it. -/
structure SubtreeEnded (s : State) (t : TaskId) : Prop where
  /-- It has ended. -/
  ended : (s.phase t).isTerminal = true
  /-- It lists nobody. -/
  alone : s.children t = []
  /-- Every task below it has ended, and nothing below it lists anybody. -/
  below : ∀ u, s.Below t u →
    s.children u = [] ∧ (s.kind? u = some .task → (s.phase u).isTerminal = true)

/-- The outcome of a task is taken. -/
def Yields (s s' : State) (t : TaskId) : Prop :=
  ∃ task task', s.tasks.get? t = some task ∧ task.outcome ≠ none ∧
    s'.tasks.get? t = some task' ∧ task'.outcome = none

end State

variable {s s' : State} {d d' : Desk} {t u : TaskId}

/-- What is below a node stays below it. -/
theorem Lasts.below (h : Lasts s s') (below : s.Below t u) : s'.Below t u := by
  induction below with
  | child found parent =>
    obtain ⟨node', found', lasts⟩ := h _ _ found
    exact .child found' (lasts.parent.trans parent)
  | deeper _ found parent ih =>
    obtain ⟨node', found', lasts⟩ := h _ _ found
    exact .deeper ih found' (lasts.parent.trans parent)

/-- Below a task that has ended every node was reaped. -/
theorem Kinship.reaped_below (h : Kinship s) (ended : (s.phase t).isTerminal = true)
    (below : s.Below t u) : ∃ node, s.nodes.get? u = some node ∧ node.reaped = true := by
  induction below with
  | @child n node found parent =>
    refine ⟨node, found, (h.linked n node t found parent).resolve_right fun listed => ?_⟩
    rw [h.ended t ended] at listed
    cases listed
  | @deeper m n node _ found parent ih =>
    obtain ⟨above, known, gone⟩ := ih
    refine ⟨node, found, (h.linked n node m found parent).resolve_right fun listed => ?_⟩
    rw [State.children_of_get? known, (h.reaped m above known gone).2] at listed
    cases listed

theorem Kinship.subtreeEnded (h : Kinship s) (ended : (s.phase t).isTerminal = true) :
    s.SubtreeEnded t where
  ended := ended
  alone := h.ended t ended
  below u below := by
    obtain ⟨node, found, gone⟩ := h.reaped_below ended below
    obtain ⟨past, none⟩ := h.reaped u node found gone
    refine ⟨(State.children_of_get? found).trans none, fun task => ?_⟩
    rcases h.finished u node found past with ended | ⟨group, -⟩
    · exact ended
    · cases task.symm.trans group

/-! ### Who takes an outcome -/

section

variable {c : Context} {hand hand' : List Resource} {task task' : Task}

/-- No item of the agenda takes an outcome. -/
theorem Effect.outcome {a : Action} (e : Effect s a s') (found' : s'.tasks.get? t = some task') :
    ∃ task, s.tasks.get? t = some task ∧ task'.outcome = task.outcome := by
  cases e with
  | resume =>
    rw [State.tasks_enqueue] at found'
    exact ⟨task', found', rfl⟩
  | wakeWaiters | forget =>
    obtain ⟨m, found, rfl⟩ := Store.get?_modify_eq_some.1 found'
    refine ⟨m, found, ?_⟩
    split <;> rfl
  | @reportFailure u f trace only | @dropHandle u f trace only =>
    obtain ⟨m, found, rfl⟩ := Store.get?_modify_eq_some.1 found'
    refine ⟨m, found, ?_⟩
    obtain ⟨b, eq⟩ := only m
    split
    · rw [eq]
    · rfl
  | bury =>
    rw [State.doFirst, Store.get?_erase] at found'
    split at found'
    · cases found'
    · exact ⟨task', found', rfl⟩
  | _ => exact ⟨task', found', rfl⟩

/-- The handle of a task is in hand, or the group that it is a child of. -/
def State.Offers (s : State) (hand : List Resource) (t : TaskId) : Prop :=
  .handle t ∈ hand ∨
    ∃ g group, .group g ∈ hand ∧ s.groups.get? g = some group ∧ t ∈ group.children

/-- A line takes an outcome only of a task that has ended and that it has in hand. -/
theorem Change.outcome (formed : Formed s) (hc : Change c s hand s' hand')
    (found : s.tasks.get? t = some task) (there : task.outcome ≠ none)
    (found' : s'.tasks.get? t = some task') (taken : task'.outcome = none) :
    (s.phase t).isTerminal = true ∧ s.Offers hand t := by
  -- where the task stays as it is, nothing was taken
  have same : s.tasks.get? t = some task' →
      (s.phase t).isTerminal = true ∧ s.Offers hand t := by
    intro again
    cases found.symm.trans again
    exact absurd taken there
  have old : s.nextNode ≠ t := by
    rintro rfl
    simp [formed.fresh_task] at found
  cases hc with
  | @spawn home parent priority body =>
    obtain ⟨nodes, trace, -, eq⟩ :=
      State.launch_addNode_eq formed.nodes priority parent home body false
    rw [eq, State.tasks_enqueue] at found'
    exact same ((Store.get?_set_of_ne old).symm.trans found')
  | group =>
    obtain ⟨nodes, trace, priority, -, eq⟩ := State.makeGroup_eq formed.nodes c _
    rw [eq] at found'
    exact same found'
  | @add g group priority body =>
    obtain ⟨nodes, trace, p, -, eq⟩ :=
      State.addChild_eq formed.nodes formed.fresh_task g group priority body
    rw [eq, State.tasks_enqueue] at found'
    exact same ((Store.get?_set_of_ne old).symm.trans found')
  | @call a home handler =>
    obtain ⟨actors, runtimes, agenda, eq⟩ := State.post_eq
      { s with calls := s.calls.set s.nextCall { accepted := true } } a home
      ⟨handler, some s.nextCall⟩
    rw [eq] at found'
    exact same found'
  | @send a home handler =>
    obtain ⟨actors, runtimes, agenda, eq⟩ := State.post_eq s a home ⟨handler, none⟩
    rw [eq] at found'
    exact same found'
  | register =>
    obtain ⟨m, known, rfl⟩ := Store.get?_modify_eq_some.1 found'
    cases found.symm.trans known
    split at taken <;> exact absurd taken there
  | @take u ended mine =>
    by_cases hu : u = t
    · exact hu ▸ ⟨ended, mine⟩
    · exact same ((Store.get?_modify_of_ne hu).symm.trans found')
  | _ => exact same found'

theorem Changes.outcome (formed : Formed s) (hc : Changes c s hand s' hand')
    (found : s.tasks.get? t = some task) (there : task.outcome ≠ none)
    (found' : s'.tasks.get? t = some task') (taken : task'.outcome = none) :
    (s.phase t).isTerminal = true := by
  have key := hc.invariant (I := fun x _ => (Formed x ∧ Keeps s x) ∧
    ∀ m, x.tasks.get? t = some m → m.outcome = none → (s.phase t).isTerminal = true)
    (fun {x x' hand hand'} hc h => ?_) ⟨⟨formed, .refl s⟩, fun m known none => ?_⟩
  · exact key.2 task' found' taken
  · obtain ⟨⟨formed', keeps⟩, before⟩ := h
    refine ⟨⟨formed'.change hc, keeps.trans (.change formed' hc)⟩, fun m known none => ?_⟩
    obtain ⟨ws, o, known'⟩ := keeps.tasks t task found
    by_cases earlier : o = Option.none
    · exact before _ known' earlier
    · obtain ⟨node, hn, -⟩ := Option.map_eq_some_iff.1 (formed.tasks t task found)
      rw [← keeps.phase hn]
      exact (hc.outcome formed' known' earlier known none).1
  · cases found.symm.trans known
    exact absurd none there

end

/-- Somebody learns how a task ended only after it has ended. -/
theorem Transition.yields (h : Sound s d) (tr : Transition s d s' d') (y : s.Yields s' t) :
    (s.phase t).isTerminal = true := by
  obtain ⟨task, task', found, there, found', taken⟩ := y
  have same : s.tasks.get? t = some task' → (s.phase t).isTerminal = true := by
    intro again
    cases found.symm.trans again
    exact absurd taken there
  cases tr with
  | step =>
    have next := State.step_cases h.wakeful.waitsOnOwn
    generalize s.step = s' at next found'
    cases next with
    | item first e =>
      subst first
      obtain ⟨m, known, outcome⟩ := e.outcome found'
      cases found.symm.trans known
      exact absurd (outcome.symm.trans taken) there
    | work idle active w =>
      -- what a turn stores of its body leaves the outcome alone
      have stored : ∀ {c : Context} {hand hand' : List Resource} {s₁ : State} {v : TaskId}
          {f : Option Fiber}, Changes c s hand s₁ hand' →
            (s₁.modifyTask v fun m => { m with fiber := f }).tasks.get? t = some task' →
              (s.phase t).isTerminal = true := by
        intro c hand hand' s₁ v f hc now
        obtain ⟨m, known, rfl⟩ := Store.get?_modify_eq_some.1 now
        refine hc.outcome h.formed found there known ?_
        split at taken <;> exact taken
      cases w with
      | next _ _ changes | suspend _ _ changes | ends _ _ changes | pause _ _ _ changes =>
        exact stored changes found'
      | handle _ changes | hold _ _ changes | handled _ _ changes =>
        exact changes.outcome h.formed found there found' taken
      | @endBody v ending f trace cancelled during only =>
        obtain ⟨m, known, rfl⟩ := Store.get?_modify_eq_some.1 found'
        obtain ⟨o, a, eq⟩ := only m
        split at taken
        · rw [eq] at taken
          cases taken
        · cases found.symm.trans known
          exact absurd taken there
      | again | drainAgain | markerAgain =>
        rw [State.tasks_enqueue] at found'
        exact same found'
      | _ => exact same found'
    | rest => exact same found'
  | stray => exact same found'
  | move rests m =>
    have idle := State.idle_of_resting rests
    cases m with
    | build place batch stem =>
      rcases s.build_cases place batch stem with eq | ⟨-, settings, eq⟩
      · rw [eq] at found'
        exact same found'
      · rw [eq] at found'
        exact same found'
    | start | block | join =>
      rw [State.tasks_start] at found'
      exact same found'
    | startRounds =>
      rw [State.startRounds, State.tasks_start, State.tasks_enqueue] at found'
      exact same found'
    | @launchRoot _ r _ body =>
      obtain ⟨nodes, trace, -, eq⟩ :=
        State.launch_addNode_eq h.formed.nodes .normal none r body true
      rw [State.launchRoot, eq, State.tasks_enqueue] at found'
      have old : s.nextNode ≠ t := by
        rintro rfl
        simp [h.formed.fresh_task] at found
      exact same ((Store.get?_set_of_ne old).symm.trans found')
    | @leaveRoot _ v ended =>
      by_cases hv : v = t
      · exact hv ▸ ended
      · exact same ((Store.get?_modify_of_ne hv).symm.trans found')
    | close => exact same found'
    | line plain =>
      exact (State.plain?_fits idle plain).outcome h.formed found there found' taken
    | @shelve f =>
      exact (State.shelve_changes (c := { who := .main }) f s []).outcome h.formed found there
        found' taken

/-! ### A look at the children -/

/-- A task that is at the end of its slice only has not ended. -/
theorem State.ongoing_endPending {home : RuntimeId} {node : Node}
    (found : s.nodes.get? t = some node) :
    ((s.endPending home t).phase t).isTerminal = false := by
  have next : ∀ p, ((s.setSlice home none).setPhase t p).phase t = p :=
    fun p => phase_modifyNode_self (s := s.setSlice home none) found
  unfold endPending
  dsimp only
  split
  · exact congrArg Phase.isTerminal (next .suspended)
  · split
    · rw [phase_enqueue]
      exact congrArg Phase.isTerminal (next .ready)
    · exact congrArg Phase.isTerminal (next .ready)

/-- A task whose body is over ends at its next look if it lists nobody, and only then. -/
theorem Sound.joins (h : Sound s d) (idle : s.agenda = []) {home : RuntimeId} {goal : Goal}
    (active : s.active = some (home, goal)) {stage : Stage}
    (during : s.slice home = some (.task t stage)) (past : s.Over t stage) :
    (s.step.phase t).isTerminal = true ↔ s.children t = [] := by
  obtain ⟨task, found⟩ := h.dispatch.known home t stage during
  obtain ⟨node, hn, -⟩ := Option.map_eq_some_iff.1 (h.formed.tasks t task found)
  obtain ⟨rt, known, slice⟩ := State.slice_eq during
  have look : s.step = s.joinChildren home t := by
    simp only [State.step, idle, active, State.work, known, slice]
    rcases past with rfl | ⟨rfl, none⟩
    · rfl
    · have gone : task.fiber = Option.none := by simpa [found] using none
      simp [State.taskStep, found, gone]
  have marked : ∀ j, (s.modifyNode t fun n => { n with joining := j }).nodes.get? t =
      some { node with joining := j } := fun j => by
    simp [State.modifyNode, Store.get?_modify_self, hn]
  rw [look, State.joinChildren]
  split
  · rename_i alone
    refine ⟨fun _ => List.isEmpty_iff.1 alone, fun _ => ?_⟩
    have ended : ∀ p, ((s.modifyNode t fun n => { n with joining := false }).setPhase t p).phase t =
        p := fun p => State.phase_modifyNode_self (marked false)
    exact (congrArg Phase.isTerminal (ended _)).trans (State.isTerminal_finalPhase _)
  · rename_i busy
    refine ⟨fun ended => ?_, fun alone => absurd (List.isEmpty_iff.2 alone) busy⟩
    rw [State.ongoing_endPending (marked true)] at ended
    cases ended

/-! ### Structured completion -/

/-- **A task that has ended leaves nothing unfinished below it**, whatever was attached there and
when.  A root is listed by nobody, and the list alone decides whether a task whose body is over
ends; so whoever takes the outcome of a task, or was blocked on it, finds all below it at an end. -/
theorem subtree_ended (h : Reachable s d) (l : Leads s d s' d') :
    (∀ t, (s'.phase t).isTerminal = true → s'.SubtreeEnded t ∧
      ∀ u, s.Below t u → s'.kind? u = some .task → (s'.phase u).isTerminal = true) ∧
    (∀ n node p, s'.nodes.get? n = some node → node.parent = none → n ∉ s'.children p) ∧
    (∀ home goal t stage, s'.agenda = [] → s'.active = some (home, goal) →
      s'.slice home = some (.task t stage) → s'.Over t stage →
        ((s'.step.phase t).isTerminal = true ↔ s'.children t = [])) ∧
    (∀ s'' d'' t, Transition s' d' s'' d'' → s'.Yields s'' t → s'.SubtreeEnded t) ∧
    ∀ t, s'.blockReport t ≠ .nothing → s'.SubtreeEnded t := by
  have sound := (h.leads l).sound
  have kinship := sound.kinship
  refine ⟨fun t ended => ⟨kinship.subtreeEnded ended, fun u below task => ?_⟩,
    fun n node p found root listed => ?_, fun home goal t stage idle active during past => ?_,
    fun s'' d'' t tr y => kinship.subtreeEnded (tr.yields sound y), fun t learnt => ?_⟩
  · exact ((kinship.subtreeEnded ended).below u ((l.lasts h).below below)).2 task
  · obtain ⟨node', found', parent⟩ := kinship.listed p n listed
    cases found.symm.trans found'
    cases root.symm.trans parent
  · exact sound.joins idle active during past
  · refine kinship.subtreeEnded ?_
    by_contra ongoing
    exact learnt (by simp [State.blockReport, ongoing])

/-- When the parent has ended the child has. -/
theorem subtree_ended_family : (family 6).Below ⟨0⟩ ⟨1⟩ ∧
    ((State.run 60 (family 6)).phase ⟨1⟩).isTerminal = true := by
  have attached : (family 6).Below ⟨0⟩ ⟨1⟩ := .child rfl rfl
  exact ⟨attached, ((subtree_ended (reachable_family 6) (leads_run 60 _ _)).1 ⟨0⟩ (by decide)).2 ⟨1⟩
    attached (by decide)⟩

end Nursery
