import Mathlib.Algebra.Order.BigOperators.Group.List
import Mathlib.Algebra.Order.Group.Nat
import Nursery.Proofs.Program.Staff

/-!
# Programs come to rest

What a program can still give to do is bounded by its lines, and three numbers say how much is
left.  The *burden* is what the bodies and the nodes can still give to do; the *stir* counts the
wakes on their way, in the queue, noted, or still to come; the *chores* are what remains to be
cleared up.  Every step lessens the burden, or else the stir, or else the chores.

* `State.burden`, `State.stir`, `State.chores` : the three numbers.
* `Lessens` : they go down, the first of them first.
* `Effect.lessens`, `Toil.lessens` : every step lessens them.
* `Lessens.rests` : so the machine comes to rest.
-/

namespace Nursery

/-! ### How much is left -/

/-- How much a suspended line can still give to do. -/
def Waiting.burden (w : Waiting) : Nat :=
  match w.wait with
  | .yielding left => left + 1
  | _ => 1

/-- How much a body can still give to do. -/
def Fiber.burden (f : Fiber) : Nat :=
  2 + 10 * linesWeight f.code + (f.waiting.map Waiting.burden).getD 0 + if f.begun then 0 else 1

/-- How much a task can still give to do. -/
def Task.burden (m : Task) : Nat :=
  1 + (m.fiber.map Fiber.burden).getD 0

/-- How often a node can still change for good. -/
def Node.burden (m : Node) : Nat :=
  (!m.flagged).toNat + (!m.reaped).toNat + (!m.phase.isTerminal).toNat

/-- A node notes that its task was woken. -/
def Node.noted (m : Node) : Nat :=
  if m.phase = .notified then 1 else 0

/-- What the end of a body still brings. -/
def Slice.burden : Slice → Nat
  | .task _ (.ended _) => 1
  | _ => 0

/-- How far a slice is from its end. -/
def Slice.chores : Slice → Nat
  | .task _ .polling => 20
  | .task _ .suspending => 15
  | .task _ (.ended _) | .task _ .joining => 10
  | .task _ .leaving => 5
  | .drain .. => 0

/-- How much an item of the agenda is to clear up. -/
def Action.chores : Action → Nat
  | .release _ => 4
  | .forget _ => 3
  | .finish _ | .bury _ => 2
  | _ => 1

namespace State

/-- How many tasks wait for the end of a task. -/
def crowd (s : State) (t : TaskId) : Nat :=
  ((s.tasks.get? t).map fun m => m.waiters.length).getD 0

end State

/-- How many wakes an item of the agenda brings, each for twice as much as a queued task. -/
def Action.stir (crowd : TaskId → Nat) : Action → Nat
  | .wake _ => 2
  | .wakeWaiters t => 1 + 2 * crowd t
  | _ => 0

namespace State

/-- How much the bodies and the nodes can still give to do. -/
def burden (s : State) (home : RuntimeId) : Nat :=
  s.tasks.tally (fun _ m => m.burden) + s.nodes.tally (fun _ m => m.burden) +
    ((s.slice home).map Slice.burden).getD 0

/-- How much is queued. -/
def queued (s : State) (home : RuntimeId) : Nat :=
  ((s.runtimes.get? home).map fun rt => rt.queue.toList.length).getD 0

/-- How many wakes are on their way. -/
def stir (s : State) (home : RuntimeId) : Nat :=
  s.queued home + s.nodes.tally (fun _ m => m.noted) + (s.agenda.map (Action.stir s.crowd)).sum

/-- How much is to be cleared up. -/
def chores (s : State) (home : RuntimeId) : Nat :=
  ((s.slice home).map Slice.chores).getD 0 + (s.agenda.map Action.chores).sum +
    s.active.isSome.toNat

/-- How much is left. -/
def left (s : State) (home : RuntimeId) : Nat × Nat × Nat :=
  (s.burden home, s.stir home, s.chores home)

end State

/-- Less is left. -/
def Lessens (home : RuntimeId) (s s' : State) : Prop :=
  Prod.Lex (· < ·) (Prod.Lex (· < ·) (· < ·)) (s'.left home) (s.left home)

theorem State.run_of_resting {s : State} (rests : s.resting = true) (limit : Nat) :
    State.run limit s = s := by
  cases limit with
  | zero => rfl
  | succ limit => rw [State.run, if_pos rests]

namespace Lessens

variable {s s' : State} {home : RuntimeId}

theorem of_burden (h : s'.burden home < s.burden home) : Lessens home s s' :=
  .left _ _ h

theorem of_stir (burden : s'.burden home ≤ s.burden home) (h : s'.stir home < s.stir home) :
    Lessens home s s' := by
  rcases Nat.lt_or_eq_of_le burden with less | same
  · exact .of_burden less
  · unfold Lessens State.left
    rw [same]
    exact .right _ (.left _ _ h)

theorem of_chores (burden : s'.burden home ≤ s.burden home) (stir : s'.stir home ≤ s.stir home)
    (h : s'.chores home < s.chores home) : Lessens home s s' := by
  rcases Nat.lt_or_eq_of_le stir with less | same
  · exact .of_stir burden less
  · rcases Nat.lt_or_eq_of_le burden with less | same'
    · exact .of_burden less
    · unfold Lessens State.left
      rw [same, same']
      exact .right _ (.right _ h)

theorem wellFounded (home : RuntimeId) : WellFounded fun s' s => Lessens home s s' :=
  InvImage.wf (State.left · home)
    (Prod.lex Nat.lt_wfRel (Prod.lex Nat.lt_wfRel Nat.lt_wfRel)).wf

/-- A machine that lessens what is left by every step comes to rest, and stays so however many
steps it is given. -/
theorem rests {Holds : State → Prop}
    (step : ∀ s, Holds s → s.resting = false → Holds s.step ∧ Lessens home s s.step)
    (holds : Holds s) :
    ∃ enough s', Holds s' ∧ s'.resting = true ∧ ∀ limit ≥ enough, State.run limit s = s' := by
  induction s using (wellFounded home).induction with
  | _ s ih =>
    cases rests : s.resting with
    | true =>
      exact ⟨0, s, holds, rests, fun limit _ => State.run_of_resting rests limit⟩
    | false =>
      obtain ⟨holds', less⟩ := step s holds rests
      obtain ⟨enough, s', there, done, same⟩ := ih s.step less holds'
      refine ⟨enough + 1, s', there, done, fun limit more => ?_⟩
      obtain ⟨limit, rfl⟩ := Nat.exists_eq_succ_of_ne_zero (by omega : limit ≠ 0)
      rw [State.run, rests]
      exact same limit (by omega)

end Lessens

/-! ### How the numbers change -/

namespace State

variable {s : State} {home : RuntimeId} {n t : TaskId}

theorem stir_doFirst (as : List Action) :
    (s.doFirst as).stir home = (as.map (Action.stir s.crowd)).sum + s.stir home := by
  simp only [stir, doFirst, List.map_append, List.sum_append]
  show s.queued home + _ + ((as.map (Action.stir s.crowd)).sum +
    (s.agenda.map (Action.stir s.crowd)).sum) = _
  omega

theorem chores_doFirst (as : List Action) :
    (s.doFirst as).chores home = (as.map Action.chores).sum + s.chores home := by
  simp only [chores, doFirst, List.map_append, List.sum_append]
  show ((s.slice home).map Slice.chores).getD 0 + _ + _ = _
  omega

theorem stir_idle (idle : s.agenda = []) :
    s.stir home = s.queued home + s.nodes.tally (fun _ m => m.noted) := by
  rw [stir, idle]
  rfl

theorem chores_idle (idle : s.agenda = []) :
    s.chores home = ((s.slice home).map Slice.chores).getD 0 + s.active.isSome.toNat := by
  rw [chores, idle]
  rfl

theorem queued_modifyRuntime (home : RuntimeId) {f : Runtime → Runtime}
    (queue : ∀ rt, (f rt).queue = rt.queue) :
    (s.modifyRuntime home f).queued home = s.queued home := by
  simp only [queued, modifyRuntime, Store.get?_modify_self, Option.map_map]
  congr 2
  funext rt
  exact congrArg (fun q : RunQueue Entry => q.toList.length) (queue rt)

theorem burden_modifyNode (home : RuntimeId) (distinct : s.nodes.Distinct) {node : Node}
    (found : s.nodes.get? n = some node) (f : Node → Node) :
    (s.modifyNode n f).burden home + node.burden = s.burden home + (f node).burden := by
  have := Store.tally_modify (w := fun _ m => Node.burden m) distinct (f := f) found
  show s.tasks.tally _ + (s.nodes.modify n f).tally _ +
      ((s.slice home).map Slice.burden).getD 0 + _ =
    s.tasks.tally _ + s.nodes.tally _ + ((s.slice home).map Slice.burden).getD 0 + _
  omega

theorem stir_modifyNode (home : RuntimeId) (distinct : s.nodes.Distinct) {node : Node}
    (found : s.nodes.get? n = some node) (f : Node → Node) :
    (s.modifyNode n f).stir home + node.noted = s.stir home + (f node).noted := by
  have := Store.tally_modify (w := fun _ m => Node.noted m) distinct (f := f) found
  show s.queued home + (s.nodes.modify n f).tally _ + (s.agenda.map (Action.stir s.crowd)).sum + _ =
    s.queued home + s.nodes.tally _ + (s.agenda.map (Action.stir s.crowd)).sum + _
  omega

theorem burden_modifyNode_same (home : RuntimeId) (distinct : s.nodes.Distinct) {f : Node → Node}
    (same : ∀ m, s.nodes.get? n = some m → (f m).burden = m.burden) :
    (s.modifyNode n f).burden home = s.burden home := by
  have := Store.tally_modify_same (w := fun _ m => Node.burden m) same distinct
  show s.tasks.tally _ + (s.nodes.modify n f).tally _ + ((s.slice home).map Slice.burden).getD 0 = _
  rw [this]
  rfl

theorem stir_modifyNode_same (home : RuntimeId) (distinct : s.nodes.Distinct) {f : Node → Node}
    (same : ∀ m, s.nodes.get? n = some m → (f m).noted = m.noted) :
    (s.modifyNode n f).stir home = s.stir home := by
  have := Store.tally_modify_same (w := fun _ m => Node.noted m) same distinct
  show s.queued home + (s.nodes.modify n f).tally _ + (s.agenda.map (Action.stir s.crowd)).sum = _
  rw [this]
  rfl

theorem burden_setPhase (home : RuntimeId) (distinct : s.nodes.Distinct) {p : Phase}
    (same : p.isTerminal = (s.phase t).isTerminal) :
    (s.setPhase t p).burden home = s.burden home := by
  refine burden_modifyNode_same home distinct fun m known => ?_
  rw [phase_of_get? known] at same
  simp only [Node.burden, same]

theorem stir_setPhase (home : RuntimeId) (distinct : s.nodes.Distinct) {node : Node}
    (known : s.nodes.get? t = some node) (p : Phase) :
    (s.setPhase t p).stir home + (if s.phase t = .notified then 1 else 0) =
      s.stir home + if p = .notified then 1 else 0 := by
  rw [phase_of_get? known]
  exact stir_modifyNode home distinct known _

theorem burden_modifyTask (home : RuntimeId) (distinct : s.tasks.Distinct) {task : Task}
    (found : s.tasks.get? t = some task) (f : Task → Task) :
    (s.modifyTask t f).burden home + task.burden = s.burden home + (f task).burden := by
  have := Store.tally_modify (w := fun _ m => Task.burden m) distinct (f := f) found
  show (s.tasks.modify t f).tally _ + s.nodes.tally _ +
      ((s.slice home).map Slice.burden).getD 0 + _ =
    s.tasks.tally _ + s.nodes.tally _ + ((s.slice home).map Slice.burden).getD 0 + _
  omega

theorem burden_modifyTask_same (home : RuntimeId) (distinct : s.tasks.Distinct) {f : Task → Task}
    (same : ∀ m, (f m).fiber = m.fiber) : (s.modifyTask t f).burden home = s.burden home := by
  cases found : s.tasks.get? t with
  | none => rw [modifyTask, Store.modify_of_none found]
  | some task =>
    have := burden_modifyTask home distinct found f
    rw [Task.burden, Task.burden, same] at this
    omega

theorem stir_le_of_tasks {tasks : Store TaskId Task}
    (fewer : ∀ t, ({ s with tasks := tasks } : State).crowd t ≤ s.crowd t) :
    ({ s with tasks := tasks } : State).stir home ≤ s.stir home := by
  have less : ∀ a, Action.stir ({ s with tasks := tasks } : State).crowd a ≤
      Action.stir s.crowd a := by
    intro a
    cases a with
    | wakeWaiters t =>
      have := fewer t
      simp only [Action.stir]
      omega
    | _ => exact Nat.le_refl _
  have : (s.agenda.map (Action.stir ({ s with tasks := tasks } : State).crowd)).sum ≤
      (s.agenda.map (Action.stir s.crowd)).sum := List.sum_le_sum fun a _ => less a
  exact Nat.add_le_add_left this _

theorem crowd_modifyTask {u : TaskId} {f : Task → Task}
    (fewer : ∀ m, (f m).waiters.length ≤ m.waiters.length) :
    (s.modifyTask t f).crowd u ≤ s.crowd u := by
  simp only [crowd, modifyTask, Store.get?_modify]
  split
  · cases s.tasks.get? u with
    | none => exact Nat.le_refl _
    | some m => exact fewer m
  · exact Nat.le_refl _

theorem stir_modifyTask (home : RuntimeId) {f : Task → Task}
    (fewer : ∀ m, (f m).waiters.length ≤ m.waiters.length) :
    (s.modifyTask t f).stir home ≤ s.stir home :=
  stir_le_of_tasks fun _ => crowd_modifyTask fewer

theorem stir_push {rt : Runtime} (found : s.runtimes.get? home = some rt) (p : Priority)
    (e : Entry) :
    (s.modifyRuntime home fun rt => { rt with queue := rt.queue.push p e }).stir home =
      s.stir home + 1 := by
  have more : (rt.queue.push p e).toList.length = rt.queue.toList.length + 1 := by
    rw [RunQueue.toList_push]
    cases p <;> simp only [RunQueue.toList, List.length_append, List.length_singleton] <;> omega
  simp only [stir, queued, modifyRuntime, Store.get?_modify_self, found, Option.map_some,
    Option.getD_some, more]
  show _ + s.nodes.tally _ + (s.agenda.map (Action.stir s.crowd)).sum = _
  omega

theorem burden_modifyRuntime {f : Runtime → Runtime} (slice : ∀ rt, (f rt).slice = rt.slice) :
    (s.modifyRuntime home f).burden home = s.burden home := by
  simp only [burden, slice_modifyRuntime_same home slice]
  rfl

theorem chores_modifyRuntime {f : Runtime → Runtime} (slice : ∀ rt, (f rt).slice = rt.slice) :
    (s.modifyRuntime home f).chores home = s.chores home := by
  simp only [chores, slice_modifyRuntime_same home slice]
  rfl

theorem burden_setSlice {rt : Runtime} (built : s.runtimes.get? home = some rt)
    (new : Option Slice) :
    (s.setSlice home new).burden home + ((s.slice home).map Slice.burden).getD 0 =
      s.burden home + (new.map Slice.burden).getD 0 := by
  simp only [burden, slice_setSlice_built built]
  show s.tasks.tally _ + s.nodes.tally _ + _ + _ = _
  omega

theorem stir_setSlice (new : Option Slice) : (s.setSlice home new).stir home = s.stir home := by
  simp only [stir, setSlice, queued_modifyRuntime (s := s) home
    (f := fun rt => { rt with slice := new }) fun _ => rfl]
  rfl

theorem chores_setSlice {rt : Runtime} (built : s.runtimes.get? home = some rt)
    (new : Option Slice) :
    (s.setSlice home new).chores home + ((s.slice home).map Slice.chores).getD 0 =
      s.chores home + (new.map Slice.chores).getD 0 := by
  simp only [chores, slice_setSlice_built built]
  show _ + (s.agenda.map Action.chores).sum + s.active.isSome.toNat + _ = _
  omega

end State

/-! ### Items of the agenda -/

section

variable {s s' : State} {root : TaskId} {home : RuntimeId} {a : Action}

theorem Action.chores_pos (a : Action) : 0 < a.chores := by
  cases a <;> simp only [Action.chores] <;> omega

/-- What an item changes brings no more to do and no more wakes, and the new items are less to clear
up than it was. -/
theorem Lessens.cleared {x : State} (as : List Action) (burden : x.burden home ≤ s.burden home)
    (stir : x.stir home ≤ s.stir home) (chores : x.chores home = s.chores home)
    (calm : (as.map (Action.stir x.crowd)).sum = 0) (less : (as.map Action.chores).sum < a.chores) :
    Lessens home (s.doFirst [a]) (x.doFirst as) := by
  refine .of_chores burden ?_ ?_
  · rw [State.stir_doFirst, State.stir_doFirst, calm]
    omega
  · rw [State.chores_doFirst, State.chores_doFirst, chores]
    simpa using less

theorem sum_stir_wake (crowd : TaskId → Nat) (waiters : List Waker) :
    ((waiters.map Action.wake).map (Action.stir crowd)).sum = 2 * waiters.length := by
  have each : Action.stir crowd ∘ Action.wake = fun _ => 2 := rfl
  rw [List.map_map, each]
  simp [Nat.mul_comm]

/-- A node leaves its parent once. -/
theorem State.burden_reaped {n : TaskId} {node : Node} (distinct : s.nodes.Distinct)
    (found : s.nodes.get? n = some node) (attached : node.reaped = false) :
    (s.modifyNode n fun m => { m with reaped := true }).burden home < s.burden home := by
  have := State.burden_modifyNode home distinct found fun m => { m with reaped := true }
  simp only [Node.burden, attached, Bool.not_false, Bool.not_true, Bool.toNat_true,
    Bool.toNat_false] at this
  omega

/-- The marks on a task change, and neither its body nor who waits for it. -/
theorem State.modifyTask_marks (home : RuntimeId) {t : TaskId} {f : Task → Task}
    (distinct : s.tasks.Distinct)
    (marks : ∀ m, (f m).fiber = m.fiber ∧ (f m).waiters = m.waiters) :
    (s.modifyTask t f).burden home = s.burden home ∧
      (s.modifyTask t f).stir home ≤ s.stir home :=
  ⟨State.burden_modifyTask_same home distinct fun m => (marks m).1,
    State.stir_modifyTask home fun m => by rw [(marks m).2]⟩

/-- What an item leaves is less than before. -/
theorem Effect.lessens (formed : Formed s) (programs : Programs (s.doFirst [a]) root home)
    (e : Effect s a s') : Lessens home (s.doFirst [a]) s' := by
  obtain ⟨isolated, all⟩ := programs.pop
  have stir : (s.doFirst [a]).stir home = Action.stir s.crowd a + s.stir home := by
    rw [State.stir_doFirst]
    simp
  -- the burden falls, or it stays and the stir falls, or both stay and the chores fall
  cases e with
  | spent => exact .cleared [] (Nat.le_refl _) (Nat.le_refl _) rfl rfl a.chores_pos
  | @cancel n node found unflagged =>
    have := State.burden_modifyNode home all.distinct found fun m => { m with flagged := true }
    simp only [Node.burden, unflagged, Bool.not_false, Bool.not_true, Bool.toNat_true,
      Bool.toNat_false] at this
    refine .of_burden ?_
    show (s.modifyNode n _).burden home < s.burden home
    omega
  | finish n =>
    refine .cleared _ (Nat.le_of_eq ?_) (Nat.le_of_eq ?_) rfl ?_ ?_
    · exact State.burden_modifyNode_same home all.distinct fun _ _ => rfl
    · exact State.stir_modifyNode_same home all.distinct fun _ _ => rfl
    · split <;> rfl
    · split <;> simp [Action.chores]
  | orphan found attached => exact .of_burden (State.burden_reaped all.distinct found attached)
  | @reap n p node above found attached | @reapLast n p node above found attached =>
    refine .of_burden (Nat.lt_of_le_of_lt (Nat.le_of_eq ?_)
      (State.burden_reaped all.distinct found attached))
    exact State.burden_modifyNode_same (s := s.modifyNode n fun m => { m with reaped := true })
      home (all.distinct.modify _ _) fun _ _ => rfl
  | @resume t task suspended found =>
    rw [(all.tasks t task found).home]
    have queue : (s.setPhase t .ready).enqueue home (s.priority t) (.task t) =
        (s.setPhase t .ready).modifyRuntime home fun rt =>
          { rt with queue := rt.queue.push (s.priority t) (.task t) } :=
      (all.modifyNode t (f := fun m => { m with phase := .ready }) fun _ => rfl).enqueue_eq _ _
    obtain ⟨rt, built, -⟩ := all.runtime
    obtain ⟨node, known, -⟩ := Option.map_eq_some_iff.1 (formed.tasks t task found)
    have same := State.burden_setPhase (t := t) (p := .ready) home all.distinct
      (by rw [suspended]; rfl)
    have still := State.stir_setPhase home all.distinct known .ready
    simp only [suspended, reduceCtorEq, if_false] at still
    rw [queue]
    refine .of_stir ?_ ?_
    · rw [State.burden_modifyRuntime fun _ => by rfl, same]
      exact Nat.le_refl _
    · rw [State.stir_push (s := s.setPhase t .ready) built, stir]
      simp only [Action.stir]
      omega
  | @notify t running =>
    obtain ⟨node, known, -⟩ := State.get?_of_phase running (by simp)
    have same := State.burden_setPhase (t := t) (p := .notified) home all.distinct
      (by rw [running]; rfl)
    have still := State.stir_setPhase home all.distinct known .notified
    simp only [running, reduceCtorEq, if_true, if_false] at still
    refine .of_stir (Nat.le_of_eq same) ?_
    rw [stir, State.stir_doFirst]
    simp only [List.map_cons, List.map_nil, Action.stir, List.sum_cons, List.sum_nil]
    omega
  | awake =>
    refine .of_stir (Nat.le_refl _) ?_
    rw [stir, State.stir_doFirst]
    simp [Action.stir]
  | @wakeWaiters t task found =>
    have same := State.burden_modifyTask_same home (t := t) formed.distinctTasks
      (f := fun m => { m with waiters := [] }) fun _ => rfl
    have fewer := State.stir_modifyTask (s := s) home (t := t)
      (f := fun m => { m with waiters := [] }) fun m => Nat.zero_le _
    have crowd : s.crowd t = task.waiters.length := by simp [State.crowd, found]
    refine .of_stir (Nat.le_of_eq same) ?_
    rw [stir, State.stir_doFirst, sum_stir_wake]
    simp only [Action.stir, crowd]
    omega
  | @reportFailure t f trace only =>
    obtain ⟨burden, still⟩ := State.modifyTask_marks home (t := t) (f := f)
      formed.distinctTasks fun m => by
        obtain ⟨b, eq⟩ := only m
        rw [eq]
        exact ⟨rfl, rfl⟩
    exact .cleared (x := { s.modifyTask t f with trace := trace }) [] (Nat.le_of_eq burden)
      still rfl rfl (by simp [Action.chores])
  | record e =>
    exact .cleared (x := s.tell e) [] (Nat.le_refl _) (Nat.le_refl _) rfl rfl
      (by simp [Action.chores])
  | @dropHandle t f trace only =>
    obtain ⟨burden, still⟩ := State.modifyTask_marks home (t := t) (f := f)
      formed.distinctTasks fun m => by
        obtain ⟨b, eq⟩ := only m
        rw [eq]
        exact ⟨rfl, rfl⟩
    exact .cleared (x := { s.modifyTask t f with trace := trace }) _ (Nat.le_of_eq burden) still rfl
      rfl (by simp [Action.chores])
  | @forget t task found loose =>
    have gone := State.burden_modifyTask home formed.distinctTasks found
      fun m => { m with fiber := none }
    cases fiber : task.fiber with
    | none =>
      simp only [Task.burden, fiber] at gone
      exact .cleared _ (Nat.le_of_eq (by omega)) (State.stir_modifyTask home fun m => Nat.le_refl _)
        rfl rfl (by simp [Action.chores])
    | some f =>
      simp only [Task.burden, fiber, Option.map_some, Option.getD_some, Option.map_none,
        Option.getD_none, Fiber.burden] at gone
      refine .of_burden ?_
      show (s.modifyTask t fun m => { m with fiber := none }).burden home < s.burden home
      omega
  | @bury t task found =>
    have gone := Store.tally_erase (w := fun _ m => Task.burden m) formed.distinctTasks found
    refine .of_burden ?_
    show (s.tasks.erase t).tally _ + s.nodes.tally _ + ((s.slice home).map Slice.burden).getD 0 <
      s.tasks.tally _ + s.nodes.tally _ + ((s.slice home).map Slice.burden).getD 0
    simp only [Task.burden] at gone ⊢
    omega
  | _ => cases isolated

end

/-! ### Turns -/

namespace Fiber

variable {f f' : Fiber} {tag : Tag} {attempt : Attempt} {u : TaskId} {taken : Bool}

theorem burden_of_free (free : f.waiting = none) (code : List Line) :
    ({ f with code := code } : Fiber).burden + 10 * linesWeight f.code =
      f.burden + 10 * linesWeight code := by
  simp only [burden, free, Option.map_none, Option.getD_none]
  omega

theorem Passes.burden (passes : f.Passes f') : f'.burden < f.burden := by
  cases passes with
  | begin new =>
    simp only [Fiber.burden, new, if_true, Bool.false_eq_true, if_false]
    omega
  | given waits =>
    simp only [Fiber.burden, waits, Option.map_some, Option.getD_some, Option.map_none,
      Option.getD_none, Waiting.burden]
    omega
  | @skip tag act rest free code =>
    have := burden_of_free free rest
    have pos := act.weight_pos
    rw [code, linesWeight, Line.weight] at this
    omega
  | @again tag left body rest free code =>
    have := burden_of_free free (body ++ .mk tag (.loop left body) :: rest)
    have more : (left + 1) * (1 + linesWeight body) =
        left * (1 + linesWeight body) + (1 + linesWeight body) := Nat.succ_mul _ _
    simp only [code, linesWeight_append, linesWeight, Line.weight, Act.weight] at this
    omega
  | @missing tag keep attempt rest free code =>
    have := burden_of_free free rest
    simp only [code, linesWeight, Line.weight, Act.weight] at this
    omega

theorem Gives.burden (gives : f.Gives f') : f'.burden < f.burden := by
  cases gives with
  | @first tag left rest free code =>
    simp only [Fiber.burden, free, code, linesWeight, Line.weight, Act.weight, Option.map_none,
      Option.getD_none, Option.map_some, Option.getD_some, Waiting.burden]
    omega
  | again waits =>
    simp only [Fiber.burden, waits, Option.map_some, Option.getD_some, Waiting.burden]
    omega

theorem Looks.burden (looks : f.Looks tag attempt u taken f') :
    f'.burden < f.burden ∧ f'.waiting = none := by
  cases looks with
  | first free code =>
    simp only [Fiber.burden, free, code, linesWeight, Line.weight, Act.weight, Option.map_none,
      Option.getD_none, and_true]
    omega
  | again waits =>
    simp only [Fiber.burden, waits, Option.map_some, Option.getD_some, Waiting.burden,
      Option.map_none,
      Option.getD_none, and_true]
    omega

theorem burden_pos (f : Fiber) : 1 < f.burden := by
  simp only [burden]
  omega

end Fiber

/-- How much the body, or its end, can still give to do after a turn. -/
def Turn.burden (turn : Turn) : Nat :=
  match turn.flow with
  | .next | .suspend | .pause _ => turn.fiber.burden
  | .finish _ | .panic .. => 1

namespace State

variable {s : State} {root : TaskId} {home : RuntimeId}

theorem tally_launch (home : RuntimeId) (distinct : s.nodes.Distinct) (formed : Formed s)
    (priority : Priority) (parent : Option TaskId) (body : List Line) (blocking : Bool) :
    ((s.addNode .task priority parent).launch s.nextNode home body blocking).nodes.tally
      (fun _ m => m.burden) ≤ s.nodes.tally (fun _ m => m.burden) + 3 := by
  have bound : ∀ m : Node, m.burden ≤ 3 := by
    intro m
    have := (!m.flagged).toNat_le
    have := (!m.reaped).toNat_le
    have := (!m.phase.isTerminal).toNat_le
    simp only [Node.burden]
    omega
  have fresh := fresh_nextNode formed.nodes
  have made : (s.addNode .task priority parent).nodes.tally (fun _ m => m.burden) ≤
      s.nodes.tally (fun _ m => m.burden) + 3 := by
    have listed : ∀ p, (s.nodes.modify p fun m =>
        { m with children := m.children ++ [s.nextNode] }).tally (fun _ m => m.burden) =
        s.nodes.tally (fun _ m => m.burden) := fun p =>
      Store.tally_modify_same (fun _ _ => rfl) distinct
    have new : ∀ p (node : Node), ((s.nodes.modify p fun m =>
        { m with children := m.children ++ [s.nextNode] }).set s.nextNode node).tally
          (fun _ m => m.burden) ≤ s.nodes.tally (fun _ m => m.burden) + 3 := by
      intro p node
      have := bound node
      rw [Store.tally_set_fresh (Store.get?_modify_eq_none.2 fresh), listed]
      omega
    unfold addNode
    dsimp only
    split
    · rw [Store.tally_set_fresh fresh]
      exact Nat.add_le_add_left (bound _) _
    · rename_i p
      split
      · exact new p _
      · exact new p _
  obtain ⟨nodes, trace, grown, eq⟩ := addNode_eq formed.nodes .task priority parent
  obtain ⟨b, known⟩ := grown.new
  rw [launch, nodes_enqueue]
  show ((s.addNode .task priority parent).nodes.modify s.nextNode _).tally _ ≤ _
  refine Nat.le_trans (Nat.le_of_eq ?_) made
  refine Store.tally_modify_same (fun m found => ?_) (distinct_addNode distinct _ _ _)
  rw [eq] at found
  cases known.symm.trans found
  rfl

theorem burden_launch (programs : Programs s root home) (formed : Formed s) (priority : Priority)
    (parent : Option TaskId) (body : List Line) (blocking : Bool) :
    ((s.addNode .task priority parent).launch s.nextNode home body blocking).burden home ≤
      s.burden home + 7 + 10 * linesWeight body := by
  have nodes := tally_launch home programs.distinct formed priority parent body blocking
  have slice := (Keeps.launch formed priority parent home body blocking).slice home
  obtain ⟨nodes', trace, grown, eq⟩ := programs.launch_eq formed priority parent body blocking
  have tasks : ((s.addNode .task priority parent).launch s.nextNode home body blocking).tasks.tally
      (fun _ m => m.burden) = s.tasks.tally (fun _ m => m.burden) +
        (4 + 10 * linesWeight body) := by
    rw [eq]
    refine (Store.tally_set_fresh formed.fresh_task).trans ?_
    simp only [Task.burden, Fiber.burden, Option.map_some, Option.getD_some, Option.map_none,
      Option.getD_none, Bool.false_eq_true, if_false]
    omega
  simp only [burden, slice, tasks]
  omega

end State

/-- A turn lessens what is left of its body by more than it adds elsewhere. -/
theorem Turn.burden_takeEffect {turn : Turn} {home : RuntimeId} {t : TaskId} {task : Task}
    {f : Fiber} (distinct : turn.state.tasks.Distinct)
    (during : turn.state.slice home = some (.task t .polling))
    (found : turn.state.tasks.get? t = some task) (fiber : task.fiber = some f)
    (goes : turn.flow.pauses = false) :
    (turn.takeEffect home t).burden home + f.burden = turn.state.burden home + turn.burden := by
  obtain ⟨s, f', after, flow⟩ := turn
  have changed : ∀ fiber', (s.modifyTask t fun m => { m with fiber := fiber' }).tasks.tally
      (fun _ m => m.burden) + f.burden = s.tasks.tally (fun _ m => m.burden) +
        (fiber'.map Fiber.burden).getD 0 := by
    intro fiber'
    have := Store.tally_modify (w := fun _ m => Task.burden m) distinct
      (f := fun m => { m with fiber := fiber' }) found
    simp only [Task.burden, fiber, Option.map_some, Option.getD_some] at this
    show (s.tasks.modify t _).tally _ + _ = _
    simp only [Task.burden]
    omega
  have slice : ∀ stage, (s.setSlice home (some (.task t stage))).slice home =
      some (.task t stage) := by
    intro stage
    obtain ⟨rt, built, -⟩ := State.slice_eq during
    simp [State.slice, State.setSlice, State.modifyRuntime, Store.get?_modify_self, built]
  have before : s.burden home =
      s.tasks.tally (fun _ m => m.burden) + s.nodes.tally (fun _ m => m.burden) := by
    rw [State.burden, show s.slice home = some (.task t .polling) from during]
    rfl
  -- the parts of the burden after a turn by which the worker comes to a stage
  have after : ∀ fiber' stage, (s.modifyTask t fun m => { m with fiber := fiber' }).tasks.tally
      (fun _ m => m.burden) + s.nodes.tally (fun _ m => m.burden) +
        (((s.setSlice home (some (.task t stage))).slice home).map Slice.burden).getD 0 + f.burden =
      s.burden home + (fiber'.map Fiber.burden).getD 0 + (Slice.task t stage).burden := by
    intro fiber' stage
    have := changed fiber'
    rw [slice, before, Option.map_some, Option.getD_some]
    omega
  cases flow with
  | next =>
    have := changed (some f')
    show (s.modifyTask t _).tasks.tally _ + s.nodes.tally _ +
      ((s.slice home).map Slice.burden).getD 0 + f.burden = _
    rw [before, show s.slice home = some (.task t .polling) from during]
    simp only [Option.map_some, Option.getD_some, Slice.burden, Turn.burden] at this ⊢
    omega
  | suspend => exact (after (some f') .suspending).trans (Nat.add_zero _)
  | finish result => exact after none (.ended (.returned result))
  | panic message owned => exact after none (.ended (.panicked message))
  | pause later => cases goes

/-! ### What a worker does -/

section

variable {s s' : State} {root : TaskId} {home : RuntimeId} {d : Desk}

/-- A turn of a program lessens its burden, or it suspends the body once more. -/
theorem Pace.lessens (sound : Sound s d) (programs : Programs s root home) (idle : s.agenda = [])
    {t : TaskId} {task : Task} {f : Fiber} {turn : Turn}
    (during : s.slice home = some (.task t .polling)) (found : s.tasks.get? t = some task)
    (fiber : task.fiber = some f) (pace : Pace s home t f turn) :
    Lessens home s (turn.takeEffect home t) := by
  have keeps := pace.keeps sound.formed
  obtain ⟨ws, o, found'⟩ := keeps.tasks t task found
  have distinct : turn.state.tasks.Distinct := by
    have old := sound.formed.distinctTasks
    cases pace with
    | spawn band priority =>
      exact (sound.formed.launch priority _ home _ false).distinctTasks
    | pending | gone => exact old.modify _ _
    | @learn tag attempt u taken f' outcome => cases outcome <;> exact old.modify _ _
    | _ => exact old
  have total := Turn.burden_takeEffect distinct ((keeps.slice home).trans during) found'
    fiber pace.goes
  have strictly : turn.state.burden home + turn.burden < s.burden home + f.burden →
      Lessens home s (turn.takeEffect home t) := fun less => .of_burden (by omega)
  have taken : ∀ {u : TaskId} {g : Task → Task}, (∀ m, (g m).fiber = m.fiber) →
      (s.modifyTask u g).burden home = s.burden home :=
    State.burden_modifyTask_same home sound.formed.distinctTasks
  have pos := f.burden_pos
  cases pace with
  | pass trace told passes => exact strictly (Nat.add_lt_add_left passes.burden _)
  | give gives => exact strictly (Nat.add_lt_add_left gives.burden _)
  | @spawn tag detached body rest parent band priority names told free code =>
    have more := State.burden_launch programs sound.formed priority parent body false
    have less := Fiber.burden_of_free free rest
    simp only [code, linesWeight, Line.weight, Act.weight] at less
    refine strictly ?_
    show ((s.addNode .task priority parent).launch s.nextNode home body false).burden home +
      ({ f with code := rest } : Fiber).burden < _
    omega
  | @pending tag attempt u taken' f' looks ongoing =>
    obtain ⟨less, free⟩ := looks.burden
    have once :
        ({ f' with waiting := some ⟨tag, attempt, .awaiting (.handle u) taken'⟩ } : Fiber).burden =
        f'.burden + 1 := by
      simp only [Fiber.burden, free, Option.map_some, Option.getD_some, Option.map_none,
        Option.getD_none, Waiting.burden]
      omega
    have same := taken (u := u) (g := fun m => { m with waiters := m.waiters ++ [.task t] })
      fun _ => rfl
    -- nothing is on the agenda before or after, so only the slice has changed
    have after : s.agenda ++ [] = [] := by rw [idle, List.append_nil]
    refine .of_chores ?_ ?_ ?_
    · have : State.burden _ home + f.burden =
        (s.modifyTask u fun m => { m with waiters := m.waiters ++ [.task t] }).burden home +
          ({ f' with
            waiting := some ⟨tag, attempt, .awaiting (.handle u) taken'⟩ } : Fiber).burden :=
        total
      omega
    · rw [State.stir_idle idle, State.stir_idle (by exact after)]
      exact Nat.le_of_eq (congrArg (· + _) (State.queued_modifyRuntime home fun _ => rfl))
    · obtain ⟨rt, built, -⟩ := State.slice_eq during
      have stage : ∀ x : State, x.runtimes = s.runtimes →
          (x.setSlice home (some (.task t .suspending))).slice home = some (.task t .suspending) :=
        fun x same => State.slice_setSlice_built (same ▸ built)
      rw [State.chores_idle idle, State.chores_idle (by exact after), during]
      refine Nat.add_lt_add_right ?_ _
      exact Nat.lt_of_le_of_lt
        (Nat.le_of_eq (congrArg (fun x => (x.map Slice.chores).getD 0) (stage _ rfl)))
        (by simp [Slice.chores])
  | @learn tag attempt u taken' f' outcome looks ended there =>
    have less := looks.burden.1
    have same := taken (u := u) (g := fun m => { m with outcome := none }) fun _ => rfl
    refine strictly ?_
    cases outcome with
    | ok value =>
      show (s.modifyTask u fun m => { m with outcome := none }).burden home + f'.burden < _
      omega
    | error e =>
      cases attempt with
      | report =>
        show (s.modifyTask u fun m => { m with outcome := none }).burden home + f'.burden < _
        omega
      | wrap | raise =>
        show (s.modifyTask u fun m => { m with outcome := none }).burden home + 1 < _
        omega
  | @gone tag attempt u taken' f' looks =>
    have same := taken (u := u) (g := fun m => { m with outcome := none }) fun _ => rfl
    refine strictly ?_
    show (s.modifyTask u fun m => { m with outcome := none }).burden home + 1 < _
    omega
  | finish => exact strictly (Nat.add_lt_add_left pos _)
  | panic trace => exact strictly (Nat.add_lt_add_left pos _)

/-- The slice of a task that will come back is over. -/
theorem State.Waits.lessens (sound : Sound s d) (programs : Programs s root home) {t : TaskId}
    {stage : Stage} {joining : Node → Bool} (during : s.slice home = some (.task t stage))
    (why : s.Waits t stage joining) {p : Phase} (ongoing : p.isTerminal = false)
    {s' : State} (eq : s' = ((s.setSlice home none).modifyNode t fun m =>
      { m with joining := joining m, phase := p }).doFirst [.forget t]) :
    s'.burden home = s.burden home ∧
      s'.stir home + (if s.phase t = .notified then 1 else 0) =
        s.stir home + (if p = .notified then 1 else 0) ∧
      s'.chores home < s.chores home := by
  subst eq
  obtain ⟨rt, built, -⟩ := programs.runtime
  have up := sound.dispatch.ongoing_of_waits during why
  obtain ⟨node, known, phase⟩ : ∃ node, s.nodes.get? t = some node ∧ node.phase = s.phase t :=
    State.get?_of_phase rfl (by rcases up with up | up <;> simp [up])
  -- the body is suspended or waits for its children, so the slice has no burden
  have elapsed : stage.past = false ∨ stage = .joining := by
    rcases why with ⟨rfl, -⟩ | ⟨rfl | ⟨rfl, -⟩, -⟩
    · exact .inl rfl
    · exact .inr rfl
    · exact .inl rfl
  refine ⟨?_, ?_, ?_⟩
  · have moved := State.burden_setSlice built none
    have same := State.burden_modifyNode (s := s.setSlice home none) home
      programs.distinct known fun m => { m with joining := joining m, phase := p }
    have equal : node.phase.isTerminal = false := by
      rw [phase]
      rcases up with up | up <;> rw [up] <;> rfl
    have none : ((s.slice home).map Slice.burden).getD 0 = 0 := by
      rw [during]
      cases stage with
      | ended ending => rcases elapsed with elapsed | elapsed <;> cases elapsed
      | _ => rfl
    simp only [Node.burden, ongoing, equal] at same
    simp only [none, Option.map_none, Option.getD_none] at moved
    show State.burden ((s.setSlice home .none).modifyNode t _) home = _
    omega
  · have same := State.stir_modifyNode (s := s.setSlice home none) home
      programs.distinct known fun m => { m with joining := joining m, phase := p }
    rw [State.stir_setSlice] at same
    rw [State.stir_doFirst]
    simp only [Node.noted, phase] at same
    simp only [List.map_cons, List.map_nil, Action.stir, List.sum_cons, List.sum_nil]
    omega
  · have moved := State.chores_setSlice built none
    rw [during, Option.map_some, Option.getD_some] at moved
    rw [State.chores_doFirst]
    show _ + (s.setSlice home none).chores home < _
    have far : 10 ≤ (Slice.task t stage).chores := by
      cases stage with
      | leaving => rcases elapsed with elapsed | elapsed <;> cases elapsed
      | _ => simp [Slice.chores]
    simp only [Option.map_none, Option.getD_none] at moved
    simp only [List.map_cons, List.map_nil, Action.chores, List.sum_cons, List.sum_nil]
    omega

/-- A slice that begins takes its entry from the queue. -/
theorem State.Takes.lessens (sound : Sound s d) (programs : Programs s root home)
    (idle : s.agenda = []) {t : TaskId} {queue : RunQueue Entry}
    (takes : s.Takes home (.task t) queue) :
    Lessens home s
      (((s.popped home queue).setPhase t .running).setSlice home (some (.task t .polling))) := by
  obtain ⟨rt, built, -⟩ := programs.runtime
  have ready := (sound.dispatch.taken takes).2.1
  have free := takes.free
  obtain ⟨node, known, -⟩ := State.get?_of_phase ready (by simp)
  obtain ⟨rt', built', -, -, pop⟩ := takes.found
  cases built.symm.trans built'
  have first := RunQueue.toList_pop? pop
  have popped : (s.popped home queue).runtimes.get? home = some { rt with queue := queue } := by
    simp [State.popped, State.modifyRuntime, Store.get?_modify_self, built]
  -- the queue is shorter by the entry that is taken
  have shorter : (s.popped home queue).stir home + 1 = s.stir home := by
    rw [State.stir_idle idle, State.stir_idle (by exact idle), State.queued, popped, State.queued,
      built, Option.map_some, Option.map_some, Option.getD_some, Option.getD_some, first,
      List.length_cons]
    show queue.toList.length + s.nodes.tally _ + 1 = _
    omega
  have same := State.burden_setPhase (s := s.popped home queue) (t := t) (p := .running) home
    programs.distinct (by rw [show (s.popped home queue).phase t = .ready from ready]; rfl)
  have still := State.stir_setPhase (s := s.popped home queue) home programs.distinct known .running
  simp only [show (s.popped home queue).phase t = .ready from ready, reduceCtorEq, if_false]
    at still
  have whole : (s.popped home queue).burden home = s.burden home :=
    State.burden_modifyRuntime fun _ => by rfl
  have moved := State.burden_setSlice (s := (s.popped home queue).setPhase t .running) popped
    (some (.task t .polling))
  refine .of_stir ?_ ?_
  · have none :
        (((s.popped home queue).setPhase t .running).slice home).map Slice.burden = .none := by
      have : ((s.popped home queue).setPhase t .running).slice home = s.slice home :=
        State.slice_modifyRuntime_same home fun _ => by rfl
      rw [this, free]
      rfl
    rw [none] at moved
    simp only [Option.map_some, Option.getD_some, Option.getD_none, Slice.burden] at moved
    omega
  · rw [State.stir_setSlice]
    omega

/-- A task ends once. -/
theorem Sound.burden_complete (sound : Sound s d) (programs : Programs s root home) {t : TaskId}
    {stage : Stage} {p : Phase} (during : s.slice home = some (.task t stage))
    (past : s.Over t stage) (ended : p.isTerminal = true) :
    ((s.modifyNode t fun m => { m with joining := false, phase := p }).setSlice home
      (some (.task t .leaving))).burden home < s.burden home := by
  obtain ⟨rt, built, -⟩ := programs.runtime
  have up := sound.dispatch.ongoing_of_over during past
  obtain ⟨node, known, phase⟩ : ∃ node, s.nodes.get? t = some node ∧ node.phase = s.phase t :=
    State.get?_of_phase rfl (by rcases up with up | up <;> simp [up])
  have goes : node.phase.isTerminal = false := by
    rw [phase]
    rcases up with up | up <;> rw [up] <;> rfl
  have less := State.burden_modifyNode home programs.distinct known
    fun m => { m with joining := false, phase := p }
  simp only [Node.burden, goes, ended, Bool.not_false, Bool.not_true, Bool.toNat_true,
    Bool.toNat_false] at less
  have moved := State.burden_setSlice (s := s.modifyNode t fun m =>
    { m with joining := false, phase := p }) built (some (.task t .leaving))
  simp only [Option.map_some, Option.getD_some, Slice.burden] at moved
  omega

/-- What a worker does for programs lessens what is left. -/
theorem Toil.lessens (sound : Sound s d) (programs : Programs s root home) (idle : s.agenda = [])
    (active : s.active.isSome = true) (w : Toil s home s') : Lessens home s s' := by
  obtain ⟨rt, built, -⟩ := programs.runtime
  cases w with
  | stop found free empty =>
    refine .of_chores (Nat.le_refl _) (Nat.le_refl _) ?_
    rw [State.chores_idle idle, State.chores_idle (s := s.stop .quiet) idle, active]
    exact Nat.add_lt_add_left Nat.zero_lt_one _
  | begin takes => exact takes.lessens sound programs idle
  | turn during found fiber pace => exact pace.lessens sound programs idle during found fiber
  | @rest t stage joining during why running =>
    obtain ⟨burden, stir, chores⟩ := why.lessens sound programs during (p := .suspended) rfl rfl
    rw [running] at stir
    exact .of_chores (Nat.le_of_eq burden) (Nat.le_of_eq stir) chores
  | @again t task stage joining during why woken found =>
    obtain ⟨burden, stir, chores⟩ := why.lessens sound programs during (p := .ready) rfl rfl
    -- the runtime is open, so the task gets back into its queue
    have queue : ∀ x : State, x.runtimes = (s.setSlice home none).runtimes →
        x.enqueue home (s.priority t) (.task t) = x.modifyRuntime home fun rt =>
          { rt with queue := rt.queue.push (s.priority t) (.task t) } := by
      intro x same
      obtain ⟨rt', built', running, -⟩ := programs.runtime
      simp [State.enqueue, State.closed, same, State.setSlice, State.modifyRuntime,
        Store.get?_modify_self, built', running]
    have there : (s.setSlice home none).runtimes.get? home = some { rt with slice := none } := by
      simp [State.setSlice, State.modifyRuntime, Store.get?_modify_self, built]
    rw [woken] at stir
    rw [queue (State.doFirst _ _) rfl]
    refine .of_chores ?_ ?_ ?_
    · rw [State.burden_modifyRuntime fun _ => by rfl]
      exact Nat.le_of_eq burden
    · rw [State.stir_push (by exact there)]
      exact Nat.le_of_eq stir
    · rw [State.chores_modifyRuntime fun _ => by rfl]
      exact chores
  | @endBody t ending during =>
    obtain ⟨trace, cancelled, eq⟩ := s.endBody_eq home t ending
    have moved := State.burden_setSlice built (some (.task t .joining))
    rw [during] at moved
    simp only [Option.map_some, Option.getD_some, Slice.burden] at moved
    have same := State.burden_modifyTask_same (s := s.setSlice home (some (.task t .joining)))
      home (t := t) sound.formed.distinctTasks
      (Ending.fiber_keep ((s.tasks.get? t).any Task.blocking) ending)
    rw [eq]
    refine .of_burden ?_
    show ((s.setSlice home (some (.task t .joining))).modifyTask t _).burden home < _
    omega
  | complete trace during past alone ended =>
    exact .of_burden (sound.burden_complete programs during past ended)
  | @leave t during =>
    have moved := State.burden_setSlice built none
    have less := State.chores_setSlice built none
    have still : (s.setSlice home none).stir home = s.stir home := State.stir_setSlice none
    rw [during] at moved less
    refine .of_chores ?_ ?_ ?_
    · exact Nat.le_of_eq moved
    · rw [State.stir_doFirst, still]
      simp [Action.stir]
    · rw [State.chores_doFirst]
      simp only [Option.map_some, Option.getD_some, Option.map_none, Option.getD_none,
        Slice.chores] at less
      simp only [List.map_cons, List.map_nil, Action.chores, List.sum_cons, List.sum_nil]
      omega

end

end Nursery
