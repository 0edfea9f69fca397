import Nursery.Proofs.Invariant.Lasts

/-!
# The agenda is worked off

An item of the agenda puts its consequences in front of the rest, and those have consequences
again: a body that goes takes its groups with it, their children's handles, the bodies of those,
and so on.  Each of these uses up something that is there once: a flag is set for good, a node is
reaped once, a body, a group, a mailbox or a waker goes.  So two numbers say how much can still
come, and every item lessens them.

* `Action.toll`, `State.stock`, `State.toll` : how much can come of the agenda and of the records.
* `Effect.tolls` : every item sets a flag, or lessens the toll.
* `Unrolls` : the states on the way while what stands before the rest of the agenda is worked off.
* `Unrolls.finishes` : the way comes to an end.
* `Reachable.worked_off` : so the agenda of every reachable state is worked off.
-/

namespace Nursery

/-! ### How much can come -/

/-- How much an item comes to by itself; what it finds in the records is counted there. -/
def Action.toll : Action → Nat
  | .release (.group _) => 8
  | .wake _ => 4
  | .release (.handle _) | .discard _ => 3
  | .forget _ | .finish _ | .dissolve _ => 2
  | _ => 1

/-- How much several items come to by themselves. -/
def tolls (as : List Action) : Nat :=
  (as.map Action.toll).sum

/-- A node leaves its parent once, which may wake the parent and let that leave its own. -/
def Node.toll (m : Node) : Nat :=
  if m.reaped then 0 else 5

/-- A task goes once, with its body and with the wakers that wait for it. -/
def Task.toll (m : Task) : Nat :=
  4 * m.waiters.length + tolls ((m.fiber.toList.flatMap Fiber.resources).map .release)

/-- A group goes once, with the handles of its children. -/
def Group.toll (m : Group) : Nat :=
  3 * m.children.length

/-- A waker is used up or given up once. -/
def Signal.toll (m : Signal) : Nat :=
  4 * m.waker.toList.length

/-- A waker is used up or given up once. -/
def Call.toll (m : Call) : Nat :=
  4 * m.waker.toList.length

/-- A message is dropped once. -/
def Actor.toll (m : Actor) : Nat :=
  m.mailbox.length

namespace State

/-- How many nodes can still be flagged. -/
def unflagged (s : State) : Nat :=
  s.nodes.tally fun _ m => (!m.flagged).toNat

/-- How much can come of the records. -/
def stock (s : State) : Nat :=
  s.nodes.tally (fun _ m => m.toll) + s.tasks.tally (fun _ m => m.toll) +
    s.groups.tally (fun _ m => m.toll) + s.signals.tally (fun _ m => m.toll) +
      s.calls.tally (fun _ m => m.toll) + s.actors.tally (fun _ m => m.toll)

/-- How much can come of the agenda and of the records. -/
def toll (s : State) : Nat :=
  tolls s.agenda + s.stock

/-- The two numbers, the first of them first. -/
def outlook (s : State) : Nat × Nat :=
  (s.unflagged, s.toll)

end State

variable {s s' s'' : State} {d : Desk} {a : Action} {rest : List Action}

@[simp]
theorem tolls_nil : tolls [] = 0 :=
  rfl

@[simp]
theorem tolls_cons (a : Action) (as : List Action) : tolls (a :: as) = a.toll + tolls as :=
  rfl

@[simp]
theorem tolls_append (as bs : List Action) : tolls (as ++ bs) = tolls as + tolls bs := by
  simp [tolls]

theorem tolls_map {α : Type} {f : α → Action} {n : Nat} (each : ∀ x, (f x).toll ≤ n) (xs : List α) :
    tolls (xs.map f) ≤ n * xs.length := by
  induction xs with
  | nil => exact Nat.le_refl _
  | cons x xs ih =>
    have := each x
    simp only [List.map_cons, tolls_cons, List.length_cons, Nat.mul_succ]
    omega

theorem Action.toll_pos (a : Action) : 0 < a.toll := by
  cases a with
  | release r => cases r <;> exact Nat.succ_pos _
  | _ => exact Nat.succ_pos _

/-- Giving up a waker comes to less than using it. -/
theorem Waker.toll_forget (w : Waker) : w.forget.toll ≤ 4 := by
  cases w <;> simp [Waker.forget, Action.toll]

theorem tolls_afterPanic (as : List Action) :
    tolls (as.filterMap Action.afterPanic) ≤ tolls as := by
  induction as with
  | nil => exact Nat.le_refl _
  | cons a as ih =>
    cases left : a.afterPanic with
    | none =>
      rw [List.filterMap_cons_none left, tolls_cons]
      omega
    | some b =>
      have less : b.toll ≤ a.toll := by
        cases a with
        | wake w =>
          cases left
          exact w.toll_forget
        | _ => cases left <;> exact Nat.le_refl _
      rw [List.filterMap_cons_some left, tolls_cons, tolls_cons]
      omega

namespace State

/-! ### How the stock changes -/

theorem stock_modifyNode {n : TaskId} {f : Node → Node} (less : ∀ m, (f m).toll ≤ m.toll) :
    (s.modifyNode n f).stock ≤ s.stock := by
  have := Store.tally_modify_le (w := fun _ m => Node.toll m) (s := s.nodes) (k := n) less
  simp only [stock, modifyNode] at this ⊢
  omega

theorem stock_modifyNode_found {n : TaskId} {f : Node → Node} {m : Node}
    (less : ∀ m, (f m).toll ≤ m.toll) (found : s.nodes.get? n = some m) :
    (s.modifyNode n f).stock + m.toll ≤ s.stock + (f m).toll := by
  have := Store.tally_modify_add_le (w := fun _ m => Node.toll m) less found
  simp only [stock, modifyNode] at this ⊢
  omega

theorem stock_modifyTask {t : TaskId} {f : Task → Task} (less : ∀ m, (f m).toll ≤ m.toll) :
    (s.modifyTask t f).stock ≤ s.stock := by
  have := Store.tally_modify_le (w := fun _ m => Task.toll m) (s := s.tasks) (k := t) less
  simp only [stock, modifyTask] at this ⊢
  omega

theorem stock_modifyTask_found {t : TaskId} {f : Task → Task} {m : Task}
    (less : ∀ m, (f m).toll ≤ m.toll) (found : s.tasks.get? t = some m) :
    (s.modifyTask t f).stock + m.toll ≤ s.stock + (f m).toll := by
  have := Store.tally_modify_add_le (w := fun _ m => Task.toll m) less found
  simp only [stock, modifyTask] at this ⊢
  omega

theorem stock_modifySignal {g : TaskId} {f : Signal → Signal} (less : ∀ m, (f m).toll ≤ m.toll) :
    (s.modifySignal g f).stock ≤ s.stock := by
  have := Store.tally_modify_le (w := fun _ m => Signal.toll m) (s := s.signals) (k := g) less
  simp only [stock, modifySignal] at this ⊢
  omega

theorem stock_modifySignal_found {g : TaskId} {f : Signal → Signal} {m : Signal}
    (less : ∀ m, (f m).toll ≤ m.toll) (found : s.signals.get? g = some m) :
    (s.modifySignal g f).stock + m.toll ≤ s.stock + (f m).toll := by
  have := Store.tally_modify_add_le (w := fun _ m => Signal.toll m) less found
  simp only [stock, modifySignal] at this ⊢
  omega

theorem stock_modifyCall {k : CallId} {f : Call → Call} (less : ∀ m, (f m).toll ≤ m.toll) :
    (s.modifyCall k f).stock ≤ s.stock := by
  have := Store.tally_modify_le (w := fun _ m => Call.toll m) (s := s.calls) (k := k) less
  simp only [stock, modifyCall] at this ⊢
  omega

theorem stock_modifyCall_found {k : CallId} {f : Call → Call} {m : Call}
    (less : ∀ m, (f m).toll ≤ m.toll) (found : s.calls.get? k = some m) :
    (s.modifyCall k f).stock + m.toll ≤ s.stock + (f m).toll := by
  have := Store.tally_modify_add_le (w := fun _ m => Call.toll m) less found
  simp only [stock, modifyCall] at this ⊢
  omega

theorem stock_modifyActor_found {b : ActorId} {f : Actor → Actor} {m : Actor}
    (less : ∀ m, (f m).toll ≤ m.toll) (found : s.actors.get? b = some m) :
    (s.modifyActor b f).stock + m.toll ≤ s.stock + (f m).toll := by
  have := Store.tally_modify_add_le (w := fun _ m => Actor.toll m) less found
  simp only [stock, modifyActor] at this ⊢
  omega

theorem stock_enqueue (r : RuntimeId) (p : Priority) (e : Entry) :
    (s.enqueue r p e).stock = s.stock := by
  unfold enqueue
  split <;> rfl

theorem tolls_enqueue (r : RuntimeId) (p : Priority) (e : Entry) :
    tolls (s.enqueue r p e).agenda ≤ 3 + tolls s.agenda := by
  unfold enqueue
  split
  · exact Nat.le_refl _
  · exact Nat.le_add_left _ _

end State

/-! ### Items of the agenda -/

/-- An item that sets no flag comes to less than it counts for. -/
theorem Effect.toll_lt (formed : Formed s) (e : Effect s a s')
    (other : ∀ n, a = .cancel n → s' = s) : s'.toll < a.toll + s.toll := by
  have pos := a.toll_pos
  unfold State.toll
  cases e with
  | spent => omega
  | @cancel n node found unflagged =>
    -- the flag is set, so the state is another one
    have flagged := congrArg (fun x : State => (x.nodes.get? n).map Node.flagged) (other n rfl)
    simp [State.doFirst, State.log, State.tell, State.modifyNode, Store.get?_modify_self, found,
      unflagged] at flagged
  | finish n =>
    have stock := State.stock_modifyNode (s := s) (n := n)
      (f := fun m => { m with finished := true })
      fun _ => Nat.le_refl _
    change tolls (_ ++ s.agenda) + (s.modifyNode n _).stock < _
    rw [tolls_append, show (Action.finish n).toll = 2 from rfl]
    split <;> simp only [tolls_cons, tolls_nil, Action.toll] <;> omega
  | @orphan n node found attached =>
    have stock := State.stock_modifyNode (s := s) (n := n) (f := fun m => { m with reaped := true })
      fun m => by simp [Node.toll]
    change tolls s.agenda + (s.modifyNode n _).stock < _
    omega
  | @reap n p node above found attached =>
    have first := State.stock_modifyNode (s := s) (n := n) (f := fun m => { m with reaped := true })
      fun m => by simp [Node.toll]
    have second := State.stock_modifyNode (s := s.modifyNode n fun m => { m with reaped := true })
      (n := p) (f := fun m => { m with children := above.children.filter (· ≠ n) })
      fun m => Nat.le_refl _
    change tolls s.agenda + ((s.modifyNode n _).modifyNode p _).stock < _
    omega
  | @reapLast n p node above found attached =>
    have first := State.stock_modifyNode_found (f := fun m => { m with reaped := true })
      (fun m => by simp [Node.toll]) found
    have second := State.stock_modifyNode (s := s.modifyNode n fun m => { m with reaped := true })
      (n := p) (f := fun m => { m with children := [], joining := false }) fun m => Nat.le_refl _
    simp only [Node.toll, attached, Bool.false_eq_true, if_false, if_true] at first
    change tolls (_ ++ s.agenda) + ((s.modifyNode n _).modifyNode p _).stock < 1 + _
    rw [tolls_append, tolls_append]
    split <;> split <;> simp only [tolls_cons, tolls_nil, Action.toll] <;> omega
  | @resume t task suspended found =>
    have stock := State.stock_modifyNode (s := s) (n := t)
      (f := fun m => { m with phase := .ready })
      fun _ => Nat.le_refl _
    have queued := State.tolls_enqueue (s := s.setPhase t .ready) task.home (s.priority t) (.task t)
    rw [State.stock_enqueue]
    change _ + (s.modifyNode t _).stock < 4 + _
    change _ ≤ 3 + tolls s.agenda at queued
    omega
  | @notify t running =>
    have stock := State.stock_modifyNode (s := s) (n := t)
      (f := fun m => { m with phase := .notified }) fun _ => Nat.le_refl _
    change tolls (_ ++ s.agenda) + (s.modifyNode t _).stock < 4 + _
    simp only [tolls_append, tolls_cons, tolls_nil, Action.toll]
    omega
  | awake | inform =>
    change tolls (_ ++ s.agenda) + s.stock < 4 + _
    simp only [tolls_append, tolls_cons, tolls_nil, Action.toll]
    omega
  | @trip g index child =>
    have stock := State.stock_modifySignal (s := s) (g := g)
      (f := fun m => { m with tripped := true }) fun _ => Nat.le_refl _
    change tolls (_ ++ s.agenda) + (s.modifySignal g _).stock < 4 + _
    simp only [tolls_append, tolls_cons, tolls_nil, Action.toll]
    omega
  | @announce g index signal found =>
    have stock := State.stock_modifySignal_found
      (f := fun m => { m with completed := m.completed ++ [index], waker := none })
      (fun _ => by simp [Signal.toll]) found
    have wakes := tolls_map (f := fun t => Action.wake (.task t)) (n := 4) (fun _ => Nat.le_refl _)
      signal.waker.toList
    change tolls (_ ++ s.agenda) + (s.modifySignal g _).stock < 1 + _
    simp only [Signal.toll, Option.toList_none, List.length_nil] at stock
    rw [tolls_append]
    omega
  | @wakeWaiters t task found =>
    have stock := State.stock_modifyTask_found (f := fun m => { m with waiters := [] })
      (fun _ => by simp [Task.toll]) found
    have wakes := tolls_map (f := Action.wake) (n := 4) (fun _ => Nat.le_refl _) task.waiters
    change tolls (_ ++ s.agenda) + (s.modifyTask t _).stock < 1 + _
    simp only [Task.toll, List.length_nil] at stock
    rw [tolls_append]
    omega
  | @reportFailure t f trace only =>
    have stock := State.stock_modifyTask (s := s) (t := t) (f := f) fun m => by
      obtain ⟨b, eq⟩ := only m
      rw [eq]
      exact Nat.le_refl _
    change tolls s.agenda + (s.modifyTask t f).stock < _
    omega
  | @answer k outcome call found =>
    have stock := State.stock_modifyCall_found
      (f := fun m => { m with outcome := some outcome, answered := true, waker := none })
      (fun _ => by simp [Call.toll]) found
    have wakes := tolls_map (f := fun t => Action.wake (.task t)) (n := 4) (fun _ => Nat.le_refl _)
      call.waker.toList
    change tolls (_ ++ s.agenda) + (s.modifyCall k _).stock < 1 + _
    simp only [Call.toll, Option.toList_none, List.length_nil] at stock
    rw [tolls_append]
    omega
  | record e =>
    change tolls s.agenda + s.stock < _
    omega
  | panic message inside calm =>
    have less := tolls_afterPanic s.agenda
    change tolls (s.agenda.filterMap Action.afterPanic) + s.stock < _
    omega
  | @dropHandle t f trace only =>
    have stock := State.stock_modifyTask (s := s) (t := t) (f := f) fun m => by
      obtain ⟨b, eq⟩ := only m
      rw [eq]
      exact Nat.le_refl _
    change tolls (_ ++ s.agenda) + (s.modifyTask t f).stock < 3 + _
    simp only [tolls_append, tolls_cons, tolls_nil, Action.toll]
    omega
  | dropGroup | dropUndrained =>
    change tolls (_ ++ s.agenda) + s.stock < 8 + _
    simp only [tolls_append, tolls_cons, tolls_nil, Action.toll]
    omega
  | @dropAnswered k call found answered =>
    have stock := State.stock_modifyCall_found
      (f := fun m => { m with dropped := true, waker := none }) (fun _ => by simp [Call.toll]) found
    have given := tolls_map (f := Action.forget) (n := 4) (fun _ => by simp [Action.toll])
      call.waker.toList
    change tolls (_ ++ s.agenda) + (s.modifyCall k _).stock < 1 + _
    simp only [Call.toll, Option.toList_none, List.length_nil] at stock
    rw [tolls_append]
    omega
  | @dropPending k call found pending =>
    have stock := State.stock_modifyCall (s := s) (k := k)
      (f := fun m => { m with dropped := true })
      fun _ => Nat.le_refl _
    change tolls s.agenda + (s.modifyCall k _).stock < _
    omega
  | @dissolve g group found =>
    have gone := Store.tally_erase (w := fun _ m => Group.toll m) formed.distinctGroups found
    have handles := tolls_map (f := fun t => Action.release (.handle t)) (n := 3)
      (fun _ => Nat.le_refl _) group.children
    change tolls (_ ++ s.agenda) + State.stock { s with groups := s.groups.erase g } < 2 + _
    simp only [tolls_append, tolls_cons, tolls_nil, Action.toll, State.stock, Group.toll] at *
    omega
  | @forget t task found loose =>
    have stock := State.stock_modifyTask_found (f := fun m => { m with fiber := none })
      (fun _ => by simp [Task.toll]) found
    change tolls (_ ++ s.agenda) + (s.modifyTask t _).stock < 2 + _
    simp only [Task.toll, Option.toList_none, List.flatMap_nil, List.map_nil, tolls_nil] at stock
    simp only [tolls_append, tolls_cons, tolls_nil, Action.toll]
    omega
  | @bury t task found =>
    have gone := Store.tally_erase (w := fun _ m => Task.toll m) formed.distinctTasks found
    have given := tolls_map (f := Waker.forget) (n := 4) Waker.toll_forget task.waiters
    change tolls (_ ++ s.agenda) + State.stock { s with tasks := s.tasks.erase t } < 1 + _
    simp only [tolls_append, State.stock, Task.toll] at *
    omega
  | @silence g signal dead found =>
    have stock := State.stock_modifySignal_found (f := fun m => { m with waker := none })
      (fun _ => by simp [Signal.toll]) found
    have given := tolls_map (f := Action.forget) (n := 4) (fun _ => by simp [Action.toll])
      signal.waker.toList
    change tolls (_ ++ s.agenda) + (s.modifySignal g _).stock < 1 + _
    simp only [Signal.toll, Option.toList_none, List.length_nil] at stock
    rw [tolls_append]
    omega
  | discardTask | discardDrain =>
    change tolls (_ ++ s.agenda) + s.stock < 3 + _
    simp only [tolls_append, tolls_cons, tolls_nil, Action.toll]
    omega
  | @abandon b actor trace found =>
    have stock := State.stock_modifyActor_found
      (f := fun m => { m with scheduled := false, mailbox := [] }) (fun _ => Nat.zero_le _) found
    have answers := tolls_map (f := fun k => Action.answer k (.error .dropped)) (n := 1)
      (fun _ => Nat.le_refl _) (actor.mailbox.filterMap Message.reply)
    have fewer := List.length_filterMap_le Message.reply actor.mailbox
    change tolls (_ ++ s.agenda) + (s.modifyActor b _).stock < 1 + _
    simp only [Actor.toll, List.length_nil] at stock
    rw [tolls_append]
    omega

/-- No item takes a flag away, and one that flags a node leaves fewer to be flagged. -/
theorem Effect.unflagged (e : Effect s a s') :
    s'.unflagged ≤ s.unflagged ∧ ∀ n, a = .cancel n → s' = s ∨ s'.unflagged < s.unflagged := by
  have same : ∀ {n : TaskId} {f : Node → Node} {x : State}, (∀ m, (f m).flagged = m.flagged) →
      (x.modifyNode n f).unflagged ≤ x.unflagged := fun keeps =>
    Store.tally_modify_le fun m => Nat.le_of_eq (by rw [keeps])
  have stays : s'.nodes = s.nodes → s'.unflagged ≤ s.unflagged := fun nodes => by
    simp only [State.unflagged, nodes]
    exact Nat.le_refl _
  cases e with
  | spent => exact ⟨Nat.le_refl _, fun _ _ => .inl rfl⟩
  | @cancel n node found unflagged =>
    have fewer := Store.tally_modify_add_le (w := fun _ m => (!m.flagged).toNat)
      (f := fun m : Node => { m with flagged := true }) (fun _ => Nat.zero_le _) found
    simp only [unflagged, Bool.not_false, Bool.not_true, Bool.toNat_true, Bool.toNat_false] at fewer
    have less : ((s.modifyNode n fun m => { m with flagged := true }).unflagged) < s.unflagged := by
      simp only [State.unflagged, State.modifyNode]
      omega
    exact ⟨Nat.le_of_lt less, fun _ _ => .inr less⟩
  | finish | orphan | notify => exact ⟨same fun _ => rfl, fun _ other => by cases other⟩
  | reap | reapLast =>
    exact ⟨Nat.le_trans (same fun _ => rfl) (same fun _ => rfl), fun _ other => by cases other⟩
  | resume =>
    refine ⟨?_, fun _ other => by cases other⟩
    simp only [State.unflagged, State.nodes_enqueue]
    exact same fun _ => rfl
  | _ => exact ⟨stays rfl, fun _ other => by cases other⟩

/-- **Every item lessens what can still come**: it flags a node, or it comes to less than it counts
for. -/
theorem Effect.tolls (formed : Formed s) (e : Effect s a s') :
    Prod.Lex (· < ·) (· < ·) s'.outlook (s.doFirst [a]).outlook := by
  obtain ⟨fewer, flags⟩ := e.unflagged
  have before : (s.doFirst [a]).toll = a.toll + s.toll := by
    change Nursery.tolls (a :: s.agenda) + s.stock = _
    rw [tolls_cons, State.toll]
    omega
  have weighs : (∀ n, a = .cancel n → s' = s) →
      Prod.Lex (· < ·) (· < ·) s'.outlook (s.doFirst [a]).outlook := by
    intro other
    have less := e.toll_lt formed other
    unfold State.outlook
    rw [before]
    rcases Nat.lt_or_eq_of_le fewer with lt | eq
    · exact .left _ _ lt
    · rw [show (s.doFirst [a]).unflagged = s.unflagged from rfl, eq]
      exact .right _ less
  by_cases cancels : ∃ n, a = .cancel n
  · obtain ⟨n, is⟩ := cancels
    rcases flags n is with same | lt
    · exact weighs fun _ _ => same
    · exact .left _ _ lt
  · exact weighs fun n is => absurd ⟨n, is⟩ cancels

/-! ### On the way -/

/-- The states on the way while what stands before the rest of the agenda is worked off. -/
inductive Unrolls (rest : List Action) (s : State) : State → Prop where
  /-- Nothing was done yet. -/
  | refl : Unrolls rest s s
  /-- One item more. -/
  | next {s' : State} {a : Action} {more : List Action} (h : Unrolls rest s s')
      (busy : s'.agenda = a :: (more ++ rest)) : Unrolls rest s s'.step

/-- A step does the first item of the agenda. -/
theorem State.step_item {as : List Action} (busy : s.agenda = a :: as) :
    s = ({ s with agenda := as } : State).doFirst [a] ∧
      Effect { s with agenda := as } a s.step := by
  refine ⟨?_, ?_⟩
  · rw [State.doFirst, List.singleton_append, ← busy]
  · rw [State.step, busy]
    exact State.perform_effect a

namespace Unrolls

theorem trans (h : Unrolls rest s s') (h' : Unrolls rest s' s'') : Unrolls rest s s'' := by
  induction h' with
  | refl => exact h
  | next _ busy ih => exact ih.next busy

theorem leads (h : Unrolls rest s s') (d : Desk) : Leads s d s' d := by
  induction h with
  | refl => exact .refl
  | next _ _ ih => exact ih.next .step

theorem invariant {I : State → Prop} (h : Unrolls rest s s') (start : I s)
    (step : ∀ {x : State} {a : Action} {as : List Action} {y : State},
      Unrolls rest s (x.doFirst [a]) →
      x.agenda = as ++ rest → Effect x a y → I (x.doFirst [a]) → I y) : I s' := by
  induction h with
  | refl => exact start
  | @next s₁ a more h busy ih =>
    obtain ⟨eq, effect⟩ := State.step_item busy
    refine @step _ _ more _ (eq ▸ h) rfl effect ?_
    rw [← eq]
    exact ih

/-- **The way comes to an end**, at a state from which there is nothing more to work off. -/
theorem finishes (sound : Sound s d) (rest : List Action) :
    ∃ s', Unrolls rest s s' ∧ ∀ a more, s'.agenda ≠ a :: (more ++ rest) := by
  have wellFounded : WellFounded fun s' s : State =>
      Prod.Lex (· < ·) (· < ·) s'.outlook s.outlook :=
    InvImage.wf State.outlook (Prod.lex Nat.lt_wfRel Nat.lt_wfRel).wf
  induction s using wellFounded.induction with
  | _ s ih =>
    by_cases busy : ∃ a more, s.agenda = a :: (more ++ rest)
    · obtain ⟨a, more, busy⟩ := busy
      obtain ⟨eq, effect⟩ := State.step_item busy
      have formed : Formed { s with agenda := more ++ rest } := { sound.formed with }
      have less := effect.tolls formed
      rw [← eq] at less
      obtain ⟨s', way, done⟩ := ih s.step less sound.step
      exact ⟨s', (Unrolls.refl.next busy).trans way, done⟩
    · exact ⟨s, .refl, fun a more busy' => busy ⟨a, more, busy'⟩⟩

end Unrolls

/-- Where no worker was let go on, the machine does nothing but work off the agenda. -/
theorem Unrolls.run (limit : Nat) : ∀ {s : State}, s.active = none →
    Unrolls [] s (State.run limit s) := by
  induction limit with
  | zero => exact fun _ => .refl
  | succ limit ih =>
    intro s still
    rw [State.run]
    split
    · exact .refl
    · rename_i busy
      cases agenda : s.agenda with
      | nil => simp [State.resting, agenda, still] at busy
      | cons a as =>
        have step : Unrolls [] s s.step :=
          @Unrolls.next [] s s a as .refl (by rw [agenda, List.append_nil])
        exact step.trans (ih ((State.step_item agenda).2.active.trans still))

/-- **The agenda of every reachable state is worked off**, whatever it holds. -/
theorem Reachable.worked_off (h : Reachable s d) : ∃ s', Unrolls [] s s' ∧ s'.agenda = [] := by
  obtain ⟨s', way, done⟩ := Unrolls.finishes h.sound []
  refine ⟨s', way, ?_⟩
  cases agenda : s'.agenda with
  | nil => rfl
  | cons a as =>
    rw [← as.append_nil] at agenda
    exact absurd agenda (done a as)

end Nursery
