import Nursery.Proofs.Cancellation

/-!
# What a node sees above it

A node counts as cancelled if it is flagged itself or sees a flag above it.  It sees its parent as
long as that is alive, and through it whatever that sees.  A flag is never cleared and no node ever
gets another parent, so what a node has seen can only be lost with a node in between that goes.
That happens: a node that was reaped does not keep its parents alive, and is not flagged when they
are.

* `State.Sees` : a node sees another one above it.
* `State.isCancelled_iff` : a node counts as cancelled if it sees a flag.
* `cancelled_until_freed` : **what is kept of a cancellation, and how the rest is lost.**
* `cancelled_then_not` : a handle that tells a cancellation and later does not.
-/

namespace Nursery

/-- A node sees itself, its parent while that is alive, and whatever that one sees. -/
def State.Sees (s : State) : TaskId → TaskId → Prop :=
  Relation.ReflTransGen fun n p => s.livingParent n = some p

variable {s s' : State} {d d' : Desk} {n m p : TaskId}

theorem State.parent_of_living (living : s.livingParent n = some p) :
    (∃ node, s.nodes.get? n = some node ∧ node.parent = some p) ∧ s.alive p = true := by
  obtain ⟨parent, alive⟩ := Option.filter_eq_some_iff.1 living
  exact ⟨Option.bind_eq_some_iff.1 parent, alive⟩

/-- Whoever is seen is alive, but for the one who looks. -/
theorem State.Sees.alive (sees : s.Sees n m) : m = n ∨ s.alive m = true := by
  rcases Relation.ReflTransGen.cases_tail sees with same | ⟨p, -, living⟩
  · exact .inl same
  · exact .inr (State.parent_of_living living).2

/-! ### Looking up is seeing -/

theorem State.sees_of_cancelledWithin (steps : Nat) : ∀ {n : TaskId},
    s.cancelledWithin steps n = true → ∃ m, s.Sees n m ∧ s.flagged m = true := by
  induction steps with
  | zero => exact fun {n} flagged => ⟨n, .refl, flagged⟩
  | succ steps ih =>
    intro n cancelled
    unfold cancelledWithin at cancelled
    rcases Bool.or_eq_true_iff.1 cancelled with flagged | above
    · exact ⟨n, .refl, flagged⟩
    · split at above
      · rename_i p living
        obtain ⟨m, sees, flagged⟩ := ih above
        exact ⟨m, .head living sees, flagged⟩
      · cases above

theorem State.cancelledWithin_of_sees (descends : s.Descends) (flagged : s.flagged m = true)
    (sees : s.Sees n m) : ∀ steps, n.index ≤ steps → s.cancelledWithin steps n = true := by
  induction sees using Relation.ReflTransGen.head_induction_on with
  | refl =>
    intro steps _
    cases steps with
    | zero => exact flagged
    | succ steps => simp [cancelledWithin, flagged]
  | @head n p living _ ih =>
    intro steps enough
    obtain ⟨⟨node, found, parent⟩, -⟩ := State.parent_of_living living
    have older : p.index < n.index := descends n node p found parent
    cases steps with
    | zero => omega
    | succ steps =>
      have above : s.cancelledWithin steps p = true := ih steps (by omega)
      simp [cancelledWithin, living, above]

/-- A node counts as cancelled if it sees a flag. -/
theorem State.isCancelled_iff (descends : s.Descends) :
    s.isCancelled n = true ↔ ∃ m, s.Sees n m ∧ s.flagged m = true := by
  constructor
  · exact State.sees_of_cancelledWithin _
  · rintro ⟨m, sees, flagged⟩
    exact State.cancelledWithin_of_sees descends flagged sees _ (Nat.le_refl _)

/-! ### What is seen later -/

theorem Leads.flagged (h : Reachable s d) (l : Leads s d s' d') (flagged : s.flagged n = true) :
    s'.flagged n = true := by
  induction l with
  | refl => exact flagged
  | next l t ih => exact ((h.leads l).spread t).flagged ih

/-- A node goes on seeing another one as long as everyone in between is alive. -/
theorem Lasts.sees (lasts : Lasts s s') (sees : s.Sees n m)
    (living : ∀ p, p ≠ n → s.Sees n p → s.Sees p m → s'.alive p = true) : s'.Sees n m := by
  induction sees with
  | refl => exact .refl
  | @tail m p before up ih =>
    by_cases same : p = n
    · subst same
      exact .refl
    have now : s'.Sees n m := ih fun q other saw way => living q other saw (way.tail up)
    obtain ⟨⟨node, found, parent⟩, -⟩ := State.parent_of_living up
    obtain ⟨node', found', kept⟩ := lasts m node found
    -- the parent is the same one, and it is alive still
    refine now.tail (Option.filter_eq_some_iff.2 ⟨?_, living p same (before.tail up) .refl⟩)
    rw [found', Option.bind_some, kept.parent, parent]

/-- **What is kept of a cancellation, and how the rest is lost.**  A node that is flagged itself
counts as cancelled for ever, and so does every node that counted as cancelled while it was
attached.  Any other node counts as cancelled exactly as long as it sees a flag: if it does not any
more, then of every flag that it saw it was cut off by a node in between, which was alive and is
not any more. -/
theorem cancelled_until_freed (h : Reachable s d) (l : Leads s d s' d')
    (cancelled : s.isCancelled n = true) :
    (s.flagged n = true → s'.isCancelled n = true) ∧
    (s.Calm → s.Attached n → s'.isCancelled n = true) ∧
    (s'.isCancelled n = true ↔ ∃ m, s'.Sees n m ∧ s'.flagged m = true) ∧
    (s'.isCancelled n = false → ∀ m, s.Sees n m → s.flagged m = true →
      ∃ p, p ≠ n ∧ s.Sees n p ∧ s.Sees p m ∧ s.alive p = true ∧ s'.alive p = false) := by
  have sees := State.isCancelled_iff (n := n) (h.leads l).descends
  have itself : s.flagged n = true → s'.isCancelled n = true :=
    fun flagged => sees.2 ⟨n, .refl, l.flagged h flagged⟩
  refine ⟨itself, fun calm attached => ?_, sees, fun lost m saw flagged => ?_⟩
  · refine itself ?_
    rw [← h.closed.cancelledWithin_eq calm h.sound.kinship n.index attached]
    exact cancelled
  · by_contra kept
    have living : ∀ p, p ≠ n → s.Sees n p → s.Sees p m → s'.alive p = true := by
      intro p other saw way
      by_contra gone
      exact kept ⟨p, other, saw, way, saw.alive.resolve_left other, Bool.not_eq_true _ ▸ gone⟩
    have still := sees.2 ⟨m, (l.lasts h).sees saw living, l.flagged h flagged⟩
    cases lost.symm.trans still

/-! ### A parent that goes -/

/-- The body of a task that makes a child, gives it away, lets it end and then is held. -/
def parentBody : List Line :=
  [.mk ⟨"spawn", none, some "child", true⟩ (.spawn none false []),
    .mk ⟨"put", some "child", none, true⟩ .share,
    .mk ⟨"yield", none, none, true⟩ (.yieldTimes 1),
    .mk ⟨"hold", none, none, true⟩ .hold]

/-- The parent is cancelled when its child has ended, so the child sees the flag.  Then the parent
ends and its handle is dropped. -/
theorem leads_parent : ∃ s d s' d', Reachable s d ∧ Leads s d s' d' ∧
    s.agenda = [] ∧ s.shared.find? "child" = some (.handle ⟨1⟩) ∧ s.isCancelled ⟨1⟩ = true ∧
    s.Sees ⟨1⟩ ⟨0⟩ ∧ s.flagged ⟨0⟩ = true ∧
    s'.agenda = [] ∧ s'.shared.find? "child" = some (.handle ⟨1⟩) ∧
    s'.isCancelled ⟨1⟩ = false := by
  have built : Reachable _ .clear := Reachable.init.next (.move rfl (.build 0 none none))
  have spawned := built.next (.move (by decide) (.line (show State.plain? _ { who := .main } []
    ⟨"rt_spawn", none, some "parent", true⟩ (.spawnOn 0 none parentBody) = some _ from rfl)))
  have shelved := (reachable_run spawned 1).next (.move (by decide) .shelve)
  have held := reachable_run (shelved.next (.move (by decide)
    (.start (show Store.get? _ 0 = some ⟨0⟩ by decide)))) 100
  have cancelled := held.next (.move (by decide +kernel) (.line (show State.plain? _
    { who := .main } [] ⟨"cancel", some "parent", none, true⟩ .cancel = some _ from rfl)))
  have seen := (reachable_run cancelled 100).next (.move (by decide +kernel) .shelve)
  have goes_on : ∀ {s s' : State} {d d' : Desk}, Reachable s d → Transition s d s' d' →
      Leads s d s' d' := fun _ t => Leads.refl.next t
  have ended := (goes_on seen (.move (by decide +kernel)
    (.start (show Store.get? _ 0 = some ⟨0⟩ by decide +kernel)))).trans (leads_run 100 _ _)
  have dropped := ended.next (.move (by decide +kernel) (.line (show State.plain? _
    { who := .main } [] ⟨"drop", some "parent", none, true⟩ .drop = some _ from rfl)))
  have gone := (dropped.trans (leads_run 100 _ _)).next (.move (by decide +kernel) .shelve)
  refine ⟨_, _, _, _, seen, gone, by decide +kernel, by decide +kernel, by decide +kernel,
    .single (by decide +kernel), by decide +kernel, by decide +kernel, by decide +kernel,
    by decide +kernel⟩

/-- The child was cut off by its parent. -/
theorem cancelled_until_freed_parent : ∃ s d s' d', Reachable s d ∧ Leads s d s' d' ∧
    s.isCancelled ⟨1⟩ = true ∧ s.alive ⟨0⟩ = true ∧ s'.isCancelled ⟨1⟩ = false ∧
    ∃ p, p ≠ ⟨1⟩ ∧ s.Sees ⟨1⟩ p ∧ s.alive p = true ∧ s'.alive p = false := by
  obtain ⟨s, d, s', d', h, l, -, -, cancelled, sees, flagged, -, -, lost⟩ := leads_parent
  obtain ⟨-, -, -, cut⟩ := cancelled_until_freed h l cancelled
  obtain ⟨p, other, saw, -, alive, gone⟩ := cut lost ⟨0⟩ sees flagged
  exact ⟨s, d, s', d', h, l, cancelled, sees.alive.resolve_left (by decide), lost, p, other, saw,
    alive, gone⟩

/-- The same handle tells that its task counts as cancelled, and later that it does not. -/
theorem cancelled_then_not : ∃ s d s' d', Reachable s d ∧ Leads s d s' d' ∧
    s.agenda = [] ∧ s.shared.find? "child" = some (.handle ⟨1⟩) ∧ s.isCancelled ⟨1⟩ = true ∧
    s'.agenda = [] ∧ s'.shared.find? "child" = some (.handle ⟨1⟩) ∧
    s'.isCancelled ⟨1⟩ = false := by
  obtain ⟨s, d, s', d', h, l, idle, handle, cancelled, -, -, idle', handle', lost⟩ := leads_parent
  exact ⟨s, d, s', d', h, l, idle, handle, cancelled, idle', handle', lost⟩

end Nursery
