import Nursery.Proofs.Aftermath
import Nursery.Proofs.Tree.Fades
import Nursery.Proofs.Tree.Tidy

/-!
# How a node leaves the tree

A node that leaves its parent is reaped, and nobody else is.  It leaves the list of its parent and
no other list changes; who waited for that list to become empty is woken at once.  So as long as
the parent of a node is alive, the parent lists the node exactly until it is reaped.

* `Departs` : what happens when a node leaves the tree.
* `Effect.departs` : that is what the item of the agenda does.
* `Transition.departs` : in every other transition the tree only grows.
* `Transition.due`, `Transition.woken` : when a node is reaped, and who is woken by it.
* `Reachable.unlisted` : a living parent lists nobody that was reaped.
-/

namespace Nursery

/-- A node leaves the tree. -/
structure Departs (s : State) (n : TaskId) (s' : State) : Prop where
  /-- It is reaped, and nobody else is. -/
  reaped : ∀ k m', s'.nodes.get? k = some m' →
    ∃ m, s.nodes.get? k = some m ∧ (m'.reaped = true ↔ m.reaped = true ∨ k = n)
  /-- Nobody else leaves a list. -/
  others : ∀ k p, k ≠ n → k ∈ s.children p → k ∈ s'.children p
  /-- It leaves the list of its parent, unless it did so before or the parent has gone. -/
  left : ∀ p, n ∈ s'.children p →
    (∃ m, s.nodes.get? n = some m ∧ m.reaped = true) ∨ s'.alive p = false
  /-- A task that waits for its children and has none left is woken before anything else. -/
  wakes : ∀ p m, s.nodes.get? p = some m → m.joining = true → m.children ≠ [] →
    s'.children p = [] → ∃ rest, s'.agenda = .wake (.task p) :: rest
  /-- No task goes. -/
  tasks : s'.tasks = s.tasks
  /-- Every task stays where it is in its life. -/
  phases : ∀ k, s'.phase k = s.phase k

variable {s s' : State} {d d' : Desk} {n p : TaskId}

/-- The lists after a node was reaped and its parent was given another list. -/
theorem State.children_reap {f : Node → Node} {above : Node}
    (listed : (s.modifyNode n fun m => { m with reaped := true }).nodes.get? p = some above)
    (q : TaskId) : ((s.modifyNode n fun m => { m with reaped := true }).modifyNode p f).children q =
      if p = q then (f above).children else s.children q := by
  by_cases here : p = q
  · subst here
    rw [if_pos rfl, State.children_of_get? (Store.get?_modify_eq_some.2 ⟨above, listed, rfl⟩),
      if_pos rfl]
  · rw [if_neg here, State.children, State.modifyNode, Store.get?_modify_of_ne here]
    exact State.children_modifyNode_same fun _ => rfl

/-- A node was reaped, and its parent is left with the other children. -/
theorem Departs.of_lists {m above : Node} {f : Node → Node} (kinship : Kinship s)
    (nodes : s'.nodes = ((s.modifyNode n fun m => { m with reaped := true }).modifyNode p f).nodes)
    (found : s.nodes.get? n = some m) (parent : m.parent = some p)
    (listed : (s.modifyNode n fun m => { m with reaped := true }).nodes.get? p = some above)
    (rest : (f above).children = above.children.filter (· ≠ n))
    (reaped : ∀ m, (f m).reaped = m.reaped) (phase : ∀ m, (f m).phase = m.phase)
    (tasks : s'.tasks = s.tasks)
    (wakes : above.joining = true → above.children.filter (· ≠ n) = [] →
      ∃ rest, s'.agenda = .wake (.task p) :: rest) : Departs s n s' := by
  obtain ⟨above₀, before, eq⟩ := Store.get?_modify_eq_some.1 listed
  have joining : above.joining = above₀.joining := by
    rw [eq]
    split <;> rfl
  have children : above.children = s.children p := by
    rw [eq, State.children_of_get? before]
    split <;> rfl
  have lists : ∀ q, s'.children q =
      if p = q then (s.children p).filter (· ≠ n) else s.children q := by
    intro q
    rw [← children, ← rest, State.children, nodes]
    exact State.children_reap listed q
  refine ⟨fun k m' now => ?_, fun k q other old => ?_, fun q stays => ?_,
    fun q m' now joins some_left alone => ?_, tasks, fun k => ?_⟩
  · rw [nodes] at now
    obtain ⟨m₁, mid, rfl⟩ := Store.get?_modify_eq_some.1 now
    obtain ⟨m₀, old, eq₁⟩ := Store.get?_modify_eq_some.1 mid
    refine ⟨m₀, old, ?_⟩
    have same : (if p = k then f m₁ else m₁).reaped = m₁.reaped := by
      split
      · exact reaped m₁
      · rfl
    rw [same, eq₁]
    by_cases here : n = k
    · simp [here]
    · simp [here, Ne.symm here]
  · rw [lists]
    split
    · rename_i here
      exact List.mem_filter.2 ⟨here ▸ old, by simpa using other⟩
    · exact old
  · rw [lists] at stays
    split at stays
    · simp at stays
    · rename_i elsewhere
      obtain ⟨m', now, parent'⟩ := kinship.listed q n stays
      cases found.symm.trans now
      cases parent.symm.trans parent'
      exact absurd rfl elsewhere
  · rw [lists] at alone
    split at alone
    · rename_i here
      subst here
      cases before.symm.trans now
      exact wakes (joining.trans joins) (children ▸ alone)
    · rw [State.children_of_get? now] at alone
      exact absurd alone some_left
  · rw [State.phase, nodes]
    exact (State.phase_modifyNode_same phase).trans (State.phase_modifyNode_same fun _ => rfl)

/-- **What the item does by which a node leaves its parent.** -/
theorem Effect.departs (kinship : Kinship s) (e : Effect s (.detach n) s') : Departs s n s' := by
  cases e with
  | spent why =>
    refine ⟨fun k m found => ⟨m, found, ?_⟩, fun _ _ _ => id, fun q listed => .inl ?_,
      fun q m found _ some_left alone => absurd alone ?_, rfl, fun _ => rfl⟩
    · refine ⟨.inl, fun gone => gone.elim id fun same => ?_⟩
      subst same
      exact why m found
    · obtain ⟨m, found, -⟩ := kinship.listed q n listed
      exact ⟨m, found, why m found⟩
    · rwa [State.children_of_get? found]
  | @orphan _ m found attached alone =>
    have lists : ∀ q, (s.modifyNode n fun m => { m with reaped := true }).children q =
        s.children q := fun q => State.children_modifyNode_same fun _ => rfl
    refine ⟨fun k m' now => ?_, fun k q _ old => (lists q).symm ▸ old, fun q listed => .inr ?_,
      fun q m' now _ some_left none => absurd ((lists q).symm.trans none) ?_, rfl,
      fun k => State.phase_modifyNode_same fun _ => rfl⟩
    · obtain ⟨m₀, old, rfl⟩ := Store.get?_modify_eq_some.1 now
      refine ⟨m₀, old, ?_⟩
      by_cases here : n = k
      · simp [here]
      · simp [here, Ne.symm here]
    · rw [lists] at listed
      obtain ⟨m', now, parent⟩ := kinship.listed q n listed
      cases found.symm.trans now
      obtain ⟨above, known⟩ := (kinship.knows listed).1
      have before : (s.modifyNode n fun m => { m with reaped := true }).alive q = true →
          s.alive q = true := by
        refine State.alive_of_alive kinship (fun k m old => ?_) (fun _ _ => id)
          (fun q k _ old => (lists q) ▸ old) ⟨above, known⟩
        refine ⟨_, Store.get?_modify_eq_some.2 ⟨m, old, rfl⟩, ?_⟩
        split <;> rfl
      refine Bool.eq_false_iff.2 fun alive => ?_
      cases (alone q parent (by simp [known])).symm.trans (before alive)
    · rwa [State.children_of_get? now]
  | @reap _ p m above found attached parent listed more =>
    exact .of_lists kinship rfl found parent listed rfl (fun _ => rfl) (fun _ => rfl) rfl
      fun _ none => absurd none more
  | @reapLast _ p m above found attached parent listed last =>
    exact .of_lists kinship rfl found parent listed last.symm (fun _ => rfl) (fun _ => rfl) rfl
      fun joins _ => ⟨_, by rw [State.doFirst, joins]; rfl⟩

/-! ### Along a run -/

/-- **The tree only grows, or the first item of the agenda is that a node leaves it.** -/
theorem Transition.departs (h : Reachable s d) (t : Transition s d s' d') :
    Steady s s' ∨ ∃ n rest, s.agenda = .detach n :: rest ∧ s' = s.step ∧ Departs s n s' := by
  rcases t.steady h.sound with steady | ⟨s₀, n, rfl, e, next⟩
  · exact .inl steady
  · have left := e.departs (h.sound.kinship.pop (by simp))
    exact .inr ⟨n, s₀.agenda, rfl, next, left.reaped, left.others, left.left, left.wakes,
      left.tasks, left.phases⟩

/-- A node is reaped when its owner is done and its own list is empty. -/
theorem Transition.due (h : Reachable s d) (t : Transition s d s' d') {m m' : Node}
    (found : s.nodes.get? n = some m) (found' : s'.nodes.get? n = some m')
    (before : m.reaped = false) (now : m'.reaped = true) :
    m.finished = true ∧ s.Done n ∧ m.children = [] ∧ ∃ rest, s.agenda = .detach n :: rest := by
  rcases t.departs h with steady | ⟨k, rest, first, -, departs⟩
  · obtain ⟨m₁, found₁, same, -⟩ := steady.kept n m found
    cases found'.symm.trans found₁
    rw [same, before] at now
    cases now
  · obtain ⟨m₁, found₁, only⟩ := departs.reaped n m' found'
    cases found.symm.trans found₁
    obtain rfl : n = k := (only.1 now).resolve_left (by simp [before])
    have kinship := h.sound.kinship
    obtain ⟨finished, alone⟩ := kinship.ripe (.detach n) (by simp [first]) m found
    exact ⟨finished, kinship.finished n m found finished, alone, rest, first⟩

/-- A node that was reaped stays so. -/
theorem Transition.reaped (h : Reachable s d) (t : Transition s d s' d') {m : Node}
    (found : s.nodes.get? n = some m) (gone : m.reaped = true) :
    ∃ m', s'.nodes.get? n = some m' ∧ m'.reaped = true := by
  rcases t.departs h with steady | ⟨k, rest, -, -, departs⟩
  · obtain ⟨m', found', same, -⟩ := steady.kept n m found
    exact ⟨m', found', same.trans gone⟩
  · obtain ⟨m', found', -⟩ := t.lasts h.sound n m found
    obtain ⟨m₁, found₁, only⟩ := departs.reaped n m' found'
    cases found.symm.trans found₁
    exact ⟨m', found', only.2 (.inl gone)⟩

/-- A task that has not ended is ready, or noted to have been woken, once its waker was used. -/
theorem State.woken {rest : List Action} (first : s.agenda = .wake (.task p) :: rest)
    (node : s.Knows p) (known : s.tasks.get? p ≠ none)
    (ongoing : (s.phase p).isTerminal = false) :
    s.step.phase p = .ready ∨ s.step.phase p = .notified := by
  obtain ⟨m, node⟩ := node
  have e := (State.step_item first).2
  generalize s.step = s' at e
  cases e with
  | spent why => exact absurd why.2 known
  | resume =>
    left
    rw [State.phase_enqueue]
    exact State.phase_modifyNode_self node
  | notify => exact .inr (State.phase_modifyNode_self node)
  | awake up stopped =>
    change s.phase p = .ready ∨ s.phase p = .notified
    change s.phase p ≠ .suspended at up
    change s.phase p ≠ .running at stopped
    cases phase : s.phase p <;> simp_all [Phase.isTerminal]

/-- **Who waits for an empty list is woken as soon as it is empty.** -/
theorem Transition.woken (h : Reachable s d) (t : Transition s d s' d') {m : Node}
    (found : s.nodes.get? p = some m) (joins : m.joining = true) (alone : s'.children p = []) :
    (∃ rest, s'.agenda = .wake (.task p) :: rest) ∧
      (s'.step.phase p = .ready ∨ s'.step.phase p = .notified) := by
  obtain ⟨some_left, ongoing, -, known⟩ := (h.tidy.nodes p m found).joins joins
  rcases t.departs h with steady | ⟨k, rest, -, -, departs⟩
  · obtain ⟨m', found', -, lists⟩ := steady.kept p m found
    obtain ⟨c, hc⟩ := List.exists_mem_of_ne_nil _ some_left
    have still := lists c hc
    rw [← State.children_of_get? found', alone] at still
    cases still
  obtain ⟨rest, first⟩ := departs.wakes p m found joins some_left alone
  refine ⟨⟨rest, first⟩, ?_⟩
  rw [← State.phase_of_get? found, ← departs.phases] at ongoing
  rw [← departs.tasks] at known
  exact State.woken first ((t.fades h.sound).knows p ⟨m, found⟩) known ongoing

/-- **A living parent lists nobody that was reaped.** -/
theorem Reachable.unlisted (h : Reachable s d) {m : Node} (found : s.nodes.get? n = some m)
    (gone : m.reaped = true) (listed : n ∈ s.children p) : s.alive p = false := by
  induction h generalizing n p m with
  | init => simp [Store.get?, Store.lookup] at found
  | @next s s' d d' h t ih =>
    have before : (∃ m, s.nodes.get? n = some m ∧ m.reaped = true) ∨ s'.alive p = false := by
      rcases t.departs h with steady | ⟨k, rest, -, -, departs⟩
      · cases old : s.nodes.get? n with
        | none =>
          rw [steady.born n m old found] at gone
          cases gone
        | some m₀ =>
          obtain ⟨m₁, found₁, same, -⟩ := steady.kept n m₀ old
          cases found.symm.trans found₁
          exact .inl ⟨m₀, rfl, same.symm.trans gone⟩
      · obtain ⟨m₀, old, only⟩ := departs.reaped n m found
        rcases only.1 gone with before | same
        · exact .inl ⟨m₀, old, before⟩
        · subst same
          exact departs.left p listed
    rcases before with ⟨m₀, old, before⟩ | dead
    · have listed := t.listed h ⟨m₀, old⟩ listed
      have dead := ih old before listed
      refine Bool.eq_false_iff.2 fun alive => ?_
      cases dead.symm.trans (t.alive h (h.sound.kinship.knows listed).1 alive)
    · exact dead

end Nursery
