import Nursery.Proofs.Tree.Departs
import Nursery.Proofs.Tree.Walks

/-!
# The forest of nodes

Tasks and groups are attached, finish, are reaped and leave their parents in different orders: a
group may be dropped before or after its last child ends, and a parent that was only waiting for
its last child leaves as well.  Whatever the order, every node is in its place: a living parent
lists it from the moment it is made until it is reaped, and nobody else does.

* `Forest` : what holds of the nodes of a state.
* `Walks` : every walk through the nodes comes to an end.
* `Tends` : what a transition does to the nodes.
* `Endures` : what a run leaves as it is.
* `task_forest` : **every reachable state is a forest, and every transition tends it.**
-/

namespace Nursery

/-- Every node is in its place. -/
structure Forest (s : State) : Prop where
  /-- As long as its parent is alive, a node is listed by it once until it is reaped, and not any
  more then. -/
  listed : ∀ n m p, s.nodes.get? n = some m → m.parent = some p → s.alive p = true →
    (s.children p).count n = if m.reaped then 0 else 1
  /-- Nobody else lists a node, and nobody lists a root. -/
  only : ∀ n p, n ∈ s.children p → ∃ m, s.nodes.get? n = some m ∧ m.parent = some p
  /-- The owner of a node that was reaped is done, and it lists nobody. -/
  reaped : ∀ n m, s.nodes.get? n = some m → m.reaped = true →
    m.finished = true ∧ s.Done n ∧ m.children = []
  /-- A finished node that lists nobody was reaped, or is on its way to leave its parent. -/
  due : ∀ n m, s.nodes.get? n = some m → m.finished = true → m.children = [] →
    m.reaped = true ∨ .detach n ∈ s.agenda
  /-- When the agenda is worked off, exactly those nodes were reaped that list nobody and whose
  task has ended, or whose group was dropped. -/
  settled : s.agenda = [] → ∀ n m, s.nodes.get? n = some m → (m.reaped = true ↔
    m.children = [] ∧ (m.phase.isTerminal = true ∨ m.kind = .group ∧ s.groups.get? n = none))
  /-- Nobody waits for a list that is empty already. -/
  waits : ∀ n m, s.nodes.get? n = some m → m.joining = true → m.children ≠ []
  /-- A node is younger than its parent. -/
  younger : ∀ n m p, s.nodes.get? n = some m → m.parent = some p → p.index < n.index

/-- Every walk through the nodes comes to an end. -/
structure Walks (s : State) : Prop where
  /-- There is no endless way from a node to one that it lists. -/
  down : WellFounded fun c p => c ∈ s.children p
  /-- There is no endless way from a node to its parent. -/
  up : WellFounded fun p n => (s.nodes.get? n).bind Node.parent = some p
  /-- A cancellation ends. -/
  cancels : ∀ n rest, s.agenda = .cancel n :: rest → ∃ s', Unrolls rest s s' ∧ s'.agenda = rest
  /-- The end of a node goes up no further than there are older nodes: up to a parent that stays,
  or that is woken. -/
  detaches : ∀ n rest, s.agenda = .detach n :: rest → ∃ k ≤ n.index + 1,
    Unrolls rest s (State.step^[k] s) ∧ ((State.step^[k] s).agenda = rest ∨
      ∃ p, (State.step^[k] s).agenda = .wake (.task p) :: rest)
  /-- Whoever asks whether a node is cancelled looks at no more nodes than there are older ones. -/
  looks : ∀ n steps, n.index ≤ steps → s.cancelledWithin steps n = s.isCancelled n

/-- What a transition does to the nodes. -/
structure Tends (s s' : State) : Prop where
  /-- A new node is attached at once, and not below one that was reaped. -/
  born : ∀ n m, s.nodes.get? n = none → s'.nodes.get? n = some m → m.reaped = false ∧
    ∀ p, m.parent = some p → n ∈ s'.children p ∧
      ∃ above, s'.nodes.get? p = some above ∧ above.reaped = false
  /-- A node is reaped when its owner is done and it lists nobody, and only then. -/
  reaps : ∀ n m m', s.nodes.get? n = some m → s'.nodes.get? n = some m' → m.reaped = false →
    m'.reaped = true → m.finished = true ∧ s.Done n ∧ m.children = []
  /-- A node that was reaped does not leave its parent again. -/
  once : ∀ n m rest, s.nodes.get? n = some m → m.reaped = true → s.agenda = .detach n :: rest →
    s' = { s with agenda := rest }
  /-- Who waits for an empty list is woken as soon as it is empty. -/
  wakes : ∀ p m, s.nodes.get? p = some m → m.joining = true → s'.children p = [] →
    (∃ rest, s'.agenda = .wake (.task p) :: rest) ∧
      (s'.step.phase p = .ready ∨ s'.step.phase p = .notified)

/-- What a run leaves as it is. -/
structure Endures (s s' : State) : Prop where
  /-- A node keeps its parent. -/
  parent : ∀ n m, s.nodes.get? n = some m →
    ∃ m', s'.nodes.get? n = some m' ∧ m'.parent = m.parent
  /-- A node that is not alive stays so. -/
  gone : ∀ n m, s.nodes.get? n = some m → s.alive n = false → s'.alive n = false
  /-- A node that was reaped stays so, and never gets a child again. -/
  reaped : ∀ n m, s.nodes.get? n = some m → m.reaped = true →
    (∃ m', s'.nodes.get? n = some m' ∧ m'.reaped = true ∧ m'.children = []) ∧
      ∀ k m', s'.nodes.get? k = some m' → m'.parent = some n → ∃ m, s.nodes.get? k = some m

variable {s s' : State} {d d' : Desk}

/-- No list names a node twice. -/
theorem Tidy.nodup (h : Tidy s) (p : TaskId) : (s.children p).Nodup := by
  cases found : s.nodes.get? p with
  | none => simp [State.children, found]
  | some m =>
    rw [State.children_of_get? found]
    refine (h.nodes p m found).rising.imp fun older same => ?_
    rw [same] at older
    exact Nat.lt_irrefl _ older

theorem Reachable.forest (h : Reachable s d) : Forest s := by
  have tidy := h.tidy
  have kinship := h.sound.kinship
  have reaped : ∀ n m, s.nodes.get? n = some m → m.reaped = true →
      m.finished = true ∧ s.Done n ∧ m.children = [] := by
    intro n m found gone
    obtain ⟨finished, alone⟩ := kinship.reaped n m found gone
    exact ⟨finished, kinship.finished n m found finished, alone⟩
  refine {
    listed := fun n m p found parent alive => ?_
    only := fun n p => kinship.listed p n
    reaped := reaped
    due := fun n m found => (tidy.nodes n m found).due
    settled := fun idle n m found => ⟨fun gone => ?_, fun ⟨alone, past⟩ => ?_⟩
    waits := fun n m found joins => ((tidy.nodes n m found).joins joins).1
    younger := h.descends }
  · cases gone : m.reaped with
    | false =>
      have listed := (kinship.linked n m p found parent).resolve_left (by simp [gone])
      simpa using List.count_eq_one_of_mem (tidy.nodup p) listed
    | true =>
      refine List.count_eq_zero.2 fun listed => ?_
      cases (h.unlisted found gone listed).symm.trans alive
  · obtain ⟨-, done, alone⟩ := reaped n m found gone
    rcases done with ended | ⟨group, dropped⟩
    · rw [State.phase_of_get? found] at ended
      exact ⟨alone, .inl ended⟩
    · refine ⟨alone, .inr ⟨?_, dropped.resolve_right (by simp [idle])⟩⟩
      rwa [State.kind?, found, Option.map_some, Option.some.injEq] at group
  · have nothing : ∀ a : Action, a ∉ s.agenda := by simp [idle]
    have finished : m.finished = true := by
      rcases past with ended | ⟨group, dropped⟩
      · exact ((tidy.nodes n m found).ended ended).resolve_right (nothing _)
      · exact (tidy.nodes n m found).dropped group dropped
    exact ((tidy.nodes n m found).due finished alone).resolve_right (nothing _)

theorem Reachable.walks (h : Reachable s d) : Walks s where
  down := h.down
  up := h.up
  cancels n rest first := by
    obtain ⟨s', way, ends, -⟩ := State.cancel_ends h.down n (fun _ => rfl) first
    exact ⟨s', way, ends⟩
  detaches _ _ first := h.detach_ends first
  looks _ _ enough := State.cancelledWithin_eq h.descends enough

theorem Transition.tends (h : Reachable s d) (t : Transition s d s' d') : Tends s s' := by
  have kinship := (h.next t).sound.kinship
  refine ⟨fun n m new found => ?_, fun n m m' found found' before now => ?_,
    fun n m rest found gone first => ?_, fun p m found joins alone => t.woken h found joins alone⟩
  · have unreaped : m.reaped = false := by
      rcases t.departs h with steady | ⟨k, rest, -, -, departs⟩
      · exact steady.born n m new found
      · obtain ⟨m₀, old, -⟩ := departs.reaped n m found
        cases new.symm.trans old
    refine ⟨unreaped, fun p parent => ?_⟩
    exact kinship.listed_of_attached found unreaped parent
  · obtain ⟨finished, done, alone, -⟩ := t.due h found found' before now
    exact ⟨finished, done, alone⟩
  · rw [t.eq_perform first, State.perform, State.detachNode]
    simp [found, gone]

/-- A node that was reaped stays so. -/
theorem Leads.reaped (h : Reachable s d) (l : Leads s d s' d') {n : TaskId} {m : Node}
    (found : s.nodes.get? n = some m) (gone : m.reaped = true) :
    ∃ m', s'.nodes.get? n = some m' ∧ m'.reaped = true := by
  induction l with
  | refl => exact ⟨m, found, gone⟩
  | next l t ih =>
    obtain ⟨m₁, found₁, gone₁⟩ := ih
    exact t.reaped (h.leads l) found₁ gone₁

/-- A node that was reaped never gets a child again. -/
theorem Leads.barren (h : Reachable s d) (l : Leads s d s' d') {n k : TaskId} {m m' : Node}
    (found : s.nodes.get? n = some m) (gone : m.reaped = true) (child : s'.nodes.get? k = some m')
    (parent : m'.parent = some n) : ∃ m, s.nodes.get? k = some m := by
  induction l generalizing m' with
  | refl => exact ⟨m', child⟩
  | @next x y dx dy l t ih =>
    have before := h.leads l
    cases old : x.nodes.get? k with
    | some m₀ =>
      obtain ⟨m₁, child₁, lasts⟩ := t.lasts before.sound k m₀ old
      cases child.symm.trans child₁
      exact ih old (lasts.parent.symm.trans parent)
    | none =>
      -- a new node is not made below one that was reaped
      obtain ⟨-, above, now, unreaped⟩ := ((t.tends before).born k m' old child).2 n parent
      obtain ⟨m₁, now₁, reaped⟩ := (l.next t).reaped h found gone
      cases now.symm.trans now₁
      rw [unreaped] at reaped
      cases reaped

theorem Leads.endures (h : Reachable s d) (l : Leads s d s' d') : Endures s s' := by
  refine ⟨fun n m found => ?_, fun n m found dead => ?_, fun n m found gone => ⟨?_, ?_⟩⟩
  · obtain ⟨m', found', lasts⟩ := l.lasts h n m found
    exact ⟨m', found', lasts.parent⟩
  · refine Bool.eq_false_iff.2 fun alive => ?_
    cases dead.symm.trans (l.alive h ⟨m, found⟩ alive)
  · obtain ⟨m', found', reaped⟩ := l.reaped h found gone
    exact ⟨m', found', reaped, ((h.leads l).forest.reaped n m' found' reaped).2.2⟩
  · exact fun k m' child parent => l.barren h found gone child parent

/-- **The forest of nodes.** -/
theorem task_forest (h : Reachable s d) :
    Forest s ∧ Walks s ∧ (∀ s' d', Transition s d s' d' → Tends s s') ∧
      ∀ s' d', Leads s d s' d' → Endures s s' :=
  ⟨h.forest, h.walks, fun _ _ t => t.tends h, fun _ _ l => l.endures h⟩

/-! ### A parent that waits -/

/-- The body of a root task that spawns a child, which gives way once, and does not wait for it. -/
def leavingBody : List Line :=
  [.mk ⟨"spawn", none, some "child", true⟩
    (.spawn none false [.mk ⟨"yield", none, none, true⟩ (.yieldTimes 1)])]

/-- The main thread is blocked on that root task, and the machine has made a number of steps. -/
def leaving (steps : Nat) : State :=
  State.run steps (((({} : State).build 0 none none).1.launchRoot ⟨0⟩ leavingBody).start ⟨0⟩
    .blocking)

theorem reachable_leaving (steps : Nat) : Reachable (leaving steps) (.blocked ⟨0⟩ ⟨0⟩) :=
  reachable_blocked leavingBody steps

/-- The body of the parent is over and it waits for its only child, which is about to leave: when
it has, the parent is woken. -/
theorem task_forest_leaving : Reachable (leaving 24) (.blocked ⟨0⟩ ⟨0⟩) ∧
    ((leaving 24).children ⟨0⟩).count ⟨1⟩ = 1 ∧ (leaving 24).step.children ⟨0⟩ = [] ∧
      ((leaving 24).step.step.phase ⟨0⟩ = .ready ∨
        (leaving 24).step.step.phase ⟨0⟩ = .notified) := by
  obtain ⟨forest, -, tends, -⟩ := task_forest (reachable_leaving 24)
  have alone : (leaving 24).step.children ⟨0⟩ = [] := List.isEmpty_iff.1 (by decide)
  refine ⟨reachable_leaving 24, ?_, alone, ?_⟩
  · exact forest.listed ⟨1⟩ _ ⟨0⟩ rfl rfl (by decide)
  · exact ((tends _ _ .step).wakes ⟨0⟩ _ rfl rfl alone).2

end Nursery
