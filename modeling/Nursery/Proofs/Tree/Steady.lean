import Nursery.Proofs.Invariant.Sound

/-!
# Where the tree only grows

A node leaves the tree by one item of the agenda only.  Whatever else is done, no node leaves the
list of its parent, none is reaped, and a new one is attached.

* `Steady` : the tree only grows.
* `Effect.steady`, `Changes.steady`, `Work.steady`, `Move.steady` : which transitions leave it so.
* `Transition.steady` : all of them, but for the item by which a node leaves its parent.
-/

namespace Nursery

/-- The tree only grows: no node leaves a list, none is reaped, and a new one is attached. -/
structure Steady (s s' : State) : Prop where
  /-- A node goes on listing its children, and is not reaped. -/
  kept : ∀ n m, s.nodes.get? n = some m →
    ∃ m', s'.nodes.get? n = some m' ∧ m'.reaped = m.reaped ∧ ∀ c ∈ m.children, c ∈ m'.children
  /-- A new node was not reaped. -/
  born : ∀ n m, s.nodes.get? n = none → s'.nodes.get? n = some m → m.reaped = false

variable {s s' s'' : State} {d d' : Desk} {c : Context} {hand hand' : List Resource} {a : Action}

namespace Steady

theorem of_nodes (same : s'.nodes = s.nodes) : Steady s s' where
  kept n m found := ⟨m, by rw [same]; exact found, rfl, fun _ => id⟩
  born n m missing found := by
    rw [same, missing] at found
    cases found

theorem refl (s : State) : Steady s s :=
  of_nodes rfl

theorem trans (h : Steady s s') (h' : Steady s' s'') : Steady s s'' where
  kept n m found := by
    obtain ⟨m', found', reaped, lists⟩ := h.kept n m found
    obtain ⟨m'', found'', reaped', lists'⟩ := h'.kept n m' found'
    exact ⟨m'', found'', reaped'.trans reaped, fun c hc => lists' c (lists c hc)⟩
  born n m'' missing found'' := by
    cases found : s'.nodes.get? n with
    | none => exact h'.born n m'' found found''
    | some m' =>
      obtain ⟨m, hm, reaped, -⟩ := h'.kept n m' found
      cases found''.symm.trans hm
      rw [reaped]
      exact h.born n m' missing found

theorem modifyNode {n : TaskId} {f : Node → Node} (reaped : ∀ m, (f m).reaped = m.reaped)
    (children : ∀ m, (f m).children = m.children) : Steady s (s.modifyNode n f) where
  kept k m found := by
    refine ⟨_, Store.get?_modify_eq_some.2 ⟨m, found, rfl⟩, ?_⟩
    split
    · exact ⟨reaped m, fun c hc => by rwa [children]⟩
    · exact ⟨rfl, fun _ => id⟩
  born k m missing found := by
    obtain ⟨old, known, -⟩ := Store.get?_modify_eq_some.1 found
    rw [missing] at known
    cases known

theorem enqueue (r : RuntimeId) (p : Priority) (e : Entry) : Steady s (s.enqueue r p e) :=
  of_nodes (State.nodes_enqueue ..)

theorem post (x : ActorId) (home : RuntimeId) (message : Message) :
    Steady s (s.post x home message) := by
  obtain ⟨actors, runtimes, agenda, eq⟩ := s.post_eq x home message
  exact of_nodes (by rw [eq])

theorem grow (numbered : s.nodes.Numbered TaskId.index) {kind : NodeKind} {priority : Priority}
    {parent : Option TaskId} {phase : Phase} {nodes : Store TaskId Node}
    (grown : Grown s kind priority parent phase nodes) (nodes' : s'.nodes = nodes) :
    Steady s s' where
  kept n m found := by
    subst nodes'
    exact ⟨_, grown.kept numbered found, rfl, fun c hc => List.mem_append_left _ hc⟩
  born n m missing found := by
    rw [nodes'] at found
    rcases grown.origin numbered found with ⟨b, -, rfl⟩ | ⟨m₀, old, -⟩
    · rfl
    · cases missing.symm.trans old

theorem change (formed : Formed s) (hc : Change c s hand s' hand') : Steady s s' := by
  cases hc with
  | @spawn home parent priority body =>
    obtain ⟨nodes, trace, grown, eq⟩ :=
      State.launch_addNode_eq formed.nodes priority parent home body false
    exact grow formed.nodes grown (by simp [eq])
  | @group home =>
    obtain ⟨nodes, trace, priority, grown, eq⟩ := State.makeGroup_eq formed.nodes c home
    exact grow formed.nodes grown (by simp [eq])
  | @add g group priority body =>
    obtain ⟨nodes, trace, p, grown, eq⟩ :=
      State.addChild_eq formed.nodes formed.fresh_task g group priority body
    exact grow formed.nodes grown (by simp [eq])
  | call =>
    refine .trans ?_ (post _ _ _)
    exact of_nodes rfl
  | send => exact post _ _ _
  | _ => exact of_nodes rfl

end Steady

/-- An item of the agenda leaves the tree as it is, unless a node leaves its parent by it. -/
theorem Effect.steady (e : Effect s a s') (other : ∀ n, a ≠ .detach n) : Steady s s' := by
  cases e with
  | spent => exact .refl s
  | orphan | reap | reapLast => exact absurd rfl (other _)
  | cancel | finish | notify =>
    exact .trans (.modifyNode (fun _ => by rfl) fun _ => by rfl) (.of_nodes rfl)
  | resume => exact .trans (.modifyNode (fun _ => by rfl) fun _ => by rfl) (.enqueue _ _ _)
  | _ => exact .of_nodes rfl

/-- A line only adds to the tree. -/
theorem Changes.steady (formed : Formed s) (hc : Changes c s hand s' hand') : Steady s s' :=
  (hc.invariant (I := fun x _ => Formed x ∧ Steady s x)
    (fun hc h => ⟨h.1.change hc, h.2.trans (.change h.1 hc)⟩) ⟨formed, .refl s⟩).2

/-- What a worker does only adds to the tree. -/
theorem Work.steady (formed : Formed s) {home : RuntimeId} (w : Work s home s') : Steady s s' := by
  have phased : ∀ (t : TaskId) (f : Node → Bool) (p : Phase),
      Steady s (s.modifyNode t fun m => { m with joining := f m, phase := p }) :=
    fun t f p => .modifyNode (fun _ => rfl) fun _ => rfl
  cases w with
  | next _ _ changes | suspend _ _ changes | pause _ _ _ changes | ends _ _ changes
  | handle _ changes | hold _ _ changes | handled _ _ changes =>
    exact (changes.steady formed).trans (.of_nodes rfl)
  | @rest t _ joining => exact (phased t joining .suspended).trans (.of_nodes rfl)
  | @again t _ _ joining =>
    refine .trans ?_ (.enqueue _ _ _)
    exact (phased t joining .ready).trans (.of_nodes rfl)
  | @forgotten t _ joining => exact (phased t joining .ready).trans (.of_nodes rfl)
  | @complete t _ p => exact (phased t (fun _ => false) p).trans (.of_nodes rfl)
  | @begin t => exact (phased t Node.joining .running).trans (.of_nodes rfl)
  | drainAgain =>
    refine .trans ?_ (.enqueue _ _ _)
    exact .of_nodes rfl
  | markerAgain => exact .of_nodes (State.nodes_enqueue ..)
  | _ => exact .of_nodes rfl

/-- A move of the main thread only adds to the tree. -/
theorem Move.steady (formed : Formed s) (idle : s.agenda = []) (m : Move s d s' d') :
    Steady s s' := by
  cases m with
  | build place batch stem =>
    rcases s.build_cases place batch stem with same | ⟨-, settings, built⟩
    · exact .of_nodes (by rw [same])
    · exact .of_nodes (by rw [built]; rfl)
  | start | block | join => exact .of_nodes (State.nodes_start ..)
  | startRounds =>
    exact .of_nodes (by rw [State.startRounds, State.nodes_start, State.nodes_enqueue])
  | @launchRoot _ r _ body =>
    obtain ⟨nodes, trace, grown, eq⟩ :=
      State.launch_addNode_eq formed.nodes .normal none r body true
    exact .grow formed.nodes grown (by simp [State.launchRoot, eq])
  | leaveRoot | close => exact .of_nodes rfl
  | line plain => exact (State.plain?_fits idle plain).steady formed
  | @shelve f => exact (State.shelve_changes (c := { who := .main }) f s []).steady formed

/-- **The tree only grows, but for the item by which a node leaves its parent.** -/
theorem Transition.steady (h : Sound s d) (t : Transition s d s' d') :
    Steady s s' ∨ ∃ s₀ n, s = s₀.doFirst [.detach n] ∧ Effect s₀ (.detach n) s' ∧ s' = s.step := by
  cases t with
  | step =>
    have next := State.step_cases h.wakeful.waitsOnOwn
    generalize same : s.step = s' at next
    cases next with
    | @item a s₀ _ first e =>
      by_cases leaves : ∃ n, a = .detach n
      · obtain ⟨n, rfl⟩ := leaves
        exact .inr ⟨s₀, n, first, e, rfl⟩
      · subst first
        have popped : Steady (s₀.doFirst [a]) s₀ := .of_nodes rfl
        exact .inl (popped.trans (e.steady fun n eq => leaves ⟨n, eq⟩))
    | work _ _ w => exact .inl (w.steady h.formed)
    | rest => exact .inl (.refl s)
  | stray => exact .inl (.of_nodes rfl)
  | move rests m => exact .inl (m.steady h.formed (State.idle_of_resting rests))

end Nursery
