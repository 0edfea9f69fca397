import Nursery.Proofs.Invariant.Sound

/-!
# Who is not flagged

A node is flagged by an item of the agenda that is there to do so, or when it is made, after its
parent.  Nothing else flags a node or moves one: a node may leave its parent and a new one may
come, but no node that was there gets another parent.

* `Born` : a new node takes after its parent.
* `Spares` : a transition flags no node that was there.
* `Effect.spares`, `Changes.spares`, `Work.spares`, `Move.spares` : which transitions do not.
-/

namespace Nursery

/-- A node is known. -/
def State.Knows (s : State) (n : TaskId) : Prop :=
  ∃ node, s.nodes.get? n = some node

/-- A node as it is made: below an older one that is known, and flagged if that is. -/
structure Born (s : State) (n : TaskId) (node : Node) : Prop where
  /-- The flag is that of the parent. -/
  inherits : node.flagged = node.parent.any s.flagged
  /-- The parent is known, and older. -/
  below : ∀ p, node.parent = some p → p.index < n.index ∧ s.Knows p

/-- No node that was there is flagged or moves, and a new one takes after its parent. -/
structure Spares (s s' : State) : Prop where
  /-- A node keeps its flag and its parent. -/
  kept : ∀ n node, s.nodes.get? n = some node →
    ∃ node', s'.nodes.get? n = some node' ∧ node'.flagged = node.flagged ∧
      node'.parent = node.parent
  /-- Only a new node comes to be listed. -/
  listed : ∀ p n, n ∈ s'.children p → n ∈ s.children p ∨ s.nodes.get? n = none
  /-- A new node takes after its parent. -/
  born : ∀ n node, s.nodes.get? n = none → s'.nodes.get? n = some node → Born s' n node

variable {s s' s'' : State} {c : Context} {hand hand' : List Resource} {a : Action}

namespace Spares

theorem flagged (h : Spares s s') {n : TaskId} {node : Node} (found : s.nodes.get? n = some node) :
    s'.flagged n = s.flagged n := by
  obtain ⟨node', found', flag, -⟩ := h.kept n node found
  simp [State.flagged, found, found', flag]

theorem of_nodes (same : s'.nodes = s.nodes) : Spares s s' where
  kept n node found := ⟨node, by rw [same]; exact found, rfl, rfl⟩
  listed p n hn := by
    rw [State.children, same] at hn
    exact .inl hn
  born n node missing found := by
    rw [same, missing] at found
    cases found

theorem refl (s : State) : Spares s s :=
  of_nodes rfl

theorem trans (h : Spares s s') (h' : Spares s' s'') : Spares s s'' where
  kept n node found := by
    obtain ⟨node', found', flag, parent⟩ := h.kept n node found
    obtain ⟨node'', found'', flag', parent'⟩ := h'.kept n node' found'
    exact ⟨node'', found'', flag'.trans flag, parent'.trans parent⟩
  listed p n hn := by
    rcases h'.listed p n hn with old | new
    · exact h.listed p n old
    · cases found : s.nodes.get? n with
      | none => exact .inr rfl
      | some node =>
        obtain ⟨node', found', -⟩ := h.kept n node found
        rw [new] at found'
        cases found'
  born n node'' missing found'' := by
    cases found : s'.nodes.get? n with
    | none => exact h'.born n node'' found found''
    | some node' =>
      have born := h.born n node' missing found
      obtain ⟨m, hm, flag, parent⟩ := h'.kept n node' found
      cases found''.symm.trans hm
      -- the parent is known already, and keeps its flag
      refine ⟨?_, fun p hp => ?_⟩
      · rw [flag, parent, born.inherits]
        cases hp : node'.parent with
        | none => rfl
        | some p =>
          obtain ⟨-, above, known⟩ := born.below p hp
          exact (h'.flagged known).symm
      · obtain ⟨older, above, known⟩ := born.below p (parent ▸ hp)
        obtain ⟨above', known', -⟩ := h'.kept p above known
        exact ⟨older, above', known'⟩

/-- A change to one node that sees neither its flag nor its parent, and by which it lists nobody
else. -/
theorem modifyNode {n : TaskId} {f : Node → Node} (flag : ∀ m, (f m).flagged = m.flagged)
    (parent : ∀ m, (f m).parent = m.parent)
    (fewer : ∀ m, s.nodes.get? n = some m → ∀ k ∈ (f m).children, k ∈ m.children) :
    Spares s (s.modifyNode n f) where
  kept m node found := by
    refine ⟨_, Store.get?_modify_eq_some.2 ⟨node, found, rfl⟩, ?_⟩
    split
    · exact ⟨flag node, parent node⟩
    · exact ⟨rfl, rfl⟩
  listed p k hk := by
    left
    cases found : (s.modifyNode n f).nodes.get? p with
    | none => simp [State.children, found] at hk
    | some m' =>
      obtain ⟨m, known, rfl⟩ := Store.get?_modify_eq_some.1 found
      rw [State.children_of_get? found] at hk
      rw [State.children_of_get? known]
      split at hk
      · rename_i same
        subst same
        exact fewer m known k hk
      · exact hk
  born m node missing found := by
    obtain ⟨old, known, -⟩ := Store.get?_modify_eq_some.1 found
    rw [missing] at known
    cases known

theorem modifyNode_same {n : TaskId} {f : Node → Node} (flag : ∀ m, (f m).flagged = m.flagged)
    (parent : ∀ m, (f m).parent = m.parent) (children : ∀ m, (f m).children = m.children) :
    Spares s (s.modifyNode n f) :=
  modifyNode flag parent fun m _ k hk => by rwa [children] at hk

theorem enqueue (r : RuntimeId) (p : Priority) (e : Entry) : Spares s (s.enqueue r p e) :=
  of_nodes (State.nodes_enqueue ..)

theorem grow (numbered : s.nodes.Numbered TaskId.index) {kind : NodeKind} {priority : Priority}
    {parent : Option TaskId} {phase : Phase} {nodes : Store TaskId Node}
    (grown : Grown s kind priority parent phase nodes) (nodes' : s'.nodes = nodes)
    (known : ∀ p, parent = some p → s.Knows p) : Spares s s' := by
  subst nodes'
  have kept : ∀ n node, s.nodes.get? n = some node → ∃ node', s'.nodes.get? n = some node' ∧
      node'.flagged = node.flagged ∧ node'.parent = node.parent :=
    fun n node found => ⟨_, grown.kept numbered found, rfl, rfl⟩
  refine ⟨kept, fun p n hn => ?_, fun n node missing found => ?_⟩
  · rcases (grown.mem_children numbered rfl).1 hn with old | ⟨rfl, -⟩
    · exact .inl old
    · exact .inr (State.fresh_nextNode numbered)
  · rcases grown.origin numbered found with ⟨b, rfl, rfl⟩ | ⟨m₀, old, -⟩
    · refine ⟨?_, fun p hp => ?_⟩
      · rw [grown.inherits _ found]
        cases parent with
        | none => rfl
        | some p =>
          obtain ⟨above, there⟩ := known p rfl
          obtain ⟨above', there', flag', -⟩ := kept p above there
          simp [State.flagged, there, there', flag']
      · obtain ⟨above, there⟩ := known p hp
        obtain ⟨above', there', -⟩ := kept p above there
        exact ⟨numbered p above there, above', there'⟩
    · cases missing.symm.trans old

theorem post (x : ActorId) (home : RuntimeId) (message : Message) :
    Spares s (s.post x home message) := by
  obtain ⟨actors, runtimes, agenda, eq⟩ := s.post_eq x home message
  exact of_nodes (by rw [eq])

end Spares

/-! ### Items of the agenda -/

/-- An item of the agenda flags nobody, unless it is there to do so. -/
theorem Effect.spares (e : Effect s a s') (other : ∀ n, a ≠ .cancel n) : Spares s s' := by
  cases e with
  | spent => exact .refl s
  | cancel => exact absurd rfl (other _)
  | finish | orphan | notify =>
    refine .trans (.modifyNode_same (fun _ => ?_) (fun _ => ?_) fun _ => ?_) (.of_nodes rfl) <;> rfl
  | resume =>
    refine .trans ?_ (.enqueue _ _ _)
    exact Spares.modifyNode_same (fun _ => by rfl) (fun _ => by rfl) fun _ => by rfl
  | @reap n p node above _ _ _ listed =>
    have left : Spares s (s.modifyNode n fun m => { m with reaped := true }) :=
      .modifyNode_same (fun _ => rfl) (fun _ => rfl) fun _ => rfl
    have gone := left.trans (.modifyNode (n := p)
      (f := fun m => { m with children := above.children.filter (· ≠ n) }) (fun _ => rfl)
      (fun _ => rfl) fun m found k hk => by
        cases listed.symm.trans found
        exact (List.mem_filter.1 hk).1)
    exact gone.trans (.of_nodes rfl)
  | @reapLast n p =>
    have left : Spares s (s.modifyNode n fun m => { m with reaped := true }) :=
      .modifyNode_same (fun _ => rfl) (fun _ => rfl) fun _ => rfl
    have gone := left.trans (.modifyNode (n := p)
      (f := fun m => { m with children := [], joining := false }) (fun _ => rfl)
      (fun _ => rfl) fun m _ k hk => by cases hk)
    exact gone.trans (.of_nodes rfl)
  | _ => exact .of_nodes rfl

/-! ### Lines -/

namespace Spares

theorem change (formed : Formed s) (work : Kinship.AtWork c s) (hc : Change c s hand s' hand') :
    Spares s s' := by
  have here : ∀ p, c.task = some p → s.Knows p := by
    intro p me
    obtain ⟨node, found, -⟩ := work p me
    exact ⟨node, found⟩
  cases hc with
  | @spawn home parent priority body idle built up =>
    obtain ⟨nodes, trace, grown, eq⟩ :=
      State.launch_addNode_eq formed.nodes priority parent home body false
    refine .grow formed.nodes grown (by simp [eq]) fun p hp => here p ?_
    rcases up with none | same
    · rw [none] at hp
      cases hp
    · exact same ▸ hp
  | @group home =>
    obtain ⟨nodes, trace, priority, grown, eq⟩ := State.makeGroup_eq formed.nodes c home
    exact .grow formed.nodes grown (by simp [eq]) here
  | @add g group priority body idle mine found =>
    obtain ⟨nodes, trace, p, grown, eq⟩ :=
      State.addChild_eq formed.nodes formed.fresh_task g group priority body
    refine .grow formed.nodes grown (by simp [eq]) fun q hq => ?_
    cases hq
    obtain ⟨node, known, -⟩ := Option.map_eq_some_iff.1 (formed.groups g group found)
    exact ⟨node, known⟩
  | call =>
    refine .trans ?_ (.post _ _ _)
    exact .of_nodes rfl
  | send => exact .post _ _ _
  | _ => exact .of_nodes rfl

end Spares

/-- A line flags nobody by itself. -/
theorem Changes.spares (formed : Formed s) (work : Kinship.AtWork c s)
    (hc : Changes c s hand s' hand') : Spares s s' :=
  (hc.invariant (I := fun x _ => (Formed x ∧ Kinship.AtWork c x) ∧ Spares s x)
    (fun hc h => ⟨⟨h.1.1.change hc, Kinship.atWork_keeps h.1.2 (.change h.1.1 hc)⟩,
      h.2.trans (.change h.1.1 h.1.2 hc)⟩) ⟨⟨formed, work⟩, .refl s⟩).2

/-! ### Work and moves -/

/-- What a worker does flags nobody by itself. -/
theorem Work.spares (formed : Formed s) (dispatch : Dispatch s) {home : RuntimeId}
    (w : Work s home s') : Spares s s' := by
  have body : ∀ {t : TaskId} {task : Task} {f : Fiber} {s₁ : State} {hand : List Resource},
      s.Runs home t task f → Changes ⟨.task t, some home⟩ s f.resources s₁ hand →
        Spares s s₁ :=
    fun runs hc => hc.spares formed (Kinship.atWork_of_runs formed dispatch runs)
  have handler : ∀ {x : ActorId} {s₁ : State} {hand hand' : List Resource},
      Changes ⟨.actor x, some home⟩ s hand s₁ hand' → Spares s s₁ :=
    fun hc => hc.spares formed fun u me => by cases me
  have phased : ∀ (x : State) (t : TaskId) (f : Node → Bool) (p : Phase),
      Spares x (x.modifyNode t fun m => { m with joining := f m, phase := p }) :=
    fun x t f p => .modifyNode_same (fun _ => rfl) (fun _ => rfl) fun _ => rfl
  cases w with
  | next runs _ changes | suspend runs _ changes | pause later runs _ changes
  | ends told runs changes => exact (body runs changes).trans (.of_nodes rfl)
  | handle during changes | hold later during changes | handled result during changes =>
    exact (handler changes).trans (.of_nodes rfl)
  | @rest t _ joining => exact (phased s t joining .suspended).trans (.of_nodes rfl)
  | @again t _ _ joining =>
    refine .trans ?_ (.enqueue _ _ _)
    exact (phased s t joining .ready).trans (.of_nodes rfl)
  | @forgotten t _ joining => exact (phased s t joining .ready).trans (.of_nodes rfl)
  | @complete t _ p => exact (phased s t (fun _ => false) p).trans (.of_nodes rfl)
  | @begin t => exact (phased s t Node.joining .running).trans (.of_nodes rfl)
  | drainAgain =>
    refine .trans ?_ (.enqueue _ _ _)
    exact .of_nodes rfl
  | markerAgain => exact .of_nodes (State.nodes_enqueue ..)
  | _ => exact .of_nodes rfl

/-- A move of the main thread flags nobody by itself. -/
theorem Move.spares (formed : Formed s) (idle : s.agenda = []) {d d' : Desk} (m : Move s d s' d') :
    Spares s s' := by
  cases m with
  | build place batch stem =>
    rcases s.build_cases place batch stem with same | ⟨-, settings, built⟩
    · exact .of_nodes (by rw [same])
    · exact .of_nodes (by rw [built]; rfl)
  | start | block | join => exact .of_nodes (State.nodes_start ..)
  | startRounds =>
    exact .of_nodes (by rw [State.startRounds, State.nodes_start, State.nodes_enqueue])
  | @launchRoot _ r _ body =>
    obtain ⟨nodes, trace, grown, eq⟩ :=
      State.launch_addNode_eq formed.nodes .normal none r body true
    exact .grow formed.nodes grown (by simp [State.launchRoot, eq]) fun p hp => by cases hp
  | leaveRoot | close => exact .of_nodes rfl
  | line plain => exact (State.plain?_fits idle plain).spares formed fun u me => by cases me
  | @shelve f =>
    exact (State.shelve_changes (c := { who := .main }) f s []).spares formed
      fun u me => by cases me

end Nursery
