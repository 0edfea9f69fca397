import Nursery.Machine.Group
import Nursery.Proofs.Store

/-!
# Nodes, read off and changed

What the machine reads off a node is its phase, its priority and its children.  A change to one
node leaves what it does not touch alone, and a new node is listed by its parent and by no other.

* `State.phase_modifyNode_same` and its like : a change that a field does not see.
* `Grown` : the nodes after a new one was made.
* `Grown.kept`, `Grown.origin` : what it leaves of the old ones, and where a node comes from.
-/

namespace Nursery

namespace State

variable {s : State} {n m : TaskId} {f : Node → Node}

/-! ### Changes to one node -/

theorem phase_modifyNode_same (same : ∀ node, (f node).phase = node.phase) :
    (s.modifyNode n f).phase m = s.phase m :=
  congrArg (Option.getD · _) (Store.map_get?_modify_same same)

theorem priority_modifyNode_same (same : ∀ node, (f node).priority = node.priority) :
    (s.modifyNode n f).priority m = s.priority m :=
  congrArg (Option.getD · _) (Store.map_get?_modify_same same)

theorem children_modifyNode_same (same : ∀ node, (f node).children = node.children) :
    (s.modifyNode n f).children m = s.children m :=
  congrArg (Option.getD · _) (Store.map_get?_modify_same same)

theorem phase_modifyNode_of_ne (h : n ≠ m) : (s.modifyNode n f).phase m = s.phase m := by
  simp only [phase, modifyNode, Store.get?_modify_of_ne h]

theorem phase_modifyNode_self {node : Node} (h : s.nodes.get? n = some node) :
    (s.modifyNode n f).phase n = (f node).phase := by
  simp [phase, modifyNode, Store.get?_modify_self, h]

theorem phase_modifyNode_of_none (h : s.nodes.get? n = none) :
    (s.modifyNode n f).phase m = s.phase m := by
  simp only [modifyNode, Store.modify_of_none h]

theorem phase_of_get? {node : Node} (h : s.nodes.get? n = some node) : s.phase n = node.phase := by
  simp [phase, h]

theorem priority_of_get? {node : Node} (h : s.nodes.get? n = some node) :
    s.priority n = node.priority := by
  simp [priority, h]

theorem children_of_get? {node : Node} (h : s.nodes.get? n = some node) :
    s.children n = node.children := by
  simp [children, h]

theorem get?_of_phase {p : Phase} (h : s.phase n = p) (hp : p ≠ .suspended) :
    ∃ node, s.nodes.get? n = some node ∧ node.phase = p := by
  cases hn : s.nodes.get? n with
  | none => simp [phase, hn, hp.symm] at h
  | some node => exact ⟨node, rfl, (phase_of_get? hn).symm.trans h⟩

theorem get?_of_isTerminal (h : (s.phase n).isTerminal = true) :
    ∃ node, s.nodes.get? n = some node ∧ node.phase = s.phase n := by
  refine get?_of_phase rfl fun up => ?_
  rw [up] at h
  cases h

end State

/-! ### A new node -/

/-- The nodes after a new one was made below a parent or as a root: the parent lists it, and
nothing else has changed. -/
structure Grown (s : State) (kind : NodeKind) (priority : Priority) (parent : Option TaskId)
    (phase : Phase) (nodes : Store TaskId Node) : Prop where
  /-- The new node. -/
  new : ∃ b, nodes.get? s.nextNode =
    some { kind := kind, priority := priority, parent := parent, flagged := b, phase := phase }
  /-- The other nodes. -/
  old : ∀ n, n ≠ s.nextNode → nodes.get? n = (s.nodes.get? n).map fun m =>
    if parent = some n then { m with children := m.children ++ [s.nextNode] } else m
  /-- The next node is a new one again. -/
  numbered : nodes.Numbered TaskId.index
  /-- The new node is flagged if its parent is. -/
  inherits : ∀ m, nodes.get? s.nextNode = some m → m.flagged = parent.any s.flagged

/-- The new node may change its phase. -/
theorem Grown.setPhase {s : State} {kind : NodeKind} {priority : Priority}
    {parent : Option TaskId} {p : Phase} {nodes : Store TaskId Node}
    (h : Grown s kind priority parent p nodes) (q : Phase) :
    Grown s kind priority parent q
      (nodes.modify s.nextNode fun m => { m with phase := q }) where
  new := by
    obtain ⟨b, hb⟩ := h.new
    exact ⟨b, by simp [Store.get?_modify_self, hb]⟩
  old n hn := by rw [Store.get?_modify_of_ne (Ne.symm hn), h.old n hn]
  numbered := h.numbered.modify _ _
  inherits m found := by
    obtain ⟨m', found', rfl⟩ := Store.get?_modify_eq_some.1 found
    rw [if_pos rfl]
    exact h.inherits m' found'

/-- Of another node only the children may change. -/
theorem Grown.field {s : State} {kind : NodeKind} {priority : Priority} {parent : Option TaskId}
    {p : Phase} {nodes : Store TaskId Node} {α : Type} {g : Node → α}
    (h : Grown s kind priority parent p nodes)
    (same : ∀ m cs, g { m with children := cs } = g m) {n : TaskId} (hn : n ≠ s.nextNode) :
    (nodes.get? n).map g = (s.nodes.get? n).map g := by
  rw [h.old n hn, Option.map_map]
  congr 1
  funext m
  simp only [Function.comp_apply]
  split
  · exact same m _
  · rfl

namespace State

variable {s : State}

theorem enqueue_eq (s : State) (r : RuntimeId) (p : Priority) (e : Entry) :
    ∃ runtimes agenda, s.enqueue r p e = { s with runtimes := runtimes, agenda := agenda } := by
  unfold enqueue
  split
  · exact ⟨_, _, rfl⟩
  · exact ⟨_, s.agenda, rfl⟩

@[simp]
theorem nodes_enqueue (s : State) (r : RuntimeId) (p : Priority) (e : Entry) :
    (s.enqueue r p e).nodes = s.nodes := by
  unfold enqueue
  split <;> rfl

@[simp]
theorem tasks_enqueue (s : State) (r : RuntimeId) (p : Priority) (e : Entry) :
    (s.enqueue r p e).tasks = s.tasks := by
  unfold enqueue
  split <;> rfl

@[simp]
theorem phase_enqueue (s : State) (r : RuntimeId) (p : Priority) (e : Entry) (t : TaskId) :
    (s.enqueue r p e).phase t = s.phase t := by
  rw [phase, phase, nodes_enqueue]

theorem agenda_enqueue (s : State) (r : RuntimeId) (p : Priority) (e : Entry) :
    (s.enqueue r p e).agenda = [.discard e] ++ s.agenda ∨ (s.enqueue r p e).agenda = s.agenda := by
  unfold enqueue
  split
  · exact .inl rfl
  · exact .inr rfl

theorem mem_agenda_enqueue {r : RuntimeId} {p : Priority} {e : Entry} {a : Action}
    (h : a ∈ (s.enqueue r p e).agenda) : a = .discard e ∨ a ∈ s.agenda := by
  unfold enqueue at h
  split at h
  · exact (List.mem_append.1 h).imp List.mem_singleton.1 id
  · exact .inr h

theorem subset_agenda_enqueue (s : State) (r : RuntimeId) (p : Priority) (e : Entry) :
    s.agenda ⊆ (s.enqueue r p e).agenda := by
  unfold enqueue
  split
  · exact List.subset_append_right _ _
  · exact fun _ => id

theorem fresh_nextNode (h : s.nodes.Numbered TaskId.index) : s.nodes.get? s.nextNode = none :=
  h.fresh rfl

theorem addNode_eq (numbered : s.nodes.Numbered TaskId.index) (kind : NodeKind)
    (priority : Priority) (parent : Option TaskId) :
    ∃ nodes trace, Grown s kind priority parent .suspended nodes ∧
      s.addNode kind priority parent = { s with nodes := nodes, trace := trace } := by
  unfold addNode
  cases parent with
  | none =>
    refine ⟨_, s.trace, ⟨⟨false, Store.get?_set_self⟩, fun n hn => ?_, numbered.set rfl _,
      fun m found => ?_⟩, rfl⟩
    · rw [Store.get?_set_of_ne (Ne.symm hn)]
      simp
    · cases Store.get?_set_self.symm.trans found
      rfl
  | some p =>
    have listed := numbered.modify p fun m => { m with children := m.children ++ [s.nextNode] }
    have size : s.nextNode.index =
        (s.nodes.modify p fun m => { m with children := m.children ++ [s.nextNode] }).size :=
      Store.size_modify.symm
    have old : ∀ node n, n ≠ s.nextNode →
        ((s.nodes.modify p fun m => { m with children := m.children ++ [s.nextNode] }).set
          s.nextNode node).get? n = (s.nodes.get? n).map fun m =>
            if some p = some n then { m with children := m.children ++ [s.nextNode] } else m := by
      intro node n hn
      rw [Store.get?_set_of_ne (Ne.symm hn), Store.get?_modify]
      by_cases hp : p = n
      · simp [hp]
      · simp [hp]
    dsimp only
    split
    · rename_i above
      refine ⟨_, _, ⟨⟨true, Store.get?_set_self⟩, old _, listed.set size _, fun m found => ?_⟩, rfl⟩
      cases Store.get?_set_self.symm.trans found
      exact above.symm
    · rename_i above
      refine ⟨_, s.trace, ⟨⟨false, Store.get?_set_self⟩, old _, listed.set size _,
        fun m found => ?_⟩, rfl⟩
      cases Store.get?_set_self.symm.trans found
      exact (Bool.eq_false_iff.2 above).symm

theorem launch_addNode_eq (numbered : s.nodes.Numbered TaskId.index) (priority : Priority)
    (parent : Option TaskId) (home : RuntimeId) (body : List Line) (blocking : Bool) :
    ∃ nodes trace, Grown s .task priority parent .ready nodes ∧
      (s.addNode .task priority parent).launch s.nextNode home body blocking =
        { s with
          nodes := nodes, trace := trace
          tasks := s.tasks.set s.nextNode
            { fiber := some { code := body }, home := home, blocking := blocking }
          }.enqueue home priority (.task s.nextNode) := by
  obtain ⟨nodes, trace, grown, eq⟩ := addNode_eq numbered .task priority parent
  obtain ⟨b, new⟩ := (grown.setPhase .ready).new
  have band : ∀ tasks, ({ s with
      nodes := nodes.modify s.nextNode fun m => { m with phase := .ready }
      trace := trace, tasks := tasks } : State).priority s.nextNode = priority :=
    fun _ => by simp [State.priority, new]
  refine ⟨_, trace.push (.logged (.spawned s.nextNode priority)), grown.setPhase .ready, ?_⟩
  rw [eq]
  simp only [launch, setPhase, modifyNode, log, tell, band]

theorem makeGroup_eq (numbered : s.nodes.Numbered TaskId.index) (c : Context) (home : RuntimeId) :
    ∃ nodes trace priority, Grown s .group priority c.task .suspended nodes ∧
      s.makeGroup c home = { s with
        nodes := nodes, trace := trace
        groups := s.groups.set s.nextNode { home := home }
        signals := s.signals.set s.nextNode {} } := by
  obtain ⟨nodes, trace, grown, eq⟩ :=
    addNode_eq numbered .group ((c.task.map s.priority).getD .normal) c.task
  refine ⟨nodes, trace, _, grown, ?_⟩
  simp only [makeGroup, eq]

theorem addChild_eq (numbered : s.nodes.Numbered TaskId.index)
    (fresh : s.tasks.get? s.nextNode = none) (g : TaskId) (group : Group)
    (priority : Option Priority) (body : List Line) :
    ∃ nodes trace p, Grown s .task p (some g) .ready nodes ∧
      s.addChild g group priority body =
        { s with
          nodes := nodes, trace := trace
          tasks := s.tasks.set s.nextNode
            { fiber := some { code := body }, home := group.home,
              waiters := [.member g group.children.length s.nextNode] }
          groups := s.groups.modify g fun m =>
            { m with children := m.children ++ [s.nextNode], remaining := m.remaining + 1 }
          }.enqueue group.home p (.task s.nextNode) := by
  obtain ⟨nodes, trace, grown, eq⟩ := launch_addNode_eq numbered
    (priority.getD (s.priority g)) (some g) group.home body false
  refine ⟨nodes, trace, _, grown, ?_⟩
  simp only [addChild, eq]
  -- whether the queue takes the entry does not depend on the task or the group
  cases shut : ((s.runtimes.get? group.home).map Runtime.closed).getD true with
  | true =>
    simp only [enqueue, closed, shut, if_true, modifyGroup, modifyTask, doFirst,
      Store.modify_set_fresh fresh, List.nil_append]
  | false =>
    simp only [enqueue, closed, shut, Bool.false_eq_true, if_false, modifyGroup, modifyTask,
      modifyRuntime, Store.modify_set_fresh fresh, List.nil_append]

end State

namespace Grown

variable {s : State} {kind : NodeKind} {priority : Priority} {parent : Option TaskId} {p : Phase}
  {nodes : Store TaskId Node} {n : TaskId} {m : Node}

/-- An old node stays as it is, but that it lists the new one if that is its child. -/
theorem kept (h : Grown s kind priority parent p nodes) (numbered : s.nodes.Numbered TaskId.index)
    (found : s.nodes.get? n = some m) : nodes.get? n = some
      { m with children := m.children ++ if parent = some n then [s.nextNode] else [] } := by
  have old : n ≠ s.nextNode := by
    rintro rfl
    cases (State.fresh_nextNode numbered).symm.trans found
  rw [h.old n old, found, Option.map_some]
  split
  · rfl
  · rw [List.append_nil]

/-- A node is the new one, or it was there. -/
theorem origin (h : Grown s kind priority parent p nodes) (numbered : s.nodes.Numbered TaskId.index)
    (found : nodes.get? n = some m) :
    (∃ b, n = s.nextNode ∧
      m = { kind := kind, priority := priority, parent := parent, flagged := b, phase := p }) ∨
    ∃ m₀, s.nodes.get? n = some m₀ ∧
      m = { m₀ with children := m₀.children ++ if parent = some n then [s.nextNode] else [] } := by
  by_cases new : n = s.nextNode
  · subst new
    obtain ⟨b, made⟩ := h.new
    exact .inl ⟨b, rfl, Option.some.inj (found.symm.trans made)⟩
  · obtain ⟨m₀, old, -⟩ := Option.map_eq_some_iff.1 ((h.old n new).symm.trans found)
    exact .inr ⟨m₀, old, Option.some.inj (found.symm.trans (h.kept numbered old))⟩

theorem phase_old (h : Grown s kind priority parent p nodes) {s' : State} (same : s'.nodes = nodes)
    (old : n ≠ s.nextNode) : s'.phase n = s.phase n := by
  rw [State.phase, State.phase, same]
  exact congrArg (Option.getD · _) (h.field (fun _ _ => rfl) old)

theorem phase_new (h : Grown s kind priority parent p nodes) {s' : State}
    (same : s'.nodes = nodes) :
    s'.phase s.nextNode = p := by
  obtain ⟨b, made⟩ := h.new
  simp [State.phase, same, made]

theorem mem_children (h : Grown s kind priority parent p nodes)
    (numbered : s.nodes.Numbered TaskId.index) {s' : State} (same : s'.nodes = nodes) {c : TaskId} :
    c ∈ s'.children n ↔
      c ∈ s.children n ∨ c = s.nextNode ∧ parent = some n ∧ s.nodes.get? n ≠ none := by
  cases known : s.nodes.get? n with
  | none =>
    have nobody : s'.children n = [] := by
      cases found : nodes.get? n with
      | none => simp [State.children, same, found]
      | some m =>
        rcases h.origin numbered found with ⟨b, -, rfl⟩ | ⟨m₀, old, -⟩
        · rw [State.children_of_get? (same ▸ found)]
        · cases known.symm.trans old
    have before : s.children n = [] := by simp [State.children, known]
    simp [nobody, before]
  | some m =>
    rw [State.children_of_get? (same ▸ h.kept numbered known), State.children_of_get? known]
    by_cases child : parent = some n <;> simp [child]

end Grown

end Nursery
