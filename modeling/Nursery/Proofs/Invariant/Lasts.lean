import Nursery.Proofs.Invariant.Sound

/-!
# What lasts

A node stays what it was made as, below the parent and in the band it was made with, and a task
that has ended stays as it ended, whatever is done after that and by whom.

* `Lasts` : what lasts from one state to another.
* `Transition.lasts`, `Leads.lasts` : it lasts over every transition, so over every run.
-/

namespace Nursery

/-- What a node is keeps it. -/
structure Node.Lasts (m m' : Node) : Prop where
  /-- It stands for the same. -/
  kind : m'.kind = m.kind
  /-- It stays in its band. -/
  priority : m'.priority = m.priority
  /-- It stays below its parent. -/
  parent : m'.parent = m.parent
  /-- An end is final. -/
  ended : m.phase.isTerminal = true → m'.phase = m.phase

/-- What lasts from one state to another. -/
def Lasts (s s' : State) : Prop :=
  ∀ n m, s.nodes.get? n = some m → ∃ m', s'.nodes.get? n = some m' ∧ m.Lasts m'

theorem Node.Lasts.refl (m : Node) : m.Lasts m where
  kind := rfl
  priority := rfl
  parent := rfl
  ended _ := rfl

theorem Node.Lasts.trans {m m' m'' : Node} (h : m.Lasts m') (h' : m'.Lasts m'') : m.Lasts m'' where
  kind := h'.kind.trans h.kind
  priority := h'.priority.trans h.priority
  parent := h'.parent.trans h.parent
  ended e := by
    have same := h.ended e
    rw [h'.ended (by rwa [same]), same]

namespace Lasts

variable {s s' s'' : State} {d d' : Desk}

theorem refl (s : State) : Lasts s s :=
  fun _ m found => ⟨m, found, .refl m⟩

theorem trans (h : Lasts s s') (h' : Lasts s' s'') : Lasts s s'' := by
  intro n m found
  obtain ⟨m', found', lasts⟩ := h n m found
  obtain ⟨m'', found'', lasts'⟩ := h' n m' found'
  exact ⟨m'', found'', lasts.trans lasts'⟩

theorem of_nodes (same : s'.nodes = s.nodes) : Lasts s s' := by
  intro n m found
  exact ⟨m, by rwa [same], .refl m⟩

theorem modifyNode {n : TaskId} {f : Node → Node}
    (keeps : ∀ m, s.nodes.get? n = some m → m.Lasts (f m)) : Lasts s (s.modifyNode n f) := by
  intro k m found
  refine ⟨_, Store.get?_modify_eq_some.2 ⟨m, found, rfl⟩, ?_⟩
  split
  · rename_i same
    subst same
    exact keeps m found
  · exact .refl m

theorem setPhase {n : TaskId} {f : Node → Node} (ongoing : (s.phase n).isTerminal = false)
    (same : ∀ m, (f m).kind = m.kind ∧ (f m).priority = m.priority ∧ (f m).parent = m.parent) :
    Lasts s (s.modifyNode n f) := by
  refine modifyNode fun m found => ⟨(same m).1, (same m).2.1, (same m).2.2, fun e => ?_⟩
  rw [State.phase_of_get? found, e] at ongoing
  cases ongoing

theorem grow {kind : NodeKind} {priority : Priority} {parent : Option TaskId} {p : Phase}
    {nodes : Store TaskId Node} (numbered : s.nodes.Numbered TaskId.index)
    (grown : Grown s kind priority parent p nodes) (same : s'.nodes = nodes) : Lasts s s' := by
  subst same
  exact fun n m found => ⟨_, grown.kept numbered found, rfl, rfl, rfl, fun _ => rfl⟩

theorem of_keeps (h : Keeps s s') : Lasts s s' := by
  intro n m found
  obtain ⟨cs, found'⟩ := h.nodes n m found
  exact ⟨_, found', rfl, rfl, rfl, fun _ => rfl⟩

theorem effect {a : Action} (e : Effect s a s') : Lasts s s' := by
  have plainly : ∀ {x : State} {n : TaskId} {f : Node → Node}, (∀ m : Node, m.Lasts (f m)) →
      Lasts x (x.modifyNode n f) := fun keeps => modifyNode fun m _ => keeps m
  cases e with
  | cancel | finish | orphan => exact plainly fun m => ⟨rfl, rfl, rfl, fun _ => rfl⟩
  | reap | reapLast =>
    have left : ∀ m : Node, m.Lasts { m with reaped := true } :=
      fun m => ⟨rfl, rfl, rfl, fun _ => rfl⟩
    exact (plainly left).trans (plainly fun m => ⟨rfl, rfl, rfl, fun _ => rfl⟩)
  | @resume t task suspended =>
    have ongoing : (s.phase t).isTerminal = false := by
      rw [suspended]
      rfl
    have next : Lasts s (s.setPhase t .ready) := setPhase ongoing fun _ => ⟨rfl, rfl, rfl⟩
    exact next.trans (of_nodes (State.nodes_enqueue _ _ _ _))
  | @notify t running =>
    have ongoing : (s.phase t).isTerminal = false := by
      rw [running]
      rfl
    exact setPhase ongoing fun _ => ⟨rfl, rfl, rfl⟩
  | _ => exact of_nodes rfl

theorem work (formed : Formed s) (dispatch : Dispatch s) {home : RuntimeId} (w : Work s home s') :
    Lasts s s' := by
  -- a task in a slice that goes on has not ended
  have ongoing : ∀ {t : TaskId}, s.phase t = .running ∨ s.phase t = .notified →
      (s.phase t).isTerminal = false := by
    intro t up
    rcases up with up | up <;> rw [up] <;> rfl
  have line : ∀ {c : Context} {hand hand' : List Resource} {s₁ : State},
      Changes c s hand s₁ hand' → s'.nodes = s₁.nodes → Lasts s s' :=
    fun hc same => (of_keeps (hc.keeps formed)).trans (of_nodes same)
  cases w with
  | next _ _ changes | suspend _ _ changes | ends _ _ changes | pause _ _ _ changes
  | handle _ changes | hold _ _ changes | handled _ _ changes => exact line changes rfl
  | rest during why | forgotten during why =>
    exact setPhase (ongoing (dispatch.ongoing_of_waits during why)) fun _ => ⟨rfl, rfl, rfl⟩
  | @again t task stage joining during why woken found =>
    have next : Lasts s (s.modifyNode t fun m =>
        { m with joining := joining m, phase := .ready }) :=
      setPhase (ongoing (dispatch.ongoing_of_waits during why)) fun _ => ⟨rfl, rfl, rfl⟩
    exact next.trans (of_nodes (State.nodes_enqueue _ _ _ _))
  | complete _ during past =>
    exact setPhase (ongoing (dispatch.ongoing_of_over during past)) fun _ => ⟨rfl, rfl, rfl⟩
  | begin takes =>
    have ready := (dispatch.taken takes).2.1
    exact setPhase (by rw [ready]; rfl) fun _ => ⟨rfl, rfl, rfl⟩
  | drainAgain | markerAgain => exact of_nodes (State.nodes_enqueue _ _ _ _)
  | _ => exact of_nodes rfl

theorem move (formed : Formed s) (idle : s.agenda = []) (m : Move s d s' d') : Lasts s s' := by
  cases m with
  | build place batch stem =>
    rcases s.build_cases place batch stem with same | ⟨-, settings, built⟩
    · exact of_nodes (by rw [same])
    · rw [built]
      exact of_nodes rfl
  | start | block | join => exact of_nodes (State.nodes_start _ _ _)
  | startRounds =>
    exact of_nodes ((State.nodes_start _ _ _).trans (State.nodes_enqueue _ _ _ _))
  | @launchRoot _ r _ body =>
    obtain ⟨nodes, trace, grown, eq⟩ :=
      State.launch_addNode_eq formed.nodes .normal none r body true
    exact grow formed.nodes grown (by rw [State.launchRoot, eq, State.nodes_enqueue])
  | leaveRoot => exact of_nodes rfl
  | close => exact of_nodes rfl
  | line plain => exact of_keeps ((State.plain?_fits idle plain).keeps formed)
  | @shelve f =>
    exact of_keeps ((State.shelve_changes (c := { who := .main }) f s []).keeps formed)

end Lasts

variable {s s' : State} {d d' : Desk}

/-- Every transition lets last what lasts. -/
theorem Transition.lasts (h : Sound s d) (t : Transition s d s' d') : Lasts s s' := by
  cases t with
  | step =>
    have next := State.step_cases h.wakeful.waitsOnOwn
    generalize s.step = s' at next
    cases next with
    | @item a s₀ _ first e =>
      subst first
      have popped : Lasts (s₀.doFirst [a]) s₀ := .of_nodes rfl
      exact popped.trans (.effect e)
    | work _ _ w => exact .work h.formed h.dispatch w
    | rest => exact .refl s
  | stray => exact .of_nodes rfl
  | move rests m => exact .move h.formed (State.idle_of_resting rests) m

theorem Leads.lasts (h : Reachable s d) (l : Leads s d s' d') : Lasts s s' := by
  induction l with
  | refl => exact .refl s
  | next l t ih => exact ih.trans (t.lasts (h.leads l).sound)

/-! ### What lasts of one node -/

theorem Lasts.priority (h : Lasts s s') {n : TaskId} {m : Node} (found : s.nodes.get? n = some m) :
    s'.priority n = s.priority n := by
  obtain ⟨m', found', lasts⟩ := h n m found
  rw [State.priority_of_get? found, State.priority_of_get? found', lasts.priority]

/-- A task that has ended stays as it ended. -/
theorem Lasts.phase (h : Lasts s s') {t : TaskId} (ended : (s.phase t).isTerminal = true) :
    s'.phase t = s.phase t := by
  have up : s.phase t ≠ .suspended := by
    intro up
    simp [up, Phase.isTerminal] at ended
  obtain ⟨m, found, phase⟩ := State.get?_of_phase rfl up
  obtain ⟨m', found', lasts⟩ := h t m found
  rw [State.phase_of_get? found', lasts.ended (by rwa [phase]), phase]

/-- A task that has not ended had not ended before. -/
theorem Lasts.ongoing (h : Lasts s s') {t : TaskId} (ongoing : (s'.phase t).isTerminal = false) :
    (s.phase t).isTerminal = false := by
  refine Bool.eq_false_iff.2 fun ended => ?_
  rw [h.phase ended, ended] at ongoing
  cases ongoing

end Nursery
