import Nursery.Proofs.Invariant.Spread
import Nursery.Proofs.Program.Fate
import Nursery.Proofs.Program.Load
import Nursery.Proofs.Wakeup

/-!
# Nothing holds a program up

Nobody in a program waits for itself, however far round: a body has the handles of tasks that are
younger than its own, and a child is younger than its parent.  So of all tasks that have not ended
the youngest one waits for nobody, and while there is one the machine goes on.

* `State.Elders` : a body has the handles of younger tasks only.
* `State.Reaping` : a child that has ended leaves a parent that has not.
* `Engaged` : a runtime works on a program.
* `Engaged.step` : it goes on, and less is left.
* `Engaged.ended` : where it rests, every task has ended.
-/

namespace Nursery

namespace State

/-- A body has the handles of younger tasks only. -/
def Elders (s : State) : Prop :=
  ∀ t m f u, s.tasks.get? t = some m → m.fiber = some f → .handle u ∈ f.resources →
    t.index < u.index

/-- A child that a task still lists has not left it, and when it has ended it is about to. -/
def Reaping (s : State) : Prop :=
  ∀ p above c, s.nodes.get? p = some above → above.phase.isTerminal = false → c ∈ above.children →
    ∃ node, s.nodes.get? c = some node ∧ node.reaped = false ∧
      (node.phase.isTerminal = true → .finish c ∈ s.agenda ∨ .detach c ∈ s.agenda)

end State

theorem State.alive_of_task {s : State} {t : TaskId} {m : Task} (found : s.tasks.get? t = some m) :
    s.alive t = true := by
  have rooted : s.rooted t = true := by
    rw [rooted, Store.contains_iff.2 ⟨m, found⟩]
    rfl
  rw [alive]
  cases t.index with
  | zero => exact rooted
  | succ steps =>
    rw [aliveWithin, rooted]
    rfl

/-! ### The handles of a body -/

namespace Fiber

variable {f f' : Fiber} {tag : Tag} {attempt : Attempt} {u : TaskId} {taken : Bool} {r : Resource}

theorem mem_resources_of_frame (h : r ∈ f.frame.resources) : r ∈ f.resources :=
  List.mem_append_right _ h

theorem mem_resources_of_free (free : f.waiting = none) :
    r ∈ f.resources ↔ r ∈ f.frame.resources := by
  rw [resources, free, List.nil_append]

theorem Passes.resources (passes : f.Passes f') : f'.resources ⊆ f.resources := by
  intro r mine
  cases passes with
  | given => exact mem_resources_of_frame mine
  | _ => exact mine

theorem Gives.resources (gives : f.Gives f') : f'.resources ⊆ f.resources := by
  intro r mine
  cases gives with
  | first => exact mem_resources_of_frame mine
  | again => exact mem_resources_of_frame mine

theorem Looks.resources (looks : f.Looks tag attempt u taken f') : f'.resources ⊆ f.resources := by
  intro r mine
  cases looks with
  | @first keep rest free code found =>
    rw [mem_resources_of_free (by exact free)] at mine ⊢
    dsimp only at mine
    split at mine
    · exact mine
    · exact ((Store.remove_sublist tag.target f.frame).map Prod.snd).subset mine
  | again => exact mem_resources_of_frame mine

end Fiber

section

variable {s s' : State} {home : RuntimeId} {t : TaskId} {f : Fiber} {turn : Turn}

/-- A turn brings a body no handle but that of a new task. -/
theorem Pace.resources (own : ∀ w, f.waiting = some w → w.wait.OnOwn f.resources)
    (pace : Pace s home t f turn) :
    ∀ r ∈ turn.fiber.resources, r ∈ f.resources ∨ r = .handle s.nextNode := by
  intro r mine
  cases pace with
  | pass trace told passes => exact .inl (passes.resources mine)
  | give gives => exact .inl (gives.resources mine)
  | @spawn tag detached body rest parent band priority names told free code =>
    rw [Fiber.mem_resources_of_free (by exact free)] at mine
    rw [Fiber.spawned, Frame.bind, Frame.resources, List.map_append] at mine
    rcases List.mem_append.1 mine with mine | mine
    · exact .inl (Fiber.mem_resources_of_frame
        (((Store.remove_sublist tag.binding f.frame).map Prod.snd).subset mine))
    · exact .inr (List.mem_singleton.1 mine)
  | @pending tag attempt u taken f' looks ongoing =>
    left
    rcases List.mem_append.1 mine with mine | mine
    · cases taken with
      | true =>
        rw [List.mem_singleton.1 mine]
        exact looks.mem_resources own
      | false => cases mine
    · exact looks.resources (Fiber.mem_resources_of_frame mine)
  | @learn tag attempt u taken f' outcome looks =>
    left
    cases outcome with
    | ok value => exact looks.resources mine
    | error e => exact looks.resources mine
  | gone looks => exact .inl (looks.resources mine)
  | finish => exact .inl mine
  | panic => exact .inl mine

/-- A turn leaves the other bodies alone, and a new one has nothing. -/
theorem Pace.bodies {root : TaskId} (programs : Programs s root home) (formed : Formed s)
    (pace : Pace s home t f turn) {v : TaskId} {m : Task} {g : Fiber}
    (found : turn.state.tasks.get? v = some m) (fiber : m.fiber = some g) :
    (∃ m₀, s.tasks.get? v = some m₀ ∧ m₀.fiber = some g) ∨ g.resources = [] := by
  have taken : ∀ {u : TaskId} {k : Task → Task}, (∀ m, (k m).fiber = m.fiber) →
      (s.tasks.modify u k).get? v = some m →
      ∃ m₀, s.tasks.get? v = some m₀ ∧ m₀.fiber = some g := by
    intro u k same found
    obtain ⟨m₀, known, rfl⟩ := Store.get?_modify_eq_some.1 found
    refine ⟨m₀, known, ?_⟩
    split at fiber
    · rwa [same] at fiber
    · exact fiber
  cases pace with
  | @spawn tag detached body rest parent band priority names told free code up =>
    have tasks := programs.tasks_launch formed priority parent body false
    have found :
        ((s.addNode .task priority parent).launch s.nextNode home body false).tasks.get? v =
        some m := found
    rw [tasks, Store.get?_set] at found
    split at found
    · cases found
      cases fiber
      exact .inr rfl
    · exact .inl ⟨m, found, fiber⟩
  | pending => exact .inl (taken (fun _ => by rfl) found)
  | @learn tag attempt u taken' f' outcome =>
    cases outcome with
    | ok value => exact .inl (taken (fun _ => by rfl) found)
    | error e => exact .inl (taken (fun _ => by rfl) found)
  | gone => exact .inl (taken (fun _ => by rfl) found)
  | _ => exact .inl ⟨m, found, fiber⟩

theorem Turn.tasks_takeEffect (home : RuntimeId) (t : TaskId) (goes : turn.flow.pauses = false) :
    ∃ fiber, (fiber = none ∨ fiber = some turn.fiber) ∧
      (turn.takeEffect home t).tasks =
        turn.state.tasks.modify t fun m => { m with fiber := fiber } := by
  obtain ⟨s, f', after, flow⟩ := turn
  cases flow with
  | next | suspend => exact ⟨some f', .inr rfl, rfl⟩
  | finish | panic => exact ⟨none, .inl rfl, rfl⟩
  | pause later => cases goes

end

namespace State.Elders

variable {s s' : State} {root t : TaskId} {home : RuntimeId} {d : Desk} {a : Action}

theorem keep (h : s.Elders) (bodies : ∀ t m f, s'.tasks.get? t = some m → m.fiber = some f →
    ∃ m₀, s.tasks.get? t = some m₀ ∧ m₀.fiber = some f) : s'.Elders := by
  intro t m f u found fiber mine
  obtain ⟨m₀, known, same⟩ := bodies t m f found fiber
  exact h t m₀ f u known same mine

theorem effect (e : Effect s a s') (h : s.Elders) : s'.Elders := by
  refine h.keep fun t m f found fiber => ?_
  obtain ⟨m₀, known, same | ⟨gone, -⟩⟩ := e.fiber found
  · exact ⟨m₀, known, same.symm.trans fiber⟩
  · rw [gone] at fiber
    cases fiber

theorem turn (sound : Sound s d) (programs : Programs s root home) (h : s.Elders) {m : Task}
    {f : Fiber} {turn : Turn} (found : s.tasks.get? t = some m) (fiber : m.fiber = some f)
    (pace : Pace s home t f turn) : (turn.takeEffect home t).Elders := by
  obtain ⟨node, known, -⟩ := Option.map_eq_some_iff.1 (sound.formed.tasks t m found)
  have young : t.index < s.nodes.size := sound.formed.nodes t node known
  have own := fun w => (sound.wakeful t m found).own f w fiber
  obtain ⟨fiber', what, tasks⟩ := Turn.tasks_takeEffect home t pace.goes
  intro v m' g u found' body mine
  rw [tasks] at found'
  obtain ⟨m₀, there, rfl⟩ := Store.get?_modify_eq_some.1 found'
  by_cases self : t = v
  · subst self
    rw [if_pos rfl] at body
    rcases what with rfl | rfl
    · cases body
    · cases body
      rcases pace.resources own _ mine with old | new
      · exact h t m f u found fiber old
      · cases new
        exact young
  · rw [if_neg self] at body
    rcases pace.bodies programs sound.formed there body with ⟨m₁, before, same⟩ | none
    · exact h v m₁ g u before same mine
    · rw [none] at mine
      cases mine

theorem toil (sound : Sound s d) (programs : Programs s root home) (w : Toil s home s')
    (h : s.Elders) : s'.Elders := by
  cases w with
  | turn during found fiber pace => exact h.turn sound programs found fiber pace
  | again =>
    refine h.keep fun t m f found fiber => ?_
    rw [State.tasks_enqueue] at found
    exact ⟨m, found, fiber⟩
  | @endBody t ending during =>
    obtain ⟨trace, cancelled, eq⟩ := s.endBody_eq home t ending
    refine h.keep fun v m f found fiber => ?_
    rw [eq] at found
    obtain ⟨m₀, known, rfl⟩ := Store.get?_modify_eq_some.1 found
    refine ⟨m₀, known, ?_⟩
    split at fiber
    · rwa [Ending.fiber_keep] at fiber
    · exact fiber
  | _ => exact h.keep fun t m f found fiber => ⟨m, found, fiber⟩

end State.Elders

/-! ### Children that have ended -/

/-- What reaping goes by. -/
def Node.links (m : Node) : List TaskId × Bool × Bool :=
  (m.children, m.reaped, m.phase.isTerminal)

theorem Kinship.parent_of_listed {s : State} (h : Kinship s) {n p : TaskId} {node above : Node}
    (found : s.nodes.get? n = some node) (known : s.nodes.get? p = some above)
    (listed : n ∈ above.children) : node.parent = some p := by
  have listed : n ∈ s.children p := by rwa [State.children_of_get? known]
  obtain ⟨node', found', parent⟩ := h.listed p n listed
  cases found.symm.trans found'
  exact parent

namespace State.Reaping

variable {s s' : State} {root n t : TaskId} {home : RuntimeId} {d : Desk} {a : Action}

theorem keep (h : s.Reaping)
    (same : ∀ n, (s'.nodes.get? n).map Node.links = (s.nodes.get? n).map Node.links)
    (agenda : ∀ c, .finish c ∈ s.agenda ∨ .detach c ∈ s.agenda →
      .finish c ∈ s'.agenda ∨ .detach c ∈ s'.agenda) : s'.Reaping := by
  intro p above c found ongoing listed
  have old := (same p).symm
  rw [found] at old
  obtain ⟨above₀, known, links⟩ := Option.map_eq_some_iff.1 old
  obtain ⟨children, -, phase⟩ : above₀.children = above.children ∧ above₀.reaped = above.reaped ∧
      above₀.phase.isTerminal = above.phase.isTerminal := by
    simpa [Node.links] using links
  obtain ⟨node, there, attached, elapsed⟩ :=
    h p above₀ c known (phase.trans ongoing) (children ▸ listed)
  have new := same c
  rw [there] at new
  obtain ⟨node', there', links'⟩ := Option.map_eq_some_iff.1 new
  obtain ⟨-, reaped, phase'⟩ : node'.children = node.children ∧ node'.reaped = node.reaped ∧
      node'.phase.isTerminal = node.phase.isTerminal := by
    simpa [Node.links] using links'
  exact ⟨node', there', reaped.trans attached, fun ended =>
    agenda c (elapsed (phase'.symm.trans ended))⟩

theorem modifyNode (h : s.Reaping) {f : Node → Node}
    (same : ∀ m, s.nodes.get? n = some m → (f m).links = m.links) : (s.modifyNode n f).Reaping := by
  refine h.keep (fun u => ?_) fun _ => id
  by_cases here : n = u
  · subst here
    cases found : s.nodes.get? n with
    | none => simp [State.modifyNode, Store.get?_modify_self, found]
    | some m => simp [State.modifyNode, Store.get?_modify_self, found, same m found]
  · simp [State.modifyNode, Store.get?_modify_of_ne here]

theorem doFirst (h : s.Reaping) (as : List Action) : (s.doFirst as).Reaping :=
  h.keep (fun _ => rfl) fun _ due => due.imp (List.mem_append_right as) (List.mem_append_right as)

theorem pop (h : (s.doFirst [a]).Reaping) (other : ∀ c, a ≠ .finish c ∧ a ≠ .detach c) :
    s.Reaping :=
  h.keep (fun _ => rfl) fun c due => due.imp
    (fun due => (List.mem_cons.1 due).resolve_left (Ne.symm (other c).1))
    (fun due => (List.mem_cons.1 due).resolve_left (Ne.symm (other c).2))

theorem setPhase (h : s.Reaping) (ongoing : (s.phase t).isTerminal = false) {p : Phase}
    (goes : p.isTerminal = false) {f : Node → Node} (same : ∀ m, (f m).children = m.children ∧
      (f m).reaped = m.reaped ∧ (f m).phase = p) : (s.modifyNode t f).Reaping := by
  refine h.modifyNode fun m found => ?_
  obtain ⟨children, reaped, phase⟩ := same m
  rw [State.phase_of_get? found] at ongoing
  rw [Node.links, children, reaped, phase, goes, Node.links, ongoing]

theorem leave (pre : (s.doFirst [.detach n]).Reaping)
    (children : ∀ q above', s'.nodes.get? q = some above' → above'.phase.isTerminal = false →
      ∃ above, s.nodes.get? q = some above ∧ above.phase.isTerminal = false ∧
        ∀ c ∈ above'.children, c ∈ above.children ∧ c ≠ n)
    (others : ∀ c node, c ≠ n → s.nodes.get? c = some node → ∃ node', s'.nodes.get? c = some node' ∧
      node'.reaped = node.reaped ∧ node'.phase = node.phase)
    (agenda : ∀ b ∈ s.agenda, b ∈ s'.agenda) : s'.Reaping := by
  intro q above' c found ongoing listed
  obtain ⟨above, known, goes, all⟩ := children q above' found ongoing
  obtain ⟨before, other⟩ := all c listed
  obtain ⟨node, there, attached, elapsed⟩ := pre q above c known goes before
  obtain ⟨node', there', reaped, phase⟩ := others c node other there
  refine ⟨node', there', reaped.trans attached, fun ended => ?_⟩
  rw [phase] at ended
  -- what was due is due, except for the node that has left
  rcases elapsed ended with due | due
  · rcases List.mem_cons.1 due with eq | due
    · cases eq
    · exact .inl (agenda _ due)
  · rcases List.mem_cons.1 due with eq | due
    · cases eq
      exact absurd rfl other
    · exact .inr (agenda _ due)

theorem reap (kinship : Kinship (s.doFirst [.detach n])) (pre : (s.doFirst [.detach n]).Reaping)
    {p : TaskId} {node above : Node} {f : Node → Node} (found : s.nodes.get? n = some node)
    (parent : node.parent = some p)
    (listed : (s.nodes.modify n fun m => { m with reaped := true }).get? p = some above)
    (same : ∀ m, (f m).children = above.children.filter (· ≠ n) ∧ (f m).reaped = m.reaped ∧
      (f m).phase = m.phase)
    (nodes : s'.nodes = ((s.modifyNode n fun m => { m with reaped := true }).modifyNode p f).nodes)
    (agenda : ∀ b ∈ s.agenda, b ∈ s'.agenda) : s'.Reaping := by
  refine pre.leave (fun q above' known ongoing => ?_) (fun c m other known => ?_) agenda
  · rw [nodes] at known
    obtain ⟨m₁, known₁, rfl⟩ := Store.get?_modify_eq_some.1 known
    obtain ⟨m₀, known₀, rfl⟩ := Store.get?_modify_eq_some.1 known₁
    by_cases here : p = q
    · subst here
      rw [if_pos rfl] at ongoing ⊢
      rw [(same _).2.2] at ongoing
      rw [(same _).1]
      have unchanged : above.children = m₀.children := by
        rw [Store.get?_modify_eq_some] at listed
        obtain ⟨m₂, known₂, rfl⟩ := listed
        cases known₀.symm.trans known₂
        split <;> rfl
      refine ⟨m₀, known₀, ?_, fun c mem => ?_⟩
      · split at ongoing <;> exact ongoing
      · rw [unchanged] at mem
        obtain ⟨mem, other⟩ := List.mem_filter.1 mem
        exact ⟨mem, by simpa using other⟩
    · rw [if_neg here] at ongoing ⊢
      refine ⟨m₀, known₀, ?_, fun c mem => ?_⟩
      · split at ongoing <;> exact ongoing
      · have before : c ∈ m₀.children := by split at mem <;> exact mem
        refine ⟨before, ?_⟩
        rintro rfl
        exact here
          (Option.some.inj (parent.symm.trans (kinship.parent_of_listed found known₀ before)))
  · have away : (s.modifyNode n fun m => { m with reaped := true }).nodes.get? c = some m :=
      (Store.get?_modify_of_ne (Ne.symm other)).trans known
    rw [nodes]
    refine ⟨_, Store.get?_modify_eq_some.2 ⟨m, away, rfl⟩, ?_⟩
    split
    · exact (same m).2
    · exact ⟨rfl, rfl⟩

theorem effect (sound : Sound (s.doFirst [a]) d) (staffed : Staffed (s.doFirst [a]) home)
    (isolated : a.isolated = true) (e : Effect s a s') (pre : (s.doFirst [a]).Reaping) :
    s'.Reaping := by
  cases e with
  | spent why =>
    intro p above c found ongoing listed
    obtain ⟨node, there, attached, elapsed⟩ := pre p above c found ongoing listed
    refine ⟨node, there, attached, fun ended => ?_⟩
    refine (elapsed ended).imp (fun due => ?_) fun due => ?_
    · rcases List.mem_cons.1 due with rfl | due
      · exact why.elim
      · exact due
    · rcases List.mem_cons.1 due with rfl | due
      · rw [why node there] at attached
        cases attached
      · exact due
  | cancel =>
    have h := pre.pop fun c => by simp
    exact ((h.modifyNode fun m _ => by rfl).keep (fun _ => by rfl) fun _ => id).doFirst _
  | finish n =>
    have marked := pre.modifyNode (n := n) (f := fun m => { m with finished := true })
      fun m _ => by rfl
    intro p above c found ongoing listed
    obtain ⟨node, there, attached, elapsed⟩ := marked p above c found ongoing listed
    refine ⟨node, there, attached, fun ended => ?_⟩
    rcases elapsed ended with due | due
    · rcases List.mem_cons.1 due with eq | due
      · cases eq
        have gone : (s.phase n).isTerminal = true := by
          obtain ⟨node₀, there₀, rfl⟩ := Store.get?_modify_eq_some.1 there
          rw [State.phase_of_get? (by exact there₀)]
          split at ended <;> exact ended
        have none : s.children n = [] := sound.kinship.ended n gone
        rw [if_pos none]
        exact .inr List.mem_cons_self
      · exact .inl (List.mem_append_right _ due)
    · rcases List.mem_cons.1 due with eq | due
      · cases eq
      · exact .inr (List.mem_append_right _ due)
  | @orphan n node found attached alone =>
    refine pre.leave (fun q above' known ongoing => ?_) (fun c m other known => ?_) fun b => id
    · obtain ⟨m₀, known₀, rfl⟩ := Store.get?_modify_eq_some.1 known
      have goes : m₀.phase.isTerminal = false := by split at ongoing <;> exact ongoing
      refine ⟨m₀, known₀, goes, fun c mem => ?_⟩
      have before : c ∈ m₀.children := by split at mem <;> exact mem
      refine ⟨before, ?_⟩
      rintro rfl
      -- a parent that goes on is alive
      obtain ⟨⟨task, there⟩, -⟩ := staffed.there q (by rw [State.doFirst, known₀]; simp)
        (by rw [State.phase_of_get? (by exact known₀)]; exact goes)
      have dead := alone q (sound.kinship.parent_of_listed found known₀ before) (by simp [known₀])
      cases dead.symm.trans (State.alive_of_task there)
    · exact ⟨m, (Store.get?_modify_of_ne (Ne.symm other)).trans known, rfl, rfl⟩
  | @reap n p node above found attached parent listed more =>
    exact pre.reap sound.kinship found parent listed
      (f := fun m => { m with children := above.children.filter (· ≠ n) })
      (fun m => ⟨rfl, rfl, rfl⟩) rfl fun b => id
  | @reapLast n p node above found attached parent listed last =>
    exact pre.reap sound.kinship found parent listed
      (f := fun m => { m with children := [], joining := false })
      (fun m => ⟨last.symm, rfl, rfl⟩) rfl fun b mem => List.mem_append_right _ mem
  | @resume t task suspended found =>
    have h := pre.pop fun c => by simp
    have up := h.setPhase (t := t) (p := .ready) (f := fun m => { m with phase := .ready })
      (by rw [suspended]; rfl) rfl fun m => ⟨rfl, rfl, rfl⟩
    refine up.keep (fun n => ?_) fun c due => ?_
    · rw [State.nodes_enqueue]
      rfl
    · have kept := State.subset_agenda_enqueue (s.setPhase t .ready) task.home (s.priority t)
        (.task t)
      exact due.imp (fun due => kept due) fun due => kept due
  | @notify t running =>
    have h := pre.pop fun c => by simp
    exact (h.setPhase (p := .notified) (f := fun m => { m with phase := .notified })
      (by rw [running]; rfl) rfl fun m => ⟨rfl, rfl, rfl⟩).doFirst _
  | awake | wakeWaiters | forget | bury | dropHandle =>
    have h := pre.pop fun c => by simp
    exact (h.keep (fun _ => rfl) fun _ => id).doFirst _
  | reportFailure | record =>
    have h := pre.pop fun c => by simp
    exact h.keep (fun _ => rfl) fun _ => id
  | _ => cases isolated

theorem keep_idle (h : s.Reaping) (idle : s.agenda = [])
    (same : ∀ n, (s'.nodes.get? n).map Node.links = (s.nodes.get? n).map Node.links) :
    s'.Reaping :=
  h.keep same fun c due => by simp [idle] at due

theorem turn (formed : Formed s) (programs : Programs s root home) (idle : s.agenda = [])
    (h : s.Reaping) {f : Fiber} {turn : Turn} (pace : Pace s home t f turn) :
    (turn.takeEffect home t).Reaping := by
  have same := turn.nodes_takeEffect home t
  cases pace with
  | @spawn tag detached body rest parent band priority names told free code =>
    obtain ⟨nodes, trace, grown, eq⟩ := programs.launch_eq formed priority parent body false
    obtain ⟨b, made⟩ := grown.new
    have launched :
        ((s.addNode .task priority parent).launch s.nextNode home body false).nodes = nodes := by
      rw [eq]
      rfl
    have same := same.trans launched
    intro p above c found goes listed
    rw [same] at found ⊢
    rcases grown.origin formed.nodes found with ⟨b, rfl, rfl⟩ | ⟨m, known, rfl⟩
    · cases listed
    -- a child is an old one or the new one
    rcases List.mem_append.1 listed with old | new
    · obtain ⟨node, there, attached, elapsed⟩ := h p m c known goes old
      refine ⟨_, grown.kept formed.nodes there, attached, fun ended => ?_⟩
      simp [idle] at elapsed
      cases elapsed.symm.trans ended
    · have new : c = s.nextNode := by
        split at new
        · exact List.mem_singleton.1 new
        · cases new
      subst new
      exact ⟨_, made, rfl, fun ended => by cases ended⟩
  | @learn tag attempt u taken f' outcome =>
    refine h.keep_idle idle fun _ => ?_
    rw [same]
    cases outcome <;> rfl
  | pending | gone => exact h.keep_idle idle fun _ => by rw [same]; rfl
  | _ => exact h.keep_idle idle fun _ => by rw [same]

theorem toil (sound : Sound s d) (programs : Programs s root home) (idle : s.agenda = [])
    (w : Toil s home s') (h : s.Reaping) : s'.Reaping := by
  have ongoing : ∀ {t}, s.phase t = .running ∨ s.phase t = .notified →
      (s.phase t).isTerminal = false := by
    intro t up
    rcases up with up | up <;> rw [up] <;> rfl
  -- the slice of a task that waits is over
  have elapsed : ∀ {t : TaskId} {p : Phase} {joining : Node → Bool},
      s.phase t = .running ∨ s.phase t = .notified → p.isTerminal = false →
      ((s.setSlice home none).modifyNode t fun m =>
        { m with joining := joining m, phase := p }).Reaping := by
    intro t p joining up goes
    have h : (s.setSlice home none).Reaping := h.keep_idle idle fun _ => rfl
    exact h.setPhase (t := t) (p := p) (f := fun m => { m with joining := joining m, phase := p })
      (ongoing up) goes fun m => ⟨rfl, rfl, rfl⟩
  cases w with
  | stop => exact h.keep_idle idle fun _ => by rfl
  | @begin t queue takes =>
    have ready := (sound.dispatch.taken takes).2.1
    have h : (s.popped home queue).Reaping := h.keep_idle idle fun _ => rfl
    have up := h.setPhase (t := t) (p := .running) (f := fun m => { m with phase := .running })
      (by show (s.phase t).isTerminal = false; rw [ready]; rfl) rfl fun m => ⟨rfl, rfl, rfl⟩
    exact up.keep_idle idle fun _ => by rfl
  | turn during found fiber pace => exact h.turn sound.formed programs idle pace
  | rest during why running => exact (elapsed (.inl running) rfl).doFirst _
  | again during why woken found =>
    refine ((elapsed (.inr woken) rfl).doFirst _).keep (fun n => by rw [State.nodes_enqueue])
      fun c due => ?_
    exact due.imp (fun due => State.subset_agenda_enqueue _ _ _ _ due)
      fun due => State.subset_agenda_enqueue _ _ _ _ due
  | @endBody t ending during =>
    obtain ⟨trace, cancelled, eq⟩ := s.endBody_eq home t ending
    refine h.keep_idle idle fun _ => ?_
    rw [eq]
    rfl
  | @complete t stage p trace during past alone ended =>
    intro q above c found goes listed
    obtain ⟨m₀, known, rfl⟩ := Store.get?_modify_eq_some.1 found
    have other : ¬ t = q := by
      rintro rfl
      rw [if_pos rfl] at goes
      cases ended.symm.trans goes
    rw [if_neg other] at goes listed
    obtain ⟨node, there, attached, due⟩ := h q m₀ c known goes listed
    refine ⟨_, Store.get?_modify_eq_some.2 ⟨node, there, rfl⟩, ?_, fun elapsed => ?_⟩
    · split <;> exact attached
    · by_cases here : t = c
      · exact .inl (here ▸ List.mem_cons_self)
      · rw [if_neg here] at elapsed
        have := due elapsed
        simp [idle] at this
  | leave => exact (h.keep_idle idle fun _ => by rfl).doFirst _

end State.Reaping

/-! ### A runtime that works on a program -/

/-- A runtime works on a program, on whose root the main thread blocks. -/
structure Engaged (s : State) (root : TaskId) (home : RuntimeId) (ending : Ending) : Prop where
  /-- The main thread blocks. -/
  reachable : Reachable s (.blocked home root)
  /-- Nothing but programs is there. -/
  programs : Programs s root home
  /-- Nobody is lost. -/
  staffed : Staffed s home
  /-- Every task meets its fate, the root the end that it should come to. -/
  fated : ∃ fate, fate root = ending ∧ Fated s fate home
  /-- The root is there. -/
  rooted : s.nodes.get? root ≠ none
  /-- A body has the handles of younger tasks only. -/
  elders : s.Elders
  /-- A child that has ended leaves a parent that has not. -/
  reaping : s.Reaping
  /-- The worker stops only when there is nothing left in the queue. -/
  quiet : s.active = none → s.agenda = [] ∧ s.slice home = none ∧ s.queued home = 0

namespace Engaged

variable {s s' : State} {root t : TaskId} {home : RuntimeId} {ending : Ending}

theorem effect {a : Action} (e : Effect s a s') (next : Reachable s' (.blocked home root))
    (h : Engaged (s.doFirst [a]) root home ending) :
    Engaged s' root home ending ∧ Lessens home (s.doFirst [a]) s' := by
  have sound := h.reachable.sound
  have formed : Formed s := { sound.formed with }
  obtain ⟨isolated, -⟩ := h.programs.pop
  have staffed' := Staffed.effect sound h.programs e h.staffed
  obtain ⟨fate, met, fated⟩ := h.fated
  have fated : Fated s fate home := { fated with }
  have elders : s.Elders := h.elders
  -- every part is kept by its own lemma, and what is left is less
  refine ⟨{
    reachable := next
    programs := Programs.effect e h.programs
    staffed := staffed'
    fated := ⟨fate, met, fated.effect formed next.sound h.staffed.pop staffed' e⟩
    rooted := ?_
    elders := elders.effect e
    reaping := h.reaping.effect sound h.staffed isolated e
    quiet := fun still => ?_ }, Effect.lessens formed h.programs e⟩
  · obtain ⟨node, known⟩ := Option.ne_none_iff_exists'.1 h.rooted
    obtain ⟨node', known', -⟩ := Lasts.effect e root node known
    simp [known']
  · rw [e.active] at still
    have := (h.quiet still).1
    simp [State.doFirst] at this

theorem toil (idle : s.agenda = []) (active : s.active.isSome = true) (w : Toil s home s')
    (next : Reachable s' (.blocked home root)) (known : s'.nodes.get? root ≠ none)
    (h : Engaged s root home ending) : Engaged s' root home ending ∧ Lessens home s s' := by
  have sound := h.reachable.sound
  obtain ⟨fate, met, fated⟩ := h.fated
  obtain ⟨fate', same, fated'⟩ := fated.toil sound h.programs h.staffed w
  have quiet : s'.active = none → s'.agenda = [] ∧ s'.slice home = none ∧ s'.queued home = 0 := by
    intro still
    have goes : s'.active ≠ s.active := by
      intro same
      rw [← same, still] at active
      cases active
    cases w with
    | @stop rt found free empty =>
      refine ⟨idle, ?_, ?_⟩
      · show s.slice home = none
        simp [State.slice, found, free]
      · show s.queued home = 0
        simp [State.queued, found, empty]
    | @turn t task f turn during found fiber pace =>
      refine absurd ?_ goes
      rw [← (pace.keeps sound.formed).active]
      have on := pace.goes
      obtain ⟨state, fiber, after, flow⟩ := turn
      cases flow with
      | pause => cases on
      | _ => rfl
    | again =>
      refine absurd ?_ goes
      obtain ⟨runtimes, agenda, eq⟩ := State.enqueue_eq (State.doFirst _ _) home _ _
      rw [eq]
      rfl
    | @endBody t ending' during =>
      refine absurd ?_ goes
      obtain ⟨trace, cancelled, eq⟩ := s.endBody_eq home t ending'
      rw [eq]
      rfl
    | _ => exact absurd rfl goes
  exact ⟨{
    reachable := next
    programs := h.programs.toil sound.formed h.rooted w
    staffed := h.staffed.toil sound h.programs idle w
    fated := ⟨fate', (same root h.rooted).trans met, fated'⟩
    rooted := known
    elders := h.elders.toil sound h.programs w
    reaping := h.reaping.toil sound h.programs idle w
    quiet := quiet }, w.lessens sound h.programs idle active⟩

/-- A runtime that is not done goes on, and less is left. -/
theorem step (h : Engaged s root home ending) (busy : s.resting = false) :
    Engaged s.step root home ending ∧ Lessens home s s.step := by
  have sound := h.reachable.sound
  have next : Reachable s.step (.blocked home root) := h.reachable.next .step
  cases agenda : s.agenda with
  | cons a rest =>
    have first : ({ s with agenda := rest } : State).doFirst [a] = s := by
      simp [State.doFirst, ← agenda]
    have e := State.perform_effect (s := { s with agenda := rest }) a
    have eq : s.step = ({ s with agenda := rest } : State).perform a := by rw [State.step, agenda]
    rw [eq] at next ⊢
    have done : Engaged _ root home ending ∧ _ := effect e next (by rwa [first])
    rwa [first] at done
  | nil =>
    cases active : s.active with
    | none => simp [State.resting, agenda, active] at busy
    | some worker =>
      obtain ⟨r, goal⟩ := worker
      obtain rfl := h.programs.active r goal active
      have eq : s.step = s.work r goal := by rw [State.step, agenda, active]
      have w := State.work_toil sound h.programs h.staffed.unwinds goal
      rw [← eq] at w
      obtain ⟨node, known⟩ := Option.ne_none_iff_exists'.1 h.rooted
      obtain ⟨node', known', -⟩ := Transition.lasts sound .step root node known
      exact h.toil agenda (by simp [active]) w next (by simp [known'])

/-- **Where it has come to rest, every task has ended.**  Of those that go on the youngest one would
wait for somebody older, or for an older child. -/
theorem ended (h : Engaged s root home ending) (rests : s.resting = true) :
    ∀ n, s.nodes.get? n ≠ none → (s.phase n).isTerminal = true := by
  have sound := h.reachable.sound
  have idle : s.agenda = [] := State.idle_of_resting rests
  obtain ⟨-, free, empty⟩ := h.quiet (State.still_of_resting rests)
  obtain ⟨rt, built, running, -⟩ := h.programs.runtime
  -- by induction on how many tasks are younger
  suffices ∀ k n, s.nodes.size - n.index ≤ k → s.nodes.get? n ≠ none →
      (s.phase n).isTerminal = true from fun n => this _ n (Nat.le_refl _)
  intro k
  induction k with
  | zero =>
    intro n last known
    obtain ⟨node, found⟩ := Option.ne_none_iff_exists'.1 known
    have := sound.formed.nodes n node found
    omega
  | succ k ih =>
    intro n last known
    have younger : ∀ m, n.index < m.index → s.nodes.get? m ≠ none →
        (s.phase m).isTerminal = true := by
      intro m older there
      refine ih m ?_ there
      obtain ⟨node, found⟩ := Option.ne_none_iff_exists'.1 known
      have := sound.formed.nodes n node found
      omega
    cases goes : (s.phase n).isTerminal with
    | true => rfl
    | false =>
      exfalso
      obtain ⟨⟨m, found⟩, -⟩ := h.staffed.there n known goes
      have busy : ¬ (s.phase n = .running ∨ s.phase n = .notified) := by
        intro up
        obtain ⟨stage, during⟩ := h.staffed.busy n up
        cases free.symm.trans during
      cases phase : s.phase n with
      | running => exact busy (.inl phase)
      | notified => exact busy (.inr phase)
      | completed | failed | cancelled => simp [phase, Phase.isTerminal] at goes
      | ready =>
        have here : s.home? n = some home := by
          rw [State.home?, found, Option.map_some, (h.programs.tasks n m found).home]
        have queued := sound.dispatch.ready home rt n built running here phase
        rw [State.queued, built, Option.map_some, Option.getD_some] at empty
        rw [List.length_eq_zero_iff.1 empty] at queued
        cases queued
      | suspended =>
        have unmet : s.Unmet n m.fiber := by
          rcases sound.unmet found (.inl phase) with unmet | (now | ⟨u, m', later, -⟩) | buried
          · exact unmet
          · simp [idle] at now
          · simp [idle] at later
          · simp [idle] at buried
        cases fiber : m.fiber with
        | none =>
          rw [fiber] at unmet
          obtain ⟨c, rest, children⟩ := List.exists_cons_of_ne_nil unmet
          obtain ⟨node, there⟩ := Option.ne_none_iff_exists'.1 known
          have listed : c ∈ node.children := by
            rw [State.children_of_get? there] at children
            rw [children]
            exact List.mem_cons_self
          rw [State.phase_of_get? there] at goes
          obtain ⟨child, there', -, due⟩ := h.reaping n node c there goes listed
          have older : n.index < c.index :=
            h.reachable.descends c child n there'
              (sound.kinship.parent_of_listed there' there listed)
          have elapsed := younger c older (by simp [there'])
          rw [State.phase_of_get? there'] at elapsed
          simpa [idle] using due elapsed
        | some f =>
          rw [fiber] at unmet
          obtain ⟨w, waits, unmet⟩ := unmet
          have allowed := ((h.programs.tasks n m found).fiber f fiber).waiting w waits
          have own := (sound.wakeful n m found).own f w fiber waits
          obtain ⟨tag, attempt, wait⟩ := w
          cases wait with
          | yielding left => exact unmet
          | awaiting r taken =>
            cases r with
            | handle u =>
              obtain ⟨m', there⟩ := Fated.there sound found fiber own
              obtain ⟨node, known', -⟩ := Option.map_eq_some_iff.1 (sound.formed.tasks u m' there)
              have elapsed := younger u (h.elders n m f u found fiber own) (by simp [known'])
              cases elapsed.symm.trans unmet
            | _ => cases allowed
          | _ => cases allowed

end Engaged

end Nursery
