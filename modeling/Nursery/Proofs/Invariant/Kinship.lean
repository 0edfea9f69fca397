import Nursery.Proofs.Invariant.Dispatch

/-!
# Parents and children

A node that was attached to a parent is listed by it until it is reaped, and it is reaped only when
its owner is done and all its own children have been reaped.  The owner of a task is done when the
task has ended, the owner of a group when the group was dropped.  A task that has ended lists no
children, so all nodes below it were reaped.

* `State.Done` : the owner of a node is done.
* `Kinship` : the invariant.
* `Ages`, `Matures` : the changes to one node, and to all of them, that keep it.
* `Kinship.effect`, `Kinship.change`, `Kinship.work`, `Kinship.move` : it is kept.
-/

namespace Nursery

/-- The owner of a node is done: a task has ended, a group was dropped or is about to go. -/
def State.Done (s : State) (n : TaskId) : Prop :=
  (s.phase n).isTerminal = true ∨
    s.kind? n = some .group ∧ (s.groups.get? n = none ∨ .dissolve n ∈ s.agenda)

/-- An item by which a node is finished or leaves its parent comes when that is due. -/
def Action.Ripe (s : State) : Action → Prop
  | .finish n => s.Done n
  | .detach n => ∀ node, s.nodes.get? n = some node → node.finished = true ∧ node.children = []
  | _ => True

/-- An item by which a node is finished or leaves its parent. -/
def Action.ends : Action → Bool
  | .finish _ | .detach _ => true
  | _ => false

/-- The links between parents and children, and the flags of a node, agree. -/
structure Kinship (s : State) : Prop where
  /-- A node that was attached and not reaped is listed by its parent. -/
  linked : ∀ n node p, s.nodes.get? n = some node → node.parent = some p →
    node.reaped = true ∨ n ∈ s.children p
  /-- Only children are listed. -/
  listed : ∀ p n, n ∈ s.children p → ∃ node, s.nodes.get? n = some node ∧ node.parent = some p
  /-- A node that was reaped was finished and lists nobody. -/
  reaped : ∀ n node, s.nodes.get? n = some node → node.reaped = true →
    node.finished = true ∧ node.children = []
  /-- The owner of a finished node is done. -/
  finished : ∀ n node, s.nodes.get? n = some node → node.finished = true → s.Done n
  /-- A task that has ended lists nobody. -/
  ended : ∀ t, (s.phase t).isTerminal = true → s.children t = []
  /-- What is on the agenda comes when it is due. -/
  ripe : ∀ a ∈ s.agenda, a.Ripe s

/-- A node changes in a way that its parent and its children allow. -/
structure Ages (s : State) (n : TaskId) (m m' : Node) : Prop where
  /-- It stands for the same. -/
  kind : m'.kind = m.kind
  /-- It keeps its parent. -/
  parent : m'.parent = m.parent
  /-- It lists nobody else. -/
  fewer : ∀ c ∈ m'.children, c ∈ m.children
  /-- It goes on listing its children until they are reaped. -/
  kept : ∀ c ∈ m.children, ∀ node, s.nodes.get? c = some node → node.parent = some n →
    node.reaped = false → c ∈ m'.children
  /-- It is reaped when that is due. -/
  reaped : m'.reaped = true → m.reaped = true ∨ m.finished = true ∧ m.children = []
  /-- It stays reaped. -/
  gone : m.reaped = true → m'.reaped = true
  /-- It is finished when its owner is done. -/
  finished : m'.finished = true → m.finished = true ∨ s.Done n
  /-- It stays finished. -/
  past : m.finished = true → m'.finished = true
  /-- A task ends without children. -/
  ends : m'.phase.isTerminal = true → m.phase.isTerminal = true ∨ m.children = []
  /-- A task that has ended stays so. -/
  ended : m.phase.isTerminal = true → m'.phase.isTerminal = true

theorem Ages.refl (s : State) (n : TaskId) (m : Node) : Ages s n m m where
  kind := rfl
  parent := rfl
  fewer _ h := h
  kept _ h _ _ _ _ := h
  reaped := .inl
  gone h := h
  finished := .inl
  past h := h
  ends := .inl
  ended h := h

theorem Ages.empty {s : State} {n : TaskId} {m m' : Node} (h : Ages s n m m')
    (none : m.children = []) : m'.children = [] :=
  List.eq_nil_iff_forall_not_mem.2 fun c hc => by
    have := h.fewer c hc
    rw [none] at this
    cases this

/-- The same nodes are there, and each of them ages. -/
structure Matures (s s' : State) : Prop where
  /-- A node that is there was there. -/
  look : ∀ n m', s'.nodes.get? n = some m' → ∃ m, s.nodes.get? n = some m ∧ Ages s n m m'
  /-- A node that was there is there. -/
  back : ∀ n m, s.nodes.get? n = some m → ∃ m', s'.nodes.get? n = some m' ∧ Ages s n m m'

namespace Matures

variable {s s' : State} {n c : TaskId}

theorem modifyNode {f : Node → Node}
    (ages : ∀ m, s.nodes.get? n = some m → Ages s n m (f m)) : Matures s (s.modifyNode n f) := by
  have one : ∀ k m, s.nodes.get? k = some m → Ages s k m (if n = k then f m else m) := by
    intro k m found
    split
    · rename_i same
      subst same
      exact ages m found
    · exact Ages.refl s k m
  refine ⟨fun k m' found' => ?_, fun k m found => ?_⟩
  · obtain ⟨m, found, rfl⟩ := Store.get?_modify_eq_some.1 found'
    exact ⟨m, found, one k m found⟩
  · exact ⟨_, Store.get?_modify_eq_some.2 ⟨m, found, rfl⟩, one k m found⟩

theorem kind (h : Matures s s') (group : s.kind? n = some .group) : s'.kind? n = some .group := by
  obtain ⟨m, found, group⟩ := Option.map_eq_some_iff.1 group
  obtain ⟨m', found', aged⟩ := h.back n m found
  exact Option.map_eq_some_iff.2 ⟨m', found', aged.kind.trans group⟩

theorem ended (h : Matures s s') (ended : (s.phase n).isTerminal = true) :
    (s'.phase n).isTerminal = true := by
  obtain ⟨m, found, phase⟩ := State.get?_of_isTerminal ended
  obtain ⟨m', found', aged⟩ := h.back n m found
  rw [State.phase_of_get? found']
  exact aged.ended (by rwa [phase])

theorem fewer (h : Matures s s') (listed : c ∈ s'.children n) : c ∈ s.children n := by
  cases found' : s'.nodes.get? n with
  | none => simp [State.children, found'] at listed
  | some m' =>
    obtain ⟨m, found, aged⟩ := h.look n m' found'
    rw [State.children_of_get? found'] at listed
    rw [State.children_of_get? found]
    exact aged.fewer c listed

theorem kept (h : Matures s s') {m : Node} (found : s.nodes.get? c = some m)
    (parent : m.parent = some n) (attached : m.reaped = false) (listed : c ∈ s.children n) :
    c ∈ s'.children n := by
  cases above : s.nodes.get? n with
  | none => simp [State.children, above] at listed
  | some p =>
    obtain ⟨p', above', aged⟩ := h.back n p above
    rw [State.children_of_get? above] at listed
    rw [State.children_of_get? above']
    exact aged.kept c listed m found parent attached

end Matures

theorem State.Done.imp {s s' : State} {n : TaskId} (h : s.Done n)
    (ended : (s.phase n).isTerminal = true → (s'.phase n).isTerminal = true)
    (kind : s.kind? n = some .group → s'.kind? n = some .group)
    (dropped : s.groups.get? n = none ∨ .dissolve n ∈ s.agenda →
      s'.groups.get? n = none ∨ .dissolve n ∈ s'.agenda) : s'.Done n := by
  rcases h with h | ⟨h, h'⟩
  · exact .inl (ended h)
  · exact .inr ⟨kind h, dropped h'⟩

namespace Kinship

variable {s s' : State} {c : Context} {hand hand' : List Resource} {a : Action}

theorem init : Kinship {} where
  linked n node p h := by simp [Store.get?, Store.lookup] at h
  listed p n h := by simp [State.children, Store.get?, Store.lookup] at h
  reaped n node h := by simp [Store.get?, Store.lookup] at h
  finished n node h := by simp [Store.get?, Store.lookup] at h
  ended t h := by simp [State.phase, Store.get?, Store.lookup, Phase.isTerminal] at h
  ripe a h := by simp at h

/-! ### Changes to one record -/

theorem keep (h : Kinship s) (nodes : s'.nodes = s.nodes)
    (dropped : ∀ n, s.kind? n = some .group → s.groups.get? n = none ∨ .dissolve n ∈ s.agenda →
      s'.groups.get? n = none ∨ .dissolve n ∈ s'.agenda)
    (ripe : ∀ a ∈ s'.agenda, a ∈ s.agenda ∨ a.Ripe s') : Kinship s' := by
  have phase : ∀ n, s'.phase n = s.phase n := fun n => by rw [State.phase, State.phase, nodes]
  have kind : ∀ n, s'.kind? n = s.kind? n := fun n => by rw [State.kind?, State.kind?, nodes]
  have children : ∀ n, s'.children n = s.children n := fun n => by
    rw [State.children, State.children, nodes]
  have done : ∀ n, s.Done n → s'.Done n := by
    intro n hn
    rcases hn with ended | ⟨group, h'⟩
    · exact .inl (by rwa [phase])
    · exact .inr ⟨(kind n).trans group, dropped n group h'⟩
  exact {
    linked := fun n node p hn hp => by
      rw [children]
      exact h.linked n node p (nodes ▸ hn) hp
    listed := fun p n hn => by
      rw [nodes]
      exact h.listed p n (children p ▸ hn)
    reaped := fun n node hn => h.reaped n node (nodes ▸ hn)
    finished := fun n node hn hf => done n (h.finished n node (nodes ▸ hn) hf)
    ended := fun t ht => by
      rw [children]
      exact h.ended t (phase t ▸ ht)
    ripe := fun a ha => by
      rcases ripe a ha with old | new
      · have := h.ripe a old
        cases a with
        | finish n => exact done n this
        | detach n => exact fun node hn => this node (nodes ▸ hn)
        | _ => exact trivial
      · exact new }

theorem ripe_of_ends (h : a.ends = false) : a.Ripe s := by
  cases a <;> first | exact trivial | cases h

theorem quietly (h : Kinship s) {as : List Action} (nodes : s'.nodes = s.nodes)
    (groups : s'.groups = s.groups) (agenda : s'.agenda = as ++ s.agenda)
    (free : ∀ a ∈ as, a.ends = false) : Kinship s' := by
  refine h.keep nodes (fun n _ hn => ?_) fun b hb => ?_
  · rw [groups, agenda]
    exact hn.imp id (List.mem_append_right _)
  · rw [agenda] at hb
    exact (List.mem_append.1 hb).symm.imp id fun new => ripe_of_ends (free b new)

theorem tell (h : Kinship s) (e : Event) : Kinship (s.tell e) :=
  { h with }

theorem pop (h : Kinship (s.doFirst [a])) (gone : ∀ g, a = .dissolve g → s.groups.get? g = none) :
    Kinship s := by
  refine h.keep rfl (fun n _ hn => ?_) fun _ hb => .inl (List.mem_cons_of_mem _ hb)
  rcases hn with none | ahead
  · exact .inl none
  · rcases List.mem_cons.1 ahead with now | later
    · exact .inl (gone n now.symm)
    · exact .inr later

theorem doFirst (h : Kinship s) {as : List Action} (new : ∀ a ∈ as, a.Ripe (s.doFirst as)) :
    Kinship (s.doFirst as) :=
  h.keep rfl (fun _ _ hn => hn.imp id (List.mem_append_right _)) fun b hb =>
    (List.mem_append.1 hb).symm.imp id (new b)

theorem doLast (h : Kinship s) {as : List Action} (new : ∀ a ∈ as, a.Ripe (s.doLast as)) :
    Kinship (s.doLast as) :=
  h.keep rfl (fun _ _ hn => hn.imp id (List.mem_append_left _)) fun b hb =>
    (List.mem_append.1 hb).imp id (new b)

theorem enqueue (h : Kinship s) (r : RuntimeId) (p : Priority) (e : Entry) :
    Kinship (s.enqueue r p e) := by
  unfold State.enqueue
  split
  · exact h.quietly rfl rfl rfl (by simp [Action.ends])
  · exact { h with }

theorem eraseGroup (h : Kinship s) (g : TaskId) :
    Kinship { s with groups := s.groups.erase g } := by
  refine h.keep rfl (fun n _ hn => hn.imp (fun none => ?_) id) fun _ hb => .inl hb
  rw [Store.get?_erase]
  split
  · rfl
  · exact none

theorem modifyGroup (h : Kinship s) (g : TaskId) (f : Group → Group) :
    Kinship (s.modifyGroup g f) :=
  h.keep rfl (fun _ _ hn => hn.imp Store.get?_modify_eq_none.2 id) fun _ hb => .inl hb

theorem mature (h : Kinship s) (m : Matures s s') (groups : s'.groups = s.groups)
    (agenda : s'.agenda = s.agenda) : Kinship s' := by
  have done : ∀ k, s.Done k → s'.Done k := fun k hk =>
    hk.imp m.ended m.kind (by rw [groups, agenda]; exact id)
  -- nodes only get older, and whatever is reaped now was ripe
  exact {
    linked := fun k node' p hk hp => by
      obtain ⟨node, hn, aged⟩ := m.look k node' hk
      rw [aged.parent] at hp
      by_cases gone : node.reaped = true
      · exact .inl (aged.gone gone)
      · refine .inr ((h.linked k node p hn hp).elim (fun reaped => absurd reaped gone) ?_)
        exact fun listed => m.kept hn hp (Bool.not_eq_true _ ▸ gone) listed
    listed := fun p k hk => by
      obtain ⟨node, hn, parent⟩ := h.listed p k (m.fewer hk)
      obtain ⟨node', hn', aged⟩ := m.back k node hn
      exact ⟨node', hn', aged.parent.trans parent⟩
    reaped := fun k node' hk gone => by
      obtain ⟨node, hn, aged⟩ := m.look k node' hk
      obtain ⟨finished, none⟩ : node.finished = true ∧ node.children = [] :=
        (aged.reaped gone).elim (h.reaped k node hn) id
      exact ⟨aged.past finished, aged.empty none⟩
    finished := fun k node' hk past => by
      obtain ⟨node, hn, aged⟩ := m.look k node' hk
      rcases aged.finished past with before | now
      · exact done k (h.finished k node hn before)
      · exact done k now
    ended := fun t ht => by
      obtain ⟨node', hn', phase⟩ := State.get?_of_isTerminal ht
      obtain ⟨node, hn, aged⟩ := m.look t node' hn'
      rw [State.children_of_get? hn']
      refine aged.empty ?_
      rcases aged.ends (by rwa [phase]) with before | none
      · rw [← State.children_of_get? hn]
        exact h.ended t (by rwa [State.phase_of_get? hn])
      · exact none
    ripe := fun b hb => by
      have old := h.ripe b (agenda ▸ hb)
      cases b with
      | finish k => exact done k old
      | detach k =>
        intro node' hk
        obtain ⟨node, hn, aged⟩ := m.look k node' hk
        obtain ⟨past, none⟩ := old node hn
        exact ⟨aged.past past, aged.empty none⟩
      | _ => exact trivial }

theorem modifyNode (h : Kinship s) {n : TaskId} {f : Node → Node}
    (ages : ∀ m, s.nodes.get? n = some m → Ages s n m (f m)) : Kinship (s.modifyNode n f) :=
  h.mature (.modifyNode ages) rfl rfl

/-! ### Items of the agenda -/

theorem ends_forget (w : Waker) : w.forget.ends = false := by
  cases w <;> rfl

theorem ends_afterPanic {b : Action} (h : a.afterPanic = some b) : b.ends = false := by
  cases a with
  | wake w =>
    cases h
    exact ends_forget w
  | _ => first | (cases h; rfl) | cases h

theorem rephase (h : Kinship s) {n : TaskId} {f : Node → Node} {p : Phase}
    (same : ∀ m, ∃ j, f m = { m with joining := j, phase := p })
    (ongoing : (s.phase n).isTerminal = false)
    (alone : p.isTerminal = true → s.children n = []) : Kinship (s.modifyNode n f) := by
  refine h.modifyNode fun m hm => ?_
  obtain ⟨j, eq⟩ := same m
  rw [eq]
  exact { Ages.refl s n m with
    ends := fun now => .inr ((State.children_of_get? hm).symm.trans (alone now))
    ended := fun before => by
      rw [State.phase_of_get? hm, before] at ongoing
      cases ongoing }

theorem reap (h : Kinship s) {n : TaskId} (due : (Action.detach n).Ripe s) :
    Kinship (s.modifyNode n fun m => { m with reaped := true }) :=
  h.modifyNode fun m hm => { Ages.refl s n m with
    reaped := fun _ => .inr (due m hm)
    gone := fun _ => rfl }

theorem ages_filter {n p : TaskId} {node above : Node} (found : s.nodes.get? n = some node)
    (gone : node.reaped = true) {joining : Bool} {children : List TaskId}
    (rest : children = above.children.filter (· ≠ n)) :
    Ages s p above { above with children := children, joining := joining } :=
  { Ages.refl s p above with
    fewer := fun c hc => by
      rw [rest] at hc
      exact List.mem_of_mem_filter hc
    kept := fun c hc other hother _ attached => by
      have hcn : c ≠ n := by
        rintro rfl
        cases found.symm.trans hother
        rw [gone] at attached
        cases attached
      show c ∈ children
      rw [rest]
      exact List.mem_filter.2 ⟨hc, by simpa using hcn⟩
    reaped := .inl
    ends := .inl }

theorem effect (formed : Formed s) (e : Effect s a s') (pre : Kinship (s.doFirst [a])) :
    Kinship s' := by
  have due : a.Ripe (s.doFirst [a]) := pre.ripe a List.mem_cons_self
  cases e with
  | spent why =>
    refine pre.pop fun g hg => ?_
    subst hg
    exact why
  | @cancel n =>
    have h := pre.pop (by simp)
    have flagged : Kinship (s.modifyNode n fun m => { m with flagged := true }) :=
      h.modifyNode fun m _ => { Ages.refl s n m with }
    exact flagged.quietly rfl rfl rfl (by simp [Action.ends])
  | @finish n =>
    have h := pre.pop (by simp)
    have done : s.Done n := due.imp id id fun hn => hn.imp id fun ahead => by
      simpa [State.doFirst] using ahead
    have past : Kinship (s.modifyNode n fun m => { m with finished := true }) :=
      h.modifyNode fun m _ =>
        { Ages.refl s n m with finished := fun _ => .inr done, past := fun _ => rfl }
    refine past.doFirst fun b hb => ?_
    split at hb
    · rename_i alone
      rw [List.mem_singleton.1 hb]
      intro node' hn'
      obtain ⟨node, hn, rfl⟩ := Store.get?_modify_eq_some.1 hn'
      rw [if_pos rfl]
      exact ⟨rfl, (State.children_of_get? hn).symm.trans alone⟩
    · simp at hb
  | orphan => exact (pre.pop (by simp)).reap due
  | @reap n p node above found _ _ listed =>
    -- the parent loses the child that is reaped, and keeps the others
    have left := (pre.pop (by simp)).reap due
    have gone : (s.modifyNode n fun m => { m with reaped := true }).nodes.get? n =
        some { node with reaped := true } := Store.get?_modify_eq_some.2 ⟨node, found, by simp⟩
    have fewer := left.modifyNode (n := p) (f := fun m =>
        { m with children := above.children.filter (· ≠ n) }) fun m hm => by
      cases listed.symm.trans hm
      exact ages_filter gone rfl rfl
    exact fewer.tell _
  | @reapLast n p node above found _ _ listed last =>
    have left := (pre.pop (by simp)).reap due
    have gone : (s.modifyNode n fun m => { m with reaped := true }).nodes.get? n =
        some { node with reaped := true } := Store.get?_modify_eq_some.2 ⟨node, found, by simp⟩
    -- the last child goes, so nobody keeps the parent from ending any more
    have alone := left.modifyNode (n := p) (f := fun m =>
        { m with children := [], joining := false }) fun m hm => by
      cases listed.symm.trans hm
      exact ages_filter gone rfl last.symm
    refine (alone.tell _).doFirst fun b hb => ?_
    rcases List.mem_append.1 hb with hb | hb
    · split at hb
      · rw [List.mem_singleton.1 hb]
        trivial
      · simp at hb
    · split at hb
      · rename_i finished
        rw [List.mem_singleton.1 hb]
        intro above' hp
        obtain ⟨m, hm, rfl⟩ := Store.get?_modify_eq_some.1 hp
        cases listed.symm.trans hm
        simp [finished]
      · simp at hb
  | @resume t task suspended =>
    have h := pre.pop (by simp)
    refine enqueue ?_ _ _ _
    exact h.rephase (fun m => ⟨m.joining, rfl⟩) (by simp [suspended, Phase.isTerminal])
      (by simp [Phase.isTerminal])
  | @notify t running =>
    have h := pre.pop (by simp)
    have noted : Kinship (s.setPhase t .notified) :=
      h.rephase (fun m => ⟨m.joining, rfl⟩) (by simp [running, Phase.isTerminal])
        (by simp [Phase.isTerminal])
    exact noted.quietly rfl rfl rfl (by simp [Action.ends])
  | awake | inform | discardTask | discardDrain | trip | announce | wakeWaiters | answer |
    dropHandle
  | dropAnswered | silence =>
    exact (pre.pop (by simp)).quietly rfl rfl rfl (by simp [Action.ends])
  | bury => exact (pre.pop (by simp)).quietly rfl rfl rfl (by simp [ends_forget])
  | forget =>
    refine (pre.pop (by simp)).quietly rfl rfl rfl fun b hb => ?_
    rcases List.mem_append.1 hb with hb | hb
    · obtain ⟨r, -, rfl⟩ := List.mem_map.1 hb
      rfl
    · rw [List.mem_singleton.1 hb]
      rfl
  | abandon =>
    refine (pre.pop (by simp)).quietly rfl rfl rfl fun b hb => ?_
    obtain ⟨k, -, rfl⟩ := List.mem_map.1 hb
    rfl
  | reportFailure | record | dropPending => exact { pre.pop (by simp) with }
  | panic =>
    refine (pre.pop (by simp)).keep rfl (fun n _ hn => hn.imp id fun ahead => ?_) fun b hb => ?_
    · exact List.mem_filterMap.2 ⟨_, ahead, rfl⟩
    · obtain ⟨c, -, left⟩ := List.mem_filterMap.1 hb
      exact .inr (ripe_of_ends (ends_afterPanic left))
  | @dropGroup g group found =>
    have leaves : (s.doFirst [.finish g, .dissolve g]).Done g :=
      .inr ⟨formed.groups g group found, .inr (by simp [State.doFirst])⟩
    refine (pre.pop (by simp)).doFirst fun b hb => ?_
    rcases List.mem_cons.1 hb with rfl | hb
    · exact leaves
    · rw [List.mem_singleton.1 hb]
      trivial
  | @dropUndrained g group found =>
    -- the group stays known until it is dissolved
    have leaves : ∀ as, .dissolve g ∈ as → (s.doFirst as).Done g := fun as mem =>
      .inr ⟨formed.groups g group found, .inr (List.mem_append_left _ mem)⟩
    refine (pre.pop (by simp)).doFirst fun b hb => ?_
    by_cases last : b = .finish g
    · rw [last]
      exact leaves _ (by simp)
    · refine ripe_of_ends ?_
      simp only [List.mem_cons, List.not_mem_nil, or_false] at hb
      rcases hb with rfl | rfl | rfl | rfl | rfl <;> first | rfl | exact absurd rfl last
  | @dissolve g group found =>
    have gone : Kinship { s with groups := s.groups.erase g } :=
      (pre.eraseGroup g).pop fun g' hg => by
        cases hg
        simp [Store.get?_erase]
    refine gone.quietly rfl rfl rfl fun b hb => ?_
    rcases List.mem_append.1 hb with hb | hb
    · obtain ⟨u, -, rfl⟩ := List.mem_map.1 hb
      rfl
    · rw [List.mem_singleton.1 hb]
      rfl

/-! ### Lines -/

/-- A node may be attached to another one: that is known, and its owner is not done. -/
def Open (s : State) (p : TaskId) : Prop :=
  ∃ node, s.nodes.get? p = some node ∧ node.finished = false ∧ node.phase.isTerminal = false

theorem open_of_task (formed : Formed s) (h : Kinship s) {t : TaskId} {node : Node}
    (found : s.nodes.get? t = some node) (up : node.phase = .running ∨ node.phase = .notified) :
    Open s t := by
  have phase := State.phase_of_get? found
  have ongoing : node.phase.isTerminal = false := by
    rcases up with up | up <;> rw [up] <;> rfl
  refine ⟨node, found, ?_, ongoing⟩
  by_contra finished
  rw [Bool.not_eq_false] at finished
  rcases h.finished t node found finished with ended | ⟨group, -⟩
  · rw [phase, ongoing] at ended
    cases ended
  · have still := (formed.still t group).symm.trans phase
    rcases up with up | up <;> rw [up] at still <;> cases still

theorem open_of_group (formed : Formed s) (h : Kinship s) (idle : s.agenda = []) {g : TaskId}
    {group : Group} (found : s.groups.get? g = some group) : Open s g := by
  have kind := formed.groups g group found
  have still := formed.still g kind
  obtain ⟨node, hn, -⟩ := Option.map_eq_some_iff.1 kind
  have ongoing : node.phase.isTerminal = false := by
    rw [← State.phase_of_get? hn, still]
    rfl
  refine ⟨node, hn, ?_, ongoing⟩
  by_contra finished
  rw [Bool.not_eq_false] at finished
  rcases h.finished g node hn finished with ended | ⟨-, none | ahead⟩
  · rw [still] at ended
    cases ended
  · rw [found] at none
    cases none
  · rw [idle] at ahead
    cases ahead

theorem grow (h : Kinship s) (numbered : s.nodes.Numbered TaskId.index) (idle : s.agenda = [])
    {kind : NodeKind} {priority : Priority} {parent : Option TaskId} {p : Phase}
    {nodes : Store TaskId Node}
    (grown : Grown s kind priority parent p nodes) (ongoing : p.isTerminal = false)
    (above : ∀ q, parent = some q → Open s q) (trace : Array Event) :
    Kinship { s with nodes := nodes, trace := trace } := by
  have fresh := State.fresh_nextNode numbered
  have listing : ∀ {q k : TaskId},
      k ∈ ({ s with nodes := nodes, trace := trace } : State).children q ↔
      k ∈ s.children q ∨ k = s.nextNode ∧ parent = some q ∧ s.nodes.get? q ≠ none :=
    grown.mem_children numbered rfl
  -- the parent is neither finished nor at its end
  have shut : ∀ k node, s.nodes.get? k = some node →
      node.finished = true ∨ node.phase.isTerminal = true → parent ≠ some k := by
    intro k node found past here
    obtain ⟨m, known, unfinished, up⟩ := above k here
    cases found.symm.trans known
    rcases past with past | past
    · cases unfinished.symm.trans past
    · cases up.symm.trans past
  have done : ∀ k, s.Done k → ({ s with nodes := nodes, trace := trace } : State).Done k := by
    intro k hk
    have other : k ≠ s.nextNode := by
      rintro rfl
      rcases hk with ended | ⟨group, -⟩
      · simp [State.phase, fresh, Phase.isTerminal] at ended
      · simp [State.kind?, fresh] at group
    exact hk.imp (fun ended => by rwa [grown.phase_old rfl other])
      (fun group => (grown.field (fun _ _ => rfl) other).trans group) id
  exact {
    linked := fun k node' q hk hq => by
      rcases grown.origin numbered hk with ⟨b, rfl, rfl⟩ | ⟨node, hn, rfl⟩
      · obtain ⟨m, known, -⟩ := above q hq
        exact .inr (listing.2 (.inr ⟨rfl, hq, by simp [known]⟩))
      · exact (h.linked k node q hn hq).imp id fun listed => listing.2 (.inl listed)
    listed := fun q k hk => by
      rcases listing.1 hk with old | ⟨rfl, here, -⟩
      · obtain ⟨m, known, parent'⟩ := h.listed q k old
        exact ⟨_, grown.kept numbered known, parent'⟩
      · obtain ⟨b, new⟩ := grown.new
        exact ⟨_, new, here⟩
    reaped := fun k node' hk gone => by
      rcases grown.origin numbered hk with ⟨b, -, rfl⟩ | ⟨node, hn, rfl⟩
      · cases gone
      · obtain ⟨finished, none⟩ := h.reaped k node hn gone
        refine ⟨finished, ?_⟩
        rw [if_neg (shut k node hn (.inl finished)), List.append_nil]
        exact none
    finished := fun k node' hk finished => by
      rcases grown.origin numbered hk with ⟨b, -, rfl⟩ | ⟨node, hn, rfl⟩
      · cases finished
      · exact done k (h.finished k node hn finished)
    ended := fun k ended => by
      have other : k ≠ s.nextNode := by
        rintro rfl
        cases ongoing.symm.trans ((congrArg _ (grown.phase_new rfl)).symm.trans ended)
      rw [grown.phase_old rfl other] at ended
      refine List.eq_nil_iff_forall_not_mem.2 fun c hc => ?_
      rcases listing.1 hc with old | ⟨-, here, -⟩
      · rw [h.ended k ended] at old
        cases old
      · obtain ⟨m, known, -⟩ := above k here
        exact shut k m known (.inr (by rwa [State.phase_of_get? known] at ended)) here
    ripe := fun b hb => by
      have hb' : b ∈ s.agenda := hb
      rw [idle] at hb'
      cases hb' }

/-- The task that runs a line, if it is one, is at work. -/
def AtWork (c : Context) (s : State) : Prop :=
  ∀ t, c.task = some t →
    ∃ node, s.nodes.get? t = some node ∧ (node.phase = .running ∨ node.phase = .notified)

theorem atWork_keeps (h : AtWork c s) (k : Keeps s s') : AtWork c s' := by
  intro t me
  obtain ⟨node, found, up⟩ := h t me
  obtain ⟨cs, found'⟩ := k.nodes t node found
  exact ⟨_, found', up⟩

theorem atWork_of_runs (formed : Formed s) (dispatch : Dispatch s) {home : RuntimeId} {t : TaskId}
    {task : Task} {f : Fiber} (runs : s.Runs home t task f) : AtWork ⟨.task t, some home⟩ s := by
  intro u me
  cases me
  have up := (dispatch.runs runs).2
  obtain ⟨node, found, -⟩ := Option.map_eq_some_iff.1 (formed.tasks t task runs.found)
  exact ⟨node, found, by rwa [State.phase_of_get? found] at up⟩

theorem post (h : Kinship s) (a : ActorId) (home : RuntimeId) (message : Message) :
    Kinship (s.post a home message) := by
  unfold State.post
  split
  · exact h
  · dsimp only
    split
    · exact { h with }
    · refine enqueue ?_ _ _ _
      exact { h with }

theorem change (formed : Formed s) (work : AtWork c s) (hc : Change c s hand s' hand')
    (h : Kinship s) : Kinship s' := by
  have atTask : ∀ q, c.task = some q → Open s q := by
    intro q me
    obtain ⟨node, found, up⟩ := work q me
    exact h.open_of_task formed found up
  cases hc with
  | tell | shed | nameTask | adopt | share | actor | refuse | register | take | learn | state =>
    exact { h with }
  | @spawn home parent priority body idle _ up =>
    obtain ⟨nodes, trace, grown, eq⟩ :=
      State.launch_addNode_eq formed.nodes priority parent home body false
    rw [eq]
    refine enqueue ?_ _ _ _
    exact { h.grow formed.nodes idle grown rfl (fun q hq => atTask q (by
      rcases up with none | same
      · rw [none] at hq
        cases hq
      · rw [← same, hq])) trace with }
  | @group home idle here =>
    obtain ⟨nodes, trace, priority, grown, eq⟩ := State.makeGroup_eq formed.nodes c home
    -- the group is noted before its node is made
    have noted : Kinship { s with
        groups := s.groups.set s.nextNode { home := home }
        signals := s.signals.set s.nextNode {} } := by
      refine h.keep rfl (fun n group hn => hn.imp (fun none => ?_) id) fun _ hb => .inl hb
      have other : s.nextNode ≠ n := by
        rintro rfl
        simp [State.kind?, State.fresh_nextNode formed.nodes] at group
      exact (Store.get?_set_of_ne other).trans none
    rw [eq]
    exact noted.grow formed.nodes idle ⟨grown.new, grown.old, grown.numbered, grown.inherits⟩ rfl
      atTask trace
  | @add g group priority body idle mine found =>
    obtain ⟨nodes, trace, p, grown, eq⟩ :=
      State.addChild_eq formed.nodes formed.fresh_task g group priority body
    have grew := h.grow formed.nodes idle grown rfl (fun q hq => by
      cases hq
      exact h.open_of_group formed idle found) trace
    rw [eq]
    refine enqueue ?_ _ _ _
    exact { grew.modifyGroup g _ with }
  | call =>
    refine post ?_ _ _ _
    exact { h with }
  | send => exact h.post _ _ _
  | expect | listen => exact h.quietly rfl rfl rfl (by simp [Action.ends])
  | draw | fail => exact { h.modifyGroup _ _ with }
  | @park t name =>
    have named : ∀ parked, Kinship { s with parked := parked } := fun _ => { h with }
    exact (named _).doLast (by simp [Action.Ripe])
  | record | release | cancel | wake => exact h.doLast (by simp [Action.Ripe])

theorem changes (formed : Formed s) (work : AtWork c s) (hc : Changes c s hand s' hand')
    (h : Kinship s) : Kinship s' := by
  have := hc.invariant (I := fun s _ => Formed s ∧ AtWork c s ∧ Kinship s)
    (fun hc h => ⟨h.1.change hc, atWork_keeps h.2.1 (.change h.1 hc),
      h.2.2.change h.1 h.2.1 hc⟩) ⟨formed, work, h⟩
  exact this.2.2

/-! ### Work and moves -/

theorem work (formed : Formed s) (dispatch : Dispatch s) {home : RuntimeId} (w : Work s home s')
    (h : Kinship s) : Kinship s' := by
  have body : ∀ {t : TaskId} {task : Task} {f : Fiber} {s₁ : State} {hand : List Resource},
      s.Runs home t task f → Changes ⟨.task t, some home⟩ s f.resources s₁ hand →
        Kinship s₁ :=
    fun runs hc => h.changes formed (atWork_of_runs formed dispatch runs) hc
  have handler : ∀ {a : ActorId} {s₁ : State} {hand hand' : List Resource},
      Changes ⟨.actor a, some home⟩ s hand s₁ hand' → Kinship s₁ := by
    intro a s₁ hand hand' hc
    exact h.changes formed (fun u me => by cases me) hc
  have ongoing : ∀ t, s.phase t = .running ∨ s.phase t = .notified →
      (s.phase t).isTerminal = false := by
    intro t up
    rcases up with up | up <;> rw [up] <;> rfl
  cases w with
  | stop | lost | receive | drained | beginDrain | markerStop | markerSkip => exact { h with }
  | next runs _ changes | suspend runs _ changes | pause later runs _ changes =>
    exact { body runs changes with }
  | ends told runs changes =>
    refine doLast ?_ fun b hb => ripe_of_ends ?_
    · exact { body runs changes with }
    · rcases List.mem_append.1 hb with hb | hb
      · obtain ⟨e, -, rfl⟩ := List.mem_map.1 hb
        rfl
      · obtain ⟨r, -, rfl⟩ := List.mem_map.1 hb
        rfl
  | @rest t stage joining during why running =>
    have left : Kinship (s.setSlice home none) := { h with }
    have rested := left.rephase (n := t)
      (f := fun m => { m with joining := joining m, phase := .suspended })
      (fun m => ⟨joining m, rfl⟩) (ongoing t (.inl running)) (by simp [Phase.isTerminal])
    exact rested.quietly rfl rfl rfl (by simp [Action.ends])
  | @again t task stage joining during why =>
    have left : Kinship (s.setSlice home none) := { h with }
    have back := left.rephase (n := t)
      (f := fun m => { m with joining := joining m, phase := .ready })
      (fun m => ⟨joining m, rfl⟩) (ongoing t (dispatch.ongoing_of_waits during why))
      (by simp [Phase.isTerminal])
    refine enqueue ?_ _ _ _
    exact back.quietly rfl rfl rfl (by simp [Action.ends])
  | forgotten during why missing =>
    obtain ⟨task, found⟩ := dispatch.known _ _ _ during
    exact absurd (missing.symm.trans found) (by simp)
  | endBody => exact h.quietly rfl rfl rfl (by simp [Action.ends])
  | @complete t stage p trace during past alone ended =>
    -- the task ends without children, so it may leave
    have up := dispatch.ongoing_of_over during past
    obtain ⟨task, known⟩ := dispatch.known _ _ _ during
    obtain ⟨node, found, -⟩ := Option.map_eq_some_iff.1 (formed.tasks t task known)
    have gone := h.rephase (n := t) (f := fun m => { m with joining := false, phase := p })
      (fun m => ⟨false, rfl⟩) (ongoing t up) fun _ => alone
    have now : (s.modifyNode t fun m => { m with joining := false, phase := p }).phase t = p :=
      State.phase_modifyNode_self found
    refine doFirst ?_ fun b hb => ?_
    · exact { gone with }
    · by_cases last : b = .finish t
      · rw [last]
        refine .inl ?_
        rw [← now] at ended
        exact ended
      · refine ripe_of_ends ?_
        simp only [List.mem_cons, List.not_mem_nil, or_false] at hb
        rcases hb with rfl | rfl | rfl <;> first | rfl | exact absurd rfl last
  | leave | refuse => exact h.quietly rfl rfl rfl (by simp [Action.ends])
  | drainAgain =>
    refine enqueue ?_ _ _ _
    exact { h with }
  | handle during changes | hold later during changes => exact { handler changes with }
  | handled result during changes =>
    refine doLast ?_ fun b hb => ?_
    · exact { handler changes with }
    · obtain ⟨r, -, rfl⟩ := List.mem_map.1 hb
      trivial
  | reply =>
    refine h.quietly rfl rfl rfl fun b hb => ?_
    obtain ⟨k, -, rfl⟩ := List.mem_map.1 hb
    rfl
  | @begin t queue takes due =>
    have popped : Kinship (s.popped home queue) := { h with }
    have begun := popped.rephase (n := t) (f := fun m => { m with phase := .running })
      (fun m => ⟨m.joining, rfl⟩)
      (by
        have up : (s.popped home queue).phase t = s.phase t := rfl
        rcases due with due | due <;> rw [up, due] <;> rfl)
      (by simp [Phase.isTerminal])
    exact { begun with }
  | @markerAgain serial queue band goal =>
    have popped : Kinship (s.popped home queue) := { h with }
    exact { popped.enqueue home band (.marker serial) with }

theorem start (h : Kinship s) (r : RuntimeId) (goal : Goal) : Kinship (s.start r goal) := by
  obtain ⟨trace, eq⟩ := s.start_eq r goal
  rw [eq]
  exact { h with }

theorem move (formed : Formed s) (idle : s.agenda = []) {d d' : Desk} (m : Move s d s' d')
    (h : Kinship s) : Kinship s' := by
  cases m with
  | build place batch stem =>
    rcases s.build_cases place batch stem with same | ⟨-, settings, built⟩
    · rwa [same]
    · rw [built]
      exact { h with }
  | start | block | join => exact h.start _ _
  | startRounds _ rounds band =>
    have marked : Kinship { s with markers := s.markers + 1 } := { h with }
    exact (marked.enqueue _ _ _).start _ _
  | @launchRoot _ r _ body =>
    obtain ⟨nodes, trace, grown, eq⟩ :=
      State.launch_addNode_eq formed.nodes .normal none r body true
    rw [State.launchRoot, eq]
    refine enqueue ?_ _ _ _
    exact { h.grow formed.nodes idle grown rfl (fun q hq => by cases hq) trace with }
  | leaveRoot => exact h.quietly rfl rfl rfl (by simp [Action.ends])
  | close =>
    refine h.quietly rfl rfl rfl fun b hb => ?_
    obtain ⟨e, -, rfl⟩ := List.mem_map.1 hb
    rfl
  | line plain =>
    exact h.changes formed (fun u me => by cases me) (State.plain?_fits idle plain)
  | @shelve f =>
    exact h.changes (c := { who := .main }) formed (fun u me => by cases me)
      (State.shelve_changes f s [])

end Kinship

end Nursery
