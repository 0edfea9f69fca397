import Nursery.Proofs.Completion
import Nursery.Proofs.Group.Line

/-!
# A failure reaches the group

A child of a group was attached below the node of the group, and as long as it goes on the group
is among those who are told of its end, whether its owner still has the group or not.  So when a
child fails, an item of the agenda leads to the group until the group knows.

* `State.ChildOf`, `State.tripped` : the children of a group; the group knows of a failure.
* `Alert` : **a failed child has tripped its group, or the agenda leads there.**
* `Lulled` : what leaves the groups and their children alone.
* `Alert.effect`, `Alert.change`, `Alert.work`, `Alert.move` : it is kept.
-/

namespace Nursery

/-- An item of the agenda by which a group may come to learn of a failure. -/
def Action.alarms : Action → Bool
  | .wakeWaiters _ | .wake (.member ..) => true
  | _ => false

namespace State

/-- What a node stands for, and what it was attached to. -/
def origin (s : State) (n : TaskId) : Option (NodeKind × Option TaskId) :=
  (s.nodes.get? n).map fun m => (m.kind, m.parent)

/-- A task is a child of a group. -/
structure ChildOf (s : State) (g t : TaskId) : Prop where
  /-- The group. -/
  group : s.kind? g = some .group
  /-- The task was attached to it. -/
  task : s.origin t = some (.task, some g)

/-- A group knows that a child has failed. -/
def tripped (s : State) (g : TaskId) : Bool :=
  (s.signals.get? g).any Signal.tripped

/-- The end of a task brings a group notice of it. -/
def Notifies (s : State) (g t : TaskId) : Prop :=
  ∃ i, ⟨g, i, t⟩ ∈ s.notices t

/-- The agenda leads to a group that is to learn of the end of a task. -/
def Alarms (s : State) (g t : TaskId) : Prop :=
  .wakeWaiters t ∈ s.agenda ∧ s.Notifies g t ∨ ∃ i, .wake (.member g i t) ∈ s.agenda

end State

/-- Every group learns of a child that fails. -/
structure Alert (s : State) : Prop where
  /-- Whoever was attached to a node was attached to one that was made. -/
  above : ∀ n k p, s.origin n = some (k, some p) → s.nodes.get? p ≠ none
  /-- A group has a signal, even when it was dropped. -/
  signal : ∀ g, s.kind? g = some .group → (s.signals.get? g).isSome = true
  /-- It will be told of the end of a child that goes on. -/
  waits : ∀ g t, s.ChildOf g t → s.tasks.get? t ≠ none → (s.phase t).isTerminal = false →
    s.Notifies g t
  /-- It knows of a child that has failed, or the agenda leads there. -/
  alarm : ∀ g t, s.ChildOf g t → s.phase t = .failed → s.tripped g = true ∨ s.Alarms g t

/-- No group is made and none learns of a failure, and nobody is added to one or ends. -/
structure Lulled (s s' : State) : Prop where
  /-- The nodes stay what they are. -/
  origin : ∀ n, s'.origin n = s.origin n
  /-- The groups know as much as before. -/
  signals : ∀ g, (s'.signals.get? g).map Signal.tripped = (s.signals.get? g).map Signal.tripped
  /-- No task is made. -/
  tasks : ∀ t, s'.tasks.get? t ≠ none → s.tasks.get? t ≠ none
  /-- The end of every task brings the same notices. -/
  notices : ∀ t, s'.notices t = s.notices t
  /-- Nobody ends. -/
  phase : ∀ t, (s'.phase t).isTerminal = (s.phase t).isTerminal
  /-- Who has ended stays as it ended. -/
  final : ∀ t, (s.phase t).isTerminal = true → s'.phase t = s.phase t

variable {s s' s'' : State} {d d' : Desk} {c : Context} {hand hand' : List Resource} {a : Action}
  {as : List Action} {g t n : TaskId} {home : RuntimeId} {goal : Goal}

namespace State

theorem kind_of_origin (same : s'.origin n = s.origin n) : s'.kind? n = s.kind? n := by
  have kinds : ∀ x : State, x.kind? n = (x.origin n).map Prod.fst := fun x => by
    simp only [kind?, origin, Option.map_map]
    rfl
  rw [kinds, kinds, same]

theorem known_of_origin (same : s'.origin n = s.origin n) :
    s'.nodes.get? n = none ↔ s.nodes.get? n = none := by
  have unmade : ∀ x : State, x.origin n = none ↔ x.nodes.get? n = none := fun x => by simp [origin]
  rw [← unmade, ← unmade, same]

theorem ChildOf.of_origin (same : ∀ n, s'.origin n = s.origin n) (h : s'.ChildOf g t) :
    s.ChildOf g t :=
  ⟨by rw [← kind_of_origin (same g)]; exact h.group, by rw [← same]; exact h.task⟩

theorem tripped_eq (s : State) (g : TaskId) :
    s.tripped g = ((s.signals.get? g).map Signal.tripped).getD false := by
  cases found : s.signals.get? g <;> simp [tripped, found]

/-- A task that brings notice is known. -/
theorem Notifies.known (h : s.Notifies g t) : s.tasks.get? t ≠ none := by
  obtain ⟨i, told⟩ := h
  intro missing
  simp [notices, missing] at told

theorem Notifies.of_notices (h : s.Notifies g t) (same : s'.notices t = s.notices t) :
    s'.Notifies g t := by
  obtain ⟨i, told⟩ := h
  exact ⟨i, by rwa [same]⟩

theorem origin_modifyNode {f : Node → Node}
    (same : ∀ m, (f m).kind = m.kind ∧ (f m).parent = m.parent)
    (k : TaskId) : (s.modifyNode n f).origin k = s.origin k :=
  Store.map_get?_modify_same fun m => by rw [(same m).1, (same m).2]

end State

namespace Lulled

theorem trans (h : Lulled s s') (h' : Lulled s' s'') : Lulled s s'' where
  origin n := (h'.origin n).trans (h.origin n)
  signals g := (h'.signals g).trans (h.signals g)
  tasks t known := h.tasks t (h'.tasks t known)
  notices t := (h'.notices t).trans (h.notices t)
  phase t := (h'.phase t).trans (h.phase t)
  final t ended := (h'.final t ((h.phase t).trans ended)).trans (h.final t ended)

theorem of_same (nodes : s'.nodes = s.nodes) (tasks : s'.tasks = s.tasks)
    (signals : s'.signals = s.signals) : Lulled s s' where
  origin n := by rw [State.origin, State.origin, nodes]
  signals g := by rw [signals]
  tasks t known := by rwa [← tasks]
  notices t := by rw [State.notices, State.notices, tasks]
  phase t := by rw [State.phase, State.phase, nodes]
  final t _ := by rw [State.phase, State.phase, nodes]

theorem refl (s : State) : Lulled s s :=
  of_same rfl rfl rfl

theorem enqueue (r : RuntimeId) (p : Priority) (e : Entry) : Lulled s (s.enqueue r p e) := by
  obtain ⟨runtimes, agenda, eq⟩ := State.enqueue_eq s r p e
  rw [eq]
  exact of_same rfl rfl rfl

theorem post (a : ActorId) (r : RuntimeId) (message : Message) : Lulled s (s.post a r message) := by
  obtain ⟨actors, runtimes, agenda, eq⟩ := State.post_eq s a r message
  rw [eq]
  exact of_same rfl rfl rfl

theorem rephase {f : Node → Node} (ongoing : (s.phase n).isTerminal = false)
    (goes_on : ∀ m, (f m).phase.isTerminal = false)
    (same : ∀ m, (f m).kind = m.kind ∧ (f m).parent = m.parent) :
    Lulled s (s.modifyNode n f) :=
  have u := Undisturbed.rephase ongoing goes_on
  { origin := State.origin_modifyNode same
    signals := fun _ => rfl
    tasks := fun _ => id
    notices := u.notices
    phase := u.phase
    final := u.final }

theorem modifyTask {f : Task → Task}
    (same : ∀ m, (f m).waiters.filterMap Waker.notice? = m.waiters.filterMap Waker.notice?) :
    Lulled s (s.modifyTask t f) where
  origin _ := rfl
  signals _ := rfl
  tasks u known := fun missing => known (Store.get?_modify_eq_none.2 missing)
  notices u := by
    simp only [State.notices, State.modifyTask, Store.get?_modify]
    by_cases hu : t = u
    · cases s.tasks.get? u <;> simp [hu, same]
    · simp [hu]
  phase _ := rfl
  final _ _ := rfl

theorem modifySignal {f : Signal → Signal} (same : ∀ m, (f m).tripped = m.tripped) :
    Lulled s (s.modifySignal g f) where
  origin _ := rfl
  signals _ := Store.map_get?_modify_same same
  tasks _ := id
  notices _ := rfl
  phase _ := rfl
  final _ _ := rfl

/-- The groups know as much as before. -/
theorem tripped (h : Lulled s s') (g : TaskId) : s'.tripped g = s.tripped g := by
  rw [State.tripped_eq, State.tripped_eq, h.signals]

end Lulled

namespace Alert

theorem init : Alert {} where
  above n k p made := by cases made
  signal g group := by cases group
  waits g t child := by cases child.group
  alarm g t child := by cases child.group

theorem lulled (h : Alert s) (l : Lulled s s')
    (agenda : ∀ a ∈ s.agenda, a.alarms = true → a ∈ s'.agenda) : Alert s' where
  above n k p made := by
    have before := h.above n k p (by rwa [← l.origin])
    exact fun missing => before ((State.known_of_origin (l.origin p)).1 missing)
  signal g group := by
    have before := h.signal g (by rwa [← State.kind_of_origin (l.origin g)])
    rw [← Option.isSome_map (f := Signal.tripped), l.signals, Option.isSome_map]
    exact before
  waits g t child known ongoing :=
    (h.waits g t (child.of_origin l.origin) (l.tasks t known)
      ((l.phase t).symm.trans ongoing)).of_notices (l.notices t)
  alarm g t child failed := by
    have ended : (s.phase t).isTerminal = true := by
      rw [← l.phase, failed]
      rfl
    rw [l.tripped]
    refine (h.alarm g t (child.of_origin l.origin) ((l.final t ended).symm.trans failed)).imp id ?_
    rintro (⟨ahead, told⟩ | ⟨i, ahead⟩)
    · exact .inl ⟨agenda _ ahead rfl, told.of_notices (l.notices t)⟩
    · exact .inr ⟨i, agenda _ ahead rfl⟩

end Alert

/-! ### What an item of the agenda does -/

/-- No item makes a node or moves one. -/
theorem Effect.origin (e : Effect s a s') (n : TaskId) : s'.origin n = s.origin n := by
  cases e with
  | cancel | finish | orphan | notify =>
    exact State.origin_modifyNode (by exact fun _ => ⟨rfl, rfl⟩) n
  | reap | reapLast =>
    exact (State.origin_modifyNode (by exact fun _ => ⟨rfl, rfl⟩) n).trans
      (State.origin_modifyNode (by exact fun _ => ⟨rfl, rfl⟩) n)
  | resume =>
    rw [State.origin, State.nodes_enqueue]
    exact State.origin_modifyNode (by exact fun _ => ⟨rfl, rfl⟩) n
  | _ => rfl

/-- A group learns of a failure only from the child, and if it is the first one. -/
theorem Effect.tripped (e : Effect s a s') (g : TaskId) :
    (s'.signals.get? g).map Signal.tripped = (s.signals.get? g).map Signal.tripped ∨
      (s'.signals.get? g).isSome = (s.signals.get? g).isSome ∧ s.tripped g = false ∧
        ∃ i t, a = .wake (.member g i t) ∧ s.phase t = .failed := by
  cases e with
  | @trip h i t failed first =>
    by_cases mine : h = g
    · subst mine
      refine .inr ⟨?_, first, i, t, rfl, failed⟩
      simp [State.doFirst, State.log, State.tell, State.modifySignal, Store.get?_modify_self]
    · refine .inl ?_
      simp [State.doFirst, State.log, State.tell, State.modifySignal, Store.get?_modify_of_ne mine]
  | announce | silence => exact .inl (Store.map_get?_modify_same (by exact fun _ => rfl))
  | resume =>
    left
    obtain ⟨runtimes, agenda, eq⟩ := State.enqueue_eq _ _ _ _
    rw [eq]
    rfl
  | _ => exact .inl rfl

/-- No item makes a task. -/
theorem Effect.task_known (e : Effect s a s') (known : s'.tasks.get? t ≠ none) :
    s.tasks.get? t ≠ none := by
  obtain ⟨task', found'⟩ := Option.ne_none_iff_exists'.1 known
  obtain ⟨task, found, -⟩ := e.outcome found'
  exact Option.ne_none_iff_exists'.2 ⟨task, found⟩

theorem Action.tolls_of_alarms (h : a.alarms = true) : a.tolls = true := by
  cases a with
  | wake w => cases w with
    | task t => cases h
    | member => rfl
  | wakeWaiters => rfl
  | _ => cases h

theorem State.OfLine.calm (h : s.OfLine) : ∀ a ∈ s.agenda, a.alarms = false := by
  intro a ha
  rw [← Bool.not_eq_true]
  intro alarms
  cases (Hushed.tolls_of_ofLine (h a ha)).symm.trans (Action.tolls_of_alarms alarms)

/-- An item of the agenda leaves the others that lead to a group. -/
theorem Effect.alarms (hushed : Hushed (s.doFirst [a])) (e : Effect s a s') {b : Action}
    (ahead : b ∈ s.agenda) (alarms : b.alarms = true) : b ∈ s'.agenda := by
  cases e with
  | spent | orphan | reap | reportFailure | record | dropPending => exact ahead
  | panic message inside =>
    have quiet := hushed.calm inside b (List.mem_cons_of_mem _ ahead)
    cases quiet.symm.trans (Action.tolls_of_alarms alarms)
  | resume => exact State.subset_agenda_enqueue _ _ _ _ ahead
  | _ => exact List.mem_append_right _ ahead

/-- An item that neither leads to a group nor takes a task away. -/
theorem Effect.lulled (e : Effect s a s') (mild : a.alarms = false) (kept : ∀ t, a ≠ .bury t) :
    Lulled (s.doFirst [a]) s' := by
  have popped : Lulled (s.doFirst [a]) s := .of_same rfl rfl rfl
  refine popped.trans ?_
  by_cases other : a.rolls = false
  · have u := e.undisturbed other
    refine ⟨e.origin, fun g => (e.tripped g).resolve_right ?_, fun _ => e.task_known,
      u.notices, u.phase,
      u.final⟩
    rintro ⟨-, -, i, t, rfl, -⟩
    cases mild
  · cases e with
    | spent => exact .refl s
    | announce => exact (Lulled.modifySignal (by exact fun _ => rfl)).trans (.of_same rfl rfl rfl)
    | dissolve => exact .of_same rfl rfl rfl
    | wakeWaiters => cases mild
    | @bury t => exact absurd rfl (kept t)
    | _ => simp [Action.rolls] at other

namespace Alert

theorem pop (h : Alert (s.doFirst [a])) (vain : ∀ g t, a = .wakeWaiters t → ¬ s.Notifies g t)
    (other : ∀ g i t, a ≠ .wake (.member g i t)) : Alert s where
  above := h.above
  signal := h.signal
  waits g t child := h.waits g t ⟨child.group, child.task⟩
  alarm g t child failed := by
    refine (h.alarm g t ⟨child.group, child.task⟩ failed).imp id ?_
    rintro (⟨ahead, told⟩ | ⟨i, ahead⟩)
    · exact .inl ⟨(List.mem_cons.1 ahead).resolve_left fun same => vain g t same.symm told, told⟩
    · exact .inr ⟨i, (List.mem_cons.1 ahead).resolve_left fun same => other g i t same.symm⟩

theorem wakeWaiters {u : TaskId} {task : Task} (found : s.tasks.get? u = some task)
    (tether : Tether (s.doFirst [.wakeWaiters u])) (h : Alert (s.doFirst [.wakeWaiters u])) :
    Alert ((s.modifyTask u fun m => { m with waiters := [] }).doFirst
      (task.waiters.map .wake)) := by
  have other : ∀ t, t ≠ u →
      (s.modifyTask u fun m => { m with waiters := [] }).notices t = s.notices t := fun t ht =>
    State.notices_of_get? (Store.get?_modify_of_ne (Ne.symm ht))
  have ended := (tether.leaving u List.mem_cons_self).1
  refine ⟨h.above, h.signal, fun g t child known ongoing => ?_, fun g t child failed => ?_⟩
  · have ht : t ≠ u := by
      rintro rfl
      cases ended.symm.trans ongoing
    have told := h.waits g t ⟨child.group, child.task⟩
      (fun missing => known (Store.get?_modify_eq_none.2 missing)) ongoing
    exact told.of_notices (other t ht)
  · refine (h.alarm g t ⟨child.group, child.task⟩ failed).imp id ?_
    rintro (⟨ahead, told⟩ | ⟨i, ahead⟩)
    · by_cases ht : t = u
      · -- the notice becomes an item of its own
        subst ht
        obtain ⟨i, told⟩ := told
        refine .inr ⟨i, List.mem_append_left _ ?_⟩
        have told : ⟨g, i, t⟩ ∈ task.waiters.filterMap Waker.notice? := by
          simpa [State.notices, State.doFirst, found] using told
        obtain ⟨w, mem, notice⟩ := List.mem_filterMap.1 told
        cases w with
        | task v => cases notice
        | member h j v =>
          cases notice
          exact List.mem_map_of_mem mem
      · have ahead : .wakeWaiters t ∈ s.agenda := by
          rcases List.mem_cons.1 ahead with same | behind
          · cases same
            exact absurd rfl ht
          · exact behind
        exact .inl ⟨List.mem_append_right _ ahead, told.of_notices (other t ht)⟩
    · rcases List.mem_cons.1 ahead with same | behind
      · cases same
      · exact .inr ⟨i, List.mem_append_right _ behind⟩

theorem wakeMember {h : TaskId} {i : Nat} {u : TaskId} (e : Effect s (.wake (.member h i u)) s')
    (hushed : Hushed (s.doFirst [.wake (.member h i u)]))
    (alert : Alert (s.doFirst [.wake (.member h i u)])) : Alert s' := by
  have u := e.undisturbed rfl
  have known : ∀ g, s.tripped g = true → s'.tripped g = true := by
    intro g before
    rcases e.tripped g with same | ⟨-, fresh, -⟩
    · rw [State.tripped_eq, same, ← State.tripped_eq, before]
    · cases before.symm.trans fresh
  refine ⟨fun n k p made missing => ?_, fun g group => ?_, fun g t child known ongoing => ?_,
    fun g t child failed => ?_⟩
  · exact alert.above n k p (by rwa [e.origin] at made)
      ((State.known_of_origin (e.origin p)).1 missing)
  · rw [u.signals]
    exact alert.signal g (by rwa [State.kind_of_origin (e.origin g)] at group)
  · have before := child.of_origin e.origin
    refine (alert.waits g t ⟨before.group, before.task⟩ (e.task_known known) ?_).of_notices
      (u.notices t)
    exact (u.phase t).symm.trans ongoing
  · have before := child.of_origin e.origin
    have ended : (s.phase t).isTerminal = true := by
      rw [← u.phase, failed]
      rfl
    -- this item has failed nobody, so the child had failed before
    have failed' : s.phase t = .failed := (u.final t ended).symm.trans failed
    have still : ∀ b ∈ s.agenda, b.alarms = true → b ∈ s'.agenda := fun b => e.alarms hushed
    rcases alert.alarm g t ⟨before.group, before.task⟩ failed' with tripped | alarms
    · exact .inl (known g tripped)
    · rcases alarms with ⟨ahead, told⟩ | ⟨j, ahead⟩
      · rcases List.mem_cons.1 ahead with same | behind
        · cases same
        · exact .inr (.inl ⟨still _ behind rfl, told.of_notices (u.notices t)⟩)
      · rcases List.mem_cons.1 ahead with same | behind
        · -- the group is told now
          left
          cases same
          cases e with
          | spent why => cases why
          | inform _ _ _ late => exact late failed'
          | trip =>
            obtain ⟨signal, there⟩ := Option.isSome_iff_exists.1 (alert.signal _ before.group)
            have there : s.signals.get? h = some signal := there
            simp [State.tripped, State.doFirst, State.log, State.tell, State.modifySignal,
              Store.get?_modify_self, there]
        · exact .inr (.inr ⟨j, still _ behind rfl⟩)

theorem bury {u : TaskId} {task : Task} (tether : Tether (s.doFirst [.bury u]))
    (h : Alert (s.doFirst [.bury u])) :
    Alert ({ s with tasks := s.tasks.erase u }.doFirst (task.waiters.map Waker.forget)) := by
  have loose := tether.buried u List.mem_cons_self
  have other : ∀ t, t ≠ u →
      ({ s with tasks := s.tasks.erase u } : State).notices t = s.notices t := by
    intro t ht
    refine State.notices_of_get? ?_
    rw [Store.get?_erase, if_neg (Ne.symm ht)]
  refine ⟨h.above, h.signal, fun g t child known ongoing => ?_, fun g t child failed => ?_⟩
  · have ht : t ≠ u := by
      rintro rfl
      exact known (by rw [State.doFirst, Store.get?_erase, if_pos rfl])
    have known' : s.tasks.get? t ≠ none := by
      rwa [State.doFirst, Store.get?_erase, if_neg (Ne.symm ht)] at known
    exact (h.waits g t ⟨child.group, child.task⟩ known' ongoing).of_notices (other t ht)
  · refine (h.alarm g t ⟨child.group, child.task⟩ failed).imp id ?_
    rintro (⟨ahead, told⟩ | ⟨i, ahead⟩)
    · have behind : .wakeWaiters t ∈ s.agenda := (List.mem_cons.1 ahead).resolve_left (by simp)
      have ht : t ≠ u := by
        rintro rfl
        obtain ⟨r, during⟩ := (tether.leaving t ahead).2
        exact loose.slice_ne r _ during
      exact .inl ⟨List.mem_append_right _ behind, told.of_notices (other t ht)⟩
    · have behind : .wake (.member g i t) ∈ s.agenda :=
        (List.mem_cons.1 ahead).resolve_left (by simp)
      exact .inr ⟨i, List.mem_append_right _ behind⟩

/-- **An item of the agenda** leads on to the group, until it knows. -/
theorem effect (sound : Sound (s.doFirst [a]) d) (e : Effect s a s')
    (h : Alert (s.doFirst [a])) : Alert s' := by
  have mildly : a.alarms = false → (∀ t, a ≠ .bury t) → Alert s' := by
    intro mild kept
    refine h.lulled (e.lulled mild kept) fun b hb alarms => ?_
    rcases List.mem_cons.1 hb with rfl | behind
    · cases mild.symm.trans alarms
    · exact e.alarms sound.hushed behind alarms
  cases a with
  | wakeWaiters u =>
    cases e with
    | spent missing =>
      refine h.pop (fun g t same told => ?_) (by simp)
      cases same
      exact told.known missing
    | wakeWaiters found => exact h.wakeWaiters found sound.tether
  | bury u =>
    cases e with
    | spent => exact h.pop (by simp) (by simp)
    | bury found => exact h.bury sound.tether
  | wake w =>
    cases w with
    | task t => exact mildly rfl (by simp)
    | member g i t => exact h.wakeMember e sound.hushed
  | _ => exact mildly rfl (by simp)

/-! ### What a line does -/

theorem tripped_of_quiet (h : Alert s) (quiet : ∀ a ∈ s.agenda, a.alarms = false)
    (child : s.ChildOf g t) (failed : s.phase t = .failed) : s.tripped g = true := by
  refine (h.alarm g t child failed).resolve_right ?_
  rintro (⟨ahead, -⟩ | ⟨i, ahead⟩) <;> cases quiet _ ahead

theorem lull (h : Alert s) (calm : ∀ a ∈ s.agenda, a.alarms = false) (l : Lulled s s') :
    Alert s' ∧ ∀ g, s'.tripped g = true → s.tripped g = true :=
  ⟨h.lulled l (fun a ha alarms => absurd alarms (by simp [calm a ha])),
    fun g known => by rwa [l.tripped] at known⟩

/-- A node is made, below one that is known; a group has its signal already, and a task has not
been made. -/
theorem grow (h : Alert s) (unmade : s.nodes.get? s.nextNode = none)
    (fresh : s.tasks.get? s.nextNode = none) {kind : NodeKind} {priority : Priority}
    {parent : Option TaskId} {p : Phase} {nodes : Store TaskId Node}
    (grown : Grown s kind priority parent p nodes) (ongoing : p.isTerminal = false)
    (known : ∀ q, parent = some q → s.nodes.get? q ≠ none)
    (ready : kind = .group → (s.signals.get? s.nextNode).isSome = true)
    (quiet : ∀ a ∈ s.agenda, a.alarms = false) (trace : Array Event) :
    Alert { s with nodes := nodes, trace := trace } := by
  obtain ⟨b, new⟩ := grown.new
  have old : ∀ n, n ≠ s.nextNode →
      ({ s with nodes := nodes, trace := trace } : State).origin n = s.origin n := fun n hn =>
    grown.field (g := fun m => (m.kind, m.parent)) (fun _ _ => rfl) hn
  have phase : ∀ n, n ≠ s.nextNode →
      ({ s with nodes := nodes, trace := trace } : State).phase n = s.phase n :=
    fun n => grown.phase_old rfl
  have made : ∀ n, s.nodes.get? n ≠ none → nodes.get? n ≠ none := by
    intro n there missing
    have hn : n ≠ s.nextNode := by
      rintro rfl
      exact there unmade
    exact there ((State.known_of_origin (old n hn)).1 missing)
  -- nobody was attached to the new node
  have before : ∀ {g t}, t ≠ s.nextNode →
      ({ s with nodes := nodes, trace := trace } : State).ChildOf g t → s.ChildOf g t := by
    intro g t ht child
    have task : s.origin t = some (.task, some g) := (old t ht).symm.trans child.task
    have hg : g ≠ s.nextNode := by
      rintro rfl
      exact h.above t _ _ task unmade
    exact ⟨(State.kind_of_origin (old g hg)).symm.trans child.group, task⟩
  refine ⟨fun n k q attached => ?_, fun g group => ?_, fun g t child there going => ?_,
    fun g t child failed => ?_⟩
  · by_cases hn : n = s.nextNode
    · subst hn
      simp only [State.origin, new, Option.map_some, Option.some.injEq, Prod.mk.injEq] at attached
      exact made q (known q attached.2)
    · exact made q (h.above n k q ((old n hn).symm.trans attached))
  · by_cases hg : g = s.nextNode
    · subst hg
      refine ready ?_
      simpa [State.kind?, new] using group
    · exact h.signal g ((State.kind_of_origin (old g hg)).symm.trans group)
  · have ht : t ≠ s.nextNode := by
      rintro rfl
      exact there fresh
    exact h.waits g t (before ht child) there ((phase t ht) ▸ going)
  · by_cases ht : t = s.nextNode
    · subst ht
      rw [(grown.phase_new rfl).symm.trans failed] at ongoing
      cases ongoing
    · exact .inl (h.tripped_of_quiet quiet (before ht child) ((phase t ht).symm.trans failed))

theorem setTask (h : Alert s) (task : Task)
    (told : ∀ g, s.ChildOf g n → ∃ i, .member g i n ∈ task.waiters)
    (quiet : ∀ a ∈ s.agenda, a.alarms = false) :
    Alert { s with tasks := s.tasks.set n task } := by
  refine ⟨h.above, h.signal, fun g t child known ongoing => ?_, fun g t child failed =>
    .inl (h.tripped_of_quiet quiet ⟨child.group, child.task⟩ failed)⟩
  by_cases ht : n = t
  · subst ht
    obtain ⟨i, mem⟩ := told g ⟨child.group, child.task⟩
    refine ⟨i, ?_⟩
    simp only [State.notices, Store.get?_set_self, Option.map_some, Option.getD_some]
    exact List.mem_filterMap.2 ⟨_, mem, rfl⟩
  · have same : (s.tasks.set n task).get? t = s.tasks.get? t := Store.get?_set_of_ne ht
    exact (h.waits g t ⟨child.group, child.task⟩ (by rwa [← same]) ongoing).of_notices
      (State.notices_of_get? same)

theorem newTask (h : Alert s) (formed : Formed s) {priority : Priority} {parent : Option TaskId}
    {nodes : Store TaskId Node} (grown : Grown s .task priority parent .ready nodes) (task : Task)
    (above : ∀ p, parent = some p → s.kind? p = some .task ∨
      ∃ i, s.kind? p = some .group ∧ .member p i s.nextNode ∈ task.waiters)
    (quiet : ∀ a ∈ s.agenda, a.alarms = false) (trace : Array Event) (r : RuntimeId)
    (groups : Store TaskId Group) :
    Alert ({ s with
      nodes := nodes, trace := trace, tasks := s.tasks.set s.nextNode task, groups := groups
      }.enqueue r priority (.task s.nextNode)) := by
  obtain ⟨b, new⟩ := grown.new
  have known : ∀ p, parent = some p → s.nodes.get? p ≠ none := by
    intro p up missing
    rcases above p up with task | ⟨i, group, -⟩
    · simp [State.kind?, missing] at task
    · simp [State.kind?, missing] at group
  have made : Alert { s with nodes := nodes, trace := trace } :=
    h.grow (State.fresh_nextNode formed.nodes) formed.fresh_task grown rfl known (by simp) quiet
      trace
  have launched : Alert { s with
      nodes := nodes, trace := trace, tasks := s.tasks.set s.nextNode task } := by
    refine made.setTask task (fun g child => ?_) quiet
    have parent' : parent = some g := by simpa [State.origin, new] using child.task
    have hg : g ≠ s.nextNode := by
      rintro rfl
      exact known _ parent' (State.fresh_nextNode formed.nodes)
    have group : s.kind? g = some .group :=
      (grown.field (g := Node.kind) (fun _ _ => rfl) hg).symm.trans child.group
    rcases above g parent' with task | ⟨i, -, told⟩
    · cases task.symm.trans group
    · exact ⟨i, told⟩
  refine launched.lulled (Lulled.trans ?_ (.enqueue ..)) fun a ha _ =>
    State.subset_agenda_enqueue _ _ _ _ ha
  exact .of_same rfl rfl rfl

/-- **A line** adds children that will tell their group, and leaves the others alone. -/
theorem change (formed : Formed s) (apart : ∀ p, c.task = some p → s.kind? p = some .task)
    (lines : s.OfLine) (hc : Change c s hand s' hand') (h : Alert s) :
    Alert s' ∧ ∀ g, s'.tripped g = true → s.tripped g = true := by
  have calm := lines.calm
  have lull : Lulled s s' → Alert s' ∧ ∀ g, s'.tripped g = true → s.tripped g = true :=
    h.lull calm
  have silent : ∀ {x : State} {r : RuntimeId} {p : Priority} {e : Entry} (g : TaskId),
      x.signals = s.signals → (x.enqueue r p e).tripped g = true → s.tripped g = true := by
    intro x r p e g same known
    rwa [(Lulled.enqueue r p e).tripped, State.tripped, same] at known
  -- only a new group and a new child have something to tell
  have unmade := State.fresh_nextNode formed.nodes
  cases hc with
  | tell | shed | nameTask | adopt | share | actor | refuse | learn | expect | park | state
  | record | release | cancel | wake | fail => exact lull (.of_same rfl rfl rfl)
  | listen | draw =>
    exact lull ((Lulled.modifySignal (by exact fun _ => rfl)).trans (.of_same rfl rfl rfl))
  | register => exact lull (.modifyTask fun m => by simp [Waker.notice?])
  | take => exact lull (.modifyTask (by exact fun m => rfl))
  | call =>
    refine lull (Lulled.trans ?_ (.post ..))
    exact .of_same rfl rfl rfl
  | send => exact lull (.post ..)
  | @spawn home parent priority body idle built up =>
    obtain ⟨nodes, trace, grown, eq⟩ :=
      State.launch_addNode_eq formed.nodes priority parent home body false
    rw [eq]
    refine ⟨h.newTask formed grown _ (fun p above => .inl ?_) calm trace home s.groups,
      fun g => silent g rfl⟩
    exact apart p ((up.resolve_left (by simp [above])).symm.trans above)
  | @add g group priority body idle mine found =>
    obtain ⟨nodes, trace, p, grown, eq⟩ :=
      State.addChild_eq formed.nodes formed.fresh_task g group priority body
    rw [eq]
    refine ⟨h.newTask formed grown _ (fun q above => .inr ?_) calm trace group.home _,
      fun g => silent g rfl⟩
    cases above
    exact ⟨_, formed.groups g group found, List.mem_singleton_self _⟩
  | @group home =>
    obtain ⟨nodes, trace, priority, grown, eq⟩ := State.makeGroup_eq formed.nodes c home
    -- the new group has a signal of its own, and no children yet
    have heard : Alert { s with
        groups := s.groups.set s.nextNode { home := home }
        signals := s.signals.set s.nextNode {} } := by
      have other : ∀ g, s.kind? g = some .group → s.nextNode ≠ g := by
        rintro g group rfl
        simp [State.kind?, unmade] at group
      refine ⟨h.above, fun g group => ?_, fun g t child =>
        h.waits g t ⟨child.group, child.task⟩, fun g t child failed => .inl ?_⟩
      · rw [Store.get?_set_of_ne (other g group)]
        exact h.signal g group
      · rw [State.tripped, Store.get?_set_of_ne (other g child.group)]
        exact h.tripped_of_quiet calm ⟨child.group, child.task⟩ failed
    have grown' : Grown { s with
        groups := s.groups.set s.nextNode { home := home }
        signals := s.signals.set s.nextNode {} } .group priority c.task .suspended nodes :=
      ⟨grown.new, grown.old, grown.numbered, grown.inherits⟩
    rw [eq]
    refine ⟨heard.grow unmade formed.fresh_task grown' rfl (fun p above missing => ?_)
      (fun _ => ?_) calm trace, fun g known => ?_⟩
    · have task := apart p above
      rw [State.kind?, show s.nodes.get? p = none from missing] at task
      cases task
    · exact Option.isSome_iff_exists.2 ⟨_, Store.get?_set_self⟩
    · by_cases hg : s.nextNode = g
      · subst hg
        simp [State.tripped, Store.get?_set_self] at known
      · rwa [State.tripped, Store.get?_set_of_ne hg] at known

/-- **Lines** do so one change after the other. -/
theorem changes (formed : Formed s) (apart : ∀ p, c.task = some p → s.kind? p = some .task)
    (lines : s.OfLine) (hc : Changes c s hand s' hand') (h : Alert s) :
    Alert s' ∧ (∀ g, s'.tripped g = true → s.tripped g = true) ∧ s'.OfLine := by
  have key := hc.invariant (I := fun x _ => (Formed x ∧ Keeps s x) ∧ Alert x ∧
    (∀ g, x.tripped g = true → s.tripped g = true) ∧ x.OfLine) (fun {x x' hand hand'} hc h => ?_)
    ⟨⟨formed, .refl s⟩, h, fun _ => id, lines⟩
  · exact key.2
  · obtain ⟨⟨formed', keeps⟩, alert, known, lines'⟩ := h
    have apart' : ∀ p, c.task = some p → x.kind? p = some .task := by
      intro p me
      obtain ⟨node, found, kind⟩ := Option.map_eq_some_iff.1 (apart p me)
      obtain ⟨cs, found'⟩ := keeps.nodes p node found
      simp [State.kind?, found', kind]
    obtain ⟨alert', known'⟩ := alert.change formed' apart' lines' hc
    exact ⟨⟨formed'.change hc, keeps.trans (.change formed' hc)⟩, alert',
      fun g now => known g (known' g now), lines'.change formed' hc⟩

/-! ### What a worker and the main thread do -/

theorem line {s₁ : State} (sound : Sound s d) (idle : s.agenda = []) {base : List Resource}
    (seat : Seated s c base) (changes : Changes c s hand s₁ hand') (l : Lulled s₁ s')
    (h : Alert s) : Alert s' ∧ ∀ g, s'.tripped g = true → s.tripped g = true := by
  have apart : ∀ p, c.task = some p → s.kind? p = some .task := by
    rintro p me
    cases seat with
    | body runs =>
      cases me
      exact sound.formed.tasks _ _ runs.found
    | handler | main => cases me
  obtain ⟨alert, known, lines⟩ := h.changes sound.formed apart (.idle idle) changes
  obtain ⟨alert', known'⟩ := alert.lull lines.calm l
  exact ⟨alert', fun g now => known g (known' g now)⟩

/-- **The end of a task** leads to its group. -/
theorem complete (h : Alert s) (idle : s.agenda = []) (known : s.tasks.get? t ≠ none)
    (ongoing : (s.phase t).isTerminal = false) {p : Phase}
    (nodes : s'.nodes = s.nodes.modify t fun m => { m with joining := false, phase := p })
    (tasks : s'.tasks = s.tasks) (signals : s'.signals = s.signals)
    (agenda : s'.agenda = [.finish t, .wakeWaiters t, .reportFailure t]) : Alert s' := by
  have origin : ∀ n, s'.origin n = s.origin n := fun n => by
    rw [State.origin, nodes]
    exact Store.map_get?_modify_same fun _ => by rfl
  have notices : ∀ u, s'.notices u = s.notices u := fun u => State.notices_of_get? (by rw [tasks])
  have others : ∀ u, u ≠ t → s'.phase u = s.phase u := by
    intro u hu
    rw [State.phase, nodes, Store.get?_modify_of_ne (Ne.symm hu)]
    rfl
  have quiet : ∀ a ∈ s.agenda, a.alarms = false := by simp [idle]
  have kept : ∀ n, s'.nodes.get? n = none ↔ s.nodes.get? n = none := fun n =>
    State.known_of_origin (origin n)
  refine ⟨fun n k q made => ?_, fun g group => ?_, fun g u child there going => ?_,
    fun g u child failed => ?_⟩
  · rw [ne_eq, kept]
    exact h.above n k q (by rwa [← origin])
  · rw [signals]
    exact h.signal g (by rwa [← State.kind_of_origin (origin g)])
  · rw [tasks] at there
    by_cases hu : u = t
    · subst hu
      exact (h.waits g u (child.of_origin origin) there ongoing).of_notices (notices u)
    · exact (h.waits g u (child.of_origin origin) there ((others u hu).symm ▸ going)).of_notices
        (notices u)
  · by_cases hu : u = t
    · subst hu
      refine .inr (.inl ⟨by simp [agenda], ?_⟩)
      exact (h.waits g u (child.of_origin origin) known ongoing).of_notices (notices u)
    · left
      rw [State.tripped, signals]
      exact h.tripped_of_quiet quiet (child.of_origin origin) ((others u hu).symm.trans failed)

/-- **What a worker does** leads to the group of a task that ends, and else it adds children that
will tell their group. -/
theorem work (sound : Sound s d) (idle : s.agenda = []) (w : Work s home s') (h : Alert s) :
    Alert s' ∧ ∀ g, s'.tripped g = true → s.tripped g = true := by
  have dispatch := sound.dispatch
  have still : Lulled s s' → Alert s' ∧ ∀ g, s'.tripped g = true → s.tripped g = true :=
    h.lull (by simp [idle])
  have ongoing : ∀ {t : TaskId}, s.phase t = .running ∨ s.phase t = .notified →
      (s.phase t).isTerminal = false := by
    intro t up
    rcases up with up | up <;> rw [up] <;> rfl
  have body : ∀ (t : TaskId) (f : Option Fiber) (x : State),
      Lulled x (x.modifyTask t fun m => { m with fiber := f }) := fun t f x =>
    .modifyTask fun _ => by rfl
  have moved : ∀ (x : State) (r : RuntimeId) (slice : Option Slice),
      Lulled x (x.setSlice r slice) := fun _ _ _ => .of_same rfl rfl rfl
  have pends : ∀ (t : TaskId) (joining : Node → Bool) (p : Phase), (s.phase t).isTerminal = false →
      p.isTerminal = false → Lulled s ((s.setSlice home none).modifyNode t fun m =>
        { m with joining := joining m, phase := p }) := fun t joining p before after =>
    (moved ..).trans (.rephase before (fun _ => after) fun _ => ⟨rfl, rfl⟩)
  -- only the end of a task leads to a group
  cases w with
  | next runs _ changes => exact h.line sound idle (.body runs) changes (body ..)
  | suspend runs _ changes =>
    exact h.line sound idle (.body runs) changes ((body ..).trans (moved ..))
  | pause _ runs _ changes | ends _ runs changes =>
    exact h.line sound idle (.body runs) changes ((body ..).trans (.of_same rfl rfl rfl))
  | handle during changes | hold _ during changes | handled _ during changes =>
    exact h.line sound idle (.handler during) changes (.of_same rfl rfl rfl)
  | rest during why =>
    have goes_on := ongoing (dispatch.ongoing_of_waits during why)
    exact still ((pends _ _ _ goes_on rfl).trans (.of_same rfl rfl rfl))
  | @again t task stage joining during why =>
    have goes_on := ongoing (dispatch.ongoing_of_waits during why)
    refine still ((pends t joining .ready goes_on rfl).trans (.trans ?_ (.enqueue ..)))
    exact .of_same rfl rfl rfl
  | forgotten during why =>
    exact still (pends _ _ _ (ongoing (dispatch.ongoing_of_waits during why)) rfl)
  | @endBody t ending f trace cancelled during only =>
    have same : ∀ m, (f m).waiters = m.waiters := fun m => by
      obtain ⟨o, b, eq⟩ := only m
      rw [eq]
    exact still (((moved ..).trans (.modifyTask fun m => by rw [same])).trans
      (.of_same rfl rfl rfl))
  | @complete t stage p trace during past =>
    refine ⟨h.complete idle ?_ (ongoing (dispatch.ongoing_of_over during past)) rfl rfl rfl
      (by simp [State.doFirst, State.modifyNode, State.setSlice, State.modifyRuntime, idle]),
      fun _ => id⟩
    obtain ⟨task, found⟩ := dispatch.known home t stage during
    simp [found]
  | @begin t queue takes =>
    have ready : (s.popped home queue).phase t = .ready := (dispatch.taken takes).2.1
    have taken : Lulled s (s.popped home queue) := .of_same rfl rfl rfl
    have begins : Lulled (s.popped home queue) ((s.popped home queue).setPhase t .running) :=
      .rephase (by rw [ready]; rfl) (fun _ => by rfl) fun _ => ⟨rfl, rfl⟩
    exact still ((taken.trans begins).trans (moved ..))
  | @drainAgain a handled actor =>
    have ends : Lulled s ((s.setSlice home none).log (.drained a handled)) := .of_same rfl rfl rfl
    exact still (ends.trans (.enqueue ..))
  | @markerAgain serial queue band goal =>
    have taken : Lulled s (s.popped home queue) := .of_same rfl rfl rfl
    exact still ((taken.trans (.enqueue ..)).trans (.of_same rfl rfl rfl))
  | _ => exact still (.of_same rfl rfl rfl)

/-- **The main thread** makes root tasks and runs lines. -/
theorem move (sound : Sound s d) (idle : s.agenda = []) (m : Move s d s' d') (h : Alert s) :
    Alert s' ∧ ∀ g, s'.tripped g = true → s.tripped g = true := by
  have calm : ∀ a ∈ s.agenda, a.alarms = false := by simp [idle]
  have still : Lulled s s' → Alert s' ∧ ∀ g, s'.tripped g = true → s.tripped g = true :=
    h.lull calm
  have start : ∀ (x : State) (r : RuntimeId) (goal : Goal), Lulled x (x.start r goal) := by
    intro x r goal
    obtain ⟨trace, eq⟩ := x.start_eq r goal
    rw [eq]
    exact .of_same rfl rfl rfl
  cases m with
  | build place batch stem =>
    rcases s.build_cases place batch stem with same | ⟨-, settings, built⟩
    · rw [same]
      exact ⟨h, fun _ => id⟩
    · rw [built]
      exact h.lull calm (.of_same rfl rfl rfl)
  | start | block | join => exact still (start ..)
  | @startRounds _ r _ rounds band =>
    have marked : Lulled s { s with markers := s.markers + 1 } := .of_same rfl rfl rfl
    exact still ((marked.trans (.enqueue r band _)).trans (start ..))
  | @launchRoot _ r _ body =>
    obtain ⟨nodes, trace, grown, eq⟩ :=
      State.launch_addNode_eq sound.formed.nodes .normal none r body true
    rw [State.launchRoot, eq]
    refine ⟨h.newTask sound.formed grown _ (by simp) calm trace r s.groups, fun g known => ?_⟩
    rwa [(Lulled.enqueue ..).tripped] at known
  | leaveRoot => exact still ((Lulled.modifyTask fun _ => by rfl).trans (.of_same rfl rfl rfl))
  | close => exact still (.of_same rfl rfl rfl)
  | line plain => exact h.line sound idle .main (State.plain?_fits idle plain) (.refl _)
  | @shelve f => exact h.line sound idle .main (State.shelve_changes f s []) (.refl _)

end Alert

/-- **In every reachable state** a failed child has tripped its group, or the agenda leads there. -/
theorem Reachable.alert (h : Reachable s d) : Alert s := by
  induction h with
  | init => exact .init
  | next h t ih =>
    have sound := h.sound
    cases t with
    | step =>
      have next := State.step_cases sound.wakeful.waitsOnOwn
      generalize State.step _ = s' at next
      cases next with
      | item first e =>
        subst first
        exact ih.effect sound e
      | work idle _ w => exact (ih.work sound idle w).1
      | rest => exact ih
    | stray idle => exact ih.lulled (.of_same rfl rfl rfl) (by simp [idle])
    | move rests m => exact (ih.move sound (State.idle_of_resting rests) m).1

/-- **A group is tripped** by its first child that fails. -/
theorem Transition.tripped (h : Reachable s d) (tr : Transition s d s' d')
    (known : s'.tripped g = true) : s.tripped g = true ∨ s.tripped g = false ∧ s' = s.step ∧
      ∃ i t rest, s.agenda = .wake (.member g i t) :: rest ∧ s.phase t = .failed := by
  have sound := h.sound
  cases tr with
  | step =>
    have next := State.step_cases sound.wakeful.waitsOnOwn
    generalize step : s.step = x at next known
    cases next with
    | @item a s₀ x first e =>
      subst first
      rcases e.tripped g with same | ⟨-, fresh, i, t, rfl, failed⟩
      · left
        rwa [State.tripped_eq, same, ← State.tripped_eq] at known
      · exact .inr ⟨fresh, rfl, i, t, s₀.agenda, rfl, failed⟩
    | work idle _ w => exact .inl ((h.alert.work sound idle w).2 g known)
    | rest => exact .inl known
  | stray idle => exact .inl known
  | move rests m => exact .inl ((h.alert.move sound (State.idle_of_resting rests) m).2 g known)

end Nursery
