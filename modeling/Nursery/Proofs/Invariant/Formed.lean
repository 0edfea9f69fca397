import Nursery.Proofs.Step.Agenda
import Nursery.Proofs.Step.Main
import Nursery.Proofs.Step.Worker

/-!
# Names

Every record is listed once and under a name of its own: nodes, calls, actors and runtimes are
numbered, a task or a group has a node of its kind, and the node of a group never moves from its
first phase.

* `Formed` : the invariant.
* `Formed.effect`, `Formed.change`, `Formed.work`, `Formed.move` : it is kept.
-/

namespace Nursery

/-- What a node stands for, if it is known. -/
def State.kind? (s : State) (n : TaskId) : Option NodeKind :=
  (s.nodes.get? n).map Node.kind

/-- Every record is listed once and under a name of its own. -/
structure Formed (s : State) : Prop where
  /-- The next node is a new one. -/
  nodes : s.nodes.Numbered TaskId.index
  /-- The next call is a new one. -/
  calls : s.calls.Numbered CallId.index
  /-- The next actor is a new one. -/
  actors : s.actors.Numbered ActorId.index
  /-- The next runtime is a new one. -/
  runtimes : s.runtimes.Numbered RuntimeId.index
  /-- A task has a node. -/
  tasks : ∀ t task, s.tasks.get? t = some task → s.kind? t = some .task
  /-- A group has a node. -/
  groups : ∀ g group, s.groups.get? g = some group → s.kind? g = some .group
  /-- The node of a group stays as it is. -/
  still : ∀ n, s.kind? n = some .group → s.phase n = .suspended
  /-- Every task is listed once. -/
  distinctTasks : s.tasks.Distinct
  /-- Every group is listed once. -/
  distinctGroups : s.groups.Distinct
  /-- Every runtime is listed once. -/
  distinctRuntimes : s.runtimes.Distinct
  /-- Every actor is listed once. -/
  distinctActors : s.actors.Distinct
  /-- Every actor that has a name was made. -/
  named : ∀ name a, s.actorNames.get? name = some a → ∃ actor, s.actors.get? a = some actor

namespace Formed

variable {s s' : State} {c : Context} {hand hand' : List Resource}

theorem init : Formed {} where
  nodes := Store.numbered_empty
  calls := Store.numbered_empty
  actors := Store.numbered_empty
  runtimes := Store.numbered_empty
  tasks t task h := by simp [Store.get?, Store.lookup] at h
  groups g group h := by simp [Store.get?, Store.lookup] at h
  still n h := by simp [State.kind?, Store.get?, Store.lookup] at h
  distinctTasks := Store.distinct_empty
  distinctGroups := Store.distinct_empty
  distinctRuntimes := Store.distinct_empty
  distinctActors := Store.distinct_empty
  named name a h := by simp [Store.get?, Store.lookup] at h

/-! ### Records that are new -/

theorem fresh_task (h : Formed s) : s.tasks.get? s.nextNode = none := by
  cases ht : s.tasks.get? s.nextNode with
  | none => rfl
  | some task =>
    have := h.tasks _ _ ht
    simp [State.kind?, State.fresh_nextNode h.nodes] at this

theorem fresh_group (h : Formed s) : s.groups.get? s.nextNode = none := by
  cases hg : s.groups.get? s.nextNode with
  | none => rfl
  | some group =>
    have := h.groups _ _ hg
    simp [State.kind?, State.fresh_nextNode h.nodes] at this

theorem fresh_call (h : Formed s) : s.calls.get? s.nextCall = none :=
  h.calls.fresh rfl

theorem not_group_of_phase (h : Formed s) {n : TaskId} (hp : s.phase n ≠ .suspended) :
    s.kind? n ≠ some .group :=
  fun hk => hp (h.still n hk)

theorem not_group_of_task (h : Formed s) {t : TaskId} {task : Task}
    (ht : s.tasks.get? t = some task) : s.kind? t ≠ some .group := by
  rw [h.tasks t task ht]
  simp

/-! ### Changes to one record -/

theorem tell (h : Formed s) (e : Event) : Formed (s.tell e) :=
  { h with }

theorem doFirst (h : Formed s) (actions : List Action) : Formed (s.doFirst actions) :=
  { h with }

theorem modifyNode (h : Formed s) {n : TaskId} {f : Node → Node}
    (kind : ∀ m, (f m).kind = m.kind)
    (still : (∀ m, (f m).phase = m.phase) ∨ s.kind? n ≠ some .group) :
    Formed (s.modifyNode n f) := by
  have same : ∀ m, (s.modifyNode n f).kind? m = s.kind? m :=
    fun m => Store.map_get?_modify_same kind
  refine { h with
    nodes := h.nodes.modify n f
    tasks := fun t task ht => (same t).trans (h.tasks t task ht)
    groups := fun g group hg => (same g).trans (h.groups g group hg)
    still := fun m hm => ?_ }
  have hm' := (same m).symm.trans hm
  rcases still with phase | other
  · exact (State.phase_modifyNode_same phase).trans (h.still m hm')
  · have hnm : n ≠ m := by
      rintro rfl
      exact other hm'
    exact (State.phase_modifyNode_of_ne hnm).trans (h.still m hm')

theorem modifyTask (h : Formed s) (t : TaskId) (f : Task → Task) : Formed (s.modifyTask t f) := by
  refine { h with
    tasks := fun u task hu => ?_
    distinctTasks := h.distinctTasks.modify t f }
  obtain ⟨a, ha, -⟩ := Store.get?_modify_eq_some.1 hu
  exact h.tasks u a ha

theorem eraseTask (h : Formed s) (t : TaskId) : Formed { s with tasks := s.tasks.erase t } := by
  refine { h with
    tasks := fun u task hu => h.tasks u task ?_
    distinctTasks := h.distinctTasks.erase t }
  simp only [Store.get?_erase] at hu
  split at hu
  · simp at hu
  · exact hu

theorem modifyGroup (h : Formed s) (g : TaskId) (f : Group → Group) :
    Formed (s.modifyGroup g f) := by
  refine { h with
    groups := fun u group hu => ?_
    distinctGroups := h.distinctGroups.modify g f }
  obtain ⟨a, ha, -⟩ := Store.get?_modify_eq_some.1 hu
  exact h.groups u a ha

theorem eraseGroup (h : Formed s) (g : TaskId) : Formed { s with groups := s.groups.erase g } := by
  refine { h with
    groups := fun u group hu => h.groups u group ?_
    distinctGroups := h.distinctGroups.erase g }
  simp only [Store.get?_erase] at hu
  split at hu
  · simp at hu
  · exact hu

theorem modifyCall (h : Formed s) (k : CallId) (f : Call → Call) : Formed (s.modifyCall k f) :=
  { h with calls := h.calls.modify k f }

theorem modifyActor (h : Formed s) (a : ActorId) (f : Actor → Actor) :
    Formed (s.modifyActor a f) :=
  { h with
    actors := h.actors.modify a f
    distinctActors := h.distinctActors.modify a f
    named := fun name b hb => by
      obtain ⟨actor, found⟩ := h.named name b hb
      exact ⟨_, Store.get?_modify_eq_some.2 ⟨actor, found, rfl⟩⟩ }

theorem setActor (h : Formed s) (name : String) (actor : Actor) :
    Formed { s with
      actors := s.actors.set ⟨s.actors.size⟩ actor
      actorNames := s.actorNames.set name ⟨s.actors.size⟩ } :=
  { h with
    actors := h.actors.set rfl actor
    distinctActors := h.distinctActors.set _ actor
    named := fun other b hb => by
      by_cases new : (⟨s.actors.size⟩ : ActorId) = b
      · subst new
        exact ⟨actor, Store.get?_set_self⟩
      · simp only [Store.get?_set] at hb
        split at hb
        · cases hb
          exact absurd rfl new
        · simp only [Store.get?_set_of_ne new]
          exact h.named other b hb }

theorem modifyRuntime (h : Formed s) (r : RuntimeId) (f : Runtime → Runtime) :
    Formed (s.modifyRuntime r f) :=
  { h with
    runtimes := h.runtimes.modify r f
    distinctRuntimes := h.distinctRuntimes.modify r f }

theorem enqueue (h : Formed s) (r : RuntimeId) (p : Priority) (e : Entry) :
    Formed (s.enqueue r p e) := by
  unfold State.enqueue
  split
  · exact { h with }
  · exact h.modifyRuntime _ _

theorem grow (h : Formed s) {kind : NodeKind} {priority : Priority} {parent : Option TaskId}
    {p : Phase} {nodes : Store TaskId Node} (trace : Array Event)
    (grown : Grown s kind priority parent p nodes) (still : kind = .group → p = .suspended) :
    Formed { s with nodes := nodes, trace := trace } := by
  have fresh := State.fresh_nextNode h.nodes
  have known : ∀ n k, s.kind? n = some k → (nodes.get? n).map Node.kind = some k := by
    intro n k hn
    have hne : n ≠ s.nextNode := by
      rintro rfl
      simp [State.kind?, fresh] at hn
    exact (grown.field (fun _ _ => rfl) hne).trans hn
  refine { h with
    nodes := grown.numbered
    tasks := fun t task ht => known _ _ (h.tasks t task ht)
    groups := fun g group hg => known _ _ (h.groups g group hg)
    still := fun n hn => ?_ }
  by_cases hne : n = s.nextNode
  · obtain ⟨b, new⟩ := grown.new
    subst hne
    simp only [State.kind?, new, Option.map_some, Option.some.injEq] at hn
    exact (grown.phase_new rfl).trans (still hn)
  · exact (grown.phase_old rfl hne).trans
      (h.still n ((grown.field (fun _ _ => rfl) hne).symm.trans hn))

theorem setTask (h : Formed s) {t : TaskId} (known : s.kind? t = some .task) (task : Task) :
    Formed { s with tasks := s.tasks.set t task } := by
  refine { h with
    tasks := fun u m hu => ?_
    distinctTasks := h.distinctTasks.set t task }
  by_cases htu : t = u
  · subst htu
    exact known
  · simp only [Store.get?_set_of_ne htu] at hu
    exact h.tasks u m hu

theorem setGroup (h : Formed s) {g : TaskId} (known : s.kind? g = some .group) (group : Group)
    (signals : Store TaskId Signal) :
    Formed { s with groups := s.groups.set g group, signals := signals } := by
  refine { h with
    groups := fun u m hu => ?_
    distinctGroups := h.distinctGroups.set g group }
  by_cases hgu : g = u
  · subst hgu
    exact known
  · simp only [Store.get?_set_of_ne hgu] at hu
    exact h.groups u m hu

theorem launch (h : Formed s) (priority : Priority) (parent : Option TaskId) (home : RuntimeId)
    (body : List Line) (blocking : Bool) :
    Formed ((s.addNode .task priority parent).launch s.nextNode home body blocking) := by
  obtain ⟨nodes, trace, grown, eq⟩ :=
    State.launch_addNode_eq h.nodes priority parent home body blocking
  rw [eq]
  obtain ⟨b, new⟩ := grown.new
  have known : ({ s with nodes := nodes, trace := trace } : State).kind? s.nextNode =
      some .task := by simp [State.kind?, new]
  exact ((h.grow trace grown (by simp)).setTask known _).enqueue _ _ _

theorem makeGroup (h : Formed s) (c : Context) (home : RuntimeId) :
    Formed (s.makeGroup c home) := by
  obtain ⟨nodes, trace, priority, grown, eq⟩ := State.makeGroup_eq h.nodes c home
  rw [eq]
  obtain ⟨b, new⟩ := grown.new
  have known : ({ s with nodes := nodes, trace := trace } : State).kind? s.nextNode =
      some .group := by simp [State.kind?, new]
  exact (h.grow trace grown fun _ => rfl).setGroup known _ _

theorem addChild (h : Formed s) (g : TaskId) (group : Group) (priority : Option Priority)
    (body : List Line) : Formed (s.addChild g group priority body) :=
  ((h.launch _ _ _ _ _).modifyTask _ _).modifyGroup _ _

theorem setCall (h : Formed s) (call : Call) :
    Formed { s with calls := s.calls.set s.nextCall call } :=
  { h with calls := h.calls.set rfl call }

theorem post (h : Formed s) (a : ActorId) (home : RuntimeId) (message : Message) :
    Formed (s.post a home message) := by
  unfold State.post
  split
  · exact h
  · dsimp only
    split
    · exact h.modifyActor _ _
    · exact (h.modifyActor _ _).enqueue _ _ _

/-! ### Transitions -/

theorem effect (h : Formed s) {a : Action} (e : Effect s a s') : Formed s' := by
  cases e with
  | spent => exact h
  | cancel => exact { h.modifyNode (fun _ => by rfl) (.inl fun _ => by rfl) with }
  | finish => exact { h.modifyNode (fun _ => by rfl) (.inl fun _ => by rfl) with }
  | orphan => exact h.modifyNode (fun _ => by rfl) (.inl fun _ => by rfl)
  | reap | reapLast =>
    exact { (h.modifyNode (fun _ => by rfl) (.inl fun _ => by rfl)).modifyNode (fun _ => by rfl)
      (.inl fun _ => by rfl) with }
  | resume _ found =>
    exact (h.modifyNode (fun _ => by rfl) (.inr (h.not_group_of_task found))).enqueue _ _ _
  | notify running =>
    exact { h.modifyNode (fun _ => by rfl) (.inr (h.not_group_of_phase (by simp [running]))) with }
  | awake | inform | trip | announce | record | panic | dropGroup | dropUndrained | silence
  | discardTask | discardDrain => exact { h with }
  | wakeWaiters | forget => exact { h.modifyTask _ _ with }
  | reportFailure | dropHandle => exact { h.modifyTask _ _ with }
  | answer | dropAnswered => exact { h.modifyCall _ _ with }
  | dropPending => exact h.modifyCall _ _
  | dissolve => exact { h.eraseGroup _ with }
  | bury => exact { h.eraseTask _ with }
  | abandon => exact { h.modifyActor _ _ with }

theorem change (h : Formed s) (hc : Change c s hand s' hand') : Formed s' := by
  cases hc with
  | tell | nameTask | adopt | share | listen | park | record | release | cancel | wake =>
    exact { h with }
  | shed => exact h
  | spawn => exact h.launch _ _ _ _ _
  | group => exact h.makeGroup _ _
  | add => exact h.addChild _ _ _ _
  | actor => exact h.setActor _ _
  | call => exact (h.setCall _).post _ _ _
  | refuse => exact h.setCall _
  | send => exact h.post _ _ _
  | register | take => exact h.modifyTask _ _
  | learn => exact h.modifyCall _ _
  | expect => exact { h.modifyCall _ _ with }
  | draw => exact { h.modifyGroup _ _ with }
  | fail => exact h.modifyGroup _ _
  | state => exact h.modifyActor _ _

theorem changes (h : Formed s) (hc : Changes c s hand s' hand') : Formed s' :=
  hc.invariant (I := fun s _ => Formed s) (fun hc h => h.change hc) h

theorem work (h : Formed s)
    (known : ∀ home t stage, s.slice home = some (.task t stage) →
      ∃ task, s.tasks.get? t = some task)
    {home : RuntimeId} (w : Work s home s') : Formed s' := by
  -- no worker makes anything by itself, so only lines matter
  cases w with
  | stop => exact { h with }
  | lost => exact h.modifyRuntime _ _
  | next _ _ changes => exact (h.changes changes).modifyTask _ _
  | suspend _ _ changes => exact ((h.changes changes).modifyTask _ _).modifyRuntime _ _
  | ends _ _ changes =>
    exact { ((h.changes changes).modifyTask _ _).modifyRuntime _ _ with }
  | pause _ _ _ changes =>
    exact { ((h.changes changes).modifyTask _ _).modifyRuntime _ _ with }
  | @rest t _ _ _ _ running =>
    have task : s.kind? t ≠ some .group := h.not_group_of_phase (by simp [running])
    exact { (h.modifyRuntime _ _).modifyNode (fun _ => by rfl) (.inr task) with }
  | again _ _ _ found =>
    exact (((h.modifyRuntime _ _).modifyNode (fun _ => by rfl)
      (.inr (h.not_group_of_task found))).doFirst _).enqueue _ _ _
  | forgotten during _ missing =>
    obtain ⟨task, found⟩ := known _ _ _ during
    exact absurd (missing.symm.trans found) (by simp)
  | endBody => exact { (h.modifyRuntime _ _).modifyTask _ _ with }
  | complete _ during =>
    obtain ⟨task, found⟩ := known _ _ _ during
    exact { (h.modifyNode (fun _ => by rfl)
      (.inr (h.not_group_of_task found))).modifyRuntime _ _ with }
  | leave => exact { h.modifyRuntime _ _ with }
  | receive => exact (h.modifyActor _ _).modifyRuntime _ _
  | drained => exact { (h.modifyRuntime _ _).modifyActor _ _ with }
  | drainAgain => exact ((h.modifyRuntime _ _).tell _).enqueue _ _ _
  | handle _ changes => exact (h.changes changes).modifyRuntime _ _
  | hold _ _ changes => exact { ((h.changes changes).modifyRuntime _ _).modifyRuntime _ _ with }
  | handled _ _ changes => exact { (h.changes changes).modifyRuntime _ _ with }
  | reply => exact { h.modifyRuntime _ _ with }
  | @begin t _ _ due =>
    have task : s.kind? t ≠ some .group :=
      h.not_group_of_phase (by rcases due with due | due <;> simp [due])
    exact ((h.modifyRuntime _ _).modifyNode (fun _ => by rfl) (.inr task)).modifyRuntime _ _
  | refuse => exact { h.modifyRuntime _ _ with }
  | beginDrain => exact (h.modifyRuntime _ _).modifyRuntime _ _
  | markerStop => exact { h.modifyRuntime _ _ with }
  | markerAgain => exact { (h.modifyRuntime _ _).enqueue _ _ _ with }
  | markerSkip => exact h.modifyRuntime _ _

theorem start (h : Formed s) (r : RuntimeId) (goal : Goal) : Formed (s.start r goal) := by
  obtain ⟨trace, eq⟩ := s.start_eq r goal
  rw [eq]
  exact { h.modifyRuntime _ _ with }

theorem move (h : Formed s) (idle : s.agenda = []) {d d' : Desk} (m : Move s d s' d') :
    Formed s' := by
  cases m with
  | build place batch stem =>
    rcases s.build_cases place batch stem with same | ⟨-, settings, built⟩
    · rw [same]
      exact h
    · rw [built]
      exact { h with
        runtimes := h.runtimes.set rfl _
        distinctRuntimes := h.distinctRuntimes.set _ _ }
  | start | block | join => exact h.start _ _
  | startRounds _ rounds band =>
    have marked : Formed { s with markers := s.markers + 1 } := { h with }
    exact (marked.enqueue _ _ _).start _ _
  | launchRoot => exact h.launch _ _ _ _ _
  | leaveRoot => exact { h.modifyTask _ _ with }
  | close =>
    have removed : ∀ places, Formed { s with places := places } := fun _ => { h with }
    exact { (removed _).modifyRuntime _ _ with }
  | line plain => exact h.changes (State.plain?_fits idle plain)
  | @shelve f => exact h.changes (State.shelve_changes (c := { who := .main }) f s [])

end Formed

end Nursery
