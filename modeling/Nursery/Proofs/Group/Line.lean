import Nursery.Proofs.Group.Roll
import Nursery.Proofs.Invariant.Answerable

/-!
# Lines, workers and the rolls

A line may make a group or add a child to one, but it takes nothing from a list unless it looks at
a group.  At the end of a task exactly one child ends, if the task is one.  Whatever else a worker
or the main thread does, no group takes notice.

* `Rolls.change`, `Rolls.changes` : a line that does not look at a group.
* `Lapse` : a task ends; `Roll.enter`, `Roll.stand`, what that means for its group and for others.
* `Rolls.complete` : the end of a task, for all groups at once.
* `Rolls.work`, `Rolls.move` : what else a worker and the main thread do.
-/

namespace Nursery

variable {s s' s'' : State} {c : Context} {hand hand' rest base : List Resource}
  {g t n : TaskId} {E C : TaskId → List Nat} {home : RuntimeId}

namespace Undisturbed

theorem grow {kind : NodeKind} {priority : Priority} {parent : Option TaskId} {p : Phase}
    {nodes : Store TaskId Node} (unmade : s.nodes.get? s.nextNode = none)
    (grown : Grown s kind priority parent p nodes) (ongoing : p.isTerminal = false)
    (trace : Array Event) : Undisturbed s { s with nodes := nodes, trace := trace } := by
  have old : ∀ m, m ≠ s.nextNode →
      ({ s with nodes := nodes, trace := trace } : State).phase m = s.phase m :=
    fun m => grown.phase_old rfl
  have before : s.phase s.nextNode = .suspended := by
    simp [State.phase, unmade]
  refine ⟨rfl, fun _ => rfl, fun _ => rfl, fun _ => rfl, fun _ _ _ => rfl, fun m => ?_,
    fun m terminal => ?_, fun m known gone => ?_⟩
  · by_cases hm : m = s.nextNode
    · subst hm
      rw [before, grown.phase_new rfl, ongoing]
      rfl
    · rw [old m hm]
  · refine old m fun hm => ?_
    rw [hm, before] at terminal
    cases terminal
  · by_cases hm : m = s.nextNode
    · exact known (hm ▸ unmade)
    · change nodes.get? m = none at gone
      rw [grown.old m hm, Option.map_eq_none_iff] at gone
      exact known gone

theorem setTask (fresh : s.tasks.get? n = none) (task : Task)
    (alone : task.waiters.filterMap Waker.notice? = []) (open_ : task.outcome = none) :
    Undisturbed s { s with tasks := s.tasks.set n task } where
  groups := rfl
  completed _ := rfl
  signals _ := rfl
  notices u := by
    by_cases hu : n = u
    · subst hu
      simp [State.notices, Store.get?_set_self, fresh, alone]
    · exact State.notices_of_get? (Store.get?_set_of_ne hu)
  outcome u _ _ := by
    by_cases hu : n = u
    · subst hu
      simp [State.outcome?, Store.get?_set_self, fresh, open_]
    · exact State.outcome?_of_get? (Store.get?_set_of_ne hu)
  phase _ := rfl
  final _ _ := rfl
  nodes _ known := known

theorem post (a : ActorId) (r : RuntimeId) (message : Message) :
    Undisturbed s (s.post a r message) := by
  obtain ⟨actors, runtimes, agenda, eq⟩ := State.post_eq s a r message
  rw [eq]
  exact of_same rfl rfl rfl rfl

end Undisturbed

/-! ### Lines -/

/-- A task whose handle is in hand is no child of a group. -/
theorem Own.not_child (formed : Formed s) (seat : Seated s c base)
    (own : Own s (hand ++ rest) base) (mine : .handle t ∈ hand) : ¬ s.Enrolled t := by
  rintro ⟨g, group, found, child⟩
  have once := own.once (.handle t)
  have one := List.count_pos_iff.2 mine
  have two : 0 < group.resources.count (.handle t) :=
    List.count_pos_iff.2 (List.mem_map_of_mem child)
  have theirs := Store.le_tally (w := fun _ (m : Group) => m.resources.count (.handle t))
    formed.distinctGroups found
  rw [List.count_append] at once
  simp only [State.owners] at once
  -- the base is stored in a body or in a handler, so the group comes on top of it
  cases seat with
  | body runs =>
    have stored := Store.le_tally (w := fun _ (m : Task) => m.resources.count (.handle t))
      formed.distinctTasks runs.found
    rw [Task.resources_of_fiber runs.fiber] at stored
    omega
  | handler during =>
    obtain ⟨rt, known, slice⟩ := State.slice_eq during
    have stored := Store.le_tally (w := fun _ (m : Runtime) => m.resources.count (.handle t))
      formed.distinctRuntimes known
    simp only [Runtime.resources, slice] at stored
    simp only [Runtime.resources] at once
    omega
  | main =>
    simp only [List.count_nil] at once
    omega

namespace Rolls

theorem setGroup (rolls : Rolls s E C) (unmade : s.nodes.get? n = none)
    (known : ∀ m, s.nodes.get? m ≠ none → s'.nodes.get? m ≠ none) (made : s'.nodes.get? n ≠ none)
    (phase : ∀ u, (s'.phase u).isTerminal = (s.phase u).isTerminal)
    (final : ∀ u, (s.phase u).isTerminal = true → s'.phase u = s.phase u)
    (tasks : s'.tasks = s.tasks) (groups : s'.groups = s.groups.set n { home := home })
    (signals : s'.signals = s.signals.set n {}) (quiet : ∀ g, s.announcing g = [])
    (quiet' : ∀ g, s'.announcing g = []) : Rolls s' E C := by
  have notices : ∀ u, s'.notices u = s.notices u := fun u =>
    State.notices_of_get? (by rw [tasks])
  refine ⟨fun g group found => ?_, fun g other => ?_, fun u x hx => ?_⟩
  · rw [groups] at found
    -- the roll of the new group is empty
    by_cases new : n = g
    · subst new
      rw [Store.get?_set_self] at found
      cases found
      obtain ⟨none_ended, none_gone, -⟩ := rolls.fresh n unmade
      rw [none_ended, none_gone]
      exact {
        order := by simp [quiet', State.completed, signals, Store.get?_set_self]
        once := List.nodup_nil
        range := by simp
        mem := by simp
        count := rfl
        left := by simp
        waits := by simp
        told := fun u x hx mine => by
          rw [notices] at hx
          exact absurd (mine ▸ unmade) (rolls.known u x hx)
        signal := by simp [signals, Store.get?_set_self] }
    · rw [Store.get?_set_of_ne new] at found
      refine (rolls.roll g group found).keep ?_ ?_ (fun u _ => phase u)
        (fun u _ terminal => ⟨final u terminal, State.outcome?_of_get? (by rw [tasks])⟩)
        (fun u _ _ => notices u) fun u x hx _ => by rwa [notices] at hx
      · simp only [quiet, quiet', State.completed, signals, Store.get?_set_of_ne new]
      · rw [signals, Store.get?_set_of_ne new]
  · have unmade' : s.nodes.get? g = none := by_contra fun there => known g there other
    obtain ⟨none_ended, none_gone, unlisted⟩ := rolls.fresh g unmade'
    have apart : n ≠ g := by
      rintro rfl
      exact made other
    exact ⟨none_ended, none_gone, by rw [signals, Store.get?_set_of_ne apart, unlisted]⟩
  · rw [notices] at hx
    exact known _ (rolls.known u x hx)

theorem addChild {group : Group} (rolls : Rolls s E C) (found : s.groups.get? g = some group)
    (fresh : s.tasks.get? n = none) (stranger : ∀ h group, s.groups.get? h = some group →
      n ∉ group.children) (ongoing : (s.phase n).isTerminal = false) {task : Task}
    (waiters : task.waiters = [.member g group.children.length n])
    (known : s.nodes.get? g ≠ none) (quiet : ∀ g, s.announcing g = [])
    (quiet' : ∀ g, s'.announcing g = []) (nodes : s'.nodes = s.nodes)
    (tasks : s'.tasks = s.tasks.set n task)
    (groups : s'.groups = s.groups.modify g fun m =>
      { m with children := m.children ++ [n], remaining := m.remaining + 1 })
    (signals : s'.signals = s.signals) : Rolls s' E C := by
  have mine : s'.notices n = [⟨g, group.children.length, n⟩] := by
    simp [State.notices, tasks, Store.get?_set_self, waiters, Waker.notice?]
  have other : ∀ u, u ≠ n → s'.tasks.get? u = s.tasks.get? u := by
    intro u hu
    rw [tasks, Store.get?_set_of_ne (Ne.symm hu)]
  have phase : ∀ u, s'.phase u = s.phase u := fun u => by
    rw [State.phase, State.phase, nodes]
  have told : ∀ u x, x ∈ s'.notices u → x ∈ s.notices u ∨
      u = n ∧ x = ⟨g, group.children.length, n⟩ := by
    intro u x hx
    by_cases hu : u = n
    · subst hu
      rw [mine, List.mem_singleton] at hx
      exact .inr ⟨rfl, hx⟩
    · rw [State.notices_of_get? (other u hu)] at hx
      exact .inl hx
  refine ⟨fun h group' found' => ?_, fun h unmade => ?_, fun u x hx => ?_⟩
  · rw [groups] at found'
    obtain ⟨old, known, rfl⟩ := Store.get?_modify_eq_some.1 found'
    have roll := rolls.roll h old known
    -- the group has one child more, that goes on; nobody else knows of it
    by_cases hg : g = h
    · subst hg
      cases found.symm.trans known
      rw [if_pos rfl]
      have place : ∀ i u, (group.children ++ [n])[i]? = some u →
          group.children[i]? = some u ∧ u ≠ n ∨ i = group.children.length ∧ u = n := by
        intro i u child
        rw [List.getElem?_append] at child
        split at child
        · refine .inl ⟨child, ?_⟩
          rintro rfl
          exact stranger g group found (List.mem_of_getElem? child)
        · rename_i behind
          obtain ⟨inside, eq⟩ := List.getElem?_eq_some_iff.1 child
          simp only [List.length_singleton] at inside
          refine .inr ⟨by omega, ?_⟩
          rw [← eq]
          simp
      have unlisted : group.children.length ∉ E g := fun hi =>
        Nat.lt_irrefl _ (roll.range _ hi)
      exact {
        order := by
          rw [roll.order, quiet, quiet', State.completed, State.completed, signals]
        once := roll.once
        range := fun i hi => by
          rw [List.length_append]
          exact Nat.lt_of_lt_of_le (roll.range i hi) (Nat.le_add_right _ _)
        mem := fun i u child => by
          rw [phase]
          rcases place i u child with ⟨old, -⟩ | ⟨rfl, rfl⟩
          · exact roll.mem i u old
          · simp [ongoing, unlisted]
        count := by
          have := roll.count
          simp only [List.length_append, List.length_singleton]
          omega
        left := fun i u child terminal waiting => by
          rw [phase] at terminal ⊢
          rcases place i u child with ⟨old, apart⟩ | ⟨rfl, rfl⟩
          · rw [State.outcome?_of_get? (other u apart)]
            exact roll.left i u old terminal waiting
          · cases ongoing.symm.trans terminal
        waits := fun i u child going => by
          rw [phase] at going
          rcases place i u child with ⟨old, apart⟩ | ⟨rfl, rfl⟩
          · rw [State.notices_of_get? (other u apart)]
            exact roll.waits i u old going
          · simp [mine, placesFor]
        told := fun u x hx mine => by
          rcases told u x hx with old | ⟨rfl, rfl⟩
          · obtain ⟨child, place⟩ := roll.told u x old mine
            refine ⟨child, ?_⟩
            exact (List.getElem?_append_left (List.getElem?_eq_some_iff.1 place).1).trans place
          · simp
        signal := by rw [signals, roll.signal] }
    · rw [if_neg hg] at found' ⊢
      have apart : ∀ u ∈ old.children, u ≠ n := by
        rintro u child rfl
        exact stranger h old known child
      refine roll.keep ?_ (by rw [signals]) (fun u _ => by rw [phase])
        (fun u child _ => ⟨phase u, State.outcome?_of_get? (other u (apart u child))⟩)
        (fun u child _ => State.notices_of_get? (other u (apart u child))) fun u x hx mine => ?_
      · simp only [quiet, quiet', State.completed, signals]
      · rcases told u x hx with old | ⟨-, rfl⟩
        · exact old
        · exact absurd mine hg
  · rw [nodes] at unmade
    rw [signals]
    exact rolls.fresh h unmade
  · rw [nodes]
    rcases told u x hx with old | ⟨-, rfl⟩
    · exact rolls.known u x old
    · exact known

/-- **A line that does not look at a group keeps the rolls**, and takes nothing from a list. -/
theorem change (formed : Formed s) (seat : Seated s c base) (own : Own s (hand ++ rest) base)
    (blind : ¬ s.Looks c) (lines : s.OfLine) (hc : Change c s hand s' hand')
    (rolls : Rolls s E C) :
    Rolls s' E C ∧ (∀ g, s'.completed g = s.completed g) ∧ Enrols s s' := by
  have lines' := lines.change formed hc
  have unnoticed : Undisturbed s s' →
      Rolls s' E C ∧ (∀ g, s'.completed g = s.completed g) ∧ Enrols s s' := fun u =>
    ⟨rolls.undisturbed u fun g _ _ => by rw [lines.announcing, lines'.announcing], u.completed,
      u.enrols⟩
  have unmade := State.fresh_nextNode formed.nodes
  -- only a new group and a new child change a roll
  cases hc with
  | tell | shed | nameTask | adopt | share | actor | refuse | learn | expect | park | state | record
  | release | cancel | wake => exact unnoticed (.of_same rfl rfl rfl rfl)
  | listen =>
    exact unnoticed ((Undisturbed.modifySignal (by exact fun _ => rfl)).trans (.doFirst _))
  | @spawn home parent priority body =>
    obtain ⟨nodes, trace, grown, eq⟩ :=
      State.launch_addNode_eq formed.nodes priority parent home body false
    rw [eq]
    rw [eq] at unnoticed
    refine unnoticed (((Undisturbed.grow unmade grown rfl trace).trans
      (.setTask ?_ _ ?_ ?_)).trans (.enqueue ..))
    · exact formed.fresh_task
    · rfl
    · rfl
  | @group home =>
    obtain ⟨nodes, trace, priority, grown, eq⟩ := State.makeGroup_eq formed.nodes c home
    have grows := Undisturbed.grow unmade grown rfl trace
    obtain ⟨b, new⟩ := grown.new
    rw [eq] at lines' ⊢
    refine ⟨rolls.setGroup unmade grows.nodes (by simp [new]) grows.phase grows.final rfl rfl rfl
      (fun g => lines.announcing) (fun g => lines'.announcing), fun g => ?_, fun g m' found => ?_⟩
    · by_cases new : s.nextNode = g
      · subst new
        simp [State.completed, Store.get?_set_self, (rolls.fresh _ unmade).2.2]
      · simp [State.completed, Store.get?_set_of_ne new]
    · by_cases new : s.nextNode = g
      · subst new
        rw [Store.get?_set_self] at found
        cases found
        exact .inl ⟨unmade, rfl⟩
      · rw [Store.get?_set_of_ne new] at found
        exact .inr ⟨m', found, List.prefix_refl _, rfl⟩
  | @add g group priority body _ mine found =>
    obtain ⟨nodes, trace, p, grown, eq⟩ :=
      State.addChild_eq formed.nodes formed.fresh_task g group priority body
    have grows := Undisturbed.grow unmade grown rfl trace
    have made :=
      rolls.undisturbed grows fun g _ _ => by rw [lines.announcing]; exact lines.announcing
    obtain ⟨b, new⟩ := grown.new
    have stranger : ∀ h m, s.groups.get? h = some m → s.nextNode ∉ m.children := by
      intro h m known child
      obtain ⟨task, there, -⟩ := own.has_child formed.distinctGroups known child
      cases formed.fresh_task.symm.trans there
    obtain ⟨node, there⟩ : ∃ node, s.nodes.get? g = some node := by
      obtain ⟨node, there, -⟩ := Option.map_eq_some_iff.1 (formed.groups g group found)
      exact ⟨node, there⟩
    obtain ⟨runtimes, agenda, queued⟩ := State.enqueue_eq { s with
        nodes := nodes, trace := trace
        tasks := s.tasks.set s.nextNode
          { fiber := some { code := body }, home := group.home,
            waiters := [.member g group.children.length s.nextNode] }
        groups := s.groups.modify g fun m =>
          { m with children := m.children ++ [s.nextNode], remaining := m.remaining + 1 } }
      group.home p (.task s.nextNode)
    rw [eq, queued] at lines' ⊢
    refine ⟨made.addChild found formed.fresh_task stranger ?_ rfl (grows.nodes g (by simp [there]))
      (fun g => lines.announcing) (fun g => lines'.announcing) rfl rfl rfl rfl, fun _ => rfl,
        fun h m' found => ?_⟩
    · simp [State.phase, new]
      rfl
    · obtain ⟨m, known, rfl⟩ := Store.get?_modify_eq_some.1 found
      refine .inr ⟨m, known, ?_⟩
      split
      · exact ⟨List.prefix_append _ _, rfl⟩
      · exact ⟨List.prefix_refl _, rfl⟩
  | call =>
    refine unnoticed (Undisturbed.trans ?_ (.post ..))
    exact .of_same rfl rfl rfl rfl
  | send => exact unnoticed (.post ..)
  | register =>
    exact unnoticed (.modifyTask (fun m => by simp [Waker.notice?]) fun _ _ => rfl)
  | take ended mine fair =>
    refine unnoticed (.modifyTask (fun _ => by rfl) fun enrolled => ?_)
    exact absurd enrolled.1 (Own.not_child formed seat own (fair.resolve_right blind))
  | draw _ _ fair => exact absurd fair blind
  | fail _ fair => exact absurd fair blind

end Rolls

/-- Who does not look at a group at first does not do so later in the line. -/
theorem Seated.blind (seat : Seated s c base) (k : Keeps s s') (blind : ¬ s.Looks c) :
    ¬ s'.Looks c := by
  rintro ⟨⟨home, t, task, f, rfl, during, found, stored, looks⟩, calm⟩
  cases seat with
  | @body home t old f' runs =>
    obtain ⟨ws, o, now⟩ := k.tasks t old runs.found
    cases now.symm.trans found
    exact blind ⟨⟨home, t, old, f, rfl, (k.slice home).symm.trans during, runs.found,
      stored, looks⟩,
      k.unwinding.symm.trans calm⟩

/-- A group that was made in a line is new, whatever has been added to it since. -/
theorem Enrols.trans (h : Enrols s s') (k : Keeps s s') (h' : Enrols s' s'') : Enrols s s'' := by
  intro g m'' found
  rcases h' g m'' found with ⟨unmade, fresh⟩ | ⟨m', found', more, same⟩
  · refine .inl ⟨?_, fresh⟩
    cases known : s.nodes.get? g with
    | none => rfl
    | some node =>
      obtain ⟨cs, there⟩ := k.nodes g node known
      cases unmade.symm.trans there
  · rcases h g m' found' with ⟨unmade, fresh⟩ | ⟨m, known, before, same'⟩
    · exact .inl ⟨unmade, same.trans fresh⟩
    · exact .inr ⟨m, known, before.trans more, same.trans same'⟩

namespace Rolls

/-- A line that does not look at a group keeps the rolls. -/
theorem changes (formed : Formed s) (seat : Seated s c base) (own : Own s (hand ++ rest) base)
    (blind : ¬ s.Looks c) (lines : s.OfLine) (hc : Changes c s hand s' hand')
    (rolls : Rolls s E C) :
    Rolls s' E C ∧ (∀ g, s'.completed g = s.completed g) ∧ Enrols s s' ∧ s'.OfLine := by
  have key := hc.invariant (I := fun x hand => (Formed x ∧ Keeps s x) ∧ Own x (hand ++ rest) base ∧
    x.OfLine ∧ Rolls x E C ∧ (∀ g, x.completed g = s.completed g) ∧ Enrols s x)
    (fun {x x' hand hand'} hc h => ?_)
    ⟨⟨formed, .refl s⟩, own, lines, rolls, fun _ => rfl, .of_old fun _ _ found => found⟩
  · exact ⟨key.2.2.2.1, key.2.2.2.2.1, key.2.2.2.2.2, key.2.2.1⟩
  · obtain ⟨⟨formed', keeps⟩, own', lines', rolls', same, enrols⟩ := h
    obtain ⟨rolls'', same', enrols'⟩ :=
      rolls'.change formed' (seat.keeps keeps) own' (seat.blind keeps blind) lines' hc
    exact ⟨⟨formed'.change hc, keeps.trans (.change formed' hc)⟩, own'.change formed' hc,
      lines'.change formed' hc, rolls'', fun g => (same' g).trans (same g),
      enrols.trans keeps enrols'⟩

end Rolls

/-! ### Who owns a child -/

/-- No child is in a group twice. -/
theorem Own.nodup_children {group : Group} (distinct : s.groups.Distinct) (own : Own s hand [])
    (found : s.groups.get? g = some group) : group.children.Nodup := by
  refine List.nodup_iff_count_le_one.2 fun t => ?_
  have one := Store.le_tally (w := fun _ (m : Group) => m.resources.count (.handle t))
    distinct found
  have same : group.resources.count (.handle t) = group.children.count t :=
    List.count_map_of_injective _ _ (fun _ _ eq => by cases eq; rfl) _
  have once := own.once (.handle t)
  simp only [State.owners, List.count_nil] at once
  omega

/-- No child is in two groups. -/
theorem Own.one_group {h : TaskId} {group group' : Group} (distinct : s.groups.Distinct)
    (own : Own s hand []) (found : s.groups.get? g = some group)
    (found' : s.groups.get? h = some group') (child : t ∈ group.children)
    (child' : t ∈ group'.children) : g = h := by
  by_contra apart
  have both := Store.add_le_tally (w := fun _ (m : Group) => m.resources.count (.handle t)) distinct
    apart found found'
  have one : 0 < group.resources.count (.handle t) :=
    List.count_pos_iff.2 (List.mem_map_of_mem child)
  have two : 0 < group'.resources.count (.handle t) :=
    List.count_pos_iff.2 (List.mem_map_of_mem child')
  have once := own.once (.handle t)
  simp only [State.owners, List.count_nil] at once
  omega

/-- A child of a group is known. -/
theorem Sound.child {d : Desk} {group : Group} (sound : Sound s d)
    (found : s.groups.get? g = some group) (child : t ∈ group.children) :
    ∃ task node, s.tasks.get? t = some task ∧ task.handleDropped = false ∧
      s.nodes.get? t = some node := by
  obtain ⟨task, there, kept⟩ := sound.own.has_child sound.formed.distinctGroups found child
  obtain ⟨node, known, -⟩ := Option.map_eq_some_iff.1 (sound.formed.tasks t task there)
  exact ⟨task, node, there, kept, known⟩

theorem Sound.ends_of_keeps {d : Desk} (sound : Sound s d) (k : Keeps s s') (g : TaskId) :
    State.ends g s s' = [] := by
  refine List.eq_nil_iff_forall_not_mem.2 fun i hi => ?_
  obtain ⟨t, child, before, after⟩ := State.mem_ends.1 hi
  cases found : s.groups.get? g with
  | none => simp [State.members, found] at child
  | some group =>
    rw [State.members_of_get? found] at child
    obtain ⟨task, node, -, -, known⟩ := sound.child found (List.mem_of_getElem? child)
    rw [k.phase known, before] at after
    cases after

/-! ### The end of a task -/

/-- A list without repetitions of one element. -/
theorem List.eq_singleton_of_mem_iff {α : Type} {l : List α} {a : α} (nodup : l.Nodup)
    (only : ∀ x, x ∈ l ↔ x = a) : l = [a] := by
  refine List.perm_singleton.1 ((List.perm_ext_iff_of_nodup nodup (List.nodup_singleton a)).2 ?_)
  simpa using only

/-- A task ends, and those who wait for that are about to be told. -/
structure Lapse (s s' : State) (t : TaskId) : Prop where
  /-- It had not ended. -/
  ongoing : (s.phase t).isTerminal = false
  /-- Nobody else changes its phase. -/
  others : ∀ u, u ≠ t → s'.phase u = s.phase u
  /-- The bodies stay as they are. -/
  tasks : s'.tasks = s.tasks
  /-- The lists stay as they are. -/
  signals : s'.signals = s.signals
  /-- Its place is on the way to its group, and no other place is. -/
  told : ∀ g, s'.announcing g = placesFor g (s.notices t)

namespace Lapse

theorem notices (h : Lapse s s' t) (u : TaskId) : s'.notices u = s.notices u :=
  State.notices_of_get? (by rw [h.tasks])

theorem outcome (h : Lapse s s' t) (u : TaskId) : s'.outcome? u = s.outcome? u :=
  State.outcome?_of_get? (by rw [h.tasks])

theorem completed (h : Lapse s s' t) (g : TaskId) : s'.completed g = s.completed g := by
  rw [State.completed, State.completed, h.signals]

theorem ends_of_child (h : Lapse s s' t) {group : Group} {i : Nat}
    (found : s.groups.get? g = some group) (place : group.children[i]? = some t)
    (ended : (s'.phase t).isTerminal = true)
    (only : ∀ j, group.children[j]? = some t → j = i) : State.ends g s s' = [i] := by
  refine List.eq_singleton_of_mem_iff State.nodup_ends fun j => ?_
  rw [State.mem_ends, State.members_of_get? found]
  constructor
  · rintro ⟨u, child, before, after⟩
    by_cases hu : u = t
    · exact only j (hu ▸ child)
    · rw [h.others u hu, before] at after
      cases after
  · rintro rfl
    exact ⟨t, place, h.ongoing, ended⟩

theorem ends_of_stranger (h : Lapse s s' t) {group : Group} (found : s.groups.get? g = some group)
    (stranger : t ∉ group.children) : State.ends g s s' = [] := by
  refine List.eq_nil_iff_forall_not_mem.2 fun j hj => ?_
  obtain ⟨u, child, before, after⟩ := State.mem_ends.1 hj
  rw [State.members_of_get? found] at child
  rw [h.others u (ne_of_mem_of_not_mem (List.mem_of_getElem? child) stranger), before] at after
  cases after

end Lapse

namespace Roll

variable {group : Group} {ended gone : List Nat}

/-- A child that ends comes to the end of the roll. -/
theorem enter (roll : Roll s g group ended gone) (h : Lapse s s' t) (idle : s.agenda = [])
    {i : Nat} (place : group.children[i]? = some t) (past : (s'.phase t).isTerminal = true)
    (only : ∀ j, group.children[j]? = some t → j = i) {result : Except TaskError Int64}
    (left : s.outcome? t = some result) (final : s'.phase t = State.finalPhase (some result)) :
    Roll s' g group (ended ++ [i]) gone where
  order := by
    rw [h.completed, h.told, roll.waits i t place h.ongoing, roll.order,
      State.announcing_of_idle idle, List.append_nil]
  once := by
    -- who has not ended is not on the roll
    have fresh : i ∉ ended := by
      rw [roll.mem i t place, h.ongoing]
      decide
    exact List.nodup_append.2 ⟨roll.once, List.nodup_singleton i, fun j hj k hk => by
      rintro rfl
      exact fresh (List.mem_singleton.1 hk ▸ hj)⟩
  range j hj := by
    rcases List.mem_append.1 hj with hj | hj
    · exact roll.range j hj
    · rw [List.mem_singleton.1 hj]
      exact (List.getElem?_eq_some_iff.1 place).1
  mem j u child := by
    rw [List.mem_append, List.mem_singleton]
    by_cases hu : u = t
    · subst hu
      simp [past, only j child]
    · have apart : j ≠ i := by
        rintro rfl
        exact hu (Option.some.inj (child.symm.trans place))
      rw [h.others u hu, ← roll.mem j u child]
      simp [apart]
  count := roll.count
  left j u child ended waiting := by
    rw [h.outcome]
    by_cases hu : u = t
    · subst hu
      exact ⟨result, left, final⟩
    · rw [h.others u hu] at ended ⊢
      exact roll.left j u child ended waiting
  waits j u child going := by
    rw [h.notices]
    have hu : u ≠ t := by
      rintro rfl
      cases past.symm.trans going
    rw [h.others u hu] at going
    exact roll.waits j u child going
  told u x hx mine := by
    rw [h.notices] at hx
    exact roll.told u x hx mine
  signal := by rw [h.signals, roll.signal]

/-- A task that ends is not on the roll of another group. -/
theorem stand (roll : Roll s g group ended gone) (h : Lapse s s' t) (idle : s.agenda = [])
    (stranger : t ∉ group.children) : Roll s' g group ended gone := by
  have others : ∀ u ∈ group.children, s'.phase u = s.phase u := fun u child =>
    h.others u (ne_of_mem_of_not_mem child stranger)
  have silent : placesFor g (s.notices t) = [] := by
    refine List.eq_nil_iff_forall_not_mem.2 fun j hj => ?_
    obtain ⟨x, hx, here, -⟩ := mem_placesFor.1 hj
    exact stranger (List.mem_of_getElem? (roll.told t x hx here).2)
  refine roll.keep ?_ (by rw [h.signals]) (fun u child => by rw [others u child])
    (fun u child _ => ⟨others u child, h.outcome u⟩) (fun u _ _ => h.notices u)
    fun u x hx _ => by rwa [h.notices] at hx
  rw [h.completed, h.told, silent, State.announcing_of_idle idle]

end Roll

/-- Where at most one task ends, at most one child of a group does. -/
theorem Sound.ends_le_one {d : Desk} (sound : Sound s d)
    (others : ∀ u, u ≠ t → s'.phase u = s.phase u) (g : TaskId) :
    (State.ends g s s').length ≤ 1 := by
  have only : ∀ i ∈ State.ends g s s', (s.members g)[i]? = some t := by
    intro i hi
    obtain ⟨u, child, before, after⟩ := State.mem_ends.1 hi
    by_cases hu : u = t
    · rwa [hu] at child
    · rw [others u hu, before] at after
      cases after
  have distinct : (s.members g).Nodup := by
    cases found : s.groups.get? g with
    | none => simp [State.members, found]
    | some group =>
      rw [State.members_of_get? found]
      exact sound.own.nodup_children sound.formed.distinctGroups found
  have once : (State.ends g s s').Nodup := State.nodup_ends
  generalize State.ends g s s' = l at only once
  rcases l with _ | ⟨i, _ | ⟨j, rest⟩⟩
  · simp
  · simp
  · exfalso
    have first := only i (by simp)
    have second := only j (by simp)
    have inside := (List.getElem?_eq_some_iff.1 first).1
    have same := (List.getElem?_inj inside distinct).1 (first.trans second.symm)
    simp [same] at once

namespace Rolls

theorem still (rolls : Rolls s' E C)
    (still : ∀ g, State.ends g s s' = [] ∧ State.collected g s s' = []) (enrols : Enrols s s') :
    Uncollected s s' E C := by
  have ended : (fun g => E g ++ State.ends g s s') = E :=
    funext fun g => by rw [(still g).1, List.append_nil]
  have gone : (fun g => C g ++ State.collected g s s') = C :=
    funext fun g => by rw [(still g).2, List.append_nil]
  refine ⟨⟨?_, fun g => by simp [(still g).1]⟩, fun g => (still g).2, enrols⟩
  rw [ended, gone]
  exact rolls

/-- **The end of a task** puts it on the roll of its group, and only there. -/
theorem complete {d : Desk} (sound : Sound s d) (rolls : Rolls s E C) (idle : s.agenda = [])
    (ongoing : (s.phase t).isTerminal = false) {p : Phase} (terminal : p.isTerminal = true)
    (final : p = State.finalPhase (s.outcome? t))
    (there : s.Enrolled t → ∃ outcome, s.outcome? t = some outcome)
    (nodes : s'.nodes = s.nodes.modify t fun m => { m with joining := false, phase := p })
    (tasks : s'.tasks = s.tasks) (groups : s'.groups = s.groups) (signals : s'.signals = s.signals)
    (agenda : s'.agenda = [.finish t, .wakeWaiters t, .reportFailure t]) :
    Uncollected s s' E C := by
  have lapse : Lapse s s' t := {
    ongoing := ongoing
    others := fun u hu => by
      rw [State.phase, nodes, Store.get?_modify_of_ne (Ne.symm hu)]
      rfl
    tasks := tasks
    signals := signals
    told := fun g => by
      have same : s'.notices = s.notices := funext fun u => State.notices_of_get? (by rw [tasks])
      simp [State.announcing, agenda, Action.places, same] }
  have none_gone : ∀ g, C g ++ State.collected g s s' = C g := fun g => by
    rw [State.collected_of_same (lapse.completed g), List.append_nil]
  refine ⟨⟨⟨fun g group found => ?_, fun g unmade => ?_, fun u x hx => ?_⟩,
    sound.ends_le_one lapse.others⟩, fun g => State.collected_of_same (lapse.completed g),
    .of_old fun g m' found => by rwa [groups] at found⟩
  · rw [groups] at found
    have roll := rolls.roll g group found
    rw [none_gone]
    -- the group of the task takes notice, and no other one
    by_cases mine : t ∈ group.children
    · obtain ⟨i, place⟩ := List.getElem?_of_mem mine
      obtain ⟨task, node, -, -, known⟩ := sound.child found mine
      obtain ⟨result, left⟩ := there ⟨g, group, found, mine⟩
      have passed : s'.phase t = p := by
        simp [State.phase, nodes, Store.get?_modify_self, known]
      have ended : (s'.phase t).isTerminal = true := passed ▸ terminal
      have sorted := sound.own.nodup_children sound.formed.distinctGroups found
      have only : ∀ j, group.children[j]? = some t → j = i := fun j place' =>
        have inside := (List.getElem?_eq_some_iff.1 place).1
        ((List.getElem?_inj inside sorted).1 (place.trans place'.symm)).symm
      rw [lapse.ends_of_child found place ended only]
      exact roll.enter lapse idle place ended only left (by rw [passed, final, left])
    · rw [lapse.ends_of_stranger found mine, List.append_nil]
      exact roll.stand lapse idle mine
  · rw [nodes, Store.get?_modify_eq_none] at unmade
    obtain ⟨none_ended, none_gone', unlisted⟩ := rolls.fresh g unmade
    have unknown : s.groups.get? g = none := by
      cases found : s.groups.get? g with
      | none => rfl
      | some group =>
        obtain ⟨node, known, -⟩ := Option.map_eq_some_iff.1 (sound.formed.groups g group found)
        cases unmade.symm.trans known
    refine ⟨?_, by rw [none_gone, none_gone'], by rw [signals, unlisted]⟩
    rw [none_ended]
    refine List.eq_nil_iff_forall_not_mem.2 fun j hj => ?_
    obtain ⟨u, child, -⟩ := State.mem_ends.1 hj
    simp [State.members, unknown] at child
  · rw [lapse.notices] at hx
    rw [nodes]
    exact fun gone => rolls.known u x hx (Store.get?_modify_eq_none.1 gone)

/-! ### What else a worker does -/

theorem unnoticed (rolls : Rolls s E C) (idle : s.agenda = []) (u : Undisturbed s s')
    (quiet : ∀ b ∈ s'.agenda, b.tolls = false) :
    Uncollected s s' E C := by
  refine (rolls.undisturbed u fun g _ _ => ?_).still u.still u.enrols
  rw [State.announcing_of_tolls quiet, State.announcing_of_idle idle]

/-- A line that does not look at a group leaves the rolls as they are, and so does what is done
about its end. -/
theorem line {d : Desk} {s₁ : State} (sound : Sound s d) (idle : s.agenda = [])
    (seat : Seated s c base) (own : Own s (hand ++ rest) base) (blind : ¬ s.Looks c)
    (changes : Changes c s hand s₁ hand') (u : Undisturbed s₁ s') (as : List Action)
    (agenda : s'.agenda = s₁.agenda ++ as)
    (quiet : ∀ b ∈ as, b.tolls = false) (rolls : Rolls s E C) :
    Uncollected s s' E C := by
  obtain ⟨rolls₁, completed, enrols, lines⟩ :=
    rolls.changes sound.formed seat own blind (.idle idle) changes
  have calm : ∀ b ∈ s'.agenda, b.tolls = false := by
    intro b hb
    rw [agenda] at hb
    exact (List.mem_append.1 hb).elim (fun hb => Hushed.tolls_of_ofLine (lines b hb)) (quiet b)
  refine (rolls₁.undisturbed u fun g _ _ => ?_).still (fun g => ⟨?_, ?_⟩)
    (enrols.trans (changes.keeps sound.formed) u.enrols)
  · rw [State.announcing_of_tolls calm, lines.announcing]
  · have none_ended := sound.ends_of_keeps (changes.keeps sound.formed) g
    refine List.eq_nil_iff_forall_not_mem.2 fun i hi => ?_
    obtain ⟨t, child, before, after⟩ := State.mem_ends.1 hi
    rw [u.phase] at after
    exact List.eq_nil_iff_forall_not_mem.1 none_ended i (State.mem_ends.2 ⟨t, child, before, after⟩)
  · exact State.collected_of_same ((u.completed g).trans (completed g))

/-- **Whatever else a worker does keeps the rolls**, if no body looks at a group: at the end of a
task it comes onto the roll of its group, and nobody is collected. -/
theorem work {d : Desk} (sound : Sound s d) (answerable : Answerable s) (idle : s.agenda = [])
    (blind : ∀ t, ¬ s.Looks ⟨.task t, some home⟩) (w : Work s home s') (rolls : Rolls s E C) :
    Uncollected s s' E C := by
  have dispatch := sound.dispatch
  have same : s'.nodes = s.nodes → s'.tasks = s.tasks → s'.groups = s.groups →
      s'.signals = s.signals → (∀ b ∈ s'.agenda, b.tolls = false) → _ :=
    fun nodes tasks groups signals quiet =>
      rolls.unnoticed idle (.of_same nodes tasks groups signals) quiet
  have nothing : ∀ b ∈ s.agenda, b.tolls = false := by
    rw [idle]
    simp
  have ongoing : ∀ {t : TaskId}, s.phase t = .running ∨ s.phase t = .notified →
      (s.phase t).isTerminal = false := by
    intro t up
    rcases up with up | up <;> rw [up] <;> rfl
  have deaf : ∀ {a : ActorId}, ¬ s.Looks ⟨.actor a, some home⟩ := by
    rintro a ⟨⟨home, t, task, f, here, -⟩, -⟩
    cases here
  have body : ∀ (t : TaskId) (f : Option Fiber) (x : State),
      Undisturbed x (x.modifyTask t fun m => { m with fiber := f }) := fun t f x =>
    .modifyTask (fun _ => rfl) fun _ _ => rfl
  have moved : ∀ (x : State) (r : RuntimeId) (slice : Option Slice),
      Undisturbed x (x.setSlice r slice) := fun _ _ _ => .of_same rfl rfl rfl rfl
  -- a line is over, and leaves only what it may
  have turn : ∀ {t : TaskId} {task : Task} {f : Fiber} {x : State} {left : List Resource},
      s.Runs home t task f → Changes ⟨.task t, some home⟩ s f.resources x left →
      Undisturbed x s' → s'.agenda = x.agenda →
      Uncollected s s' E C :=
    fun runs changes u agenda => rolls.line sound idle (.body runs)
      (sound.own.lift sound.formed (.body runs)) (blind _) changes u []
        (by rw [agenda, List.append_nil]) (by simp)
  have answer : ∀ {a : ActorId} {handled : Nat} {code : List Line} {frame : Frame}
      {reply : Option CallId} {x : State} {left : List Resource} (as : List Action),
      s.slice home = some (.drain a handled (.handling code frame reply)) →
      Changes ⟨.actor a, some home⟩ s frame.resources x left →
      Undisturbed x s' → s'.agenda = x.agenda ++ as → (∀ b ∈ as, b.tolls = false) →
      Uncollected s s' E C :=
    fun as during changes u agenda quiet =>
      rolls.line sound idle (.handler during) (sound.own.lift sound.formed (.handler during)) deaf
        changes u as agenda quiet
  cases w with
  | next runs _ changes => exact turn runs changes (body ..) rfl
  | suspend runs _ changes => exact turn runs changes ((body ..).trans (moved ..)) rfl
  | pause _ runs _ changes =>
    exact turn runs changes ((body ..).trans (.of_same rfl rfl rfl rfl)) rfl
  | ends told runs changes =>
    refine rolls.line sound idle (.body runs) (sound.own.lift sound.formed (.body runs)) (blind _)
      changes ((body ..).trans (.of_same rfl rfl rfl rfl)) _ rfl fun b hb => ?_
    rcases List.mem_append.1 hb with hb | hb
    · obtain ⟨e, -, rfl⟩ := List.mem_map.1 hb
      rfl
    · obtain ⟨r, -, rfl⟩ := List.mem_map.1 hb
      rfl
  | handle during changes =>
    exact answer [] during changes (moved ..) (List.append_nil _).symm (by simp)
  | hold _ during changes =>
    exact answer [] during changes (.of_same rfl rfl rfl rfl) (List.append_nil _).symm (by simp)
  | handled _ during changes =>
    refine answer _ during changes (.of_same rfl rfl rfl rfl) rfl ?_
    simp [Action.tolls]
  | rest during why =>
    have goes_on := ongoing (dispatch.ongoing_of_waits during why)
    refine rolls.unnoticed idle (((moved ..).trans (.rephase goes_on fun _ => by rfl)).trans
      (.doFirst _)) ?_
    simp [State.doFirst, State.modifyNode, State.setSlice, State.modifyRuntime, idle, Action.tolls]
  | again during why =>
    have goes_on := ongoing (dispatch.ongoing_of_waits during why)
    refine rolls.unnoticed idle ((((moved ..).trans (.rephase goes_on fun _ => by rfl)).trans
      (.doFirst _)).trans (.enqueue ..)) fun b hb => ?_
    rcases State.mem_agenda_enqueue hb with rfl | hb
    · rfl
    · simp [State.doFirst, State.modifyNode, State.setSlice, State.modifyRuntime, idle] at hb
      rw [hb]
      rfl
  | forgotten during why =>
    have goes_on := ongoing (dispatch.ongoing_of_waits during why)
    exact rolls.unnoticed idle ((moved ..).trans (.rephase goes_on fun _ => by rfl)) nothing
  | @endBody t ending f trace cancelled during only =>
    have goes_on := ongoing (dispatch.slice_fits during).2
    have same : ∀ m, (f m).waiters = m.waiters := fun m => by
      obtain ⟨o, b, eq⟩ := only m
      rw [eq]
    refine rolls.unnoticed idle (((moved ..).trans (.modifyTask (fun m => by rw [same])
      fun shared => ?_)).trans (.of_same rfl rfl rfl rfl)) fun b hb => ?_
    · cases goes_on.symm.trans shared.2
    · rcases List.mem_append.1 hb with hb | hb
      · obtain ⟨n, -, rfl⟩ := List.mem_map.1 hb
        rfl
      · exact nothing b hb
  | @complete t stage p trace during past alone ended final =>
    refine rolls.complete sound idle (ongoing (dispatch.ongoing_of_over during past)) ended final
      ?_ rfl rfl rfl rfl (by simp [State.doFirst, State.modifyNode, State.setSlice,
        State.modifyRuntime, idle])
    intro _
    obtain ⟨m, outcome, there, -, given⟩ := answerable.outcome sound idle during past
    exact ⟨outcome, by rw [State.outcome?, there, Option.bind_some, given]⟩
  | @begin t queue takes =>
    have ready : (s.popped home queue).phase t = .ready := (dispatch.taken takes).2.1
    have taken : Undisturbed s (s.popped home queue) := .of_same rfl rfl rfl rfl
    have begins : Undisturbed (s.popped home queue) ((s.popped home queue).setPhase t .running) :=
      .rephase (by rw [ready]; rfl) fun _ => by rfl
    exact rolls.unnoticed idle ((taken.trans begins).trans (moved ..)) nothing
  | @drainAgain a handled actor =>
    have ends : Undisturbed s ((s.setSlice home none).log (.drained a handled)) :=
      .of_same rfl rfl rfl rfl
    refine rolls.unnoticed idle (ends.trans (.enqueue ..)) fun b hb => ?_
    exact (State.mem_agenda_enqueue hb).elim (fun refused => by rw [refused]; rfl) (nothing b)
  | @markerAgain serial queue band goal =>
    have taken : Undisturbed s (s.popped home queue) := .of_same rfl rfl rfl rfl
    refine rolls.unnoticed idle ((taken.trans (.enqueue ..)).trans (.of_same rfl rfl rfl rfl))
      fun b hb => ?_
    exact (State.mem_agenda_enqueue hb).elim (fun refused => by rw [refused]; rfl) (nothing b)
  | leave | refuse =>
    refine same rfl rfl rfl rfl fun b hb => ?_
    rcases List.mem_append.1 hb with hb | hb
    · rw [List.mem_singleton.1 hb]
      rfl
    · exact nothing b hb
  | reply =>
    refine same rfl rfl rfl rfl fun b hb => ?_
    rcases List.mem_append.1 hb with hb | hb
    · obtain ⟨k, -, rfl⟩ := List.mem_map.1 hb
      rfl
    · exact nothing b hb
  | _ => exact same rfl rfl rfl rfl nothing

/-- **A move of the main thread keeps the rolls**: nobody ends and nobody is collected. -/
theorem move {d d' : Desk} (sound : Sound s d) (idle : s.agenda = []) (m : Move s d s' d')
    (rolls : Rolls s E C) :
    Uncollected s s' E C := by
  have deaf : ¬ s.Looks { who := .main } := by
    rintro ⟨⟨home, t, task, f, here, -⟩, -⟩
    cases here
  have nothing : ∀ b ∈ s.agenda, b.tolls = false := by
    rw [idle]
    simp
  have start : ∀ (x : State) (r : RuntimeId) (goal : Goal), Undisturbed x (x.start r goal) ∧
      (x.start r goal).agenda = x.agenda := by
    intro x r goal
    obtain ⟨trace, eq⟩ := x.start_eq r goal
    rw [eq]
    exact ⟨.of_same rfl rfl rfl rfl, rfl⟩
  -- the main thread has no group in hand, and collects nobody
  cases m with
  | build place batch stem =>
    rcases s.build_cases place batch stem with same | ⟨-, settings, built⟩
    · rw [same]
      exact rolls.unnoticed idle (.refl s) nothing
    · rw [built]
      exact rolls.unnoticed idle (.of_same rfl rfl rfl rfl) nothing
  | @start _ r | @block r | @join r =>
    refine rolls.unnoticed idle (start s r _).1 ?_
    rw [(start s r _).2]
    exact nothing
  | @startRounds _ r _ rounds band =>
    have marked : Undisturbed s { s with markers := s.markers + 1 } := .of_same rfl rfl rfl rfl
    refine rolls.unnoticed idle ((marked.trans (.enqueue r band _)).trans (start _ r _).1) ?_
    intro b hb
    rw [State.startRounds, (start _ r _).2] at hb
    exact (State.mem_agenda_enqueue hb).elim (fun refused => by rw [refused]; rfl) (nothing b)
  | @launchRoot _ r _ body =>
    obtain ⟨nodes, trace, grown, eq⟩ :=
      State.launch_addNode_eq sound.formed.nodes .normal none r body true
    rw [State.launchRoot, eq]
    refine rolls.unnoticed idle (((Undisturbed.grow (State.fresh_nextNode sound.formed.nodes) grown
      rfl trace).trans (.setTask ?_ _ ?_ ?_)).trans (.enqueue ..)) fun b hb => ?_
    · exact sound.formed.fresh_task
    · rfl
    · rfl
    · exact (State.mem_agenda_enqueue hb).elim (fun refused => by rw [refused]; rfl) (nothing b)
  | @leaveRoot r t ended =>
    have own : Own s ([.handle t] ++ []) [] := sound.own
    have taken : Undisturbed s (s.takeOutcome t).1 :=
      .modifyTask (fun _ => rfl) fun enrolled =>
        absurd enrolled.1 (own.not_child sound.formed .main List.mem_cons_self)
    refine rolls.unnoticed idle (taken.trans (.doFirst _)) fun b hb => ?_
    rcases List.mem_append.1 hb with hb | hb
    · rw [List.mem_singleton.1 hb]
      rfl
    · exact nothing b hb
  | close =>
    refine rolls.unnoticed idle (.of_same rfl rfl rfl rfl) fun b hb => ?_
    rcases List.mem_append.1 hb with hb | hb
    · obtain ⟨e, -, rfl⟩ := List.mem_map.1 hb
      rfl
    · exact nothing b hb
  | line plain =>
    exact rolls.line sound idle .main sound.own deaf (State.plain?_fits idle plain) (.refl _) []
      (List.append_nil _).symm (by simp)
  | @shelve f =>
    have own : Own s ((f.resources ++ []) ++ []) [] := by
      rw [List.append_nil, List.append_nil]
      exact sound.own
    exact rolls.line sound idle .main own deaf (State.shelve_changes f s []) (.refl _) []
      (List.append_nil _).symm (by simp)

end Rolls

end Nursery
