import Nursery.Proofs.Invariant.Sound
import Nursery.Proofs.Trail

/-!
# The roll of a group

The end of a child travels to its group in three stages: it stands among those who are to be woken
at the end of the child, then as an item on the agenda, then as a place on the list of those that
ended.  From there the owner collects it.  A group therefore has a roll: the places of the children
that ended, in the order of their end, cut into those that were collected, those that are listed
and those that are still on their way.

* `Notice`, `State.notices`, `State.announcing` : who is told of the end of a child, and the places
  that are on their way.
* `State.ends`, `State.collected` : the children that end in a transition, and those that are
  collected in it.
* `Roll` : the roll of one group; `Rolls` : the rolls of all groups.
* `Undisturbed` : what no group takes notice of; `Rolls.undisturbed`, it keeps the rolls.
-/

namespace Nursery

/-- What a group is told at the end of a child. -/
structure Notice where
  /-- The group. -/
  group : TaskId
  /-- The place of the child. -/
  place : Nat
  /-- The child. -/
  child : TaskId

/-- The notice that a waker gives. -/
def Waker.notice? : Waker → Option Notice
  | .member g i t => some ⟨g, i, t⟩
  | .task _ => none

/-- The places among some notices that a group is told. -/
def placesFor (g : TaskId) (notices : List Notice) : List Nat :=
  (notices.filter (·.group = g)).map Notice.place

/-- The places that an item of the agenda is about to tell a group. -/
def Action.places (notices : TaskId → List Notice) (g : TaskId) : Action → List Nat
  | .announce h i => if h = g then [i] else []
  | .wake w => placesFor g w.notice?.toList
  | .wakeWaiters t => placesFor g (notices t)
  | _ => []

namespace State

/-- The children of a group, in the order in which they were added. -/
def members (s : State) (g : TaskId) : List TaskId :=
  ((s.groups.get? g).map Group.children).getD []

/-- The notices that the end of a task brings. -/
def notices (s : State) (t : TaskId) : List Notice :=
  (((s.tasks.get? t).map Task.waiters).getD []).filterMap Waker.notice?

/-- How a task ended, until somebody learns of it. -/
def outcome? (s : State) (t : TaskId) : Option (Except TaskError Int64) :=
  (s.tasks.get? t).bind Task.outcome

/-- The places that are on their way to a group. -/
def announcing (s : State) (g : TaskId) : List Nat :=
  s.agenda.flatMap (Action.places s.notices g)

/-- The places of the children of a group that end in a transition. -/
def ends (g : TaskId) (s s' : State) : List Nat :=
  (List.range (s.members g).length).filter fun i =>
    (s.members g)[i]?.any fun t => !(s.phase t).isTerminal && (s'.phase t).isTerminal

/-- The places that are taken off the list of a group in a transition. -/
def collected (g : TaskId) (s s' : State) : List Nat :=
  (s.completed g).take ((s.completed g).length - (s'.completed g).length)

/-- A task is a child of some group. -/
def Enrolled (s : State) (t : TaskId) : Prop :=
  ∃ g group, s.groups.get? g = some group ∧ t ∈ group.children

end State

/-- The roll of a group: who ended and who of these was collected, by their places. -/
structure Roll (s : State) (g : TaskId) (group : Group) (ended gone : List Nat) : Prop where
  /-- Who ended was collected, or is listed, or is on the way to the list, in this order. -/
  order : ended = gone ++ s.completed g ++ s.announcing g
  /-- Nobody ends twice. -/
  once : ended.Nodup
  /-- Only children end. -/
  range : ∀ i ∈ ended, i < group.children.length
  /-- A child is on the roll when it has ended. -/
  mem : ∀ i t, group.children[i]? = some t → (i ∈ ended ↔ (s.phase t).isTerminal = true)
  /-- The group knows how many were not collected. -/
  count : group.remaining + gone.length = group.children.length
  /-- A child that has ended keeps its outcome until it is collected. -/
  left : ∀ i t, group.children[i]? = some t → (s.phase t).isTerminal = true → i ∉ gone →
    ∃ outcome, s.outcome? t = some outcome ∧ s.phase t = State.finalPhase (some outcome)
  /-- The end of a child will be told to the group, once. -/
  waits : ∀ i t, group.children[i]? = some t → (s.phase t).isTerminal = false →
    placesFor g (s.notices t) = [i]
  /-- The group is told of nobody else. -/
  told : ∀ u n, n ∈ s.notices u → n.group = g → n.child = u ∧ group.children[n.place]? = some u
  /-- The group has a list. -/
  signal : (s.signals.get? g).isSome = true

/-- The rolls of all groups. -/
structure Rolls (s : State) (ended gone : TaskId → List Nat) : Prop where
  /-- Every group has its roll. -/
  roll : ∀ g group, s.groups.get? g = some group → Roll s g group (ended g) (gone g)
  /-- Nobody ended in a group that was not made, and it has no list. -/
  fresh : ∀ g, s.nodes.get? g = none → ended g = [] ∧ gone g = [] ∧ s.signals.get? g = none
  /-- Nobody is told that was not made. -/
  known : ∀ u n, n ∈ s.notices u → s.nodes.get? n.group ≠ none

/-- The rolls one transition later: whoever ends comes behind those that ended before, and so does
whoever is collected.  Two children do not end at once. -/
structure Rolled (s s' : State) (ended gone : TaskId → List Nat) : Prop where
  /-- The rolls go on. -/
  rolls : Rolls s' (fun g => ended g ++ State.ends g s s') fun g => gone g ++ State.collected g s s'
  /-- At most one child of a group ends. -/
  one : ∀ g, (State.ends g s s').length ≤ 1

/-- Every group was there before, may have got children behind the others and reports failures as
before, or it is new. -/
def Enrols (s s' : State) : Prop :=
  ∀ g m', s'.groups.get? g = some m' → s.nodes.get? g = none ∧ m'.failed = false ∨
    ∃ m, s.groups.get? g = some m ∧ m.children <+: m'.children ∧ m'.failed = m.failed

/-- The rolls one transition later, in which nobody is collected. -/
structure Uncollected (s s' : State) (ended gone : TaskId → List Nat) : Prop
    extends Rolled s s' ended gone where
  /-- Nobody is collected. -/
  nobody : ∀ g, State.collected g s s' = []
  /-- No failure is reported. -/
  enrols : Enrols s s'

variable {s s' s'' : State} {g t : TaskId} {group : Group} {ended gone : List Nat}
  {E C : TaskId → List Nat} {a : Action} {as : List Action}

/-! ### What is on its way -/

theorem placesFor_append (g : TaskId) (ns ms : List Notice) :
    placesFor g (ns ++ ms) = placesFor g ns ++ placesFor g ms := by
  simp [placesFor]

theorem mem_placesFor {i : Nat} {ns : List Notice} :
    i ∈ placesFor g ns ↔ ∃ n ∈ ns, n.group = g ∧ n.place = i := by
  simp [placesFor, and_assoc]

theorem Action.places_of_tolls (h : a.tolls = false) (ns : TaskId → List Notice) :
    a.places ns g = [] := by
  cases a with
  | wake w =>
    cases w with
    | task t => rfl
    | member h i t => simp [Action.tolls] at h
  | announce | wakeWaiters => simp [Action.tolls] at h
  | _ => rfl

theorem places_of_tolls (h : ∀ a ∈ as, a.tolls = false) (ns : TaskId → List Notice) :
    as.flatMap (Action.places ns g) = [] :=
  List.flatMap_eq_nil_iff.2 fun a ha => a.places_of_tolls (h a ha) ns

namespace State

theorem announcing_of_tolls (h : ∀ a ∈ s.agenda, a.tolls = false) : s.announcing g = [] :=
  places_of_tolls h _

theorem announcing_of_idle (idle : s.agenda = []) : s.announcing g = [] := by
  simp [announcing, idle]

theorem OfLine.announcing (h : s.OfLine) : s.announcing g = [] :=
  announcing_of_tolls fun a ha => Hushed.tolls_of_ofLine (h a ha)

theorem announcing_doFirst (as : List Action) :
    (s.doFirst as).announcing g = as.flatMap (Action.places s.notices g) ++ s.announcing g :=
  List.flatMap_append

theorem announcing_of_places (agenda : s'.agenda = as ++ s.agenda)
    (same : ∀ a ∈ s.agenda, a.places s'.notices g = a.places s.notices g) :
    s'.announcing g = as.flatMap (Action.places s'.notices g) ++ s.announcing g := by
  rw [announcing, announcing, agenda, List.flatMap_append]
  exact congrArg _ (List.flatMap_congr same)

theorem announcing_of_agenda (same : ∀ t, s'.notices t = s.notices t)
    (agenda : s'.agenda = as ++ s.agenda) :
    s'.announcing g = as.flatMap (Action.places s.notices g) ++ s.announcing g := by
  have notices : s'.notices = s.notices := funext same
  rw [announcing_of_places agenda fun a _ => by rw [notices], notices]

theorem notices_of_get? (same : s'.tasks.get? t = s.tasks.get? t) : s'.notices t = s.notices t := by
  rw [notices, notices, same]

theorem outcome?_of_get? (same : s'.tasks.get? t = s.tasks.get? t) :
    s'.outcome? t = s.outcome? t := by
  rw [outcome?, outcome?, same]

/-! ### Who is enrolled -/

theorem members_of_get? (found : s.groups.get? g = some group) :
    s.members g = group.children := by
  simp [members, found]

theorem mem_ends {i : Nat} : i ∈ ends g s s' ↔ ∃ t, (s.members g)[i]? = some t ∧
    (s.phase t).isTerminal = false ∧ (s'.phase t).isTerminal = true := by
  rw [ends, List.mem_filter, List.mem_range, Option.any_eq_true]
  constructor
  · rintro ⟨-, t, child, terminal⟩
    exact ⟨t, child, by simpa using terminal⟩
  · rintro ⟨t, child, terminal⟩
    exact ⟨(List.getElem?_eq_some_iff.1 child).1, t, child, by simpa using terminal⟩

theorem nodup_ends : (ends g s s').Nodup :=
  List.nodup_range.filter _

theorem ends_of_phase (same : ∀ t, (s'.phase t).isTerminal = (s.phase t).isTerminal) :
    ends g s s' = [] := by
  refine List.eq_nil_iff_forall_not_mem.2 fun i hi => ?_
  obtain ⟨t, -, before, after⟩ := mem_ends.1 hi
  rw [same, before] at after
  cases after

theorem collected_of_append {more : List Nat} (grows : s'.completed g = s.completed g ++ more) :
    collected g s s' = [] := by
  simp [collected, grows]

theorem collected_of_same (same : s'.completed g = s.completed g) : collected g s s' = [] :=
  collected_of_append (show _ = _ ++ [] by rw [same, List.append_nil])

end State

/-! ### What no group takes notice of -/

/-- Nothing happens that concerns a group: nobody is added, ends or is collected. -/
structure Undisturbed (s s' : State) : Prop where
  /-- The groups stay as they are. -/
  groups : s'.groups = s.groups
  /-- The lists stay as they are. -/
  completed : ∀ g, s'.completed g = s.completed g
  /-- The same groups have a list. -/
  signals : ∀ g, (s'.signals.get? g).isSome = (s.signals.get? g).isSome
  /-- The end of every task brings the same notices. -/
  notices : ∀ t, s'.notices t = s.notices t
  /-- A child that has ended keeps its outcome. -/
  outcome : ∀ t, s.Enrolled t → (s.phase t).isTerminal = true → s'.outcome? t = s.outcome? t
  /-- Nobody ends. -/
  phase : ∀ t, (s'.phase t).isTerminal = (s.phase t).isTerminal
  /-- Who has ended stays as it ended. -/
  final : ∀ t, (s.phase t).isTerminal = true → s'.phase t = s.phase t
  /-- No node goes. -/
  nodes : ∀ n, s.nodes.get? n ≠ none → s'.nodes.get? n ≠ none

namespace Undisturbed

theorem trans (h : Undisturbed s s') (h' : Undisturbed s' s'') : Undisturbed s s'' where
  groups := h'.groups.trans h.groups
  completed g := (h'.completed g).trans (h.completed g)
  signals g := (h'.signals g).trans (h.signals g)
  notices t := (h'.notices t).trans (h.notices t)
  outcome t enrolled terminal := by
    have enrolled' : s'.Enrolled t := by
      unfold State.Enrolled
      rwa [h.groups]
    exact (h'.outcome t enrolled' ((h.phase t).trans terminal)).trans
      (h.outcome t enrolled terminal)
  phase t := (h'.phase t).trans (h.phase t)
  final t terminal := (h'.final t ((h.phase t).trans terminal)).trans (h.final t terminal)
  nodes n known := h'.nodes n (h.nodes n known)

theorem of_same (nodes : s'.nodes = s.nodes) (tasks : s'.tasks = s.tasks)
    (groups : s'.groups = s.groups) (signals : s'.signals = s.signals) : Undisturbed s s' where
  groups := groups
  completed g := by rw [State.completed, State.completed, signals]
  signals g := by rw [signals]
  notices t := by rw [State.notices, State.notices, tasks]
  outcome t _ _ := by rw [State.outcome?, State.outcome?, tasks]
  phase t := by rw [State.phase, State.phase, nodes]
  final t _ := by rw [State.phase, State.phase, nodes]
  nodes n known := by rwa [nodes]

theorem refl (s : State) : Undisturbed s s :=
  of_same rfl rfl rfl rfl

theorem tell (e : Event) : Undisturbed s (s.tell e) :=
  of_same rfl rfl rfl rfl

theorem doFirst (as : List Action) : Undisturbed s (s.doFirst as) :=
  of_same rfl rfl rfl rfl

theorem enqueue (r : RuntimeId) (p : Priority) (e : Entry) : Undisturbed s (s.enqueue r p e) := by
  obtain ⟨runtimes, agenda, eq⟩ := State.enqueue_eq s r p e
  rw [eq]
  exact of_same rfl rfl rfl rfl

theorem modifyNode {n : TaskId} {f : Node → Node} (same : ∀ m, (f m).phase = m.phase) :
    Undisturbed s (s.modifyNode n f) where
  groups := rfl
  completed _ := rfl
  signals _ := rfl
  notices _ := rfl
  outcome _ _ _ := rfl
  phase t := by rw [State.phase_modifyNode_same same]
  final t _ := State.phase_modifyNode_same same
  nodes m known gone := known (Store.get?_modify_eq_none.1 gone)

theorem rephase {n : TaskId} {f : Node → Node} (ongoing : (s.phase n).isTerminal = false)
    (goes_on : ∀ m, (f m).phase.isTerminal = false) : Undisturbed s (s.modifyNode n f) := by
  have phase : ∀ t, ((s.modifyNode n f).phase t).isTerminal = (s.phase t).isTerminal := by
    intro t
    by_cases ht : n = t
    · subst ht
      cases found : s.nodes.get? n with
      | none => rw [State.phase_modifyNode_of_none found]
      | some node => rw [State.phase_modifyNode_self found, goes_on, ongoing]
    · rw [State.phase_modifyNode_of_ne ht]
  refine ⟨rfl, fun _ => rfl, fun _ => rfl, fun _ => rfl, fun _ _ _ => rfl, phase,
    fun t terminal => ?_, fun m known gone => known (Store.get?_modify_eq_none.1 gone)⟩
  refine State.phase_modifyNode_of_ne fun ht => ?_
  rw [← ht, ongoing] at terminal
  cases terminal

theorem modifyTask {t : TaskId} {f : Task → Task}
    (waiters : ∀ m, (f m).waiters.filterMap Waker.notice? = m.waiters.filterMap Waker.notice?)
    (outcome : (s.Enrolled t ∧ (s.phase t).isTerminal = true) → ∀ m, (f m).outcome = m.outcome) :
    Undisturbed s (s.modifyTask t f) where
  groups := rfl
  completed _ := rfl
  signals _ := rfl
  notices u := by
    simp only [State.notices, State.modifyTask, Store.get?_modify]
    by_cases hu : t = u
    · cases s.tasks.get? u <;> simp [hu, waiters]
    · simp [hu]
  outcome u enrolled terminal := by
    simp only [State.outcome?, State.modifyTask, Store.get?_modify]
    by_cases hu : t = u
    · subst hu
      cases s.tasks.get? t <;> simp [outcome ⟨enrolled, terminal⟩]
    · simp [hu]
  phase _ := rfl
  final _ _ := rfl
  nodes _ known := known

theorem modifySignal {h : TaskId} {f : Signal → Signal}
    (same : ∀ m, (f m).completed = m.completed) : Undisturbed s (s.modifySignal h f) where
  groups := rfl
  completed g := by
    unfold State.completed
    rw [State.modifySignal, Store.map_get?_modify_same same]
  signals g := by
    simp only [State.modifySignal, Store.get?_modify]
    split <;> simp
  notices _ := rfl
  outcome _ _ _ := rfl
  phase _ := rfl
  final _ _ := rfl
  nodes _ known := known

end Undisturbed

theorem Rolls.init : Rolls {} (fun _ => []) (fun _ => []) where
  roll g group found := by cases found
  fresh _ _ := ⟨rfl, rfl, rfl⟩
  known u n hn := by cases hn

/-- A roll is kept where the same children have ended in the same way and the same is told. -/
theorem Roll.keep (h : Roll s g group ended gone)
    (order : s'.completed g ++ s'.announcing g = s.completed g ++ s.announcing g)
    (signal : (s'.signals.get? g).isSome = (s.signals.get? g).isSome)
    (phase : ∀ t ∈ group.children, (s'.phase t).isTerminal = (s.phase t).isTerminal)
    (final : ∀ t ∈ group.children, (s.phase t).isTerminal = true →
      s'.phase t = s.phase t ∧ s'.outcome? t = s.outcome? t)
    (notices : ∀ t ∈ group.children, (s.phase t).isTerminal = false → s'.notices t = s.notices t)
    (told : ∀ u n, n ∈ s'.notices u → n.group = g → n ∈ s.notices u) :
    Roll s' g group ended gone where
  order := by rw [h.order, List.append_assoc, List.append_assoc, order]
  once := h.once
  range := h.range
  mem i t child := by rw [phase t (List.mem_of_getElem? child), h.mem i t child]
  count := h.count
  left i t child terminal waiting := by
    have mine := List.mem_of_getElem? child
    rw [phase t mine] at terminal
    rw [(final t mine terminal).1, (final t mine terminal).2]
    exact h.left i t child terminal waiting
  waits i t child ongoing := by
    have mine := List.mem_of_getElem? child
    rw [phase t mine] at ongoing
    rw [notices t mine ongoing, h.waits i t child ongoing]
  told u n hn mine := h.told u n (told u n hn mine) mine
  signal := signal.trans h.signal

/-- What no group takes notice of keeps the rolls, if the same places are on their way. -/
theorem Rolls.undisturbed (h : Rolls s E C) (u : Undisturbed s s')
    (announcing : ∀ g group, s.groups.get? g = some group → s'.announcing g = s.announcing g) :
    Rolls s' E C where
  roll g group found := by
    rw [u.groups] at found
    refine (h.roll g group found).keep ?_ (u.signals g) (fun t _ => u.phase t)
      (fun t child terminal => ⟨u.final t terminal, u.outcome t ⟨g, group, found, child⟩ terminal⟩)
      (fun t _ _ => u.notices t) fun v n hn _ => by rwa [u.notices] at hn
    rw [u.completed, announcing g group found]
  fresh g unmade := by
    have before := h.fresh g (by_contra fun known => u.nodes g known unmade)
    have same := u.signals g
    rw [before.2.2, Option.isSome_none, Option.isSome_eq_false_iff, Option.isNone_iff_eq_none]
      at same
    exact ⟨before.1, before.2.1, same⟩
  known v n hn := by
    rw [u.notices] at hn
    exact u.nodes _ (h.known v n hn)

/-- Where the groups stay, or one of them goes, the others are as before. -/
theorem Enrols.of_old (old : ∀ g m', s'.groups.get? g = some m' → s.groups.get? g = some m') :
    Enrols s s' :=
  fun g m' found => .inr ⟨m', old g m' found, List.prefix_refl _, rfl⟩

theorem Undisturbed.enrols (h : Undisturbed s s') : Enrols s s' :=
  .of_old fun g m' found => by rwa [h.groups] at found

/-- Where no group takes notice, nobody ends and nobody is collected. -/
theorem Undisturbed.still (h : Undisturbed s s') (g : TaskId) :
    State.ends g s s' = [] ∧ State.collected g s s' = [] :=
  ⟨State.ends_of_phase h.phase, State.collected_of_same (h.completed g)⟩

/-! ### Items of the agenda -/

/-- An item that changes whom groups are told of, what is on their lists, or which groups there
are. -/
def Action.rolls : Action → Bool
  | .announce .. | .wakeWaiters _ | .bury _ | .dissolve _ => true
  | _ => false

/-- Of any other item no group takes notice. -/
theorem Effect.undisturbed (e : Effect s a s') (other : a.rolls = false) : Undisturbed s s' := by
  cases e with
  | spent => exact .refl s
  | cancel => exact ((Undisturbed.modifyNode fun _ => by rfl).trans (.tell _)).trans (.doFirst _)
  | finish => exact (Undisturbed.modifyNode fun _ => by rfl).trans (.doFirst _)
  | orphan => exact .modifyNode fun _ => by rfl
  | reap =>
    exact ((Undisturbed.modifyNode fun _ => by rfl).trans
      (.modifyNode fun _ => by rfl)).trans (.tell _)
  | reapLast =>
    exact (((Undisturbed.modifyNode fun _ => by rfl).trans
      (.modifyNode fun _ => by rfl)).trans (.tell _)).trans (.doFirst _)
  | resume suspended =>
    exact (Undisturbed.rephase (by rw [suspended]; rfl) fun _ => by rfl).trans (.enqueue ..)
  | notify running =>
    exact (Undisturbed.rephase (by rw [running]; rfl) fun _ => by rfl).trans (.doFirst _)
  | awake | inform | dropGroup | dropUndrained | discardTask | discardDrain => exact .doFirst _
  | trip =>
    exact ((Undisturbed.modifySignal fun _ => by rfl).trans (.tell _)).trans (.doFirst _)
  | @reportFailure t f trace only =>
    have same : ∀ m, (f m).waiters = m.waiters ∧ (f m).outcome = m.outcome := fun m => by
      obtain ⟨b, eq⟩ := only m
      rw [eq]
      exact ⟨rfl, rfl⟩
    exact (Undisturbed.modifyTask (fun m => by rw [(same m).1]) fun _ m => (same m).2).trans
      (.of_same rfl rfl rfl rfl)
  | @dropHandle t f trace only =>
    have same : ∀ m, (f m).waiters = m.waiters ∧ (f m).outcome = m.outcome := fun m => by
      obtain ⟨b, eq⟩ := only m
      rw [eq]
      exact ⟨rfl, rfl⟩
    exact (Undisturbed.modifyTask (fun m => by rw [(same m).1]) fun _ m => (same m).2).trans
      (.of_same rfl rfl rfl rfl)
  | forget => exact (Undisturbed.modifyTask (fun _ => by rfl) fun _ _ => by rfl).trans (.doFirst _)
  | silence => exact (Undisturbed.modifySignal fun _ => by rfl).trans (.doFirst _)
  | answer | record | panic | dropAnswered | dropPending | abandon => exact .of_same rfl rfl rfl rfl
  | announce | wakeWaiters | bury | dissolve => simp [Action.rolls] at other

/-- Such an item leaves what is on its way to a group, or passes it on. -/
theorem Effect.announcing (hushed : Hushed (s.doFirst [a])) (e : Effect s a s')
    (other : a.rolls = false) (g : TaskId) :
    s'.announcing g = (s.doFirst [a]).announcing g := by
  have same := (e.undisturbed other).notices
  -- what the item leaves has the same places on the way as the item
  have passes : ∀ as, s'.agenda = as ++ s.agenda →
      as.flatMap (Action.places s.notices g) = a.places s.notices g →
      s'.announcing g = (s.doFirst [a]).announcing g := by
    intro as agenda places
    rw [State.announcing_of_agenda same agenda, State.announcing_doFirst, places]
    simp
  have mute : ∀ as, s'.agenda = as ++ s.agenda → (∀ b ∈ as, b.tolls = false) → a.tolls = false →
      s'.announcing g = (s.doFirst [a]).announcing g := by
    intro as agenda quiet mild
    exact passes as agenda (by rw [places_of_tolls quiet, a.places_of_tolls mild])
  have single : ∀ {w : Option TaskId}, ∀ b ∈ w.toList.map fun t => Action.wake (.task t),
      b.tolls = false := by simp [Action.tolls]
  cases e with
  | @spent a why =>
    refine passes [] rfl ?_
    cases a with
    | wake w =>
      cases w with
      | task t => rfl
      | member h i t => cases why
    | announce | wakeWaiters => cases other
    | _ => rfl
  | cancel | notify | awake | dropHandle | dropGroup | dropUndrained | discardTask | discardDrain =>
    exact mute _ rfl (by simp [Action.tolls]) rfl
  | finish => exact mute _ rfl (by split <;> simp [Action.tolls]) rfl
  | orphan | reap | reportFailure | record | dropPending => exact mute [] rfl (by simp) rfl
  | @reapLast n p node above =>
    exact mute _ rfl (by split <;> split <;> simp [Action.tolls]) rfl
  | resume =>
    rcases State.agenda_enqueue (s.setPhase _ .ready) _ _ _ with refused | taken
    · exact mute _ refused (by simp [Action.tolls]) rfl
    · exact mute [] taken (by simp) rfl
  | inform h i t =>
    refine passes _ rfl ?_
    by_cases mine : h = g <;> simp [Action.places, placesFor, Waker.notice?, mine]
  | @trip h i t =>
    refine passes _ rfl ?_
    by_cases mine : h = g <;> simp [Action.places, placesFor, Waker.notice?, mine]
  | answer => exact mute _ rfl single rfl
  | panic message inside =>
    rw [State.announcing_of_tolls (hushed.calm inside), State.announcing_of_tolls]
    intro b hb
    obtain ⟨x, -, left⟩ := List.mem_filterMap.1 hb
    exact (Hushed.afterPanic_hushed left).2
  | dropAnswered | silence => exact mute _ rfl (by simp [Action.tolls]) rfl
  | forget =>
    refine mute _ rfl (fun b hb => ?_) rfl
    rcases List.mem_append.1 hb with hb | hb
    · obtain ⟨r, -, rfl⟩ := List.mem_map.1 hb
      rfl
    · rw [List.mem_singleton.1 hb]
      rfl
  | abandon =>
    refine mute _ rfl (fun b hb => ?_) rfl
    obtain ⟨k, -, rfl⟩ := List.mem_map.1 hb
    rfl
  | announce | wakeWaiters | bury | dissolve => simp [Action.rolls] at other

/-- A child of a group has not lost its handle. -/
theorem Own.has_child {hand base : List Resource} (own : Own s hand base)
    (distinct : s.groups.Distinct) (found : s.groups.get? g = some group)
    (child : t ∈ group.children) : s.Has (.handle t) := by
  refine own.there _ ?_
  have one := Store.le_tally (w := fun _ (m : Group) => m.resources.count (.handle t))
    distinct found
  have mine : 0 < group.resources.count (.handle t) :=
    List.count_pos_iff.2 (List.mem_map_of_mem child)
  simp only [State.owners]
  omega

theorem places_wakes (ws : List Waker) (ns : TaskId → List Notice) :
    (ws.map .wake).flatMap (Action.places ns g) = placesFor g (ws.filterMap Waker.notice?) := by
  induction ws with
  | nil => rfl
  | cons w ws ih =>
    rw [List.map_cons, List.flatMap_cons, ih, List.filterMap_cons]
    cases notice : w.notice? with
    | none => simp [Action.places, notice, placesFor]
    | some n =>
      simp only [Action.places, notice, Option.toList_some]
      rw [← placesFor_append]
      rfl

namespace Rolls

variable {d : Desk}

theorem announce (h : TaskId) (i : Nat) {signal : Signal} (found : s.signals.get? h = some signal)
    (rolls : Rolls (s.doFirst [.announce h i]) E C) :
    Rolls ((s.modifySignal h fun m =>
      { m with completed := m.completed ++ [i], waker := none }).doFirst
        (signal.waker.toList.map fun t => .wake (.task t))) E C where
  roll g group known := by
    refine (rolls.roll g group known).keep ?_ ?_ (fun _ _ => rfl)
      (fun _ _ _ => ⟨rfl, rfl⟩) (fun _ _ _ => rfl) fun _ _ hn _ => hn
    · have quiet : ∀ b ∈ signal.waker.toList.map fun t => Action.wake (.task t),
          b.tolls = false := by simp [Action.tolls]
      rw [State.announcing_of_agenda (s := s) (fun _ => by rfl) rfl, State.announcing_doFirst,
        places_of_tolls quiet, List.nil_append]
      by_cases mine : h = g
      · subst mine
        simp [State.completed, State.modifySignal, State.doFirst, Store.get?_modify_self, found,
          Action.places]
      · simp [State.completed, State.modifySignal, State.doFirst, Store.get?_modify_of_ne mine,
          Action.places, mine]
    · simp only [State.doFirst, State.modifySignal, Store.get?_modify]
      split <;> simp
  fresh g unmade := by
    obtain ⟨none_ended, none_gone, unlisted⟩ := rolls.fresh g unmade
    exact ⟨none_ended, none_gone, Store.get?_modify_eq_none.2 unlisted⟩
  known := rolls.known

theorem wakeWaiters {task : Task} (found : s.tasks.get? t = some task)
    (tether : Tether (s.doFirst [.wakeWaiters t]))
    (rolls : Rolls (s.doFirst [.wakeWaiters t]) E C) :
    Rolls ((s.modifyTask t fun m => { m with waiters := [] }).doFirst (task.waiters.map .wake))
      E C := by
  have mine : s.notices t = task.waiters.filterMap Waker.notice? := by
    simp [State.notices, found]
  have terminal : (s.phase t).isTerminal = true := (tether.leaving t List.mem_cons_self).1
  have none_left : (s.modifyTask t fun m => { m with waiters := [] }).notices t = [] := by
    simp [State.notices, State.modifyTask, Store.get?_modify_self, found]
  have other : ∀ u, u ≠ t →
      (s.modifyTask t fun m => { m with waiters := [] }).notices u = s.notices u :=
    fun u hu => State.notices_of_get? (Store.get?_modify_of_ne (Ne.symm hu))
  have told : ∀ u, (s.modifyTask t fun m => { m with waiters := [] }).notices u ⊆ s.notices u := by
    intro u n hn
    by_cases hu : u = t
    · rw [hu, none_left] at hn
      cases hn
    · rwa [other u hu] at hn
  refine ⟨fun g group known => ?_, rolls.fresh, fun u n hn => rolls.known u n (told u hn)⟩
  have roll := rolls.roll g group known
  refine roll.keep ?_ rfl (fun _ _ => rfl) (fun u _ _ => ⟨rfl, ?_⟩) (fun u _ ongoing => ?_)
    fun u n hn _ => told u hn
  · have before : (s.doFirst [.wakeWaiters t]).announcing g =
        placesFor g (s.notices t) ++ s.announcing g := by
      rw [State.announcing_doFirst, List.flatMap_cons, List.flatMap_nil, List.append_nil]
      rfl
    rw [State.announcing_of_places
        (show _ = task.waiters.map Action.wake ++ s.agenda from rfl) fun b hb => ?_,
      places_wakes, before, mine]
    · rfl
    -- nobody else wakes those who wait for this end: a place would be told twice
    cases b with
    | wakeWaiters u =>
      by_cases hu : u = t
      · subst hu
        have alone : placesFor g (s.notices u) = [] := by
          refine List.eq_nil_iff_forall_not_mem.2 fun i hi => ?_
          have once := roll.once
          rw [roll.order, before, ← List.append_assoc] at once
          have later : i ∈ s.announcing g := List.mem_flatMap.2 ⟨_, hb, hi⟩
          exact (List.nodup_append.1 once).2.2 i (List.mem_append_right _ hi) i later rfl
        exact (congrArg (placesFor g) none_left).trans alone.symm
      · exact congrArg (placesFor g) (other u hu)
    | _ => rfl
  · simp only [State.outcome?, State.doFirst, State.modifyTask, Store.get?_modify]
    split <;> cases s.tasks.get? u <;> rfl
  · refine other u fun hu => ?_
    rw [hu] at ongoing
    cases terminal.symm.trans ongoing

theorem bury {task : Task} (found : s.tasks.get? t = some task)
    (sound : Sound (s.doFirst [.bury t]) d) (rolls : Rolls (s.doFirst [.bury t]) E C) :
    Rolls ({ s with tasks := s.tasks.erase t }.doFirst (task.waiters.map Waker.forget)) E C := by
  have loose := sound.tether.buried t List.mem_cons_self
  have other : ∀ u, u ≠ t → (s.tasks.erase t).get? u = s.tasks.get? u := by
    intro u hu
    rw [Store.get?_erase, if_neg (Ne.symm hu)]
  have told : ∀ u, ({ s with tasks := s.tasks.erase t } : State).notices u ⊆ s.notices u := by
    intro u n hn
    by_cases hu : u = t
    · simp [State.notices, Store.get?_erase, hu] at hn
    · rwa [State.notices_of_get? (other u hu)] at hn
  refine ⟨fun g group known => ?_, rolls.fresh, fun u n hn => rolls.known u n (told u hn)⟩
  have apart : ∀ u ∈ group.children, u ≠ t := by
    rintro u child rfl
    obtain ⟨m, there, kept⟩ := sound.own.has_child sound.formed.distinctGroups known child
    rw [loose.handle m there] at kept
    cases kept
  refine (rolls.roll g group known).keep ?_ rfl (fun _ _ => rfl)
    (fun u child _ => ⟨rfl, State.outcome?_of_get? (other u (apart u child))⟩)
    (fun u child _ => State.notices_of_get? (other u (apart u child))) fun u n hn _ => told u hn
  have quiet : ∀ b ∈ task.waiters.map Waker.forget, b.tolls = false := by
    intro b hb
    obtain ⟨w, -, rfl⟩ := List.mem_map.1 hb
    exact Hushed.tolls_forget w
  rw [State.announcing_of_places
      (show _ = task.waiters.map Waker.forget ++ s.agenda from rfl) fun b hb => ?_,
    places_of_tolls quiet, State.announcing_doFirst]
  · rfl
  cases b with
  | wakeWaiters u =>
    have hu : u ≠ t := by
      rintro rfl
      obtain ⟨r, during⟩ := (sound.tether.leaving u (List.mem_cons_of_mem _ hb)).2
      exact loose.slice_ne r _ during
    exact congrArg (placesFor g) (State.notices_of_get? (other u hu))
  | _ => rfl

theorem dissolve {h : TaskId} {group : Group}
    (rolls : Rolls (s.doFirst [.dissolve h]) E C) :
    Rolls ({ s with groups := s.groups.erase h }.doFirst
      (group.children.map (fun t => Action.release (.handle t)) ++ [Action.forgetSignal h]))
        E C := by
  refine ⟨fun g m known => ?_, rolls.fresh, rolls.known⟩
  have known' : s.groups.get? g = some m := by
    change (s.groups.erase h).get? g = some m at known
    rw [Store.get?_erase] at known
    split at known
    · cases known
    · exact known
  refine (rolls.roll g m known').keep ?_ rfl (fun _ _ => rfl) (fun _ _ _ => ⟨rfl, rfl⟩)
    (fun _ _ _ => rfl) fun _ _ hn _ => hn
  have quiet : ∀ b ∈ group.children.map (fun t => Action.release (.handle t)) ++
      [Action.forgetSignal h], b.tolls = false := by
    intro b hb
    rcases List.mem_append.1 hb with hb | hb
    · obtain ⟨u, -, rfl⟩ := List.mem_map.1 hb
      rfl
    · rw [List.mem_singleton.1 hb]
      rfl
  rw [State.announcing_of_agenda (s := s) (fun _ => by rfl) rfl, places_of_tolls quiet,
    State.announcing_doFirst]
  rfl

/-- **An item of the agenda keeps the rolls**: by it nobody ends and nobody is collected. -/
theorem effect (sound : Sound (s.doFirst [a]) d) (e : Effect s a s')
    (rolls : Rolls (s.doFirst [a]) E C) : Rolls s' E C := by
  have popped : Undisturbed (s.doFirst [a]) s := .of_same rfl rfl rfl rfl
  by_cases other : a.rolls = false
  · exact rolls.undisturbed (popped.trans (e.undisturbed other))
      fun g _ _ => e.announcing sound.hushed other g
  · cases e with
    | @spent a why =>
      refine rolls.undisturbed popped fun g m known => ?_
      suffices nothing : a.places s.notices g = [] by
        rw [State.announcing_doFirst, List.flatMap_cons, nothing]
        rfl
      cases a with
      | announce h i =>
        have apart : h ≠ g := by
          rintro rfl
          have there := (rolls.roll h m known).signal
          rw [show (s.doFirst [.announce h i]).signals.get? h = none from why] at there
          cases there
        exact if_neg apart
      | wakeWaiters t =>
        have missing : s.tasks.get? t = none := why
        simp [Action.places, State.notices, missing, placesFor]
      | bury | dissolve => rfl
      | _ => simp [Action.rolls] at other
    | announce i found => exact rolls.announce _ i found
    | wakeWaiters found => exact rolls.wakeWaiters found sound.tether
    | bury found => exact rolls.bury found sound
    | dissolve => exact rolls.dissolve
    | _ => simp [Action.rolls] at other

end Rolls

/-- An item of the agenda makes no group and adds nobody to one. -/
theorem Effect.enrols (e : Effect s a s') : Enrols (s.doFirst [a]) s' := by
  refine .of_old fun g m' found => ?_
  by_cases other : a.rolls = false
  · rwa [(e.undisturbed other).groups] at found
  · cases e with
    | dissolve =>
      change (s.groups.erase _).get? g = some m' at found
      rw [Store.get?_erase] at found
      split at found
      · cases found
      · exact found
    | spent | announce | wakeWaiters | bury => exact found
    | _ => simp [Action.rolls] at other

/-- By an item of the agenda nobody ends and nobody is collected. -/
theorem Effect.still (e : Effect s a s') (g : TaskId) :
    State.ends g (s.doFirst [a]) s' = [] ∧ State.collected g (s.doFirst [a]) s' = [] := by
  by_cases other : a.rolls = false
  · have popped : Undisturbed (s.doFirst [a]) s := .of_same rfl rfl rfl rfl
    exact (popped.trans (e.undisturbed other)).still g
  · cases e with
    | spent => exact (Undisturbed.of_same rfl rfl rfl rfl).still g
    | @announce h i signal found =>
      refine ⟨State.ends_of_phase fun _ => rfl, ?_⟩
      by_cases mine : h = g
      · subst mine
        refine State.collected_of_append (show _ = _ ++ [i] from ?_)
        simp [State.completed, State.modifySignal, State.doFirst, Store.get?_modify_self, found]
      · refine State.collected_of_same ?_
        simp [State.completed, State.modifySignal, State.doFirst, Store.get?_modify_of_ne mine]
    | wakeWaiters | bury | dissolve =>
      exact ⟨State.ends_of_phase fun _ => rfl, State.collected_of_same rfl⟩
    | _ => simp [Action.rolls] at other

end Nursery
