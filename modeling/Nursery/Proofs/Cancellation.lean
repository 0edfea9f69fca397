import Mathlib.Algebra.BigOperators.Group.Finset.Basic
import Nursery.Proofs.Completion
import Nursery.Proofs.Invariant.Spread
import Nursery.Proofs.Trail

/-!
# What a cancellation reaches

A node is flagged because it was cancelled itself, because something happened above it while it
was attached, or because it was made below a flagged node.  All of these are seen along a run, so
the flag of a node can be read off the run, in both directions: a walk that turns back at flagged
nodes misses nobody, and it reaches nobody else.

* `State.Under` : a node is attached below another one, at any depth.
* `Cause` : what flags a node, sooner or later.
* `Transition.concerns` : a transition begins to cancel one subtree, and nobody outside of it.
* `walk_ends` : a walk ends, and has flagged exactly those that it was on its way to.
* `flagged_iff_caused` : the flags of a state are those that had a cause.
-/

namespace Nursery

/-- A node is attached below another one: its parent lists it, and so on up to that one. -/
def State.Under (s : State) : TaskId → TaskId → Prop :=
  Relation.TransGen fun p n => n ∈ s.children p

/-- A node is known and was not reaped. -/
def State.Attached (s : State) (n : TaskId) : Prop :=
  ∃ node, s.nodes.get? n = some node ∧ node.reaped = false

/-- A node is flagged, or a walk is on its way to it. -/
def State.Reaches (s : State) (n : TaskId) : Prop :=
  s.flagged n = true ∨ ∃ m, .cancel m ∈ s.agenda ∧ (m = n ∨ s.Under m n)

/-- A node is in the subtree that a transition begins to cancel. -/
def State.Concerns (s s' : State) (n : TaskId) : Prop :=
  ∃ m, Wanted s m s' ∧ (m = n ∨ s'.Under m n)

/-- What flags a node, sooner or later. -/
inductive Cause (n : TaskId) (s s' : State) : Prop where
  /-- It is cancelled itself: through its handle, or as a group. -/
  | itself (known : s.Knows n) (why : Cancels s n s')
  /-- A node is flagged that it is attached below. -/
  | above {p : TaskId} (under : s.Under p n) (before : s.flagged p = false)
      (after : s'.flagged p = true)
  /-- The body of a task fails that it is attached below. -/
  | failed {p : TaskId} (under : s.Under p n) (failing : s.failing = some p) (next : s' = s.step)
  /-- It is made below a flagged node. -/
  | born {p : TaskId} {node : Node} (new : ¬ s.Knows n) (made : s'.nodes.get? n = some node)
      (parent : node.parent = some p) (flagged : s'.flagged p = true)

variable {s s' : State} {d d' : Desk} {past : List State} {n m p : TaskId} {as : List Action}
  {t : TaskId} {home : RuntimeId} {goal : Goal}

/-! ### Where a node is attached -/

theorem State.under_walk : (s.walk m as).Under p n ↔ s.Under p n := by
  simp only [State.Under, State.children_walk]

theorem State.under_of_nodes (same : s'.nodes = s.nodes) : s'.Under p n ↔ s.Under p n := by
  simp only [State.Under, State.children, same]

theorem Kinship.knows_under (h : Kinship s) (under : s.Under p n) : s.Knows p ∧ s.Knows n := by
  induction under with
  | single listed => exact h.knows listed
  | tail _ listed ih => exact ⟨ih.1, (h.knows listed).2⟩

theorem Kinship.below_of_under (h : Kinship s) (under : s.Under p n) : s.Below p n := by
  induction under with
  | single listed =>
    obtain ⟨node, found, parent⟩ := h.listed _ _ listed
    exact .child found parent
  | tail _ listed ih =>
    obtain ⟨node, found, parent⟩ := h.listed _ _ listed
    exact .deeper ih found parent

theorem Kinship.listed_of_attached (h : Kinship s) {node : Node}
    (found : s.nodes.get? n = some node) (attached : node.reaped = false)
    (parent : node.parent = some p) :
    n ∈ s.children p ∧ s.Attached p := by
  have listed := (h.linked n node p found parent).resolve_left (by simp [attached])
  obtain ⟨above, known⟩ := (h.knows listed).1
  refine ⟨listed, above, known, ?_⟩
  by_contra gone
  rw [Bool.not_eq_false] at gone
  rw [State.children_of_get? known, (h.reaped p above known gone).2] at listed
  cases listed

theorem Kinship.under_of_below (h : Kinship s) (attached : s.Attached n) (below : s.Below p n) :
    s.Under p n := by
  induction below with
  | child found parent =>
    obtain ⟨node, found', attached⟩ := attached
    cases found.symm.trans found'
    exact .single (h.listed_of_attached found attached parent).1
  | deeper _ found parent ih =>
    obtain ⟨node, found', attached⟩ := attached
    cases found.symm.trans found'
    obtain ⟨listed, above⟩ := h.listed_of_attached found attached parent
    exact .tail (ih above) listed

theorem State.Descends.lt_of_below (h : s.Descends) (below : s.Below p n) : p.index < n.index := by
  induction below with
  | child found parent => exact h _ _ _ found parent
  | deeper _ found parent ih => exact Nat.lt_trans ih (h _ _ _ found parent)

/-! ### Nobody is missed -/

/-- Below a flagged node everyone is flagged, or the walk is on its way. -/
theorem State.Closed.reaches (h : s.Closed) (flagged : s.flagged p = true) (under : s.Under p n) :
    s.Reaches n := by
  induction under using Relation.TransGen.head_induction_on with
  | single listed => exact (h _ _ flagged listed).imp id fun ahead => ⟨_, ahead, .inl rfl⟩
  | head listed under ih =>
    rcases h _ _ flagged listed with done | ahead
    · exact ih done
    · exact .inr ⟨_, ahead, .inr under⟩

theorem State.Calm.flagged_of_reaches (calm : s.Calm) (h : s.Reaches n) : s.flagged n = true := by
  rcases h with flagged | ⟨m, ahead, -⟩
  · exact flagged
  · exact absurd ahead calm.free

/-- Whoever a walk is on its way to, it goes on to. -/
theorem Spread.reaches (h : Spread s s') (closed : s'.Closed) (kinship : Kinship s)
    (known : s.Knows n) (reaches : s.Reaches n) : s'.Reaches n := by
  rcases reaches with flagged | ⟨m, ahead, way⟩
  · exact .inl (h.flagged flagged)
  cases h with
  | calm calm => exact absurd ahead calm.free
  | @walk k rest first next =>
    subst next
    rw [first] at ahead
    rcases List.mem_cons.1 ahead with now | later
    · cases now
      rcases way with rfl | under
      · exact .inl (State.flagged_walk.2 (.inr ⟨rfl, known⟩))
      · refine closed.reaches (p := m) ?_ (State.under_walk.2 under)
        exact State.flagged_walk.2 (.inr ⟨rfl, (kinship.knows_under under).1⟩)
    · refine .inr ⟨m, ?_, way.imp id State.under_walk.2⟩
      rw [State.agenda_walk]
      exact List.mem_append_right _ later

theorem State.nodes_endBody (ending : Ending) : (s.endBody home t ending).nodes = s.nodes := by
  unfold endBody
  dsimp only
  split
  · split <;> rfl
  · split
    · rfl
    · split
      · rfl
      · split <;> rfl

theorem State.step_ended (idle : s.agenda = []) (active : s.active = some (home, goal))
    {ending : Ending} (during : s.slice home = some (.task t (.ended ending))) :
    s.step = s.endBody home t (endingOf s.unwinding ending) := by
  obtain ⟨rt, found, slice⟩ := State.slice_eq during
  simp only [step, idle, active, work, found, slice, taskStep]

/-- The body of a task that fails does nothing but ask for the children. -/
theorem State.step_failing (failing : s.failing = some p) :
    s.agenda = [] ∧ s.step.nodes = s.nodes := by
  unfold State.failing at failing
  split at failing
  · rename_i home goal idle active
    unfold sliceFailure at failing
    split at failing
    · rename_i t ending during
      exact ⟨idle, by rw [step_ended idle active during, nodes_endBody]⟩
    · cases failing
  · cases failing

/-- Whoever is wanted is next on a walk. -/
theorem Wanted.pending (h : Wanted s n s') : .cancel n ∈ s'.agenda := by
  cases h with
  | itself why => exact why.pending
  | @child p failing next listed =>
    subst next
    refine (State.step_orders (State.step_failing failing).1).mem_iff.2 ?_
    refine List.mem_append_right _ (List.mem_flatMap.2 ⟨p, ?_, listed⟩)
    rw [failing]
    exact List.mem_singleton_self p

/-- A cause is followed by a walk, if the flag is not set at once. -/
theorem Cause.reaches (h : Reachable s d) (tr : Transition s d s' d') (cause : Cause n s s') :
    s'.Knows n ∧ s'.Reaches n := by
  have spread := h.spread tr
  have kinship := h.sound.kinship
  have closed := (h.next tr).closed
  cases cause with
  | itself known why => exact ⟨spread.knows known, .inr ⟨n, why.pending, .inl rfl⟩⟩
  | @above p under before after =>
    obtain ⟨above, known⟩ := kinship.knows_under under
    refine ⟨spread.knows known, ?_⟩
    cases spread with
    | calm _ spares =>
      obtain ⟨node, found⟩ := above
      rw [spares.flagged found, before] at after
      cases after
    | walk first next =>
      subst next
      exact closed.reaches after (State.under_walk.2 under)
  | @failed p under failing next =>
    refine ⟨spread.knows (kinship.knows_under under).2, ?_⟩
    have same := (State.step_failing failing).2
    -- the walk goes to the child that the node is, or is attached below
    obtain ⟨c, listed, rest⟩ := Relation.TransGen.head'_iff.1 under
    refine .inr ⟨c, (Wanted.child failing next listed).pending, ?_⟩
    rw [← next] at same
    exact (Relation.reflTransGen_iff_eq_or_transGen.1 rest).imp Eq.symm
      (State.under_of_nodes same).2
  | @born p node new made parent flagged =>
    refine ⟨⟨node, made⟩, .inl ?_⟩
    cases spread with
    | walk first next =>
      subst next
      exact absurd (State.knows_walk.1 ⟨node, made⟩) new
    | calm _ spares =>
      have missing : s.nodes.get? n = none := by
        cases found : s.nodes.get? n with
        | none => rfl
        | some old => exact absurd ⟨old, found⟩ new
      have inherits := (spares.born n node missing made).inherits
      rw [parent, Option.any_some, flagged] at inherits
      simp [State.flagged, made, inherits]

theorem Trail.reaches (h : Trail past s d) (caused : Happened (Cause n) s past) :
    s.Knows n ∧ s.Reaches n := by
  induction h with
  | init => exact caused.elim
  | next h t ih =>
    rcases caused with before | now
    · obtain ⟨known, reaches⟩ := ih before
      have spread := h.reachable.spread t
      exact ⟨spread.knows known, spread.reaches (h.reachable.next t).closed
        h.reachable.sound.kinship known reaches⟩
    · exact now.reaches h.reachable t

/-! ### Nobody else is reached -/

/-- Whoever is flagged or is next on a walk had a cause. -/
theorem Trail.caused (h : Trail past s d) :
    (∀ n, s.flagged n = true → Happened (Cause n) s past) ∧
      ∀ n, .cancel n ∈ s.agenda → s.Knows n → Happened (Cause n) s past := by
  -- flags and walks go together: a flag comes from the walk before it
  induction h with
  | init =>
    refine ⟨fun n flagged => ?_, fun n ahead => by cases ahead⟩
    simp [State.flagged, Store.get?, Store.lookup] at flagged
  | @next past s s' d d' h t ih =>
    obtain ⟨flags, walks⟩ := ih
    have kinship := h.reachable.sound.kinship
    cases h.reachable.spread t with
    | @walk k rest first next =>
      subst next
      refine ⟨fun n flagged => ?_, fun n ahead known => ?_⟩
      · rcases State.flagged_walk.1 flagged with before | ⟨rfl, known⟩
        · exact .inl (flags n before)
        · exact .inl (walks n (by rw [first]; exact List.mem_cons_self) known)
      · rw [State.agenda_walk] at ahead
        rcases List.mem_append.1 ahead with new | later
        · split at new
          · cases new
          · rename_i before
            obtain ⟨m, listed, same⟩ := List.mem_map.1 new
            cases same
            refine .inr (.above (.single listed) (Bool.not_eq_true _ ▸ before) ?_)
            exact State.flagged_walk.2 (.inr ⟨rfl, (kinship.knows listed).1⟩)
        · exact .inl (walks n (by rw [first]; exact List.mem_cons_of_mem _ later)
            (State.knows_walk.1 known))
    | @calm ns _ spares orders why known =>
      refine ⟨fun n flagged => ?_, fun n ahead here => ?_⟩
      · cases found : s.nodes.get? n with
        | some node => exact .inl (flags n (spares.flagged found ▸ flagged))
        | none =>
          obtain ⟨node, made, flag⟩ := (Option.any_eq_true _ _).1 flagged
          have inherits := (spares.born n node found made).inherits
          rw [flag] at inherits
          obtain ⟨p, parent, above⟩ := (Option.any_eq_true _ _).1 inherits.symm
          refine .inr (.born ?_ made parent above)
          rintro ⟨old, there⟩
          rw [found] at there
          cases there
      · have wanted := orders.mem_iff.1 ahead
        cases why n wanted with
        | itself cancels => exact .inr (.itself (known n wanted here) cancels)
        | child failing next listed => exact .inr (.failed (.single listed) failing next)

/-! ### A walk keeps to its subtree -/

theorem State.reaches_of_walk {rest : List Action} (first : s.agenda = .cancel m :: rest)
    (h : (s.walk m rest).Reaches n) : s.Reaches n := by
  have here : Action.cancel m ∈ s.agenda := by
    rw [first]
    exact List.mem_cons_self
  rcases h with flagged | ⟨c, ahead, way⟩
  · rcases State.flagged_walk.1 flagged with before | ⟨rfl, -⟩
    · exact .inl before
    · exact .inr ⟨n, here, .inl rfl⟩
  · rw [State.agenda_walk] at ahead
    have way' : c = n ∨ s.Under c n := way.imp id State.under_walk.1
    rcases List.mem_append.1 ahead with new | later
    · split at new
      · cases new
      · obtain ⟨c', listed, same⟩ := List.mem_map.1 new
        cases same
        refine .inr ⟨m, here, .inr ?_⟩
        rcases way' with rfl | under
        · exact .single listed
        · exact .head listed under
    · refine .inr ⟨c, ?_, way'⟩
      rw [first]
      exact List.mem_cons_of_mem _ later

/-- **A transition begins to cancel a subtree, and nobody outside of it.** -/
theorem Transition.concerns (h : Reachable s d) (t : Transition s d s' d') (known : s.Knows n) :
    s'.Reaches n ↔ s.Reaches n ∨ s.Concerns s' n := by
  have spread := h.spread t
  constructor
  · intro reaches
    cases spread with
    | walk first next =>
      subst next
      exact .inl (State.reaches_of_walk first reaches)
    | calm _ spares orders why =>
      obtain ⟨node, found⟩ := known
      rcases reaches with flagged | ⟨m, ahead, way⟩
      · exact .inl (.inl (spares.flagged found ▸ flagged))
      · exact .inr ⟨m, why m (orders.mem_iff.1 ahead), way⟩
  · rintro (reaches | ⟨m, wanted, way⟩)
    · exact spread.reaches (h.next t).closed h.sound.kinship known reaches
    · exact .inr ⟨m, wanted.pending, way⟩

/-! ### A walk comes to its end -/

/-- How many children a walk may still have to go to. -/
def State.unwalked (s : State) : Nat :=
  ∑ i ∈ Finset.range s.nodes.size, if s.flagged ⟨i⟩ then 0 else (s.children ⟨i⟩).length

/-- The children that a walk goes on to are counted no more. -/
theorem State.unwalked_walk (numbered : s.nodes.Numbered TaskId.index) :
    (s.walk m as).unwalked + (if s.flagged m then 0 else (s.children m).length) = s.unwalked := by
  have size : (s.walk m as).nodes.size = s.nodes.size := by
    unfold walk cancelNode
    split
    · rfl
    · split
      · rfl
      · exact Store.size_modify
  by_cases known : s.Knows m
  · have among : m.index ∈ Finset.range s.nodes.size := by
      obtain ⟨node, found⟩ := known
      exact Finset.mem_range.2 (numbered m node found)
    have now : (s.walk m as).flagged m = true := flagged_walk.2 (.inr ⟨rfl, known⟩)
    unfold unwalked
    rw [size, ← Finset.add_sum_erase _ _ among, ← Finset.add_sum_erase _ _ among]
    have others : ∀ i ∈ (Finset.range s.nodes.size).erase m.index,
        (if (s.walk m as).flagged ⟨i⟩ then 0 else ((s.walk m as).children ⟨i⟩).length) =
          if s.flagged ⟨i⟩ then 0 else (s.children ⟨i⟩).length := by
      intro i hi
      have other : (⟨i⟩ : TaskId) ≠ m := by
        rintro rfl
        exact (Finset.mem_erase.1 hi).1 rfl
      have same : (s.walk m as).flagged ⟨i⟩ = s.flagged ⟨i⟩ :=
        Bool.eq_iff_iff.2 (flagged_walk.trans (or_iff_left fun h => other h.1))
      rw [same, children_walk]
    rw [Finset.sum_congr rfl others, now]
    exact (Nat.add_comm _ _).trans (congrArg _ (Nat.zero_add _))
  · have none : s.nodes.get? m = none := by
      cases found : s.nodes.get? m with
      | none => rfl
      | some node => exact absurd ⟨node, found⟩ known
    have same : s.walk m as = { s with agenda := as } := by
      simp only [walk, cancelNode, none]
    have alone : s.children m = [] := by simp [children, none]
    rw [same, alone, List.length_nil, ite_self, Nat.add_zero]
    rfl

/-- **A walk ends, and then exactly those are flagged that it was on its way to.** -/
theorem walk_ends (h : Trail past s d) : ∃ steps, (follow steps past s).2.Calm ∧
    ∀ n, s.Knows n → ((follow steps past s).2.flagged n = true ↔ s.Reaches n) := by
  obtain ⟨ns, orders⟩ := h.reachable.orders
  induction left : ns.length + s.unwalked using Nat.strong_induction_on generalizing ns s past with
  | _ left ih =>
    subst left
    cases ns with
    | nil => exact ⟨0, orders, fun n _ => ⟨.inl, State.Calm.flagged_of_reaches orders⟩⟩
    | cons m ns =>
      obtain ⟨rest, agenda, calm⟩ := orders
      have first : s.agenda = .cancel m :: (ns.map .cancel ++ rest) := agenda
      have next : s.step = s.walk m (ns.map .cancel ++ rest) := State.step_of_agenda first
      have later : Orders (ns.map Action.cancel ++ rest) ns := ⟨rest, rfl, calm⟩
      have trail := h.next .step
      have spread := h.reachable.spread .step
      have less : (s.walk m (ns.map .cancel ++ rest)).unwalked +
          (if s.flagged m then 0 else (s.children m).length) = s.unwalked :=
        State.unwalked_walk h.reachable.sound.formed.nodes
      obtain ⟨ns', orders, fewer⟩ : ∃ ns', Orders s.step.agenda ns' ∧
          ns'.length + s.step.unwalked < (m :: ns).length + s.unwalked := by
        rw [next, State.agenda_walk, List.length_cons]
        split
        · rename_i flagged
          rw [← less, if_pos flagged]
          exact ⟨ns, later, by omega⟩
        · rename_i unflagged
          rw [← less, if_neg unflagged]
          exact ⟨_, later.ahead _, by rw [List.length_append]; omega⟩
      obtain ⟨steps, ends, exactly⟩ := ih _ fewer trail _ orders rfl
      refine ⟨steps + 1, ends, fun n known => (exactly n (spread.knows known)).trans ⟨?_, ?_⟩⟩
      · intro reaches
        rw [next] at reaches
        exact State.reaches_of_walk first reaches
      · exact spread.reaches trail.reachable.closed h.reachable.sound.kinship known

/-! ### The walk upwards -/

theorem State.Closed.cancelledWithin_eq (h : s.Closed) (calm : s.Calm) (kinship : Kinship s)
    (steps : Nat) : ∀ {n : TaskId}, s.Attached n → s.cancelledWithin steps n = s.flagged n := by
  induction steps with
  | zero => exact fun _ => rfl
  | succ steps ih =>
    intro n attached
    obtain ⟨node, found, unreaped⟩ := attached
    unfold cancelledWithin
    split
    · rename_i p living
      have parent : node.parent = some p := by
        have := (Option.filter_eq_some_iff.1 living).1
        rwa [found, Option.bind_some] at this
      obtain ⟨listed, above⟩ := kinship.listed_of_attached found unreaped parent
      rw [ih above]
      -- a flag above has come down
      cases flagged : s.flagged p with
      | false => rw [Bool.or_false]
      | true =>
        rw [calm.flagged_of_reaches (h.reaches flagged (.single listed))]
        rfl
    · rw [Bool.or_false]

/-! ### The flags of a run -/

/-- The end of a body that returns a value or was cancelled is no failure. -/
theorem State.not_fails {ending : Ending}
    (fine : (∃ value, State.endingOf s.unwinding ending = .returned (.ok value)) ∨
      State.endingOf s.unwinding ending = .returned (.error .cancelled)) :
    s.fails t ending = false := by
  unfold fails
  rcases fine with ⟨value, fine⟩ | fine
  · rw [fine]
  · rw [fine]
    simp [TaskError.isCancelled]

/-- The end of a body that is no failure asks for nobody. -/
theorem State.calm_step_ended (idle : s.agenda = []) (active : s.active = some (home, goal))
    {ending : Ending} (during : s.slice home = some (.task t (.ended ending)))
    (fine : s.fails t ending = false) : s.step.Calm ∧ s.step.nodes = s.nodes := by
  rw [State.step_ended idle active during]
  refine ⟨?_, State.nodes_endBody _⟩
  have orders : Orders (s.endBody home t (endingOf s.unwinding ending)).agenda
    (if s.fails t ending then s.children t else []) := State.endBody_orders idle
  rwa [fine] at orders

theorem Trail.flagged (h : Trail past s d) {x : State} (hx : x ∈ past)
    (flagged : x.flagged n = true) : s.flagged n = true := by
  induction h with
  | init => cases hx
  | next h t ih =>
    refine (h.reachable.spread t).flagged ?_
    rcases List.mem_cons.1 hx with rfl | before
    · exact flagged
    · exact ih before

/-- **A cancellation reaches exactly the subtree.**  Whoever is flagged had a cause, and whoever
had one is flagged, unless a walk is still on its way.  A transition puts nobody on the way of a
walk but those whom it cancels and everyone attached below them; the walk comes to its end, and
flags exactly those that it was on its way to.  A flag is never cleared.  Whoever is attached below
a node is younger than it and was made below it, and as long as it is attached that is all it
takes.  Between two walks everyone below a flagged node is flagged, so an attached node counts as
cancelled exactly if it is flagged itself.  The end of a body that returns a value or was
cancelled flags nobody. -/
theorem flagged_iff_caused (h : Trail past s d) :
    (∀ n, s.flagged n = true → Happened (Cause n) s past) ∧
    (s.Calm → ∀ n, Happened (Cause n) s past → s.flagged n = true) ∧
    (∀ s' d', Transition s d s' d' → ∀ n, s.Knows n →
      (s'.Reaches n ↔ s.Reaches n ∨ s.Concerns s' n)) ∧
    (∃ steps, (follow steps past s).2.Calm ∧
      ∀ n, s.Knows n → ((follow steps past s).2.flagged n = true ↔ s.Reaches n)) ∧
    (∀ x ∈ past, ∀ n, x.flagged n = true → s.flagged n = true) ∧
    (∀ p n, s.Under p n → p.index < n.index ∧ s.Below p n) ∧
    (∀ p n, s.Attached n → s.Below p n → s.Under p n) ∧
    (s.Calm → ∀ p n, s.flagged p = true → s.Under p n → s.flagged n = true) ∧
    (s.Calm → ∀ n, s.Attached n → s.isCancelled n = s.flagged n) ∧
    ∀ home goal t ending, s.agenda = [] → s.active = some (home, goal) →
      s.slice home = some (.task t (.ended ending)) →
      (∃ value, State.endingOf s.unwinding ending = .returned (.ok value)) ∨
        State.endingOf s.unwinding ending = .returned (.error .cancelled) →
      s.step.Calm ∧ ∀ n, s.step.flagged n = s.flagged n := by
  have reachable := h.reachable
  have kinship := reachable.sound.kinship
  have closed := reachable.closed
  refine ⟨h.caused.1, fun calm n caused => ?_, fun s' d' t n => t.concerns reachable, walk_ends h,
    fun x hx n => h.flagged hx, fun p n under => ?_, fun p n => kinship.under_of_below,
    fun calm p n flagged under => ?_, fun calm n attached => ?_,
    fun home goal t ending idle active during fine => ?_⟩
  · exact calm.flagged_of_reaches (h.reaches caused).2
  · have below := kinship.below_of_under under
    exact ⟨reachable.descends.lt_of_below below, below⟩
  · exact calm.flagged_of_reaches (closed.reaches flagged under)
  · exact closed.cancelledWithin_eq calm kinship _ attached
  · obtain ⟨calm, same⟩ := State.calm_step_ended idle active during (State.not_fails fine)
    exact ⟨calm, fun n => by simp only [State.flagged, same]⟩

/-! ### A parent, a child and a task of its own -/

/-- The body of a task that makes a child and a root, and parks. -/
def branchBody : List Line :=
  [.mk ⟨"spawn", none, some "below", true⟩
      (.spawn none false [.mk ⟨"park", none, some "p", true⟩ .park]),
    .mk ⟨"spawn", none, some "apart", true⟩
      (.spawn none true [.mk ⟨"park", none, some "q", true⟩ .park]),
    .mk ⟨"park", none, some "r", true⟩ .park]

/-- The body of a task that makes such a task, and cancels it later. -/
def cancelBody : List Line :=
  [.mk ⟨"spawn", none, some "branch", true⟩ (.spawn none false branchBody),
    .mk ⟨"yield", none, none, true⟩ (.yieldTimes 1),
    .mk ⟨"cancel", some "branch", none, true⟩ .cancel,
    .mk ⟨"park", none, some "s", true⟩ .park]

theorem trail_branch : ∃ past s d, Trail past s d ∧ s.agenda = [] ∧ s.flagged ⟨2⟩ = true ∧
    s.flagged ⟨0⟩ = false ∧ s.flagged ⟨3⟩ = false ∧
    ((s.nodes.get? ⟨2⟩).map Node.reaped) = some false := by
  have built : Trail _ _ .clear := Trail.init.next (.move rfl (.build 0 none none))
  have spawned := built.next (.move (by decide) (.line (show State.plain? _ { who := .main } []
    ⟨"rt_spawn", none, some "top", true⟩ (.spawnOn 0 none cancelBody) = some _ from rfl)))
  have shelved := (spawned.follow 1).next (.move (by decide) .shelve)
  have run := (shelved.next (.move (by decide)
    (.start (show Store.get? _ 0 = some ⟨0⟩ by decide)))).follow 60
  exact ⟨_, _, _, run, by decide +kernel, by decide +kernel, by decide +kernel, by decide +kernel,
    by decide +kernel⟩

/-- Nothing has happened that would flag either of them. -/
theorem flagged_iff_caused_branch : ∃ past s d, Trail past s d ∧ Happened (Cause ⟨2⟩) s past ∧
    ¬ Happened (Cause ⟨0⟩) s past ∧ ¬ Happened (Cause ⟨3⟩) s past ∧
    s.isCancelled ⟨2⟩ = true := by
  obtain ⟨past, s, d, h, idle, below, top, apart, unreaped⟩ := trail_branch
  have calm : s.Calm := .idle idle
  obtain ⟨node, found, attached⟩ := Option.map_eq_some_iff.1 unreaped
  obtain ⟨caused, flagged, -, -, -, -, -, -, up, -⟩ := flagged_iff_caused h
  refine ⟨past, s, d, h, caused _ below, fun why => ?_, fun why => ?_, ?_⟩
  · cases top.symm.trans (flagged calm _ why)
  · cases apart.symm.trans (flagged calm _ why)
  · rw [up calm ⟨2⟩ ⟨node, found, attached⟩]
    exact below

end Nursery
