import Nursery.Proofs.Group.Look

/-!
# What a group hands on

Along a run the places of the children that ended and of those that were collected are known, and
so is what every look at the group has handed on.  The two agree: whoever is collected comes to
exactly one value, one failure or nothing, in the order of the ends.

* `State.takings`, `State.results` : who is collected in a transition, and what is handed on.
* `Transition.accounts` : the two agree in every transition.
* `Trail.balanced` : and so they do along a run.
* `Roll.all_gone` : a group has no child outstanding when every one was collected.
-/

namespace Nursery

namespace State

/-- The children of a group that are collected in a transition, in their order. -/
def takings (g : TaskId) (s s' : State) : List Taking :=
  (collected g s s').filterMap fun i =>
    (s.members g)[i]?.bind fun t => (s.outcome? t).map fun outcome => ⟨i, t, outcome⟩

/-- What a look at a group hands on in a transition. -/
def results (g : TaskId) (s s' : State) : List (Except GroupError Int64) :=
  match s.look? with
  | some l => if l.group = g ∧ s'.roused = false then l.results else []
  | none => []

/-- A group has reported a failure. -/
def hasFailed (s : State) (g : TaskId) : Bool :=
  (s.groups.get? g).any Group.failed

end State

variable {s s' : State} {d d' : Desk} {g t : TaskId} {home : RuntimeId} {l : Look}
  {E C : TaskId → List Nat} {past : List State} {group : Group}

/-! ### One transition -/

/-- Who is collected in a transition, and what is handed on. -/
structure Accounts (g : TaskId) (s s' : State) : Prop where
  /-- Whoever leaves the list is known, with its outcome. -/
  places : (State.takings g s s').map Taking.place = State.collected g s s'
  /-- What it comes to is handed on. -/
  results : State.results g s s' = Taking.results (s.hasFailed g) (State.takings g s s')
  /-- The group knows whether it has reported a failure. -/
  failed : ∀ m', s'.groups.get? g = some m' →
    m'.failed = (s.hasFailed g || Taking.anyFailed (State.takings g s s'))
  /-- It was a child of the group, and its outcome is how it ended. -/
  children : ∀ x ∈ State.takings g s s', (s.members g)[x.place]? = some x.child ∧
    s.phase x.child = State.finalPhase (some x.outcome)

/-- A group that was not made is not known. -/
theorem Formed.group_unmade (formed : Formed s) (unmade : s.nodes.get? g = none) :
    s.groups.get? g = none := by
  cases known : s.groups.get? g with
  | none => rfl
  | some m =>
    obtain ⟨node, there, -⟩ := Option.map_eq_some_iff.1 (formed.groups g m known)
    cases unmade.symm.trans there

theorem State.hasFailed_of_get? (found : s.groups.get? g = some group) :
    s.hasFailed g = group.failed := by
  simp [hasFailed, found]

theorem State.results_of_blind (blind : s.look? = none ∨ s'.roused = true) :
    State.results g s s' = [] := by
  unfold results
  rcases blind with blind | roused
  · rw [blind]
  · split
    · simp [roused]
    · rfl

/-- Where nobody looks and nobody is collected, the two agree. -/
theorem Accounts.of_nothing (formed : Formed s) (blind : s.look? = none ∨ s'.roused = true)
    (nobody : State.collected g s s' = []) (enrols : Enrols s s') : Accounts g s s' := by
  have none_taken : State.takings g s s' = [] := by
    rw [State.takings, nobody]
    rfl
  refine ⟨by rw [none_taken, nobody]; rfl,
    by rw [State.results_of_blind blind, none_taken]; rfl, fun m' found => ?_, by simp [none_taken]⟩
  rw [none_taken, Taking.anyFailed, List.any_nil, Bool.or_false]
  rcases enrols g m' found with ⟨unmade, calm⟩ | ⟨m, known, -, same⟩
  · rw [calm, State.hasFailed, formed.group_unmade unmade]
    rfl
  · rw [same, State.hasFailed_of_get? known]

namespace Looked

variable {xs : List Taking} {s₁ : State}

theorem not_roused (looked : Looked s l xs s₁) : s.step.roused = false := by
  unfold State.roused
  split
  · rename_i t agenda
    cases (looked.mute (.wake (.task t)) (by simp [agenda])).1
  · rfl

theorem results (look : s.look? = some l) (looked : Looked s l xs s₁) :
    State.results l.group s s.step = l.results := by
  simp [State.results, look, looked.not_roused]

theorem results_of_ne (look : s.look? = some l) (other : l.group ≠ g) :
    State.results g s s' = [] := by
  simp [State.results, look, other]

/-- Whoever is collected by a look is what the rolls say. -/
theorem takings (h : s.LooksAt l) (looked : Looked s l xs s₁) :
    State.takings l.group s s.step = xs := by
  have places := State.collected_of_append_left (looked.completed h)
  rw [State.takings, places, List.filterMap_map]
  have each : ∀ x ∈ xs, ((fun i => (s.members l.group)[i]?.bind fun t =>
      (s.outcome? t).map fun outcome => (⟨i, t, outcome⟩ : Taking)) ∘ Taking.place) x = some x := by
    intro x hx
    obtain ⟨child, -, outcome⟩ := looked.collects.taken x hx
    obtain ⟨shared, eq⟩ := h.state
    rw [eq] at child outcome
    have child' : (s.members l.group)[x.place]? = some x.child := child
    have outcome' : s.outcome? x.child = some x.outcome := outcome
    simp [child', outcome']
  exact (List.filterMap_congr each).trans List.filterMap_some

theorem accounts (look : s.look? = some l) (h : s.LooksAt l) (looked : Looked s l xs s₁)
    (g : TaskId) : Accounts g s s.step := by
  by_cases mine : g = l.group
  · subst mine
    obtain ⟨m, known⟩ := h.known
    have known' : l.state.groups.get? l.group = some m := by rw [h.before.groups, known]
    obtain ⟨results, -, m₁, known₁, failed⟩ := looked.collects.results known'
    refine ⟨?_, ?_, fun m' found => ?_, fun x hx => ?_⟩
    · rw [looked.takings h, State.collected_of_append_left (looked.completed h)]
    · rw [looked.results look, looked.takings h, State.hasFailed_of_get? known, ← results]
    · rw [looked.rest.groups, known₁, Option.some.injEq] at found
      rw [← found, failed, looked.takings h, State.hasFailed_of_get? known]
    · rw [looked.takings h] at hx
      obtain ⟨child, final, -⟩ := looked.collects.taken x hx
      obtain ⟨shared, eq⟩ := h.state
      rw [eq] at child final
      exact ⟨child, final⟩
  · have nobody := State.collected_of_same (looked.completed_of_ne h mine)
    have none_taken : State.takings g s s.step = [] := by
      rw [State.takings, nobody]
      rfl
    refine ⟨by rw [none_taken, nobody]; rfl, ?_, fun m' found => ?_, by simp [none_taken]⟩
    · rw [results_of_ne look (Ne.symm mine), none_taken]
      rfl
    · rw [looked.rest.groups, looked.collects.groups_of_ne mine, h.before.groups] at found
      rw [none_taken, State.hasFailed_of_get? found, Taking.anyFailed, List.any_nil, Bool.or_false]

end Looked

/-- **In every transition** what is handed on is what those come to that are collected. -/
theorem Transition.accounts (reachable : Reachable s d) (tr : Transition s d s' d')
    (rolls : Rolls s E C) (g : TaskId) : Accounts g s s' := by
  rcases tr.look_or_uncollected reachable rolls with ⟨l, look, rfl⟩ | ⟨blind, uncollected⟩
  · have h := State.step_look reachable.sound look
    obtain ⟨xs, s₁, looked⟩ := h.looked reachable.sound rolls
    exact looked.accounts look h g
  · exact .of_nothing reachable.sound.formed blind (uncollected.nobody g) uncollected.enrols

/-- A group keeps its children in their places. -/
theorem Transition.children (reachable : Reachable s d) (tr : Transition s d s' d')
    (rolls : Rolls s E C) {m' : Group} (found : s'.groups.get? g = some m') :
    s.nodes.get? g = none ∨ ∃ m, s.groups.get? g = some m ∧ m.children <+: m'.children := by
  rcases tr.look_or_uncollected reachable rolls with ⟨l, look, rfl⟩ | ⟨-, uncollected⟩
  · have h := State.step_look reachable.sound look
    obtain ⟨xs, s₁, looked⟩ := h.looked reachable.sound rolls
    rw [looked.rest.groups] at found
    obtain ⟨m, known, same⟩ := looked.collects.children found
    rw [h.before.groups] at known
    exact .inr ⟨m, known, [], by rw [List.append_nil, same]⟩
  · rcases uncollected.enrols g m' found with ⟨unmade, -⟩ | ⟨m, known, more, -⟩
    · exact .inl unmade
    · exact .inr ⟨m, known, more⟩

/-! ### A run -/

/-- **Along a run** the two agree, for every group that there ever was. -/
structure Balanced (g : TaskId) (past : List State) (s : State) : Prop where
  /-- Whoever left the list was collected. -/
  places : gather (State.collected g) s past =
    (gather (State.takings g) s past).map Taking.place
  /-- What they come to was handed on, and nothing else. -/
  results : gather (State.results g) s past =
    Taking.results false (gather (State.takings g) s past)
  /-- The group knows whether it has reported a failure. -/
  failed : ∀ group, s.groups.get? g = some group →
    group.failed = Taking.anyFailed (gather (State.takings g) s past)
  /-- The outcome of whoever was collected is how it ended. -/
  final : ∀ x ∈ gather (State.takings g) s past,
    s.phase x.child = State.finalPhase (some x.outcome)
  /-- Whoever was collected is a child of the group. -/
  children : ∀ group, s.groups.get? g = some group →
    ∀ x ∈ gather (State.takings g) s past, group.children[x.place]? = some x.child

namespace State

theorem takings_of_unknown (unknown : s.groups.get? g = none) : takings g s s' = [] := by
  simp [takings, members, unknown]

end State

/-- Nobody was collected from a group before it was made. -/
theorem Balanced.unmade (ih : Balanced g past s) (h : Trail past s d)
    (unmade : s.nodes.get? g = none) : gather (State.takings g) s past = [] := by
  have nobody := (h.rolls.fresh g unmade).2.1
  rwa [ih.places, List.map_eq_nil_iff] at nobody

theorem Trail.balanced (h : Trail past s d) (g : TaskId) : Balanced g past s := by
  induction h with
  | init => exact ⟨rfl, rfl, fun _ known => (by cases known), by simp, by simp⟩
  | @next past s s' d d' h tr ih =>
    have accounts := tr.accounts h.reachable h.rolls g
    have lasts := tr.lasts h.reachable.sound
    -- a group that has not reported a failure before is new, or remembers
    have before : ∀ m, s.groups.get? g = some m →
        s.hasFailed g = Taking.anyFailed (gather (State.takings g) s past) := fun m known => by
      rw [State.hasFailed_of_get? known, ih.failed m known]
    refine ⟨?_, ?_, fun m' found => ?_, fun x hx => ?_, fun m' found x hx => ?_⟩
    · simp only [gather_cons, List.map_append, ih.places, accounts.places]
    · rw [gather_cons, gather_cons, Taking.results_append, ih.results, accounts.results]
      cases known : s.groups.get? g with
      | none => rw [State.takings_of_unknown known]; rfl
      | some m => rw [before m known, Bool.false_or]
    · rw [accounts.failed m' found, gather_cons, Taking.anyFailed_append]
      cases known : s.groups.get? g with
      | some m => rw [before m known]
      | none =>
        rcases tr.children h.reachable h.rolls found with unmade | ⟨m, there, -⟩
        · rw [ih.unmade h unmade, State.hasFailed, known]
          rfl
        · cases known.symm.trans there
    · have final : s.phase x.child = State.finalPhase (some x.outcome) :=
        (List.mem_append.1 hx).elim (ih.final x) fun now => (accounts.children x now).2
      rw [lasts.phase (by rw [final]; exact State.isTerminal_finalPhase _), final]
    · rcases tr.children h.reachable h.rolls found with unmade | ⟨m, known, more⟩
      · rw [gather_cons, ih.unmade h unmade, List.nil_append,
          State.takings_of_unknown (h.reachable.sound.formed.group_unmade unmade)] at hx
        cases hx
      · have child : m.children[x.place]? = some x.child := by
          rcases List.mem_append.1 hx with before | now
          · exact ih.children m known x before
          · rw [← State.members_of_get? known]
            exact (accounts.children x now).1
        obtain ⟨others, more⟩ := more
        rw [← more, List.getElem?_append_left (List.getElem?_eq_some_iff.1 child).1, child]

/-- A group has no child outstanding when every one was collected. -/
theorem Roll.all_gone {ended gone : List Nat} (roll : Roll s g group ended gone) :
    group.remaining = 0 ↔ ∀ i < group.children.length, i ∈ gone := by
  have once : gone.Nodup := by
    have all := roll.once
    rw [roll.order, List.append_assoc] at all
    exact (List.nodup_append.1 all).1
  have inside : gone ⊆ List.range group.children.length := by
    intro i hi
    refine List.mem_range.2 (roll.range i ?_)
    rw [roll.order, List.append_assoc]
    exact List.mem_append_left _ hi
  have few := List.subperm_of_subset once inside
  have count := roll.count
  constructor
  · intro none_left i hi
    have full : (List.range group.children.length).length ≤ gone.length := by
      rw [List.length_range]
      omega
    exact (few.perm_of_length_le full).mem_iff.2 (List.mem_range.2 hi)
  · intro all
    have sub : (List.range group.children.length).Subperm gone :=
      List.subperm_of_subset List.nodup_range fun i hi => all i (List.mem_range.1 hi)
    have many := sub.length_le
    rw [List.length_range] at many
    omega

end Nursery
