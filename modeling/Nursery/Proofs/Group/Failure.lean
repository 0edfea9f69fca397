import Nursery.Proofs.Group.Alarm
import Nursery.Proofs.Group.Order
import Nursery.Proofs.Lineage
import Nursery.Proofs.Losses

/-!
# The first failure of a group

The first child that fails cancels its group before anything else is done, and with the group
everything that is attached below it, now or later.  The owner learns of the first failure when it
collects that child, and of no other one: the log keeps those.

* `State.Felled` : a group is cancelled with everything below it.
* `Transition.trips` : what a group does about its first failure.
* `Loss.inGroup`, `Trail.suppressed` : what the log keeps of the failures of a group.
* `first_failure_reported` : **one failure is returned, every other one is logged.**
-/

namespace Nursery

/-- A group is cancelled, with everything that goes on below it. -/
structure State.Felled (s : State) (g : TaskId) : Prop where
  /-- The group. -/
  group : s.flagged g = true
  /-- Whoever is attached below it, behind all walks. -/
  below : s.Calm → ∀ n, s.Below g n → s.Attached n → s.flagged n = true ∧ s.isCancelled n = true
  /-- A task that has not ended is attached. -/
  going : ∀ n, s.Below g n → s.kind? n = some .task → (s.phase n).isTerminal = false → s.Attached n

/-- The log keeps a failure for a group. -/
def Loss.inGroup (g : TaskId) : Loss → Bool
  | .suppressed h _ _ => h = g
  | .unobserved .. => false

variable {s s' : State} {d d' : Desk} {g t : TaskId} {past : List State}

/-! ### The group is cancelled -/

namespace State

theorem knows_of_tripped (h : Trail past s d) (tripped : s.tripped g = true) : s.Knows g := by
  cases found : s.nodes.get? g with
  | some node => exact ⟨node, found⟩
  | none =>
    have unheard := (h.rolls.fresh g found).2.2
    simp [State.tripped, unheard] at tripped

end State

theorem Kinship.attached_of_ongoing (h : Kinship s) (task : s.kind? t = some .task)
    (ongoing : (s.phase t).isTerminal = false) : s.Attached t := by
  obtain ⟨node, found, kind⟩ := Option.map_eq_some_iff.1 task
  refine ⟨node, found, ?_⟩
  by_contra gone
  rw [Bool.not_eq_false] at gone
  rcases h.finished t node found (h.reaped t node found gone).1 with ended | ⟨group, -⟩
  · cases ongoing.symm.trans ended
  · cases task.symm.trans group

/-- A group that is flagged is cancelled with everything below it. -/
theorem Reachable.felled (h : Reachable s d) (flagged : s.flagged g = true) : s.Felled g where
  group := flagged
  below calm n below attached := by
    have under := h.sound.kinship.under_of_below attached below
    have reached := calm.flagged_of_reaches (h.closed.reaches flagged under)
    exact ⟨reached, (h.closed.cancelledWithin_eq calm h.sound.kinship _ attached).trans reached⟩
  going n _ := h.sound.kinship.attached_of_ongoing

/-- What a group does about its first failure: it is cancelled, with those below it, and the walk
that does so comes first. -/
theorem Transition.trips (h : Trail past s d) (tr : Transition s d s' d')
    (fresh : s.tripped g = false) (tripped : s'.tripped g = true) :
    (∃ i t rest, s.agenda = .wake (.member g i t) :: rest ∧ s.phase t = .failed) ∧
    .cancel g ∈ s'.agenda ∧ s.Calm ∧
    ∀ n, s'.Reaches n ↔ s.flagged n = true ∨ n = g ∨ s.Under g n := by
  rcases tr.tripped h.reachable tripped with before | ⟨-, next, i, t, rest, first, failed⟩
  · cases fresh.symm.trans before
  have calm : s.Calm := by
    obtain ⟨ns, orders⟩ := h.reachable.orders
    rw [first] at orders
    rw [State.Calm, first]
    exact orders.of_ne (by simp)
  have step : s' = (({ s with agenda := rest }.modifySignal g fun m =>
      { m with tripped := true }).log (.childFailed g t)).doFirst
        [.cancel g, .announce g i, .forgetSignal g] := by
    rw [next, State.step_of_agenda first]
    exact if_pos ⟨failed, fresh⟩
  have nodes : s'.nodes = s.nodes := by rw [step]; rfl
  have pending : ∀ m, .cancel m ∈ s'.agenda ↔ m = g := by
    intro m
    have free : .cancel m ∉ rest := fun ahead =>
      calm.free (n := m) (by rw [first]; exact List.mem_cons_of_mem _ ahead)
    rw [step]
    simp [State.doFirst, State.log, State.tell, State.modifySignal, free]
  refine ⟨⟨i, t, rest, first, failed⟩, (pending g).2 rfl, calm, fun n => ?_⟩
  have flags : s'.flagged n = s.flagged n := by rw [State.flagged, State.flagged, nodes]
  rw [State.Reaches, flags]
  refine or_congr Iff.rfl ⟨?_, fun way => ⟨g, (pending g).2 rfl, ?_⟩⟩
  · rintro ⟨m, ahead, way⟩
    rw [(pending m).1 ahead, State.under_of_nodes nodes] at way
    exact way.imp Eq.symm id
  · rw [State.under_of_nodes nodes]
    exact way.imp Eq.symm id

/-- A group that knows of a failure is cancelled, or the walk comes first. -/
theorem Trail.reaches_of_tripped (h : Trail past s d) (tripped : s.tripped g = true) :
    s.Reaches g := by
  induction h with
  | init => cases tripped
  | @next past s s' d d' h tr ih =>
    cases before : s.tripped g with
    | true =>
      exact (h.reachable.spread tr).reaches (h.next tr).reachable.closed h.reachable.sound.kinship
        (State.knows_of_tripped h before) (ih before)
    | false => exact .inr ⟨g, (tr.trips h before tripped).2.1, .inl rfl⟩

/-- Nobody beside a group is attached below it: neither what it was attached to, nor whoever else
was attached to that. -/
theorem Reachable.beside (h : Reachable s d) {k : NodeKind} {p : TaskId}
    (group : s.origin g = some (k, some p)) :
    ¬ s.Under g p ∧ ∀ n k', s.origin n = some (k', some p) → ¬ s.Under g n := by
  have kinship := h.sound.kinship
  have parent : ∀ {n k q}, s.origin n = some (k, some q) →
      ∃ node, s.nodes.get? n = some node ∧ node.parent = some q := by
    intro n k q made
    obtain ⟨node, found, eq⟩ := Option.map_eq_some_iff.1 made
    exact ⟨node, found, (Prod.mk.inj eq).2⟩
  obtain ⟨node, found, up⟩ := parent group
  have older : p.index < g.index := h.descends g node p found up
  have apart : ¬ s.Under g p := fun under =>
    Nat.lt_asymm older (h.descends.lt_of_below (kinship.below_of_under under))
  refine ⟨apart, fun n k' made under => ?_⟩
  obtain ⟨node', found', up'⟩ := parent made
  -- it is listed by its parent, and by nobody else
  rcases Relation.TransGen.tail'_iff.1 under with ⟨m, way, listed⟩
  obtain ⟨same, there, above⟩ := kinship.listed m n listed
  cases there.symm.trans found'
  cases above.symm.trans up'
  rcases Relation.reflTransGen_iff_eq_or_transGen.1 way with rfl | way
  · exact Nat.lt_irrefl _ older
  · exact apart way

/-! ### What the log keeps -/

/-- What the log keeps of the children of a group that are collected is about that group. -/
theorem Taking.losses_inGroup (g h : TaskId) (failed : Bool) (xs : List Taking) :
    (Taking.losses h failed xs).filter (Loss.inGroup g) =
      if h = g then Taking.losses h failed xs else [] := by
  rw [Taking.losses_eq]
  split
  · rename_i same
    subst same
    refine List.filter_eq_self.2 fun x hx => ?_
    obtain ⟨e, -, rfl⟩ := List.mem_map.1 hx
    simp [Loss.inGroup, GroupError.suppressed]
  · rename_i other
    refine List.filter_eq_nil_iff.2 fun x hx => ?_
    obtain ⟨e, -, rfl⟩ := List.mem_map.1 hx
    simp [Loss.inGroup, GroupError.suppressed, other]

/-- No item of the agenda says of a child that its failure was suppressed. -/
theorem State.lost_inGroup (a : Action) : (s.lost a).filter (Loss.inGroup g) = [] := by
  have unseen : ∀ t, (s.unseen t).filter (Loss.inGroup g) = [] := by
    intro t
    refine List.filter_eq_nil_iff.2 fun x hx => ?_
    obtain ⟨task, -, hx⟩ := List.mem_flatMap.1 hx
    unfold Task.unseen at hx
    split at hx
    · split at hx
      · cases hx
      · rw [List.mem_singleton.1 hx]
        simp [Loss.inGroup]
    · cases hx
  unfold State.lost
  split
  · split
    · exact unseen _
    · rfl
  · split
    · exact unseen _
    · rfl
  · rfl

/-- What a transition says of the failures of a group is what its collected children come to. -/
theorem Transition.suppressed (h : Reachable s d) (tr : Transition s d s' d')
    {E C : TaskId → List Nat} (rolls : Rolls s E C) (g : TaskId) :
    (s.loses s').filter (Loss.inGroup g) =
      Taking.losses g (s.hasFailed g) (State.takings g s s') := by
  rcases tr.look_or_uncollected h rolls with ⟨l, look, rfl⟩ | ⟨blind, uncollected⟩
  · have at_ := State.step_look h.sound look
    obtain ⟨xs, s₁, looked⟩ := at_.looked h.sound rolls
    have said : s.loses s.step =
        Taking.losses l.group (s.hasFailed l.group) (State.takings l.group s s.step) := by
      rw [State.loses, at_.idle, look]
      exact if_neg (by simp [looked.not_roused])
    rw [said, Taking.losses_inGroup]
    split
    · rename_i same
      rw [same]
    · rename_i other
      have nobody := State.collected_of_same (looked.completed_of_ne at_ (Ne.symm other))
      rw [State.takings, nobody]
      rfl
  · rw [State.takings, uncollected.nobody g]
    unfold State.loses
    split
    · exact State.lost_inGroup _
    · rename_i l _ look
      rcases blind with blind | roused
      · cases blind.symm.trans look
      · rw [if_pos roused]
        rfl
    · rfl

/-- **What the log keeps of the failures of a group** is what its collected children come to. -/
theorem Trail.suppressed (h : Trail past s d) (g : TaskId) :
    (Nursery.losses s.trace).filter (Loss.inGroup g) =
      Taking.losses g false (gather (State.takings g) s past) := by
  induction h with
  | init => rfl
  | @next past s s' d d' h tr ih =>
    rw [tr.losses h.reachable h.rolls, List.filter_append, ih, tr.suppressed h.reachable h.rolls,
      gather_cons, Taking.losses_append, Bool.false_or]
    cases known : s.groups.get? g with
    | none => rw [State.takings_of_unknown known]; rfl
    | some m => rw [State.hasFailed_of_get? known, (h.balanced g).failed m known]

/-! ### Who is collected -/

/-- A group is not dropped while its children are collected. -/
theorem Transition.nobody (h : Reachable s d) (tr : Transition s d s' d') {E C : TaskId → List Nat}
    (rolls : Rolls s E C) (gone : s'.groups.get? g = none) : State.collected g s s' = [] := by
  rcases tr.look_or_uncollected h rolls with ⟨l, look, rfl⟩ | ⟨-, uncollected⟩
  · have at_ := State.step_look h.sound look
    obtain ⟨xs, s₁, looked⟩ := at_.looked h.sound rolls
    by_cases mine : g = l.group
    · subst mine
      obtain ⟨m, known⟩ := at_.known
      obtain ⟨-, -, m₁, known₁, -⟩ := looked.collects.results
        (show l.state.groups.get? l.group = some m by rw [at_.before.groups, known])
      rw [looked.rest.groups, known₁] at gone
      cases gone
    · exact State.collected_of_same (looked.completed_of_ne at_ mine)
  · exact uncollected.nobody g

/-- Children are collected in the order of their ends. -/
theorem Trail.collected_prefix (h : Trail past s d) (g : TaskId) :
    gather (State.collected g) s past <+: gather (State.ends g) s past := by
  induction h with
  | init => exact List.prefix_refl _
  | @next past s s' d d' h tr ih =>
    cases known : s'.groups.get? g with
    | none =>
      rw [gather_cons, gather_cons, tr.nobody h.reachable h.rolls known, List.append_nil]
      exact ih.trans (List.prefix_append _ _)
    | some group =>
      have roll := (h.next tr).rolls.roll g group known
      rw [roll.order, List.append_assoc]
      exact List.prefix_append _ _

/-- What a group hands on in a transition depends on whether a failure was collected before. -/
theorem Transition.results (h : Trail past s d) (tr : Transition s d s' d') (g : TaskId) :
    State.results g s s' =
      Taking.results (Taking.anyFailed (gather (State.takings g) s past))
        (State.takings g s s') := by
  rw [(tr.accounts h.reachable h.rolls g).results]
  cases known : s.groups.get? g with
  | none => rw [State.takings_of_unknown known]; rfl
  | some m => rw [State.hasFailed_of_get? known, (h.balanced g).failed m known]

/-! ### The first failure -/

/-- A child that was collected has failed if and only if it comes to a failure. -/
theorem Taking.failed_iff {x : Taking}
    (final : s.phase x.child = State.finalPhase (some x.outcome)) :
    (s.phase x.child = .failed ↔ x.failure?.isSome = true) ∧
      (s.phase x.child = .cancelled → x.value? = none ∧ x.failure? = none) := by
  rw [final]
  unfold Taking.failure? Taking.value?
  cases x.outcome with
  | ok value => exact ⟨⟨nofun, nofun⟩, nofun⟩
  | error e =>
    cases e with
    | cancelled => exact ⟨⟨nofun, nofun⟩, fun _ => ⟨rfl, rfl⟩⟩
    | failed => exact ⟨⟨fun _ => rfl, fun _ => rfl⟩, nofun⟩
    | panicked => exact ⟨⟨fun _ => rfl, fun _ => rfl⟩, nofun⟩

/-- Of the failures of the collected children the first one is handed on. -/
theorem Trail.first_error (h : Trail past s d) (g : TaskId) :
    (gather (State.results g) s past).filterMap errorOf =
      ((gather (State.takings g) s past).filterMap Taking.failure?).take 1 := by
  rw [(h.balanced g).results, Taking.errors_results]
  rfl

/-- Every other one is logged. -/
theorem Trail.late_errors (h : Trail past s d) (g : TaskId) :
    (Nursery.losses s.trace).filter (Loss.inGroup g) =
      (((gather (State.takings g) s past).filterMap Taking.failure?).drop 1).map
        (GroupError.suppressed g) := by
  rw [h.suppressed, Taking.losses_eq]
  rfl

/-- What a group does about the failures of its children, in a run. -/
structure FailsOnce (past : List State) (s : State) (d : Desk) (g : TaskId) : Prop where
  /-- When a child has failed and nothing is left to be done, the group is cancelled with
  everything that goes on below it, and so it is in every later state. -/
  felled : ∀ t, s.ChildOf g t → s.phase t = .failed → s.agenda = [] →
    ∀ s' d', Leads s d s' d' → s'.Felled g
  /-- It is tripped by a child that failed, and the walk that follows flags the group and whoever
  is attached below it, and nobody else. -/
  trips : ∀ s' d', Transition s d s' d' → s.tripped g = false → s'.tripped g = true →
    (∃ i t rest, s.agenda = .wake (.member g i t) :: rest ∧ s.phase t = .failed) ∧
    ∃ steps, (follow steps (s :: past) s').2.Calm ∧ ∀ n, s.Knows n →
      ((follow steps (s :: past) s').2.flagged n = true ↔
        s.flagged n = true ∨ n = g ∨ s.Under g n)
  /-- Its owner is not below it, and neither is anybody else below the owner. -/
  beside : ∀ k p, s.origin g = some (k, some p) →
    ¬ s.Under g p ∧ ∀ n k', s.origin n = some (k', some p) → ¬ s.Under g n
  /-- Children are collected in the order of their ends. -/
  order : (gather (State.takings g) s past).map Taking.place <+: gather (State.ends g) s past
  /-- Of the failures of the collected children the first one is handed on. -/
  errors : (gather (State.results g) s past).filterMap errorOf =
    ((gather (State.takings g) s past).filterMap Taking.failure?).take 1
  /-- It is handed on in the transition in which the child is collected. -/
  at_once : ∀ s' d', Transition s d s' d' → State.results g s s' =
    Taking.results (Taking.anyFailed (gather (State.takings g) s past)) (State.takings g s s')
  /-- That one is what looks for the next result and for all results return together, unless it was
  lost in the middle of waiting for all, or is still kept by a line that waits. -/
  returned : gather (fun s s' => State.raised g s s' ++
      (State.forfeited g s s').flatMap Tally.errors) s past ++
        (s.tallied? g).toList.flatMap Tally.errors =
    ((gather (State.takings g) s past).filterMap Taking.failure?).take 1
  /-- Every other one is logged. -/
  logged : (losses s.trace).filter (Loss.inGroup g) =
    (((gather (State.takings g) s past).filterMap Taking.failure?).drop 1).map
      (GroupError.suppressed g)
  /-- A child that failed comes to a failure, and one that was cancelled to nothing. -/
  comes : ∀ x ∈ gather (State.takings g) s past,
    (s.phase x.child = .failed ↔ x.failure?.isSome = true) ∧
      (s.phase x.child = .cancelled → x.value? = none ∧ x.failure? = none)

/-- **Of the failures of a group one is returned, and every other one is logged.**  When the first
child has failed, the group is cancelled with everything below it before anything else is done; a
child that was cancelled is no failure. -/
theorem first_failure_reported (h : Trail past s d) (g : TaskId) : FailsOnce past s d g where
  felled t child failed idle s' d' l := by
    have tripped := h.reachable.alert.tripped_of_quiet (by simp [idle]) child failed
    have flagged := (State.Calm.idle idle).flagged_of_reaches (h.reaches_of_tripped tripped)
    exact (h.reachable.leads l).felled (l.flagged h.reachable flagged)
  trips s' d' tr fresh tripped := by
    obtain ⟨why, -, -, reaches⟩ := tr.trips h fresh tripped
    obtain ⟨steps, calm, exactly⟩ := walk_ends (h.next tr)
    exact ⟨why, steps, calm, fun n known =>
      (exactly n ((h.reachable.spread tr).knows known)).trans (reaches n)⟩
  beside k p group := h.reachable.beside group
  order := by
    rw [← (h.balanced g).places]
    exact h.collected_prefix g
  errors := h.first_error g
  at_once s' d' tr := tr.results h g
  returned := h.failures_ledger g
  logged := h.late_errors g
  comes x hx := Taking.failed_iff ((h.balanced g).final x hx)

/-- Of the two children that failed one is returned and the other one is logged, and the group was
cancelled before. -/
theorem first_failure_reported_brood : ∃ past s, Trail past s .clear ∧ s.Felled ⟨1⟩ ∧
    ((gather (State.results ⟨1⟩) s past).filterMap errorOf).map GroupError.child = [⟨3⟩] ∧
    (gather (State.raised ⟨1⟩) s past).map GroupError.child = [⟨3⟩] ∧
    ((losses s.trace).filter (Loss.inGroup ⟨1⟩)).length = 1 := by
  have policy := first_failure_reported (trail_brood 77) ⟨1⟩
  have failures : ((gather (State.takings ⟨1⟩) (brood 77).2 (brood 77).1).filterMap
      Taking.failure?).map GroupError.child = [⟨3⟩, ⟨4⟩] := by decide +kernel
  refine ⟨_, _, trail_brood 77, policy.felled ⟨3⟩ ⟨by decide +kernel, by decide +kernel⟩
    (by decide +kernel) (by decide +kernel) _ _ .refl, ?_, by decide +kernel, ?_⟩
  · rw [policy.errors, List.map_take, failures]
    rfl
  · rw [policy.logged, List.length_map, List.length_drop,
      ← List.length_map (f := GroupError.child), failures]
    rfl

end Nursery
