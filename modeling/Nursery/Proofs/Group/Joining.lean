import Nursery.Proofs.Delivery.Once
import Nursery.Proofs.Group.Maker
import Nursery.Proofs.Group.Release

/-!
# Waiting for all children

A line that waits for all results of a group gets them when every child was collected, over
however many slices that takes.  By then every child has ended, and the group can go without harm.

* `Trail.collected` : of a group without children outstanding every child has ended, and its
  outcome was taken.
* `Unrolls.dissolves` : the drop of such a group comes to an end, and is gentle on the way.
* `Fetched` : what a line has collected since it began to wait.
* `await_all_joins` : **when all results are there, all children have ended**, and the result is
  what the line has collected.
-/

namespace Nursery

variable {s s' : State} {d d' : Desk} {g t u : TaskId} {l : Look} {past : List State}
  {group : Group} {rest due : List Action} {a : Action} {x : Taking}

/-! ### What children come to -/

namespace Taking

theorem isSome_value? :
    x.value?.isSome = true ↔ State.finalPhase (some x.outcome) = .completed := by
  obtain ⟨place, child, e | value⟩ := x
  · exact iff_of_false Bool.false_ne_true (by cases e <;> exact nofun)
  · exact iff_of_true rfl rfl

theorem isSome_failure? :
    x.failure?.isSome = true ↔ State.finalPhase (some x.outcome) = .failed := by
  obtain ⟨place, child, e | value⟩ := x
  · cases e with
    | cancelled => exact iff_of_false Bool.false_ne_true nofun
    | failed | panicked => exact iff_of_true rfl rfl
  · exact iff_of_false Bool.false_ne_true nofun

theorem exists_error_results (xs : List Taking) :
    (∃ e, .error e ∈ results false xs) ↔ anyFailed xs = true := by
  have reported : (∃ e, .error e ∈ results false xs) ↔
      (results false xs).filterMap errorOf ≠ [] := by
    rw [Ne, List.filterMap_eq_nil_iff]
    constructor
    · rintro ⟨e, he⟩ none
      cases none _ he
    · intro some
      push Not at some
      obtain ⟨r, hr, found⟩ := some
      cases r with
      | ok value => cases found rfl
      | error e => exact ⟨e, hr⟩
  rw [reported, errors_results, anyFailed, List.any_eq_true]
  simp only [toReport, Bool.false_eq_true, if_false, Ne, List.take_eq_nil_iff, one_ne_zero,
    false_or,
    List.filterMap_eq_nil_iff, not_forall, Option.isSome_iff_ne_none, exists_prop]

end Taking

/-! ### A group without children outstanding -/

/-- The outcome of a child that was collected is not there any more. -/
theorem Trail.outcome_gone (h : Trail past s d) (takes : x ∈ gather (State.takings g) s past) :
    s.outcome? x.child = none := by
  have parcel := h.parcel x.child
  cases found : s.tasks.get? x.child with
  | none => rw [State.outcome?, found, Option.bind_none]
  | some m =>
    have kept := congrArg List.length (parcel.kept m found)
    have few := (State.length_produced (t := x.child) s past).trans_le parcel.once
    rw [h.takings takes, List.length_append, List.length_singleton] at kept
    rw [State.outcome?, found, Option.bind_some, ← Option.toList_eq_nil_iff,
      ← List.length_eq_zero_iff]
    omega

/-- Where no child is outstanding every child was collected. -/
theorem Trail.all_collected (h : Trail past s d) (known : s.groups.get? g = some group)
    (drained : group.remaining = 0) (child : u ∈ group.children) :
    ∃ x ∈ gather (State.takings g) s past, x.child = u := by
  have balanced := h.balanced g
  obtain ⟨i, inside, rfl⟩ := List.mem_iff_getElem.1 child
  have gone := (h.rolls.roll g group known).all_gone.1 drained i inside
  rw [balanced.places] at gone
  obtain ⟨x, hx, rfl⟩ := List.mem_map.1 gone
  have place := balanced.children group known x hx
  rw [List.getElem?_eq_getElem inside] at place
  exact ⟨x, hx, (Option.some.inj place).symm⟩

/-- **Of a group without children outstanding** every child has ended, and nothing of its failure
is left to be seen. -/
theorem Trail.collected (h : Trail past s d) (known : s.groups.get? g = some group)
    (drained : group.remaining = 0) :
    s.Collected group ∧ ∀ u ∈ group.children, (s.phase u).isTerminal = true := by
  refine ⟨⟨drained, fun u child => ?_⟩, fun u child => ?_⟩
  · obtain ⟨x, takes, rfl⟩ := h.all_collected known drained child
    rw [State.unseen_eq_nil]
    intro m found
    have gone := h.outcome_gone takes
    rw [State.outcome?, found, Option.bind_some] at gone
    unfold Task.unseen
    rw [gone]
    cases m.reported <;> rfl
  · obtain ⟨x, takes, rfl⟩ := h.all_collected known drained child
    rw [(h.balanced g).final x takes]
    exact State.isTerminal_finalPhase _

/-- Where nothing is left to be done nobody waits for a task that has ended. -/
theorem Reachable.lone (h : Reachable s d) (idle : s.agenda = [])
    (ended : (s.phase t).isTerminal = true) : s.Lone t :=
  ⟨ended, fun m found =>
    ⟨h.settled.bodiless t m found ended, h.settled.alone idle found ended⟩⟩

/-- Nobody comes to wait for a task that has ended. -/
theorem Transition.lone (h : Reachable s d) (tr : Transition s d s' d') (lone : s.Lone t) :
    s'.Lone t := by
  have sound := h.sound
  refine ⟨(congrArg _ ((tr.lasts sound).phase lone.ended)).trans lone.ended, fun m' found' => ?_⟩
  cases tr.disposes sound t with
  | absent gone => cases gone.symm.trans found'
  | made unmade =>
    have ended := lone.ended
    rw [State.phase, unmade] at ended
    cases ended
  | goes found after keeps =>
    cases after.symm.trans found'
    obtain ⟨fiber, waiters⟩ := lone.bare _ found
    exact ⟨keeps.fiber fiber, List.subset_nil.1 (waiters ▸ keeps.waiters lone.ended)⟩
  | ends found after keeping =>
    obtain ⟨r, ending, during⟩ := keeping
    have ended := lone.ended
    rcases (sound.dispatch.slice_fits during).2 with up | up <;> rw [up] at ended <;> cases ended

theorem Leads.lone (h : Reachable s d) (leads : Leads s d s' d') (lone : s.Lone t) : s'.Lone t := by
  induction leads with
  | refl => exact lone
  | next leads tr ih => exact tr.lone (h.leads leads) ih

/-! ### The drop comes to an end -/

/-- A group is about to be dropped or is being dropped. -/
def State.Goes (s : State) (g : TaskId) : Prop :=
  .release (.group g) ∈ s.agenda ∨ .dissolve g ∈ s.agenda

/-- A group goes until it is gone. -/
theorem State.Goes.step (busy : s.agenda = a :: rest) (goes : s.groups.get? g = none ∨ s.Goes g) :
    s.step.groups.get? g = none ∨ s.step.Goes g := by
  obtain ⟨-, e⟩ := State.step_item busy
  rcases goes with gone | due
  · left
    cases known : s.step.groups.get? g with
    | none => rfl
    | some group => cases gone.symm.trans (e.group_known known)
  · rw [State.Goes, busy, List.mem_cons, List.mem_cons] at due
    rcases due with (rfl | later) | (rfl | later)
    · generalize s.step = s' at e
      cases e with
      | spent why => exact .inl why
      | dropGroup => exact .inr (.inr (by simp [State.doFirst]))
      | dropUndrained => exact .inr (.inr (by simp [State.doFirst]))
    · exact .inr (.inl (e.keeps later rfl))
    · left
      generalize s.step = s' at e
      cases e with
      | spent why => exact why
      | dissolve => exact (Store.get?_erase ..).trans (if_pos rfl)
    · exact .inr (.inr (e.keeps later rfl))

theorem Unrolls.goes (way : Unrolls rest s s') (due : s.Goes g) :
    s'.groups.get? g = none ∨ s'.Goes g := by
  induction way with
  | refl => exact .inr due
  | next _ busy ih => exact State.Goes.step busy ih

/-- The drop of a group comes to an end, and comes to nothing of importance unless somebody's body
goes on the way. -/
structure Dissolves (g : TaskId) (rest : List Action) (s : State) : Prop where
  /-- On the way. -/
  gently : ∀ x, Unrolls rest s x → Gently s x ∨ Bereft rest s x
  /-- At its end. -/
  ends : ∃ x, Unrolls rest s x ∧ (x.agenda = rest ∧ x.groups.get? g = none ∨ Bereft rest s x)

/-- **A group without children outstanding goes gently.** -/
theorem Unrolls.dissolves (h : Reachable s d) (agenda : s.agenda = due ++ rest)
    (drops : .release (.group g) ∈ due) (gentle : ∀ b ∈ due, b.Gentle s) : Dissolves g rest s := by
  have calms : s.Calms rest := ⟨due, agenda, gentle⟩
  refine ⟨fun x way => (way.gently calms).imp_left And.left, ?_⟩
  obtain ⟨x, way, done⟩ := Unrolls.finishes h.sound rest
  refine ⟨x, way, (way.gently calms).imp (fun ⟨_, new, agenda', _⟩ => ?_) id⟩
  have ended : x.agenda = rest := by
    cases new with
    | nil => exact agenda'
    | cons a new => exact absurd agenda' (done a new)
  have goes := way.goes (.inl (by rw [agenda]; exact List.mem_append_left _ drops))
  -- nothing in the rest of the agenda has the group
  have mine : .group g ∉ rest.flatMap Action.resources := by
    have once := h.sound.own.once (.group g)
    have here : 0 < (due.flatMap Action.resources).count (.group g) :=
      List.count_pos_iff.2 (List.mem_flatMap.2 ⟨_, drops, List.mem_cons_self⟩)
    rw [State.owners, agenda, List.flatMap_append, List.count_append, List.count_nil] at once
    intro there
    have := List.count_pos_iff.2 there
    omega
  refine ⟨ended, goes.resolve_right ?_⟩
  rw [State.Goes, ended]
  rintro (later | later) <;> exact mine (List.mem_flatMap.2 ⟨_, later, List.mem_cons_self⟩)

/-! ### The look that gets all results -/

/-- What a line has collected that waits for all results of a group, from when it began to wait
until the next step has been made. -/
structure Fetched (g t : TaskId) (past : List State) (s : State) (before : List State) (s₀ : State)
    (mine : List Taking) : Prop where
  /-- Where it began to wait. -/
  begun : Begun g t before s₀ past s
  /-- Whoever is collected since then is collected by the line. -/
  takings : gather (State.takings g) s.step (s :: past) =
    gather (State.takings g) s₀ before ++ mine
  /-- These are all who have ended and were not collected before, in the order of their ends. -/
  order : gather (State.ends g) s.step (s :: past) =
    gather (State.collected g) s₀ before ++ mine.map Taking.place
  /-- Each of them is a child that has ended as its outcome says, which is what it was given. -/
  ended : ∀ x ∈ mine, (s.step.members g)[x.place]? = some x.child ∧
    s.step.phase x.child = State.finalPhase (some x.outcome) ∧
    gather (State.produced x.child) s.step (s :: past) = [x.outcome]

variable {result : Except GroupError (List Int64)} {before : List State} {s₀ : State}
  {mine : List Taking}

theorem Look.ready (returns : l.result? = some result) : ∃ tally tally', l.tally = some tally ∧
    (l.state.pollAll l.group l.poller tally).2 = (tally', .ready result) := by
  obtain ⟨tally, all, found⟩ := Option.bind_eq_some_iff.1 returns
  generalize polled : l.state.pollAll l.group l.poller tally = p at found
  obtain ⟨s₁, tally', p⟩ := p
  cases p with
  | ready r =>
    cases found
    exact ⟨tally, tally', all, by rw [polled]⟩
  | _ => cases found

theorem Look.turn_result (returns : l.result? = some result) (f : Fiber) (tag : Tag)
    (attempt : Attempt) (own : Bool) : l.turn f tag attempt own =
      l.found.harvest l.poller f tag attempt (if own then [.release (.group l.group)] else [])
        (.ofAll result) := by
  obtain ⟨tally, tally', all, ready⟩ := Look.ready returns
  simp only [Look.turn, Look.found, all, State.awaitAll]
  generalize l.state.pollAll l.group l.poller tally = p at ready ⊢
  obtain ⟨s₁, p⟩ := p
  cases ready
  cases own <;> rfl

/-- Where a look gets all results no child is outstanding, and the result is what the line has come
to. -/
theorem Trail.drained_result (h : Trail past s d) (look : s.look? = some l)
    (returns : l.result? = some result) :
    (∃ tally, l.tally = some tally ∧ result = (l.results.foldl Tally.add tally).result) ∧
      ∃ group, s.step.groups.get? l.group = some group ∧ group.remaining = 0 := by
  obtain ⟨tally, tally', all, ready⟩ := Look.ready returns
  have at_ := State.step_look h.reachable.sound look
  obtain ⟨xs, s₁, looked⟩ := at_.looked h.reachable.sound h.rolls
  have comes := looked.comes.all tally all
  rw [ready] at comes
  have drained : s₁.drained l.group = true := by
    by_contra more
    rw [if_neg more] at comes
    cases comes
  rw [if_pos drained] at comes
  obtain ⟨group, known, none_left⟩ := (Option.any_eq_true _ _).1 drained
  refine ⟨⟨tally, all, ?_⟩, group, by rw [looked.rest.groups, known], of_decide_eq_true none_left⟩
  cases comes
  rfl

/-- What a line has come to that gets all results is what it has collected. -/
theorem Trail.fetched (h : Trail past s d) (look : s.look? = some l)
    (returns : l.result? = some result) :
    ∃ before s₀ mine, Fetched l.group l.poller past s before s₀ mine ∧
      (∃ d₀, Trail before s₀ d₀) ∧ result = (Tally.of (Taking.results
        (Taking.anyFailed (gather (State.takings l.group) s₀ before)) mine)).result := by
  obtain ⟨⟨tally, all, comes⟩, group, known, none_left⟩ := h.drained_result look returns
  obtain ⟨before, s₀, rs, begun, handed, rfl⟩ := h.look_since look all
  obtain ⟨later, since, -⟩ := begun.since
  obtain ⟨d₀, h₀⟩ := h.before since
  have h' := h.next .step
  obtain ⟨mine, takings⟩ := gather_of_append (State.takings l.group)
    (show s.step :: s :: past = (s.step :: later) ++ s₀ :: before by rw [since]; rfl)
  have balanced₀ := h₀.balanced l.group
  have balanced := h'.balanced l.group
  refine ⟨before, s₀, mine, ⟨begun, takings, ?_, fun x hx => ?_⟩, ⟨d₀, h₀⟩, ?_⟩
  · -- nothing is outstanding, so nobody is listed or on the way
    have roll := h'.rolls.roll l.group group known
    have outstanding := roll.outstanding
    have listed : s.step.completed l.group = [] := List.eq_nil_of_length_eq_zero (by omega)
    have announced : s.step.announcing l.group = [] := List.eq_nil_of_length_eq_zero (by omega)
    rw [roll.order, listed, announced, List.append_nil, List.append_nil, balanced.places, takings,
      List.map_append, balanced₀.places]
  · have takes : x ∈ gather (State.takings l.group) s.step (s :: past) := by
      rw [takings]
      exact List.mem_append_right _ hx
    have final := balanced.final x takes
    obtain ⟨o, produced, -⟩ := (h'.parcel x.child).final (by
      rw [final]
      exact State.isTerminal_finalPhase _)
    have given := (h'.parcel x.child).taken
    rw [h'.takings takes, produced] at given
    obtain ⟨same, -⟩ := List.cons_prefix_cons.1 given
    refine ⟨?_, final, by rw [produced, same]⟩
    rw [State.members_of_get? known]
    exact balanced.children group known x takes
  · -- what was handed on since is what those come to that were collected since
    obtain ⟨xs, s₁, looked⟩ :=
      (State.step_look h.reachable.sound look).looked h.reachable.sound h.rolls
    have all_handed := balanced.results
    rw [gather_cons, handed, looked.results look, takings, Taking.results_append, balanced₀.results,
      List.append_assoc, Bool.false_or] at all_handed
    rw [comes, ← List.append_cancel_left all_handed, Tally.of_append]

/-- What the result comes to, from what the line has collected. -/
structure Fetched.Gives (g : TaskId) (s' : State) (before : List State) (s₀ : State)
    (mine : List Taking) (result : Except GroupError (List Int64)) : Prop where
  /-- It is a failure exactly if none was reported before the line began to wait, and one of those
  that it has collected has failed. -/
  fails : (∃ e, result = .error e) ↔ (∀ e, .error e ∉ gather (State.results g) s₀ before) ∧
    ∃ x ∈ mine, s'.phase x.child = .failed
  /-- That is the first of their failures. -/
  first : ∀ e, result = .error e → (mine.filterMap Taking.failure?).head? = some e
  /-- Otherwise it is the values of those that have completed, in the order of their ends. -/
  values : ∀ vs, result = .ok vs → vs = mine.filterMap Taking.value?
  /-- If nobody was collected before, they are as many as the children that have completed. -/
  count : gather (State.takings g) s₀ before = [] → ∀ vs, result = .ok vs →
    vs.length = ((s'.members g).filter fun u => s'.phase u = .completed).length

/-- Where every child was collected once, the children are those that were collected. -/
theorem Trail.members_perm (h : Trail past s d) (known : s.groups.get? g = some group)
    (drained : group.remaining = 0) :
    ((gather (State.takings g) s past).map Taking.child).Perm group.children := by
  have balanced := h.balanced g
  have roll := h.rolls.roll g group known
  have gone : (gather (State.collected g) s past).Perm (List.range group.children.length) := by
    have once := roll.once
    rw [roll.order, List.append_assoc] at once
    refine (List.perm_ext_iff_of_nodup (List.nodup_append.1 once).1 List.nodup_range).2 fun i => ?_
    rw [List.mem_range]
    refine ⟨fun hi => roll.range i ?_, roll.all_gone.1 drained i⟩
    rw [roll.order, List.append_assoc]
    exact List.mem_append_left _ hi
  have each : ((gather (State.takings g) s past).map Taking.child).map some =
      (gather (State.collected g) s past).map (group.children[·]?) := by
    rw [balanced.places, List.map_map, List.map_map]
    exact List.map_congr_left fun x hx => (balanced.children group known x hx).symm
  have all : (List.range group.children.length).map (group.children[·]?) =
      group.children.map some := by
    refine List.ext_getElem (by simp) fun i hi _ => ?_
    rw [List.length_map, List.length_range] at hi
    simp [hi]
  have perm := gone.map (group.children[·]?)
  rw [← each, all] at perm
  exact (List.map_perm_map_iff (Option.some_injective _)).1 perm

/-- **What the result comes to** is told by what the line has collected. -/
theorem Trail.gives (h : Trail past s d) (fetched : Fetched g t past s before s₀ mine)
    (h₀ : Trail before s₀ d') (known : s.step.groups.get? g = some group)
    (drained : group.remaining = 0)
    (comes : result = (Tally.of (Taking.results
      (Taking.anyFailed (gather (State.takings g) s₀ before)) mine)).result) :
    Fetched.Gives g s.step before s₀ mine result := by
  have reported : (∀ e, .error e ∉ gather (State.results g) s₀ before) ↔
      Taking.anyFailed (gather (State.takings g) s₀ before) = false := by
    rw [← Bool.not_eq_true, ← Taking.exists_error_results, (h₀.balanced g).results]
    exact not_exists.symm
  have failed : (∃ x ∈ mine, s.step.phase x.child = .failed) ↔
      mine.filterMap Taking.failure? ≠ [] := by
    simp only [Ne, List.filterMap_eq_nil_iff, not_forall, exists_prop]
    refine exists_congr fun x => and_congr_right fun hx => ?_
    rw [(fetched.ended x hx).2.1, ← Taking.isSome_failure?, Option.isSome_iff_ne_none]
  have values : ∀ vs, result = .ok vs → vs = mine.filterMap Taking.value? := by
    rintro vs rfl
    rw [Tally.of_results] at comes
    unfold Tally.result at comes
    split at comes <;> cases comes
    rfl
  refine ⟨?_, ?_, values, fun nobody vs ok => ?_⟩
  · -- a failure that was reported before is not reported again
    rw [reported, failed, comes, Tally.of_results]
    cases Taking.anyFailed (gather (State.takings g) s₀ before) with
    | true => simp [Tally.result]
    | false => cases mine.filterMap Taking.failure? <;> simp [Tally.result]
  · rintro e rfl
    rw [Tally.of_results] at comes
    cases reported : Taking.anyFailed (gather (State.takings g) s₀ before) with
    | true =>
      rw [reported] at comes
      cases comes
    | false =>
      rw [reported] at comes
      cases failures : mine.filterMap Taking.failure? with
      | nil =>
        rw [failures] at comes
        cases comes
      | cons e' es =>
        rw [failures] at comes
        cases comes
        rfl
  · -- those that were collected are all children
    have perm := (h.next .step).members_perm known drained
    rw [fetched.takings, nobody, List.nil_append] at perm
    rw [values vs ok, State.members_of_get? known, ← List.countP_eq_length_filter,
      ← perm.countP_eq, List.countP_map, List.length_filterMap_eq_countP]
    refine List.countP_congr fun x hx => ?_
    rw [Taking.isSome_value?, Function.comp_apply, decide_eq_true_eq, (fetched.ended x hx).2.1]

/-! ### What becomes of the group -/

/-- A group that has no child outstanding has none as long as no child is added. -/
theorem Trail.stays_drained {group' : Group} (h : Trail past s d)
    (known : s.groups.get? g = some group) (drained : group.remaining = 0)
    (leads : Leads s d s' d') (known' : s'.groups.get? g = some group')
    (same : group'.children = group.children) : group'.remaining = 0 := by
  obtain ⟨past', later, h', longer⟩ := h.leads leads
  obtain ⟨more, gone⟩ := gather_of_append (State.collected g) longer
  refine (h'.rolls.roll g group' known').all_gone.2 fun i hi => ?_
  rw [same] at hi
  rw [gone]
  exact List.mem_append_left _ ((h.rolls.roll g group known).all_gone.1 drained i hi)

/-- What a turn leaves to be done comes before what its end leaves. -/
theorem Turn.agenda_takeEffect (turn : Turn) (home : RuntimeId) (t : TaskId) :
    ∃ rest, (turn.takeEffect home t).agenda = turn.state.agenda ++ turn.after ++ rest := by
  obtain ⟨s, f, after, flow⟩ := turn
  cases flow with
  | finish | panic => exact ⟨_, rfl⟩
  | _ => exact ⟨[], (List.append_nil _).symm⟩

/-- What a line that waited leaves to be done comes before what it tells. -/
theorem State.agenda_harvest (s : State) (f : Fiber) (tag : Tag) (attempt : Attempt)
    (after : List Action) (h : Harvest) (home : RuntimeId) (t : TaskId) :
    ∃ rest, ((s.harvest t f tag attempt after h).takeEffect home t).agenda =
      s.agenda ++ after ++ rest := by
  obtain ⟨rest, agenda⟩ := (s.harvest t f tag attempt after h).agenda_takeEffect home t
  rw [agenda]
  cases h <;> exact ⟨_, by simp only [State.harvest, List.append_assoc]; rfl⟩

theorem State.slice_harvest {r : RuntimeId} (during : s.slice r = some (.task t .polling))
    (f : Fiber)
    (tag : Tag) (attempt : Attempt) (after : List Action) (h : Harvest) :
    ∃ stage, stage ≠ .leaving ∧
      ((s.harvest t f tag attempt after h).takeEffect r t).slice r = some (.task t stage) := by
  have ended : ∀ (x : State) (ending : Ending), x.slice r = some (.task t .polling) →
      (x.setSlice r (some (.task t (.ended ending)))).slice r = some (.task t (.ended ending)) :=
    fun x ending during => State.slice_setSlice_self during
  cases h with
  | values report xs => exact ⟨.polling, by simp, during⟩
  | failure report fault error =>
    cases attempt with
    | report => exact ⟨.polling, by simp, during⟩
    | wrap => exact ⟨_, by simp, ended _ (.returned (.error (.failed fault))) (by exact during)⟩
    | raise => exact ⟨_, by simp, ended _ (.returned (.error error)) (by exact during)⟩

/-- When all results are there, the group can be dropped, and no body goes by that if the tasks
concerned are in their slices. -/
theorem Trail.drop_joined (h : Trail past s d) (look : s.look? = some l)
    (returns : l.result? = some result) (leads : Leads s.step d s' d')
    (agenda : s'.agenda = due ++ rest) (drops : .release (.group l.group) ∈ due)
    (alike : ∀ b ∈ due, b = .release (.group l.group) ∨ ∃ u, b = .forget u ∧ s'.Underway u)
    (same : s'.members l.group = s.step.members l.group) :
    Dissolves l.group rest s' ∧
      (s'.Based l.group → s'.Watched l.group → ∀ x, ¬ Bereft rest s' x) := by
  obtain ⟨-, group, known, none_left⟩ := h.drained_result look returns
  have stepped := h.next .step
  have reachable' := stepped.reachable.leads leads
  obtain ⟨past', later, h', -⟩ := stepped.leads leads
  obtain ⟨xs, s₁, looked⟩ :=
    (State.step_look h.reachable.sound look).looked h.reachable.sound h.rolls
  -- the group is there, and is as it was
  have emptied : ∀ group', s'.groups.get? l.group = some group' →
      group'.remaining = 0 ∧ group'.children = group.children := fun group' known' => by
    have children : group'.children = group.children := by
      rw [State.members_of_get? known', State.members_of_get? known] at same
      exact same
    exact ⟨stepped.stays_drained known none_left leads known' children, children⟩
  have gentle : ∀ b ∈ due, b.Gentle s' := fun b hb => by
    rcases alike b hb with rfl | ⟨u, rfl, -⟩
    · exact fun group' known' => (h'.collected known' (emptied group' known').1).1
    · trivial
  refine ⟨Unrolls.dissolves reachable' agenda drops gentle, fun based watched x => ?_⟩
  refine Unrolls.bodies_stay reachable' ⟨due, agenda, fun b hb => ?_⟩
  rcases alike b hb with rfl | ⟨u, rfl, up⟩
  · refine ⟨fun group' known' => ?_, based, watched⟩
    obtain ⟨drained, children⟩ := emptied group' known'
    refine ⟨drained, fun u child => leads.lone stepped.reachable ?_⟩
    rw [children] at child
    have ended := (stepped.collected known none_left).2 u child
    have idle := (State.step_look h.reachable.sound look).idle
    exact Transition.lone h.reachable .step (h.reachable.lone idle
      ((looked.phase (State.step_look h.reachable.sound look) u).symm.trans ended))
  · exact .inl up

/-- What it comes to that a line has waited for all results of a group. -/
structure Joins (past : List State) (s : State) (d : Desk) (l : Look)
    (result : Except GroupError (List Int64)) : Prop where
  /-- The line goes on with the result; a group of its own is dropped first. -/
  given : ∃ home f tag attempt, s.step = (l.found.harvest l.poller f tag attempt
    (if s.ownGroup? l.poller = some l.group then [.release (.group l.group)] else [])
    (.ofAll result)).takeEffect home l.poller
  /-- Every child that was ever added has ended. -/
  ended : ∀ u ∈ s.step.members l.group, (s.step.phase u).isTerminal = true
  /-- None is outstanding. -/
  empty : ∃ group, s.step.groups.get? l.group = some group ∧ group.remaining = 0
  /-- The result is what the line has collected since it began to wait. -/
  result : ∃ before s₀ mine, Fetched l.group l.poller past s before s₀ mine ∧
    Fetched.Gives l.group s.step before s₀ mine result
  /-- When the group is dropped, and no child was added in between, that comes to nothing of
  importance, unless the last reference to a suspended task goes by it.  That does not happen if
  whoever made the group and whoever is registered with it are in their slices. -/
  drop : ∀ s' d' rest, Leads s.step d s' d' → s'.agenda = .release (.group l.group) :: rest →
    s'.members l.group = s.step.members l.group → Dissolves l.group rest s' ∧
      (s'.Based l.group → s'.Watched l.group → ∀ x, ¬ Bereft rest s' x)
  /-- So is it for a group of the line's own, which is dropped at once. -/
  own : s.ownGroup? l.poller = some l.group → ∃ (us : List TaskId) (rest : List Action),
    s.step.agenda = us.map .forget ++ .release (.group l.group) :: rest ∧
      Dissolves l.group rest s.step ∧ ∀ x, ¬ Bereft rest s.step x

/-- The drop of a line's own group, when all results are there: its task is in its slice, and is
the only one that is concerned. -/
theorem Trail.drop_own (h : Trail past s d) (look : s.look? = some l)
    (returns : l.result? = some result)
    (own : s.ownGroup? l.poller = some l.group) : ∃ (us : List TaskId) (rest : List Action),
    s.step.agenda = us.map .forget ++ .release (.group l.group) :: rest ∧
      Dissolves l.group rest s.step ∧ ∀ x, ¬ Bereft rest s.step x := by
  have at_ := State.step_look h.reachable.sound look
  obtain ⟨home, f, tag, attempt, own', free, during, mine, step⟩ := at_.step
  obtain ⟨shared, eq⟩ := at_.state
  have turn := Look.turn_result returns f tag attempt own'
  rw [mine.1 own, if_pos rfl] at turn
  rw [mine.1 own, turn] at step
  -- what the look leaves
  obtain ⟨tally, -, all, -⟩ := Look.ready returns
  obtain ⟨left, runtimes⟩ : l.found.agenda =
      (l.state.registered? l.group).toList.map .forget ++ l.state.agenda ∧
        l.found.runtimes = l.state.runtimes := by
    rw [Look.found, all]
    exact State.allAmong_quiet _ tally l.state
  rw [at_.state_idle, List.append_nil] at left
  obtain ⟨rest, agenda⟩ := l.found.agenda_harvest f tag attempt [.release (.group l.group)]
    (.ofAll result) home l.poller
  rw [← step, left, List.append_assoc] at agenda
  -- whoever is concerned is the task itself, which is in its slice
  have up : s.step.Underway l.poller := by
    have slice : l.found.slice home = some (.task l.poller .polling) := by
      rw [State.slice, runtimes, eq]
      exact during
    obtain ⟨stage, goes_on, stays⟩ := State.slice_harvest slice f tag attempt
      [.release (.group l.group)] (.ofAll result)
    rw [← step] at stays
    refine ⟨⟨home, stage, stays⟩, ?_⟩
    have fits := (h.reachable.sound.step.dispatch.slice_fits stays).2
    cases stage with
    | leaving => exact absurd rfl goes_on
    | _ => rcases fits with up | up <;> rw [up] <;> rfl
  have alone : ∀ u, s.registered? l.group = some u → s.step.Underway u := fun u waits => by
    rwa [h.registered_own own waits]
  have stays : Transition s d s.step d := .step
  have parts := h.drop_joined look returns .refl (agenda.trans (List.append_assoc ..).symm)
    (by simp) (fun b hb => ?_) rfl
  · refine ⟨_, rest, agenda, parts.1, parts.2 (fun k p made => ?_) fun signal u found waits => ?_⟩
    · cases made.symm.trans ((stays.lasts h.reachable.sound).origin (h.reachable.made_own own))
      exact up
    · have now : s.step.registered? l.group = some u := by
        rw [State.registered?, found, Option.bind_some, waits]
      rcases stays.registered h.reachable now with before | ⟨l', look', -, -, me⟩
      · exact alone u before
      · cases look.symm.trans look'
        rwa [← me]
  · rcases List.mem_append.1 hb with forgets | drops
    · obtain ⟨u, waits, rfl⟩ := List.mem_map.1 forgets
      refine .inr ⟨u, rfl, alone u ?_⟩
      rw [Option.mem_toList, eq] at waits
      exact waits
    · exact .inl (List.mem_singleton.1 drops)

/-- **Waiting for all results joins.** -/
theorem await_all_joins (h : Trail past s d) (look : s.look? = some l)
    (returns : l.result? = some result) : Joins past s d l result := by
  obtain ⟨-, group, known, none_left⟩ := h.drained_result look returns
  have stepped := h.next .step
  refine ⟨?_, ?_, ⟨group, known, none_left⟩, ?_, fun s' d' rest leads agenda same => ?_,
    h.drop_own look returns⟩
  · obtain ⟨home, f, tag, attempt, own, -, -, mine, step⟩ :=
      (State.step_look h.reachable.sound look).step
    refine ⟨home, f, tag, attempt, ?_⟩
    rw [step, Look.turn_result returns]
    simp only [mine]
  · rw [State.members_of_get? known]
    exact (stepped.collected known none_left).2
  · obtain ⟨before, s₀, mine, fetched, ⟨d₀, h₀⟩, comes⟩ := h.fetched look returns
    exact ⟨before, s₀, mine, fetched, h.gives fetched h₀ known none_left comes⟩
  · exact h.drop_joined look returns leads
      (show s'.agenda = [.release (.group l.group)] ++ rest from agenda)
      (List.mem_singleton_self _) (fun b hb => .inl (List.mem_singleton.1 hb)) same

/-- One child has failed and was found first, so waiting for all of them gets its failure, and by
then all four have ended. -/
theorem await_all_joins_brood : ∃ past s l, Trail past s .clear ∧ s.look? = some l ∧
    l.result? = some (.error ⟨⟨3⟩, .failed ⟨"first", []⟩⟩) ∧
    s.step.members l.group = [⟨2⟩, ⟨3⟩, ⟨4⟩, ⟨5⟩] ∧
    (∀ u ∈ s.step.members l.group, (s.step.phase u).isTerminal = true) ∧
    ∃ before s₀ mine, Fetched l.group l.poller past s before s₀ mine ∧
      (∀ e, .error e ∉ gather (State.results l.group) s₀ before) ∧
        ∃ x ∈ mine, s.step.phase x.child = .failed := by
  have h := trail_brood 76
  have result : (brood 76).2.look?.bind Look.result? =
    some (.error ⟨⟨3⟩, .failed ⟨"first", []⟩⟩) := by decide +kernel
  have group : (brood 76).2.look?.map Look.group = some ⟨1⟩ := by decide +kernel
  have members : (brood 76).2.step.members ⟨1⟩ = [⟨2⟩, ⟨3⟩, ⟨4⟩, ⟨5⟩] := by decide +kernel
  obtain ⟨l, look, returns⟩ := Option.bind_eq_some_iff.1 result
  rw [look, Option.map_some, Option.some.injEq] at group
  have joins := await_all_joins h look returns
  obtain ⟨before, s₀, mine, fetched, gives⟩ := joins.result
  exact ⟨_, _, l, h, look, returns, by rw [group, members], joins.ended, before, s₀, mine, fetched,
    gives.fails.1 ⟨_, rfl⟩⟩

/-! ### A group that holds the last reference to a task -/

/-- The body of a task that waits for all results of a group without children, puts the group away,
makes another one, with a child that parks, and parks itself. -/
def keeperBody : List Line :=
  [.mk ⟨"group", none, some "first", true⟩ .group,
    .mk ⟨"all", some "first", none, true⟩ (.all .report),
    .mk ⟨"put", some "first", none, true⟩ .share,
    .mk ⟨"group", none, some "second", true⟩ .group,
    .mk ⟨"add", some "second", some "child", true⟩
      (.add none [.mk ⟨"park", some "child", none, true⟩ .park]),
    .mk ⟨"park", some "name", none, true⟩ .park]

/-- The body of a task that parks under the same name. -/
def parkerBody : List Line :=
  [.mk ⟨"park", some "name", none, true⟩ .park]

/-- What the next item of the agenda drops, if that is a group and nothing else is to be done. -/
def State.dropping? (s : State) : Option TaskId :=
  match s.agenda with
  | [.release (.group g)] => some g
  | _ => none

theorem State.agenda_of_dropping (drops : s.dropping? = some g) :
    s.agenda = [.release (.group g)] := by
  unfold dropping? at drops
  split at drops
  · rename_i agenda
    cases drops
    exact agenda
  · cases drops

/-- The main thread has spawned both tasks, has dropped the handle of the first one, and lets the
worker go on until that looks for all results. -/
theorem reachable_keeper : ∃ s, Reachable s .clear ∧
    s.look?.bind Look.result? = some (.ok []) ∧ s.look?.map Look.group = some ⟨2⟩ ∧
    ∃ s' d', Leads s.step .clear s' d' ∧ s'.dropping? = some ⟨2⟩ ∧ s'.active = none ∧
      s'.members ⟨2⟩ = s.step.members ⟨2⟩ ∧ outcries s'.trace = [] ∧
        outcries (State.run 40 s').trace = [⟨3⟩] := by
  have built : Reachable _ .clear := Reachable.init.next (.move rfl (.build 0 none none))
  have owner := built.next (.move (by decide) (.line (show State.plain? _ { who := .main } []
    ⟨"spawn", none, some "owner", true⟩ (.spawnOn 0 none keeperBody) = some _ from rfl)))
  have owned := (owner.next .step).next (.move (by decide) .shelve)
  have other := owned.next (.move (by decide) (.line (show State.plain? _ { who := .main } []
    ⟨"spawn", none, some "other", true⟩ (.spawnOn 0 none parkerBody) = some _ from rfl)))
  have both := (other.next .step).next (.move (by decide) .shelve)
  have dropping := both.next (.move (by decide) (.line (show State.plain? _ { who := .main } []
    ⟨"drop", some "owner", none, true⟩ .drop = some _ from rfl)))
  have dropped := (reachable_run dropping 10).next (.move (by decide +kernel) .shelve)
  have started := dropped.next (.move (by decide +kernel)
    (.start (show Store.get? _ 0 = some ⟨0⟩ by decide +kernel)))
  have looking := ((started.next .step).next .step).next .step
  refine ⟨_, looking, by decide +kernel, by decide +kernel, _, _,
    (leads_run 100 _ _).next (.move (by decide +kernel) (.line (show State.plain? _ { who := .main }
      [] ⟨"drop", some "first", none, true⟩ .drop = some _ from rfl))), by decide +kernel,
    by decide +kernel, by decide +kernel, by decide +kernel, by decide +kernel⟩

/-- **Even when all results are there, the drop of a group is not always harmless**: the group may
hold the last reference to a task that has waited for it, and whose body owns another group. -/
theorem drop_disbands : ¬ ∀ s d l result s' d' rest x, Reachable s d → s.look? = some l →
    l.result? = some result → Leads s.step d s' d' → s'.agenda = .release (.group l.group) :: rest →
    s'.members l.group = s.step.members l.group → Unrolls rest s' x →
      x.unwinding = s'.unwinding ∧ (∀ n, x.flagged n = s'.flagged n) ∧
        outcries x.trace = outcries s'.trace := by
  intro harmless
  obtain ⟨s, h, result, group, s', d', leads, drops, still, same, silent, cries⟩ := reachable_keeper
  obtain ⟨l, look, returns⟩ := Option.bind_eq_some_iff.1 result
  rw [look, Option.map_some, Option.some.injEq] at group
  have agenda := State.agenda_of_dropping drops
  rw [← group] at agenda same
  have logged := (harmless s .clear l _ s' d' [] _ h look returns leads agenda same
    (Unrolls.run 40 still)).2.2
  rw [cries, silent] at logged
  cases logged

end Nursery
