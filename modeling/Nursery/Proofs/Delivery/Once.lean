import Nursery.Proofs.Delivery.Spoil
import Nursery.Proofs.Delivery.Taker
import Nursery.Proofs.Group.Order

/-!
# Outcomes are delivered once

Whoever looks at a task learns nothing before it has ended, learns how its body ended when it
looks first, and panics when it looks again.

* `State.Mirrors` : a state in which a task is as it is in another one.
* `Delivery` : how the outcome of a task is delivered in a run.
* `delivered_once` : **every outcome is what the body came to, and is delivered once.**
-/

namespace Nursery

variable {s s' x : State} {d d' : Desk} {c : Context} {hand hand' rest base : List Resource}
  {home r : RuntimeId} {goal : Goal} {t g p : TaskId} {m m' : Task} {past : List State}

/-! ### The main thread -/

/-- The main thread is blocked on a task that knows of it, and nobody takes its outcome. -/
theorem Trail.blocked (h : Trail past s d) (blocked : d = .blocked r t) :
    (∃ m, s.tasks.get? t = some m ∧ m.blocking = true) ∧ gather (State.taken t) s past = [] := by
  induction h with
  | init => cases blocked
  | @next past s s' d d' h tr ih =>
    subst blocked
    have there := (h.next tr).reachable.sound.own.there (.handle t) (by simp [Desk.resources])
    obtain ⟨m', found', -⟩ := there
    -- it was blocked before
    have before : d = .blocked r t → (∃ m, s'.tasks.get? t = some m ∧ m.blocking = true) ∧
        gather (State.taken t) s' (s :: past) = [] := by
      intro same
      subst same
      obtain ⟨⟨m, found, blocking⟩, untouched⟩ := ih rfl
      refine ⟨⟨m', found', ?_⟩, by rw [gather_cons, untouched, tr.reserved h.reachable.sound]; rfl⟩
      cases tr.disposes h.reachable.sound t with
      | absent gone => cases gone.symm.trans found'
      | made unmade =>
        obtain ⟨node, known, -⟩ :=
          Option.map_eq_some_iff.1 (h.reachable.sound.formed.tasks t m found)
        cases unmade.symm.trans known
      | goes known now keeps =>
        cases found.symm.trans known
        cases found'.symm.trans now
        rw [keeps.blocking, blocking]
      | ends known now =>
        cases found.symm.trans known
        cases found'.symm.trans now
        rw [Ending.blocking_keep, blocking]
    cases tr with
    | step => exact before rfl
    | stray => exact before rfl
    | move rests m =>
      cases m with
      | block => exact before rfl
      | @launchRoot _ r _ body =>
        have formed := h.reachable.sound.formed
        have unmade := State.fresh_nextNode formed.nodes
        obtain ⟨nodes, trace, -, eq⟩ :=
          State.launch_addNode_eq formed.nodes .normal none r body true
        rw [State.launchRoot, eq] at found' ⊢
        refine ⟨⟨m', found', ?_⟩, ?_⟩
        · rw [State.tasks_enqueue, Store.get?_set_self] at found'
          cases found'
          rfl
        · have parcel := h.parcel s.nextNode
          rw [gather_cons, State.taken_of_absent (.inl formed.fresh_task), List.append_nil]
          exact List.prefix_nil.1 ((parcel.unmade unmade).2 ▸ parcel.taken)

/-- The main thread learns how the body ended of the task on which it is blocked. -/
theorem Trail.blockReport (h : Trail past s (.blocked r t))
    (ended : (s.phase t).isTerminal = true) :
    ∃ ending, gather (State.endings t) s past = [ending] ∧ s.blockReport t = ending.report := by
  obtain ⟨⟨m, found, blocking⟩, untouched⟩ := h.blocked rfl
  have parcel := h.parcel t
  obtain ⟨o, produced, -⟩ := parcel.final ended
  have kept := parcel.kept m found
  have given := parcel.given m found
  rw [untouched, produced, List.nil_append] at kept
  rw [produced, blocking] at given
  obtain ⟨ending, endings, gives⟩ := List.map_eq_singleton_iff.1 given.symm
  have answer := parcel.answer m found
  rw [endings, blocking] at answer
  refine ⟨ending, endings, ?_⟩
  have outcome : m.outcome = some o := Option.toList_eq_singleton_iff.1 kept
  rw [State.blockReport, if_pos ended, found, Option.bind_some, Option.bind_some, outcome, answer,
    ← gives]
  cases ending with
  | returned result => cases result <;> rfl
  | panicked message => rfl

/-! ### Groups -/

/-- What was taken is not there any more when others are collected. -/
theorem Collects.still_gone {xs : List Taking} {rs : List (Except GroupError Int64)}
    (collects : Collects g s xs rs s') (gone : s.outcome? t = none) : s'.outcome? t = none := by
  induction collects with
  | nil => exact gone
  | @cons s s₁ s' group x xs rs first _ ih =>
    refine ih ?_
    by_cases mine : t = x.child
    · subst mine
      rw [State.outcome?, first.tasks, Store.get?_modify_self]
      cases s.tasks.get? x.child <;> rfl
    · rw [first.outcome_of_ne mine, gone]

/-- Whoever is collected has lost its outcome. -/
theorem Collects.gone {xs : List Taking} {rs : List (Except GroupError Int64)}
    (collects : Collects g s xs rs s') : ∀ x ∈ xs, s'.outcome? x.child = none := by
  induction collects with
  | nil => simp
  | @cons s s₁ s' group x xs rs first rest ih =>
    intro y hy
    rcases List.mem_cons.1 hy with rfl | later
    · refine rest.still_gone ?_
      rw [State.outcome?, first.tasks, Store.get?_modify_self]
      cases s.tasks.get? y.child <;> rfl
    · exact ih y later

/-- **A group takes the outcome** of whoever it collects. -/
theorem Transition.takes {x : Taking} {E C : TaskId → List Nat} (reachable : Reachable s d)
    (tr : Transition s d s' d') (rolls : Rolls s E C) (takes : x ∈ State.takings g s s') :
    State.taken x.child s s' = [x.outcome] := by
  rcases tr.look_or_uncollected reachable rolls with ⟨l, look, rfl⟩ | ⟨-, uncollected⟩
  · have sound := reachable.sound
    have at_ := State.step_look sound look
    obtain ⟨xs, s₁, looked⟩ := at_.looked sound rolls
    by_cases mine : g = l.group
    · subst mine
      rw [looked.takings at_] at takes
      obtain ⟨shared, eq⟩ := at_.state
      obtain ⟨child, final, there⟩ := looked.collects.taken x takes
      obtain ⟨m, known⟩ := at_.known
      obtain ⟨-, -, group₁, known₁, -⟩ := looked.collects.results
        (show l.state.groups.get? l.group = some m by rw [at_.before.groups, known])
      obtain ⟨group, known', same⟩ := looked.collects.children known₁
      rw [State.members_of_get? known', ← same] at child
      have listed := List.mem_of_getElem? child
      have ended : (s₁.phase x.child).isTerminal = true := by
        rw [State.phase, looked.collects.nodes, ← State.phase, final]
        exact State.isTerminal_finalPhase _
      have gone := (looked.rest.outcome x.child ⟨_, group₁, known₁, listed⟩ ended).trans
        (looked.collects.gone x takes)
      obtain ⟨m', found', -⟩ := sound.step.own.has_child sound.step.formed.distinctGroups
        (show s.step.groups.get? l.group = some group₁ by rw [looked.rest.groups, known₁]) listed
      have before : s.outcome? x.child = some x.outcome := by
        rw [eq] at there
        exact there
      obtain ⟨m, found, given⟩ := Option.bind_eq_some_iff.1 before
      rw [State.outcome?, found', Option.bind_some] at gone
      rw [State.taken_of_found found found', gone, given]
      rfl
    · rw [State.takings, State.collected_of_same (looked.completed_of_ne at_ mine)] at takes
      cases takes
  · rw [State.takings, uncollected.nobody g] at takes
    cases takes

/-- Whoever a group has collected was given the outcome that the group has learned. -/
theorem Trail.takings {x : Taking} (h : Trail past s d)
    (takes : x ∈ gather (State.takings g) s past) :
    gather (State.taken x.child) s past = [x.outcome] := by
  have some_taken : x.outcome ∈ gather (State.taken x.child) s past := by
    induction h with
    | init => cases takes
    | @next past s s' d d' h tr ih =>
      rcases List.mem_append.1 takes with before | now
      · exact List.mem_append_left _ (ih before)
      · rw [gather_cons, tr.takes h.reachable h.rolls now]
        exact List.mem_append_right _ (List.mem_singleton_self _)
  have parcel := h.parcel x.child
  have one := parcel.taken.length_le.trans
    ((State.length_produced s past).trans_le parcel.once)
  obtain ⟨o, eq⟩ := List.length_eq_one_iff.1 (le_antisymm one (List.length_pos_of_mem some_taken))
  rw [eq, List.mem_singleton] at some_taken
  rw [eq, some_taken]

/-! ### Looks -/

/-- A state in which a task is as it is in another one. -/
structure State.Mirrors (s : State) (t : TaskId) (x : State) : Prop where
  /-- It has come as far. -/
  phase : x.phase t = s.phase t
  /-- Its outcome is there, or not. -/
  outcome : x.outcome? t = s.outcome? t

theorem State.pollHandle_eq (s : State) (t p : TaskId) : s.pollHandle t p =
    if (s.phase t).isTerminal then
      (s.modifyTask t fun m => { m with outcome := none },
        match s.outcome? t with
        | some o => .ready o
        | none => .panics "task handle polled after completion")
    else (s.modifyTask t fun m => { m with waiters := m.waiters ++ [.task p] }, .pending) := by
  have takes : s.takeOutcome t =
      (s.modifyTask t fun m => { m with outcome := none }, s.outcome? t) :=
    rfl
  unfold State.pollHandle
  rw [takes]
  cases s.outcome? t <;> rfl

/-- Whoever finds the outcome of a task takes it. -/
theorem State.taken_pollHandle {o : Except TaskError Int64}
    (ready : (s.pollHandle t p).2 = .ready o) : State.taken t s (s.pollHandle t p).1 = [o] := by
  rw [State.pollHandle_eq] at ready ⊢
  split at ready
  · rename_i ended
    dsimp only at ready
    split at ready
    · rename_i o' there
      cases ready
      obtain ⟨m, found, given⟩ := Option.bind_eq_some_iff.1 there
      rw [if_pos ended, State.taken_of_found found (by
        rw [State.modifyTask, Store.get?_modify_self, found]; rfl), given]
      rfl
    · cases ready
  · cases ready

/-- An outcome that is there stays until it is taken, or goes with the task. -/
theorem Transition.outcome_stays {outcome : Except TaskError Int64} (h : Reachable s d)
    (tr : Transition s d s' d') (there : s.outcome? t = some outcome) :
    s'.outcome? t = some outcome ∨ (s.phase t).isTerminal = true ∧ State.taken t s s' = [outcome] ∨
      s'.tasks.get? t = none := by
  obtain ⟨m, found, given⟩ := Option.bind_eq_some_iff.1 there
  cases tr.disposes h.sound t with
  | absent gone => exact .inr (.inr gone)
  | made unmade =>
    obtain ⟨node, known, -⟩ := Option.map_eq_some_iff.1 (h.sound.formed.tasks t m found)
    cases unmade.symm.trans known
  | @goes _ m' known found' keeps =>
    cases found.symm.trans known
    rcases keeps.outcome with same | ⟨gone, ended⟩
    · refine .inl ?_
      rw [State.outcome?, found', Option.bind_some, same, given]
    · refine .inr (.inl ⟨ended, ?_⟩)
      rw [State.taken_of_found found found', gone, given]
      rfl
  | ends known _ keeping =>
    cases given.symm.trans (h.early t m found (.inr keeping))

/-! ### In one statement -/

/-- How the outcome of a task is delivered in a run. -/
structure Delivery (past : List State) (s : State) (d : Desk) (t : TaskId) : Prop where
  /-- The body ends once at most. -/
  once : (gather (State.endings t) s past).length ≤ 1
  /-- It ends as its own turn has ended it, unless a group with children outstanding was dropped
  inside of it before it panicked: then it ends with the panic about that. -/
  body : ∀ e ∈ gather (State.endings t) s past,
    (¬ ∃ g, Happened (fun x _ => x.Spoils t g) s past) ∧
        Happened (fun x x' => EndsBody t x x' e) s past ∨
      (∃ g, Happened (fun x _ => x.Spoils t g) s past) ∧ e = .panicked groupComplaint
  /-- What the task is given is how its body ended; a result of the root goes to the main thread. -/
  given : ∃ blocking, gather (State.produced t) s past =
      (gather (State.endings t) s past).map (Ending.given blocking) ∧
    ∀ m, s.tasks.get? t = some m → m.blocking = blocking
  /-- What was taken is what the task was given. -/
  taken : gather (State.taken t) s past <+: gather (State.produced t) s past
  /-- As long as the task is there, its outcome is there, or it was taken. -/
  kept : ∀ m, s.tasks.get? t = some m →
    gather (State.taken t) s past ++ m.outcome.toList = gather (State.produced t) s past
  /-- Nobody takes it before the task has ended. -/
  early : (s.phase t).isTerminal = false → gather (State.taken t) s past = []
  /-- The task ends as its outcome says. -/
  ended : (s.phase t).isTerminal = true → ∃ outcome,
    gather (State.produced t) s past = [outcome] ∧
      (s.phase t = .completed ↔ ∃ value, outcome = .ok value) ∧
      (s.phase t = .cancelled ↔ outcome = .error .cancelled) ∧
      (s.phase t = .failed ↔ ∃ e, outcome = .error e ∧ e ≠ .cancelled)
  /-- It stays so, whatever happens. -/
  lasts : (s.phase t).isTerminal = true → ∀ s' d', Leads s d s' d' → s'.phase t = s.phase t
  /-- An outcome that is there stays until it is taken, or goes with the task. -/
  steady : ∀ s' d', Transition s d s' d' → ∀ outcome, s.outcome? t = some outcome →
    s'.outcome? t = some outcome ∨ (s.phase t).isTerminal = true ∧ State.taken t s s' = [outcome] ∨
      s'.tasks.get? t = none
  /-- Whoever looks at a task that goes on learns nothing. -/
  pending : (s.phase t).isTerminal = false → ∀ x p, s.Mirrors t x → (x.pollHandle t p).2 = .pending
  /-- Whoever looks at a task that has ended, as the first one, learns its outcome and takes it. -/
  first : (s.phase t).isTerminal = true → s.tasks.get? t ≠ none →
    gather (State.taken t) s past = [] → ∃ outcome, gather (State.produced t) s past = [outcome] ∧
      ∀ x p, s.Mirrors t x → (x.pollHandle t p).2 = .ready outcome ∧
        State.taken t x (x.pollHandle t p).1 = [outcome]
  /-- Whoever looks at it again panics. -/
  again : gather (State.taken t) s past ≠ [] → ∀ x p, s.Mirrors t x →
    (x.pollHandle t p).2 = .panics "task handle polled after completion"
  /-- Where somebody has a handle, the task is there. -/
  held : 0 < s.owners (.handle t) + d.resources.count (.handle t) → s.tasks.get? t ≠ none
  /-- The group of the task learns its outcome, and nothing else. -/
  group : ∀ g, ∀ x ∈ gather (State.takings g) s past, x.child = t →
    gather (State.taken t) s past = [x.outcome]
  /-- Nobody takes the outcome from the main thread that is blocked on the task, and that learns
  how the body ended. -/
  blocked : ∀ r, d = .blocked r t → gather (State.taken t) s past = [] ∧
    ((s.phase t).isTerminal = true → ∃ ending,
      gather (State.endings t) s past = [ending] ∧ s.blockReport t = ending.report)

/-- **Every outcome is delivered once**, and it is what the body came to: nobody learns it before
the task has ended, nothing changes it, whoever looks first learns it, and whoever looks again
panics. -/
theorem delivered_once (h : Trail past s d) (t : TaskId) : Delivery past s d t := by
  have parcel := h.parcel t
  obtain ⟨blocking, produced⟩ := State.produced_eq_map parcel.once
  refine {
    once := parcel.once
    body := fun e kept => ?_
    given := ?_
    taken := parcel.taken
    kept := parcel.kept
    early := parcel.early
    ended := fun ended => ?_
    lasts := fun ended s' d' leads => (leads.lasts h.reachable).phase ended
    steady := fun s' d' tr outcome there => tr.outcome_stays h.reachable there
    pending := fun ongoing x p mirrors => ?_
    first := fun ended known untouched => ?_
    again := fun touched x p mirrors => ?_
    held := ?_
    group := ?_
    blocked := ?_ }
  · by_cases spoils : ∃ g, Happened (fun x _ => x.Spoils t g) s past
    · refine .inr ⟨spoils, ?_⟩
      obtain ⟨g, happened⟩ := spoils
      rcases h.endings_spoiled happened with ⟨r, spoiled⟩ | given
      · rw [h.within spoiled.within] at kept
        cases kept
      · rw [given] at kept
        exact List.mem_singleton.1 kept
    · exact .inl ⟨spoils, h.endings_unspoiled spoils e kept⟩
  · cases found : s.tasks.get? t with
    | none => exact ⟨blocking, produced, fun m known => by cases known⟩
    | some m => exact ⟨m.blocking, parcel.given m found, fun m' known => by cases known; rfl⟩
  · obtain ⟨outcome, gives, final⟩ := parcel.final ended
    exact ⟨outcome, gives, final ▸ State.finalPhase_eq_completed,
      final ▸ State.finalPhase_eq_cancelled,
      final ▸ State.finalPhase_eq_failed⟩
  · rw [State.pollHandle_eq, mirrors.phase, if_neg (by simp [ongoing])]
  · obtain ⟨outcome, gives, -⟩ := parcel.final ended
    refine ⟨outcome, gives, fun x p mirrors => ?_⟩
    have ready : (x.pollHandle t p).2 = .ready outcome := by
      rw [State.pollHandle_eq, mirrors.phase, if_pos ended, mirrors.outcome,
        parcel.outcome_of_untaken known gives untouched]
    exact ⟨ready, State.taken_pollHandle ready⟩
  · obtain ⟨ended, gone⟩ := parcel.gone_of_taken touched
    rw [State.pollHandle_eq, mirrors.phase, if_pos ended, mirrors.outcome, gone]
  · intro owned gone
    obtain ⟨m, found, -⟩ := h.reachable.sound.own.there (.handle t) owned
    cases gone.symm.trans found
  · rintro g x takes rfl
    exact h.takings takes
  · rintro r rfl
    exact ⟨(h.blocked rfl).2, h.blockReport⟩

/-- A group has taken the value of one child, so whoever looks at that child again panics, and has
left two others, one that has failed by its own error and one that was cancelled. -/
theorem delivered_once_brood : ∃ past s e, Trail past s .clear ∧
    gather (State.taken ⟨2⟩) s past = [.ok 7] ∧ s.phase ⟨2⟩ = .completed ∧
    (s.pollHandle ⟨2⟩ ⟨0⟩).2 = .panics "task handle polled after completion" ∧
    Happened (fun x x' => EndsBody ⟨3⟩ x x' (.returned (.error (.failed e)))) s past ∧
    gather (State.produced ⟨3⟩) s past = [.error (.failed e)] ∧ s.phase ⟨3⟩ = .failed ∧
    (s.pollHandle ⟨3⟩ ⟨0⟩).2 = .ready (.error (.failed e)) ∧
    gather (State.produced ⟨5⟩) s past = [.error .cancelled] ∧ s.phase ⟨5⟩ = .cancelled := by
  have h := trail_brood 76
  have taken : gather (State.taken ⟨2⟩) (brood 76).2 (brood 76).1 = [.ok 7] := by decide +kernel
  have produced : gather (State.produced ⟨2⟩) (brood 76).2 (brood 76).1 = [.ok 7] := by
    decide +kernel
  have untouched : gather (State.taken ⟨3⟩) (brood 76).2 (brood 76).1 = [] := by decide +kernel
  have given : gather (State.produced ⟨3⟩) (brood 76).2 (brood 76).1 =
    [.error (.failed ⟨"first", []⟩)] := by decide +kernel
  have endings : gather (State.endings ⟨3⟩) (brood 76).2 (brood 76).1 =
      [.returned (.error (.failed ⟨"first", []⟩))] := by
    obtain ⟨blocking, gives, -⟩ := (delivered_once h ⟨3⟩).given
    rw [given] at gives
    obtain ⟨ending, same, own⟩ := List.map_eq_singleton_iff.1 gives.symm
    rw [same]
    rcases ending with (e | value) | message
    · cases blocking <;> cases own
      rfl
    · cases blocking <;> cases own
    · cases own
  have cancelled : gather (State.produced ⟨5⟩) (brood 76).2 (brood 76).1 =
    [.error .cancelled] := by decide +kernel
  have known : (brood 76).2.tasks.get? ⟨3⟩ ≠ none := by
    rw [← Option.isSome_iff_ne_none]
    decide +kernel
  have ended : ∀ t ∈ [(⟨2⟩ : TaskId), ⟨3⟩, ⟨5⟩], ((brood 76).2.phase t).isTerminal = true := by
    decide +kernel
  -- how a task has ended whose outcome is known
  have phase : ∀ {t : TaskId} {o : Except TaskError Int64},
      ((brood 76).2.phase t).isTerminal = true →
      gather (State.produced t) (brood 76).2 (brood 76).1 = [o] →
      ((brood 76).2.phase t = .completed ↔ ∃ value, o = .ok value) ∧
      ((brood 76).2.phase t = .cancelled ↔ o = .error .cancelled) ∧
      ((brood 76).2.phase t = .failed ↔ ∃ e, o = .error e ∧ e ≠ .cancelled) := by
    intro t o ended given
    obtain ⟨outcome, gives, final⟩ := (delivered_once h t).ended ended
    rw [given, List.cons.injEq] at gives
    exact gives.1 ▸ final
  have again := (delivered_once h ⟨2⟩).again (by simp [taken]) _ ⟨0⟩ ⟨rfl, rfl⟩
  obtain ⟨outcome, gives, ready⟩ := (delivered_once h ⟨3⟩).first (ended _ (by simp)) known untouched
  rw [given, List.cons.injEq] at gives
  obtain ⟨rfl, -⟩ := gives
  obtain ⟨-, own⟩ | ⟨-, other⟩ := (delivered_once h ⟨3⟩).body _ (by rw [endings]; exact .head _)
  · exact ⟨_, _, _, h, taken, (phase (ended _ (by simp)) produced).1.2 ⟨7, rfl⟩, again, own, given,
      (phase (ended _ (by simp)) given).2.2.2 ⟨_, rfl, by simp⟩,
      (ready _ _ ⟨rfl, rfl⟩).1, cancelled,
      (phase (ended _ (by simp)) cancelled).2.1.2 rfl⟩
  · cases other

end Nursery
