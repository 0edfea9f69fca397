import Nursery.Proofs.Delivery.Once
import Nursery.Proofs.Delivery.Report
import Nursery.Proofs.Group.Failure

/-!
# No failure is lost

The failure of a task is with the task as long as that has a handle, or somebody took it, or the
log says that nobody looked at it; it is in one of these places only, and it gets there once.

* `Testimony`, `Trail.testimony` : what the log says of a task, and what is left of its outcome.
* `Whereabouts` : where the failure of a task is.
* `Trail.collected_once` : a group collects a child once.
* `Trail.whereabouts`, `Trail.told` : where a failure is, and when the log tells of it.
* `failure_accounted` : **every failure is in one place.**
-/

namespace Nursery

/-- What the log says of the failure of a task, along a run. -/
structure Testimony (t : TaskId) (past : List State) (s : State) : Prop where
  /-- Of a task that is there the log says what is left of its outcome, when that was reported. -/
  known : ∀ m, s.tasks.get? t = some m → gather (State.said t) s past =
    if m.reported then m.outcome.toList.flatMap (Loss.ofOutcome t) else []
  /-- Of a task that has failed and is gone it says what nobody has taken. -/
  gone : s.tasks.get? t = none → gather (State.said t) s past =
    if s.phase t = .failed then
      ((gather (State.produced t) s past).drop (gather (State.taken t) s past).length).flatMap
        (Loss.ofOutcome t)
    else []

/-- Where the failure of a task is.  The three places exclude each other by what was taken and by
what the log says. -/
inductive Whereabouts (t : TaskId) (e : TaskError) (past : List State) (s : State) : Prop where
  /-- It is with the task, which has a handle. -/
  | kept {m : Task} (found : s.tasks.get? t = some m) (there : m.outcome = some (.error e))
      (handle : m.handleDropped = false) (untaken : gather (State.taken t) s past = [])
      (silent : (losses s.trace).filter (Loss.isOf t) = [])
  /-- Somebody took it, once. -/
  | taken (gone : s.outcome? t = none) (taken : gather (State.taken t) s past = [.error e])
      (silent : (losses s.trace).filter (Loss.isOf t) = [])
  /-- The handle is gone, and the log says so, once. -/
  | logged (dropped : ∀ m, s.tasks.get? t = some m → m.handleDropped = true)
      (untaken : gather (State.taken t) s past = [])
      (told : (losses s.trace).filter (Loss.isOf t) = [.unobserved t e])

variable {s s' : State} {d d' : Desk} {t g : TaskId} {m m' : Task} {past : List State}

/-! ### Along a run -/

theorem gather_filter {α : Type} (see : State → State → List α) (p : α → Bool) (s : State)
    (past : List State) :
    gather (fun s s' => (see s s').filter p) s past = (gather see s past).filter p := by
  induction past generalizing s with
  | nil => rfl
  | cons x past ih => rw [gather_cons, gather_cons, ih, List.filter_append]

/-- What the log says of a task is what the transitions of a run say. -/
theorem Trail.said (h : Trail past s d) (t : TaskId) :
    (Nursery.losses s.trace).filter (Loss.isOf t) = gather (State.said t) s past := by
  rw [h.losses, ← gather_filter]
  rfl

/-- What is left of an outcome is what nobody has taken. -/
theorem Parcel.left (parcel : Parcel t past s) (found : s.tasks.get? t = some m) :
    (gather (State.produced t) s past).drop (gather (State.taken t) s past).length =
      m.outcome.toList := by
  rw [← parcel.kept m found, List.drop_left]

namespace Testimony

theorem init : Testimony t [] {} where
  known m found := by cases found
  gone _ := rfl

theorem goes (ih : Testimony t past s) (h : Reachable s d) (tr : Transition s d s' d')
    (found : s.tasks.get? t = some m) (found' : s'.tasks.get? t = some m')
    (outcome : m.reported = true → m'.outcome = m.outcome) :
    gather (State.said t) s' (s :: past) =
      if m'.reported then m'.outcome.toList.flatMap (Loss.ofOutcome t) else [] := by
  rw [gather_cons, ih.known m found]
  cases tr.marks h.sound found found' with
  | stay _ reported silent =>
    rw [silent, List.append_nil, reported]
    split
    · rename_i told
      rw [outcome told]
    · rfl
  | look _ reported same said =>
    rw [said, reported, same, Task.unseen_eq]
    cases m.reported <;> cases decide (s.phase t = .failed) <;> simp

/-- **The account of a task** is kept by every transition. -/
theorem next (ih : Testimony t past s) (h : Trail past s d) (tr : Transition s d s' d') :
    Testimony t (s :: past) s' := by
  have reachable := h.reachable
  have sound := reachable.sound
  have reports := reachable.reports
  have parcel := h.parcel t
  have lasts := tr.lasts sound
  cases tr.disposes sound t with
  | absent gone calm =>
    refine ⟨fun m found => (by cases gone.symm.trans found), fun _ => ?_⟩
    have produced := State.produced_of_calm calm
    have taken : State.taken t s s' = [] := State.taken_of_absent (.inr gone)
    have same : s'.phase t = .failed ↔ s.phase t = .failed := by
      cases ended : (s.phase t).isTerminal with
      | true => rw [lasts.phase ended]
      | false =>
        constructor
        · intro failed
          -- whoever has just ended is still in its slice
          obtain ⟨-, -, -, -, asked⟩ := tr.completes reachable ended (by rw [failed]; rfl)
          have sound' := (h.next tr).reachable.sound
          obtain ⟨r, during⟩ := sound'.tether.reporting t asked
          obtain ⟨m', found'⟩ := sound'.dispatch.known r t _ during
          cases gone.symm.trans found'
        · intro failed
          rw [failed] at ended
          cases ended
    rw [gather_cons, gather_cons, gather_cons, produced, taken, List.append_nil, List.append_nil]
    cases found : s.tasks.get? t with
    | none => simp only [State.said_of_unknown found, List.append_nil, ih.gone found, same]
    | some m =>
      obtain ⟨buried, silent⟩ := tr.buried sound found gone
      rw [silent, List.append_nil, ih.known m found, parcel.left found]
      simp only [same]
      have loose := sound.tether.buried t buried
      split
      · rename_i told
        rw [if_pos (reports.fair t m found told).2]
      · rename_i untold
        refine (if_neg fun failed => ?_).symm
        rcases reports.due t m found failed (loose.handle m found) with told | asked
        · exact untold told
        · obtain ⟨r, during⟩ := sound.tether.reporting t asked
          exact loose.slice_ne r _ during
  | @made m' unmade found' fresh =>
    refine ⟨fun m found => ?_, fun gone => (by cases gone.symm.trans found')⟩
    cases found'.symm.trans found
    have unknown : s.tasks.get? t = none := by
      cases found : s.tasks.get? t with
      | none => rfl
      | some m =>
        obtain ⟨node, there, -⟩ := Option.map_eq_some_iff.1 (sound.formed.tasks t m found)
        cases unmade.symm.trans there
    rw [gather_cons, State.said_of_unknown unknown, ih.gone unknown, (parcel.unmade unmade).2,
      fresh.reported]
    simp
  | @goes m m' known found' keeps =>
    refine ⟨fun m found => ?_, fun gone => (by cases gone.symm.trans found')⟩
    cases found'.symm.trans found
    refine ih.goes reachable tr known found' fun told => ?_
    refine keeps.outcome.elim id fun both => ?_
    have taken := both.1
    -- whoever takes an outcome has a handle that was not dropped
    cases there : m.outcome with
    | none => exact taken
    | some o =>
      have takes : State.taken t s s' ≠ [] := by
        rw [State.taken_of_found known found', taken, there]
        simp
      cases (tr.handle_of_taken sound takes known).symm.trans (reports.fair t m known told).1
  | @ends m ending known found' keeping =>
    refine ⟨fun m found => ?_, fun gone => (by cases gone.symm.trans found')⟩
    cases found'.symm.trans found
    refine ih.goes reachable tr known found' fun told => ?_
    obtain ⟨r, e, during⟩ := keeping
    have failed := (reports.fair t m known told).2
    rcases (sound.dispatch.slice_fits during).2 with up | up <;> cases up.symm.trans failed

end Testimony

/-- **What the log says of a task** is what is left of its outcome. -/
theorem Trail.testimony (h : Trail past s d) (t : TaskId) : Testimony t past s := by
  induction h with
  | init => exact .init
  | next h tr ih => exact ih.next h tr

/-! ### Groups -/

/-- In a transition a group collects a child once at most. -/
theorem Transition.collected_once (h : Trail past s d) (tr : Transition s d s' d') (g : TaskId) :
    ((State.takings g s s').map Taking.child).Nodup := by
  cases known : s.groups.get? g with
  | none =>
    rw [State.takings_of_unknown known]
    exact List.nodup_nil
  | some group =>
    have accounts := tr.accounts h.reachable h.rolls g
    have places : ((State.takings g s s').map Taking.place).Nodup := by
      have roll := h.rolls.roll g group known
      have listed := roll.once
      rw [roll.order, List.append_assoc] at listed
      have completed := (List.nodup_append.1 (List.nodup_append.1 listed).2.1).1
      rw [accounts.places]
      exact completed.sublist (List.take_sublist ..)
    refine List.Nodup.map_on (fun x hx y hy same => ?_) (List.Nodup.of_map _ places)
    refine List.inj_on_of_nodup_map places hx hy ?_
    have at_x := (accounts.children x hx).1
    have at_y := (accounts.children y hy).1
    rw [State.members_of_get? known] at at_x at_y
    rw [← same, ← at_x] at at_y
    exact ((List.getElem?_inj (List.getElem?_eq_some_iff.1 at_x).1
      (h.reachable.sound.parted.nodup g group known)).1 at_y.symm)

/-- **A group collects a child once.** -/
theorem Trail.collected_once (h : Trail past s d) (g : TaskId) :
    ((gather (State.takings g) s past).map Taking.child).Nodup := by
  induction h with
  | init => exact List.nodup_nil
  | @next past s s' d d' h tr ih =>
    rw [gather_cons, List.map_append]
    refine List.nodup_append.2 ⟨ih, tr.collected_once h g, fun t before t' now same => ?_⟩
    subst same
    obtain ⟨x, hx, rfl⟩ := List.mem_map.1 before
    obtain ⟨y, hy, same⟩ := List.mem_map.1 now
    -- its outcome would be taken twice
    have first := h.takings hx
    have second := tr.takes h.reachable h.rolls hy
    rw [same] at second
    have parcel := (h.next tr).parcel x.child
    have few := parcel.taken.length_le.trans ((State.length_produced s' (s :: past)).trans_le
      parcel.once)
    rw [gather_cons, first, second] at few
    simp at few

/-- Failures are of some of the children that are collected. -/
theorem Taking.sublist_failures (xs : List Taking) :
    ((xs.filterMap failure?).map GroupError.child).Sublist (xs.map child) := by
  induction xs with
  | nil => exact List.Sublist.refl _
  | cons x xs ih =>
    rw [List.filterMap_cons, List.map_cons]
    cases failure : x.failure? with
    | none => exact ih.cons _
    | some e =>
      have same : e.child = x.child := by
        unfold failure? at failure
        split at failure
        · cases failure
        · split at failure
          · cases failure
          · cases failure
            rfl
      rw [List.map_cons, same]
      exact ih.cons_cons _

/-- **The failure of a collected child is returned or logged**, and that once. -/
theorem Trail.failure_once (h : Trail past s d) {x : Taking}
    (takes : x ∈ gather (State.takings g) s past) {e : TaskError} (outcome : x.outcome = .error e)
    (genuine : e.isCancelled = false) :
    ((gather (State.results g) s past).filterMap errorOf).count ⟨x.child, e⟩ +
      (Nursery.losses s.trace).count (.suppressed g x.child e) = 1 := by
  have failure : x.failure? = some ⟨x.child, e⟩ := by simp [Taking.failure?, outcome, genuine]
  obtain ⟨failures, listed⟩ : ∃ failures,
    (gather (State.takings g) s past).filterMap Taking.failure? = failures := ⟨_, rfl⟩
  have once : failures.Nodup := by
    rw [← listed]
    exact .of_map _ ((h.collected_once g).sublist (Taking.sublist_failures _))
  have there : ⟨x.child, e⟩ ∈ failures := by
    rw [← listed]
    exact List.mem_filterMap.2 ⟨x, takes, failure⟩
  have apart : Function.Injective (GroupError.suppressed g) := by
    rintro ⟨t, e⟩ ⟨t', e'⟩ same
    simpa [GroupError.suppressed] using same
  have logged : (Nursery.losses s.trace).count (.suppressed g x.child e) =
      (failures.drop 1).count ⟨x.child, e⟩ := by
    rw [← List.count_filter (p := Loss.inGroup g) (by simp [Loss.inGroup]), h.late_errors, listed]
    exact List.count_map_of_injective _ (GroupError.suppressed g) apart ⟨x.child, e⟩
  rw [h.first_error, listed, logged, ← List.count_append, List.take_append_drop]
  exact List.count_eq_one_of_mem once there

/-! ### One failure -/

/-- The outcome of a task that has failed is a failure. -/
theorem State.finalPhase_failed {o : Except TaskError Int64}
    (failed : State.finalPhase (some o) = .failed) :
    ∃ e, o = .error e ∧ e.isCancelled = false := by
  obtain ⟨e, rfl, other⟩ := State.finalPhase_eq_failed.1 failed
  refine ⟨e, rfl, ?_⟩
  cases e with
  | cancelled => exact absurd rfl other
  | failed => rfl
  | panicked => rfl

theorem Parcel.failure (parcel : Parcel t past s) (failed : s.phase t = .failed) :
    ∃ e, e.isCancelled = false ∧ gather (State.produced t) s past = [.error e] := by
  obtain ⟨o, given, final⟩ := parcel.final (by rw [failed]; rfl)
  obtain ⟨e, rfl, genuine⟩ := State.finalPhase_failed (final.symm.trans failed)
  exact ⟨e, genuine, given⟩

theorem Loss.ofOutcome_genuine {e : TaskError} (genuine : e.isCancelled = false) :
    ofOutcome t (.error e) = [.unobserved t e] := by
  simp [ofOutcome, genuine]

/-- **Between two steps a failure is in one place.** -/
theorem Trail.whereabouts (h : Trail past s d) (failed : s.phase t = .failed)
    (idle : s.agenda = []) {e : TaskError} (genuine : e.isCancelled = false)
    (given : gather (State.produced t) s past = [.error e]) : Whereabouts t e past s := by
  have parcel := h.parcel t
  have reports := h.reachable.reports
  cases found : s.tasks.get? t with
  | none =>
    have spoken := (h.said t).trans ((h.testimony t).gone found)
    rw [if_pos failed, given] at spoken
    rcases parcel.taken_cases given with taken | taken <;> rw [taken] at spoken
    · refine .logged (fun m known => by cases found.symm.trans known) taken ?_
      simpa [Loss.ofOutcome_genuine genuine] using spoken
    · refine .taken (by rw [State.outcome?, found, Option.bind_none]) taken ?_
      simpa using spoken
  | some m =>
    have spoken := (h.said t).trans ((h.testimony t).known m found)
    cases dropped : m.handleDropped with
    | false =>
      have unreported : m.reported = false := by
        by_contra reported
        cases dropped.symm.trans (reports.fair t m found (Bool.not_eq_false _ ▸ reported)).1
      rw [unreported] at spoken
      rcases parcel.there_or_taken found given with ⟨untaken, there⟩ | ⟨taken, gone⟩
      · exact .kept found there dropped untaken spoken
      · exact .taken (by rw [State.outcome?, found, Option.bind_some, gone]) taken spoken
    | true =>
      have reported : m.reported = true :=
        (reports.due t m found failed dropped).resolve_right (by simp [idle])
      rw [if_pos reported] at spoken
      rcases parcel.there_or_taken found given with ⟨untaken, there⟩ | ⟨taken, gone⟩
      · refine .logged (fun m' known => by cases found.symm.trans known; exact dropped) untaken ?_
        simpa [there, Loss.ofOutcome_genuine genuine] using spoken
      · refine .taken (by rw [State.outcome?, found, Option.bind_some, gone]) taken ?_
        simpa [gone] using spoken

/-- **The log tells of a failure that nobody has taken**, and of nothing else. -/
theorem Trail.told (h : Trail past s d)
    (speaks : (Nursery.losses s.trace).filter (Loss.isOf t) ≠ []) : s.phase t = .failed ∧
      gather (State.taken t) s past = [] ∧ ∃ e, gather (State.produced t) s past = [.error e] ∧
        (Nursery.losses s.trace).filter (Loss.isOf t) = [.unobserved t e] := by
  have parcel := h.parcel t
  have testimony := h.testimony t
  rw [h.said t] at speaks ⊢
  cases found : s.tasks.get? t with
  | none =>
    rw [testimony.gone found] at speaks ⊢
    split at speaks
    · rename_i failed
      obtain ⟨e, genuine, given⟩ := parcel.failure failed
      rw [given] at speaks ⊢
      rcases parcel.taken_cases given with taken | taken <;> rw [taken] at speaks ⊢
      · refine ⟨failed, rfl, e, rfl, ?_⟩
        simp [failed, Loss.ofOutcome_genuine genuine]
      · simp at speaks
    · exact absurd rfl speaks
  | some m =>
    rw [testimony.known m found] at speaks ⊢
    split at speaks
    · rename_i reported
      have failed := (h.reachable.reports.fair t m found reported).2
      obtain ⟨e, genuine, given⟩ := parcel.failure failed
      rcases parcel.there_or_taken found given with ⟨untaken, there⟩ | ⟨-, gone⟩
      · refine ⟨failed, untaken, e, given, ?_⟩
        simp [reported, there, Loss.ofOutcome_genuine genuine]
      · simp [gone] at speaks
    · exact absurd rfl speaks

/-! ### In one statement -/

/-- What becomes of the failure of a task in a run. -/
structure Accounted (past : List State) (s : State) (d : Desk) (t : TaskId) : Prop where
  /-- Between two steps the failure is in one place. -/
  failed : s.phase t = .failed → s.agenda = [] → ∃ e, e.isCancelled = false ∧
    gather (State.produced t) s past = [.error e] ∧ Whereabouts t e past s
  /-- The log tells of it only if the task has failed and nobody has taken it, and once. -/
  fair : (losses s.trace).filter (Loss.isOf t) ≠ [] → s.phase t = .failed ∧
    gather (State.taken t) s past = [] ∧ ∃ e, gather (State.produced t) s past = [.error e] ∧
      (losses s.trace).filter (Loss.isOf t) = [.unobserved t e]
  /-- Whoever takes it has the handle or the group in hand, or is the main thread that was blocked
  on the task. -/
  taker : ∀ s' d', Transition s d s' d' → State.taken t s s' ≠ [] →
    (∃ rest, s.Taker rest t) ∨ ∃ r, d = .blocked r t ∧ d' = .clear
  /-- A group that takes it returns it, or the log tells of it, and that once. -/
  group : ∀ g, ∀ x ∈ gather (State.takings g) s past, x.child = t → s.phase t = .failed →
    ∃ e, gather (State.taken t) s past = [.error e] ∧
      ((gather (State.results g) s past).filterMap errorOf).length ≤ 1 ∧
      ((gather (State.results g) s past).filterMap errorOf).count ⟨t, e⟩ +
        (losses s.trace).count (.suppressed g t e) = 1
  /-- What a group returns is got by a look, for the next result or for all of them, unless it was
  lost in the middle of waiting for all, or is still kept by a line that waits. -/
  returned : ∀ g, (gather (State.results g) s past).filterMap errorOf =
    gather
        (fun s s' => State.raised g s s' ++ (State.forfeited g s s').flatMap Tally.errors) s past ++
      (s.tallied? g).toList.flatMap Tally.errors
  /-- It gets lost only with the body of the line that has kept it. -/
  lost : ∀ g s' d', Transition s d s' d' → State.forfeited g s s' ≠ [] →
    ∃ u, s.awaits? u = some g ∧ (s'.tasks.get? u).bind Task.fiber = none

/-- **No failure is lost, and none is reported twice**: it is with the task and its handle, or was
taken, or the log tells of it. -/
theorem failure_accounted (h : Trail past s d) (t : TaskId) : Accounted past s d t := by
  refine ⟨fun failed idle => ?_, h.told, fun s' d' tr takes => ?_,
    fun g x takes mine failed => ?_, fun g => ?_, fun g s' d' tr loses => h.forfeited_gone tr loses⟩
  · obtain ⟨e, genuine, given⟩ := (h.parcel t).failure failed
    exact ⟨e, genuine, given, h.whereabouts failed idle genuine given⟩
  · rcases tr.took h.reachable.sound takes with taker | ⟨-, -, taker⟩ | blocked
    · exact .inl ⟨_, taker⟩
    · exact .inl ⟨_, taker⟩
    · exact .inr blocked
  · subst mine
    have taken := h.takings takes
    have final := ((h.balanced g).final x takes).symm.trans failed
    obtain ⟨e, outcome, genuine⟩ := State.finalPhase_failed final
    refine ⟨e, by rw [taken, outcome], ?_, h.failure_once takes outcome genuine⟩
    rw [h.first_error]
    exact List.length_take_le ..
  · rw [h.failures_ledger, h.first_error]

/-! ### A handle that is dropped -/

/-- The main thread has spawned a task with a body and lets the worker go on for a number of
steps. -/
def solo (body : List Line) (steps : Nat) : List State × State :=
  let built := (({} : State).build 0 none none).1
  let reaction := built.spawnOn [] ⟨"spawn", none, some "top", true⟩ 0 none body
  let spawned := State.begin reaction
  let shelved := spawned.step.shelve reaction.frame
  follow steps [shelved, spawned.step, spawned, built, {}] (shelved.start ⟨0⟩ .quiet)

theorem trail_solo (body : List Line) (steps : Nat) :
    Trail (solo body steps).1 (solo body steps).2 .clear := by
  have built : Trail _ _ .clear := Trail.init.next (.move rfl (.build 0 none none))
  have spawned := built.next (.move (by decide) (.line (show State.plain? _ { who := .main } []
    ⟨"spawn", none, some "top", true⟩ (.spawnOn 0 none body) = some _ from rfl)))
  have shelved := (spawned.next .step).next (.move rfl .shelve)
  have started := shelved.next (.move rfl (.start (show Store.get? _ 0 = some ⟨0⟩ from rfl)))
  exact started.follow steps

/-- A body that spawns a child, which is going to fail, and drops its handle. -/
def forsaking : List Line :=
  [.mk ⟨"spawn", none, some "c", true⟩
      (.spawn none false [.mk ⟨"run", none, none, true⟩ (.fail "lost" none)]),
    .mk ⟨"drop", some "c", none, true⟩ .drop]

/-- The handle is dropped before the child has failed, and the log tells of the failure. -/
theorem failure_accounted_forsaking : ∃ past s, Trail past s .clear ∧ s.resting = true ∧
    s.phase ⟨1⟩ = .failed ∧ gather (State.taken ⟨1⟩) s past = [] ∧
    ∃ e, (losses s.trace).filter (Loss.isOf ⟨1⟩) = [.unobserved ⟨1⟩ e] := by
  have h := trail_solo forsaking 34
  have rests : (solo forsaking 34).2.resting = true := by decide +kernel
  have failed : (solo forsaking 34).2.phase ⟨1⟩ = .failed := by decide +kernel
  have gone : (solo forsaking 34).2.tasks.get? ⟨1⟩ = none := by
    rw [← Option.isNone_iff_eq_none]
    decide +kernel
  have untaken : gather (State.taken ⟨1⟩) (solo forsaking 34).2 (solo forsaking 34).1 = [] := by
    decide +kernel
  obtain ⟨e, -, -, place⟩ := (failure_accounted h ⟨1⟩).failed failed (State.idle_of_resting rests)
  refine ⟨_, _, h, rests, failed, untaken, e, ?_⟩
  cases place with
  | kept found => cases gone.symm.trans found
  | taken _ taken => cases untaken.symm.trans taken
  | logged _ _ told => exact told

end Nursery
