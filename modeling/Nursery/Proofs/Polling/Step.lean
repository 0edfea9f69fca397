import Nursery.Proofs.Polling.Registry

/-!
# What a step polls

What the machine polls next can be read off the state, and so can what it comes to: a poll finds
nothing where nothing is there.  Whatever else a worker does registers nobody.

* `State.polling` : the polls of the next step.
* `State.honest_polling` : **what a poll comes to is what the state says.**
* `State.step_registers` : **a step registers who polls in vain, and nobody else.**
-/

namespace Nursery

variable {s : State} {t u : TaskId} {k : CallId} {r : Resource} {frame : Frame} {tag : Tag}
  {p : Poll}

/-- What a poll comes to is what the state says. -/
structure Poll.Honest (s : State) (p : Poll) : Prop where
  /-- A task that has not ended is pending, and one that has ended is not. -/
  handle : ∀ u, p.target = .handle u → ((s.phase u).isTerminal = false → p.sight = .pending) ∧
    ((s.phase u).isTerminal = true → p.sight.vain = false)
  /-- An accepted call without an outcome is pending. -/
  call : ∀ k call, p.target = .call k → s.calls.get? k = some call → call.outcome = none →
    call.accepted = true → p.sight = .pending
  /-- In a group of which nothing can be collected nothing is found. -/
  group : ∀ g, p.target = .group g → s.completed g = [] → p.sight.vain = true
  /-- Only a group is drained. -/
  pending : (∀ g, p.target ≠ .group g) → p.sight.vain = true → p.sight = .pending

namespace State

/-- What a worker polls next at some point of its slice. -/
def slicePolls (s : State) : Option Slice → List Poll
  | some (.task t .polling) =>
    match (s.tasks.get? t).bind Task.fiber, s.unwinding with
    | some f, none => if f.begun = false then [] else s.bodyPolls t f
    | _, _ => []
  | _ => []

/-- What the next step of the machine polls. -/
def polling (s : State) : List Poll :=
  match s.agenda, s.active with
  | [], some (home, _) => s.slicePolls (s.slice home)
  | _, _ => []

/-! ### Honest polls -/

theorem honest_handle : Poll.Honest s ⟨t, .handle u, (s.pollHandle u t).2.sight⟩ where
  handle v same := by
    cases same
    unfold pollHandle takeOutcome
    by_cases ended : (s.phase u).isTerminal = true
    · rw [if_pos ended]
      refine ⟨fun ongoing => ?_, fun _ => ?_⟩
      · cases ended.symm.trans ongoing
      · cases (s.tasks.get? u).bind Task.outcome <;> rfl
    · rw [if_neg ended]
      exact ⟨fun _ => rfl, fun ended' => absurd ended' ended⟩
  call k call same := by cases same
  group g same := by cases same
  pending _ vain := by
    generalize s.pollHandle u t = x at vain ⊢
    obtain ⟨s', _ | _ | _⟩ := x
    · cases vain
    · rfl
    · cases vain

theorem honest_call : Poll.Honest s ⟨t, .call k, (s.pollCall k t).2.sight⟩ where
  handle v same := by cases same
  call j call same found none accepted := by
    cases same
    simp [pollCall, found, none, accepted, Polled.sight]
  group g same := by cases same
  pending _ vain := by
    generalize s.pollCall k t = x at vain ⊢
    obtain ⟨s', _ | _ | _⟩ := x
    · cases vain
    · rfl
    · cases vain

theorem honest_look (l : Look) : Poll.Honest l.state l.poll where
  handle v same := by cases same
  call k call same := by cases same
  group h same none := by
    obtain ⟨s, g, t, tally⟩ := l
    cases same
    cases tally with
    | none =>
      simp only [Look.poll, Look.sight, pollNext, none, nextAmong]
      split <;> rfl
    | some tally =>
      simp only [Look.poll, Look.sight, pollAll, none, allAmong]
      split <;> rfl
  pending other := absurd rfl (other l.group)

theorem honest_resource (h : p ∈ s.resourcePolls t r) : Poll.Honest s p := by
  cases r with
  | handle u => exact List.mem_singleton.1 h ▸ honest_handle
  | call k => exact List.mem_singleton.1 h ▸ honest_call
  | group g => cases h

theorem phase_pollHandle (s : State) (u t v : TaskId) :
    (s.pollHandle u t).1.phase v = s.phase v := by
  unfold pollHandle takeOutcome
  split
  · cases (s.tasks.get? u).bind Task.outcome <;> rfl
  · rfl

theorem honest_first (handles : List (String × TaskId)) :
    ∀ {s : State}, ∀ p ∈ firstPolls t handles s,
    Poll.Honest s p ∧ ∃ u, p.target = .handle u := by
  induction handles with
  | nil => exact fun p none => by cases none
  | cons h rest ih =>
    intro s p polled
    obtain ⟨name, u⟩ := h
    have mine := honest_handle (s := s) (t := t) (u := u)
    have same := phase_pollHandle s u t
    rw [firstPolls] at polled
    generalize s.pollHandle u t = x at mine same polled
    obtain ⟨s', _ | _ | _⟩ := x
    · exact List.mem_singleton.1 polled ▸ ⟨mine, u, rfl⟩
    · rcases List.mem_cons.1 polled with rfl | later
      · exact ⟨mine, u, rfl⟩
      · obtain ⟨honest, v, target⟩ := ih p later
        refine ⟨⟨fun w aims => ?_, fun k call aims => ?_, fun g aims => ?_, honest.pending⟩, v,
          target⟩
        · rw [← same w]
          exact honest.handle w aims
        · cases target.symm.trans aims
        · cases target.symm.trans aims
    · exact List.mem_singleton.1 polled ▸ ⟨mine, u, rfl⟩

/-- There is one poll at most, unless only handles are polled. -/
def Single (ps : List Poll) : Prop :=
  ps.length ≤ 1 ∨ ∀ p ∈ ps, ∃ u, p.target = .handle u

theorem honest_nil : (∀ p ∈ ([] : List Poll), Poll.Honest s p) ∧ Single [] :=
  ⟨fun _ mine => absurd mine List.not_mem_nil, .inl (Nat.zero_le 1)⟩

theorem honest_option {α : Type} {x : Option α} {see : α → Poll}
    (honest : ∀ y, x = some y → Poll.Honest s (see y)) :
    (∀ p ∈ x.toList.map see, Poll.Honest s p) ∧ Single (x.toList.map see) := by
  cases x with
  | none => exact honest_nil
  | some y => exact ⟨fun p mine => List.mem_singleton.1 mine ▸ honest y rfl, .inl (Nat.le_refl 1)⟩

theorem single_resource : Single (s.resourcePolls t r) := by
  cases r with
  | handle | call => exact .inl (Nat.le_refl 1)
  | group => exact .inl (Nat.zero_le 1)

theorem honest_wait (wait : Wait) :
    (∀ p ∈ s.waitPolls t wait, Poll.Honest s p) ∧ Single (s.waitPolls t wait) := by
  have looks : ∀ wait, (∀ p ∈ (s.lookAgain? t wait).toList.map Look.poll, Poll.Honest s p) ∧
      Single ((s.lookAgain? t wait).toList.map Look.poll) := by
    refine fun wait => honest_option fun l look => ?_
    have here : l.state = s := by
      unfold lookAgain? at look
      split at look <;> cases look <;> rfl
    exact here ▸ honest_look l
  cases wait with
  | awaiting r taken => exact ⟨fun p => honest_resource, single_resource⟩
  | selecting handles =>
    exact ⟨fun p mine => (honest_first handles p mine).1,
      .inr fun p mine => (honest_first handles p mine).2⟩
  | _ => exact looks _

theorem honest_line (act : Act) : (∀ p ∈ s.linePolls t frame tag act, Poll.Honest s p) ∧
    Single (s.linePolls t frame tag act) := by
  obtain ⟨shared, eq⟩ := adopt_eq s frame tag.target
  -- what a poll comes to does not depend on the shared table
  have moved : ∀ {p}, Poll.Honest (s.adopt frame tag.target).1 p → Poll.Honest s p := by
    rw [eq]
    exact fun h => ⟨h.handle, h.call, h.group, h.pending⟩
  have named : (∀ p ∈ ((s.adopt frame tag.target).2.find? tag.target).toList.flatMap
      ((s.adopt frame tag.target).1.resourcePolls t), Poll.Honest s p) ∧
      Single (((s.adopt frame tag.target).2.find? tag.target).toList.flatMap
        ((s.adopt frame tag.target).1.resourcePolls t)) := by
    cases (s.adopt frame tag.target).2.find? tag.target with
    | none => exact honest_nil
    | some r =>
      rw [Option.toList_some, List.flatMap_singleton]
      exact ⟨fun p mine => moved (honest_resource mine), single_resource⟩
  have looks : ∀ act, (∀ p ∈ (s.lookFirst? t frame tag act).toList.map Look.poll,
      Poll.Honest s p) ∧ Single ((s.lookFirst? t frame tag act).toList.map Look.poll) := by
    refine fun act => honest_option fun l look => ?_
    obtain ⟨shared, eq⟩ := adoptGroup_eq s frame tag.target
    have here : l.state = (s.adoptGroup frame tag.target).1 := by
      unfold lookFirst? at look
      split at look
      · split at look
        · rename_i adopts
          rw [adopts]
          cases look
          rfl
        · cases look
      · split at look
        · rename_i adopts
          rw [adopts]
          cases look
          rfl
        · cases look
      · cases look
    have honest := honest_look l
    rw [here, eq] at honest
    exact ⟨honest.handle, honest.call, honest.group, honest.pending⟩
  cases act with
  | await | poll => exact named
  | any names attempt =>
    exact ⟨fun p mine => (honest_first _ p mine).1, .inr fun p mine => (honest_first _ p mine).2⟩
  | _ => exact looks _

/-- **What a poll comes to is what the state says**, and a step makes one poll at most, unless it
polls handles. -/
theorem honest_polling (s : State) :
    (∀ p ∈ s.polling, Poll.Honest s p) ∧ Single s.polling := by
  unfold polling
  split
  · unfold slicePolls
    split
    · split
      · split
        · exact honest_nil
        · unfold bodyPolls
          split
          · exact honest_wait _
          · exact honest_line _
          · exact honest_nil
      · exact honest_nil
    · exact honest_nil
  · exact honest_nil

/-! ### A step of the machine -/

theorem endPending_registers (s : State) (home : RuntimeId) (t : TaskId) :
    s.Registers [] (s.endPending home t) := by
  unfold endPending
  dsimp only
  split
  · exact .of_stores rfl rfl rfl
  · split
    · refine .tail ?_ (.enqueue _ _ _)
      exact .of_stores rfl rfl rfl
    · exact .of_stores rfl rfl rfl

theorem joinChildren_registers (s : State) (home : RuntimeId) (t : TaskId) :
    s.Registers [] (s.joinChildren home t) := by
  unfold joinChildren
  split
  · exact .of_stores rfl rfl rfl
  · refine .tail ?_ (endPending_registers _ home t)
    exact .of_stores rfl rfl rfl

theorem endBody_registers (s : State) (home : RuntimeId) (t : TaskId) (ending : Ending) :
    s.Registers [] (s.endBody home t ending) := by
  have started : s.Registers []
      { s.setSlice home (some (.task t .joining)) with unwinding := none } := .of_stores rfl rfl rfl
  unfold endBody
  dsimp only
  generalize ({ s.setSlice home (some (.task t .joining)) with unwinding := none } : State) = x
    at started ⊢
  have failed : ∀ e : TaskError, s.Registers []
      (let y := x.modifyTask t fun m => { m with outcome := some (.error e) }
        if e.isCancelled then y
        else (y.log (.bodyFailed t e)).doFirst ((y.children t).map .cancel)) := by
    intro e
    have kept : s.Registers [] (x.modifyTask t fun m => { m with outcome := some (.error e) }) :=
      started.tail (.modifyTask fun _ => rfl)
    dsimp only
    split
    · exact kept
    · exact kept.tail (.of_stores rfl rfl rfl)
  split
  · exact failed _
  · split
    · exact started.tail (.modifyTask fun _ => rfl)
    · split
      · exact started.tail (.modifyTask fun _ => rfl)
      · exact failed _

theorem handlerStep_registers (formed : Formed s) (unmade : s.signals.get? s.nextNode = none)
    (home : RuntimeId) (a : ActorId) (handled : Nat) (code : List Line) (frame : Frame)
    (reply : Option CallId) :
    s.Registers [] (s.handlerStep home a handled code frame reply) := by
  have effect : ∀ answer : Answer, s.Registers [] answer.state →
      s.Registers [] (answer.takeEffect home a handled reply) := by
    intro answer before
    refine before.tail ?_
    unfold Answer.takeEffect
    dsimp only
    split
    · exact .of_stores rfl rfl rfl
    · split <;> exact .of_stores rfl rfl rfl
  unfold handlerStep
  refine effect _ ?_
  cases code with
  | nil => exact .refl
  | cons line rest =>
    obtain ⟨tag, act⟩ := line
    dsimp only
    unfold handlerLine
    dsimp only
    split
    · exact .of_stores rfl rfl rfl
    · split
      · exact .refl
      · exact .refl
      · exact .refl
      · split
        · exact .of_stores rfl rfl rfl
        · exact .refl
      · split <;> exact .refl
      · split
        · exact .refl
        · rename_i reaction plain
          have same := plain?_registers formed unmade plain
          split <;> exact same

theorem drainStep_registers (formed : Formed s) (unmade : s.signals.get? s.nextNode = none)
    (home : RuntimeId) (a : ActorId) (handled : Nat) (stage : HandlerStage) :
    s.Registers [] (s.drainStep home a handled stage) := by
  have ends : s.Registers [] (s.endDrain home a handled) := by
    unfold endDrain
    dsimp only
    split
    · exact .of_stores rfl rfl rfl
    · split
      · exact .of_stores rfl rfl rfl
      · refine .tail ?_ (.enqueue _ _ _)
        exact .of_stores rfl rfl rfl
  cases stage with
  | idle =>
    unfold drainStep nextMessage
    dsimp only
    split
    · exact .of_stores rfl rfl rfl
    · split
      · split
        · exact ends
        · exact .of_stores rfl rfl rfl
      · exact ends
  | handling code frame reply => exact handlerStep_registers formed unmade home a handled _ _ _
  | replying reply result =>
    unfold drainStep endHandler
    dsimp only
    split <;> exact .of_stores rfl rfl rfl

theorem take_registers (s : State) (home : RuntimeId) (goal : Goal) (entry : Entry)
    (queue : RunQueue Entry) : s.Registers []
      (match entry with
        | .task t => (s.popped home queue).beginTask home t
        | .drain a => (s.popped home queue).setSlice home (some (.drain a 0 .idle))
        | .marker serial => (s.popped home queue).meetMarker home goal serial) := by
  cases entry with
  | task t =>
    dsimp only [beginTask]
    split <;> exact .of_stores rfl rfl rfl
  | drain a => exact .of_stores rfl rfl rfl
  | marker serial =>
    dsimp only [meetMarker]
    split
    · split
      · split
        · exact .of_stores rfl rfl rfl
        · rename_i counted left band _ _
          have queued : s.Registers []
              ((s.popped home queue).enqueue home band (.marker serial)) := by
            refine .tail ?_ (.enqueue _ _ _)
            exact .of_stores rfl rfl rfl
          exact queued.tail (.of_stores rfl rfl rfl)
      · exact .of_stores rfl rfl rfl
    · exact .of_stores rfl rfl rfl

/-- **A step registers who polls in vain, and nobody else**, as long as nothing else is to be done
before. -/
theorem step_registers (idle : s.agenda = []) (formed : Formed s)
    (unmade : s.signals.get? s.nextNode = none)
    (furnished : ∀ home t task f, s.Runs home t task f → s.Furnished f ∧
      ∀ w, f.waiting = some w → w.wait.OnOwn f.resources) :
    s.Registers s.polling s.step := by
  rw [step.eq_def, polling, idle]
  -- as the step goes: the worker, its slice, the stage, the body
  cases active : s.active with
  | none => exact .refl
  | some work =>
    obtain ⟨home, goal⟩ := work
    dsimp only
    unfold work
    split
    · rename_i missing
      rw [slice, missing]
      exact .of_stores rfl rfl rfl
    · rename_i rt built
      rw [slice, built, Option.bind_some]
      split
      · rename_i t stage during
        rw [during]
        cases stage with
        | polling =>
          dsimp only [slicePolls, taskStep]
          cases found : s.tasks.get? t with
          | none => exact .of_stores rfl rfl rfl
          | some task =>
            dsimp only [Option.bind_some]
            cases stored : task.fiber with
            | none => exact joinChildren_registers s home t
            | some f =>
              have runs : s.Runs home t task f :=
                ⟨.inl (by rw [slice, built, Option.bind_some, during]), found, stored⟩
              obtain ⟨has, own⟩ := furnished home t task f runs
              cases calm : s.unwinding with
              | some message =>
                exact Turn.registers { state := s, fiber := f, flow := .panic message [] } home t
              | none =>
                dsimp only
                split
                · rename_i fresh
                  rw [bodyStep, if_pos fresh]
                  have told : s.Registers [] (s.tell (.told (.task t) "begin" .nothing)) :=
                    .of_stores rfl rfl rfl
                  exact told.tail (.modifyTask fun _ => rfl)
                · rename_i begun
                  rw [bodyStep_eq (by simpa using begun)]
                  exact (bodyTurn_registers has own).tail (Turn.registers _ home t)
        | suspending =>
          dsimp only [slicePolls, taskStep]
          split
          · rename_i f message _ _
            exact Turn.registers { state := s, fiber := f, flow := .panic message [] } home t
          · exact endPending_registers s home t
        | ended ending => exact endBody_registers s home t _
        | joining => exact joinChildren_registers s home t
        | leaving => exact .of_stores rfl rfl rfl
      · rename_i a handled stage during
        rw [during]
        exact drainStep_registers formed unmade home a handled stage
      · rename_i free
        rw [free]
        split
        · exact .of_stores rfl rfl rfl
        · split
          · exact .of_stores rfl rfl rfl
          · exact take_registers s home goal _ _

end State

end Nursery
