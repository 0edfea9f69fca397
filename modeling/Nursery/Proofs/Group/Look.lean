import Nursery.Proofs.Group.Collect
import Nursery.Proofs.Invariant.Spread

/-!
# A look at a group

The owner of a group looks at it in the middle of a line: for the next result, or for all results
that are left.  Whatever the line is and whether it was suspended before, the step is the look and
then the turn of the body that follows from what was found.

* `Look`, `State.look?` : what the next step looks at.
* `Look.results` : what a look hands on, one result after the other.
* `State.ownGroup?` : the group that a line has made for itself, and drops with the last result.
* `State.step_look` : the step is the look, and the turn that it comes to.
* `Rolls.look` : whoever is collected by a look leaves the list.
* `Transition.rolled` : **every transition keeps the rolls.**
-/

namespace Nursery

/-- A task looks at a group. -/
structure Look where
  /-- The state in which it looks: the group is in the frame of its body. -/
  state : State
  /-- The group. -/
  group : TaskId
  /-- The task. -/
  poller : TaskId
  /-- What waiting for all results has come to so far, unless it looks for the next one only. -/
  tally : Option Tally

namespace State

/-- The look of a line that is in the middle of waiting. -/
def lookAgain? (s : State) (t : TaskId) : Wait → Option Look
  | .next g => some ⟨s, g, t, none⟩
  | .all g _ values failure => some ⟨s, g, t, some ⟨values, failure⟩⟩
  | .filling g [] => some ⟨s, g, t, some ⟨[], none⟩⟩
  | _ => none

/-- The first look of a line. -/
def lookFirst? (s : State) (t : TaskId) (frame : Frame) (tag : Tag) : Act → Option Look
  | .next _ =>
    match s.adoptGroup frame tag.target with
    | (s, _, some g) => some ⟨s, g, t, none⟩
    | (_, _, none) => none
  | .all _ =>
    match s.adoptGroup frame tag.target with
    | (s, _, some g) => some ⟨s, g, t, some ⟨[], none⟩⟩
    | (_, _, none) => none
  | _ => none

/-- What the body of a task looks at next. -/
def bodyLook? (s : State) (t : TaskId) (f : Fiber) : Option Look :=
  if f.begun = false then none
  else
    match f.waiting, f.code with
    | some w, _ => s.lookAgain? t w.wait
    | none, .mk tag act :: _ => s.lookFirst? t f.frame tag act
    | none, [] => none

/-- What a worker in the middle of a body looks at next. -/
def sliceLook? (s : State) (home : RuntimeId) : Option Look :=
  match s.slice home with
  | some (.task t .polling) =>
    match (s.tasks.get? t).bind Task.fiber, s.unwinding with
    | some f, none => s.bodyLook? t f
    | _, _ => none
  | _ => none

/-- What the next step of the machine looks at. -/
def look? (s : State) : Option Look :=
  match s.agenda, s.active with
  | [], some (home, _) => s.sliceLook? home
  | _, _ => none

/-- A task was woken while nothing was to be done: somebody has used a copy of its waker. -/
def roused (s : State) : Bool :=
  match s.agenda with
  | [.wake (.task _)] => true
  | _ => false

end State

/-- What a look hands on, one result after the other. -/
def Look.results (l : Look) : List (Except GroupError Int64) :=
  match l.tally with
  | none =>
    match (l.state.pollNext l.group l.poller).2 with
    | .ready (some result) => [result]
    | _ => []
  | some _ => State.resultsAmong l.group (l.state.completed l.group) l.state

/-- The turn that a look comes to, in a line of a body; the group of the line itself is dropped
with the last result. -/
def Look.turn (l : Look) (f : Fiber) (tag : Tag) (attempt : Attempt) (own : Bool) : Turn :=
  match l.tally with
  | none => l.state.awaitNext l.poller f tag attempt l.group
  | some tally => l.state.awaitAll l.poller f tag attempt l.group own tally

/-- The group that a line has made for itself and fills or waits for. -/
def Wait.own? : Wait → Option TaskId
  | .filling g _ | .all g true .. => some g
  | _ => none

/-- The group that the line in which a body is suspended has made for itself. -/
def Fiber.own? (f : Fiber) : Option TaskId :=
  f.waiting.bind fun w => w.wait.own?

/-- The group that the line in which the body of a task is suspended has made for itself. -/
def State.ownGroup? (s : State) (t : TaskId) : Option TaskId :=
  ((s.tasks.get? t).bind Task.fiber).bind Fiber.own?

/-- The step of the machine is a look at a group, and the turn that it comes to. -/
structure State.LooksAt (s : State) (l : Look) : Prop where
  /-- Nothing is to be done before. -/
  idle : s.agenda = []
  /-- A worker was let go on. -/
  active : ∃ home goal, s.active = some (home, goal)
  /-- All that was done is that the group was taken from the shared table, if it was there. -/
  state : ∃ shared, l.state = { s with shared := shared }
  /-- The group is known. -/
  known : ∃ group, s.groups.get? l.group = some group
  /-- The step of the worker that is in the body, which waits for nothing else.  The group is the
  line's own or not. -/
  step : ∃ home f tag attempt own, f.waiting = none ∧
    s.slice home = some (.task l.poller .polling) ∧
    (s.ownGroup? l.poller = some l.group ↔ own = true) ∧
    s.step = (l.turn f tag attempt own).takeEffect home l.poller

variable {s s' : State} {d d' : Desk} {g t : TaskId} {home : RuntimeId} {l : Look} {f : Fiber}
  {E C : TaskId → List Nat}

namespace State

theorem look?_eq (look : s.look? = some l) : ∃ home goal t task f, s.agenda = [] ∧
    s.active = some (home, goal) ∧ s.slice home = some (.task t .polling) ∧
    s.tasks.get? t = some task ∧ task.fiber = some f ∧ s.unwinding = none ∧
    f.begun = true ∧ s.bodyLook? t f = some l := by
  unfold look? at look
  split at look
  · rename_i home goal idle active
    unfold sliceLook? at look
    split at look
    · rename_i t during
      split at look
      · rename_i f fiber calm
        obtain ⟨task, found, stored⟩ := Option.bind_eq_some_iff.1 fiber
        refine ⟨home, goal, t, task, f, idle, active, during, found, stored, calm, ?_, look⟩
        unfold bodyLook? at look
        split at look
        · cases look
        · rename_i begun
          simpa using begun
      · cases look
    · cases look
  · cases look

theorem step_body (idle : s.agenda = []) {goal : Goal} (active : s.active = some (home, goal))
    (during : s.slice home = some (.task t .polling)) {task : Task}
    (found : s.tasks.get? t = some task) (stored : task.fiber = some f)
    (calm : s.unwinding = none) : s.step = s.bodyStep home t f := by
  obtain ⟨rt, built, slice⟩ := State.slice_eq during
  simp only [step, idle, active, work, built, slice, taskStep, found, stored, calm]

theorem adoptGroup_known (sound : Sound s d) (idle : s.agenda = []) {task : Task}
    (runs : s.Runs home t task f) (free : f.waiting = none) {name : String} {frame : Frame}
    (adopts : s.adoptGroup f.frame name = (s', frame, some g)) :
    (∃ shared, s' = { s with shared := shared }) ∧ ∃ group, s.groups.get? g = some group := by
  obtain ⟨changes, -, mine⟩ :=
    adoptGroup_changes (c := ⟨.task t, some home⟩) idle f.frame name
  obtain ⟨shared, eq⟩ := adoptGroup_eq s f.frame name
  rw [adopts] at changes mine eq
  have own := sound.own.lift sound.formed (.body runs)
  rw [resources_of_waiting free] at own
  obtain ⟨group, found⟩ := (own.afterChanges sound.formed changes).there (.group g) (by
    rw [List.count_append]
    have := List.count_pos_iff.2 (mine g rfl)
    omega)
  dsimp only at eq
  rw [eq] at found
  exact ⟨⟨shared, eq⟩, group, found⟩

/-- **The step is a look and the turn that it comes to.** -/
theorem step_look (sound : Sound s d) (look : s.look? = some l) : s.LooksAt l := by
  obtain ⟨home, goal, t, task, f, idle, active, during, found, stored, calm, begun, look⟩ :=
    look?_eq look
  have step := step_body idle active during found stored calm
  have runs : s.Runs home t task f := ⟨.inl during, found, stored⟩
  rw [bodyLook?, if_neg (by rw [begun]; decide)] at look
  rw [bodyStep, if_neg (by rw [begun]; decide)] at step
  have own : s.ownGroup? t = f.waiting.bind fun w => w.wait.own? := by
    rw [ownGroup?, found, Option.bind_some, stored, Option.bind_some, Fiber.own?]
  -- the body is in the middle of a line that waits, or at the next line
  cases hw : f.waiting with
  | some w =>
    have mine := (sound.wakeful t task found).own f w stored hw
    rw [hw, Option.bind_some] at own
    simp only [hw, poll] at look step
    cases wait : w.wait with
    | next g =>
      rw [wait] at look mine step own
      cases look
      exact ⟨idle, ⟨_, _, active⟩, ⟨_, rfl⟩, sound.has (.body runs) mine,
        home, _, w.tag, w.attempt, false, rfl, during, by simp [own, Wait.own?], step⟩
    | all g alone values failure =>
      rw [wait] at look mine step own
      cases look
      refine ⟨idle, ⟨_, _, active⟩, ⟨_, rfl⟩, sound.has (.body runs) mine,
        home, _, w.tag, w.attempt, alone, rfl, during, ?_, step⟩
      cases alone <;> simp [own, Wait.own?]
    | filling g plan =>
      rw [wait] at look mine step own
      cases plan with
      | cons => cases look
      | nil =>
        cases look
        exact ⟨idle, ⟨_, _, active⟩, ⟨_, rfl⟩, sound.has (.body runs) mine,
          home, _, w.tag, w.attempt, true, rfl, during, by simp [own, Wait.own?], step⟩
    | _ =>
      rw [wait] at look
      cases look
  | none =>
    rw [hw, Option.bind_none] at own
    cases lines : f.code with
    | nil => simp [hw, lines] at look
    | cons line rest =>
      obtain ⟨tag, act⟩ := line
      simp only [hw, lines] at look step
      cases act with
      | next attempt =>
        simp only [lookFirst?, runLine] at look step
        split at look
        · rename_i s₁ frame g adopts
          cases look
          obtain ⟨shared, known⟩ := adoptGroup_known sound idle runs hw adopts
          rw [adopts] at step
          exact ⟨idle, ⟨_, _, active⟩, shared, known, home, _, tag, attempt, false, rfl,
            during, by simp [own], step⟩
        · cases look
      | all attempt =>
        simp only [lookFirst?, runLine] at look step
        split at look
        · rename_i s₁ frame g adopts
          cases look
          obtain ⟨shared, known⟩ := adoptGroup_known sound idle runs hw adopts
          rw [adopts] at step
          exact ⟨idle, ⟨_, _, active⟩, shared, known, home, _, tag, attempt, false, rfl,
            during, by simp [own], step⟩
        · cases look
      | _ => cases look

end State

/-! ### The turn after a look -/

/-- Nothing is left to be done that wakes somebody or tells of an end. -/
def State.Mute (s : State) : Prop :=
  ∀ b ∈ s.agenda, b.wakes = false ∧ b.tolls = false

namespace Turn

variable {turn : Turn}

theorem undisturbed (turn : Turn) (home : RuntimeId) (t : TaskId) :
    Undisturbed turn.state (turn.takeEffect home t) := by
  have body : ∀ (f : Option Fiber) (x : State),
      Undisturbed x (x.modifyTask t fun m => { m with fiber := f }) := fun f x =>
    .modifyTask (fun _ => rfl) fun _ _ => rfl
  have more :
      Undisturbed turn.state { turn.state with agenda := turn.state.agenda ++ turn.after } :=
    .of_same rfl rfl rfl rfl
  obtain ⟨s, f, after, flow⟩ := turn
  cases flow with
  | next => exact more.trans (body ..)
  | suspend | finish | panic | pause =>
    exact (more.trans (body ..)).trans (.of_same rfl rfl rfl rfl)

theorem mute (before : turn.state.Mute)
    (after : ∀ b ∈ turn.after, b.wakes = false ∧ b.tolls = false)
    (home : RuntimeId) (t : TaskId) : (turn.takeEffect home t).Mute := by
  obtain ⟨s, f, later, flow⟩ := turn
  have both : ∀ b ∈ s.agenda ++ later, b.wakes = false ∧ b.tolls = false := fun b hb =>
    (List.mem_append.1 hb).elim (before b) (after b)
  have dropped : ∀ (rs : List Resource), ∀ b ∈ rs.map Action.release,
      b.wakes = false ∧ b.tolls = false := by
    intro rs b hb
    obtain ⟨r, -, rfl⟩ := List.mem_map.1 hb
    exact ⟨rfl, rfl⟩
  cases flow with
  | next | suspend | pause => exact both
  | finish result =>
    intro b hb
    rcases List.mem_append.1 hb with hb | hb
    · exact both b hb
    · rcases List.mem_cons.1 hb with rfl | hb
      · exact ⟨rfl, rfl⟩
      · exact dropped _ b hb
  | panic message owned =>
    intro b hb
    exact (List.mem_append.1 hb).elim (both b) (dropped _ b)

theorem trace (turn : Turn) (home : RuntimeId) (t : TaskId) :
    (turn.takeEffect home t).trace = turn.state.trace := by
  obtain ⟨s, f, after, flow⟩ := turn
  cases flow <;> rfl

end Turn

/-- The state after a look. -/
def Look.found (l : Look) : State :=
  match l.tally with
  | none => (l.state.pollNext l.group l.poller).1
  | some tally => (l.state.pollAll l.group l.poller tally).1

namespace State

theorem harvest_state {tag : Tag} {attempt : Attempt} {after : List Action} (h : Harvest)
    (quiet : ∀ b ∈ after, b.wakes = false ∧ b.tolls = false) :
    (s.harvest t f tag attempt after h).state = s ∧
      ∀ b ∈ (s.harvest t f tag attempt after h).after, b.wakes = false ∧ b.tolls = false := by
  have told : ∀ report, ∀ b ∈ after ++ tag.tells (.task t) report,
      b.wakes = false ∧ b.tolls = false := by
    intro report b hb
    rcases List.mem_append.1 hb with hb | hb
    · exact quiet b hb
    · obtain ⟨e, -, rfl⟩ := List.mem_map.1 hb
      exact ⟨rfl, rfl⟩
  cases h with
  | values report xs => exact ⟨rfl, told report⟩
  | failure report fault error => exact ⟨rfl, told report⟩

end State

/-- The turn that a look comes to starts with what the look has left. -/
theorem Look.turn_state (l : Look) (f : Fiber) (tag : Tag) (attempt : Attempt) (own : Bool) :
    (l.turn f tag attempt own).state = l.found ∧
      ∀ b ∈ (l.turn f tag attempt own).after, b.wakes = false ∧ b.tolls = false := by
  unfold Look.turn Look.found
  cases l.tally with
  | none =>
    simp only [State.awaitNext]
    generalize l.state.pollNext l.group l.poller = p
    obtain ⟨s, result | _ | message⟩ := p
    · exact State.harvest_state _ (by simp)
    · exact ⟨rfl, by simp [State.suspends]⟩
    · exact ⟨rfl, by simp⟩
  | some tally =>
    simp only [State.awaitAll]
    generalize l.state.pollAll l.group l.poller tally = p
    obtain ⟨s, tally', result | _ | message⟩ := p
    · refine State.harvest_state _ fun b hb => ?_
      obtain ⟨r, -, rfl⟩ := List.mem_map.1 hb
      exact ⟨rfl, rfl⟩
    · exact ⟨rfl, by simp [State.suspends]⟩
    · exact ⟨rfl, by simp⟩

/-- Who looks is registered. -/
theorem Undisturbed.awaitSignal (g t : TaskId) : Undisturbed s (s.awaitSignal g t) := by
  have waits : Undisturbed s (s.modifySignal g fun m => { m with waker := some t }) :=
    .modifySignal fun _ => rfl
  exact waits.trans (.doFirst _)

/-- What a look comes to, when all children were collected or not. -/
structure Look.ComesTo (l : Look) (drained : Bool) : Prop where
  /-- The next result is the only one that is handed on.  If there is none, the task waits, unless
  none is to come. -/
  next : l.tally = none → (∃ result, l.results = [result] ∧
      (l.state.pollNext l.group l.poller).2 = .ready (some result)) ∨
    l.results = [] ∧
      (l.state.pollNext l.group l.poller).2 = if drained then .ready none else .pending
  /-- All results are added up, and the task waits, unless none is to come. -/
  all : ∀ tally, l.tally = some tally → (l.state.pollAll l.group l.poller tally).2 =
    (l.results.foldl Tally.add tally,
      if drained then .ready (l.results.foldl Tally.add tally).result else .pending)

/-- **What a look collects**, what it leaves, and what it comes to. -/
theorem Look.collects {group : Group} (known : l.state.groups.get? l.group = some group)
    (rolls : Rolls l.state E C) (parted : l.state.Parted) : ∃ xs s₁,
      Collects l.group l.state xs l.results s₁ ∧
        (l.found = s₁ ∨ l.found = s₁.awaitSignal l.group l.poller) ∧
          l.ComesTo (s₁.drained l.group) := by
  obtain ⟨s, g, poller, tally⟩ := l
  cases tally with
  | none =>
    obtain ⟨xs, rs, s₁, collects, ⟨r, rfl, how⟩ | ⟨rfl, done, how⟩⟩ :=
      State.nextAmong_collects poller _ rolls parted known rfl
    · have results : (⟨s, g, poller, none⟩ : Look).results = [r] := by
        simp only [Look.results, State.pollNext, how]
      refine ⟨xs, s₁, by rwa [results], .inl ?_, fun _ => .inl ⟨r, results, ?_⟩, by simp⟩
      · simp only [Look.found, State.pollNext, how]
      · simp only [State.pollNext, how]
    · have results : (⟨s, g, poller, none⟩ : Look).results = [] := by
        simp only [Look.results, State.pollNext, how]
        cases s₁.drained g <;> rfl
      refine ⟨xs, s₁, by rwa [results], .inr ?_, fun _ => .inr ⟨results, ?_⟩, by simp⟩
      · simp only [Look.found, State.pollNext, how]
      · simp only [State.pollNext, how]
  | some tally =>
    obtain ⟨xs, s₁, collects, -, how⟩ :=
      State.allAmong_collects poller _ tally rolls parted known rfl
    refine ⟨xs, s₁, collects, .inr ?_, by simp, fun tally' same => ?_⟩
    · simp only [Look.found, State.pollAll, how]
    · cases same
      simp only [State.pollAll, how]
      rfl

/-! ### The rolls at a look -/

/-- A look at a group in a step: what is collected, and what no group takes notice of. -/
structure Looked (s : State) (l : Look) (xs : List Taking) (s₁ : State) : Prop where
  /-- Some children are collected, and come to what is handed on. -/
  collects : Collects l.group l.state xs l.results s₁
  /-- The rest of the step changes nothing for a group. -/
  rest : Undisturbed s₁ s.step
  /-- It neither wakes anybody nor tells of an end. -/
  mute : s.step.Mute
  /-- It does not say of a failure that it was suppressed. -/
  logged : losses s.step.trace = losses s₁.trace
  /-- What the look comes to. -/
  comes : l.ComesTo (s₁.drained l.group)

namespace State.LooksAt

theorem before (h : s.LooksAt l) : Undisturbed s l.state := by
  obtain ⟨shared, eq⟩ := h.state
  rw [eq]
  exact .of_same rfl rfl rfl rfl

theorem state_idle (h : s.LooksAt l) : l.state.agenda = [] := by
  obtain ⟨shared, eq⟩ := h.state
  rw [eq]
  exact h.idle

theorem rolls (h : s.LooksAt l) (rolls : Rolls s E C) : Rolls l.state E C :=
  rolls.undisturbed h.before fun g _ _ => by
    rw [announcing_of_idle h.idle, announcing_of_idle h.state_idle]

theorem parted (h : s.LooksAt l) (sound : Sound s d) : l.state.Parted := by
  obtain ⟨shared, eq⟩ := h.state
  rw [eq]
  exact { sound.parted with }

/-- **What is collected by a look**, and what the rest of the step leaves alone. -/
theorem looked (sound : Sound s d) (h : s.LooksAt l) (rolls : Rolls s E C) :
    ∃ xs s₁, Looked s l xs s₁ := by
  obtain ⟨group, known⟩ := h.known
  have known' : l.state.groups.get? l.group = some group := by
    rw [h.before.groups, known]
  obtain ⟨xs, s₁, collects, left, comes⟩ := Look.collects known' (h.rolls rolls) (h.parted sound)
  obtain ⟨home, f, tag, attempt, own, -, -, -, step⟩ := h.step
  obtain ⟨starts, told⟩ := l.turn_state f tag attempt own
  have idle₁ : s₁.agenda = [] := collects.agenda.trans h.state_idle
  have found : Undisturbed s₁ l.found ∧ l.found.Mute ∧ l.found.trace = s₁.trace := by
    rcases left with left | left
    · rw [left]
      exact ⟨.refl _, by simp [Mute, idle₁], rfl⟩
    · rw [left]
      refine ⟨.awaitSignal .., fun b hb => ?_, rfl⟩
      rcases List.mem_append.1 hb with hb | hb
      · obtain ⟨t, -, rfl⟩ := List.mem_map.1 hb
        exact ⟨rfl, rfl⟩
      · simp [modifySignal, idle₁] at hb
  refine ⟨xs, s₁, collects, ?_, ?_, ?_, comes⟩
  · have turn := (l.turn f tag attempt own).undisturbed home l.poller
    rw [starts] at turn
    rw [step]
    exact found.1.trans turn
  · rw [step]
    exact Turn.mute (by rw [starts]; exact found.2.1) told home l.poller
  · rw [step, Turn.trace, starts, found.2.2]

end State.LooksAt

namespace Looked

variable {xs : List Taking} {s₁ : State}

theorem completed (h : s.LooksAt l) (looked : Looked s l xs s₁) :
    s.completed l.group = xs.map Taking.place ++ s.step.completed l.group := by
  rw [looked.rest.completed, ← looked.collects.completed, h.before.completed]

theorem completed_of_ne (h : s.LooksAt l) (looked : Looked s l xs s₁) (other : g ≠ l.group) :
    s.step.completed g = s.completed g := by
  rw [looked.rest.completed, looked.collects.completed_of_ne other, h.before.completed]

theorem phase (h : s.LooksAt l) (looked : Looked s l xs s₁) (t : TaskId) :
    (s.step.phase t).isTerminal = (s.phase t).isTerminal := by
  rw [looked.rest.phase, State.phase, looked.collects.nodes, ← State.phase, h.before.phase]

end Looked

namespace State

theorem collected_of_append_left {is : List Nat} (takes : s.completed g = is ++ s'.completed g) :
    collected g s s' = is := by
  simp [collected, takes]

end State

/-- **Whoever is collected by a look leaves the list.** -/
theorem Rolls.look (sound : Sound s d) (look : s.look? = some l) (rolls : Rolls s E C) :
    Rolled s s.step E C := by
  have h := State.step_look sound look
  obtain ⟨xs, s₁, looked⟩ := h.looked sound rolls
  have none_ended : ∀ g, State.ends g s s.step = [] :=
    fun g => State.ends_of_phase (looked.phase h)
  have gone : ∀ g, g ≠ l.group → State.collected g s s.step = [] :=
    fun g other => State.collected_of_same (looked.completed_of_ne h other)
  have rolls₁ : Rolls s₁ E fun g => C g ++ State.collected g s s.step := by
    refine looked.collects.rolls (h.rolls rolls) (h.parted sound) ?_ fun g other => ?_
    · rw [State.collected_of_append_left (looked.completed h)]
    · rw [gone g other, List.append_nil]
  refine ⟨?_, fun g => by simp [none_ended g]⟩
  have ended : (fun g => E g ++ State.ends g s s.step) = E :=
    funext fun g => by rw [none_ended, List.append_nil]
  rw [ended]
  refine rolls₁.undisturbed looked.rest fun g _ _ => ?_
  rw [State.announcing_of_tolls fun b hb => (looked.mute b hb).2,
    State.announcing_of_idle (looked.collects.agenda.trans h.state_idle)]

/-- A line that finds no group under its name does nothing to one. -/
theorem State.step_missing (idle : s.agenda = []) {goal : Goal}
    (active : s.active = some (home, goal)) (looks : s.Looks ⟨.task t, some home⟩)
    (nowhere : s.look? = none) :
    Undisturbed s s.step ∧ s.step.Mute ∧ s.step.trace = s.trace ∧ s.step.signals = s.signals := by
  obtain ⟨⟨home, t, task, f, same, during, found, stored, looks⟩, calm⟩ := looks
  cases same
  have step := step_body idle active during found stored calm
  have nothing : s.bodyLook? t f = none := by
    simpa [look?, idle, active, sliceLook?, during, found, stored, calm] using nowhere
  simp only [Fiber.looks, Bool.and_eq_true] at looks
  obtain ⟨begun, looks⟩ := looks
  rw [bodyLook?, if_neg (by rw [begun]; decide)] at nothing
  rw [bodyStep, if_neg (by rw [begun]; decide)] at step
  -- a line that was suspended knows its group, so this one has just begun
  have tells : ∀ (f : Fiber) (tag : Tag) (shared : Frame),
      let x := (({ s with shared := shared }.tells t f tag .missing).takeEffect home t)
      Undisturbed s x ∧ x.Mute ∧ x.trace = s.trace ∧ x.signals = s.signals := by
    intro f tag shared
    have moved : Undisturbed s { s with shared := shared } := .of_same rfl rfl rfl rfl
    refine ⟨moved.trans (({ s with shared := shared }.tells t f tag .missing).undisturbed home t),
      Turn.mute ?_ ?_ home t, Turn.trace _ home t, rfl⟩
    · simp [Mute, State.tells, idle]
    · intro b hb
      obtain ⟨e, -, rfl⟩ := List.mem_map.1 hb
      exact ⟨rfl, rfl⟩
  cases hw : f.waiting with
  | some w =>
    simp only [hw] at looks nothing
    cases wait : w.wait with
    | filling g plan =>
      rw [wait] at looks nothing
      cases plan with
      | nil => cases nothing
      | cons => cases looks
    | next | all =>
      rw [wait] at nothing
      cases nothing
    | _ =>
      rw [wait] at looks
      cases looks
  | none =>
    cases lines : f.code with
    | nil => simp [hw, lines] at looks
    | cons line rest =>
      obtain ⟨tag, act⟩ := line
      simp only [hw, lines] at looks nothing step
      obtain ⟨shared, eq⟩ := adoptGroup_eq s f.frame tag.target
      cases act with
      | next attempt | all attempt =>
        simp only [lookFirst?, runLine] at nothing step
        split at nothing
        · cases nothing
        · rename_i s₁ frame adopts
          rw [adopts] at step eq
          rw [step, show s₁ = _ from eq]
          exact tells _ tag shared
      | _ => cases looks

/-- What a transition does to the lists of the groups: it is a look at one of them, or nobody is
collected. -/
theorem Transition.look_or_uncollected (reachable : Reachable s d) (tr : Transition s d s' d')
    (rolls : Rolls s E C) : (∃ l, s.look? = some l ∧ s' = s.step) ∨
      (s.look? = none ∨ s'.roused = true) ∧ Uncollected s s' E C := by
  have sound := reachable.sound
  cases tr with
  | step =>
    cases look : s.look? with
    | some l => exact .inl ⟨l, rfl, rfl⟩
    | none =>
      refine .inr ⟨.inl rfl, ?_⟩
      -- a line that asks for a group may find none, and then is no look
      by_cases looks : ∃ home goal t, s.agenda = [] ∧ s.active = some (home, goal) ∧
          s.Looks ⟨.task t, some home⟩
      · obtain ⟨home, goal, t, idle, active, looks⟩ := looks
        obtain ⟨u, mute, -⟩ := State.step_missing idle active looks look
        exact rolls.unnoticed idle u fun b hb => (mute b hb).2
      · have next := State.step_cases sound.wakeful.waitsOnOwn
        generalize s.step = s' at next
        cases next with
        | item first e =>
          subst first
          exact (rolls.effect sound e).still e.still e.enrols
        | work idle active w =>
          exact rolls.work sound reachable.answerable idle
            (fun t blind => looks ⟨_, _, t, idle, active, blind⟩) w
        | rest => exact rolls.still (Undisturbed.refl s).still (Undisturbed.refl s).enrols
  | stray idle =>
    refine .inr ⟨.inr (by simp [State.roused, State.doFirst, idle]),
      rolls.unnoticed idle (.doFirst _) fun b hb => ?_⟩
    rcases List.mem_append.1 hb with hb | hb
    · rw [List.mem_singleton.1 hb]
      rfl
    · rw [idle] at hb
      cases hb
  | move rests m =>
    refine .inr ⟨.inl ?_, rolls.move sound (State.idle_of_resting rests) m⟩
    have still := State.still_of_resting rests
    rw [State.look?, still]
    cases s.agenda <;> rfl

/-- **Every transition keeps the rolls**: whoever ends comes onto the roll of its group, and
whoever leaves the list was collected by a look. -/
theorem Transition.rolled (reachable : Reachable s d) (tr : Transition s d s' d')
    (rolls : Rolls s E C) : Rolled s s' E C := by
  rcases tr.look_or_uncollected reachable rolls with ⟨l, look, rfl⟩ | ⟨-, uncollected⟩
  · exact rolls.look reachable.sound look
  · exact uncollected.toRolled

/-- **The rolls of a run**: who has ended on it, and who was collected. -/
theorem Trail.rolls {past : List State} (h : Trail past s d) :
    Rolls s (fun g => gather (State.ends g) s past) fun g => gather (State.collected g) s past := by
  induction h with
  | init => exact .init
  | next h t ih => exact (t.rolled h.reachable ih).rolls

end Nursery
