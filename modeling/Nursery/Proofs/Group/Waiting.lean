import Nursery.Proofs.Group.Account

/-!
# Lines that wait for all results

A line that waits for all results of a group keeps what it has collected so far, over any number
of slices.  Nobody else can look at the group in the meantime, so what it keeps is the last part of
what the group has handed on, and what it returns is that part once all children were collected.

* `Wait.gathers` : a wait for all results.
* `Transition.turns` : a body waits for something else only after a turn of its own.
* `Transition.gathering` : only a look at a group leaves a line waiting for all results.
* `Begun`, `Tally.Since` : where a line began to wait, and what it has come to since then.
* `Trail.waits_since` : **a line that waits has come to what was handed on since it began.**
-/

namespace Nursery

/-- The wait is for all results of a group. -/
def Wait.gathers : Wait → Bool
  | .all .. => true
  | _ => false

/-- The wait is for a group as a whole: it is being filled, or all its results are waited for. -/
def Wait.grouped : Wait → Bool
  | .all .. | .filling .. => true
  | _ => false

/-- The body waits for all results of a group. -/
def Fiber.gathers (f : Fiber) : Bool :=
  f.waiting.any fun w => w.wait.gathers

/-- The body waits for a group as a whole. -/
def Fiber.grouped (f : Fiber) : Bool :=
  f.waiting.any fun w => w.wait.grouped

variable {s s' : State} {d d' : Desk} {g t : TaskId} {home : RuntimeId} {l : Look} {f : Fiber}
  {past : List State} {c : Context} {hand hand' : List Resource} {a : Action} {task' : Task}
  {f' : Fiber} {w : Waiting}

theorem Fiber.grouped_of_free (free : f.waiting = none) : f.grouped = false := by
  simp [grouped, free]

theorem Fiber.gathers_of_grouped (other : f.grouped = false) : f.gathers = false := by
  cases hw : f.waiting with
  | none => simp [gathers, hw]
  | some w =>
    rw [grouped, hw, Option.any_some] at other
    rw [gathers, hw, Option.any_some]
    cases wait : w.wait <;> rw [wait] at other <;> first | rfl | cases other

/-! ### Lines that do not look at a group -/

namespace State

variable {tag : Tag} {attempt : Attempt}

theorem harvest_fiber {after : List Action} {h : Harvest} :
    (s.harvest t f tag attempt after h).fiber.waiting = f.waiting := by
  cases h <;> rfl

theorem awaitResource_grouped {r : Resource} {taken : Bool} (free : f.waiting = none) :
    (s.awaitResource t f tag attempt r taken).fiber.grouped = false := by
  unfold awaitResource
  split
  · exact Fiber.grouped_of_free (harvest_fiber.trans free)
  · rfl
  · exact Fiber.grouped_of_free free

theorem awaitFirst_grouped {handles : List (String × TaskId)} (free : f.waiting = none) :
    (s.awaitFirst t f tag attempt handles).fiber.grouped = false := by
  unfold awaitFirst
  split
  · exact Fiber.grouped_of_free (harvest_fiber.trans free)
  · rfl
  · exact Fiber.grouped_of_free free

theorem awaitNext_grouped (free : f.waiting = none) :
    (s.awaitNext t f tag attempt g).fiber.grouped = false := by
  unfold awaitNext
  split
  · exact Fiber.grouped_of_free (harvest_fiber.trans free)
  · rfl
  · exact Fiber.grouped_of_free free

theorem giveWay_grouped {left : Nat} (free : f.waiting = none) :
    (s.giveWay t f tag left).fiber.grouped = false := by
  unfold giveWay
  split
  · exact Fiber.grouped_of_free free
  · rfl

theorem spin_grouped {turns limit : Nat} (free : f.waiting = none) :
    (s.spin t f tag turns limit).fiber.grouped = false := by
  unfold spin
  split
  · rfl
  · exact Fiber.grouped_of_free free

theorem poll_grouped (other : w.wait.grouped = false) : (s.poll t f w).fiber.grouped = false := by
  unfold poll
  dsimp only
  split
  · exact giveWay_grouped rfl
  · exact spin_grouped rfl
  · rfl
  · exact awaitResource_grouped rfl
  · exact awaitFirst_grouped rfl
  · exact awaitNext_grouped rfl
  · rename_i wait
    rw [wait] at other
    cases other
  · rename_i wait
    rw [wait] at other
    cases other

theorem fill_gathers {item : PlanItem} {rest : List PlanItem} :
    (s.fill t f tag attempt g (item :: rest)).fiber.gathers = false := by
  unfold fill
  dsimp only
  split <;> rfl

theorem poll_gathers (blind : w.wait.looks = false) : (s.poll t f w).fiber.gathers = false := by
  cases wait : w.wait with
  | filling g plan =>
    cases plan with
    | nil =>
      rw [wait] at blind
      cases blind
    | cons =>
      simp only [poll, wait]
      exact fill_gathers
  | next | all =>
    rw [wait] at blind
    cases blind
  | _ => exact Fiber.gathers_of_grouped (poll_grouped (by rw [wait]; rfl))

theorem awaitNamed_grouped {keep : Bool} (free : f.waiting = none) :
    (s.awaitNamed t f tag keep attempt).fiber.grouped = false := by
  unfold awaitNamed
  dsimp only
  split
  · exact Fiber.grouped_of_free free
  · exact Fiber.grouped_of_free free
  · exact awaitResource_grouped free

theorem pollNamed_grouped {keep : Bool} (free : f.waiting = none) :
    (s.pollNamed t f tag keep attempt).fiber.grouped = false := by
  unfold pollNamed
  dsimp only
  split
  · exact Fiber.grouped_of_free free
  · split
    · split <;> exact Fiber.grouped_of_free (harvest_fiber.trans free)
    · exact Fiber.grouped_of_free free
    · exact Fiber.grouped_of_free free

theorem runLine_grouped {act : Act} (blind : act.looks = false)
    (other : ∀ plan attempt, act ≠ .withGroup plan attempt) (free : f.waiting = none) :
    (s.runLine home t f tag act).fiber.grouped = false := by
  have settled : f.grouped = false := Fiber.grouped_of_free free
  unfold runLine
  split
  · exact settled
  · exact settled
  · exact settled
  · exact settled
  · split <;> exact settled
  · exact giveWay_grouped free
  · exact spin_grouped free
  · rfl
  · exact settled
  · split <;> exact Fiber.grouped_of_free free
  · exact Fiber.grouped_of_free free
  · exact awaitNamed_grouped free
  · exact pollNamed_grouped free
  · dsimp only
    split
    · exact Fiber.grouped_of_free free
    · exact awaitFirst_grouped free
  · cases blind
  · cases blind
  · exact absurd rfl (other _ _)
  · split <;> exact settled
  · split <;> exact settled
  · split
    · exact settled
    · dsimp only
      split <;> exact Fiber.grouped_of_free free

theorem runLine_gathers {act : Act} (blind : act.looks = false) (free : f.waiting = none) :
    (s.runLine home t f tag act).fiber.gathers = false := by
  by_cases own : ∃ plan attempt, act = .withGroup plan attempt
  · obtain ⟨plan, attempt, rfl⟩ := own
    rfl
  · exact Fiber.gathers_of_grouped (runLine_grouped blind
      (fun plan attempt same => own ⟨plan, attempt, same⟩) free)

theorem runLine_missing {act : Act} {x : State} {frame : Frame} (looks : act.looks = true)
    (adopts : s.adoptGroup f.frame tag.target = (x, frame, none)) :
    (s.runLine home t f tag act).fiber.waiting = f.waiting := by
  cases act with
  | next | all => simp only [runLine, adopts]; rfl
  | _ => cases looks

end State

/-! ### Who waits after a step -/

theorem Turn.fiber_takeEffect {turn : Turn}
    (found' : (turn.takeEffect home t).tasks.get? t = some task')
    (stored' : task'.fiber = some f') :
    f' = turn.fiber := by
  obtain ⟨x, fiber, after, flow⟩ := turn
  cases flow <;> obtain ⟨m, -, rfl⟩ := Store.get?_modify_eq_some.1 found' <;>
    simp only [if_true, Option.some.injEq, reduceCtorEq] at stored'
  all_goals exact stored'.symm

namespace State

/-- A body that waits for all results after its turn did so before, or it has looked at a group. -/
theorem bodyStep_gathers (found' : (s.bodyStep home t f).tasks.get? t = some task')
    (stored' : task'.fiber = some f') (waits : f'.waiting = some w) (all : w.wait.gathers = true) :
    f.waiting = some w ∨ ∃ l, s.bodyLook? t f = some l := by
  have gathers : f'.gathers = true := by simp [Fiber.gathers, waits, all]
  unfold bodyStep at found'
  rw [bodyLook?]
  -- not begun, in the middle of a line, at the end, and at the next line
  split at found'
  · left
    obtain ⟨m, -, rfl⟩ := Store.get?_modify_eq_some.1 found'
    simp only [if_true, Option.some.injEq] at stored'
    rw [← stored'] at waits
    exact waits
  · rename_i begun
    right
    rw [if_neg begun]
    split at found'
    · rename_i v hv
      have same := Turn.fiber_takeEffect found' stored'
      have looks : v.wait.looks = true := by
        by_contra blind
        rw [same, poll_gathers (Bool.not_eq_true _ ▸ blind)] at gathers
        cases gathers
      simp only [hv]
      cases wait : v.wait with
      | next | all => exact ⟨_, rfl⟩
      | filling g plan =>
        rw [wait] at looks
        cases plan with
        | nil => exact ⟨_, rfl⟩
        | cons => cases looks
      | _ =>
        rw [wait] at looks
        cases looks
    · rename_i free _
      rw [Turn.fiber_takeEffect found' stored',
        Fiber.gathers_of_grouped (Fiber.grouped_of_free free)] at gathers
      cases gathers
    · rename_i tag act rest free lines
      have same := Turn.fiber_takeEffect found' stored'
      have looks : act.looks = true := by
        by_contra blind
        cases gathers.symm.trans ((congrArg Fiber.gathers same).trans
          (runLine_gathers (Bool.not_eq_true _ ▸ blind) free))
      simp only [free, lines]
      cases adopts : s.adoptGroup f.frame tag.target with
      | mk x rest' =>
        obtain ⟨frame, _ | g⟩ := rest'
        · have settled : f'.waiting = none := by
            rw [same]
            exact (runLine_missing looks (by exact adopts)).trans free
          cases settled.symm.trans waits
        · cases act with
          | next | all => simp [lookFirst?, adopts]
          | _ => cases looks

theorem tasks_joinChildren : (s.joinChildren home t).tasks = s.tasks := by
  unfold joinChildren
  split
  · rfl
  · unfold endPending
    dsimp only
    split
    · rfl
    · split
      · rw [tasks_enqueue]
        rfl
      · rfl

/-- A body that is stored after the next thing that a worker does in it was stored before, or it
has taken a turn. -/
theorem polling_turn (found' : (s.taskStep home t .polling).tasks.get? t = some task')
    (stored' : task'.fiber = some f') :
    (∃ task, s.tasks.get? t = some task ∧ task.fiber = some f') ∨
      ∃ task f, s.tasks.get? t = some task ∧ task.fiber = some f ∧ s.unwinding = none ∧
        s.taskStep home t .polling = s.bodyStep home t f := by
  rw [taskStep] at found' ⊢
  split at found'
  · exact .inl ⟨task', found', stored'⟩
  · rename_i task known
    split at found'
    · obtain ⟨m, -, rfl⟩ := Store.get?_modify_eq_some.1 found'
      simp at stored'
    · rename_i f stored calm
      exact .inr ⟨task, f, known, stored, calm, rfl⟩
    · rw [tasks_joinChildren] at found'
      exact .inl ⟨task', found', stored'⟩

theorem poller_eq (look : s.bodyLook? t f = some l) : l.poller = t := by
  unfold bodyLook? at look
  split at look
  · cases look
  · split at look
    · rename_i v _
      cases wait : v.wait with
      | next | all =>
        rw [wait] at look
        cases look
        rfl
      | filling g plan =>
        rw [wait] at look
        cases plan <;> cases look
        rfl
      | _ =>
        rw [wait] at look
        cases look
    · rename_i tag act rest _ _
      cases act with
      | next | all =>
        simp only [lookFirst?] at look
        split at look <;> cases look
        rfl
      | _ => cases look
    · cases look

end State

/-! ### Whose body changes -/

/-- A body that was there before, or that of a new task, which waits for nothing. -/
def State.Bodied (s : State) (t : TaskId) (f : Fiber) : Prop :=
  (∃ task, s.tasks.get? t = some task ∧ task.fiber = some f) ∨
    s.tasks.get? t = none ∧ f.waiting = none

theorem State.Bodied.of_tasks (same : s'.tasks = s.tasks) (found' : s'.tasks.get? t = some task')
    (stored' : task'.fiber = some f') : s.Bodied t f' :=
  .inl ⟨task', by rwa [← same], stored'⟩

/-- A line makes new bodies, and leaves those alone that are stored. -/
theorem Changes.bodied (formed : Formed s) (hc : Changes c s hand s' hand')
    (found' : s'.tasks.get? t = some task') (stored' : task'.fiber = some f') :
    s.Bodied t f' := by
  cases known : s.tasks.get? t with
  | some task =>
    obtain ⟨ws, o, kept⟩ := (hc.keeps formed).tasks t task known
    cases kept.symm.trans found'
    exact .inl ⟨task, known, stored'⟩
  | none =>
    rcases hc.newborn formed found' with ⟨task, found⟩ | ⟨-, f, stored, free⟩
    · cases known.symm.trans found
    · cases stored.symm.trans stored'
      exact .inr ⟨known, free⟩

theorem Effect.bodied (e : Effect s a s') (found' : s'.tasks.get? t = some task')
    (stored' : task'.fiber = some f') : s.Bodied t f' := by
  obtain ⟨task, found, same | ⟨gone, -⟩⟩ := e.fiber found'
  · exact .inl ⟨task, found, same.symm.trans stored'⟩
  · cases gone.symm.trans stored'

/-- A worker changes the body only that it is in the middle of. -/
theorem Work.bodied (formed : Formed s) (w : Work s home s')
    (found' : s'.tasks.get? t = some task') (stored' : task'.fiber = some f') :
    s.Bodied t f' ∨ s.slice home = some (.task t .polling) := by
  -- one body is stored anew, after a line
  have turn : ∀ {u : TaskId} {x : State} {c : Context} {hand hand' : List Resource}
      {fiber : Option Fiber}, Changes c s hand x hand' →
      (x.modifyTask u fun m => { m with fiber := fiber }).tasks.get? t = some task' →
      s.Bodied t f' ∨ u = t ∧ fiber = some f' := by
    intro u x c hand hand' fiber changes found'
    obtain ⟨m, found, rfl⟩ := Store.get?_modify_eq_some.1 found'
    split at stored'
    · rename_i mine
      exact .inr ⟨mine, stored'⟩
    · exact .inl (changes.bodied formed found stored')
  cases w with
  | next runs polling changes | suspend runs polling changes | pause later runs polling changes =>
    refine (turn changes found').imp_right fun mine => ?_
    rw [← mine.1]
    exact polling
  | ends told runs changes =>
    exact (turn changes found').imp_right fun mine => by cases mine.2
  | handle during changes | hold later during changes | handled result during changes =>
    exact .inl (changes.bodied formed found' stored')
  | endBody trace cancelled during only =>
    obtain ⟨m, found, rfl⟩ := Store.get?_modify_eq_some.1 found'
    refine .inl (.inl ⟨m, found, ?_⟩)
    obtain ⟨o, answer, eq⟩ := only m
    split at stored'
    · rwa [eq] at stored'
    · exact stored'
  | again | drainAgain | markerAgain =>
    refine .inl (.inl ⟨task', ?_, stored'⟩)
    unfold State.enqueue at found'
    split at found' <;> exact found'
  | _ => exact .inl (.inl ⟨task', found', stored'⟩)

/-- The main thread makes new bodies, and leaves those alone that are there. -/
theorem Move.bodied (formed : Formed s) (idle : s.agenda = []) (m : Move s d s' d')
    (found' : s'.tasks.get? t = some task') (stored' : task'.fiber = some f') :
    s.Bodied t f' := by
  cases m with
  | build place batch stem =>
    rcases s.build_cases place batch stem with same | ⟨-, settings, built⟩
    · exact .of_tasks (by rw [same]) found' stored'
    · exact .of_tasks (by rw [built]; rfl) found' stored'
  | start | block | join => exact .of_tasks (State.tasks_start ..) found' stored'
  | startRounds found rounds band =>
    exact .of_tasks (by rw [State.startRounds, State.tasks_start, State.tasks_enqueue]) found'
      stored'
  | @launchRoot _ r _ body =>
    obtain ⟨nodes, trace, -, eq⟩ :=
      State.launch_addNode_eq formed.nodes .normal none r body true
    rw [State.launchRoot, eq, State.tasks_enqueue] at found'
    by_cases new : s.nextNode = t
    · subst new
      rw [Store.get?_set_self] at found'
      cases found'
      cases stored'
      exact .inr ⟨formed.fresh_task, rfl⟩
    · exact .inl ⟨task', (Store.get?_set_of_ne new).symm.trans found', stored'⟩
  | leaveRoot =>
    obtain ⟨m, found, rfl⟩ := Store.get?_modify_eq_some.1 found'
    refine .inl ⟨m, found, ?_⟩
    split at stored' <;> exact stored'
  | close => exact .of_tasks rfl found' stored'
  | line plain => exact (State.plain?_fits idle plain).bodied formed found' stored'
  | @shelve f =>
    exact (State.shelve_changes (c := ⟨.main, none⟩) f s []).bodied formed found' stored'

/-- A body takes a turn in a step. -/
structure State.Turns (s : State) (t : TaskId) (f : Fiber) (s' : State) : Prop where
  /-- A worker is in the middle of the body, which is not panicking. -/
  at_work : ∃ home goal task, s.agenda = [] ∧ s.active = some (home, goal) ∧
    s.slice home = some (.task t .polling) ∧ s.tasks.get? t = some task ∧ task.fiber = some f ∧
    s.unwinding = none ∧ s.step = s.bodyStep home t f
  /-- The step. -/
  step : s' = s.step

/-- A body was there before as it is, or is new, or it has just taken a turn. -/
theorem Transition.bodied (reachable : Reachable s d) (tr : Transition s d s' d')
    (found' : s'.tasks.get? t = some task') (stored' : task'.fiber = some f') :
    s.Bodied t f' ∨ ∃ f, s.Turns t f s' := by
  have sound := reachable.sound
  cases tr with
  | step =>
    have next := State.step_cases sound.wakeful.waitsOnOwn
    generalize stepped : s.step = s' at next found'
    cases next with
    | item first e =>
      subst first
      exact .inl (e.bodied found' stored')
    | rest => exact .inl (.of_tasks rfl found' stored')
    | @work home goal s' idle active work =>
      rcases work.bodied sound.formed found' stored' with old | polling
      · exact .inl old
      · subst stepped
        -- the body that the worker is in the middle of takes its turn
        obtain ⟨rt, built, slice⟩ := State.slice_eq polling
        have turn : s.step = s.taskStep home t .polling := by
          simp only [State.step, idle, active, State.work, built, slice]
        rw [turn] at found'
        rcases State.polling_turn found' stored' with before | ⟨task, f, found, stored, calm, same⟩
        · exact .inl (.inl before)
        · exact .inr ⟨f, ⟨home, goal, task, idle, active, polling, found, stored, calm,
            turn.trans same⟩, rfl⟩
  | stray => exact .inl (.of_tasks rfl found' stored')
  | move rests m =>
    exact .inl (m.bodied sound.formed (State.idle_of_resting rests) found' stored')

/-- A body that waits was there before as it is, or it has just taken a turn. -/
theorem Transition.turns (reachable : Reachable s d) (tr : Transition s d s' d')
    (found' : s'.tasks.get? t = some task') (stored' : task'.fiber = some f')
    (waits : f'.waiting = some w) :
    (∃ task, s.tasks.get? t = some task ∧ task.fiber = some f') ∨ ∃ f, s.Turns t f s' := by
  refine (tr.bodied reachable found' stored').imp_left fun bodied => ?_
  rcases bodied with old | ⟨-, free⟩
  · exact old
  · cases free.symm.trans waits

/-- A body that waits for all results did so before, or it has just looked at a group. -/
theorem Transition.gathering (reachable : Reachable s d) (tr : Transition s d s' d')
    (found' : s'.tasks.get? t = some task') (stored' : task'.fiber = some f')
    (waits : f'.waiting = some w) (all : w.wait.gathers = true) :
    (∃ task f, s.tasks.get? t = some task ∧ task.fiber = some f ∧ f.waiting = some w) ∨
      ∃ l, s.look? = some l ∧ s' = s.step ∧ l.poller = t := by
  rcases tr.turns reachable found' stored' waits with ⟨task, found, stored⟩ | ⟨f, turns⟩
  · exact .inl ⟨task, f', found, stored, waits⟩
  · obtain ⟨home, goal, task, idle, active, polling, found, stored, calm, turn⟩ := turns.at_work
    rw [turns.step, turn] at found'
    rcases State.bodyStep_gathers found' stored' waits all with before | ⟨l, look⟩
    · exact .inl ⟨task, f, found, stored, before⟩
    · refine .inr ⟨l, ?_, turns.step, State.poller_eq look⟩
      simp [State.look?, idle, active, State.sliceLook?, polling, found, stored, calm, look]

/-- A body that waits for all results of a group goes on with that, unless it is gone or has just
looked at the group. -/
theorem Transition.goes_on (reachable : Reachable s d) (tr : Transition s d s' d') {task : Task}
    {own : Bool} {values : List Int64} {failure : Option GroupError}
    (found : s.tasks.get? t = some task) (stored : task.fiber = some f) (waits : f.waiting = some w)
    (wait : w.wait = .all g own values failure) :
    (s'.tasks.get? t).bind Task.fiber = none ∨
      (∃ task' f', s'.tasks.get? t = some task' ∧ task'.fiber = some f' ∧ f'.waiting = some w) ∨
        ∃ l, s.look? = some l ∧ s' = s.step ∧ l.poller = t ∧ l.group = g := by
  rcases fiber' : (s'.tasks.get? t).bind Task.fiber with _ | f'
  · exact .inl rfl
  obtain ⟨task', found', stored'⟩ := Option.bind_eq_some_iff.1 fiber'
  right
  rcases tr.bodied reachable found' stored' with (⟨task₀, found₀, stored₀⟩ | ⟨unmade, -⟩) |
    ⟨f₀, turns⟩
  · cases found.symm.trans found₀
    cases stored.symm.trans stored₀
    exact .inl ⟨task', f, found', stored', waits⟩
  · cases unmade.symm.trans found
  · obtain ⟨home, goal, task₀, idle, active, polling, found₀, stored₀, calm, turn⟩ := turns.at_work
    cases found.symm.trans found₀
    cases stored.symm.trans stored₀
    cases begun : f.begun with
    | false =>
      have stepped := found'
      rw [turns.step, turn, State.bodyStep, begun, if_pos rfl] at stepped
      obtain ⟨m, -, same⟩ := Store.get?_modify_eq_some.1 stepped
      rw [if_pos rfl] at same
      rw [same] at stored'
      cases stored'
      exact .inl ⟨task', { f with begun := true }, found', by rw [same], waits⟩
    | true =>
      refine .inr ⟨⟨s, g, t, some ⟨values, failure⟩⟩, ?_, turns.step, rfl, rfl⟩
      simp [State.look?, idle, active, State.sliceLook?, polling, found, stored, calm,
        State.bodyLook?, begun, waits, State.lookAgain?, wait]

/-! ### Nobody else looks -/

theorem State.mem_of_adoptGroup {frame frame' : Frame} {name : String}
    (adopts : s.adoptGroup frame name = (s', frame', some g)) :
    .group g ∈ frame.resources ∨ .group g ∈ s.shared.resources := by
  unfold adoptGroup at adopts
  split at adopts
  rename_i x adopted moved
  split at adopts <;> cases adopts
  rename_i mine
  unfold adopt at moved
  split at moved
  · rename_i r _ shared
    cases moved
    rw [Frame.find?_bind_self] at mine
    cases mine
    exact .inr (Frame.mem_resources_of_find? shared)
  · cases moved
    exact .inl (Frame.mem_resources_of_find? mine)

/-- A group that a body looks at is in that body or in the shared table. -/
theorem State.look_mine (sound : Sound s d) (look : s.look? = some l) :
    .group l.group ∈ s.shared.resources ∨ ∃ task f, s.tasks.get? l.poller = some task ∧
      task.fiber = some f ∧ .group l.group ∈ f.resources := by
  obtain ⟨home, goal, t, task, f, -, -, -, found, stored, -, begun, look⟩ := look?_eq look
  have poller := poller_eq look
  suffices .group l.group ∈ f.resources ∨ .group l.group ∈ s.shared.resources from
    this.symm.imp_right fun mine => ⟨task, f, by rwa [poller], stored, mine⟩
  have own := (sound.wakeful t task found).own f
  clear found poller
  rw [bodyLook?, if_neg (by rw [begun]; decide)] at look
  -- a waiting line has its group; a new one takes it from the frame or the shared table
  cases hw : f.waiting with
  | some v =>
    have mine := own v stored hw
    simp only [hw] at look
    left
    cases wait : v.wait with
    | next | all =>
      rw [wait] at look mine
      cases look
      exact mine
    | filling g plan =>
      rw [wait] at look mine
      cases plan <;> cases look
      exact mine
    | _ =>
      rw [wait] at look
      cases look
  | none =>
    rw [resources_of_waiting hw]
    cases lines : f.code with
    | nil => simp [hw, lines] at look
    | cons line rest =>
      obtain ⟨tag, act⟩ := line
      simp only [hw, lines] at look
      cases act with
      | next | all =>
        simp only [lookFirst?] at look
        split at look <;> cases look
        rename_i adopts
        exact mem_of_adoptGroup adopts
      | _ => cases look

/-- A group is in one body at most. -/
theorem Sound.one_holder (sound : Sound s d) {task task' : Task} {f' : Fiber} {u : TaskId}
    (found : s.tasks.get? t = some task) (stored : task.fiber = some f)
    (mine : .group g ∈ f.resources) (found' : s.tasks.get? u = some task')
    (stored' : task'.fiber = some f') (mine' : .group g ∈ f'.resources) : t = u := by
  by_contra other
  have held : ∀ {m : Task} {b : Fiber}, m.fiber = some b → .group g ∈ b.resources →
      0 < m.resources.count (.group g) := fun fiber has => by
    rw [Task.resources, fiber]
    exact List.count_pos_iff.2 (by simpa using has)
  have once := sound.own.once (.group g)
  have here := held stored mine
  have there := held stored' mine'
  have := Store.add_le_tally (w := fun _ m => m.resources.count (.group g))
    sound.formed.distinctTasks other found found'
  rw [State.owners, List.count_nil] at once
  omega

/-- Nobody else looks at a group that a line waits for. -/
theorem Sound.look_apart (sound : Sound s d) (look : s.look? = some l) {task : Task}
    (found : s.tasks.get? t = some task) (stored : task.fiber = some f)
    (mine : .group g ∈ f.resources) (other : l.poller ≠ t) : l.group ≠ g := by
  rintro rfl
  rcases State.look_mine sound look with shared | ⟨task', f', found', stored', mine'⟩
  · have once := sound.own.once (.group l.group)
    have here : 0 < task.resources.count (.group l.group) := by
      rw [Task.resources, stored]
      exact List.count_pos_iff.2 (by simpa using mine)
    have there := List.count_pos_iff.2 shared
    have := Store.le_tally (w := fun _ m => m.resources.count (.group l.group))
      sound.formed.distinctTasks found
    rw [State.owners, List.count_nil] at once
    omega
  · exact other (sound.one_holder found' stored' mine' found stored mine)

/-! ### What a line has come to so far -/

/-- What waiting for all results comes to when some were handed on. -/
def Tally.of (rs : List (Except GroupError Int64)) : Tally :=
  rs.foldl Tally.add ⟨[], none⟩

theorem Tally.of_append (rs rs' : List (Except GroupError Int64)) :
    Tally.of (rs ++ rs') = rs'.foldl Tally.add (Tally.of rs) :=
  List.foldl_append

/-- The group whose results a body waits for, if it waits for all results of one. -/
def Wait.allOf? : Wait → Option TaskId
  | .all g .. => some g
  | _ => none

/-- The group whose results the body of a task waits for, if it waits for all results of one. -/
def State.awaits? (s : State) (t : TaskId) : Option TaskId :=
  (((s.tasks.get? t).bind Task.fiber).bind Fiber.waiting).bind fun w => w.wait.allOf?

/-- A line of a task began to wait for all results of a group when a run had come to a state, and
it has gone on with that ever since. -/
structure Begun (g t : TaskId) (before : List State) (s₀ : State) (past : List State) (s : State) :
    Prop where
  /-- It has looked for all results, and had none yet. -/
  look : ∃ l, s₀.look? = some l ∧ l.group = g ∧ l.poller = t ∧ l.tally = some ⟨[], none⟩
  /-- It was not in the middle of that. -/
  first : s₀.awaits? t = none
  /-- It has been so since. -/
  since : ∃ later, s :: past = later ++ s₀ :: before ∧ ∀ x ∈ later, x.awaits? t = some g

/-- What a line has come to is what the group has handed on since the line began to wait. -/
def Tally.Since (g t : TaskId) (past : List State) (s : State) (tally : Tally) : Prop :=
  ∃ before s₀ rs, Begun g t before s₀ past s ∧ gather (State.results g) s past =
    gather (State.results g) s₀ before ++ rs ∧ tally = Tally.of rs

/-- The line goes on waiting, and what was handed on is added. -/
theorem Tally.Since.next {tally : Tally} {rs : List (Except GroupError Int64)}
    (h : Tally.Since g t past s tally) (results : State.results g s s' = rs)
    (waits : s'.awaits? t = some g) :
    Tally.Since g t (s :: past) s' (rs.foldl Tally.add tally) := by
  obtain ⟨before, s₀, rs₀, begun, handed, rfl⟩ := h
  obtain ⟨later, since, waiting⟩ := begun.since
  refine ⟨before, s₀, rs₀ ++ rs, { begun with since := ⟨s' :: later, by rw [since]; rfl, ?_⟩ }, ?_,
    (Tally.of_append _ _).symm⟩
  · exact fun x hx => (List.mem_cons.1 hx).elim (fun now => now ▸ waits) (waiting x)
  · rw [gather_cons, handed, results, List.append_assoc]

/-- A look is that of a line that is in the middle of waiting for all results, or it begins with
nothing. -/
theorem State.look_line (look : s.look? = some l) : ∃ task f, s.tasks.get? l.poller = some task ∧
    task.fiber = some f ∧ ((∃ w own tally, f.waiting = some w ∧ l.tally = some tally ∧
        w.wait = .all l.group own tally.values tally.failure) ∨
      f.gathers = false ∧ (l.tally = none ∨ l.tally = some ⟨[], none⟩)) := by
  obtain ⟨home, goal, t, task, f, -, -, -, found, stored, -, begun, look⟩ := look?_eq look
  refine ⟨task, f, by rwa [poller_eq look], stored, ?_⟩
  rw [bodyLook?, if_neg (by rw [begun]; decide)] at look
  -- only a line in the middle of waiting goes on with something
  cases hw : f.waiting with
  | some v =>
    simp only [hw] at look
    have settled : v.wait.gathers = false → f.gathers = false := fun other => by
      rw [Fiber.gathers, hw, Option.any_some, other]
    cases wait : v.wait with
    | next g =>
      rw [wait] at look
      cases look
      exact .inr ⟨settled (by rw [wait]; rfl), .inl rfl⟩
    | all g own values failure =>
      rw [wait] at look
      cases look
      exact .inl ⟨v, own, ⟨values, failure⟩, rfl, rfl, wait⟩
    | filling g plan =>
      rw [wait] at look
      cases plan <;> cases look
      exact .inr ⟨settled (by rw [wait]; rfl), .inr rfl⟩
    | _ =>
      rw [wait] at look
      cases look
  | none =>
    refine .inr ⟨Fiber.gathers_of_grouped (Fiber.grouped_of_free hw), ?_⟩
    cases lines : f.code with
    | nil => simp [hw, lines] at look
    | cons line rest =>
      obtain ⟨tag, act⟩ := line
      simp only [hw, lines] at look
      cases act with
      | next | all =>
        simp only [lookFirst?] at look
        split at look <;> cases look
        simp
      | _ => cases look

/-- A look goes on where the line has come to, or begins with nothing. -/
theorem State.look_since (look : s.look? = some l) {tally : Tally} (all : l.tally = some tally)
    (pending : ∀ task f w own values failure, s.tasks.get? l.poller = some task →
      task.fiber = some f → f.waiting = some w → w.wait = .all l.group own values failure →
        Tally.Since l.group l.poller past s ⟨values, failure⟩) :
    Tally.Since l.group l.poller past s tally := by
  obtain ⟨task, f, found, stored, ⟨w, own, tally, waits, goes_on, wait⟩ | ⟨settled, begins⟩⟩ :=
    look_line look
  · cases all.symm.trans goes_on
    exact pending task f w own _ _ found stored waits wait
  · obtain rfl : tally = ⟨[], none⟩ := by
      rcases begins with next | nothing
      · cases all.symm.trans next
      · cases all.symm.trans nothing
        rfl
    have first : s.awaits? l.poller = none := by
      rw [awaits?, found, Option.bind_some, stored, Option.bind_some]
      cases waits : f.waiting with
      | none => rfl
      | some w =>
        rw [Fiber.gathers, waits, Option.any_some] at settled
        rw [Option.bind_some]
        cases wait : w.wait with
        | all =>
          rw [wait] at settled
          cases settled
        | _ => rfl
    exact ⟨past, s, [], ⟨⟨l, look, rfl, rfl, all⟩, first, [], rfl, by simp⟩,
      (List.append_nil _).symm, rfl⟩

/-- A line that waits for all results after a look has added what was handed on to what it had
come to. -/
theorem Look.ComesTo.suspends {drained : Bool} (comes : l.ComesTo drained) (free : f.waiting = none)
    {tag : Tag} {attempt : Attempt} {own own' : Bool} {values : List Int64}
    {failure : Option GroupError} (waits : (l.turn f tag attempt own).fiber.waiting = some w)
    (wait : w.wait = .all g own' values failure) : drained = false ∧ l.group = g ∧
      ∃ tally, l.tally = some tally ∧ l.results.foldl Tally.add tally = ⟨values, failure⟩ := by
  have gathers : (l.turn f tag attempt own).fiber.gathers = true := by
    simp [Fiber.gathers, waits, wait, Wait.gathers]
  unfold Look.turn at waits gathers
  cases all : l.tally with
  | none =>
    rw [all] at gathers
    cases gathers.symm.trans (Fiber.gathers_of_grouped (State.awaitNext_grouped free))
  | some tally =>
    simp only [all, State.awaitAll] at waits
    have found := comes.all tally all
    generalize l.state.pollAll l.group l.poller tally = p at waits found
    obtain ⟨x, tally', polled⟩ := p
    cases found
    cases drained with
    | true =>
      have settled := (State.harvest_fiber.trans free).symm.trans waits
      cases settled
    | false =>
      cases waits
      cases wait
      exact ⟨rfl, rfl, tally, rfl, rfl⟩

/-- Whoever waits for all results after a look has kept what was handed on, and some children are
outstanding. -/
theorem Looked.suspends {xs : List Taking} {s₁ : State} (looked : Looked s l xs s₁)
    (at_ : s.LooksAt l) (found' : s.step.tasks.get? l.poller = some task')
    (stored' : task'.fiber = some f') (waits : f'.waiting = some w) {own : Bool}
    {values : List Int64} {failure : Option GroupError}
    (wait : w.wait = .all g own values failure) : s₁.drained l.group = false ∧ l.group = g ∧
      ∃ tally, l.tally = some tally ∧ l.results.foldl Tally.add tally = ⟨values, failure⟩ := by
  obtain ⟨home, f, tag, attempt, own', free, -, -, step⟩ := at_.step
  have same := Turn.fiber_takeEffect (step ▸ found') stored'
  rw [same] at waits
  exact looked.comes.suspends free waits wait

/-- **What a line has come to** that waits for all results of a group is what the group has handed
on since the line began to wait: nobody else has looked at it in the meantime. -/
theorem Trail.waits_since (h : Trail past s d) : ∀ t task f w g own values failure,
    s.tasks.get? t = some task → task.fiber = some f → f.waiting = some w →
      w.wait = .all g own values failure → Tally.Since g t past s ⟨values, failure⟩ := by
  induction h with
  | init => exact fun _ _ _ _ _ _ _ _ known => by cases known
  | @next past s s' d d' h tr ih =>
    intro t task' f' w g own values failure found' stored' waits wait
    have sound := h.reachable.sound
    have awaits : s'.awaits? t = some g := by
      rw [State.awaits?, found', Option.bind_some, stored', Option.bind_some, waits,
        Option.bind_some, wait]
      rfl
    by_cases looking : ∃ l, s.look? = some l ∧ s' = s.step ∧ l.poller = t
    · obtain ⟨l, look, rfl, rfl⟩ := looking
      have at_ := State.step_look sound look
      obtain ⟨xs, s₁, looked⟩ := at_.looked sound h.rolls
      obtain ⟨-, rfl, tally, all, comes⟩ := looked.suspends at_ found' stored' waits wait
      have since := State.look_since look all fun task f w own values failure =>
        ih l.poller task f w l.group own values failure
      rw [← comes]
      exact since.next (looked.results look) awaits
    · have all : w.wait.gathers = true := by
        rw [wait]
        rfl
      obtain ⟨task, f, found, stored, waits'⟩ :=
        (tr.gathering h.reachable found' stored' waits all).resolve_right looking
      have nothing : State.results g s s' = [] := by
        rcases tr.look_or_uncollected h.reachable h.rolls with ⟨l, look, rfl⟩ | ⟨blind, -⟩
        · have mine := (sound.wakeful t task found).own f w stored waits'
          rw [wait] at mine
          exact Looked.results_of_ne look (sound.look_apart look found stored mine
            fun same => looking ⟨l, look, rfl, same⟩)
        · exact State.results_of_blind blind
      exact (ih t task f w g own values failure found stored waits' wait).next nothing awaits

/-- What a look has come to when it begins is what was handed on since its line began to wait. -/
theorem Trail.look_since (h : Trail past s d) (look : s.look? = some l) {tally : Tally}
    (all : l.tally = some tally) : Tally.Since l.group l.poller past s tally :=
  State.look_since look all fun task f w own values failure =>
    h.waits_since l.poller task f w l.group own values failure

end Nursery
