import Nursery.Proofs.Group.Alarm
import Nursery.Proofs.Group.Waiting

/-!
# The group of a line

A line may make a group for itself, fill it and wait for all its results.  The group is then dropped
by the line, and in the meantime it is attached to the task whose body the line is in: that has made
it.  Nobody else is ever registered with it.

* `State.bodyStep_own` : a line has the group from the line before, or has just made it.
* `State.registered?` : who is registered with a group.
* `Transition.registered` : only who looks at a group comes to be registered with it.
* `Reachable.made_own` : **the task has made it**, and is the only one to be registered with it.
-/

namespace Nursery

variable {s s' : State} {d d' : Desk} {g h t : TaskId} {home : RuntimeId} {f f' : Fiber}
  {w : Waiting} {task' : Task} {tag : Tag} {attempt : Attempt} {u : TaskId} {l : Look} {a : Action}
  {c : Context} {hand hand' base : List Resource}

theorem Fiber.own?_of_free (free : f.waiting = none) : f.own? = none := by
  simp [own?, free]

theorem Fiber.own?_of_grouped (other : f.grouped = false) : f.own? = none := by
  cases hw : f.waiting with
  | none => exact own?_of_free hw
  | some w =>
    rw [grouped, hw, Option.any_some] at other
    rw [own?, hw, Option.bind_some]
    cases wait : w.wait <;> rw [wait] at other <;> first | rfl | cases other

namespace State

/-! ### Turns -/

theorem awaitAll_own {own : Bool} {tally : Tally} (free : f.waiting = none)
    (mine : (s.awaitAll t f tag attempt g own tally).fiber.own? = some h) : own = true ∧ h = g := by
  unfold awaitAll at mine
  dsimp only at mine
  split at mine
  · rw [Fiber.own?_of_free (harvest_fiber.trans free)] at mine
    cases mine
  · cases own with
    | true => exact ⟨rfl, (Option.some.inj mine).symm⟩
    | false => cases mine
  · rw [Fiber.own?_of_free free] at mine
    cases mine

theorem fill_own {plan : List PlanItem} (free : f.waiting = none)
    (mine : (s.fill t f tag attempt g plan).fiber.own? = some h) : h = g := by
  cases plan with
  | nil => exact (awaitAll_own free mine).2
  | cons item rest =>
    unfold fill at mine
    dsimp only at mine
    split at mine
    · exact (Option.some.inj mine).symm
    · exact (Option.some.inj mine).symm
    · cases mine
    · exact (Option.some.inj mine).symm
    · exact (Option.some.inj mine).symm

theorem poll_own (mine : (s.poll t f w).fiber.own? = some h) : w.wait.own? = some h := by
  cases wait : w.wait with
  | filling g plan =>
    simp only [poll, wait] at mine
    rw [fill_own rfl mine]
    rfl
  | all g own values failure =>
    simp only [poll, wait] at mine
    obtain ⟨rfl, rfl⟩ := awaitAll_own rfl mine
    rfl
  | _ =>
    rw [Fiber.own?_of_grouped (poll_grouped (by rw [wait]; rfl))] at mine
    cases mine

theorem runLine_own (formed : Formed s) {act : Act} (free : f.waiting = none)
    (mine : (s.runLine home t f tag act).fiber.own? = some h) : h = s.nextNode ∧
    (s.runLine home t f tag act).state.origin h = some (.group, some t) := by
  cases act with
  | withGroup plan attempt =>
    cases mine
    refine ⟨rfl, ?_⟩
    obtain ⟨nodes, trace, priority, grown, eq⟩ :=
      State.makeGroup_eq formed.nodes ⟨.task t, some home⟩ home
    obtain ⟨b, new⟩ := grown.new
    change ((s.makeGroup ⟨.task t, some home⟩ home).nodes.get? s.nextNode).map _ = _
    rw [eq]
    exact congrArg _ new
  | all attempt =>
    simp only [runLine] at mine
    split at mine
    · cases (awaitAll_own (by exact free) mine).1
    · cases (Fiber.own?_of_free (by exact free)).symm.trans mine
  | next attempt =>
    simp only [runLine] at mine
    split at mine
    · cases (Fiber.own?_of_grouped (awaitNext_grouped (by exact free))).symm.trans mine
    · cases (Fiber.own?_of_free (by exact free)).symm.trans mine
  | _ => cases (Fiber.own?_of_grouped (runLine_grouped rfl (by simp) free)).symm.trans mine

/-- A body that has a group of its own after its turn had it before, or has made it. -/
theorem bodyStep_own (formed : Formed s)
    (found' : (s.bodyStep home t f).tasks.get? t = some task') (stored' : task'.fiber = some f')
    (mine : f'.own? = some h) : f.own? = some h ∨
      s.nodes.get? h = none ∧ (s.bodyStep home t f).origin h = some (.group, some t) := by
  unfold bodyStep at found' ⊢
  split at found'
  · left
    obtain ⟨m, -, rfl⟩ := Store.get?_modify_eq_some.1 found'
    simp only [if_true, Option.some.injEq] at stored'
    rw [← stored'] at mine
    exact mine
  · rename_i begun
    rw [if_neg begun]
    split at found'
    · rename_i v hv
      rw [Turn.fiber_takeEffect found' stored'] at mine
      left
      rw [Fiber.own?, hv]
      exact poll_own mine
    · rename_i free _
      rw [Turn.fiber_takeEffect found' stored'] at mine
      cases (Fiber.own?_of_free free).symm.trans mine
    · rename_i tag act rest free lines
      rw [Turn.fiber_takeEffect found' stored'] at mine
      right
      obtain ⟨rfl, made⟩ := runLine_own formed (f := { f with code := rest }) free mine
      refine ⟨fresh_nextNode formed.nodes, ?_⟩
      rw [origin, Turn.nodes_takeEffect]
      exact made

end State

/-! ### Who is registered -/

namespace State

/-- The task that is registered with a group. -/
def registered? (s : State) (g : TaskId) : Option TaskId :=
  (s.signals.get? g).bind Signal.waker

theorem awaitSignal_registered (now : (s.awaitSignal h t).registered? g = some u) :
    s.registered? g = some u ∨ h = g ∧ t = u := by
  obtain ⟨m', found', waits⟩ := Option.bind_eq_some_iff.1 now
  obtain ⟨m, found, rfl⟩ := Store.get?_modify_eq_some.1 found'
  split at waits
  · rename_i same
    exact .inr ⟨same, Option.some.inj waits⟩
  · exact .inl (Option.bind_eq_some_iff.2 ⟨m, found, waits⟩)

/-- To collect a child neither registers anybody nor leaves anything to be done, and no worker
moves. -/
theorem collect_quiet (s : State) (g : TaskId) (i : Nat) :
    (s.collect g i).1.signals = s.signals ∧ (s.collect g i).1.agenda = s.agenda ∧
      (s.collect g i).1.runtimes = s.runtimes := by
  unfold collect
  split
  · exact ⟨rfl, rfl, rfl⟩
  · dsimp only
    split
    · exact ⟨rfl, rfl, rfl⟩
    · rename_i t _
      split
      · generalize counted : (s.modifyGroup g fun m => { m with remaining := m.remaining - 1 }) = x
        have taken : (x.takeOutcome t).1.signals = s.signals ∧
            (x.takeOutcome t).1.agenda = s.agenda ∧
              (x.takeOutcome t).1.runtimes = s.runtimes := by
          rw [← counted]
          exact ⟨rfl, rfl, rfl⟩
        generalize x.takeOutcome t = p at taken ⊢
        obtain ⟨y, _ | e | value⟩ := p
        · exact taken
        · dsimp only
          split
          · exact taken
          · split <;> exact taken
        · exact taken
      · exact ⟨rfl, rfl, rfl⟩

theorem collect_registered {is : List Nat} {i : Nat} {x : State}
    {result : Option (Except GroupError Int64)}
    (collects : (s.modifySignal h fun m => { m with completed := is }).collect h i = (x, result)) :
    (∀ g, x.registered? g = s.registered? g) ∧ x.agenda = s.agenda ∧ x.runtimes = s.runtimes := by
  obtain ⟨signals, quiet⟩ :=
    collect_quiet (s.modifySignal h fun m => { m with completed := is }) h i
  rw [collects] at signals quiet
  refine ⟨fun g => ?_, quiet⟩
  rw [registered?, signals, State.modifySignal, Store.get?_modify]
  split
  · rename_i same
    subst same
    rw [registered?]
    cases s.signals.get? h <;> rfl
  · rfl

theorem nextAmong_registered (is : List Nat) : ∀ s : State,
    (nextAmong h t is s).1.registered? g = some u → s.registered? g = some u ∨ h = g ∧ t = u := by
  induction is with
  | nil => exact fun _ now => awaitSignal_registered now
  | cons i is ih =>
    intro s now
    rw [nextAmong] at now
    split at now
    · rename_i collects
      exact .inl (((collect_registered collects).1 g).symm.trans now)
    · rename_i collects
      exact (ih _ now).imp_left ((collect_registered collects).1 g).symm.trans

theorem allAmong_registered (is : List Nat) : ∀ (tally : Tally) (s : State),
    (allAmong h t is tally s).1.registered? g = some u →
      s.registered? g = some u ∨ h = g ∧ t = u := by
  induction is with
  | nil => exact fun _ _ now => awaitSignal_registered now
  | cons i is ih =>
    intro tally s now
    rw [allAmong] at now
    split at now <;> rename_i collects <;>
      exact (ih _ _ now).imp_left ((collect_registered collects).1 g).symm.trans

theorem allAmong_quiet (is : List Nat) : ∀ (tally : Tally) (s : State),
    (allAmong h t is tally s).1.agenda = (s.registered? h).toList.map .forget ++ s.agenda ∧
      (allAmong h t is tally s).1.runtimes = s.runtimes := by
  induction is with
  | nil => exact fun _ _ => ⟨rfl, rfl⟩
  | cons i is ih =>
    intro tally s
    rw [allAmong]
    split <;> rename_i collects <;>
      obtain ⟨registered, agenda, runtimes⟩ := collect_registered collects <;>
      rw [← registered, ← agenda, ← runtimes] <;> exact ih _ _

end State

/-- The turn of a body registers nobody, apart from the line that was run. -/
theorem Turn.signals_takeEffect (turn : Turn) (home : RuntimeId) (t : TaskId) :
    (turn.takeEffect home t).signals = turn.state.signals := by
  obtain ⟨s, f, after, flow⟩ := turn
  cases flow <;> rfl

/-- Whoever is registered after a look was so before, or has looked. -/
theorem Look.registered (now : l.found.registered? g = some u) :
    l.state.registered? g = some u ∨ l.group = g ∧ l.poller = u := by
  unfold Look.found at now
  split at now
  · exact State.nextAmong_registered _ _ now
  · exact State.allAmong_registered _ _ _ now

/-- A line that does not look at a group registers nobody. -/
theorem Change.registered (formed : Formed s) (blind : ¬ s.Looks c) (hc : Change c s hand s' hand')
    (now : s'.registered? g = some u) : s.registered? g = some u := by
  cases hc with
  | listen _ _ _ _ fair => exact absurd fair blind
  | draw _ _ fair => exact absurd fair blind
  | @spawn home parent priority body =>
    obtain ⟨nodes, trace, -, eq⟩ :=
      State.launch_addNode_eq formed.nodes priority parent home body false
    obtain ⟨runtimes, agenda, queued⟩ := State.enqueue_eq _ home priority (.task s.nextNode)
    rw [eq, queued] at now
    exact now
  | @add g group priority body =>
    obtain ⟨nodes, trace, p, -, eq⟩ :=
      State.addChild_eq formed.nodes formed.fresh_task g group priority body
    obtain ⟨runtimes, agenda, queued⟩ := State.enqueue_eq _ group.home p (.task s.nextNode)
    rw [eq, queued] at now
    exact now
  | @group home =>
    obtain ⟨nodes, trace, priority, -, eq⟩ := State.makeGroup_eq formed.nodes c home
    rw [eq, State.registered?, Store.get?_set] at now
    split at now
    · cases now
    · exact now
  | call | send =>
    obtain ⟨actors, runtimes, agenda, eq⟩ := State.post_eq _ _ _ _
    rw [eq] at now
    exact now
  | _ => exact now

theorem Changes.registered (formed : Formed s) (seat : Seated s c base) (blind : ¬ s.Looks c)
    (hc : Changes c s hand s' hand') (now : s'.registered? g = some u) :
    s.registered? g = some u := by
  have key := hc.invariant (I := fun x _ => (Formed x ∧ Keeps s x) ∧
    (x.registered? g = some u → s.registered? g = some u)) (fun {x x' hand hand'} hc h => ?_)
    ⟨⟨formed, .refl s⟩, id⟩
  · exact key.2 now
  · obtain ⟨⟨formed', keeps⟩, before⟩ := h
    exact ⟨⟨formed'.change hc, keeps.trans (.change formed' hc)⟩,
      fun now => before (hc.registered formed' (seat.blind keeps blind) now)⟩

/-- An item of the agenda registers nobody. -/
theorem Effect.registered (e : Effect s a s') (now : s'.registered? g = some u) :
    s.registered? g = some u := by
  obtain ⟨signal, found, waits⟩ := Option.bind_eq_some_iff.1 now
  exact Option.bind_eq_some_iff.2 (Tether.waits_effect e found waits)

/-- What else a worker does registers nobody. -/
theorem Work.registered (formed : Formed s) (blind : ∀ t, ¬ s.Looks ⟨.task t, some home⟩)
    (w : Work s home s') (now : s'.registered? g = some u) : s.registered? g = some u := by
  have deaf : ∀ {a : ActorId}, ¬ s.Looks ⟨.actor a, some home⟩ := by
    rintro a ⟨⟨home, t, task, f, here, -⟩, -⟩
    cases here
  cases w with
  | next runs _ changes | suspend runs _ changes | pause _ runs _ changes | ends _ runs changes =>
    exact changes.registered formed (.body runs) (blind _) now
  | handle during changes | hold _ during changes | handled _ during changes =>
    exact changes.registered formed (.handler during) deaf now
  | again | drainAgain | markerAgain =>
    unfold State.enqueue at now
    split at now <;> exact now
  | _ => exact now

/-- The main thread registers nobody. -/
theorem Move.registered (formed : Formed s) (idle : s.agenda = []) (m : Move s d s' d')
    (now : s'.registered? g = some u) : s.registered? g = some u := by
  have deaf : ¬ s.Looks { who := .main } := by
    rintro ⟨⟨home, t, task, f, here, -⟩, -⟩
    cases here
  have start : ∀ {x : State} {r : RuntimeId} {goal : Goal},
      (x.start r goal).registered? g = some u → x.registered? g = some u := by
    intro x r goal now
    obtain ⟨trace, eq⟩ := x.start_eq r goal
    rwa [eq] at now
  cases m with
  | build place batch stem =>
    rcases s.build_cases place batch stem with same | ⟨-, settings, built⟩
    · rwa [same] at now
    · rw [built] at now
      exact now
  | start | block | join => exact start now
  | startRounds =>
    rw [State.startRounds] at now
    have queued := start now
    unfold State.enqueue at queued
    split at queued <;> exact queued
  | @launchRoot _ r _ body =>
    obtain ⟨nodes, trace, -, eq⟩ := State.launch_addNode_eq formed.nodes .normal none r body true
    obtain ⟨runtimes, agenda, queued⟩ := State.enqueue_eq _ r .normal (.task s.nextNode)
    rw [State.launchRoot, eq, queued] at now
    exact now
  | leaveRoot | close => exact now
  | line plain => exact (State.plain?_fits idle plain).registered formed .main deaf now
  | @shelve f =>
    exact (State.shelve_changes (c := ⟨.main, none⟩) f s []).registered formed .main deaf now

/-- **Only who looks at a group comes to be registered with it.** -/
theorem Transition.registered (reachable : Reachable s d) (tr : Transition s d s' d')
    (now : s'.registered? g = some u) : s.registered? g = some u ∨
      ∃ l, s.look? = some l ∧ s' = s.step ∧ l.group = g ∧ l.poller = u := by
  have sound := reachable.sound
  cases tr with
  | stray => exact .inl now
  | move rests m => exact .inl (m.registered sound.formed (State.idle_of_resting rests) now)
  | step =>
    cases look : s.look? with
    | some l =>
      have at_ := State.step_look sound look
      obtain ⟨home, f, tag, attempt, own, -, -, -, step⟩ := at_.step
      obtain ⟨shared, eq⟩ := at_.state
      rw [State.registered?, step, Turn.signals_takeEffect,
        (l.turn_state f tag attempt own).1] at now
      rcases Look.registered now with before | ⟨mine, me⟩
      · rw [eq] at before
        exact .inl before
      · exact .inr ⟨l, rfl, rfl, mine, me⟩
    | none =>
      left
      by_cases looks : ∃ home goal t, s.agenda = [] ∧ s.active = some (home, goal) ∧
          s.Looks ⟨.task t, some home⟩
      · obtain ⟨home, goal, t, idle, active, looks⟩ := looks
        obtain ⟨-, -, -, same⟩ := State.step_missing idle active looks look
        rwa [State.registered?, same] at now
      · have next := State.step_cases sound.wakeful.waitsOnOwn
        generalize s.step = s' at next now
        cases next with
        | item first e =>
          subst first
          exact e.registered now
        | work idle active w =>
          exact w.registered sound.formed (fun t blind => looks ⟨_, _, t, idle, active, blind⟩) now
        | rest => exact now

/-! ### Along a run -/

/-- What a node stands for and was attached to stays so. -/
theorem Lasts.origin (lasts : Lasts s s') {o : NodeKind × Option TaskId}
    (made : s.origin h = some o) : s'.origin h = some o := by
  obtain ⟨node, found, rfl⟩ := Option.map_eq_some_iff.1 made
  obtain ⟨node', found', same⟩ := lasts h node found
  rw [State.origin, found', Option.map_some, same.kind, same.parent]

/-- **The group of a line was made by the task** whose body the line is in. -/
theorem Reachable.made_own (reachable : Reachable s d) (own : s.ownGroup? t = some g) :
    s.origin g = some (.group, some t) := by
  induction reachable generalizing t with
  | init => cases own
  | @next s s' d d' reachable tr ih =>
    have lasts := tr.lasts reachable.sound
    obtain ⟨f', fiber', mine⟩ := Option.bind_eq_some_iff.1 own
    obtain ⟨task', found', stored'⟩ := Option.bind_eq_some_iff.1 fiber'
    obtain ⟨w, waits, -⟩ := Option.bind_eq_some_iff.1 mine
    have before : ∀ task f, s.tasks.get? t = some task → task.fiber = some f → f.own? = some g →
        s'.origin g = some (.group, some t) := fun task f found stored mine =>
      lasts.origin (ih (by rw [State.ownGroup?, found, Option.bind_some, stored]; exact mine))
    rcases tr.turns reachable found' stored' waits with ⟨task, found, stored⟩ | ⟨f, turns⟩
    · exact before task f' found stored mine
    · obtain ⟨home, goal, task, -, -, -, found, stored, -, turn⟩ := turns.at_work
      have next := turns.step.trans turn
      rw [next] at found'
      rcases State.bodyStep_own reachable.sound.formed found' stored' mine with old | ⟨-, new⟩
      · exact before task f found stored old
      · rw [next]
        exact new

/-- The group of a line belongs to the body. -/
theorem Fiber.own_mem (own : f.own? = some g) : .group g ∈ f.resources := by
  obtain ⟨w, waits, mine⟩ := Option.bind_eq_some_iff.1 own
  have owned : .group g ∈ w.wait.resources := by
    unfold Wait.own? at mine
    split at mine <;> rename_i wait <;> cases mine <;> rw [wait] <;> exact List.mem_singleton_self _
  rw [resources, waits]
  exact List.mem_append_left _ owned

/-- **Nobody else is registered with the group of a line.** -/
theorem Trail.registered_own {past : List State} (h : Trail past s d) (own : s.ownGroup? t = some g)
    (waits : s.registered? g = some u) : u = t := by
  induction h generalizing t u with
  | init => cases own
  | @next past s s' d d' h tr ih =>
    have sound := h.reachable.sound
    obtain ⟨f', fiber', mine⟩ := Option.bind_eq_some_iff.1 own
    obtain ⟨task', found', stored'⟩ := Option.bind_eq_some_iff.1 fiber'
    obtain ⟨w, waiting, -⟩ := Option.bind_eq_some_iff.1 mine
    -- who is registered was so before, or has just looked
    have old : ∀ task f, s.tasks.get? t = some task → task.fiber = some f → f.own? = some g →
        u = t := by
      intro task f found stored mine
      rcases tr.registered h.reachable waits with before | ⟨l, look, -, rfl, rfl⟩
      · exact ih (by rw [State.ownGroup?, found, Option.bind_some, stored]; exact mine) before
      · by_contra other
        exact sound.look_apart look found stored (Fiber.own_mem mine) other rfl
    rcases tr.turns h.reachable found' stored' waiting with ⟨task, found, stored⟩ | ⟨f, turns⟩
    · exact old task f' found stored mine
    · obtain ⟨home, goal, task, -, active, during, found, stored, -, turn⟩ := turns.at_work
      rw [turns.step.trans turn] at found'
      rcases State.bodyStep_own sound.formed found' stored' mine with before | ⟨fresh, -⟩
      · exact old task f found stored before
      · rcases tr.registered h.reachable waits with before | ⟨l, look, -, -, rfl⟩
        · rw [State.registered?, (h.rolls.fresh g fresh).2.2] at before
          cases before
        · obtain ⟨home', goal', v, task', f', -, active', during', -, -, -, -, looks⟩ :=
            State.look?_eq look
          cases active.symm.trans active'
          cases during.symm.trans during'
          exact State.poller_eq looks

end Nursery
