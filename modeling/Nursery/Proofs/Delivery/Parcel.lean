import Nursery.Proofs.Cancellation
import Nursery.Proofs.Group.Account
import Nursery.Proofs.Invariant.Halted
import Nursery.Proofs.Step.Ending

/-!
# What becomes of an outcome

A task is made without an outcome.  When its body is over and the frame is gone, the worker gives
it one, and from then on it can only be taken, by somebody who finds that the task has ended.

* `Slice.endings`, `State.endings` : how a body ended whose end is kept.
* `State.produced`, `State.taken` : the outcome that a task is given, and the one that is taken.
* `Task.Keeps` : what a transition may do with the outcome of a task that it does not end.
* `Disposes` : what a transition does with the outcome of a task.
* `Transition.disposes` : it does nothing else.
-/

namespace Nursery

/-- How the body of a task ended whose end is kept between two points of a slice. -/
def Slice.endings (t : TaskId) (unwinding : Option String) :
    Option Slice → Option Slice → List Ending
  | some (.task u (.ended ending)), some (.task _ .joining) =>
    if u = t then [State.endingOf unwinding ending] else []
  | _, _ => []

namespace State

/-- How the body of a task ended whose end is kept in a transition. -/
def endings (t : TaskId) (s s' : State) : List Ending :=
  match s.thread with
  | some r => Slice.endings t s.unwinding (s.slice r) (s'.slice r)
  | none => []

/-- The main thread is blocked on a task. -/
def blocks (s : State) (t : TaskId) : Bool :=
  (s.tasks.get? t).any Task.blocking

/-- The outcome that a task is given in a transition. -/
def produced (t : TaskId) (s s' : State) : List (Except TaskError Int64) :=
  (endings t s s').map (Ending.given (s.blocks t))

/-- The outcome of a task that is taken in a transition. -/
def taken (t : TaskId) (s s' : State) : List (Except TaskError Int64) :=
  match s.tasks.get? t, s'.tasks.get? t with
  | some m, some m' => if m'.outcome.isNone then m.outcome.toList else []
  | _, _ => []

end State

/-- A task with another state than before: its outcome may be taken if it has ended, and its body
may be over. -/
structure Task.Keeps (s : State) (t : TaskId) (m m' : Task) : Prop where
  /-- Its outcome stays or is taken. -/
  outcome : m'.outcome = m.outcome ∨ m'.outcome = none ∧ (s.phase t).isTerminal = true
  /-- The main thread is given nothing. -/
  answer : m'.answer = m.answer
  /-- Nobody else is blocked on it. -/
  blocking : m'.blocking = m.blocking
  /-- It does not get a body again. -/
  fiber : m.fiber = none → m'.fiber = none
  /-- When it has ended, nobody is registered with it any more. -/
  waiters : (s.phase t).isTerminal = true → m'.waiters ⊆ m.waiters

/-- A task is as it was made. -/
structure Task.Fresh (m : Task) : Prop where
  /-- It has no outcome. -/
  outcome : m.outcome = none
  /-- The main thread was given nothing. -/
  answer : m.answer = none
  /-- It has a body. -/
  fiber : m.fiber ≠ none
  /-- It has a handle. -/
  handle : m.handleDropped = false
  /-- Nothing was reported of it. -/
  reported : m.reported = false

/-- What a transition does with the outcome of a task. -/
inductive Disposes (t : TaskId) (s s' : State) : Prop where
  /-- The task is not known. -/
  | absent (gone : s'.tasks.get? t = none) (calm : State.endings t s s' = [])
  /-- The task is new. -/
  | made {m' : Task} (unmade : s.nodes.get? t = none) (found' : s'.tasks.get? t = some m')
      (fresh : m'.Fresh) (calm : State.endings t s s' = [])
  /-- The task goes on, or somebody takes its outcome. -/
  | goes {m m' : Task} (found : s.tasks.get? t = some m) (found' : s'.tasks.get? t = some m')
      (keeps : m.Keeps s t m') (keeping : s'.Keeping t → s.Keeping t ∨ m.fiber ≠ none)
      (calm : State.endings t s s' = [])
  /-- The end of its body is kept. -/
  | ends {m : Task} {ending : Ending} (found : s.tasks.get? t = some m)
      (found' : s'.tasks.get? t = some (ending.keep m.blocking m)) (keeping : s.Keeping t)
      (past : ¬ s'.Keeping t) (seen : State.endings t s s' = [ending])

variable {s s' s'' : State} {d d' : Desk} {c : Context} {hand hand' : List Resource} {a : Action}
  {home : RuntimeId} {goal : Goal} {t u : TaskId} {m m' m'' : Task}

namespace Task.Keeps

theorem refl (s : State) (t : TaskId) (m : Task) : m.Keeps s t m :=
  ⟨.inl rfl, rfl, rfl, id, fun _ => List.Subset.refl _⟩

theorem trans (h : m.Keeps s t m') (h' : m'.Keeps s' t m'')
    (same : (s'.phase t).isTerminal = (s.phase t).isTerminal) : m.Keeps s t m'' where
  outcome := by
    rw [← same]
    rcases h'.outcome with eq | taken
    · rw [eq, same]
      exact h.outcome
    · exact .inr taken
  answer := h'.answer.trans h.answer
  blocking := h'.blocking.trans h.blocking
  fiber none := h'.fiber (h.fiber none)
  waiters ended := List.Subset.trans (h'.waiters (same.trans ended)) (h.waiters ended)

end Task.Keeps

namespace State

theorem endings_of_slices (same : ∀ r, s'.slice r = s.slice r) : endings t s s' = [] := by
  unfold endings
  split
  · rw [same]
    generalize s.slice _ = x
    rcases x with _ | ⟨u, _ | _ | _ | _ | _⟩ | _ <;> rfl
  · rfl

theorem endings_of_slice (active : s.active = some (home, goal))
    (other : ∀ ending, s.slice home ≠ some (.task t (.ended ending))) : endings t s s' = [] := by
  have thread : s.thread = some home := by simp [State.thread, active]
  unfold endings
  rw [thread]
  dsimp only
  generalize hx : s.slice home = x at other
  generalize s'.slice home = y
  unfold Slice.endings
  split
  · rename_i u ending _
    refine if_neg fun same => other ending ?_
    rw [same]
  · rfl

end State

/-! ### The agenda -/

/-- An item of the agenda leaves the outcome of a task alone. -/
theorem Effect.disposes (e : Effect s a s') (found' : s'.tasks.get? t = some m') :
    ∃ m, s.tasks.get? t = some m ∧ m.Keeps s t m' := by
  cases e with
  | resume =>
    rw [State.tasks_enqueue] at found'
    exact ⟨m', found', .refl s t m'⟩
  | wakeWaiters =>
    obtain ⟨m, found, rfl⟩ := Store.get?_modify_eq_some.1 found'
    refine ⟨m, found, ?_⟩
    split
    · exact ⟨.inl rfl, rfl, rfl, id, fun _ => List.nil_subset _⟩
    · exact .refl s t m
  | forget =>
    obtain ⟨m, found, rfl⟩ := Store.get?_modify_eq_some.1 found'
    refine ⟨m, found, ?_⟩
    split
    · exact ⟨.inl rfl, rfl, rfl, fun _ => rfl, fun _ => List.Subset.refl _⟩
    · exact .refl s t m
  | reportFailure trace only | dropHandle trace only =>
    obtain ⟨m, found, rfl⟩ := Store.get?_modify_eq_some.1 found'
    refine ⟨m, found, ?_⟩
    obtain ⟨b, eq⟩ := only m
    split
    · rw [eq]
      exact ⟨.inl rfl, rfl, rfl, id, fun _ => List.Subset.refl _⟩
    · exact .refl s t m
  | bury =>
    rw [State.doFirst, Store.get?_erase] at found'
    split at found'
    · cases found'
    · exact ⟨m', found', .refl s t m'⟩
  | _ => exact ⟨m', found', .refl s t m'⟩

/-! ### Lines -/

/-- A line makes tasks, and takes the outcome of such as have ended. -/
theorem Change.disposes (formed : Formed s) (hc : Change c s hand s' hand')
    (found' : s'.tasks.get? t = some m') :
    (∃ m, s.tasks.get? t = some m ∧ m.Keeps s t m') ∨ s.nodes.get? t = none ∧ m'.Fresh := by
  -- where the task stays as it is
  have same : s.tasks.get? t = some m' →
      (∃ m, s.tasks.get? t = some m ∧ m.Keeps s t m') ∨ s.nodes.get? t = none ∧ m'.Fresh :=
    fun found => .inl ⟨m', found, .refl s t m'⟩
  -- where one task is new, with its node
  have launched : ∀ {m : Task}, m.Fresh → (s.tasks.set s.nextNode m).get? t = some m' →
      (∃ m, s.tasks.get? t = some m ∧ m.Keeps s t m') ∨ s.nodes.get? t = none ∧ m'.Fresh := by
    intro m fresh now
    by_cases new : s.nextNode = t
    · subst new
      rw [Store.get?_set_self] at now
      cases now
      exact .inr ⟨State.fresh_nextNode formed.nodes, fresh⟩
    · exact same ((Store.get?_set_of_ne new).symm.trans now)
  cases hc with
  | @spawn home parent priority body =>
    obtain ⟨nodes, trace, -, eq⟩ :=
      State.launch_addNode_eq formed.nodes priority parent home body false
    rw [eq, State.tasks_enqueue] at found'
    exact launched ⟨rfl, rfl, by simp, rfl, rfl⟩ found'
  | @add g group priority body =>
    obtain ⟨nodes, trace, p, -, eq⟩ :=
      State.addChild_eq formed.nodes formed.fresh_task g group priority body
    rw [eq, State.tasks_enqueue] at found'
    exact launched ⟨rfl, rfl, by simp, rfl, rfl⟩ found'
  | @group home =>
    obtain ⟨nodes, trace, priority, -, eq⟩ := State.makeGroup_eq formed.nodes c home
    rw [eq] at found'
    exact same found'
  | call | send =>
    obtain ⟨actors, runtimes, agenda, eq⟩ := State.post_eq _ _ _ _
    rw [eq] at found'
    exact same found'
  | register me mine ongoing =>
    obtain ⟨m, found, rfl⟩ := Store.get?_modify_eq_some.1 found'
    refine .inl ⟨m, found, ?_⟩
    split
    · rename_i looked
      subst looked
      exact ⟨.inl rfl, rfl, rfl, id, fun ended => by cases ongoing.symm.trans ended⟩
    · exact .refl s t m
  | take ended =>
    obtain ⟨m, found, rfl⟩ := Store.get?_modify_eq_some.1 found'
    refine .inl ⟨m, found, ?_⟩
    split
    · rename_i mine
      subst mine
      exact ⟨.inr ⟨rfl, ended⟩, rfl, rfl, id, fun _ => List.Subset.refl _⟩
    · exact .refl s t m
  | _ => exact same found'

/-- A line takes no body from a new task, and does not drop its handle. -/
theorem Changes.fresh (formed : Formed s) (hc : Changes c s hand s' hand')
    (found : s.tasks.get? t = some m) (found' : s'.tasks.get? t = some m') (fresh : m.Fresh)
    (keeps : m.Keeps s t m') : m'.Fresh := by
  obtain ⟨ws, o, kept⟩ := (hc.keeps formed).tasks t m found
  cases kept.symm.trans found'
  exact { fresh with
    outcome := keeps.outcome.elim (fun same => same.trans fresh.outcome) And.left }

theorem Changes.disposes (formed : Formed s) (hc : Changes c s hand s' hand')
    (found' : s'.tasks.get? t = some m') :
    (∃ m, s.tasks.get? t = some m ∧ m.Keeps s t m') ∨ s.nodes.get? t = none ∧ m'.Fresh := by
  have key := hc.invariant
    (I := fun x _ => (Formed x ∧ Keeps s x) ∧ ∀ m', x.tasks.get? t = some m' →
    (∃ m, s.tasks.get? t = some m ∧ m.Keeps s t m') ∨ s.nodes.get? t = none ∧ m'.Fresh)
    (fun {x x' hand hand'} hc h => ?_)
    ⟨⟨formed, .refl s⟩, fun m known => .inl ⟨m, known, .refl s t m⟩⟩
  · exact key.2 m' found'
  · obtain ⟨⟨formed', keeps⟩, before⟩ := h
    have later := Keeps.change formed' hc
    refine ⟨⟨formed'.change hc, keeps.trans later⟩, fun m'' found'' => ?_⟩
    rcases hc.disposes formed' found'' with ⟨m', found', next⟩ | ⟨unmade, fresh⟩
    · rcases before m' found' with ⟨m, found, first⟩ | ⟨unmade, fresh⟩
      · obtain ⟨node, there, -⟩ := Option.map_eq_some_iff.1 (formed.tasks t m found)
        exact .inl ⟨m, found, first.trans next (congrArg Phase.isTerminal (keeps.phase there))⟩
      · exact .inr ⟨unmade, (Changes.single hc).fresh formed' found' found'' fresh next⟩
    · refine .inr ⟨?_, fresh⟩
      by_contra made
      obtain ⟨node, there⟩ := Option.ne_none_iff_exists'.1 made
      obtain ⟨cs, there'⟩ := keeps.nodes t node there
      cases unmade.symm.trans there'

/-! ### Workers -/

/-- A worker comes to keep the end of a body only when that has just ended. -/
theorem Work.keeping (formed : Formed s) (w : Work s home s') (later : s'.Keeping t) :
    s.Keeping t ∨ ∃ task f, s.Runs home t task f := by
  -- where no worker moves
  have stays : ∀ {x : State}, (∀ r, x.slice r = s.slice r) → x.Keeping t →
      s.Keeping t ∨ ∃ task f, s.Runs home t task f :=
    fun same keeping => .inl (keeping.of_slices fun r => (same r).symm)
  -- where one goes on with something else
  have goes : ∀ {x : State} {y : Option Slice}, (∀ r, x.slice r = s.slice r) →
      (∀ ending, y ≠ some (.task t (.ended ending))) → (x.setSlice home y).Keeping t →
      s.Keeping t ∨ ∃ task f, s.Runs home t task f := by
    rintro x y same other ⟨r, ending, now⟩
    rcases State.slice_setSlice now with ⟨-, new⟩ | ⟨-, old⟩
    · exact absurd new (other ending)
    · exact .inl ⟨r, ending, (same r).symm.trans old⟩
  have line : ∀ {c : Context} {hand hand' : List Resource} {x : State},
      Changes c s hand x hand' → ∀ r, x.slice r = s.slice r := fun hc => (hc.keeps formed).slice
  have popped : ∀ queue r, (s.popped home queue).slice r = s.slice r := fun queue r =>
    State.slice_modifyRuntime_same home fun _ => rfl
  have queued : ∀ {x : State} {r : RuntimeId} {p : Priority} {e : Entry},
      (x.enqueue r p e).Keeping t → x.Keeping t :=
    fun keeping => keeping.of_slices fun r => (Effect.slice_enqueue _ _ _ r).symm
  cases w with
  | stop => exact stays (fun _ => rfl) later
  | next _ _ changes => exact stays (line changes) later
  | refuse | markerStop | markerSkip => exact stays (popped _) later
  | markerAgain => exact stays (fun r => (Effect.slice_enqueue ..).trans (popped _ r)) later
  | pause _ _ _ changes =>
    exact stays (fun r => (State.slice_modifyRuntime_same home fun _ => by rfl).trans
      (line changes r)) later
  | suspend _ _ changes => exact goes (line changes) (by simp) later
  | handle _ changes => exact goes (line changes) (by simp) later
  | handled _ _ changes => exact goes (line changes) (by simp) later
  | @hold a handled code code' frame frame' reply s₁ told during changes =>
    refine goes (line changes) (y := some (.drain a handled (.handling code' frame' reply)))
      (by simp) (State.Keeping.of_slices later fun r => ?_)
    exact (State.slice_modifyRuntime_same home fun _ => by rfl).symm
  | lost | rest | forgotten | endBody | complete | leave | receive | drained | reply =>
    exact goes (fun _ => rfl) (by simp) later
  | again | drainAgain =>
    have before := queued later
    exact goes (x := s) (y := none) (fun _ => rfl) (by simp) before
  | begin | beginDrain => exact goes (popped _) (by simp) later
  | @ends u task f s₁ owned ending unwinding told runs changes =>
    obtain ⟨r, e, now⟩ := later
    rcases State.slice_setSlice now with ⟨-, new⟩ | ⟨-, old⟩
    · cases new
      exact .inr ⟨task, f, runs⟩
    · exact .inl ⟨r, e, (line changes r).symm.trans old⟩

/-- A worker that is not about to keep the end of a body leaves the outcome where it is, unless a
line takes it. -/
theorem Work.disposes (formed : Formed s) (w : Work s home s')
    (other : ∀ ending, s.slice home ≠ some (.task t (.ended ending)))
    (found' : s'.tasks.get? t = some m') :
    (∃ m, s.tasks.get? t = some m ∧ m.Keeps s t m') ∨ s.nodes.get? t = none ∧ m'.Fresh := by
  have same : s.tasks.get? t = some m' →
      (∃ m, s.tasks.get? t = some m ∧ m.Keeps s t m') ∨ s.nodes.get? t = none ∧ m'.Fresh :=
    fun found => .inl ⟨m', found, .refl s t m'⟩
  -- the body of a task at work is stored anew after a line
  have turn : ∀ {u : TaskId} {task : Task} {f : Fiber} {x : State} {c : Context}
      {hand hand' : List Resource} {fiber : Option Fiber}, s.Runs home u task f →
      Changes c s hand x hand' →
      (x.modifyTask u fun m => { m with fiber := fiber }).tasks.get? t = some m' →
      (∃ m, s.tasks.get? t = some m ∧ m.Keeps s t m') ∨ s.nodes.get? t = none ∧ m'.Fresh := by
    intro u task f x c hand hand' fiber runs changes now
    obtain ⟨m₁, known, rfl⟩ := Store.get?_modify_eq_some.1 now
    have line := changes.disposes formed known
    split
    · rename_i mine
      subst mine
      rcases line with ⟨m, found, keeps⟩ | ⟨unmade, -⟩
      · cases found.symm.trans runs.found
        refine .inl ⟨task, found, { keeps with fiber := fun none => ?_ }⟩
        cases none.symm.trans runs.fiber
      · obtain ⟨node, there, -⟩ := Option.map_eq_some_iff.1 (formed.tasks u task runs.found)
        cases unmade.symm.trans there
    · exact line
  cases w with
  | next runs _ changes | suspend runs _ changes | ends _ runs changes | pause _ runs _ changes =>
    exact turn runs changes found'
  | handle _ changes | hold _ _ changes | handled _ _ changes =>
    exact changes.disposes formed found'
  | @endBody u ending f trace cancelled during only =>
    obtain ⟨m, found, rfl⟩ := Store.get?_modify_eq_some.1 found'
    split
    · rename_i mine
      subst mine
      exact absurd during (other ending)
    · exact .inl ⟨m, found, .refl s t m⟩
  | again | drainAgain | markerAgain =>
    rw [State.tasks_enqueue] at found'
    exact same found'
  | _ => exact same found'

/-- The end of a body that a worker is at is the one that it keeps. -/
theorem State.endings_ended (idle : s.agenda = []) (active : s.active = some (home, goal))
    {ending : Ending} (during : s.slice home = some (.task t (.ended ending))) :
    s.step.slice home = some (.task t .joining) ∧
      State.endings t s s.step = [State.endingOf s.unwinding ending] := by
  obtain ⟨trace, cancelled, eq⟩ := s.endBody_eq home t (State.endingOf s.unwinding ending)
  rw [← State.step_ended idle active during] at eq
  have after : s.step.slice home = some (.task t .joining) := by
    rw [eq]
    exact State.slice_setSlice_self during
  refine ⟨after, ?_⟩
  have thread : s.thread = some home := by simp [State.thread, active]
  rw [State.endings, thread]
  simp [Slice.endings, during, after]

/-- The end of a body is kept in one step. -/
theorem Sound.ends (sound : Sound s d) (idle : s.agenda = [])
    (active : s.active = some (home, goal))
    {ending : Ending} (during : s.slice home = some (.task t (.ended ending))) :
    Disposes t s s.step := by
  obtain ⟨m, found⟩ := sound.dispatch.known home t _ during
  obtain ⟨trace, cancelled, eq⟩ := s.endBody_eq home t (State.endingOf s.unwinding ending)
  rw [← State.step_ended idle active during] at eq
  have blocks : (s.tasks.get? t).any Task.blocking = m.blocking := by simp [found]
  obtain ⟨after, seen⟩ := State.endings_ended idle active during
  have kept : s.step.tasks.get? t =
      some ((State.endingOf s.unwinding ending).keep m.blocking m) := by
    rw [eq, ← blocks]
    exact Store.get?_modify_eq_some.2 ⟨m, found, by rw [if_pos rfl]⟩
  refine .ends found kept ⟨home, ending, during⟩ ?_ seen
  rintro ⟨r, e, now⟩
  cases sound.step.dispatch.one_slice after now
  cases after.symm.trans now

/-! ### Moves -/

/-- The main thread takes the outcome of the task on which it was blocked. -/
theorem Move.disposes (formed : Formed s) (idle : s.agenda = []) (m : Move s d s' d')
    (found' : s'.tasks.get? t = some m') :
    (∃ m, s.tasks.get? t = some m ∧ m.Keeps s t m') ∨ s.nodes.get? t = none ∧ m'.Fresh := by
  have same : s.tasks.get? t = some m' →
      (∃ m, s.tasks.get? t = some m ∧ m.Keeps s t m') ∨ s.nodes.get? t = none ∧ m'.Fresh :=
    fun found => .inl ⟨m', found, .refl s t m'⟩
  cases m with
  | build place batch stem =>
    rcases s.build_cases place batch stem with eq | ⟨-, settings, eq⟩ <;> rw [eq] at found' <;>
      exact same found'
  | start | block | join =>
    rw [State.tasks_start] at found'
    exact same found'
  | startRounds =>
    rw [State.startRounds, State.tasks_start, State.tasks_enqueue] at found'
    exact same found'
  | @launchRoot _ r _ body =>
    obtain ⟨nodes, trace, -, eq⟩ :=
      State.launch_addNode_eq formed.nodes .normal none r body true
    rw [State.launchRoot, eq, State.tasks_enqueue] at found'
    by_cases new : s.nextNode = t
    · subst new
      rw [Store.get?_set_self] at found'
      cases found'
      exact .inr ⟨State.fresh_nextNode formed.nodes, rfl, rfl, by simp, rfl, rfl⟩
    · exact same ((Store.get?_set_of_ne new).symm.trans found')
  | leaveRoot ended =>
    obtain ⟨m, found, rfl⟩ := Store.get?_modify_eq_some.1 found'
    refine .inl ⟨m, found, ?_⟩
    split
    · rename_i mine
      subst mine
      exact ⟨.inr ⟨rfl, ended⟩, rfl, rfl, id, fun _ => List.Subset.refl _⟩
    · exact .refl s t m
  | close => exact same found'
  | line plain => exact (State.plain?_fits idle plain).disposes formed found'
  | @shelve f =>
    exact (State.shelve_changes (c := ⟨.main, none⟩) f s []).disposes formed found'

/-- **What a transition does with the outcome of a task.** -/
theorem Transition.disposes (sound : Sound s d) (tr : Transition s d s' d') (t : TaskId) :
    Disposes t s s' := by
  -- where the end of no body is kept
  have calmly : State.endings t s s' = [] →
      (∀ m', s'.tasks.get? t = some m' → (∃ m, s.tasks.get? t = some m ∧ m.Keeps s t m') ∨
        s.nodes.get? t = none ∧ m'.Fresh) →
      (s'.Keeping t → s.Keeping t ∨ ∀ m, s.tasks.get? t = some m → m.fiber ≠ none) →
      Disposes t s s' := by
    intro calm tasks keeping
    cases found' : s'.tasks.get? t with
    | none => exact .absent found' calm
    | some m' =>
      rcases tasks m' found' with ⟨m, found, keeps⟩ | ⟨unmade, fresh⟩
      · exact .goes found found' keeps (fun later => (keeping later).imp_right fun h => h m found)
          calm
      · exact .made unmade found' fresh calm
  have still : (∀ r, s'.slice r = s.slice r) →
      (∀ m', s'.tasks.get? t = some m' → (∃ m, s.tasks.get? t = some m ∧ m.Keeps s t m') ∨
        s.nodes.get? t = none ∧ m'.Fresh) → Disposes t s s' := fun same tasks =>
    calmly (State.endings_of_slices same) tasks fun later =>
      .inl (later.of_slices fun r => (same r).symm)
  cases tr with
  | step =>
    by_cases ends : ∃ home goal ending, s.agenda = [] ∧ s.active = some (home, goal) ∧
        s.slice home = some (.task t (.ended ending))
    · obtain ⟨home, goal, ending, idle, active, during⟩ := ends
      exact sound.ends idle active during
    · have next := State.step_cases sound.wakeful.waitsOnOwn
      generalize s.step = s' at next calmly still
      cases next with
      | item first e =>
        subst first
        refine still (fun r => e.slice r) fun m' found' => .inl ?_
        obtain ⟨m, found, keeps⟩ := e.disposes found'
        exact ⟨m, found, { keeps with }⟩
      | @work home goal s' idle active w =>
        have other : ∀ ending, s.slice home ≠ some (.task t (.ended ending)) :=
          fun ending during => ends ⟨home, goal, ending, idle, active, during⟩
        refine calmly (State.endings_of_slice active other)
          (fun m' found' => w.disposes sound.formed other found') fun later => ?_
        refine (w.keeping sound.formed later).imp_right ?_
        rintro ⟨task, f, runs⟩ m found
        cases found.symm.trans runs.found
        rw [runs.fiber]
        simp
      | rest => exact still (fun _ => rfl) fun m' found' => .inl ⟨m', found', .refl s t m'⟩
  | stray => exact still (fun _ => rfl) fun m' found' => .inl ⟨m', found', .refl s t m'⟩
  | move rests m =>
    have idle := State.idle_of_resting rests
    exact still (m.slice sound.formed idle) fun m' found' => m.disposes sound.formed idle found'

end Nursery
