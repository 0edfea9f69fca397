import Nursery.Proofs.Invariant.Lasts

/-!
# Whoever may be asked has an answer

When a body is over, the worker is about to keep its outcome, and when the task has ended the
outcome may be taken.  Between the two the task has one.  A body that was dropped before its end
comes to no outcome, and then nobody refers to the task.

* `Task.Bare` : a task has neither a body nor an outcome.
* `Answerable` : such a task has ended, or its outcome is about to be kept, or the task goes.
* `Reachable.answerable` : so it is in every reachable state.
-/

namespace Nursery

/-- Neither a body nor an outcome is left of a task. -/
structure Task.Bare (m : Task) : Prop where
  /-- The body is over. -/
  fiber : m.fiber = none
  /-- There is no outcome, or it was taken. -/
  outcome : m.outcome = none

/-- A worker is about to keep the outcome of a task. -/
def State.Keeping (s : State) (t : TaskId) : Prop :=
  ∃ home ending, s.slice home = some (.task t (.ended ending))

/-- A bare task has ended, or its outcome is about to be kept, or nothing else is left of it. -/
def Answerable (s : State) : Prop :=
  ∀ t m, s.tasks.get? t = some m → m.Bare →
    (s.phase t).isTerminal = true ∨ s.Keeping t ∨ .bury t ∈ s.agenda

variable {s s' : State} {d d' : Desk} {c : Context} {hand hand' : List Resource} {a : Action}
  {home : RuntimeId} {t : TaskId}

namespace State

/-- A worker that is not about to keep the outcome of a task goes on with something else. -/
theorem Keeping.setSlice (h : s.Keeping t)
    (other : ∀ ending, s.slice home ≠ some (.task t (.ended ending)))
    (slice : Option Slice) : (s.setSlice home slice).Keeping t := by
  obtain ⟨r, ending, during⟩ := h
  refine ⟨r, ending, ?_⟩
  rw [State.setSlice, slice_modifyRuntime_of_ne]
  · exact during
  · rintro rfl
    exact other ending during

theorem Keeping.of_slices (h : s.Keeping t) (same : ∀ r, s'.slice r = s.slice r) :
    s'.Keeping t := by
  obtain ⟨r, ending, during⟩ := h
  exact ⟨r, ending, (same r).trans during⟩

end State

/-- What comes behind an item of the agenda is still to be done afterwards, unless a body panics. -/
theorem Effect.agenda (e : Effect s a s') : s.agenda ⊆ s'.agenda ∨
    s.inBody = true ∧ s'.agenda = s.agenda.filterMap Action.afterPanic := by
  cases e with
  | spent | orphan | reap | reportFailure | record | dropPending => exact .inl (List.Subset.refl _)
  | resume => exact .inl (State.subset_agenda_enqueue (State.setPhase _ _ _) _ _ _)
  | panic message inside => exact .inr ⟨inside, rfl⟩
  | _ => exact .inl (List.subset_append_right _ _)

/-- A task that is to be buried is so until it is gone. -/
theorem Effect.buried (e : Effect s a s') (h : .bury t ∈ (s.doFirst [a]).agenda) :
    .bury t ∈ s'.agenda ∨ s'.tasks.get? t = none := by
  rcases List.mem_cons.1 h with same | old
  · subst same
    cases e with
    | spent missing => exact .inr missing
    | bury => exact .inr (by rw [State.doFirst, Store.get?_erase, if_pos rfl])
  · refine .inl ?_
    rcases e.agenda with more | ⟨-, left⟩
    · exact more old
    · rw [left]
      exact List.mem_filterMap.2 ⟨_, old, rfl⟩

/-- What was to be done before a line is still to be done after it. -/
theorem Change.agenda (formed : Formed s) (hc : Change c s hand s' hand') :
    s.agenda ⊆ s'.agenda := by
  cases hc with
  | @spawn home parent priority body =>
    obtain ⟨nodes, trace, -, eq⟩ :=
      State.launch_addNode_eq formed.nodes priority parent home body false
    rw [eq]
    refine List.Subset.trans ?_ (State.subset_agenda_enqueue _ _ _ _)
    exact List.Subset.refl _
  | @group home =>
    obtain ⟨nodes, trace, priority, -, eq⟩ := State.makeGroup_eq formed.nodes c home
    rw [eq]
    exact List.Subset.refl _
  | @add g group priority body =>
    obtain ⟨nodes, trace, p, -, eq⟩ :=
      State.addChild_eq formed.nodes formed.fresh_task g group priority body
    rw [eq]
    refine List.Subset.trans ?_ (State.subset_agenda_enqueue _ _ _ _)
    exact List.Subset.refl _
  | call _ idle | send _ idle | expect idle | listen idle => simp [idle]
  | park | record | release | cancel | wake => exact List.subset_append_left _ _
  | _ => exact List.Subset.refl _

namespace Answerable

theorem init : Answerable {} :=
  fun _ _ found => by cases found

theorem keep (h : Answerable s) (lasts : Lasts s s') (ending : ∀ t, s.Keeping t → s'.Keeping t)
    (agenda : ∀ t, .bury t ∈ s.agenda → .bury t ∈ s'.agenda ∨ s'.tasks.get? t = none)
    (tasks : ∀ t m', s'.tasks.get? t = some m' → m'.Bare →
      (∃ m, s.tasks.get? t = some m ∧ m.Bare) ∨
        (s'.phase t).isTerminal = true ∨ s'.Keeping t ∨ .bury t ∈ s'.agenda) :
    Answerable s' := by
  intro t m' found bare
  rcases tasks t m' found bare with ⟨m, known, before⟩ | now
  · rcases h t m known before with ended | keeping | buried
    · exact .inl (by rw [lasts.phase ended, ended])
    · exact .inr (.inl (ending t keeping))
    · refine .inr (.inr ((agenda t buried).resolve_right fun gone => ?_))
      cases gone.symm.trans found
  · exact now

theorem bare_modifyTask {u : TaskId} {f : Task → Task} {m' : Task}
    (found : (s.modifyTask u f).tasks.get? t = some m') (bare : m'.Bare)
    (back : ∀ m, (f m).Bare → m.Bare) : ∃ m, s.tasks.get? t = some m ∧ m.Bare := by
  obtain ⟨m, known, rfl⟩ := Store.get?_modify_eq_some.1 found
  refine ⟨m, known, ?_⟩
  split at bare
  · exact back m bare
  · exact bare

theorem bare_of_tasks {m' : Task} (same : s'.tasks = s.tasks)
    (found : s'.tasks.get? t = some m') (bare : m'.Bare) :
    ∃ m, s.tasks.get? t = some m ∧ m.Bare :=
  ⟨m', by rwa [same] at found, bare⟩

theorem effect (e : Effect s a s') (h : Answerable (s.doFirst [a])) : Answerable s' := by
  have popped : Lasts (s.doFirst [a]) s := .of_nodes rfl
  refine h.keep (popped.trans (.effect e)) (fun t ending => ending.of_slices e.slice)
    (fun t => e.buried) fun t m' found bare => ?_
  have before : (∃ m, s.tasks.get? t = some m ∧ m.Bare) →
      (∃ m, (s.doFirst [a]).tasks.get? t = some m ∧ m.Bare) := id
  cases e with
  | reportFailure _ only | dropHandle _ only =>
    refine .inl (before (bare_modifyTask found bare fun m bare => ?_))
    obtain ⟨b, eq⟩ := only m
    rw [eq] at bare
    exact ⟨bare.fiber, bare.outcome⟩
  | wakeWaiters =>
    exact .inl (before (bare_modifyTask found bare fun m bare => ⟨bare.fiber, bare.outcome⟩))
  | @forget u task there loose =>
    -- the body of a task that nobody refers to goes before the task
    obtain ⟨m, known, rfl⟩ := Store.get?_modify_eq_some.1 found
    split at bare
    · rename_i same
      subst same
      refine .inr (.inr (.inr (List.mem_append_left _ ?_)))
      exact List.mem_append_right _ List.mem_cons_self
    · exact .inl ⟨m, known, bare⟩
  | bury =>
    change (s.tasks.erase _).get? t = some m' at found
    rw [Store.get?_erase] at found
    split at found
    · cases found
    · exact .inl ⟨m', found, bare⟩
  | resume =>
    rw [State.tasks_enqueue] at found
    exact .inl ⟨m', found, bare⟩
  | _ => exact .inl (before (bare_of_tasks rfl found bare))

theorem change (formed : Formed s) (hc : Change c s hand s' hand') (h : Answerable s) :
    Answerable s' := by
  have keeps := Keeps.change formed hc
  refine h.keep (.of_keeps keeps) (fun t ending => ending.of_slices keeps.slice)
    (fun t buried => .inl (hc.agenda formed buried)) fun t m' found bare => ?_
  -- an outcome is taken only after the end, and a new task has its body
  cases hc with
  | take ended =>
    obtain ⟨m, known, rfl⟩ := Store.get?_modify_eq_some.1 found
    split at bare
    · rename_i same
      subst same
      exact .inr (.inl ended)
    · exact .inl ⟨m, known, bare⟩
  | register =>
    exact .inl (bare_modifyTask found bare fun m bare => ⟨bare.fiber, bare.outcome⟩)
  | @spawn home parent priority body =>
    obtain ⟨nodes, trace, grown, eq⟩ :=
      State.launch_addNode_eq formed.nodes priority parent home body false
    rw [eq, State.tasks_enqueue] at found
    by_cases new : s.nextNode = t
    · subst new
      rw [Store.get?_set_self] at found
      cases found
      cases bare.fiber
    · rw [Store.get?_set_of_ne new] at found
      exact .inl ⟨m', found, bare⟩
  | @add g group priority body =>
    obtain ⟨nodes, trace, p, grown, eq⟩ :=
      State.addChild_eq formed.nodes formed.fresh_task g group priority body
    rw [eq, State.tasks_enqueue] at found
    by_cases new : s.nextNode = t
    · subst new
      rw [Store.get?_set_self] at found
      cases found
      cases bare.fiber
    · rw [Store.get?_set_of_ne new] at found
      exact .inl ⟨m', found, bare⟩
  | @group home =>
    obtain ⟨nodes, trace, priority, -, eq⟩ := State.makeGroup_eq formed.nodes c home
    rw [eq] at found
    exact .inl ⟨m', found, bare⟩
  | call | send =>
    obtain ⟨actors, runtimes, agenda, eq⟩ := State.post_eq _ _ _ _
    rw [eq] at found
    exact .inl ⟨m', found, bare⟩
  | _ => exact .inl (bare_of_tasks rfl found bare)

theorem changes (formed : Formed s) (hc : Changes c s hand s' hand') (h : Answerable s) :
    Answerable s' :=
  (hc.invariant (I := fun x _ => Formed x ∧ Answerable x)
    (fun hc h => ⟨h.1.change hc, change h.1 hc h.2⟩) ⟨formed, h⟩).2

theorem of_same (h : Answerable s) (nodes : s'.nodes = s.nodes) (tasks : s'.tasks = s.tasks)
    (slice : ∀ r, s'.slice r = s.slice r) (agenda : s.agenda ⊆ s'.agenda) : Answerable s' :=
  h.keep (.of_nodes nodes) (fun _ ending => ending.of_slices slice)
    (fun _ buried => .inl (agenda buried)) fun _ _ found bare =>
      .inl (bare_of_tasks tasks found bare)

theorem setSlice (h : Answerable s)
    (other : ∀ t ending, s.slice home ≠ some (.task t (.ended ending)))
    (slice : Option Slice) : Answerable (s.setSlice home slice) :=
  fun t m found bare =>
    (h t m found bare).imp_right (.imp_left fun ending => ending.setSlice (other t) slice)

theorem setFiber (h : Answerable s) (u : TaskId) (f : Fiber) :
    Answerable (s.modifyTask u fun m => { m with fiber := some f }) := by
  refine h.keep (.of_nodes rfl) (fun t ending => ending.of_slices fun _ => rfl) (fun _ => .inl)
    fun t m' found bare => .inl (bare_modifyTask found bare fun m bare => ?_)
  cases bare.fiber

/-- What a worker does keeps the invariant: it is in the middle of a body before its end, and then
of keeping its outcome. -/
theorem work (formed : Formed s) (dispatch : Dispatch s) (idle : s.agenda = [])
    (w : Work s home s') (h : Answerable s) : Answerable s' := by
  have lasts := Lasts.work formed dispatch w
  have calm : s.agenda ⊆ s'.agenda := by simp [idle]
  have plainly : s'.tasks = s.tasks → (∀ t, s.Keeping t → s'.Keeping t) → Answerable s' :=
    fun same ending => h.keep lasts ending (fun t buried => .inl (calm buried))
      fun t m' found bare => .inl (bare_of_tasks same found bare)
  have still : s'.tasks = s.tasks → (∀ r, s'.slice r = s.slice r) → Answerable s' :=
    fun tasks slice => plainly tasks fun t ending => ending.of_slices slice
  have goes : ∀ {x : Slice} {slice : Option Slice}, s.slice home = some x →
      (∀ t ending, x ≠ .task t (.ended ending)) → s'.tasks = s.tasks →
      (∀ r, s'.slice r = (s.setSlice home slice).slice r) → Answerable s' := by
    intro x slice during other tasks slices
    refine plainly tasks fun t ending =>
      ((ending.setSlice (fun e now => ?_) slice).of_slices slices)
    exact other t e (Option.some.inj (during.symm.trans now))
  have line : ∀ {c : Context} {hand hand' : List Resource} {s₁ : State},
      Changes c s hand s₁ hand' → Answerable s₁ ∧ ∀ r, s₁.slice r = s.slice r :=
    fun hc => ⟨h.changes formed hc, (hc.keeps formed).slice⟩
  have popped : ∀ queue r, (s.popped home queue).slice r = s.slice r := fun queue r =>
    State.slice_modifyRuntime_same home fun _ => rfl
  cases w with
  | stop => exact still rfl fun _ => rfl
  | refuse | markerStop | markerSkip => exact still rfl (popped _)
  | markerAgain =>
    exact still (State.tasks_enqueue ..) fun r =>
      (Effect.slice_enqueue ..).trans (popped _ r)
  | begin takes | beginDrain takes =>
    refine plainly rfl fun t ending => State.Keeping.setSlice (ending.of_slices (popped _)) ?_ _
    intro e now
    rw [popped, takes.free] at now
    cases now
  | lost during missing =>
    refine goes during ?_ rfl fun _ => rfl
    rcases missing with ⟨t, rfl, -⟩ | ⟨a, handled, rfl, -⟩ <;> intro t e eq <;> cases eq
  | rest during why | forgotten during why =>
    refine goes during ?_ rfl fun _ => rfl
    rintro u e ⟨⟩
    simp [State.Waits, State.Over] at why
  | again during why =>
    refine goes during ?_ (State.tasks_enqueue ..) fun r => Effect.slice_enqueue ..
    rintro u e ⟨⟩
    simp [State.Waits, State.Over] at why
  | complete _ during past =>
    refine goes during ?_ rfl fun _ => rfl
    rintro u e ⟨⟩
    simp [State.Over] at past
  | leave during | receive during | drained during | reply _ _ during =>
    refine goes during ?_ rfl fun _ => rfl
    rintro u e ⟨⟩
  | drainAgain during =>
    refine goes during ?_ (State.tasks_enqueue ..) fun r => Effect.slice_enqueue ..
    rintro u e ⟨⟩
  | next _ _ changes => exact (line changes).1.setFiber _ _
  | pause _ _ _ changes =>
    exact ((line changes).1.setFiber _ _).of_same rfl rfl
      (fun _ => State.slice_modifyRuntime_same home fun _ => rfl) (List.Subset.refl _)
  | suspend _ polling changes =>
    obtain ⟨h₁, slices⟩ := line changes
    refine (h₁.setFiber _ _).setSlice (fun u e now => ?_) _
    cases polling.symm.trans ((slices home).symm.trans now)
  | handle during changes =>
    obtain ⟨h₁, slices⟩ := line changes
    refine h₁.setSlice (fun u e now => ?_) _
    cases during.symm.trans ((slices home).symm.trans now)
  | handled _ during changes =>
    obtain ⟨h₁, slices⟩ := line changes
    refine (h₁.setSlice (fun u e now => ?_) _).of_same rfl rfl (fun _ => rfl)
      (List.subset_append_left _ _)
    cases during.symm.trans ((slices home).symm.trans now)
  | hold _ during changes =>
    obtain ⟨h₁, slices⟩ := line changes
    refine (h₁.setSlice (fun u e now => ?_) _).of_same rfl rfl
      (fun _ => State.slice_modifyRuntime_same home fun _ => rfl) (List.Subset.refl _)
    cases during.symm.trans ((slices home).symm.trans now)
  | @ends t task f s₁ owned ending unwinding told runs changes =>
    obtain ⟨h₁, slices⟩ := line changes
    have inside : ∀ u e, s₁.slice home ≠ some (.task u (.ended e)) := by
      intro u e now
      rw [slices] at now
      rcases runs.slice with during | during <;> cases during.symm.trans now
    have now : ∃ x, s₁.slice home = some x := by
      rw [slices]
      exact runs.during.imp' _ fun _ => id
    obtain ⟨x, now⟩ := now
    -- the worker is about to keep the outcome of this task, and of no other one before
    intro u m' found bare
    obtain ⟨m, known, rfl⟩ := Store.get?_modify_eq_some.1 found
    split at bare
    · rename_i same
      subst same
      exact .inr (.inl ⟨home, ending, State.slice_setSlice_self (s := s₁.modifyTask t _) now⟩)
    · exact (h₁ u m known bare).imp_right (.imp (fun before => before.setSlice (inside u) _)
        (List.mem_append_left _))
  | @endBody t ending f trace cancelled during only =>
    intro u m' found bare
    obtain ⟨m, known, rfl⟩ := Store.get?_modify_eq_some.1 found
    split at bare
    · obtain ⟨o, b, eq⟩ := only m
      rw [eq] at bare
      cases bare.outcome
    · rename_i other
      refine (h u m known bare).imp_right (.imp (fun before => before.setSlice (fun e now => ?_) _)
        fun buried => by simp [idle] at buried)
      cases during.symm.trans now
      exact other rfl

/-! ### Moves -/

theorem start (h : Answerable s) (r : RuntimeId) (goal : Goal) : Answerable (s.start r goal) :=
  h.of_same (State.nodes_start ..) (State.tasks_start ..) (State.slice_start _ _ · _) (by
    obtain ⟨trace, eq⟩ := s.start_eq r goal
    rw [eq]
    exact List.Subset.refl _)

theorem move (formed : Formed s) (idle : s.agenda = []) (m : Move s d s' d') (h : Answerable s) :
    Answerable s' := by
  have lasts := Lasts.move formed idle m
  -- while the main thread is at work, no task is about to be buried
  have calm : ∀ t, .bury t ∈ s.agenda → .bury t ∈ s'.agenda ∨ s'.tasks.get? t = none := by
    simp [idle]
  cases m with
  | build place batch stem =>
    rcases s.build_cases place batch stem with same | ⟨-, settings, built⟩
    · rwa [same]
    · have fresh : s.runtimes.get? ⟨s.runtimes.size⟩ = none :=
        formed.runtimes.fresh (k := ⟨s.runtimes.size⟩) rfl
      rw [built]
      refine h.keep (.of_nodes rfl) (fun t keeping => ?_) (fun _ => .inl)
        fun _ _ found bare => .inl ⟨_, found, bare⟩
      obtain ⟨r, ending, during⟩ := keeping
      obtain ⟨rt, known, slice⟩ := State.slice_eq during
      have old : ⟨s.runtimes.size⟩ ≠ r := by
        rintro rfl
        cases fresh.symm.trans known
      exact ⟨r, ending, by
        rw [State.slice, State.install, Store.get?_set_of_ne old, known, Option.bind_some, slice]⟩
  | start | block | join => exact h.start _ _
  | @startRounds _ r _ rounds band =>
    have marked : Answerable { s with markers := s.markers + 1 } :=
      h.of_same rfl rfl (fun _ => rfl) (List.Subset.refl _)
    exact (marked.of_same (State.nodes_enqueue ..) (State.tasks_enqueue ..)
      (Effect.slice_enqueue r band _) (State.subset_agenda_enqueue ..)).start _ _
  | @launchRoot _ r _ body =>
    obtain ⟨nodes, trace, -, eq⟩ :=
      State.launch_addNode_eq formed.nodes .normal none r body true
    refine h.keep lasts (fun t keeping => keeping.of_slices fun r' => ?_) calm
      fun t m' found bare => .inl ?_
    · rw [State.launchRoot, eq, Effect.slice_enqueue]
      rfl
    · rw [State.launchRoot, eq, State.tasks_enqueue] at found
      by_cases new : s.nextNode = t
      · subst new
        rw [Store.get?_set_self] at found
        cases found
        cases bare.fiber
      · rw [Store.get?_set_of_ne new] at found
        exact ⟨m', found, bare⟩
  | @leaveRoot r t ended =>
    refine h.keep lasts (fun _ keeping => keeping) calm fun u m' found bare => ?_
    obtain ⟨m, known, rfl⟩ := Store.get?_modify_eq_some.1 found
    split at bare
    · rename_i same
      subst same
      exact .inr (.inl ended)
    · exact .inl ⟨m, known, bare⟩
  | close found =>
    exact h.of_same rfl rfl (fun r => State.slice_modifyRuntime_same _ fun _ => rfl)
      (by simp [idle])
  | line plain => exact h.changes formed (State.plain?_fits idle plain)
  | @shelve f => exact h.changes formed (State.shelve_changes (c := { who := .main }) f s [])

end Answerable

/-- A task whose worker is done with the body and with its frame has an outcome. -/
theorem Answerable.outcome (h : Answerable s) (sound : Sound s d) (idle : s.agenda = [])
    {stage : Stage} (during : s.slice home = some (.task t stage)) (past : s.Over t stage) :
    ∃ m outcome, s.tasks.get? t = some m ∧ m.fiber = none ∧ m.outcome = some outcome := by
  have dispatch := sound.dispatch
  obtain ⟨m, found⟩ := dispatch.known home t stage during
  have bodiless : m.fiber = none := by
    rcases past with rfl | ⟨rfl, none_left⟩
    · exact (sound.wakeful t m found).past home .joining during rfl
    · simpa [found] using none_left
  cases outcome : m.outcome with
  | some result => exact ⟨m, result, found, bodiless, outcome⟩
  | none =>
    rcases h t m found ⟨bodiless, outcome⟩ with ended | ⟨r, ending, elsewhere⟩ | gone
    · rcases dispatch.ongoing_of_over during past with up | up <;>
        simp [up, Phase.isTerminal] at ended
    · -- no worker is about to keep its outcome, for the task is in this slice only
      cases dispatch.one_slice during elsewhere
      cases during.symm.trans elsewhere
      rcases past with past | ⟨past, -⟩ <;> cases past
    · simp [idle] at gone

/-- **In every reachable state** whoever may be asked has an answer. -/
theorem Reachable.answerable (h : Reachable s d) : Answerable s := by
  induction h with
  | init => exact .init
  | @next s s' d d' reachable t ih =>
    have sound := reachable.sound
    cases t with
    | step =>
      have next := State.step_cases sound.wakeful.waitsOnOwn
      generalize s.step = s' at next
      cases next with
      | @item a s₀ _ first e =>
        subst first
        exact ih.effect e
      | work idle _ w => exact ih.work sound.formed sound.dispatch idle w
      | rest => exact ih
    | stray => exact ih.of_same rfl rfl (fun _ => rfl) (List.subset_append_right _ _)
    | move rests m => exact ih.move sound.formed (State.idle_of_resting rests) m

end Nursery
