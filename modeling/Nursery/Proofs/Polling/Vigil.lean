import Nursery.Proofs.Delivery.Settled
import Nursery.Proofs.Polling.Step

/-!
# Who stays registered

Whoever is registered with a group or with a call has found nothing there, and as soon as there is
something nobody is registered any more.  Whoever is registered with a task stays until the task
ends, and then its waiters are woken, once.

* `Vigil`, `Reachable.vigil` : who is registered with a group or with a call has found nothing.
* `Effect.registry`, `Move.registry` : nobody is registered without a poll.
* `State.rousing`, `Transition.rouses` : the waiters of a task are woken once.
-/

namespace Nursery

/-- Whoever is registered with a group or with a call has found nothing there, and nothing is there
by now. -/
structure Vigil (s : State) : Prop where
  /-- In the group nothing can be collected. -/
  group : ∀ g m, s.signals.get? g = some m → m.waker ≠ none → m.completed = []
  /-- The call was accepted and has no outcome. -/
  call : ∀ k m, s.calls.get? k = some m → m.waker ≠ none → m.outcome = none ∧ m.accepted = true

variable {s s' : State} {d d' : Desk} {t u g : TaskId} {k : CallId} {r : Resource} {a : Action}
  {f : Fiber} {home : RuntimeId} {goal : Goal} {c : Context} {hand hand' : List Resource}
  {ps : List Poll} {p : Poll}

namespace Vigil

theorem init : Vigil {} :=
  ⟨fun _ _ found => by simp [Store.get?, Store.lookup] at found,
    fun _ _ found => by simp [Store.get?, Store.lookup] at found⟩

theorem of_same (h : Vigil s) (signals : s'.signals = s.signals) (calls : s'.calls = s.calls) :
    Vigil s' where
  group := by rw [signals]; exact h.group
  call := by rw [calls]; exact h.call

theorem modifySignal (h : Vigil s) {change : Signal → Signal}
    (fair : ∀ m, s.signals.get? g = some m → (change m).waker ≠ none → (change m).completed = []) :
    Vigil (s.modifySignal g change) where
  group i m found waits := by
    obtain ⟨m₀, found₀, rfl⟩ := Store.get?_modify_eq_some.1 found
    split at waits
    · rename_i same
      rw [if_pos same]
      exact fair m₀ (same ▸ found₀) waits
    · rename_i other
      rw [if_neg other]
      exact h.group i m₀ found₀ waits
  call := h.call

theorem modifyCall (h : Vigil s) {change : Call → Call}
    (fair : ∀ m, s.calls.get? k = some m → (change m).waker ≠ none →
      (change m).outcome = none ∧ (change m).accepted = true) : Vigil (s.modifyCall k change) where
  group := h.group
  call i m found waits := by
    obtain ⟨m₀, found₀, rfl⟩ := Store.get?_modify_eq_some.1 found
    split at waits
    · rename_i same
      rw [if_pos same]
      exact fair m₀ (same ▸ found₀) waits
    · rename_i other
      rw [if_neg other]
      exact h.call i m₀ found₀ waits

theorem setCall (h : Vigil s) {m : Call} (free : m.waker = none) :
    Vigil { s with calls := s.calls.set k m } where
  group := h.group
  call i m' found waits := by
    rw [Store.get?_set] at found
    split at found
    · cases found
      exact absurd free waits
    · exact h.call i m' found waits

theorem setSignal (h : Vigil s) {m : Signal} (free : m.waker = none) :
    Vigil { s with signals := s.signals.set g m } where
  group i m' found waits := by
    rw [Store.get?_set] at found
    split at found
    · cases found
      exact absurd free waits
    · exact h.group i m' found waits
  call := h.call

theorem enqueue (h : Vigil s) (home : RuntimeId) (p : Priority) (e : Entry) :
    Vigil (s.enqueue home p e) := by
  obtain ⟨runtimes, agenda, eq⟩ := State.enqueue_eq s home p e
  rw [eq]
  exact h.of_same rfl rfl

theorem post (h : Vigil s) (a : ActorId) (home : RuntimeId) (message : Message) :
    Vigil (s.post a home message) := by
  obtain ⟨actors, runtimes, agenda, eq⟩ := State.post_eq s a home message
  rw [eq]
  exact h.of_same rfl rfl

theorem launch (h : Vigil s) (formed : Formed s) (p : Priority) (parent : Option TaskId)
    (home : RuntimeId) (body : List Line) (blocking : Bool) :
    Vigil ((s.addNode .task p parent).launch s.nextNode home body blocking) := by
  obtain ⟨nodes, trace, -, eq⟩ :=
    State.launch_addNode_eq formed.nodes p parent home body blocking
  rw [eq]
  refine .enqueue ?_ _ _ _
  exact h.of_same rfl rfl

theorem change (formed : Formed s) (hc : Change c s hand s' hand') (h : Vigil s) : Vigil s' := by
  cases hc with
  | spawn => exact h.launch formed _ _ _ _ _
  | @group home =>
    obtain ⟨nodes, trace, priority, -, eq⟩ := State.makeGroup_eq formed.nodes c home
    rw [eq]
    exact (h.setSignal (g := s.nextNode) (m := {}) rfl).of_same rfl rfl
  | @add g group priority body =>
    obtain ⟨nodes, trace, p, -, eq⟩ :=
      State.addChild_eq formed.nodes formed.fresh_task g group priority body
    rw [eq]
    refine .enqueue ?_ _ _ _
    exact h.of_same rfl rfl
  | call => exact (h.setCall rfl).post _ _ _
  | refuse => exact h.setCall rfl
  | send => exact h.post _ _ _
  | learn => exact h.modifyCall fun m found waits => ⟨rfl, (h.call _ m found waits).2⟩
  | expect _ _ _ found open_ accepted =>
    refine .of_same (s := State.modifyCall _ _ _) (h.modifyCall fun m found' _ => ?_) rfl rfl
    cases found.symm.trans found'
    exact ⟨open_, accepted⟩
  | @draw g index rest _ ready =>
    -- where a child can be collected nobody is registered
    refine .of_same (s := State.modifySignal _ _ _) (h.modifySignal fun m found waits => ?_) rfl rfl
    have some_ := h.group g m found waits
    rw [State.completed, found, Option.map_some, Option.getD_some, some_] at ready
    cases ready
  | listen _ _ _ none_ready =>
    refine .of_same (s := State.modifySignal _ _ _) (h.modifySignal fun m found _ => ?_) rfl rfl
    rwa [State.completed, found] at none_ready
  | _ => exact h.of_same rfl rfl

theorem changes (formed : Formed s) (hc : Changes c s hand s' hand') (h : Vigil s) : Vigil s' :=
  (hc.invariant (I := fun x _ => Formed x ∧ Vigil x)
    (fun hc both => ⟨both.1.change hc, both.2.change both.1 hc⟩) ⟨formed, h⟩).2

/-- An item of the agenda keeps the vigil: where something comes to be there, nobody stays
registered. -/
theorem effect (e : Effect s a s') (h : Vigil (s.doFirst [a])) : Vigil s' := by
  have before : Vigil s := h.of_same rfl rfl
  cases e with
  | resume =>
    refine .enqueue ?_ _ _ _
    exact before.of_same rfl rfl
  | trip =>
    refine .of_same (s := State.modifySignal _ _ _) (before.modifySignal ?_) rfl rfl
    exact fun m found waits => before.group _ m found waits
  -- whatever puts something there takes the waker away
  | announce | silence =>
    refine .of_same (s := State.modifySignal _ _ _) (before.modifySignal ?_) rfl rfl
    exact fun m _ waits => absurd rfl waits
  | answer | dropAnswered =>
    refine .of_same (s := State.modifyCall _ _ _) (before.modifyCall ?_) rfl rfl
    exact fun m _ waits => absurd rfl waits
  | dropPending => exact before.modifyCall fun m found waits => before.call _ m found waits
  | _ => exact before.of_same rfl rfl

theorem work (formed : Formed s) (w : Work s home s') (h : Vigil s) : Vigil s' := by
  cases w with
  | next _ _ changes | suspend _ _ changes | pause _ _ _ changes | ends _ _ changes
    | handle _ changes | hold _ _ changes | handled _ _ changes =>
    exact (h.changes formed changes).of_same rfl rfl
  | again | drainAgain =>
    refine .enqueue ?_ _ _ _
    exact h.of_same rfl rfl
  | @markerAgain serial queue band goal =>
    have queued : Vigil ((s.popped home queue).enqueue home band (.marker serial)) := by
      refine .enqueue ?_ _ _ _
      exact h.of_same rfl rfl
    exact queued.of_same rfl rfl
  | _ => exact h.of_same rfl rfl

theorem start (h : Vigil s) (r : RuntimeId) (goal : Goal) : Vigil (s.start r goal) := by
  obtain ⟨trace, eq⟩ := s.start_eq r goal
  rw [eq]
  exact h.of_same rfl rfl

theorem move (formed : Formed s) (idle : s.agenda = []) (m : Move s d s' d') (h : Vigil s) :
    Vigil s' := by
  cases m with
  | build place batch stem =>
    rcases s.build_cases place batch stem with same | ⟨-, settings, built⟩
    · rwa [same]
    · rw [built]
      exact h.of_same rfl rfl
  | start | block | join => exact h.start _ _
  | startRounds =>
    rw [State.startRounds]
    refine Vigil.start (.enqueue ?_ _ _ _) _ _
    exact h.of_same rfl rfl
  | launchRoot => exact h.launch formed _ _ _ _ _
  | leaveRoot | close => exact h.of_same rfl rfl
  | line plain => exact h.changes formed (State.plain?_fits idle plain)
  | @shelve f => exact h.changes formed (State.shelve_changes (c := ⟨.main, none⟩) f s [])

end Vigil

theorem Reachable.vigil (h : Reachable s d) : Vigil s := by
  induction h with
  | init => exact .init
  | @next s s' d d' h tr ih =>
    have sound := h.sound
    cases tr with
    | stray => exact ih.of_same rfl rfl
    | move rests m => exact ih.move sound.formed (State.idle_of_resting rests) m
    | step =>
      have next := State.step_cases sound.wakeful.waitsOnOwn
      generalize s.step = s' at next
      cases next with
      | item first e =>
        subst first
        exact ih.effect e
      | work _ _ w => exact ih.work sound.formed w
      | rest => exact ih

/-! ### Who is registered after an item of the agenda -/

namespace State

theorem registry_silenced (g : TaskId) (tasks : s'.tasks = s.tasks) (calls : s'.calls = s.calls)
    (given : ∃ f : Signal → Signal, s'.signals = s.signals.modify g f ∧ ∀ m, (f m).waker = none)
    (r : Resource) : s'.registry r = s.registry r ∨ s'.registry r = [] ∧ ∀ u, r ≠ .handle u := by
  obtain ⟨f, signals, free⟩ := given
  cases r with
  | group h =>
    by_cases mine : g = h
    · subst mine
      refine .inr ⟨?_, by simp⟩
      rw [registry, registered?, signals, Store.get?_modify_self]
      cases s.signals.get? g with
      | none => rfl
      | some m => exact congrArg Option.toList (free m)
    · exact .inl (by rw [registry, registry, registered?, registered?, signals,
        Store.get?_modify_of_ne mine])
  | handle => exact .inl (by rw [registry, registry, tasks])
  | call => exact .inl (by rw [registry, registry, calls])

theorem registry_answered (k : CallId) (tasks : s'.tasks = s.tasks)
    (given : ∃ f : Call → Call, s'.calls = s.calls.modify k f ∧ ∀ m, (f m).waker = none)
    (signals : s'.signals = s.signals) (r : Resource) :
    s'.registry r = s.registry r ∨ s'.registry r = [] ∧ ∀ u, r ≠ .handle u := by
  obtain ⟨f, calls, free⟩ := given
  cases r with
  | call j =>
    by_cases mine : k = j
    · subst mine
      refine .inr ⟨?_, by simp⟩
      rw [registry, calls, Store.get?_modify_self]
      cases s.calls.get? k with
      | none => rfl
      | some m => exact congrArg Option.toList (free m)
    · exact .inl (by rw [registry, registry, calls, Store.get?_modify_of_ne mine])
  | handle => exact .inl (by rw [registry, registry, tasks])
  | group => exact .inl (by rw [registry, registry, registered?, registered?, signals])

end State

/-- An item of the agenda registers nobody.  It may leave nobody: with a task, when that has ended
or goes. -/
theorem Effect.registry (e : Effect s a s') (r : Resource) : s'.registry r = s.registry r ∨
    s'.registry r = [] ∧ ∀ u, r = .handle u → a = .wakeWaiters u ∨ s'.tasks.get? u = none := by
  have same : ∀ {x : State}, State.Registers [] s x → x.registry r = s.registry r ∨
      x.registry r = [] ∧ ∀ u, r = .handle u → a = .wakeWaiters u ∨ x.tasks.get? u = none :=
    fun registers => .inl (registers.same r)
  have quiet : ∀ {x : State},
      x.registry r = s.registry r ∨ x.registry r = [] ∧ (∀ u, r ≠ .handle u) →
      x.registry r = s.registry r ∨
        x.registry r = [] ∧ ∀ u, r = .handle u → a = .wakeWaiters u ∨ x.tasks.get? u = none :=
    Or.imp_right fun gone => ⟨gone.1, fun u mine => absurd mine (gone.2 u)⟩
  -- only an end, a reply and a group that has heard empty a list
  cases e with
  | resume =>
    refine same (.tail ?_ (.enqueue _ _ _))
    exact .of_stores rfl rfl rfl
  | @trip g =>
    have marked : State.Registers [] s (s.modifySignal g fun m => { m with tripped := true }) :=
      .modifySignal fun _ => rfl
    exact same (marked.tail (.of_stores rfl rfl rfl))
  | @announce g | @silence g =>
    refine quiet (State.registry_silenced g ?_ ?_ ?_ r)
    exacts [rfl, rfl, ⟨_, rfl, fun _ => rfl⟩]
  | @answer k | @dropAnswered k =>
    refine quiet (State.registry_answered k ?_ ?_ ?_ r)
    exacts [rfl, ⟨_, rfl, fun _ => rfl⟩, rfl]
  | dropPending => exact same (.modifyCall fun _ => rfl)
  | @wakeWaiters t task found =>
    cases r with
    | handle u =>
      by_cases mine : t = u
      · subst mine
        refine .inr ⟨?_, fun v target => .inl (by cases target; rfl)⟩
        simp [State.registry, State.modifyTask, State.doFirst, Store.get?_modify_self, found]
      · left
        simp only [State.registry, State.modifyTask, State.doFirst, Store.get?_modify_of_ne mine]
    | call | group => exact .inl rfl
  | @bury t task found =>
    cases r with
    | handle u =>
      by_cases mine : t = u
      · subst mine
        refine .inr ⟨?_, fun v target =>
          .inr (by cases target; simp [State.doFirst, Store.get?_erase])⟩
        simp [State.registry, State.doFirst, Store.get?_erase]
      · left
        simp only [State.registry, State.doFirst, Store.get?_erase, if_neg mine]
    | call | group => exact .inl rfl
  | @reportFailure t f _ only =>
    have looked : State.Registers [] s (s.modifyTask t f) := .modifyTask fun m => by
      obtain ⟨b, eq⟩ := only m
      rw [eq]
    exact same (looked.tail (.of_stores rfl rfl rfl))
  | @dropHandle t f _ only =>
    have dropped : State.Registers [] s (s.modifyTask t f) := .modifyTask fun m => by
      obtain ⟨b, eq⟩ := only m
      rw [eq]
    exact same (dropped.tail (.of_stores rfl rfl rfl))
  | @forget t =>
    have bodiless : State.Registers [] s (s.modifyTask t fun m => { m with fiber := none }) :=
      .modifyTask fun _ => rfl
    exact same (bodiless.tail (.of_stores rfl rfl rfl))
  | _ => exact same (.of_stores rfl rfl rfl)

/-- A move of the main thread registers nobody. -/
theorem Move.registry (formed : Formed s) (unmade : s.signals.get? s.nextNode = none)
    (m : Move s d s' d') : State.Registers [] s s' := by
  have start : ∀ {x : State} (r : RuntimeId) (goal : Goal), State.Registers [] s x →
      State.Registers [] s (x.start r goal) := by
    intro x r goal before
    obtain ⟨trace, eq⟩ := x.start_eq r goal
    rw [eq]
    exact before.tail (.of_stores rfl rfl rfl)
  cases m with
  | build place batch stem =>
    rcases s.build_cases place batch stem with same | ⟨-, settings, built⟩
    · rw [same]
      exact .refl
    · rw [built]
      exact .of_stores rfl rfl rfl
  | start | block | join => exact start _ _ .refl
  | startRounds =>
    refine start _ _ (.tail ?_ (.enqueue _ _ _))
    exact .of_stores rfl rfl rfl
  | launchRoot => exact .spawned formed _ _ _ _ _
  | @leaveRoot r t =>
    have taken : State.Registers [] s (s.modifyTask t fun m => { m with outcome := none }) :=
      .modifyTask fun _ => rfl
    exact taken.tail (.of_stores rfl rfl rfl)
  | close => exact .of_stores rfl rfl rfl
  | line plain =>
    exact (State.plain?_registers formed unmade plain).tail (.of_stores rfl rfl rfl)
  | @shelve f =>
    have all : ∀ (f : Frame) (x : State), State.Registers [] x (x.shelve f) := by
      intro f
      induction f with
      | nil => exact fun x => .refl
      | cons item rest ih =>
        intro x
        have shared : State.Registers [] x
            { (x.share item.1 item.2).1 with agenda := x.agenda ++ (x.share item.1 item.2).2 } :=
          .of_stores rfl rfl rfl
        exact shared.tail (ih _)
    exact all f s

/-! ### The waiters of a task are woken once -/

/-- The task whose waiters an item of the agenda wakes. -/
def Action.rouses? : Action → Option TaskId
  | .wakeWaiters t => some t
  | _ => none

/-- The tasks whose waiters are about to be woken. -/
def State.rousing (s : State) : List TaskId :=
  s.agenda.filterMap Action.rouses?

theorem mem_rousing : u ∈ s.rousing ↔ .wakeWaiters u ∈ s.agenda := by
  rw [State.rousing, List.mem_filterMap]
  constructor
  · rintro ⟨a, mine, rouses⟩
    cases a <;> cases rouses
    exact mine
  · exact fun mine => ⟨_, mine, rfl⟩

namespace State

theorem rousing_doFirst {as : List Action} (mute : as.filterMap Action.rouses? = []) :
    (s.doFirst as).rousing = s.rousing := by
  rw [rousing, doFirst, List.filterMap_append, mute]
  rfl

theorem rousing_of_quiet (quiet : s.Quiet) : s.rousing = [] := by
  refine List.eq_nil_iff_forall_not_mem.2 fun u rouses => ?_
  exact absurd (quiet _ (mem_rousing.1 rouses)) (by simp [Action.parts])

theorem mute_map {α : Type} {f : α → Action} (mute : ∀ x, (f x).rouses? = none) (l : List α) :
    (l.map f).filterMap Action.rouses? = [] := by
  rw [List.filterMap_map, List.filterMap_eq_nil_iff]
  exact fun x _ => mute x

end State

/-- No item of the agenda asks for waiters to be woken. -/
theorem Effect.rousing (e : Effect s a s') : s'.rousing.Sublist s.rousing := by
  have mute : ∀ {x : State} {as : List Action}, x.agenda = s.agenda →
      as.filterMap Action.rouses? = [] → (x.doFirst as).rousing.Sublist s.rousing := by
    intro x as same mute
    rw [State.rousing_doFirst mute, State.rousing, same]
    exact List.Sublist.refl _
  cases e with
  | panic =>
    -- what a panic leaves on the agenda calls nobody any more
    rw [State.rousing, State.rousing, List.filterMap_filterMap]
    have none_left : s.agenda.filterMap (fun b => b.afterPanic.bind Action.rouses?) = [] := by
      refine List.filterMap_eq_nil_iff.2 fun b _ => ?_
      cases b with
      | wake w => cases w <;> rfl
      | _ => rfl
    rw [none_left]
    exact List.nil_sublist _
  | finish =>
    refine mute rfl ?_
    split <;> rfl
  | reapLast =>
    refine mute rfl ?_
    rw [List.filterMap_append]
    split <;> split <;> rfl
  | bury => exact mute rfl (State.mute_map (fun w => by cases w <;> rfl) _)
  | resume =>
    unfold State.enqueue
    split
    · exact mute rfl rfl
    · exact List.Sublist.refl _
  | _ => first | exact List.Sublist.refl _ | exact mute rfl (by simp [Action.rouses?])

/-- The end of a task is the only thing that asks for waiters to be woken. -/
theorem Work.rousing (formed : Formed s) (dispatch : Dispatch s) (idle : s.agenda = [])
    (w : Work s home s') :
    s'.rousing = [] ∨ ∃ t, s'.rousing = [t] ∧ (s.phase t).isTerminal = false := by
  have line : ∀ {c : Context} {hand hand' : List Resource} {x : State},
      Changes c s hand x hand' → x.Quiet := fun changes =>
    (changes.ofLine formed (.idle idle)).quiet
  have quiet : ∀ {x : State}, x.Quiet →
      x.rousing = [] ∨ ∃ t, x.rousing = [t] ∧ (s.phase t).isTerminal = false :=
    fun quiet => .inl (State.rousing_of_quiet quiet)
  have still : s.Quiet := .idle idle
  cases w with
  | next _ _ changes | suspend _ _ changes | pause _ _ _ changes | handle _ changes
    | hold _ _ changes =>
    have after := line changes
    exact quiet after
  | ends _ _ changes =>
    have after := line changes
    refine quiet (after.doLast fun b hb => ?_)
    rcases List.mem_append.1 hb with hb | hb
    · obtain ⟨e, -, rfl⟩ := List.mem_map.1 hb
      rfl
    · obtain ⟨r, -, rfl⟩ := List.mem_map.1 hb
      rfl
  | handled _ _ changes =>
    have after := line changes
    refine quiet (after.doLast fun b hb => ?_)
    obtain ⟨r, -, rfl⟩ := List.mem_map.1 hb
    rfl
  | rest | leave | refuse => exact quiet (still.doFirst (by simp [Action.parts]))
  | again =>
    refine quiet (.enqueue ?_ _ _ _)
    exact still.doFirst (by simp [Action.parts])
  | endBody =>
    refine quiet (still.doFirst fun b hb => ?_)
    obtain ⟨n, -, rfl⟩ := List.mem_map.1 hb
    rfl
  | @complete t stage p trace during past =>
    -- the agenda was empty, and the task ends only now
    refine .inr ⟨t, ?_, ?_⟩
    · rw [State.rousing, State.doFirst, List.filterMap_append]
      exact congrArg _ (State.rousing_of_quiet still)
    · rcases dispatch.ongoing_of_over during past with up | up <;> rw [up] <;> rfl
  | drainAgain =>
    refine quiet (.enqueue ?_ _ _ _)
    exact still
  | reply =>
    refine quiet (still.doFirst fun b hb => ?_)
    obtain ⟨k, -, rfl⟩ := List.mem_map.1 hb
    rfl
  | @markerAgain serial queue =>
    have popped : (s.popped home queue).Quiet := still
    exact quiet (popped.enqueue _ _ _)
  | _ => exact quiet still

/-- A move of the main thread asks for no waiters to be woken. -/
theorem Move.rousing (formed : Formed s) (idle : s.agenda = []) (m : Move s d s' d') :
    s'.rousing = [] := by
  refine State.rousing_of_quiet ?_
  have still : s.Quiet := .idle idle
  have start : ∀ {x : State} (r : RuntimeId) (goal : Goal), x.Quiet → (x.start r goal).Quiet := by
    intro x r goal quiet
    obtain ⟨trace, eq⟩ := x.start_eq r goal
    rw [eq]
    exact quiet
  cases m with
  | build place batch stem =>
    rcases s.build_cases place batch stem with same | ⟨-, settings, built⟩
    · rwa [same]
    · rw [built]
      exact still
  | start | block | join => exact start _ _ still
  | startRounds =>
    refine start _ _ (.enqueue ?_ _ _ _)
    exact still
  | @launchRoot _ r _ body =>
    obtain ⟨nodes, trace, -, eq⟩ :=
      State.launch_addNode_eq formed.nodes .normal none r body true
    rw [State.launchRoot, eq]
    refine .enqueue ?_ _ _ _
    exact still
  | leaveRoot => exact still.doFirst (by simp [Action.parts])
  | close =>
    refine still.doFirst fun b hb => ?_
    obtain ⟨e, -, rfl⟩ := List.mem_map.1 hb
    rfl
  | line plain => exact ((State.plain?_fits idle plain).ofLine formed (.idle idle)).quiet
  | @shelve f =>
    exact ((State.shelve_changes (c := ⟨.main, none⟩) f s []).ofLine formed (.idle idle)).quiet

/-- The waiters of a task come to be woken only when it ends, and no others are about to be woken
then. -/
theorem Transition.rouses (h : Reachable s d) (tr : Transition s d s' d') :
    s'.rousing.Sublist s.rousing ∨
      s.rousing = [] ∧ ∃ t, s'.rousing = [t] ∧ (s.phase t).isTerminal = false := by
  have sound := h.sound
  cases tr with
  | step =>
    have next := State.step_cases sound.wakeful.waitsOnOwn
    generalize s.step = s' at next
    cases next with
    | @item a s₀ s' first e =>
      subst first
      exact .inl (e.rousing.trans ((List.sublist_cons_self a s₀.agenda).filterMap _))
    | work idle active w =>
      have before : s.rousing = [] := State.rousing_of_quiet (.idle idle)
      rcases w.rousing sound.formed sound.dispatch idle with nobody | one
      · exact .inl (by rw [nobody, before])
      · exact .inr ⟨before, one⟩
    | rest => exact .inl (List.Sublist.refl _)
  | stray idle => exact .inl (by rw [State.rousing_doFirst rfl])
  | move rests m =>
    have idle := State.idle_of_resting rests
    exact .inl (by rw [m.rousing sound.formed idle]; exact List.nil_sublist _)

/-- The waiters of a task that has ended are woken once. -/
theorem Transition.not_rousing (h : Reachable s d) (tr : Transition s d s' d')
    (ended : (s.phase u).isTerminal = true ∧ u ∉ s.rousing) :
    (s'.phase u).isTerminal = true ∧ u ∉ s'.rousing := by
  refine ⟨(congrArg _ ((tr.lasts h.sound).phase ended.1)).trans ended.1, fun rouses => ?_⟩
  rcases tr.rouses h with fewer | ⟨-, t, one, ongoing⟩
  · exact ended.2 (fewer.subset rouses)
  · rw [one, List.mem_singleton] at rouses
    rw [← rouses, ended.1] at ongoing
    cases ongoing

/-- No two tasks wake their waiters at once, and none twice. -/
theorem Reachable.rouses_one (h : Reachable s d) : s.rousing.length ≤ 1 := by
  induction h with
  | init => exact Nat.zero_le 1
  | next h tr ih =>
    rcases tr.rouses h with fewer | ⟨-, t, one, -⟩
    · exact fewer.length_le.trans ih
    · rw [one]
      exact Nat.le_refl 1

end Nursery
