import Nursery.Proofs.Invariant.Lasts
import Nursery.Proofs.Invariant.Spread
import Nursery.Proofs.Tree.Steady

/-!
# What has gone does not come back

A node is alive while its task is known, its group was not dropped, somebody can get at the signal
of the group, or a living parent lists it.  A task and a group are made together with their node,
and whoever can be told of a group was there before it could be told of anything else, so a node
that is not alive stays so.

* `State.Rooted` : a node is alive for its own sake.
* `Fades` : no node that was there comes to be alive for its own sake.
* `Effect.fades`, `Changes.fades`, `Work.fades`, `Move.fades` : every transition keeps it so.
* `Transition.alive`, `Leads.alive` : **a node that is not alive stays so.**
-/

namespace Nursery

/-- A node is alive for its own sake. -/
def State.Rooted (s : State) (n : TaskId) : Prop :=
  s.tasks.get? n ≠ none ∨ s.groups.get? n ≠ none ∨ s.Heard n

/-- No node that was there comes to be alive for its own sake. -/
structure Fades (s s' : State) : Prop where
  /-- A known node stays known. -/
  knows : ∀ n, s.Knows n → s'.Knows n
  /-- Whoever is alive for its own sake was so before. -/
  rooted : ∀ n, s.Knows n → s'.Rooted n → s.Rooted n

variable {s s' s'' : State} {d d' : Desk} {c : Context} {hand hand' : List Resource} {a : Action}
  {as : List Action} {n p g : TaskId}

theorem State.rooted_iff (distinct : s.tasks.Distinct) : s.rooted n = true ↔ s.Rooted n := by
  have there : ∀ {α : Type} {store : Store TaskId α},
      store.contains n = true ↔ store.get? n ≠ none := fun {α store} =>
    Store.contains_iff.trans Option.ne_none_iff_exists'.symm
  simp only [rooted, Bool.or_eq_true, there, Rooted, or_assoc]
  exact or_congr_right (or_congr_right ⟨heard_of_signalAlive distinct, signalAlive_of_heard⟩)

theorem State.heard_of_waiter {t : TaskId} {task : Task} {w : Waker}
    (found : s.tasks.get? t = some task) (waits : w ∈ task.waiters) (tells : w.tells g = true) :
    s.Heard g :=
  .inr (.inl ⟨t, task, found, w, waits, tells⟩)

theorem Action.tells_of_afterPanic {b : Action} (h : a.afterPanic = some b)
    (tells : b.tells g = true) : a.tells g = true := by
  cases a with
  | wake w =>
    cases h
    exact (State.tells_forget w).symm.trans tells
  | _ => cases h <;> exact tells

namespace Fades

theorem refl (s : State) : Fades s s where
  knows _ := id
  rooted _ _ := id

theorem trans (h : Fades s s') (h' : Fades s' s'') : Fades s s'' where
  knows n known := h'.knows n (h.knows n known)
  rooted n known rooted := h.rooted n known (h'.rooted n (h.knows n known) rooted)

theorem of (knows : ∀ n, s.Knows n → s'.Knows n)
    (tasks : ∀ t task, s'.tasks.get? t = some task → (s.Knows t → s.tasks.get? t ≠ none) ∧
      ∀ w ∈ task.waiters, ∀ g, w.tells g = true → s.Heard g)
    (groups : ∀ g, s.Knows g → s'.groups.get? g ≠ none → s.groups.get? g ≠ none)
    (agenda : ∀ b ∈ s'.agenda, ∀ g, b.tells g = true → s.Heard g) : Fades s s' where
  knows := knows
  rooted n known rooted := by
    have group : s'.groups.get? n ≠ none → s.Rooted n := fun found =>
      .inr (.inl (groups n known found))
    rcases rooted with task | found | heard
    · obtain ⟨task, found⟩ := Option.ne_none_iff_exists'.1 task
      exact .inl ((tasks n task found).1 known)
    · exact group found
    rcases heard with ⟨m, found⟩ | ⟨t, task, found, w, waits, tells⟩ | ⟨b, hb, tells⟩
    · exact group (by simp [found])
    · exact .inr (.inr ((tasks t task found).2 w waits n tells))
    · exact .inr (.inr (agenda b hb n tells))

theorem tasks_same (same : s'.tasks = s.tasks) (t : TaskId) (task : Task)
    (found : s'.tasks.get? t = some task) : (s.Knows t → s.tasks.get? t ≠ none) ∧
      ∀ w ∈ task.waiters, ∀ g, w.tells g = true → s.Heard g := by
  rw [same] at found
  exact ⟨fun _ => by simp [found], fun w waits g => State.heard_of_waiter found waits⟩

theorem ahead (free : ∀ b ∈ as, ∀ g, b.tells g = false) :
    ∀ b ∈ as ++ s.agenda, ∀ g, b.tells g = true → s.Heard g := by
  intro b hb g tells
  rcases List.mem_append.1 hb with new | old
  · cases (free b new g).symm.trans tells
  · exact .inr (.inr ⟨b, old, tells⟩)

theorem quietly (knows : ∀ n, s.Knows n → s'.Knows n) (tasks : s'.tasks = s.tasks)
    (groups : s'.groups = s.groups) (agenda : s'.agenda = as ++ s.agenda)
    (free : ∀ b ∈ as, ∀ g, b.tells g = false) : Fades s s' :=
  of knows (tasks_same tasks) (fun _ _ known => groups ▸ known) (agenda ▸ ahead free)

theorem same (knows : ∀ n, s.Knows n → s'.Knows n) (tasks : s'.tasks = s.tasks)
    (groups : s'.groups = s.groups) (agenda : s'.agenda = s.agenda) : Fades s s' :=
  quietly knows tasks groups (agenda.trans (List.nil_append _).symm) (by simp)

theorem doFirst (free : ∀ b ∈ as, ∀ g, b.tells g = false) : Fades s (s.doFirst as) :=
  quietly (fun _ => id) rfl rfl rfl free

theorem doLast (free : ∀ b ∈ as, ∀ g, b.tells g = false) : Fades s (s.doLast as) := by
  refine of (fun _ => id) (tasks_same rfl) (fun _ _ => id) fun b hb g tells => ?_
  rcases List.mem_append.1 hb with old | new
  · exact .inr (.inr ⟨b, old, tells⟩)
  · cases (free b new g).symm.trans tells

theorem enqueue (r : RuntimeId) (p : Priority) (e : Entry) : Fades s (s.enqueue r p e) := by
  unfold State.enqueue
  split
  · exact doFirst (by simp [Action.tells])
  · exact same (fun _ => id) rfl rfl rfl

theorem retask (knows : ∀ n, s.Knows n → s'.Knows n) {t : TaskId} {f : Task → Task}
    (tasks : s'.tasks = s.tasks.modify t f)
    (waiters : ∀ m, ∀ w ∈ (f m).waiters, w ∈ m.waiters ∨ ∀ g, w.tells g = false)
    (groups : s'.groups = s.groups) (agenda : s'.agenda = as ++ s.agenda)
    (free : ∀ b ∈ as, ∀ g, b.tells g = false) : Fades s s' := by
  refine of knows (fun u task found => ?_) (fun g _ known => groups ▸ known) (agenda ▸ ahead free)
  rw [tasks] at found
  obtain ⟨m, old, rfl⟩ := Store.get?_modify_eq_some.1 found
  refine ⟨fun _ => by simp [old], fun w waits g tells => ?_⟩
  split at waits
  · rcases waiters m w waits with before | free
    · exact State.heard_of_waiter old before tells
    · cases (free g).symm.trans tells
  · exact State.heard_of_waiter old waits tells

theorem modifyGroup (g : TaskId) (f : Group → Group) : Fades s (s.modifyGroup g f) :=
  of (fun _ => id) (tasks_same rfl) (fun _ _ known none => known (Store.get?_modify_eq_none.2 none))
    fun b hb _ tells => .inr (.inr ⟨b, hb, tells⟩)

/-! ### Items of the agenda -/

/-- An item of the agenda is done: tasks lose waiters or go, groups go, and whoever a new item
tells could be told before. -/
theorem item (knows : ∀ n, s.Knows n → s'.Knows n)
    (tasks : ∀ t task, s'.tasks.get? t = some task →
      ∃ old, s.tasks.get? t = some old ∧ ∀ w ∈ task.waiters, w ∈ old.waiters)
    (groups : ∀ g, s.groups.get? g = none → s'.groups.get? g = none)
    (agenda : s'.agenda = as ++ s.agenda)
    (new : ∀ b ∈ as, ∀ g, b.tells g = true → (s.doFirst [a]).Heard g) :
    Fades (s.doFirst [a]) s' := by
  refine of knows (fun t task found => ?_) (fun g _ known none => known (groups g none))
    fun b hb g tells => ?_
  · obtain ⟨old, found, fewer⟩ := tasks t task found
    exact ⟨fun _ => by simpa [State.doFirst] using Option.ne_none_iff_exists'.2 ⟨old, found⟩,
      fun w waits g => State.heard_of_waiter found (fewer w waits)⟩
  · rw [agenda] at hb
    rcases List.mem_append.1 hb with hb | old
    · exact new b hb g tells
    · exact .inr (.inr ⟨b, List.mem_cons_of_mem _ old, tells⟩)

end Fades

theorem Effect.fades (e : Effect s a s') : Fades (s.doFirst [a]) s' := by
  have knows : ∀ n, s.Knows n → s'.Knows n := by
    intro n known
    obtain ⟨m, found⟩ := known
    obtain ⟨m', found', -⟩ := Lasts.effect e n m found
    exact ⟨m', found'⟩
  have stay : ∀ t task, s.tasks.get? t = some task →
      ∃ old, s.tasks.get? t = some old ∧ ∀ w ∈ task.waiters, w ∈ old.waiters :=
    fun t task found => ⟨task, found, fun _ => id⟩
  have fewer : ∀ {u : TaskId} {f : Task → Task}, (∀ m, ∀ w ∈ (f m).waiters, w ∈ m.waiters) →
      ∀ t task, (s.modifyTask u f).tasks.get? t = some task →
        ∃ old, s.tasks.get? t = some old ∧ ∀ w ∈ task.waiters, w ∈ old.waiters := by
    intro u f less t task found
    obtain ⟨m, old, rfl⟩ := Store.get?_modify_eq_some.1 found
    refine ⟨m, old, ?_⟩
    split
    · exact less m
    · exact fun _ => id
  have told : ∀ {b : Action}, b ∈ (s.doFirst [a]).agenda → ∀ g, b.tells g = true →
      (s.doFirst [a]).Heard g := fun hb g tells => .inr (.inr ⟨_, hb, tells⟩)
  cases e with
  | spent | orphan | reap | record | dropPending =>
    exact .item knows stay (fun _ => id) (List.nil_append _).symm (by simp)
  | cancel | notify | awake | announce | answer | dropGroup | dropUndrained | dropAnswered
  | discardTask | discardDrain =>
    exact .item knows stay (fun _ => id) rfl (by simp [Action.tells, Waker.tells])
  | finish =>
    refine .item knows stay (fun _ => id) rfl fun b hb g tells => ?_
    split at hb <;> simp_all [Action.tells]
  | reapLast =>
    refine .item knows stay (fun _ => id) rfl fun b hb g tells => ?_
    rcases List.mem_append.1 hb with hb | hb <;> split at hb <;>
      simp_all [Action.tells, Waker.tells]
  | @resume t task =>
    have next : Fades (s.doFirst [.wake (.task t)]) (s.setPhase t .ready) := by
      refine .item (fun n known => ?_) stay (fun _ => id) (List.nil_append _).symm (by simp)
      obtain ⟨m, found⟩ := knows n known
      exact ⟨m, by simpa using found⟩
    exact next.trans (.enqueue _ _ _)
  | inform | trip =>
    -- the waker of a child held on to the signal that is told now
    refine .item knows stay (fun _ => id) rfl fun b hb g tells => told List.mem_cons_self g ?_
    simp only [List.mem_cons, List.not_mem_nil, or_false] at hb
    rcases hb with rfl | rfl | rfl <;> first | cases tells | exact tells
  | wakeWaiters found =>
    refine .item knows (fewer fun _ _ => by simp) (fun _ => id) rfl fun b hb g tells => ?_
    obtain ⟨w, waits, rfl⟩ := List.mem_map.1 hb
    exact State.heard_of_waiter found waits tells
  | reportFailure trace only =>
    refine .item knows (fewer fun m w hw => ?_) (fun _ => id) (List.nil_append _).symm (by simp)
    obtain ⟨b, eq⟩ := only m
    rwa [eq] at hw
  | panic =>
    refine .of knows (Fades.tasks_same rfl) (fun _ _ => id) fun b hb g tells => ?_
    obtain ⟨b', old, left⟩ := List.mem_filterMap.1 hb
    exact told (List.mem_cons_of_mem _ old) g (Action.tells_of_afterPanic left tells)
  | dropHandle trace only =>
    refine .item knows (fewer fun m w hw => ?_) (fun _ => id) rfl (by simp [Action.tells])
    obtain ⟨b, eq⟩ := only m
    rwa [eq] at hw
  | @dissolve g group found =>
    refine .item knows stay (fun k none => ?_) rfl fun b hb k tells => ?_
    · exact (Store.get?_erase ..).trans (by split <;> simp_all)
    · rcases List.mem_append.1 hb with hb | hb
      · obtain ⟨t, -, rfl⟩ := List.mem_map.1 hb
        cases tells
      · rw [List.mem_singleton.1 hb] at tells
        obtain rfl : g = k := by simpa [Action.tells] using tells
        exact .inl ⟨group, found⟩
  | forget =>
    refine .item knows (fewer fun _ _ => id) (fun _ => id) rfl fun b hb g tells => ?_
    rcases List.mem_append.1 hb with hb | hb
    · obtain ⟨r, -, rfl⟩ := List.mem_map.1 hb
      cases tells
    · rw [List.mem_singleton.1 hb] at tells
      cases tells
  | @bury t task found =>
    refine .item knows (fun u task' here => ?_) (fun _ => id) rfl fun b hb g tells => ?_
    · replace here := (Store.get?_erase ..).symm.trans here
      split at here
      · cases here
      · exact stay u task' here
    · obtain ⟨w, waits, rfl⟩ := List.mem_map.1 hb
      exact State.heard_of_waiter found waits ((State.tells_forget w).symm.trans tells)
  | silence =>
    refine .item knows stay (fun _ => id) rfl fun b hb g tells => ?_
    obtain ⟨t, -, rfl⟩ := List.mem_map.1 hb
    cases tells
  | abandon =>
    refine .item knows stay (fun _ => id) rfl fun b hb g tells => ?_
    obtain ⟨k, -, rfl⟩ := List.mem_map.1 hb
    cases tells

/-! ### Lines, work and moves -/

namespace Fades

theorem setTask (knows : ∀ n, s.Knows n → s'.Knows n) (fresh : ¬ s.Knows n) {task : Task}
    (tasks : s'.tasks = s.tasks.set n task) (agenda : s'.agenda = s.agenda)
    (groups : ∀ g, s'.groups.get? g ≠ none → s.groups.get? g ≠ none)
    (waiters : ∀ w ∈ task.waiters, ∀ g, w.tells g = true → s.Heard g) : Fades s s' := by
  refine of knows (fun t m found => ?_) (fun g _ => groups g) fun b hb g tells => ?_
  · rw [tasks] at found
    by_cases new : n = t
    · subst new
      cases Store.get?_set_self.symm.trans found
      exact ⟨fun known => absurd known fresh, waiters⟩
    · rw [Store.get?_set_of_ne new] at found
      exact tasks_same rfl t m found
  · rw [agenda] at hb
    exact .inr (.inr ⟨b, hb, tells⟩)

theorem not_knows_next (formed : Formed s) : ¬ s.Knows s.nextNode := by
  rintro ⟨m, found⟩
  cases (State.fresh_nextNode formed.nodes).symm.trans found

theorem launch (formed : Formed s) (priority : Priority) (parent : Option TaskId)
    (home : RuntimeId) (body : List Line) (blocking : Bool) :
    Fades s ((s.addNode .task priority parent).launch s.nextNode home body blocking) := by
  obtain ⟨nodes, trace, grown, eq⟩ :=
    State.launch_addNode_eq formed.nodes priority parent home body blocking
  rw [eq]
  refine .trans ?_ (enqueue _ _ _)
  refine setTask (fun n known => ?_) (not_knows_next formed) rfl rfl (fun _ => id) (by simp)
  have lasts : Lasts s { s with nodes := nodes } := .grow formed.nodes grown rfl
  obtain ⟨m, found⟩ := known
  obtain ⟨m', found', -⟩ := lasts n m found
  exact ⟨m', found'⟩

theorem post (x : ActorId) (home : RuntimeId) (message : Message) :
    Fades s (s.post x home message) := by
  unfold State.post
  split
  · exact refl s
  · dsimp only
    split
    · exact same (fun _ => id) rfl rfl rfl
    · refine .trans ?_ (enqueue _ _ _)
      exact same (fun _ => id) rfl rfl rfl

theorem change (formed : Formed s) (hc : Change c s hand s' hand') : Fades s s' := by
  have knows : ∀ n, s.Knows n → s'.Knows n := by
    intro n known
    obtain ⟨m, found⟩ := known
    obtain ⟨cs, found'⟩ := (Keeps.change formed hc).nodes n m found
    exact ⟨_, found'⟩
  have fresh : ¬ s.Knows s.nextNode := not_knows_next formed
  cases hc with
  | tell | shed | nameTask | adopt | share | actor | refuse | learn | state =>
    exact same knows rfl rfl rfl
  | spawn => exact launch formed _ _ _ _ _
  | @group home =>
    obtain ⟨nodes, trace, priority, -, eq⟩ := State.makeGroup_eq formed.nodes c home
    rw [eq] at knows ⊢
    refine of knows (tasks_same rfl) (fun g known => ?_)
      fun b hb _ tells => .inr (.inr ⟨b, hb, tells⟩)
    have old : s.nextNode ≠ g := fun new => fresh (new ▸ known)
    exact fun found => (Store.get?_set_of_ne old).symm.trans_ne found
  | @add g group priority body idle mine found =>
    obtain ⟨nodes, trace, p, grown, eq⟩ :=
      State.addChild_eq formed.nodes formed.fresh_task g group priority body
    rw [eq] at knows ⊢
    refine .trans ?_ (enqueue _ _ _)
    refine setTask (fun n known => ?_) fresh rfl rfl (fun k known none => ?_) ?_
    · simpa [State.Knows] using knows n known
    · exact known (Store.get?_modify_eq_none.2 none)
    · intro w hw k tells
      rw [List.mem_singleton.1 hw] at tells
      obtain rfl : g = k := by simpa [Waker.tells] using tells
      exact .inl ⟨group, found⟩
  | call =>
    refine .trans ?_ (post _ _ _)
    exact same (fun _ => id) rfl rfl rfl
  | send => exact post _ _ _
  | register =>
    refine retask knows rfl (fun m w hw => ?_) rfl (List.nil_append _).symm (by simp)
    refine (List.mem_append.1 hw).imp id fun new k => ?_
    rw [List.mem_singleton.1 new]
    rfl
  | take => exact retask knows rfl (fun _ _ hw => .inl hw) rfl (List.nil_append _).symm (by simp)
  | expect | listen => exact quietly knows rfl rfl rfl (by simp [Action.tells])
  | @draw g index rest =>
    have drawn : Fades s (s.modifySignal g fun m => { m with completed := rest }) :=
      same (fun _ => id) rfl rfl rfl
    exact drawn.trans (modifyGroup _ _)
  | fail => exact modifyGroup _ _
  | @park t name =>
    have named : Fades s { s with parked := s.parked.set name t } := same (fun _ => id) rfl rfl rfl
    exact named.trans (doLast (by simp [Action.tells]))
  | record | release | cancel | wake => exact doLast (by simp [Action.tells, Waker.tells])

end Fades

/-- A line brings nobody back. -/
theorem Changes.fades (formed : Formed s) (hc : Changes c s hand s' hand') : Fades s s' :=
  (hc.invariant (I := fun x _ => Formed x ∧ Fades s x)
    (fun hc h => ⟨h.1.change hc, h.2.trans (.change h.1 hc)⟩) ⟨formed, .refl s⟩).2

/-- What a worker does brings nobody back. -/
theorem Work.fades (formed : Formed s) (dispatch : Dispatch s) {home : RuntimeId}
    (w : Work s home s') : Fades s s' := by
  have knows : ∀ n, s.Knows n → s'.Knows n := by
    intro n known
    obtain ⟨m, found⟩ := known
    obtain ⟨m', found', -⟩ := Lasts.work formed dispatch w n m found
    exact ⟨m', found'⟩
  -- a body changes, and nothing else that matters here
  have body : ∀ {x y : State} {t : TaskId} {f : Option Fiber}, (∀ n, x.Knows n → y.Knows n) →
      y.tasks = x.tasks.modify t (fun m => { m with fiber := f }) → y.groups = x.groups →
        y.agenda = x.agenda → Fades x y := fun knows tasks groups agenda =>
    .retask knows tasks (fun _ _ waits => .inl waits) groups
      (agenda.trans (List.nil_append _).symm) (by simp)
  cases w with
  | stop | lost | receive | drained | beginDrain | markerStop | markerSkip | begin =>
    exact .same knows rfl rfl rfl
  | next _ _ changes | suspend _ _ changes | pause _ _ _ changes =>
    exact (changes.fades formed).trans (body (fun _ => id) rfl rfl rfl)
  | ends told _ changes =>
    refine .trans ((changes.fades formed).trans ?_) (.doLast fun b hb g => ?_)
    · exact body (fun _ => id) rfl rfl rfl
    · rcases List.mem_append.1 hb with hb | hb
      · obtain ⟨e, -, rfl⟩ := List.mem_map.1 hb
        rfl
      · obtain ⟨r, -, rfl⟩ := List.mem_map.1 hb
        rfl
  | rest | complete | leave | refuse =>
    exact .quietly knows rfl rfl rfl (by simp [Action.tells])
  | @again t task stage joining =>
    refine .trans ?_ (.enqueue _ _ _)
    refine .quietly (fun n known => ?_) rfl rfl rfl (by simp [Action.tells])
    obtain ⟨m, found⟩ := knows n known
    exact ⟨m, by simpa using found⟩
  | forgotten => exact .same knows rfl rfl rfl
  | endBody trace cancelled during only =>
    refine .retask knows rfl (fun m w waits => ?_) rfl rfl (by simp [Action.tells])
    obtain ⟨o, a, eq⟩ := only m
    exact .inl (by rwa [eq] at waits)
  | drainAgain =>
    refine .trans ?_ (.enqueue _ _ _)
    exact .same (fun _ => id) rfl rfl rfl
  | handle _ changes | hold _ _ changes =>
    refine (changes.fades formed).trans ?_
    exact .same (fun _ => id) rfl rfl rfl
  | handled _ _ changes =>
    refine .trans ((changes.fades formed).trans ?_) (.doLast fun b hb g => ?_)
    · exact .same (fun _ => id) rfl rfl rfl
    · obtain ⟨r, -, rfl⟩ := List.mem_map.1 hb
      rfl
  | reply => exact .quietly knows rfl rfl rfl (by simp [Action.tells])
  | @markerAgain serial queue band =>
    have popped : Fades s (s.popped home queue) := .same (fun _ => id) rfl rfl rfl
    refine (popped.trans (.enqueue home band (.marker serial))).trans ?_
    exact .same (fun _ => id) rfl rfl rfl

theorem State.fades_start (r : RuntimeId) (goal : Goal) : Fades s (s.start r goal) := by
  obtain ⟨trace, eq⟩ := s.start_eq r goal
  rw [eq]
  exact .same (fun _ => id) rfl rfl rfl

/-- A move of the main thread brings nobody back. -/
theorem Move.fades (formed : Formed s) (idle : s.agenda = []) (m : Move s d s' d') :
    Fades s s' := by
  cases m with
  | build place batch stem =>
    rcases s.build_cases place batch stem with same | ⟨-, settings, built⟩
    · rw [same]
      exact .refl s
    · rw [built]
      exact .same (fun _ => id) rfl rfl rfl
  | start | block | join => exact State.fades_start _ _
  | startRounds =>
    have marked : Fades s { s with markers := s.markers + 1 } := .same (fun _ => id) rfl rfl rfl
    exact (marked.trans (.enqueue _ _ _)).trans (State.fades_start _ _)
  | launchRoot => exact .launch formed _ _ _ _ _
  | leaveRoot =>
    exact .retask (fun _ => id) rfl (fun _ _ waits => .inl waits) rfl rfl (by simp [Action.tells])
  | close => exact .quietly (fun _ => id) rfl rfl rfl (by simp [Action.tells])
  | line plain => exact (State.plain?_fits idle plain).fades formed
  | @shelve f => exact (State.shelve_changes (c := { who := .main }) f s []).fades formed

/-- **No transition brings a node back.** -/
theorem Transition.fades (h : Sound s d) (t : Transition s d s' d') : Fades s s' := by
  cases t with
  | step =>
    have next := State.step_cases h.wakeful.waitsOnOwn
    generalize s.step = s' at next
    cases next with
    | item first e =>
      subst first
      exact e.fades
    | work _ _ w => exact w.fades h.formed h.dispatch
    | rest => exact .refl s
  | stray => exact .doFirst (by simp [Action.tells, Waker.tells])
  | move rests m => exact m.fades h.formed (State.idle_of_resting rests)

/-! ### Who is alive -/

/-- Only a new node comes to be listed. -/
theorem Transition.listed (h : Reachable s d) (t : Transition s d s' d') (known : s.Knows n)
    (listed : n ∈ s'.children p) : n ∈ s.children p := by
  cases h.spread t with
  | walk first next =>
    subst next
    rwa [State.children_walk] at listed
  | calm _ spares =>
    obtain ⟨m, found⟩ := known
    exact (spares.listed p n listed).resolve_right (by simp [found])

/-- Nobody comes to be alive, where nobody comes to be alive for its own sake and no node that was
there gets another parent or comes to be listed. -/
theorem State.alive_of_alive (kinship : Kinship s)
    (parents : ∀ n m, s.nodes.get? n = some m →
      ∃ m', s'.nodes.get? n = some m' ∧ m'.parent = m.parent)
    (rooted : ∀ n, s.Knows n → s'.rooted n = true → s.rooted n = true)
    (listed : ∀ p n, s.Knows n → n ∈ s'.children p → n ∈ s.children p) (known : s.Knows n)
    (alive : s'.alive n = true) : s.alive n = true := by
  suffices walk : ∀ steps n, s.Knows n → s'.aliveWithin steps n = true →
      s.aliveWithin steps n = true from walk n.index n known alive
  intro steps
  induction steps with
  | zero => exact rooted
  | succ steps ih =>
    intro n known alive
    unfold State.aliveWithin at alive ⊢
    rcases Bool.or_eq_true_iff.1 alive with here | above
    · rw [rooted n known here, Bool.true_or]
    obtain ⟨m, found⟩ := known
    obtain ⟨m', found', same⟩ := parents n m found
    rw [found', Option.bind_some, same] at above
    rw [found, Option.bind_some]
    cases parent : m.parent with
    | none => simp [parent] at above
    | some p =>
      simp only [parent, Bool.and_eq_true, List.contains_iff_mem] at above
      have before := listed p n ⟨m, found⟩ above.1
      have walk := ih p (kinship.knows before).1 above.2
      simp [before, walk]

/-- **A node that is not alive stays so.** -/
theorem Transition.alive (h : Reachable s d) (t : Transition s d s' d') (known : s.Knows n)
    (alive : s'.alive n = true) : s.alive n = true := by
  have sound := h.sound
  refine State.alive_of_alive sound.kinship (fun n m found => ?_) (fun n known rooted => ?_)
    (fun p n known => t.listed h known) known alive
  · obtain ⟨m', found', lasts⟩ := t.lasts sound n m found
    exact ⟨m', found', lasts.parent⟩
  · have now := (State.rooted_iff (h.next t).sound.formed.distinctTasks).1 rooted
    exact (State.rooted_iff sound.formed.distinctTasks).2 ((t.fades sound).rooted n known now)

theorem Leads.alive (h : Reachable s d) (l : Leads s d s' d') (known : s.Knows n)
    (alive : s'.alive n = true) : s.alive n = true := by
  induction l with
  | refl => exact alive
  | @next x y dx dy l t ih =>
    have before := h.leads l
    obtain ⟨m, found⟩ := known
    obtain ⟨m', found', -⟩ := l.lasts h n m found
    exact ih (t.alive before ⟨m', found'⟩ alive)

end Nursery
