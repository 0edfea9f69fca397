import Nursery.Proofs.Invariant.Own
import Nursery.Proofs.RunQueue

/-!
# A task that is buried is referred to by nobody

A task goes when nobody refers to it, and what its body owned goes first.  Until the task itself
is gone nobody comes to refer to it again, so no queue, no worker and no waker is left with the
name of a task that is not there.  This needs that a waker which is registered somewhere can still
be got at there.

* `State.Loose` : nobody refers to a task.
* `State.Heard` : the signal of a group can be got at.
* `Tether` : the invariant.
* `Tether.effect`, `Tether.change`, `Tether.work`, `Tether.move` : it is kept.
-/

namespace Nursery

/-- An item by which a task parts from the others. -/
def Action.parts : Action → Bool
  | .bury _ | .wakeWaiters _ | .reportFailure _ => true
  | _ => false

namespace State

/-- No task is about to part from the others. -/
def Quiet (s : State) : Prop :=
  ∀ a ∈ s.agenda, a.parts = false

/-- Nobody refers to a task. -/
structure Loose (s : State) (t : TaskId) : Prop where
  /-- Its handle was dropped. -/
  handle : ∀ task, s.tasks.get? t = some task → task.handleDropped = true
  /-- It is in no queue. -/
  queue : ∀ r rt, s.runtimes.get? r = some rt → .task t ∉ rt.queue.toList
  /-- No worker runs it. -/
  slice : ∀ r rt slice, s.runtimes.get? r = some rt → rt.slice = some slice → slice.runs t = false
  /-- No item of the agenda refers to it. -/
  agenda : ∀ a ∈ s.agenda, a.refersTo t = false
  /-- It waits for no task. -/
  waiters : ∀ u task, s.tasks.get? u = some task → .task t ∉ task.waiters
  /-- It waits for no group. -/
  signals : ∀ g signal, s.signals.get? g = some signal → signal.waker ≠ some t
  /-- It waits for no reply. -/
  calls : ∀ k call, s.calls.get? k = some call → call.waker ≠ some t
  /-- It is not parked. -/
  parked : ∀ name, s.parked.get? name ≠ some t
  /-- It does not wait for its children. -/
  joining : ∀ node, s.nodes.get? t = some node → node.joining = false

/-- The owner or a child of a group can still get at its signal. -/
def Heard (s : State) (g : TaskId) : Prop :=
  (∃ group, s.groups.get? g = some group) ∨
    (∃ u task, s.tasks.get? u = some task ∧ ∃ w ∈ task.waiters, w.tells g = true) ∨
    ∃ a ∈ s.agenda, a.tells g = true

end State

/-- A task that is to be buried is referred to by nobody, and a waker that is registered somewhere
can be got at there. -/
structure Tether (s : State) : Prop where
  /-- Nobody refers to a task that is to be buried. -/
  buried : ∀ t, .bury t ∈ s.agenda → s.Loose t
  /-- A task that waits for a group can be told. -/
  signals : ∀ g signal t, s.signals.get? g = some signal → signal.waker = some t → s.Heard g
  /-- A task that waits for a reply can be told. -/
  calls : ∀ k call t, s.calls.get? k = some call → call.waker = some t → call.reachable = true
  /-- A task whose waiters are to be woken has ended and is still in its slice. -/
  leaving : ∀ t, .wakeWaiters t ∈ s.agenda →
    (s.phase t).isTerminal = true ∧ ∃ r, s.slice r = some (.task t .leaving)
  /-- So is a task whose failure is still to be looked into. -/
  reporting : ∀ t, .reportFailure t ∈ s.agenda → ∃ r, s.slice r = some (.task t .leaving)

namespace State

variable {s s' : State} {t g : TaskId} {c : Context} {hand hand' : List Resource}

namespace Quiet

theorem idle (h : s.agenda = []) : s.Quiet := by
  intro a ha
  rw [h] at ha
  cases ha

theorem doFirst (h : s.Quiet) {as : List Action} (new : ∀ a ∈ as, a.parts = false) :
    (s.doFirst as).Quiet :=
  fun a ha => (List.mem_append.1 ha).elim (new a) (h a)

theorem doLast (h : s.Quiet) {as : List Action} (new : ∀ a ∈ as, a.parts = false) :
    (s.doLast as).Quiet :=
  fun a ha => (List.mem_append.1 ha).elim (h a) (new a)

theorem enqueue (h : s.Quiet) (r : RuntimeId) (p : Priority) (e : Entry) :
    (s.enqueue r p e).Quiet := by
  unfold State.enqueue
  split
  · exact h.doFirst (by simp [Action.parts])
  · exact h

end Quiet

theorem OfLine.quiet (h : s.OfLine) : s.Quiet := by
  intro a ha
  have := h a ha
  cases a <;> first | rfl | simp [Action.ofLine] at this

/-! ### Who refers to a task -/

theorem held_of_slice {r : RuntimeId} {stage : Stage} (during : s.slice r = some (.task t stage)) :
    s.held t = true := by
  obtain ⟨rt, built, slice⟩ := State.slice_eq during
  have runs : s.runtimes.any (fun _ rt =>
      rt.queue.any (· = .task t) || rt.slice.any (Slice.runs t)) = true :=
    Store.any_of_get? built (by simp [slice, Slice.runs])
  rw [State.held, runs]
  simp

/-- No worker is in a slice of a task to which nobody refers. -/
theorem Loose.slice_ne (h : s.Loose t) (r : RuntimeId) (stage : Stage) :
    s.slice r ≠ some (.task t stage) := by
  intro during
  obtain ⟨rt, built, slice⟩ := State.slice_eq during
  have apart := h.slice r rt _ built slice
  simp [Slice.runs] at apart

theorem Loose.pop {a : Action} (h : (s.doFirst [a]).Loose t) : s.Loose t :=
  { h with agenda := fun b hb => h.agenda b (List.mem_cons_of_mem _ hb) }

theorem Loose.doFirst (h : s.Loose t) {as : List Action} (free : ∀ a ∈ as, a.refersTo t = false) :
    (s.doFirst as).Loose t :=
  { h with
    agenda := fun a ha => (List.mem_append.1 ha).elim (free a) (h.agenda a) }

theorem Loose.tell (h : s.Loose t) (e : Event) : (s.tell e).Loose t :=
  { h with }

theorem Loose.traced (h : s.Loose t) (trace : Array Event) :
    ({ s with trace := trace } : State).Loose t :=
  { h with }

theorem Loose.modifyNode (h : s.Loose t) {n : TaskId} {f : Node → Node}
    (less : ∀ m, m.joining = false → (f m).joining = false) : (s.modifyNode n f).Loose t :=
  { h with
    joining := fun node found => by
      obtain ⟨m, hm, rfl⟩ := Store.get?_modify_eq_some.1 found
      split
      · exact less m (h.joining m hm)
      · exact h.joining m hm }

theorem Loose.modifyTask (h : s.Loose t) {u : TaskId} {f : Task → Task}
    (dropped : ∀ m, m.handleDropped = true → (f m).handleDropped = true)
    (waiters : ∀ m, ∀ w ∈ (f m).waiters, w ∈ m.waiters) : (s.modifyTask u f).Loose t :=
  { h with
    handle := fun task found => by
      obtain ⟨m, hm, rfl⟩ := Store.get?_modify_eq_some.1 found
      split
      · exact dropped m (h.handle m hm)
      · exact h.handle m hm
    waiters := fun v task found => by
      obtain ⟨m, hm, rfl⟩ := Store.get?_modify_eq_some.1 found
      split
      · exact fun hw => h.waiters v m hm (waiters m _ hw)
      · exact h.waiters v m hm }

theorem Loose.eraseTask (h : s.Loose t) (u : TaskId) :
    ({ s with tasks := s.tasks.erase u } : State).Loose t := by
  have old : ∀ v task, (s.tasks.erase u).get? v = some task → s.tasks.get? v = some task := by
    intro v task found
    rw [Store.get?_erase] at found
    split at found
    · simp at found
    · exact found
  exact { h with
    handle := fun task found => h.handle task (old t task found)
    waiters := fun v task found => h.waiters v task (old v task found) }

theorem Loose.modifySignal (h : s.Loose t) {u : TaskId} {f : Signal → Signal}
    (less : ∀ m, (f m).waker = none ∨ (f m).waker = m.waker) : (s.modifySignal u f).Loose t :=
  { h with
    signals := fun v signal found => by
      obtain ⟨m, hm, rfl⟩ := Store.get?_modify_eq_some.1 found
      split
      · rcases less m with none | same
        · simp [none]
        · rw [same]
          exact h.signals v m hm
      · exact h.signals v m hm }

theorem Loose.modifyCall (h : s.Loose t) {u : CallId} {f : Call → Call}
    (less : ∀ m, (f m).waker = none ∨ (f m).waker = m.waker) : (s.modifyCall u f).Loose t :=
  { h with
    calls := fun v call found => by
      obtain ⟨m, hm, rfl⟩ := Store.get?_modify_eq_some.1 found
      split
      · rcases less m with none | same
        · simp [none]
        · rw [same]
          exact h.calls v m hm
      · exact h.calls v m hm }

theorem Loose.enqueue (h : s.Loose t) (r : RuntimeId) (p : Priority) {e : Entry}
    (other : e ≠ .task t) : (s.enqueue r p e).Loose t := by
  unfold State.enqueue
  split
  · refine h.doFirst fun a ha => ?_
    rw [List.mem_singleton.1 ha]
    cases e with
    | task u => simpa [Action.refersTo] using other
    | drain a => rfl
    | marker serial => rfl
  · exact { h with
      queue := fun r' rt found => by
        obtain ⟨m, hm, rfl⟩ := Store.get?_modify_eq_some.1 found
        split
        · intro queued
          rcases RunQueue.mem_push.1 queued with queued | same
          · exact h.queue r' m hm queued
          · exact other same.symm
        · exact h.queue r' m hm
      slice := fun r' rt slice found during => by
        obtain ⟨m, hm, rfl⟩ := Store.get?_modify_eq_some.1 found
        split at during
        · exact h.slice r' m slice hm during
        · exact h.slice r' m slice hm during }

theorem refersTo_forget (w : Waker) : w.forget.refersTo t = (Action.wake w).refersTo t := by
  cases w <;> rfl

theorem refersTo_afterPanic {a b : Action} (h : a.afterPanic = some b)
    (free : a.refersTo t = false) : b.refersTo t = false := by
  cases a with
  | wake w =>
    simp only [Action.afterPanic, Option.some.injEq] at h
    rw [← h, refersTo_forget]
    exact free
  | _ =>
    simp only [Action.afterPanic, Option.some.injEq, reduceCtorEq] at h <;> exact h ▸ free

theorem free_wakers {w : Option TaskId} (other : w ≠ some t) {f : TaskId → Action}
    (only : ∀ u, u ≠ t → (f u).refersTo t = false) :
    ∀ a ∈ w.toList.map f, a.refersTo t = false := by
  intro a ha
  obtain ⟨u, hu, rfl⟩ := List.mem_map.1 ha
  refine only u ?_
  rintro rfl
  exact other (Option.mem_toList.1 hu)

theorem free_waiters {ws : List Waker} (other : .task t ∉ ws) {f : Waker → Action}
    (only : ∀ w, (f w).refersTo t = (Action.wake w).refersTo t) :
    ∀ a ∈ ws.map f, a.refersTo t = false := by
  intro a ha
  obtain ⟨w, hw, rfl⟩ := List.mem_map.1 ha
  rw [only]
  cases w with
  | task u =>
    have : u ≠ t := by
      rintro rfl
      exact other hw
    simpa [Action.refersTo] using this
  | member => rfl

/-- Nobody comes to refer to a task that nobody refers to. -/
theorem Loose.effect {a : Action} (e : Effect s a s')
    (kept : ∀ u, a = .release (.handle u) → u ≠ t) (h : (s.doFirst [a]).Loose t) :
    s'.Loose t := by
  have here : a.refersTo t = false := h.agenda a List.mem_cons_self
  have wake : ∀ u, u ≠ t → (Action.wake (.task u)).refersTo t = false := by
    intro u hu
    simpa [Action.refersTo] using hu
  have forget : ∀ u, u ≠ t → (Action.forget u).refersTo t = false := by
    intro u hu
    simpa [Action.refersTo] using hu
  -- an item leaves what it refers to, and it does not refer to the task
  cases e with
  | spent => exact h.pop
  | cancel =>
    exact ((h.pop.modifyNode fun _ joins => by exact joins).tell _).doFirst
      (by simp [Action.refersTo])
  | finish =>
    refine (h.pop.modifyNode fun _ joins => by exact joins).doFirst ?_
    split <;> simp [Action.refersTo]
  | orphan => exact h.pop.modifyNode fun _ joins => by exact joins
  | reap =>
    exact ((h.pop.modifyNode fun _ joins => by exact joins).modifyNode
      fun _ joins => by exact joins).tell _
  | @reapLast n p node above _ _ _ listed =>
    have left : (s.modifyNode n fun m => { m with reaped := true }).Loose t :=
      h.pop.modifyNode fun _ joins => joins
    refine ((left.modifyNode fun _ _ => by rfl).tell _).doFirst fun b hb => ?_
    rcases List.mem_append.1 hb with hb | hb
    · split at hb
      · rename_i joins
        -- a task that nobody refers to does not wait for its children
        have other : p ≠ t := by
          rintro rfl
          simp [left.joining above listed] at joins
        rw [List.mem_singleton.1 hb]
        exact wake p other
      · simp at hb
    · split at hb
      · rw [List.mem_singleton.1 hb]
        rfl
      · simp at hb
  | @resume u =>
    have other : u ≠ t := by simpa [Action.refersTo] using here
    exact (h.pop.modifyNode fun _ joins => by exact joins).enqueue _ _ (by simpa using other)
  | @notify u =>
    have other : u ≠ t := by simpa [Action.refersTo] using here
    exact (h.pop.modifyNode fun _ joins => by exact joins).doFirst
      (by simpa [Action.refersTo] using other)
  | @awake u =>
    have other : u ≠ t := by simpa [Action.refersTo] using here
    exact h.pop.doFirst (by simpa [Action.refersTo] using other)
  | inform => exact h.pop.doFirst (by simp [Action.refersTo])
  | trip =>
    exact ((h.pop.modifySignal fun _ => .inr (by rfl)).tell _).doFirst (by simp [Action.refersTo])
  | announce _ found =>
    exact (h.pop.modifySignal fun _ => .inl (by rfl)).doFirst
      (free_wakers (h.pop.signals _ _ found) wake)
  | wakeWaiters found =>
    exact (h.pop.modifyTask (fun _ d => by exact d) fun _ w hw => by simp at hw).doFirst
      (free_waiters (h.pop.waiters _ _ found) fun _ => rfl)
  | @reportFailure u f trace only =>
    have looked : (s.modifyTask u f).Loose t := h.pop.modifyTask
      (fun m d => by obtain ⟨b, eq⟩ := only m; rw [eq]; exact d)
      (fun m w hw => by obtain ⟨b, eq⟩ := only m; rw [eq] at hw; exact hw)
    exact looked.traced trace
  | answer _ found =>
    exact (h.pop.modifyCall fun _ => .inl (by rfl)).doFirst
      (free_wakers (h.pop.calls _ _ found) wake)
  | record => exact h.pop.tell _
  | panic =>
    refine { h.pop with agenda := fun b hb => ?_ }
    obtain ⟨a', ha', eq⟩ := List.mem_filterMap.1 hb
    exact refersTo_afterPanic eq (h.pop.agenda a' ha')
  | @dropHandle u f trace only =>
    have dropped : (s.modifyTask u f).Loose t := h.pop.modifyTask
      (fun m _ => by obtain ⟨b, eq⟩ := only m; rw [eq])
      (fun m w hw => by obtain ⟨b, eq⟩ := only m; rw [eq] at hw; exact hw)
    refine (dropped.traced trace).doFirst fun b hb => ?_
    rw [List.mem_singleton.1 hb]
    exact forget u (kept u rfl)
  | dropGroup | dropUndrained => exact h.pop.doFirst (by simp [Action.refersTo])
  | dropAnswered found =>
    exact (h.pop.modifyCall fun _ => .inl (by rfl)).doFirst
      (free_wakers (h.pop.calls _ _ found) forget)
  | dropPending => exact h.pop.modifyCall fun _ => .inr (by rfl)
  | @dissolve g =>
    have left : ({ s with groups := s.groups.erase g } : State).Loose t := { h.pop with }
    refine left.doFirst fun b hb => ?_
    rcases List.mem_append.1 hb with hb | hb
    · obtain ⟨u, -, rfl⟩ := List.mem_map.1 hb
      rfl
    · rw [List.mem_singleton.1 hb]
      rfl
  | forget =>
    refine (h.pop.modifyTask (fun _ d => by exact d) fun _ w hw => by exact hw).doFirst
      fun b hb => ?_
    rcases List.mem_append.1 hb with hb | hb
    · obtain ⟨r, -, rfl⟩ := List.mem_map.1 hb
      rfl
    · rw [List.mem_singleton.1 hb]
      rfl
  | bury found =>
    exact (h.pop.eraseTask _).doFirst (free_waiters (h.pop.waiters _ _ found) refersTo_forget)
  | silence _ found =>
    exact (h.pop.modifySignal fun _ => .inl (by rfl)).doFirst
      (free_wakers (h.pop.signals _ _ found) forget)
  | discardTask u =>
    have other : u ≠ t := by simpa [Action.refersTo] using here
    exact h.pop.doFirst (by simpa [Action.refersTo] using other)
  | discardDrain => exact h.pop.doFirst (by simp [Action.refersTo])
  | @abandon a actor trace =>
    have left : (s.modifyActor a fun m =>
      { m with scheduled := false, mailbox := [] }).Loose t := { h.pop with }
    refine (left.traced trace).doFirst fun b hb => ?_
    obtain ⟨k, -, rfl⟩ := List.mem_map.1 hb
    rfl

/-! ### Who can get at a signal -/

theorem heard_of_signalAlive (distinct : s.tasks.Distinct) (h : s.signalAlive g = true) :
    s.Heard g := by
  simp only [signalAlive, Bool.or_eq_true] at h
  rcases h with (h | h) | h
  · exact .inl (Store.contains_iff.1 h)
  · obtain ⟨u, task, found, h⟩ := (Store.any_iff distinct).1 h
    exact .inr (.inl ⟨u, task, found, List.any_eq_true.1 h⟩)
  · exact .inr (.inr (List.any_eq_true.1 h))

theorem signalAlive_of_heard (h : s.Heard g) : s.signalAlive g = true := by
  simp only [signalAlive, Bool.or_eq_true]
  rcases h with h | ⟨u, task, found, h⟩ | h
  · exact .inl (.inl (Store.contains_iff.2 h))
  · exact .inl (.inr (Store.any_of_get? found (List.any_eq_true.2 h)))
  · exact .inr (List.any_eq_true.2 h)

theorem Heard.pop {a : Action} (h : (s.doFirst [a]).Heard g) (other : a.tells g = false) :
    s.Heard g := by
  rcases h with h | h | ⟨b, hb, tells⟩
  · exact .inl h
  · exact .inr (.inl h)
  · rcases List.mem_cons.1 hb with rfl | hb
    · rw [other] at tells
      cases tells
    · exact .inr (.inr ⟨b, hb, tells⟩)

theorem Heard.doFirst (h : s.Heard g) (as : List Action) : (s.doFirst as).Heard g := by
  rcases h with h | h | ⟨b, hb, tells⟩
  · exact .inl h
  · exact .inr (.inl h)
  · exact .inr (.inr ⟨b, List.mem_append_right _ hb, tells⟩)

theorem Heard.doLast (h : s.Heard g) (as : List Action) : (s.doLast as).Heard g := by
  rcases h with h | h | ⟨b, hb, tells⟩
  · exact .inl h
  · exact .inr (.inl h)
  · exact .inr (.inr ⟨b, List.mem_append_left _ hb, tells⟩)

theorem Heard.enqueue (h : s.Heard g) (r : RuntimeId) (p : Priority) (e : Entry) :
    (s.enqueue r p e).Heard g := by
  unfold State.enqueue
  split
  · exact h.doFirst _
  · exact h

theorem Heard.modifyTask (h : s.Heard g) {t : TaskId} {f : Task → Task}
    (more : ∀ m, ∀ w ∈ m.waiters, w ∈ (f m).waiters) : (s.modifyTask t f).Heard g := by
  rcases h with h | ⟨u, task, found, w, hw, tells⟩ | h
  · exact .inl h
  · refine .inr (.inl ⟨u, _, Store.get?_modify_eq_some.2 ⟨task, found, rfl⟩, w, ?_, tells⟩)
    split
    · exact more task w hw
    · exact hw
  · exact .inr (.inr h)

theorem tells_forget (w : Waker) : w.forget.tells g = w.tells g := by
  cases w <;> rfl

theorem tells_afterPanic {a : Action} (h : a.tells g = true) :
    ∃ b, a.afterPanic = some b ∧ b.tells g = true := by
  cases a with
  | wake w => exact ⟨w.forget, rfl, (tells_forget w).trans h⟩
  | forgetSignal g' => exact ⟨_, rfl, h⟩
  | _ => exact absurd h (by simp [Action.tells])

/-- Whoever waits for a group can still be told after an item of the agenda is done. -/
theorem Heard.effect (distinct : s.tasks.Distinct) {a : Action} (e : Effect s a s')
    (h : (s.doFirst [a]).Heard g) {signal : Signal} {t : TaskId}
    (found : s'.signals.get? g = some signal) (waits : signal.waker = some t) : s'.Heard g := by
  -- who can tell passes that on: a signal, a waker in a list, or an item of the agenda
  cases e with
  | spent why =>
    by_cases tells : a.tells g = true
    · cases a with
      | wake w =>
        cases w with
        | task u => simp [Action.tells, Waker.tells] at tells
        | member => exact why.elim
      | forgetSignal g' =>
        have : g' = g := by simpa [Action.tells] using tells
        subst this
        rcases why with alive | missing
        · exact heard_of_signalAlive distinct alive
        · exact absurd (missing.symm.trans found) (by simp)
      | _ => simp [Action.tells] at tells
    · exact h.pop (Bool.not_eq_true _ ▸ tells)
  | cancel | finish | notify | awake | announce | answer | dropGroup | dropUndrained
  | dropAnswered | discardTask | discardDrain | reapLast | abandon => exact (h.pop rfl).doFirst _
  | orphan | reap | record | dropPending => exact h.pop rfl
  | resume =>
    refine Heard.enqueue ?_ _ _ _
    exact h.pop rfl
  | inform g' =>
    by_cases tells : (Action.forgetSignal g').tells g = true
    · exact .inr (.inr ⟨.forgetSignal g', List.mem_append_left _ (by simp), tells⟩)
    · exact (h.pop (Bool.not_eq_true _ ▸ tells)).doFirst _
  | @trip g' =>
    by_cases tells : (Action.forgetSignal g').tells g = true
    · exact .inr (.inr ⟨.forgetSignal g', List.mem_append_left _ (by simp), tells⟩)
    · exact (h.pop (Bool.not_eq_true _ ▸ tells)).doFirst _
  | @wakeWaiters t task known =>
    rcases h.pop rfl with h | ⟨u, task', found', w, hw, tells⟩ | ⟨b, hb, tells⟩
    · exact .inl h
    · by_cases htu : t = u
      · subst htu
        cases known.symm.trans found'
        exact .inr (.inr ⟨.wake w, List.mem_append_left _ (List.mem_map.2 ⟨w, hw, rfl⟩), tells⟩)
      · exact .inr (.inl ⟨u, task', (Store.get?_modify_of_ne htu).trans found', w, hw, tells⟩)
    · exact .inr (.inr ⟨b, List.mem_append_right _ hb, tells⟩)
  | @reportFailure t f trace only =>
    exact (h.pop rfl).modifyTask (t := t) (f := f) fun m w hw => by
      obtain ⟨b, eq⟩ := only m
      rw [eq]
      exact hw
  | panic =>
    rcases h.pop rfl with h | h | ⟨b, hb, tells⟩
    · exact .inl h
    · exact .inr (.inl h)
    · obtain ⟨b', left, tells'⟩ := tells_afterPanic tells
      exact .inr (.inr ⟨b', List.mem_filterMap.2 ⟨b, hb, left⟩, tells'⟩)
  | @dropHandle t f trace only =>
    have dropped := (h.pop rfl).modifyTask (t := t) (f := f) fun m w hw => by
      obtain ⟨b, eq⟩ := only m
      rw [eq]
      exact hw
    exact dropped.doFirst _
  | @dissolve g' group =>
    by_cases same : g' = g
    · subst same
      exact .inr (.inr ⟨.forgetSignal g', by simp [State.doFirst], by simp [Action.tells]⟩)
    · rcases h.pop rfl with ⟨group', found'⟩ | h | ⟨b, hb, tells⟩
      · exact .inl ⟨group', by simpa [State.doFirst, Store.get?_erase, same] using found'⟩
      · exact .inr (.inl h)
      · exact .inr (.inr ⟨b, List.mem_append_right _ hb, tells⟩)
  | forget =>
    exact ((h.pop rfl).modifyTask fun _ _ hw => by exact hw).doFirst _
  | @bury t task known =>
    rcases h.pop rfl with h | ⟨u, task', found', w, hw, tells⟩ | ⟨b, hb, tells⟩
    · exact .inl h
    · by_cases htu : t = u
      · subst htu
        cases known.symm.trans found'
        exact .inr (.inr ⟨w.forget, List.mem_append_left _ (List.mem_map.2 ⟨w, hw, rfl⟩),
          (tells_forget w).trans tells⟩)
      · refine .inr (.inl ⟨u, task', ?_, w, hw, tells⟩)
        simpa [State.doFirst, Store.get?_erase, htu] using found'
    · exact .inr (.inr ⟨b, List.mem_append_right _ hb, tells⟩)
  | @silence g' signal' =>
    by_cases same : g' = g
    · subst same
      obtain ⟨m, -, rfl⟩ := Store.get?_modify_eq_some.1 found
      simp at waits
    · exact (h.pop (by simpa [Action.tells] using same)).doFirst _

end State

/-! ### What an item of the agenda leaves alone -/

namespace Effect

variable {s s' : State} {a : Action} {t : TaskId}

theorem parts_forget (w : Waker) : w.forget.parts = false := by
  cases w <;> rfl

theorem old_of_parts {as : List Action} {b : Action} (h : b ∈ (s.doFirst as).agenda)
    (parts : b.parts = true) (new : ∀ c ∈ as, c.parts = false) : b ∈ s.agenda := by
  rcases List.mem_append.1 h with h | h
  · rw [new b h] at parts
    cases parts
  · exact h

/-- A task comes to be buried only when nobody refers to it, and its waiters do not come to be
woken at all. -/
theorem mem_agenda {b : Action} (e : Effect s a s') (h : b ∈ s'.agenda) (parts : b.parts = true) :
    b ∈ s.agenda ∨ ∃ t task, a = .forget t ∧ b = .bury t ∧ s.tasks.get? t = some task ∧
      s.held t = false ∧ s' = (s.modifyTask t fun m => { m with fiber := none }).doFirst
        ((task.fiber.toList.flatMap Fiber.resources).map Action.release ++ [Action.bury t]) := by
  -- only to forget a task puts such an item on the agenda
  cases e with
  | spent | orphan | reap | record | reportFailure | dropPending => exact .inl h
  | cancel | notify | awake | inform | trip | announce | wakeWaiters | answer | dropHandle
  | dropGroup | dropUndrained | dropAnswered | silence | discardTask | discardDrain =>
    exact .inl (old_of_parts h parts (by simp [Action.parts]))
  | abandon =>
    refine .inl (old_of_parts h parts fun c hc => ?_)
    obtain ⟨k, -, rfl⟩ := List.mem_map.1 hc
    rfl
  | finish | reapLast =>
    refine .inl (old_of_parts h parts fun c hc => ?_)
    revert c
    repeat' split
    all_goals simp [Action.parts]
  | resume =>
    unfold State.enqueue at h
    split at h
    · exact .inl (old_of_parts h parts (by simp [Action.parts]))
    · exact .inl h
  | panic =>
    obtain ⟨c, hc, left⟩ := List.mem_filterMap.1 h
    have : c = b := by
      cases c with
      | wake w =>
        simp only [Action.afterPanic, Option.some.injEq] at left
        rw [← left, parts_forget] at parts
        cases parts
      | _ => simp_all [Action.afterPanic]
    exact .inl (this ▸ hc)
  | dissolve =>
    refine .inl (old_of_parts h parts fun c hc => ?_)
    rcases List.mem_append.1 hc with hc | hc
    · obtain ⟨u, -, rfl⟩ := List.mem_map.1 hc
      rfl
    · rw [List.mem_singleton.1 hc]
      rfl
  | bury => exact .inl (old_of_parts h parts (by simp [parts_forget]))
  | @forget t task found loose =>
    rcases List.mem_append.1 h with h | h
    · rcases List.mem_append.1 h with h | h
      · obtain ⟨r, -, rfl⟩ := List.mem_map.1 h
        cases parts
      · exact .inr ⟨t, task, rfl, List.mem_singleton.1 h, found, loose, rfl⟩
    · exact .inl h

end Effect

namespace Tether

variable {s s' : State} {c : Context} {hand hand' rest base : List Resource}

theorem init : Tether {} where
  buried t h := by simp at h
  signals g signal t h := by simp [Store.get?, Store.lookup] at h
  calls k call t h := by simp [Store.get?, Store.lookup] at h
  leaving t h := by simp at h
  reporting t h := by simp at h

theorem reachable_effect {a : Action} (e : Effect s a s')
    (h : ∀ k call t, s.calls.get? k = some call → call.waker = some t → call.reachable = true)
    {k : CallId} {call : Call} {t : TaskId} (found : s'.calls.get? k = some call)
    (waits : call.waker = some t) : call.reachable = true := by
  cases e with
  | answer | dropAnswered =>
    obtain ⟨m, hm, rfl⟩ := Store.get?_modify_eq_some.1 found
    split at waits
    · simp at waits
    · rename_i other
      rw [if_neg other]
      exact h k m t hm waits
  | dropPending known pending =>
    obtain ⟨m, hm, rfl⟩ := Store.get?_modify_eq_some.1 found
    split at waits
    · rename_i same
      subst same
      cases known.symm.trans hm
      simp [Call.reachable, pending]
    · rename_i other
      rw [if_neg other]
      exact h k m t hm waits
  | resume =>
    unfold State.enqueue at found
    split at found <;> exact h k call t found waits
  | _ => exact h k call t found waits

theorem loose_of_not_held
    (signals : ∀ g signal t, s.signals.get? g = some signal → signal.waker = some t → s.Heard g)
    (calls : ∀ k call t, s.calls.get? k = some call → call.waker = some t →
      call.reachable = true) {t : TaskId} (free : s.held t = false) : s.Loose t := by
  simp only [State.held, State.registered, Bool.or_eq_false_iff] at free
  obtain ⟨⟨⟨handle, runtimes⟩, agenda⟩, ⟨⟨⟨waiters, heard⟩, expected⟩, parked⟩, joining⟩ := free
  exact {
    handle := fun task found => by simpa [found] using handle
    queue := fun r rt found queued => by
      have := Store.of_any_eq_false runtimes found
      simp only [RunQueue.any, Bool.or_eq_false_iff, List.any_eq_false, decide_eq_true_eq] at this
      exact this.1 _ queued rfl
    slice := fun r rt slice found during => by
      have := Store.of_any_eq_false runtimes found
      simp only [Bool.or_eq_false_iff, during, Option.any_some] at this
      exact this.2
    agenda := fun a ha => by simpa using List.any_eq_false.1 agenda a ha
    waiters := fun u task found waits => by
      have := Store.of_any_eq_false waiters found
      simp only [List.any_eq_false, decide_eq_true_eq] at this
      exact this _ waits rfl
    signals := fun g signal found waits => by
      have := Store.of_any_eq_false heard found
      simp [waits, State.signalAlive_of_heard (signals g signal t found waits)] at this
    calls := fun k call found waits => by
      have := Store.of_any_eq_false expected found
      simp [waits, calls k call t found waits] at this
    parked := fun name found => by simpa using Store.of_any_eq_false parked found
    joining := fun node found => by simpa [found] using joining }

theorem waits_effect {a : Action} (e : Effect s a s') {g t : TaskId} {signal : Signal}
    (found : s'.signals.get? g = some signal) (waits : signal.waker = some t) :
    ∃ signal₀, s.signals.get? g = some signal₀ ∧ signal₀.waker = some t := by
  cases e with
  | announce | silence =>
    obtain ⟨m, hm, rfl⟩ := Store.get?_modify_eq_some.1 found
    split at waits
    · simp at waits
    · exact ⟨m, hm, waits⟩
  | trip =>
    obtain ⟨m, hm, rfl⟩ := Store.get?_modify_eq_some.1 found
    refine ⟨m, hm, ?_⟩
    split at waits <;> exact waits
  | resume =>
    unfold State.enqueue at found
    split at found <;> exact ⟨signal, found, waits⟩
  | _ => exact ⟨signal, found, waits⟩

theorem effect {a : Action} (formed : Formed s) (own : Own (s.doFirst [a]) hand [])
    (e : Effect s a s') (h : Tether (s.doFirst [a])) : Tether s' where
  buried t hb := by
    rcases e.mem_agenda hb rfl with old | ⟨t', task, rfl, eq, found, free, rfl⟩
    · have loose := h.buried t (List.mem_cons_of_mem _ old)
      refine loose.effect e ?_
      rintro u rfl rfl
      obtain ⟨task, found, kept⟩ := own.there (.handle u) (by
        rw [State.owners_doFirst]
        simp only [Action.resources, List.flatMap_cons, List.flatMap_nil, List.append_nil,
          List.count_cons_self]
        omega)
      simp [loose.handle task found] at kept
    · cases eq
      have loose := loose_of_not_held (s := s)
        (fun g signal u hg hu => (h.signals g signal u hg hu).pop rfl) h.calls free
      refine (loose.modifyTask (fun _ d => by exact d) fun _ w hw => by exact hw).doFirst
        fun b hb => ?_
      rcases List.mem_append.1 hb with hb | hb
      · obtain ⟨r, -, rfl⟩ := List.mem_map.1 hb
        rfl
      · rw [List.mem_singleton.1 hb]
        rfl
  signals g signal t found waits := by
    obtain ⟨signal₀, found₀, waits₀⟩ := waits_effect e found waits
    exact (h.signals g signal₀ t found₀ waits₀).effect formed.distinctTasks e found waits
  calls k call t := reachable_effect e h.calls
  leaving t hw := by
    rcases e.mem_agenda hw rfl with old | ⟨t', task, -, eq, -⟩
    · obtain ⟨ended, r, during⟩ := h.leaving t (List.mem_cons_of_mem _ old)
      refine ⟨?_, r, (e.slice r).trans during⟩
      rw [e.terminal ended]
      exact ended
    · cases eq
  reporting t hw := by
    rcases e.mem_agenda hw rfl with old | ⟨t', task, -, eq, -⟩
    · obtain ⟨r, during⟩ := h.reporting t (List.mem_cons_of_mem _ old)
      exact ⟨r, (e.slice r).trans during⟩
    · cases eq

/-! ### Lines -/

theorem heard_setTask (fresh : s.tasks.get? s.nextNode = none) {g : TaskId} (h : s.Heard g)
    (nodes : Store TaskId Node) (trace : Array Event) (task : Task) :
    ({ s with nodes := nodes, trace := trace, tasks := s.tasks.set s.nextNode task } :
      State).Heard g := by
  rcases h with h | ⟨u, m, found, w, hw, tells⟩ | h
  · exact .inl h
  · have old : s.nextNode ≠ u := by
      rintro rfl
      simp [fresh] at found
    exact .inr (.inl ⟨u, m, (Store.get?_set_of_ne old).trans found, w, hw, tells⟩)
  · exact .inr (.inr h)

theorem heard_modifyGroup {g : TaskId} (g' : TaskId) (f : Group → Group) (h : s.Heard g) :
    (s.modifyGroup g' f).Heard g := by
  rcases h with ⟨group, found⟩ | h | h
  · exact .inl ⟨_, Store.get?_modify_eq_some.2 ⟨group, found, rfl⟩⟩
  · exact .inr (.inl h)
  · exact .inr (.inr h)

theorem heard_post {g : TaskId} (h : s.Heard g) (a : ActorId) (home : RuntimeId)
    (message : Message) : (s.post a home message).Heard g := by
  unfold State.post
  split
  · exact h
  · dsimp only
    split
    · exact h
    · refine State.Heard.enqueue ?_ _ _ _
      exact h

theorem heard_change (formed : Formed s) (hc : Change c s hand s' hand') {g : TaskId}
    (h : s.Heard g) : s'.Heard g := by
  cases hc with
  | tell | shed | nameTask | adopt | share | actor | refuse | learn | state => exact h
  | @spawn home parent priority body =>
    obtain ⟨nodes, trace, -, eq⟩ :=
      State.launch_addNode_eq formed.nodes priority parent home body false
    rw [eq]
    exact (heard_setTask formed.fresh_task h nodes trace _).enqueue _ _ _
  | group =>
    obtain ⟨nodes, trace, priority, -, eq⟩ := State.makeGroup_eq formed.nodes c _
    rw [eq]
    rcases h with ⟨group, found⟩ | h | h
    · have old : s.nextNode ≠ g := by
        rintro rfl
        simp [formed.fresh_group] at found
      exact .inl ⟨group, (Store.get?_set_of_ne old).trans found⟩
    · exact .inr (.inl h)
    · exact .inr (.inr h)
  | @add g' group priority body =>
    obtain ⟨nodes, trace, p, -, eq⟩ :=
      State.addChild_eq formed.nodes formed.fresh_task g' group priority body
    rw [eq]
    refine State.Heard.enqueue ?_ _ _ _
    exact heard_modifyGroup g' _ (heard_setTask formed.fresh_task h nodes trace _)
  | call =>
    refine heard_post ?_ _ _ _
    exact h
  | send => exact heard_post h _ _ _
  | register => exact h.modifyTask fun _ _ hw => List.mem_append_left _ hw
  | take => exact h.modifyTask fun _ _ hw => by exact hw
  | expect | listen => exact h.doFirst _
  | draw | fail => exact heard_modifyGroup _ _ h
  | park | record | release | cancel | wake => exact h.doLast _

theorem signals_change (formed : Formed s) (own : Own s (hand ++ rest) base)
    (hc : Change c s hand s' hand') (h : Tether s) {g t : TaskId} {signal : Signal}
    (found : s'.signals.get? g = some signal) (waits : signal.waker = some t) : s.Heard g := by
  -- a waker is put into a signal only by a look at the group that has it
  cases hc with
  | @spawn home parent priority body =>
    obtain ⟨nodes, trace, -, eq⟩ :=
      State.launch_addNode_eq formed.nodes priority parent home body false
    obtain ⟨runtimes, agenda, eq'⟩ := State.enqueue_eq _ home priority (.task s.nextNode)
    rw [eq, eq'] at found
    exact h.signals g signal t found waits
  | group =>
    obtain ⟨nodes, trace, priority, -, eq⟩ := State.makeGroup_eq formed.nodes c _
    rw [eq] at found
    by_cases new : s.nextNode = g
    · subst new
      rw [Store.get?_set_self, Option.some.injEq] at found
      subst found
      cases waits
    · exact h.signals g signal t ((Store.get?_set_of_ne new).symm.trans found) waits
  | @add g' group priority body =>
    obtain ⟨nodes, trace, p, -, eq⟩ :=
      State.addChild_eq formed.nodes formed.fresh_task g' group priority body
    obtain ⟨runtimes, agenda, eq'⟩ := State.enqueue_eq _ group.home p (.task s.nextNode)
    rw [eq, eq'] at found
    exact h.signals g signal t found waits
  | @call a home handler =>
    obtain ⟨actors, runtimes, agenda, eq⟩ := State.post_eq
      { s with calls := s.calls.set s.nextCall { accepted := true } } a home
      ⟨handler, some s.nextCall⟩
    rw [eq] at found
    exact h.signals g signal t found waits
  | @send a home handler =>
    obtain ⟨actors, runtimes, agenda, eq⟩ := s.post_eq a home ⟨handler, none⟩
    rw [eq] at found
    exact h.signals g signal t found waits
  | draw =>
    obtain ⟨m, hm, rfl⟩ := Store.get?_modify_eq_some.1 found
    refine h.signals g m t hm ?_
    split at waits <;> exact waits
  | @listen t' g' _ _ mine _ _ =>
    obtain ⟨m, hm, rfl⟩ := Store.get?_modify_eq_some.1 found
    by_cases same : g' = g
    · subst same
      have owned : 0 < (hand ++ rest).count (.group g') :=
        List.count_pos_iff.2 (List.mem_append_left _ mine)
      exact .inl (own.there (.group g') (by omega))
    · rw [if_neg same] at waits
      exact h.signals g m t hm waits
  | _ => exact h.signals g signal t found waits

theorem calls_change (formed : Formed s) (own : Own s (hand ++ rest) base)
    (hc : Change c s hand s' hand') (h : Tether s) {k : CallId} {t : TaskId} {call : Call}
    (found : s'.calls.get? k = some call) (waits : call.waker = some t) :
    call.reachable = true := by
  -- a new call is awaited by nobody
  have new : ∀ fresh : Call, fresh.waker = none →
      (s.calls.set s.nextCall fresh).get? k = some call → call.reachable = true := by
    intro fresh quiet found
    by_cases same : s.nextCall = k
    · subst same
      rw [Store.get?_set_self, Option.some.injEq] at found
      subst found
      rw [quiet] at waits
      cases waits
    · exact h.calls k call t ((Store.get?_set_of_ne same).symm.trans found) waits
  cases hc with
  | @spawn home parent priority body =>
    obtain ⟨nodes, trace, -, eq⟩ :=
      State.launch_addNode_eq formed.nodes priority parent home body false
    obtain ⟨runtimes, agenda, eq'⟩ := State.enqueue_eq _ home priority (.task s.nextNode)
    rw [eq, eq'] at found
    exact h.calls k call t found waits
  | group =>
    obtain ⟨nodes, trace, priority, -, eq⟩ := State.makeGroup_eq formed.nodes c _
    rw [eq] at found
    exact h.calls k call t found waits
  | @add g' group priority body =>
    obtain ⟨nodes, trace, p, -, eq⟩ :=
      State.addChild_eq formed.nodes formed.fresh_task g' group priority body
    obtain ⟨runtimes, agenda, eq'⟩ := State.enqueue_eq _ group.home p (.task s.nextNode)
    rw [eq, eq'] at found
    exact h.calls k call t found waits
  | @call a home handler =>
    obtain ⟨actors, runtimes, agenda, eq⟩ := State.post_eq
      { s with calls := s.calls.set s.nextCall { accepted := true } } a home
      ⟨handler, some s.nextCall⟩
    rw [eq] at found
    exact new _ rfl found
  | refuse => exact new _ rfl found
  | @send a home handler =>
    obtain ⟨actors, runtimes, agenda, eq⟩ := s.post_eq a home ⟨handler, none⟩
    rw [eq] at found
    exact h.calls k call t found waits
  | learn =>
    obtain ⟨m, hm, rfl⟩ := Store.get?_modify_eq_some.1 found
    split at waits
    · rename_i same
      rw [if_pos same]
      exact h.calls k m t hm waits
    · rename_i other
      rw [if_neg other]
      exact h.calls k m t hm waits
  | @expect t' k' _ _ _ mine =>
    obtain ⟨m, hm, rfl⟩ := Store.get?_modify_eq_some.1 found
    split at waits
    · rename_i same
      subst same
      have owned : 0 < (hand ++ rest).count (.call k') :=
        List.count_pos_iff.2 (List.mem_append_left _ mine)
      obtain ⟨m', hm', kept⟩ := own.there (.call k') (by omega)
      cases hm.symm.trans hm'
      simp [Call.reachable, kept]
    · rename_i other
      rw [if_neg other]
      exact h.calls k m t hm waits
  | _ => exact h.calls k call t found waits

/-- Where nothing changes for those who wait, and no task is about to part, the invariant is
kept. -/
theorem keep (h : Tether s) (signals : s'.signals = s.signals) (calls : s'.calls = s.calls)
    (heard : ∀ g, s.Heard g → s'.Heard g) (quiet : s'.Quiet) : Tether s' where
  buried t hb := absurd (quiet _ hb) (by simp [Action.parts])
  signals g signal t found waits := heard g (h.signals g signal t (signals ▸ found) waits)
  calls k call t found waits := h.calls k call t (calls ▸ found) waits
  leaving t hw := absurd (quiet _ hw) (by simp [Action.parts])
  reporting t hw := absurd (quiet _ hw) (by simp [Action.parts])

theorem enqueue (h : Tether s) (quiet : s.Quiet) (r : RuntimeId) (p : Priority) (e : Entry) :
    Tether (s.enqueue r p e) := by
  refine h.keep ?_ ?_ (fun g hg => hg.enqueue r p e) (quiet.enqueue r p e)
  · unfold State.enqueue
    split <;> rfl
  · unfold State.enqueue
    split <;> rfl

theorem change (formed : Formed s) (own : Own s (hand ++ rest) base) (lines : s.OfLine)
    (hc : Change c s hand s' hand') (h : Tether s) : Tether s' := by
  have quiet := (lines.change formed hc).quiet
  exact {
    buried := fun t hb => absurd (quiet _ hb) (by simp [Action.parts])
    signals := fun g signal t found waits =>
      heard_change formed hc (signals_change formed own hc h found waits)
    calls := fun k call t => calls_change formed own hc h
    leaving := fun t hw => absurd (quiet _ hw) (by simp [Action.parts])
    reporting := fun t hw => absurd (quiet _ hw) (by simp [Action.parts]) }

/-- What holds while a line runs: it has its resources in hand, and its own items on the agenda. -/
theorem changes (formed : Formed s) (own : Own s (hand ++ rest) base) (lines : s.OfLine)
    (hc : Changes c s hand s' hand') (h : Tether s) : s'.OfLine ∧ Tether s' := by
  have := hc.invariant
    (I := fun s hand => Formed s ∧ Own s (hand ++ rest) base ∧ s.OfLine ∧ Tether s)
    (fun hc h => ⟨h.1.change hc, h.2.1.change h.1 hc, h.2.2.1.change h.1 hc,
      h.2.2.2.change h.1 h.2.1 h.2.2.1 hc⟩) ⟨formed, own, lines, h⟩
  exact this.2.2

/-! ### Work and moves -/

theorem work (formed : Formed s) (own : Own s rest [])
    (known : ∀ home t stage, s.slice home = some (.task t stage) →
      ∃ task, s.tasks.get? t = some task)
    (idle : s.agenda = []) {home : RuntimeId} (w : Work s home s') (h : Tether s) :
    Tether s' := by
  have quiet := State.Quiet.idle idle
  have lines := State.OfLine.idle idle
  have body : ∀ {t : TaskId} {task : Task} {f : Fiber} {s₁ : State} {hand : List Resource},
      s.Runs home t task f → Changes ⟨.task t, some home⟩ s f.resources s₁ hand →
        ∀ fiber, Tether (s₁.modifyTask t fun m => { m with fiber := fiber }) ∧ s₁.Quiet := by
    intro t task f s₁ hand runs hc fiber
    obtain ⟨lines', h'⟩ := h.changes formed (own.lift formed (.body runs)) lines hc
    exact ⟨h'.keep rfl rfl (fun g hg => hg.modifyTask fun _ _ hw => by exact hw) lines'.quiet,
      lines'.quiet⟩
  have handler : ∀ {a : ActorId} {handled : Nat} {code : List Line} {frame : Frame}
      {reply : Option CallId} {s₁ : State} {hand : List Resource},
      s.slice home = some (.drain a handled (.handling code frame reply)) →
        Changes ⟨.actor a, some home⟩ s frame.resources s₁ hand → Tether s₁ ∧ s₁.Quiet := by
    intro a handled code frame reply s₁ hand during hc
    obtain ⟨lines', h'⟩ := h.changes formed (own.lift formed (.handler during)) lines hc
    exact ⟨h', lines'.quiet⟩
  cases w with
  | stop | lost | forgotten | receive | drained | begin | beginDrain | markerStop | markerSkip =>
    exact h.keep rfl rfl (fun _ hg => hg) quiet
  | next runs _ changes => exact (body runs changes _).1
  | suspend runs _ changes =>
    obtain ⟨stored, quiet'⟩ := body runs changes (some _)
    exact stored.keep rfl rfl (fun _ hg => hg) quiet'
  | ends told runs changes =>
    obtain ⟨stored, quiet'⟩ := body runs changes none
    refine stored.keep rfl rfl (fun _ hg => hg.doLast _) (quiet'.doLast fun b hb => ?_)
    rcases List.mem_append.1 hb with hb | hb
    · obtain ⟨e, -, rfl⟩ := List.mem_map.1 hb
      rfl
    · obtain ⟨r, -, rfl⟩ := List.mem_map.1 hb
      rfl
  | pause later runs _ changes =>
    obtain ⟨stored, quiet'⟩ := body runs changes (some _)
    exact stored.keep rfl rfl (fun _ hg => hg) quiet'
  | rest | leave | refuse =>
    exact h.keep rfl rfl (fun _ hg => hg.doFirst _) (quiet.doFirst (by simp [Action.parts]))
  | @again t =>
    have quiet' : (s.doFirst [.forget t]).Quiet := quiet.doFirst (by simp [Action.parts])
    refine enqueue ?_ ?_ _ _ _
    · exact h.keep rfl rfl (fun _ hg => hg.doFirst _) quiet'
    · exact quiet'
  | @endBody t _ f trace cancelled _ only =>
    have looked : Tether { (s.setSlice home (some (.task t .joining))).modifyTask t f with
        unwinding := none, trace := trace } := by
      refine h.keep rfl rfl (fun g hg => ?_) quiet
      exact hg.modifyTask (t := t) (f := f) fun m w hw => by
        obtain ⟨o, a, eq⟩ := only m
        rw [eq]
        exact hw
    exact looked.keep rfl rfl (fun _ hg => hg.doFirst _) (quiet.doFirst fun b hb => by
      obtain ⟨n, -, rfl⟩ := List.mem_map.1 hb
      rfl)
  | @complete t stage p trace during past alone ended =>
    obtain ⟨task, found⟩ := known _ _ _ during
    obtain ⟨node, hnode⟩ := Option.map_eq_some_iff.1 (formed.tasks t task found)
    -- the task is told that it leaves while its slice says so
    have there : (((s.modifyNode t fun m => { m with joining := false, phase := p }).setSlice home
        (some (.task t .leaving))).slice home) = some (.task t .leaving) :=
      State.slice_setSlice_self during
    refine { h.keep rfl rfl (fun _ hg => hg) quiet with
      buried := fun u hb => ?_
      signals := fun g signal u hg hu => (h.signals g signal u hg hu).doFirst _
      leaving := fun u hw => ?_
      reporting := fun u hw => ?_ }
    · rcases List.mem_append.1 hb with hb | hb
      · simp at hb
      · exact absurd (quiet _ hb) (by simp [Action.parts])
    · rcases List.mem_append.1 hw with hw | hw
      · have : u = t := by simpa using hw
        subst this
        refine ⟨?_, home, ?_⟩
        · simp [State.phase, State.doFirst, State.setSlice, State.modifyNode, State.modifyRuntime,
            Store.get?_modify_self, hnode.1, ended]
        · exact there
      · exact absurd (quiet _ hw) (by simp [Action.parts])
    · rcases List.mem_append.1 hw with hw | hw
      · have : u = t := by simpa using hw
        subst this
        exact ⟨home, there⟩
      · exact absurd (quiet _ hw) (by simp [Action.parts])
  | drainAgain =>
    refine enqueue ?_ ?_ _ _ _
    · exact h.keep rfl rfl (fun _ hg => hg) quiet
    · exact quiet
  | handle during changes =>
    obtain ⟨stored, quiet'⟩ := handler during changes
    exact stored.keep rfl rfl (fun _ hg => hg) quiet'
  | hold later during changes =>
    obtain ⟨stored, quiet'⟩ := handler during changes
    exact stored.keep rfl rfl (fun _ hg => hg) quiet'
  | handled result during changes =>
    obtain ⟨stored, quiet'⟩ := handler during changes
    refine stored.keep rfl rfl (fun _ hg => hg.doLast _) (quiet'.doLast fun b hb => ?_)
    obtain ⟨r, -, rfl⟩ := List.mem_map.1 hb
    rfl
  | reply =>
    refine h.keep rfl rfl (fun _ hg => hg.doFirst _) (quiet.doFirst fun b hb => ?_)
    obtain ⟨k, -, rfl⟩ := List.mem_map.1 hb
    rfl
  | @markerAgain serial queue band goal =>
    have popped : Tether (s.popped home queue) := h.keep rfl rfl (fun _ hg => hg) quiet
    have quiet' : (s.popped home queue).Quiet := quiet
    exact (popped.enqueue quiet' home band (.marker serial)).keep rfl rfl (fun _ hg => hg)
      (quiet'.enqueue _ _ _)

theorem start (h : Tether s) (quiet : s.Quiet) (r : RuntimeId) (goal : Goal) :
    Tether (s.start r goal) := by
  obtain ⟨trace, eq⟩ := s.start_eq r goal
  rw [eq]
  exact h.keep rfl rfl (fun _ hg => hg) quiet

theorem move (formed : Formed s) (idle : s.agenda = []) {d d' : Desk} (m : Move s d s' d')
    (own : Own s d.resources []) (h : Tether s) : Tether s' := by
  have quiet := State.Quiet.idle idle
  have lines := State.OfLine.idle idle
  cases m with
  | build place batch stem =>
    rcases s.build_cases place batch stem with same | ⟨-, settings, built⟩
    · rwa [same]
    · rw [built]
      exact h.keep rfl rfl (fun _ hg => hg) quiet
  | start | block | join => exact h.start quiet _ _
  | @startRounds _ r _ rounds band =>
    have marked : Tether { s with markers := s.markers + 1 } :=
      h.keep rfl rfl (fun _ hg => hg) quiet
    have quiet' : ({ s with markers := s.markers + 1 } : State).Quiet := quiet
    exact (marked.enqueue quiet' _ _ _).start (quiet'.enqueue _ _ _) _ _
  | @launchRoot _ r _ body =>
    obtain ⟨nodes, trace, -, eq⟩ :=
      State.launch_addNode_eq formed.nodes .normal none r body true
    rw [State.launchRoot, eq]
    refine enqueue ?_ ?_ _ _ _
    · exact h.keep rfl rfl (fun g hg => heard_setTask formed.fresh_task hg nodes trace _) quiet
    · exact quiet
  | @leaveRoot _ t =>
    refine h.keep rfl rfl (fun g hg => ?_) (quiet.doFirst (by simp [Action.parts]))
    exact (hg.modifyTask (t := t) (f := fun m => { m with outcome := none })
      fun _ _ hw => hw).doFirst _
  | close =>
    refine h.keep rfl rfl (fun _ hg => hg.doFirst _) (quiet.doFirst fun b hb => ?_)
    obtain ⟨e, -, rfl⟩ := List.mem_map.1 hb
    rfl
  | line plain =>
    have own' : Own s (Frame.resources [] ++ []) [] := own
    exact (h.changes formed own' lines (State.plain?_fits idle plain)).2
  | @shelve f =>
    have own' : Own s ((f.resources ++ []) ++ []) [] := by simpa [Desk.resources] using own
    exact (h.changes formed own' lines (State.shelve_changes (c := { who := .main }) f s [])).2

end Tether

end Nursery
