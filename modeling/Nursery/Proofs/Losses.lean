import Nursery.Proofs.Group.Account

/-!
# When the log keeps a failure

The log says of a failure that nobody is told of it in three places only: where a group collects a
child that failed too late, where a task ends whose handle is gone, and where the handle of a task
is dropped that has failed.  Whatever else is told, now or later, says nothing of the kind.

* `State.Untold`, `Silent` : an event is still to be told; none of these says so.
* `State.lost` : what an item of the agenda says; `State.loses`, what a transition says.
* `Transition.losses` : **the log grows by that, and by nothing else of the kind.**
* `Trail.losses` : and so it does along a run.
-/

namespace Nursery

namespace State

/-- What a paused worker tells when it goes on. -/
def later (s : State) (r : RuntimeId) : List Event :=
  ((s.runtimes.get? r).bind Runtime.paused).getD []

/-- An event is still to be told. -/
def Untold (s : State) (e : Event) : Prop :=
  .record e ∈ s.agenda ∨ ∃ r, e ∈ s.later r

end State

/-- Nothing that is still to be told says that a failure is lost. -/
def Silent (s : State) : Prop :=
  ∀ e, s.Untold e → e.loss? = none

/-- Nothing else is to be told than before, or it is of a harmless kind. -/
structure Quiet (P : Event → Prop) (s s' : State) : Prop where
  /-- Whatever is still to be told. -/
  untold : ∀ e, s'.Untold e → s.Untold e ∨ P e

/-- An event says of no failure that it is lost. -/
def Event.Lossless (e : Event) : Prop :=
  e.loss? = none

/-- What an item of the agenda says of lost failures. -/
def State.lost (s : State) : Action → List Loss
  | .reportFailure t =>
    if s.phase t = .failed ∧ (s.tasks.get? t).any Task.handleDropped = true then s.unseen t else []
  | .release (.handle t) => if s.phase t = .failed then s.unseen t else []
  | _ => []

/-- What a transition says of lost failures. -/
def State.loses (s s' : State) : List Loss :=
  match s.agenda, s.look? with
  | a :: rest, _ => State.lost { s with agenda := rest } a
  | [], some l =>
    if s'.roused then []
    else Taking.losses l.group (s.hasFailed l.group) (State.takings l.group s s')
  | [], none => []

variable {s s' s'' : State} {d d' : Desk} {a : Action} {as : List Action} {c : Context}
  {hand hand' rest base : List Resource} {home : RuntimeId} {past : List State}
  {E C : TaskId → List Nat} {g t : TaskId} {P Q : Event → Prop}

theorem Silent.init : Silent {} := by
  rintro e (he | ⟨r, he⟩) <;> cases he

theorem Silent.quiet (h : Silent s) (q : Quiet Event.Lossless s s') : Silent s' :=
  fun e he => (q.untold e he).elim (h e) id

namespace State

theorem later_of_get? {r : RuntimeId} (same : s'.runtimes.get? r = s.runtimes.get? r) :
    s'.later r = s.later r := by
  rw [later, later, same]

theorem later_modifyRuntime (r : RuntimeId) {f : Runtime → Runtime}
    (same : ∀ rt, (f rt).paused = rt.paused) (q : RuntimeId) :
    (s.modifyRuntime r f).later q = s.later q := by
  by_cases hr : r = q
  · subst hr
    simp only [later, modifyRuntime, Store.get?_modify_self]
    cases s.runtimes.get? r with
    | none => rfl
    | some rt => simp [same]
  · exact later_of_get? (Store.get?_modify_of_ne hr)

theorem later_enqueue (r : RuntimeId) (p : Priority) (e : Entry) (q : RuntimeId) :
    (s.enqueue r p e).later q = s.later q := by
  unfold enqueue
  split
  · rfl
  · exact later_modifyRuntime r (fun _ => by rfl) q

theorem losses_enqueue (s : State) (r : RuntimeId) (p : Priority) (e : Entry) :
    losses (s.enqueue r p e).trace = losses s.trace := by
  obtain ⟨runtimes, agenda, eq⟩ := enqueue_eq s r p e
  rw [eq]

end State

namespace Quiet

theorem trans (h : Quiet P s s') (h' : Quiet P s' s'') : Quiet P s s'' :=
  ⟨fun e he => (h'.untold e he).elim (h.untold e) .inr⟩

theorem mono (h : Quiet P s s') (weaker : ∀ e, P e → Q e) : Quiet Q s s' :=
  ⟨fun e he => (h.untold e he).imp_right (weaker e)⟩

theorem of_agenda (later : ∀ r, s'.later r = s.later r)
    (more : ∀ e, .record e ∈ s'.agenda → .record e ∈ s.agenda ∨ P e) :
    Quiet P s s' := by
  refine ⟨?_⟩
  rintro e (he | ⟨r, he⟩)
  · exact (more e he).imp_left .inl
  · exact .inl (.inr ⟨r, by rwa [← later]⟩)

theorem of_same (later : ∀ r, s'.later r = s.later r) (agenda : s'.agenda = s.agenda) :
    Quiet P s s' :=
  of_agenda later fun e he => .inl (by rwa [← agenda])

theorem refl (s : State) : Quiet P s s :=
  of_same (fun _ => rfl) rfl

theorem before (q : Quiet P s' s'') (later : ∀ r, s'.later r = s.later r)
    (agenda : s'.agenda = s.agenda) : Quiet P s s'' :=
  (of_same later agenda).trans q

theorem after (q : Quiet P s s') (later : ∀ r, s''.later r = s'.later r)
    (agenda : s''.agenda = s'.agenda) : Quiet P s s'' :=
  q.trans (of_same later agenda)

theorem doFirst (fair : ∀ e, .record e ∈ as → P e) : Quiet P s (s.doFirst as) :=
  of_agenda (fun _ => rfl) fun e he =>
    (List.mem_append.1 he).elim (fun new => .inr (fair e new)) .inl

theorem doLast (fair : ∀ e, .record e ∈ as → P e) : Quiet P s (s.doLast as) :=
  of_agenda (fun _ => rfl) fun e he =>
    (List.mem_append.1 he).elim .inl fun new => .inr (fair e new)

theorem setSlice (r : RuntimeId) (slice : Option Slice) : Quiet P s (s.setSlice r slice) :=
  of_same (State.later_modifyRuntime r fun _ => rfl) rfl

theorem enqueue (r : RuntimeId) (p : Priority) (e : Entry) : Quiet P s (s.enqueue r p e) := by
  refine of_agenda (State.later_enqueue r p e) fun e' he => ?_
  unfold State.enqueue at he
  split at he
  · exact (List.mem_cons.1 he).elim (fun same => by cases same) .inl
  · exact .inl he

theorem pause (r : RuntimeId) {later : List Event} (fair : ∀ e ∈ later, P e) :
    Quiet P s (s.modifyRuntime r fun rt => { rt with paused := some later }) := by
  refine ⟨?_⟩
  rintro e (he | ⟨q, he⟩)
  · exact .inl (.inl he)
  · by_cases hr : r = q
    · subst hr
      rw [State.later, State.modifyRuntime, Store.get?_modify_self] at he
      cases found : s.runtimes.get? r with
      | none => simp [found] at he
      | some rt => exact .inr (fair e (by simpa [found] using he))
    · refine .inl (.inr ⟨q, ?_⟩)
      rwa [State.later, State.modifyRuntime, Store.get?_modify_of_ne hr] at he

end Quiet

/-! ### What an item of the agenda says -/

theorem Effect.losses (silent : Silent (s.doFirst [a])) (e : Effect s a s') :
    losses s'.trace = losses s.trace ++ s.lost a := by
  cases e with
  | spent why =>
    cases a with
    | reportFailure t =>
      rw [State.lost]
      split
      · rename_i due
        obtain ⟨task, found, dropped⟩ := (Option.any_eq_true _ _).1 due.2
        have reported := why due.1 task found dropped
        simp [State.unseen, found, Task.unseen, reported]
      · rw [List.append_nil]
    | release r =>
      cases r with
      | handle t => exact absurd why id
      | _ => simp [State.lost]
    | _ => simp [State.lost]
  | reportFailure trace only failed dropped looked logged =>
    rw [State.lost, if_pos ⟨failed, dropped⟩]
    exact logged
  | dropHandle trace only looked logged => exact logged
  | record e =>
    have fair := silent e (.inl List.mem_cons_self)
    simp [State.lost, State.tell, losses_push_of_none _ fair]
  | resume => simp [State.lost, State.losses_enqueue, State.setPhase, State.modifyNode]
  | abandon trace found mute => simpa [State.lost, State.doFirst] using mute
  | _ => simp [State.lost, State.doFirst, State.log, State.tell, losses_push, Event.loss?,
      State.modifyNode, State.modifySignal, State.modifyTask, State.modifyCall, State.setPhase]

/-- What an item of the agenda comes to tells nothing else, unless it drops a group with children
outstanding. -/
theorem Effect.quiet (e : Effect s a s') (dropped : ∀ g group, a = .release (.group g) →
    s.groups.get? g = some group → group.remaining ≠ 0 →
      P (.logged (.groupDropped g group.remaining))) : Quiet P (s.doFirst [a]) s' := by
  have pop : Quiet P (s.doFirst [a]) s :=
    .of_agenda (fun _ => rfl) fun e he => .inl (List.mem_cons_of_mem _ he)
  -- the new items are no records
  have first : ∀ (x : State) (as : List Action), x.runtimes = s.runtimes →
      x.agenda = as ++ s.agenda → (∀ e, .record e ∈ as → P e) →
        Quiet P (s.doFirst [a]) x := fun x as runtimes agenda fair =>
    pop.trans (.of_agenda (fun r => State.later_of_get? (by rw [runtimes])) fun e he =>
      (List.mem_append.1 (agenda ▸ he)).elim (fun new => .inr (fair e new)) .inl)
  cases e with
  | resume =>
    exact pop.trans (.before (.enqueue ..) (fun _ => rfl) rfl)
  | panic =>
    refine .of_agenda (fun _ => rfl) fun e he => ?_
    obtain ⟨b, -, hb⟩ := List.mem_filterMap.1 he
    cases b with
    | wake w => cases w <;> cases hb
    | _ => cases hb
  | spent | orphan | reap | reportFailure | record | dropPending =>
    exact pop.trans (.of_same (fun _ => rfl) rfl)
  | dropUndrained found outstanding =>
    refine first _ _ rfl rfl fun e he => ?_
    simp only [List.mem_cons, reduceCtorEq, Action.record.injEq, List.not_mem_nil, or_false,
      false_or] at he
    rw [he]
    exact dropped _ _ rfl found outstanding
  | wakeWaiters | bury =>
    refine first _ _ rfl rfl fun e he => ?_
    obtain ⟨w, -, hw⟩ := List.mem_map.1 he
    cases w <;> cases hw
  | finish =>
    refine first _ _ rfl rfl fun e he => ?_
    split at he <;> simp at he
  | reapLast =>
    refine first _ _ rfl rfl fun e he => ?_
    split at he <;> split at he <;> simp at he
  | _ =>
    refine first _ _ rfl rfl fun e he => ?_
    simp at he

/-! ### What a line says -/

namespace State

theorem losses_addNode (s : State) (kind : NodeKind) (priority : Priority)
    (parent : Option TaskId) : losses (s.addNode kind priority parent).trace = losses s.trace := by
  unfold addNode
  cases parent with
  | none => rfl
  | some p =>
    dsimp only
    split
    · exact losses_push_of_none _ rfl
    · rfl

theorem losses_launch (s : State) (n : TaskId) (home : RuntimeId) (body : List Line)
    (blocking : Bool) : losses (s.launch n home body blocking).trace = losses s.trace := by
  unfold launch
  exact (losses_enqueue ..).trans (losses_push_of_none _ rfl)

theorem losses_post (s : State) (a : ActorId) (home : RuntimeId) (message : Message) :
    losses (s.post a home message).trace = losses s.trace := by
  obtain ⟨actors, runtimes, agenda, eq⟩ := post_eq s a home message
  rw [eq]

end State

namespace Quiet

theorem addNode (kind : NodeKind) (priority : Priority) (parent : Option TaskId) :
    Quiet P s (s.addNode kind priority parent) := by
  unfold State.addNode
  cases parent with
  | none => exact of_same (fun _ => rfl) rfl
  | some p =>
    dsimp only
    split <;> exact of_same (fun _ => rfl) rfl

theorem launch (n : TaskId) (r : RuntimeId) (body : List Line) (blocking : Bool) :
    Quiet P s (s.launch n r body blocking) := by
  unfold State.launch
  exact before (.enqueue ..) (fun _ => rfl) rfl

theorem post (a : ActorId) (r : RuntimeId) (message : Message) :
    Quiet P s (s.post a r message) := by
  unfold State.post
  split
  · exact .refl s
  · dsimp only
    split
    · exact of_same (fun _ => rfl) rfl
    · exact before (.enqueue ..) (fun _ => rfl) rfl

end Quiet

/-- A line tells nothing of lost failures or of dropped groups later. -/
theorem Change.quiet (hc : Change c s hand s' hand') : Quiet Event.Fair s s' := by
  cases hc with
  | spawn => exact (Quiet.addNode ..).trans (.launch ..)
  | group =>
    unfold State.makeGroup
    exact (Quiet.addNode ..).trans (.of_same (fun _ => rfl) rfl)
  | add =>
    unfold State.addChild
    exact ((Quiet.addNode ..).trans (.launch ..)).trans (.of_same (fun _ => rfl) rfl)
  | call => exact .before (.post ..) (fun _ => rfl) rfl
  | send => exact .post ..
  | expect =>
    refine .before (.doFirst fun e he => ?_) (fun _ => rfl) rfl
    simp at he
  | listen =>
    refine .before (.doFirst fun e he => ?_) (fun _ => rfl) rfl
    simp at he
  | park =>
    refine .before (.doLast fun e he => ?_) (fun _ => rfl) rfl
    simp at he
  | record e fair =>
    refine .doLast fun e' he => ?_
    cases List.mem_singleton.1 he
    exact fair
  | release | cancel | wake => exact .doLast fun e he => by simp at he
  | _ => exact .of_same (fun _ => rfl) rfl

/-- A line that does not look at a group says nothing of lost failures. -/
theorem Change.losses (blind : ¬ s.Looks c) (hc : Change c s hand s' hand') :
    losses s'.trace = losses s.trace := by
  cases hc with
  | tell e fair => exact losses_push_of_none _ (fair.resolve_right blind)
  | spawn => exact (State.losses_launch ..).trans (State.losses_addNode ..)
  | group => exact State.losses_addNode ..
  | add => exact (State.losses_launch ..).trans (State.losses_addNode ..)
  | call => exact State.losses_post ..
  | send => exact State.losses_post ..
  | _ => rfl

theorem Changes.quiet (hc : Changes c s hand s' hand') : Quiet Event.Fair s s' :=
  hc.invariant (I := fun x _ => Quiet Event.Fair s x) (fun hc h => h.trans hc.quiet) (.refl s)

theorem Changes.losses (formed : Formed s) (seat : Seated s c base) (blind : ¬ s.Looks c)
    (hc : Changes c s hand s' hand') : Nursery.losses s'.trace = Nursery.losses s.trace := by
  have key := hc.invariant (I := fun x _ => (Formed x ∧ Keeps s x) ∧
    Nursery.losses x.trace = Nursery.losses s.trace) (fun {x x' hand hand'} hc h => ?_)
    ⟨⟨formed, .refl s⟩, rfl⟩
  · exact key.2
  · obtain ⟨⟨formed', keeps⟩, same⟩ := h
    exact ⟨⟨formed'.change hc, keeps.trans (.change formed' hc)⟩,
      (hc.losses (seat.blind keeps blind)).trans same⟩

/-! ### What a worker says -/

/-- What a worker does tells nothing of lost failures or of dropped groups later. -/
theorem Work.quiet (w : Work s home s') : Quiet Event.Fair s s' := by
  -- where a runtime changes in nothing but its slice and its queue
  have moved : ∀ (x : State) (r : RuntimeId) (f : Runtime → Runtime),
      (∀ rt, (f rt).paused = rt.paused) → Quiet Event.Fair x (x.modifyRuntime r f) :=
    fun x r f same => .of_same (State.later_modifyRuntime r same) rfl
  have popped : ∀ queue, Quiet Event.Fair s (s.popped home queue) :=
    fun queue => moved _ _ _ fun _ => rfl
  -- what comes first does not tell anything
  have first : ∀ {x : State} {as : List Action}, Quiet Event.Fair s x → (∀ e, .record e ∉ as) →
      Quiet Event.Fair s (x.doFirst as) := fun q none =>
    q.trans (.doFirst fun e he => absurd he (none e))
  have released : ∀ {x : State} {es : List Event} {rs : List Resource}, Quiet Event.Fair s x →
      (∀ e ∈ es, e.Fair) →
        Quiet Event.Fair s (x.doLast (es.map .record ++ rs.map .release)) := by
    intro x es rs q fair
    refine q.trans (.doLast fun e he => ?_)
    rcases List.mem_append.1 he with he | he
    · obtain ⟨e', he', same⟩ := List.mem_map.1 he
      cases same
      exact fair e he'
    · obtain ⟨r, -, other⟩ := List.mem_map.1 he
      cases other
  cases w with
  | stop => exact .of_same (fun _ => rfl) rfl
  | lost => exact .setSlice ..
  | next _ _ changes => exact changes.quiet.after (fun _ => rfl) rfl
  | suspend _ _ changes =>
    exact changes.quiet.trans (.before (.setSlice ..) (fun _ => rfl) rfl)
  | ends told _ changes _ fair =>
    refine released ?_ fair
    exact changes.quiet.trans ((Quiet.setSlice ..).after (fun _ => rfl) rfl)
  | pause later _ _ changes _ _ fair =>
    exact changes.quiet.trans ((Quiet.pause _ fair).after (fun _ => rfl) rfl)
  | rest =>
    refine first ?_ (by simp)
    exact (Quiet.setSlice _ none).after (fun _ => rfl) rfl
  | again =>
    refine .trans (first ?_ (by simp)) (.enqueue ..)
    exact (Quiet.setSlice _ none).after (fun _ => rfl) rfl
  | forgotten => exact (Quiet.setSlice _ none).after (fun _ => rfl) rfl
  | endBody =>
    refine first ?_ (by simp)
    exact (Quiet.setSlice ..).after (fun _ => rfl) rfl
  | complete =>
    refine first ?_ (by simp)
    exact (Quiet.setSlice ..).after (fun _ => rfl) rfl
  | leave => exact first (.setSlice ..) (by simp)
  | receive => exact (Quiet.setSlice ..).after (fun _ => rfl) rfl
  | drained => exact (Quiet.setSlice ..).after (fun _ => rfl) rfl
  | drainAgain =>
    refine Quiet.trans ?_ (.enqueue ..)
    exact (Quiet.setSlice ..).after (fun _ => rfl) rfl
  | handle _ changes => exact changes.quiet.trans (.setSlice ..)
  | hold later _ changes _ _ fair =>
    exact (changes.quiet.trans (.setSlice ..)).trans ((Quiet.pause _ fair).after (fun _ => rfl) rfl)
  | handled _ _ changes =>
    refine @released _ [] _ ?_ (by simp)
    exact changes.quiet.trans (.setSlice ..)
  | reply =>
    refine first ?_ (by simp)
    exact (Quiet.setSlice ..).after (fun _ => rfl) rfl
  | begin => exact (popped _).trans (.before (.setSlice ..) (fun _ => rfl) rfl)
  | refuse => exact first (popped _) (by simp)
  | beginDrain => exact (popped _).trans (.setSlice ..)
  | markerStop => exact (popped _).after (fun _ => rfl) rfl
  | markerAgain => exact ((popped _).trans (.enqueue ..)).after (fun _ => rfl) rfl
  | markerSkip => exact popped _

/-- A worker says nothing of lost failures, unless a body looks at a group. -/
theorem Work.losses (formed : Formed s) (blind : ∀ t, ¬ s.Looks ⟨.task t, some home⟩)
    (w : Work s home s') : Nursery.losses s'.trace = Nursery.losses s.trace := by
  have deaf : ∀ {a : ActorId}, ¬ s.Looks ⟨.actor a, some home⟩ := by
    rintro a ⟨⟨home, t, task, f, here, -⟩, -⟩
    cases here
  cases w with
  | next runs _ changes | suspend runs _ changes | ends _ runs changes
  | pause _ runs _ changes =>
    have line := changes.losses formed (.body runs) (blind _)
    exact line
  | handle during changes | hold _ during changes | handled _ during changes =>
    have line := changes.losses formed (.handler during) deaf
    exact line
  | endBody _ _ _ _ mute | complete _ _ _ _ _ _ mute | reply _ _ _ _ mute => exact mute
  | again | markerAgain => exact State.losses_enqueue ..
  | drained => exact losses_push_of_none _ rfl
  | drainAgain => exact (State.losses_enqueue ..).trans (losses_push_of_none _ rfl)
  | _ => rfl

/-! ### What a move says -/

theorem State.losses_foldl_tell (es : List Event) (fair : ∀ e ∈ es, e.loss? = none) :
    ∀ s : State, losses (es.foldl State.tell s).trace = losses s.trace := by
  induction es with
  | nil => exact fun _ => rfl
  | cons e es ih =>
    intro s
    rw [List.foldl_cons, ih fun e he => fair e (List.mem_cons_of_mem _ he)]
    exact losses_push_of_none _ (fair e List.mem_cons_self)

/-- A worker that goes on says nothing of lost failures. -/
theorem Silent.start (h : Silent s) (r : RuntimeId) (goal : Goal) :
    losses (s.start r goal).trace = losses s.trace :=
  State.losses_foldl_tell _ (fun e he => h e (.inr ⟨r, he⟩)) _

theorem Quiet.start (r : RuntimeId) (goal : Goal) : Quiet P s (s.start r goal) := by
  obtain ⟨trace, eq⟩ := s.start_eq r goal
  rw [eq]
  refine ⟨?_⟩
  rintro e (he | ⟨q, he⟩)
  · exact .inl (.inl he)
  · by_cases hr : r = q
    · subst hr
      rw [State.later] at he
      simp only [State.modifyRuntime, Store.get?_modify_self] at he
      cases found : s.runtimes.get? r <;> simp [found] at he
    · refine .inl (.inr ⟨q, ?_⟩)
      rwa [State.later_of_get? (Store.get?_modify_of_ne hr)] at he

/-- A move tells nothing of lost failures or of dropped groups later. -/
theorem Move.quiet (formed : Formed s) (idle : s.agenda = []) (m : Move s d s' d') :
    Quiet Event.Fair s s' := by
  cases m with
  | build place batch stem =>
    rcases s.build_cases place batch stem with same | ⟨-, settings, built⟩
    · rw [same]
      exact .refl s
    · rw [built]
      refine .of_same (fun r => ?_) rfl
      have fresh : s.runtimes.get? ⟨s.runtimes.size⟩ = none :=
        formed.runtimes.fresh (k := ⟨s.runtimes.size⟩) rfl
      by_cases new : (⟨s.runtimes.size⟩ : RuntimeId) = r
      · subst new
        simp [State.later, State.install, Store.get?_set_self, fresh]
      · exact State.later_of_get? (Store.get?_set_of_ne new)
  | start | block | join => exact .start ..
  | startRounds =>
    refine Quiet.trans ?_ (.start ..)
    exact .before (.enqueue ..) (fun _ => rfl) rfl
  | launchRoot => exact (Quiet.addNode ..).trans (.launch ..)
  | leaveRoot => exact .before (.doFirst fun e he => by simp at he) (fun _ => rfl) rfl
  | @close _ home =>
    unfold State.close
    refine Quiet.trans ?_ (.doFirst fun e he => by simp at he)
    exact .of_same (fun r => State.later_modifyRuntime home (fun _ => by rfl) r) rfl
  | line plain => exact (State.plain?_fits idle plain).quiet
  | @shelve f => exact (State.shelve_changes (c := ⟨.main, none⟩) f s []).quiet

/-- A move says nothing of lost failures. -/
theorem Move.losses (formed : Formed s) (idle : s.agenda = []) (silent : Silent s)
    (m : Move s d s' d') : Nursery.losses s'.trace = Nursery.losses s.trace := by
  have deaf : ∀ {home : Option RuntimeId}, ¬ s.Looks ⟨.main, home⟩ := by
    rintro home ⟨⟨home, t, task, f, here, -⟩, -⟩
    cases here
  cases m with
  | build place batch stem =>
    rcases s.build_cases place batch stem with same | ⟨-, settings, built⟩
    · rw [same]
    · rw [built]
      rfl
  | start | block | join => exact silent.start ..
  | @startRounds _ r _ rounds band =>
    have queued : Quiet Event.Lossless s
        ({ s with markers := s.markers + 1 }.enqueue r band (.marker (s.markers + 1))) :=
      .before (.enqueue ..) (fun _ => rfl) rfl
    exact ((silent.quiet queued).start ..).trans (State.losses_enqueue ..)
  | launchRoot => exact (State.losses_launch ..).trans (State.losses_addNode ..)
  | leaveRoot => rfl
  | close => exact losses_push_of_none _ rfl
  | line plain =>
    have line := (State.plain?_fits idle plain).losses formed .main deaf
    exact line
  | @shelve f =>
    exact (State.shelve_changes (c := ⟨.main, none⟩) f s []).losses formed .main deaf

/-! ### What a transition says -/

/-- Whatever a worker or the main thread does in a state that is sound. -/
theorem Transition.quiet (sound : Sound s d) (tr : Transition s d s' d') :
    Quiet Event.Lossless s s' := by
  cases tr with
  | step =>
    have next := State.step_cases sound.wakeful.waitsOnOwn
    generalize s.step = s' at next
    cases next with
    | item first e =>
      subst first
      exact e.quiet fun _ _ _ _ _ => rfl
    | work idle active w => exact w.quiet.mono fun _ fair => fair.1
    | rest => exact .refl s
  | stray => exact .doFirst fun e he => by simp at he
  | move rests m =>
    exact (m.quiet sound.formed (State.idle_of_resting rests)).mono fun _ fair => fair.1

/-- **Nothing that is still to be told** says that a failure is lost. -/
theorem Reachable.silent (h : Reachable s d) : Silent s := by
  induction h with
  | init => exact .init
  | next h tr ih => exact ih.quiet (tr.quiet h.sound)

/-- **The log grows by what a transition says** of lost failures, and by nothing else of the
kind. -/
theorem Transition.losses (reachable : Reachable s d) (tr : Transition s d s' d')
    (rolls : Rolls s E C) :
    Nursery.losses s'.trace = Nursery.losses s.trace ++ s.loses s' := by
  have sound := reachable.sound
  -- where nothing is said
  have nothing : s.agenda = [] → s.look? = none ∨ s'.roused = true →
      Nursery.losses s'.trace = Nursery.losses s.trace →
      Nursery.losses s'.trace = Nursery.losses s.trace ++ s.loses s' := by
    intro idle blind same
    have none_said : s.loses s' = [] := by
      unfold State.loses
      rw [idle]
      rcases blind with blind | roused
      · rw [blind]
      · cases s.look? <;> simp [roused]
    rw [none_said, List.append_nil, same]
  cases tr with
  | step =>
    cases look : s.look? with
    | some l =>
      have h := State.step_look sound look
      obtain ⟨xs, s₁, looked⟩ := h.looked sound rolls
      obtain ⟨m, known⟩ := h.known
      have known' : l.state.groups.get? l.group = some m := by rw [h.before.groups, known]
      obtain ⟨-, logged, -⟩ := looked.collects.results known'
      obtain ⟨shared, same⟩ := h.state
      have trace : l.state.trace = s.trace := by rw [same]
      have said : s.loses s.step = Taking.losses l.group m.failed xs := by
        rw [← State.hasFailed_of_get? known, ← looked.takings h, State.loses, h.idle, look]
        exact if_neg (by simp [looked.not_roused])
      rw [looked.logged, logged, trace, said]
    | none =>
      by_cases looks : ∃ home goal t, s.agenda = [] ∧ s.active = some (home, goal) ∧
          s.Looks ⟨.task t, some home⟩
      · obtain ⟨home, goal, t, idle, active, looks⟩ := looks
        obtain ⟨-, -, same, -⟩ := State.step_missing idle active looks look
        exact nothing idle (.inl look) (by rw [same])
      · have next := State.step_cases sound.wakeful.waitsOnOwn
        generalize s.step = s' at next nothing
        cases next with
        | item first e =>
          subst first
          have item := e.losses reachable.silent
          exact item
        | work idle active w =>
          exact nothing idle (.inl look) (w.losses sound.formed fun t blind =>
            looks ⟨_, _, t, idle, active, blind⟩)
        | rest rests => exact nothing (State.idle_of_resting rests) (.inl look) rfl
  | stray idle =>
    exact nothing idle (.inr (by simp [State.roused, State.doFirst, idle])) rfl
  | move rests m =>
    have idle := State.idle_of_resting rests
    refine nothing idle (.inl ?_) (m.losses sound.formed idle reachable.silent)
    have still := State.still_of_resting rests
    rw [State.look?, still, idle]

/-- **What the log keeps** is what the transitions of a run say. -/
theorem Trail.losses (h : Trail past s d) :
    Nursery.losses s.trace = gather State.loses s past := by
  induction h with
  | init => rfl
  | next h tr ih => rw [tr.losses h.reachable h.rolls, ih, gather_cons]

end Nursery
