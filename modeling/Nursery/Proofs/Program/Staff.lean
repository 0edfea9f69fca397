import Nursery.Proofs.Invariant.Lasts
import Nursery.Proofs.Program.Workplace

/-!
# Nobody is lost

A task of a program that has not ended is there to stay.  It is queued, or in the slice of the
worker, or it waits where it will be woken, so somebody refers to it and it is not buried, whatever
happens to its handle.

* `Staffed` : whoever goes on is there.
* `Staffed.not_loose` : somebody refers to a task that has not ended.
* `Staffed.effect`, `Staffed.toil` : it is kept.
-/

namespace Nursery

/-! ### What an item of the agenda leaves alone -/

namespace Effect

variable {s s' : State} {a : Action} {t : TaskId}

theorem phase (formed : Formed s) (e : Effect s a s') :
    s'.phase t = s.phase t ∨ s.phase t = .suspended ∧ s'.phase t = .ready ∨
      s.phase t = .running ∧ s'.phase t = .notified := by
  cases e with
  | cancel | finish | orphan => exact .inl (State.phase_modifyNode_same fun _ => by rfl)
  | reap | reapLast =>
    exact .inl ((State.phase_modifyNode_same fun _ => by rfl).trans
      (State.phase_modifyNode_same fun _ => by rfl))
  | @resume u task suspended found =>
    rw [State.phase_enqueue]
    by_cases same : u = t
    · subst same
      obtain ⟨node, known, -⟩ := Option.map_eq_some_iff.1 (formed.tasks u task found)
      exact .inr (.inl ⟨suspended, State.phase_modifyNode_self known⟩)
    · exact .inl (State.phase_modifyNode_of_ne same)
  | @notify u running =>
    by_cases same : u = t
    · subst same
      obtain ⟨node, known, -⟩ := State.get?_of_phase running (by simp)
      exact .inr (.inr ⟨running, State.phase_modifyNode_self (s := s) known⟩)
    · exact .inl (State.phase_modifyNode_of_ne (s := s) same)
  | _ => exact .inl rfl

theorem isTerminal (formed : Formed s) (e : Effect s a s') :
    (s'.phase t).isTerminal = (s.phase t).isTerminal := by
  rcases e.phase formed (t := t) with same | ⟨was, now⟩ | ⟨was, now⟩
  · rw [same]
  · rw [was, now]
    rfl
  · rw [was, now]
    rfl

theorem known {n : TaskId} (e : Effect s a s') (h : s'.nodes.get? n ≠ none) :
    s.nodes.get? n ≠ none := by
  have kept : ∀ {nodes : Store TaskId Node} {k : TaskId} {f : Node → Node},
      (nodes.modify k f).get? n ≠ none → nodes.get? n ≠ none :=
    fun found missing => found (Store.get?_modify_eq_none.2 missing)
  cases e with
  | cancel | finish | orphan | notify => exact kept h
  | resume =>
    rw [State.nodes_enqueue] at h
    exact kept h
  | reap | reapLast => exact kept (kept h)
  | _ => exact h

theorem stays (e : Effect s a s') {task : Task} (found : s.tasks.get? t = some task)
    (other : a ≠ .bury t) : ∃ task', s'.tasks.get? t = some task' := by
  cases e with
  | resume =>
    rw [State.tasks_enqueue]
    exact ⟨task, found⟩
  | wakeWaiters | reportFailure | dropHandle | forget =>
    exact ⟨_, Store.get?_modify_eq_some.2 ⟨task, found, rfl⟩⟩
  | @bury u =>
    have apart : u ≠ t := fun same => other (same ▸ rfl)
    refine ⟨task, ?_⟩
    rw [State.doFirst, Store.get?_erase, if_neg apart]
    exact found
  | _ => exact ⟨task, found⟩

theorem unwinding (e : Effect s a s') (isolated : a.isolated = true) :
    s'.unwinding = s.unwinding := by
  cases e with
  | @resume t task =>
    obtain ⟨runtimes, agenda, eq⟩ :=
      (s.setPhase t .ready).enqueue_eq task.home (s.priority t) (.task t)
    rw [eq]
    rfl
  | panic => cases isolated
  | _ => rfl

end Effect

/-- A turn leaves alone what every line does. -/
theorem Pace.keeps {s : State} {home : RuntimeId} {t : TaskId} {f : Fiber} {turn : Turn}
    (formed : Formed s) (pace : Pace s home t f turn) : Keeps s turn.state := by
  cases pace with
  | pass | panic | give | finish => exact { Keeps.refl s with }
  | @spawn tag detached body rest parent band priority =>
    have := Keeps.launch formed priority parent home body false
    exact { this with }
  | pending => exact Keeps.modifyTask _ fun m => ⟨_, m.outcome, rfl⟩
  | @learn tag attempt u taken f' outcome =>
    have : Keeps s (s.modifyTask u fun m => { m with outcome := none }) :=
      Keeps.modifyTask _ fun m => ⟨m.waiters, _, rfl⟩
    cases outcome <;> exact this
  | gone => exact Keeps.modifyTask _ fun m => ⟨m.waiters, _, rfl⟩

/-! ### Whoever goes on is there -/

/-- Whoever goes on is there. -/
structure Staffed (s : State) (home : RuntimeId) : Prop where
  /-- A body is panicking only while what it owned is dropped. -/
  unwinds : s.Unwinds home
  /-- A task that has not ended is there to stay. -/
  there : ∀ n, s.nodes.get? n ≠ none → (s.phase n).isTerminal = false →
    (∃ m, s.tasks.get? n = some m) ∧ .bury n ∉ s.agenda
  /-- Of a task that has ended no body is left. -/
  bodiless : ∀ t m, s.tasks.get? t = some m → (s.phase t).isTerminal = true → m.fiber = none
  /-- A task in progress is in the slice of the worker. -/
  busy : ∀ t, s.phase t = .running ∨ s.phase t = .notified →
    ∃ stage, s.slice home = some (.task t stage)

namespace Staffed

variable {s s' : State} {root t : TaskId} {home : RuntimeId} {d : Desk} {a : Action}

theorem traced (h : Staffed s home) (trace : Array Event) :
    Staffed { s with trace := trace } home :=
  { h with }

theorem pop (h : Staffed (s.doFirst [a]) home) : Staffed s home where
  unwinds := h.unwinds
  there n known ongoing := by
    obtain ⟨found, stays⟩ := h.there n known ongoing
    exact ⟨found, fun buried => stays (List.mem_cons_of_mem a buried)⟩
  bodiless := h.bodiless
  busy := h.busy

theorem doFirst (h : Staffed s home) {as : List Action} (new : ∀ n, .bury n ∉ as) :
    Staffed (s.doFirst as) home where
  unwinds := h.unwinds
  there n known ongoing := by
    obtain ⟨found, stays⟩ := h.there n known ongoing
    exact ⟨found, fun buried => (List.mem_append.1 buried).elim (new n) stays⟩
  bodiless := h.bodiless
  busy := h.busy

theorem doLast (h : Staffed s home) {as : List Action} (new : ∀ n, .bury n ∉ as) :
    Staffed (s.doLast as) home where
  unwinds := h.unwinds
  there n known ongoing := by
    obtain ⟨found, stays⟩ := h.there n known ongoing
    exact ⟨found, fun buried => (List.mem_append.1 buried).elim stays (new n)⟩
  bodiless := h.bodiless
  busy := h.busy

theorem modifyTask (h : Staffed s home) {f : Task → Task}
    (elapsed : ∀ m, (s.phase t).isTerminal = true → m.fiber = none → (f m).fiber = none) :
    Staffed (s.modifyTask t f) home where
  unwinds := h.unwinds
  there n known ongoing := by
    obtain ⟨⟨m, found⟩, stays⟩ := h.there n known ongoing
    exact ⟨⟨_, Store.get?_modify_eq_some.2 ⟨m, found, rfl⟩⟩, stays⟩
  bodiless u m found ended := by
    obtain ⟨m, known, rfl⟩ := Store.get?_modify_eq_some.1 found
    have before := h.bodiless u m known ended
    split
    · rename_i same
      subst same
      exact elapsed m ended before
    · exact before
  busy := h.busy

theorem launch (h : Staffed s home) (programs : Programs s root home) (formed : Formed s)
    (idle : s.agenda = []) (priority : Priority) (parent : Option TaskId) (body : List Line)
    (blocking : Bool) :
    Staffed ((s.addNode .task priority parent).launch s.nextNode home body blocking) home := by
  have slice : ∀ r,
      ((s.addNode .task priority parent).launch s.nextNode home body blocking).slice r =
      s.slice r := (Keeps.launch formed priority parent home body blocking).slice
  -- the new task is ready, and the others are where they were
  have tasks := programs.tasks_launch formed priority parent body blocking
  have new := programs.phase_launch_new formed priority parent body blocking
  have old : ∀ n, n ≠ s.nextNode → _ = s.phase n := fun n other =>
    programs.phase_launch_old formed priority parent body blocking other
  obtain ⟨nodes, trace, grown, eq⟩ := programs.launch_eq formed priority parent body blocking
  constructor
  · intro message raised
    rw [eq] at raised
    obtain ⟨u, during⟩ := h.unwinds message raised
    exact ⟨u, (slice home).trans during⟩
  · intro n known ongoing
    rw [tasks]
    have agenda : ((s.addNode .task priority parent).launch s.nextNode home body blocking).agenda =
        s.agenda := by rw [eq]; rfl
    rw [agenda]
    by_cases same : n = s.nextNode
    · subst same
      exact ⟨⟨_, Store.get?_set_self⟩, fun buried => by simp [idle] at buried⟩
    · have before : s.nodes.get? n ≠ none := by
        intro missing
        rw [eq] at known
        have := grown.old n same
        rw [missing] at this
        exact known this
      rw [old n same] at ongoing
      obtain ⟨⟨m, found⟩, stays⟩ := h.there n before ongoing
      exact ⟨⟨m, (Store.get?_set_of_ne (Ne.symm same)).trans found⟩, stays⟩
  · intro u m found ended
    by_cases same : u = s.nextNode
    · subst same
      rw [new] at ended
      cases ended
    · rw [tasks, Store.get?_set_of_ne (Ne.symm same)] at found
      rw [old u same] at ended
      exact h.bodiless u m found ended
  · intro u up
    by_cases same : u = s.nextNode
    · subst same
      rw [new] at up
      rcases up with up | up <;> cases up
    · rw [old u same] at up
      obtain ⟨stage, during⟩ := h.busy u up
      exact ⟨stage, (slice home).trans during⟩

/-- Somebody refers to a task that has not ended. -/
theorem not_loose (sound : Sound (s.doFirst [.forget t]) d) (programs : Programs s root home)
    (h : Staffed s home) (known : s.nodes.get? t ≠ none)
    (ongoing : (s.phase t).isTerminal = false) : ¬ s.Loose t := by
  intro loose
  obtain ⟨⟨m, found⟩, stays⟩ := h.there t known ongoing
  obtain ⟨rt, built, running, -⟩ := programs.runtime
  have busy : ∀ stage, s.slice home ≠ some (.task t stage) := loose.slice_ne home
  cases phase : s.phase t with
  | ready =>
    have here : s.home? t = some home := by
      rw [State.home?, found, Option.map_some, (programs.tasks t m found).home]
    exact loose.queue home rt built (sound.dispatch.ready home rt t built running here phase)
  | running =>
    obtain ⟨stage, during⟩ := h.busy t (.inl phase)
    exact busy stage during
  | notified =>
    obtain ⟨stage, during⟩ := h.busy t (.inr phase)
    exact busy stage during
  | suspended =>
    have tended := sound.wakeful t m found
    rcases tended.attended (.inl phase) with (woken | ⟨u, m', later, there, waits⟩) | attended
    · rcases List.mem_cons.1 woken with eq | woken
      · cases eq
      · have := loose.agenda _ woken
        simp [Action.refersTo] at this
    · exact loose.waiters u m' there waits
    · cases fiber : m.fiber with
      | none =>
        rw [fiber] at attended
        rcases attended with buried | ⟨node, there, -, joining⟩
        · rcases List.mem_cons.1 buried with eq | buried
          · cases eq
          · exact stays buried
        · have := loose.joining node there
          simp [joining] at this
      | some f =>
        rw [fiber] at attended
        obtain ⟨w, waits, armed⟩ := attended
        have allowed := ((programs.tasks t m found).fiber f fiber).waiting w waits
        have own := tended.own f w fiber waits
        obtain ⟨tag, attempt, wait⟩ := w
        cases wait with
        | yielding left => exact armed
        | awaiting r taken =>
          cases r with
          | handle u =>
            have mine : .handle u ∈ m.resources := by
              rw [Task.resources_of_fiber fiber]
              exact own
            obtain ⟨m', there, -⟩ := sound.own.there _ (Nat.lt_of_lt_of_le
              (State.owners_of_task sound.formed found mine) (Nat.le_add_right _ _))
            exact loose.waiters u m' there (armed.2 m' there)
          | _ => cases allowed
        | _ => cases allowed
  | completed | failed | cancelled => simp [phase, Phase.isTerminal] at ongoing

/-- An item of the agenda loses nobody. -/
theorem effect (sound : Sound (s.doFirst [a]) d) (programs : Programs (s.doFirst [a]) root home)
    (e : Effect s a s') (pre : Staffed (s.doFirst [a]) home) : Staffed s' home := by
  have h := pre.pop
  obtain ⟨isolated, all⟩ := programs.pop
  have formed : Formed s := { sound.formed with }
  have ongoing : ∀ t, (s'.phase t).isTerminal = (s.phase t).isTerminal :=
    fun t => e.isTerminal formed
  constructor
  · intro message raised
    rw [e.unwinding isolated] at raised
    obtain ⟨u, during⟩ := h.unwinds message raised
    exact ⟨u, (e.slice home).trans during⟩
  · intro n known goes
    rw [ongoing] at goes
    have before := e.known known
    obtain ⟨⟨m, found⟩, stays⟩ := pre.there n before goes
    refine ⟨e.stays found fun same => stays ?_, fun buried => ?_⟩
    · rw [same]
      exact List.mem_cons_self
    · rcases e.mem_agenda buried rfl with old | ⟨u, task, rfl, same, found', free, -⟩
      · exact stays (List.mem_cons_of_mem a old)
      · obtain rfl : n = u := Action.bury.inj same
        refine h.not_loose sound all before goes ?_
        refine Tether.loose_of_not_held (s := s) (fun g signal t hg hw => ?_) sound.tether.calls
          free
        exact (sound.tether.signals g signal t hg hw).pop rfl
  · intro t m' found' ended
    rw [ongoing] at ended
    obtain ⟨m, found, fiber⟩ := e.fiber found'
    have none := h.bodiless t m found ended
    rcases fiber with same | ⟨gone, -⟩
    · rw [same, none]
    · exact gone
  · intro t up
    rw [e.slice]
    refine h.busy t ?_
    rcases e.phase formed (t := t) with same | ⟨-, now⟩ | ⟨was, -⟩
    · rwa [same] at up
    · rw [now] at up
      rcases up with up | up <;> cases up
    · exact .inl was

/-! ### What a worker does -/

theorem pace (h : Staffed s home) (programs : Programs s root home) (formed : Formed s)
    (idle : s.agenda = []) {f : Fiber} {turn : Turn} (pace : Pace s home t f turn) :
    Staffed turn.state home ∧ ∀ n, .bury n ∉ turn.after := by
  cases pace with
  | pass trace es passes => exact ⟨h.traced trace, fun n => by simp⟩
  | give => exact ⟨h, fun n => by simp⟩
  | @spawn tag detached body rest parent band priority =>
    exact ⟨{ h.launch programs formed idle priority parent body false with }, fun n => by simp⟩
  | pending => exact ⟨h.modifyTask fun m _ none => none, fun n => by simp [State.suspends]⟩
  | @learn tag attempt u taken f' outcome looks ended there =>
    have learnt : Staffed (s.modifyTask u fun m => { m with outcome := none }) home :=
      h.modifyTask fun m _ none => none
    have after : ∀ n, .bury n ∉ (if taken then [Action.release (.handle u)] else []) ++
        tag.tells (.task t) (endReport outcome) := by
      intro n
      split <;> simp [Tag.tells]
    cases outcome with
    | ok value => exact ⟨learnt, after⟩
    | error e => exact ⟨learnt, after⟩
  | gone => exact ⟨h.modifyTask fun m _ none => none, fun n => by simp⟩
  | finish => exact ⟨h, fun n => by simp⟩
  | panic trace => exact ⟨h.traced trace, fun n => by simp⟩

theorem setStage (h : Staffed s home) {stage stage' : Stage}
    (during : s.slice home = some (.task t stage)) (unwinding : Option String)
    (unwinds : ∀ message, unwinding = some message → stage' = .ended (.panicked message)) :
    Staffed { s.setSlice home (some (.task t stage')) with unwinding := unwinding } home := by
  have slice : (s.setSlice home (some (.task t stage'))).slice home = some (.task t stage') := by
    obtain ⟨rt, found, -⟩ := State.slice_eq during
    simp [State.slice, State.setSlice, State.modifyRuntime, Store.get?_modify_self, found]
  constructor
  · intro message raised
    rw [← unwinds message raised]
    exact ⟨t, slice⟩
  · exact h.there
  · exact h.bodiless
  · intro u up
    obtain ⟨stage₀, before⟩ := h.busy u up
    cases during.symm.trans before
    exact ⟨stage', slice⟩

theorem takeEffect {turn : Turn} (h : Staffed turn.state home)
    (during : turn.state.slice home = some (.task t .polling))
    (ongoing : (turn.state.phase t).isTerminal = false) (after : ∀ n, .bury n ∉ turn.after)
    (goes : turn.flow.pauses = false) : Staffed (turn.takeEffect home t) home := by
  obtain ⟨s, f, as, flow⟩ := turn
  have calm : s.unwinding = none := by
    cases raised : s.unwinding with
    | none => rfl
    | some message =>
      obtain ⟨u, other⟩ := h.unwinds message raised
      cases during.symm.trans other
  have kept : ∀ fiber,
      Staffed ((s.doLast as).modifyTask t fun m => { m with fiber := fiber }) home :=
    fun fiber => (h.doLast after).modifyTask fun m ended => by
      rw [State.phase, State.doLast] at ended
      exact absurd (ended.symm.trans ongoing) (by simp)
  have silent : ∀ message, s.unwinding = some message →
      ∀ stage, stage = Stage.ended (.panicked message) := by
    intro message raised
    rw [calm] at raised
    cases raised
  cases flow with
  | next => exact kept (some f)
  | suspend =>
    exact (kept (some f)).setStage during s.unwinding fun message raised => silent message raised _
  | finish result =>
    refine ((kept none).setStage during s.unwinding fun message raised =>
      silent message raised (.ended (.returned result))).doLast fun n => ?_
    simp
  | panic message owned =>
    refine ((kept none).setStage during (some message) fun message' raised => ?_).doLast
      fun n => ?_
    · rw [Option.some.inj raised]
    · simp
  | pause later => cases goes

theorem modifyRuntime (h : Staffed s home) {f : Runtime → Runtime}
    (slice : ∀ rt, (f rt).slice = rt.slice) : Staffed (s.modifyRuntime home f) home where
  unwinds message raised := by
    rw [State.slice_modifyRuntime_same home slice]
    exact h.unwinds message raised
  there := h.there
  bodiless := h.bodiless
  busy u up := by
    rw [State.slice_modifyRuntime_same home slice]
    exact h.busy u up

theorem enqueue (h : Staffed s home) (p : Priority) (e : Entry) :
    Staffed (s.enqueue home p e) home := by
  unfold State.enqueue
  split
  · exact h.doFirst fun n => by simp
  · exact h.modifyRuntime fun _ => rfl

theorem shift (h : Staffed s home) (calm : s.unwinding = none)
    (alone : ∀ u, s.phase u = .running ∨ s.phase u = .notified → u = t)
    (ongoing : (s.phase t).isTerminal = false) {p : Phase} {f : Node → Node}
    (phase : ∀ m, (f m).phase = p) {new : Option Slice}
    (elapsed : p.isTerminal = true → ∀ m, s.tasks.get? t = some m → m.fiber = none)
    (busy : p = .running ∨ p = .notified → ∃ stage, new = some (.task t stage))
    (built : s.Built home) : Staffed ((s.setSlice home new).modifyNode t f) home := by
  have there : ∀ n, ((s.setSlice home new).modifyNode t f).nodes.get? n ≠ none →
      s.nodes.get? n ≠ none :=
    fun n known missing => known (Store.get?_modify_eq_none.2 missing)
  have self : s.nodes.get? t ≠ none → ((s.setSlice home new).modifyNode t f).phase t = p := by
    intro known
    obtain ⟨node, found⟩ := Option.ne_none_iff_exists'.1 known
    rw [State.phase_modifyNode_self (s := s.setSlice home new) found, phase]
  have other : ∀ u, u ≠ t → ((s.setSlice home new).modifyNode t f).phase u = s.phase u :=
    fun u apart => State.phase_modifyNode_of_ne (s := s.setSlice home new) (Ne.symm apart)
  have known : ∀ {q : Phase}, ((s.setSlice home new).modifyNode t f).phase t = q →
      q ≠ .suspended → s.nodes.get? t ≠ none := by
    intro q hq awake
    obtain ⟨node, found, -⟩ := State.get?_of_phase hq awake
    exact there t (by simp [found])
  have phase_eq : ∀ {q : Phase}, ((s.setSlice home new).modifyNode t f).phase t = q →
      q ≠ .suspended → p = q := fun hq awake => (self (known hq awake)).symm.trans hq
  constructor
  · intro message raised
    have raised : s.unwinding = some message := raised
    rw [calm] at raised
    cases raised
  · intro n hn goes
    refine h.there n (there n hn) ?_
    by_cases same : n = t
    · exact same ▸ ongoing
    · rwa [other n same] at goes
  · intro u m found ended
    by_cases same : u = t
    · subst same
      have awake : ((s.setSlice home new).modifyNode u f).phase u ≠ .suspended := by
        intro asleep
        rw [asleep] at ended
        cases ended
      rw [← phase_eq rfl awake] at ended
      exact elapsed ended m found
    · rw [other u same] at ended
      exact h.bodiless u m found ended
  · intro u up
    by_cases same : u = t
    · subst same
      have : p = .running ∨ p = .notified :=
        up.imp (fun hq => phase_eq hq (by simp)) fun hq => phase_eq hq (by simp)
      obtain ⟨stage, eq⟩ := busy this
      obtain ⟨rt, found⟩ := built
      refine ⟨stage, ?_⟩
      rw [← eq]
      simp [State.slice, State.setSlice, State.modifyNode, State.modifyRuntime,
        Store.get?_modify_self, found]
    · rw [other u same] at up
      exact absurd (alone u up) same

/-- What a worker does for programs loses nobody. -/
theorem toil (sound : Sound s d) (programs : Programs s root home) (idle : s.agenda = [])
    (w : Toil s home s') (h : Staffed s home) : Staffed s' home := by
  have built : s.Built home := by
    obtain ⟨rt, found, -⟩ := programs.runtime
    exact ⟨rt, found⟩
  -- whoever is in progress is in the slice
  have alone : ∀ {t stage}, s.slice home = some (.task t stage) →
      ∀ u, s.phase u = .running ∨ s.phase u = .notified → u = t := by
    intro t stage during u up
    obtain ⟨stage', other⟩ := h.busy u up
    cases during.symm.trans other
    rfl
  have calm : ∀ {t stage}, s.slice home = some (.task t stage) →
      (∀ message, stage ≠ .ended (.panicked message)) → s.unwinding = none := by
    intro t stage during apart
    cases raised : s.unwinding with
    | none => rfl
    | some message =>
      obtain ⟨u, other⟩ := h.unwinds message raised
      cases during.symm.trans other
      exact absurd rfl (apart message)
  have ongoing : ∀ {t}, s.phase t = .running ∨ s.phase t = .notified →
      (s.phase t).isTerminal = false := by
    intro t up
    rcases up with up | up <;> rw [up] <;> rfl
  have past : ∀ {t stage}, s.Over t stage → ∀ message, stage ≠ .ended (.panicked message) := by
    rintro t stage elapsed message rfl
    rcases elapsed with elapsed | ⟨elapsed, -⟩ <;> cases elapsed
  have waits : ∀ {t stage joining}, s.Waits t stage joining →
      ∀ message, stage ≠ .ended (.panicked message) := by
    intro t stage joining why
    rcases why with ⟨rfl, -⟩ | ⟨elapsed, -⟩
    · exact fun message same => (by cases same)
    · exact past elapsed
  -- a slice that is over leaves its task in a phase in which it is not in progress
  have left : ∀ {t stage joining}, s.slice home = some (.task t stage) → s.Waits t stage joining →
      ∀ p, (p = .suspended ∨ p = .ready) → Staffed (((s.setSlice home none).modifyNode t fun m =>
        { m with joining := joining m, phase := p }).doFirst [.forget t]) home := by
    intro t stage joining during why p up
    refine Staffed.doFirst (h.shift (calm during (waits why)) (alone during)
      (ongoing (sound.dispatch.ongoing_of_waits during why)) (fun m => by rfl) (fun ended => ?_)
      (fun busy => ?_) built) fun n => by simp
    · rcases up with rfl | rfl <;> cases ended
    · rcases up with rfl | rfl <;> rcases busy with busy | busy <;> cases busy
  cases w with
  | stop => exact { h with }
  | @begin t queue takes =>
    have popped : Staffed (s.popped home queue) home := h.modifyRuntime fun rt => rfl
    have free : (s.popped home queue).slice home = none :=
      (State.slice_modifyRuntime_same home fun _ => by rfl).trans takes.free
    have ready : (s.popped home queue).phase t = .ready := (sound.dispatch.taken takes).2.1
    have still : (s.popped home queue).unwinding = none := by
      cases raised : (s.popped home queue).unwinding with
      | none => rfl
      | some message =>
        obtain ⟨u, other⟩ := popped.unwinds message raised
        rw [free] at other
        cases other
    refine popped.shift still (fun u up => ?_) (by rw [ready]; rfl) (fun m => by rfl)
      (fun ended => (by cases ended)) (fun _ => ⟨.polling, rfl⟩) ?_
    · obtain ⟨stage, other⟩ := popped.busy u up
      rw [free] at other
      cases other
    · exact built.modifyRuntime _ _
  | @turn t task f turn during found fiber pace =>
    obtain ⟨after, actions⟩ := h.pace programs sound.formed idle pace
    have keeps := pace.keeps sound.formed
    have up := (sound.dispatch.runs ⟨.inl during, found, fiber⟩).2
    obtain ⟨node, known⟩ : ∃ node, s.nodes.get? t = some node := by
      rcases up with up | up
      · obtain ⟨node, known, -⟩ := State.get?_of_phase up (by simp)
        exact ⟨node, known⟩
      · obtain ⟨node, known, -⟩ := State.get?_of_phase up (by simp)
        exact ⟨node, known⟩
    refine after.takeEffect ((keeps.slice home).trans during) ?_ actions pace.goes
    rw [keeps.phase known]
    exact ongoing up
  | rest during why => exact left during why _ (.inl rfl)
  | again during why => exact (left during why _ (.inr rfl)).enqueue _ _
  | @endBody t ending during =>
    obtain ⟨trace, cancelled, eq⟩ := s.endBody_eq home t ending
    rw [eq]
    have kept : Staffed (s.modifyTask t
        (ending.keep ((s.tasks.get? t).any Task.blocking))) home := by
      exact h.modifyTask fun m _ none => by rwa [Ending.fiber_keep]
    have stage :
        Staffed { State.setSlice _ home (some (.task t .joining)) with unwinding := none } home :=
      kept.setStage during none fun message raised => (by cases raised)
    exact (stage.traced trace).doFirst fun n => by simp
  | @complete t stage p trace during elapsed alone' ended =>
    have gone : ∀ m, s.tasks.get? t = some m → m.fiber = none := by
      intro m found
      rcases elapsed with rfl | ⟨-, none⟩
      · exact (sound.wakeful t m found).past home _ during rfl
      · rwa [found] at none
    have shifted : Staffed ((s.setSlice home (some (.task t .leaving))).modifyNode t fun m =>
        { m with joining := false, phase := p }) home :=
      h.shift (p := p) (calm during (past elapsed))
      (alone during) (ongoing (sound.dispatch.ongoing_of_over during elapsed)) (fun m => rfl)
      (fun _ => gone) (fun _ => ⟨_, rfl⟩) built
    exact (shifted.traced trace).doFirst fun n => by simp
  | @leave t during =>
    have still := calm during fun message same => (by cases same)
    have ended : (s.phase t).isTerminal = true := (sound.dispatch.slice_fits during).2
    have vacant : ∀ u, ¬ (s.phase u = .running ∨ s.phase u = .notified) := by
      intro u up
      rw [← alone during u up, ongoing up] at ended
      cases ended
    have left : Staffed (s.setSlice home none) home := {
      unwinds := fun message raised => (by cases (still.symm.trans raised))
      there := h.there
      bodiless := h.bodiless
      busy := fun u up => absurd up (vacant u) }
    exact left.doFirst fun n => by simp

end Staffed

end Nursery
