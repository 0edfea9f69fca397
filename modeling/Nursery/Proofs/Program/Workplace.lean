import Nursery.Proofs.Invariant.Sound
import Nursery.Proofs.Program.Turn

/-!
# Nothing but programs

Where the main thread blocks on a program, all that is there are the tasks of programs, on one
open runtime, and no panic is in the air but that of a body that has just ended in one.

* `Programs` : all that is there belongs to programs.
* `Toil` : what the worker does next for a program.
* `State.work_toil` : it does nothing else.
* `Programs.effect`, `Programs.toil` : nothing but programs comes of it.
-/

namespace Nursery

/-- An item of the agenda that programs give rise to. -/
def Action.isolated : Action → Bool
  | .cancel _ | .finish _ | .detach _ | .wake (.task _) | .wakeWaiters _ | .reportFailure _
  | .record _ | .release (.handle _) | .forget _ | .bury _ => true
  | _ => false

/-- A task is that of a program.  Only the main thread blocks, on the root. -/
structure Task.Isolated (m : Task) (t root : TaskId) (home : RuntimeId) : Prop where
  /-- It is queued on the one runtime. -/
  home : m.home = home
  /-- What is left of its body is left of a program. -/
  fiber : ∀ f, m.fiber = some f → f.Isolated
  /-- Only tasks wait for it. -/
  waiters : ∀ w ∈ m.waiters, ∃ u, w = .task u
  /-- On the root somebody blocks, and on nobody else. -/
  blocking : m.blocking = true ↔ t = root

/-- All that is there belongs to programs on one open runtime. -/
structure Programs (s : State) (root : TaskId) (home : RuntimeId) : Prop where
  /-- Nothing is shared. -/
  bare : s.shared = []
  /-- There are no groups. -/
  kind : ∀ n node, s.nodes.get? n = some node → node.kind = .task
  /-- Every node is listed once. -/
  distinct : s.nodes.Distinct
  /-- What remains to be done is due to programs. -/
  agenda : ∀ a ∈ s.agenda, a.isolated = true
  /-- Every task is that of a program. -/
  tasks : ∀ t m, s.tasks.get? t = some m → m.Isolated t root home
  /-- The runtime is open, queues tasks and runs them. -/
  runtime : ∃ rt, s.runtimes.get? home = some rt ∧ rt.closed = false ∧
    (∀ e ∈ rt.queue.toList, ∃ t, e = .task t) ∧
    ∀ x, rt.slice = some x → ∃ t stage, x = .task t stage
  /-- No other worker is let go on. -/
  active : ∀ r goal, s.active = some (r, goal) → r = home

theorem State.slice_setSlice_built {s : State} {home : RuntimeId} {rt : Runtime}
    (built : s.runtimes.get? home = some rt) {new : Option Slice} :
    (s.setSlice home new).slice home = new := by
  simp [slice, setSlice, modifyRuntime, Store.get?_modify_self, built]

theorem State.distinct_addNode {s : State} (h : s.nodes.Distinct) (kind : NodeKind)
    (priority : Priority) (parent : Option TaskId) :
    (s.addNode kind priority parent).nodes.Distinct := by
  unfold addNode
  dsimp only
  split
  · exact h.set _ _
  · split
    · exact (h.modify _ _).set _ _
    · exact (h.modify _ _).set _ _

namespace Programs

variable {s : State} {root : TaskId} {home : RuntimeId}

theorem traced (h : Programs s root home) (trace : Array Event) :
    Programs { s with trace := trace } root home :=
  { h with }

theorem tell (h : Programs s root home) (e : Event) : Programs (s.tell e) root home :=
  h.traced _

theorem doFirst (h : Programs s root home) {as : List Action}
    (new : ∀ a ∈ as, a.isolated = true) : Programs (s.doFirst as) root home :=
  { h with agenda := fun a ha => (List.mem_append.1 ha).elim (new a) (h.agenda a) }

theorem doLast (h : Programs s root home) {as : List Action}
    (new : ∀ a ∈ as, a.isolated = true) : Programs (s.doLast as) root home :=
  { h with agenda := fun a ha => (List.mem_append.1 ha).elim (h.agenda a) (new a) }

theorem modifyNode (h : Programs s root home) (n : TaskId) {f : Node → Node}
    (kind : ∀ m, (f m).kind = m.kind) : Programs (s.modifyNode n f) root home :=
  { h with
    kind := fun k node found => by
      obtain ⟨m, known, rfl⟩ := Store.get?_modify_eq_some.1 found
      have := h.kind k m known
      split
      · rwa [kind]
      · exact this
    distinct := h.distinct.modify n f }

theorem modifyTask (h : Programs s root home) (t : TaskId) {f : Task → Task}
    (kept : ∀ m, m.Isolated t root home → (f m).Isolated t root home) :
    Programs (s.modifyTask t f) root home :=
  { h with
    tasks := fun u m found => by
      obtain ⟨m, known, rfl⟩ := Store.get?_modify_eq_some.1 found
      have := h.tasks u m known
      split
      · rename_i same
        exact same ▸ kept m (same ▸ this)
      · exact this }

theorem eraseTask (h : Programs s root home) (t : TaskId) :
    Programs { s with tasks := s.tasks.erase t } root home :=
  { h with
    tasks := fun u m found => by
      rw [Store.get?_erase] at found
      split at found
      · cases found
      · exact h.tasks u m found }

theorem modifyRuntime (h : Programs s root home) {f : Runtime → Runtime}
    (closed : ∀ rt, (f rt).closed = rt.closed)
    (queue : ∀ rt, s.runtimes.get? home = some rt → ∀ e ∈ (f rt).queue.toList,
      e ∈ rt.queue.toList ∨ ∃ t, e = .task t)
    (slice : ∀ rt, (f rt).slice = rt.slice ∨
      ∀ x, (f rt).slice = some x → ∃ t stage, x = .task t stage) :
    Programs (s.modifyRuntime home f) root home :=
  { h with
    runtime := by
      obtain ⟨rt, found, open_, queued, sliced⟩ := h.runtime
      refine ⟨f rt, by simp [State.modifyRuntime, Store.get?_modify_self, found],
        (closed rt).trans open_, fun e he => ?_, fun x hx => ?_⟩
      · exact (queue rt found e he).elim (queued e) id
      · rcases slice rt with same | new
        · exact sliced x (same ▸ hx)
        · exact new x hx }

theorem setSlice (h : Programs s root home) {new : Option Slice}
    (task : ∀ x, new = some x → ∃ t stage, x = .task t stage) :
    Programs (s.setSlice home new) root home :=
  h.modifyRuntime (fun _ => rfl) (fun _ _ _ he => .inl he) fun _ => .inr task

theorem enqueue_eq (h : Programs s root home) (p : Priority) (e : Entry) :
    s.enqueue home p e = s.modifyRuntime home fun rt => { rt with queue := rt.queue.push p e } := by
  obtain ⟨rt, found, open_, -⟩ := h.runtime
  simp [State.enqueue, State.closed, found, open_]

theorem push (h : Programs s root home) (p : Priority) (t : TaskId) :
    Programs (s.modifyRuntime home fun rt => { rt with queue := rt.queue.push p (.task t) })
      root home := by
  refine h.modifyRuntime (fun _ => rfl) (fun rt _ e he => ?_) fun _ => .inl rfl
  exact (RunQueue.mem_push.1 he).elim (fun old => .inl old) fun new => .inr ⟨t, new⟩

theorem enqueue (h : Programs s root home) (p : Priority) (t : TaskId) :
    Programs (s.enqueue home p (.task t)) root home := by
  rw [h.enqueue_eq]
  exact h.push p t

theorem launch_eq (h : Programs s root home) (formed : Formed s) (priority : Priority)
    (parent : Option TaskId) (body : List Line) (blocking : Bool) :
    ∃ nodes trace, Grown s .task priority parent .ready nodes ∧
      (s.addNode .task priority parent).launch s.nextNode home body blocking =
        { s with
          nodes := nodes
          tasks := s.tasks.set s.nextNode
            { fiber := some { code := body }, home := home, blocking := blocking }
          trace := trace }.modifyRuntime home fun rt =>
            { rt with queue := rt.queue.push priority (.task s.nextNode) } := by
  obtain ⟨nodes, trace, grown, eq⟩ :=
    State.launch_addNode_eq formed.nodes priority parent home body blocking
  obtain ⟨rt, found, running, -⟩ := h.runtime
  refine ⟨nodes, trace, grown, eq.trans ?_⟩
  simp [State.enqueue, State.closed, found, running]

theorem tasks_launch (h : Programs s root home) (formed : Formed s) (priority : Priority)
    (parent : Option TaskId) (body : List Line) (blocking : Bool) :
    ((s.addNode .task priority parent).launch s.nextNode home body blocking).tasks =
      s.tasks.set s.nextNode
        { fiber := some { code := body }, home := home, blocking := blocking } := by
  obtain ⟨nodes, trace, -, eq⟩ := h.launch_eq formed priority parent body blocking
  rw [eq]
  rfl

theorem phase_launch_new (h : Programs s root home) (formed : Formed s) (priority : Priority)
    (parent : Option TaskId) (body : List Line) (blocking : Bool) :
    ((s.addNode .task priority parent).launch s.nextNode home body blocking).phase s.nextNode =
      .ready := by
  obtain ⟨nodes, trace, grown, eq⟩ := h.launch_eq formed priority parent body blocking
  obtain ⟨b, made⟩ := grown.new
  rw [eq]
  show ((nodes.get? s.nextNode).map Node.phase).getD _ = _
  rw [made]
  rfl

theorem phase_launch_old (h : Programs s root home) (formed : Formed s) (priority : Priority)
    (parent : Option TaskId) (body : List Line) (blocking : Bool) {n : TaskId}
    (old : n ≠ s.nextNode) :
    ((s.addNode .task priority parent).launch s.nextNode home body blocking).phase n =
      s.phase n := by
  obtain ⟨nodes, trace, grown, eq⟩ := h.launch_eq formed priority parent body blocking
  rw [eq]
  show ((nodes.get? n).map Node.phase).getD _ = _
  rw [grown.field (fun _ _ => rfl) old]
  rfl

theorem launch (h : Programs s root home) (formed : Formed s) {parent : Option TaskId}
    (priority : Priority) {body : List Line} (isolated : linesIsolated body = true)
    {blocking : Bool} (first : blocking = true ↔ s.nextNode = root) :
    Programs ((s.addNode .task priority parent).launch s.nextNode home body blocking)
      root home := by
  obtain ⟨nodes, trace, grown, eq⟩ := h.launch_eq formed priority parent body blocking
  have distinct : nodes.Distinct := by
    have same : ((s.addNode .task priority parent).launch s.nextNode home body blocking).nodes =
        nodes := by rw [eq]; rfl
    rw [← same, State.launch, State.nodes_enqueue]
    exact (State.distinct_addNode h.distinct _ _ _).modify _ _
  rw [eq]
  refine push ?_ _ _
  refine { h with kind := ?_, distinct := distinct, tasks := ?_ }
  · intro n node found
    rcases grown.origin formed.nodes found with ⟨b, rfl, rfl⟩ | ⟨m, known, rfl⟩
    · rfl
    · exact h.kind n m known
  · intro t m found
    rw [Store.get?_set] at found
    split at found
    · rename_i same
      cases found
      refine ⟨rfl, fun f hf => ?_, fun w hw => (by cases hw), same ▸ first⟩
      cases hf
      exact ⟨isolated, fun r hr => (by cases hr), fun w hw => (by cases hw)⟩
    · exact h.tasks t m found

/-! ### Items of the agenda -/

theorem pop {a : Action} (h : Programs (s.doFirst [a]) root home) :
    a.isolated = true ∧ Programs s root home :=
  ⟨h.agenda a List.mem_cons_self,
    { h with agenda := fun b hb => h.agenda b (List.mem_cons_of_mem a hb) }⟩

/-- What a program leaves on the agenda gives rise to nothing else. -/
theorem effect {s' : State} {a : Action} (e : Effect s a s')
    (pre : Programs (s.doFirst [a]) root home) : Programs s' root home := by
  obtain ⟨isolated, h⟩ := pre.pop
  cases e with
  | spent => exact h
  | cancel =>
    refine ((h.modifyNode _ fun _ => by rfl).tell _).doFirst fun a ha => ?_
    obtain ⟨c, -, rfl⟩ := List.mem_map.1 ha
    rfl
  | finish n =>
    refine (h.modifyNode n fun _ => by rfl).doFirst fun a ha => ?_
    split at ha
    · rw [List.mem_singleton.1 ha]
      rfl
    · cases ha
  | orphan => exact h.modifyNode _ fun _ => by rfl
  | reap => exact ((h.modifyNode _ fun _ => by rfl).modifyNode _ fun _ => by rfl).tell _
  | reapLast =>
    refine (((h.modifyNode _ fun _ => by rfl).modifyNode _ fun _ => by rfl).tell _).doFirst
      fun a ha => ?_
    rcases List.mem_append.1 ha with ha | ha
    · split at ha
      · rw [List.mem_singleton.1 ha]
        rfl
      · cases ha
    · split at ha
      · rw [List.mem_singleton.1 ha]
        rfl
      · cases ha
  | @resume t task suspended found =>
    rw [(h.tasks t task found).home]
    exact (h.modifyNode _ fun _ => by rfl).enqueue _ t
  | notify =>
    refine (h.modifyNode _ fun _ => by rfl).doFirst fun a ha => ?_
    rw [List.mem_singleton.1 ha]
    rfl
  | awake =>
    refine h.doFirst fun a ha => ?_
    rw [List.mem_singleton.1 ha]
    rfl
  | @wakeWaiters t task found =>
    have woken : Programs (s.modifyTask t fun m => { m with waiters := [] }) root home :=
      h.modifyTask t fun m hm => { hm with waiters := fun w hw => (by cases hw) }
    refine woken.doFirst fun a ha => ?_
    obtain ⟨w, hw, rfl⟩ := List.mem_map.1 ha
    obtain ⟨u, rfl⟩ := (h.tasks t task found).waiters w hw
    rfl
  | @reportFailure t f trace only =>
    have looked : Programs (s.modifyTask t f) root home := h.modifyTask t fun m hm => by
      obtain ⟨b, eq⟩ := only m
      rw [eq]
      exact { hm with }
    exact looked.traced trace
  | record e => exact h.tell e
  | @dropHandle t f trace only =>
    have dropped : Programs (s.modifyTask t f) root home := h.modifyTask t fun m hm => by
      obtain ⟨b, eq⟩ := only m
      rw [eq]
      exact { hm with }
    refine (dropped.traced trace).doFirst fun a ha => ?_
    rw [List.mem_singleton.1 ha]
    rfl
  | @forget t task found loose =>
    have gone : Programs (s.modifyTask t fun m => { m with fiber := none }) root home :=
      h.modifyTask t fun m hm => { hm with fiber := fun f hf => (by cases hf) }
    refine gone.doFirst fun a ha => ?_
    rcases List.mem_append.1 ha with ha | ha
    · obtain ⟨r, hr, rfl⟩ := List.mem_map.1 ha
      obtain ⟨f, hf, mine⟩ := List.mem_flatMap.1 hr
      obtain ⟨u, rfl⟩ := ((h.tasks t task found).fiber f (Option.mem_toList.1 hf)).resources r mine
      rfl
    · rw [List.mem_singleton.1 ha]
      rfl
  | @bury t task found =>
    refine (h.eraseTask t).doFirst fun a ha => ?_
    obtain ⟨w, hw, rfl⟩ := List.mem_map.1 ha
    obtain ⟨u, rfl⟩ := (h.tasks t task found).waiters w hw
    rfl
  | _ => cases isolated

/-! ### Turns -/

theorem setUnwinding (h : Programs s root home) (unwinding : Option String) :
    Programs { s with unwinding := unwinding } root home :=
  { h with }

theorem pace (h : Programs s root home) (formed : Formed s) (rooted : s.nodes.get? root ≠ none)
    {t : TaskId} {f : Fiber} {turn : Turn} (isolated : f.Isolated) (pace : Pace s home t f turn) :
    Programs turn.state root home ∧ turn.fiber.Isolated ∧ (∀ a ∈ turn.after, a.isolated = true) ∧
      ∀ r ∈ turn.flow.owned, ∃ u, r = .handle u := by
  have told : ∀ es : List Event, ∀ a ∈ es.map Action.record, a.isolated = true := by
    intro es a ha
    obtain ⟨e, -, rfl⟩ := List.mem_map.1 ha
    rfl
  have none : ∀ r ∈ ([] : List Resource), ∃ u, r = .handle u := fun r hr => (by cases hr)
  cases pace with
  | pass trace es passes => exact ⟨h.traced trace, passes.isolated isolated, told es, none⟩
  | give gives =>
    exact ⟨h, gives.isolated isolated, fun a ha => List.mem_singleton.1 ha ▸ rfl, none⟩
  | @spawn tag detached body rest parent band priority names es free code up =>
    obtain ⟨inside, after⟩ := isolated.line code
    refine ⟨?_, isolated.spawned after _ _, fun a ha => ?_, none⟩
    · have : Programs ((s.addNode .task priority parent).launch s.nextNode home body false)
          root home :=
        h.launch formed priority inside ⟨fun yes => (by cases yes), fun same =>
          absurd (same ▸ State.fresh_nextNode formed.nodes) rooted⟩
      exact { this with }
    · rcases List.mem_append.1 ha with ha | ha
      · obtain ⟨r, hr, rfl⟩ := List.mem_map.1 ha
        obtain ⟨u, rfl⟩ := isolated.frame r
          (Frame.mem_resources_of_find? (Option.mem_toList.1 hr))
        rfl
      · exact told es a ha
  | @pending tag attempt u taken f' looks ongoing =>
    refine ⟨h.modifyTask u fun m hm => { hm with waiters := fun w hw => ?_ }, ?_,
      fun a ha => (by cases ha), none⟩
    · rcases List.mem_append.1 hw with hw | hw
      · exact hm.waiters w hw
      · exact ⟨t, List.mem_singleton.1 hw⟩
    · exact { looks.isolated isolated with waiting := fun w hw => (by cases hw; rfl) }
  | @learn tag attempt u taken f' outcome looks ended there =>
    have learnt : Programs (s.modifyTask u fun m => { m with outcome := .none }) root home :=
      h.modifyTask u fun m hm => { hm with }
    have free := looks.isolated isolated
    have after : ∀ a ∈ (if taken then [Action.release (.handle u)] else []) ++
        tag.tells (.task t) (endReport outcome), a.isolated = true := by
      intro a ha
      rcases List.mem_append.1 ha with ha | ha
      · split at ha
        · rw [List.mem_singleton.1 ha]
          rfl
        · cases ha
      · exact told _ a ha
    cases outcome with
    | ok value => exact ⟨learnt, { free with }, after, none⟩
    | error e =>
      refine ⟨learnt, free, after, ?_⟩
      cases attempt <;> exact none
  | @gone tag attempt u taken f' looks ended there =>
    refine ⟨h.modifyTask u fun m hm => { hm with }, looks.isolated isolated,
      fun a ha => (by cases ha), fun r hr => ?_⟩
    cases taken with
    | true => exact ⟨u, List.mem_singleton.1 hr⟩
    | false => cases hr
  | @finish result code ends left =>
    refine ⟨h, { isolated with code := ?_ }, fun a ha => (by cases ha), none⟩
    rcases left with same | ⟨⟨tag, act⟩, next⟩
    · exact same ▸ isolated.code
    · exact (isolated.line next).2
  | @panic tag payload rest trace free code =>
    exact ⟨h.traced trace, { isolated with code := (isolated.line code).2 },
      fun a ha => (by cases ha), none⟩

theorem takeEffect {turn : Turn} (h : Programs turn.state root home)
    (isolated : turn.fiber.Isolated) (after : ∀ a ∈ turn.after, a.isolated = true)
    (owned : ∀ r ∈ turn.flow.owned, ∃ u, r = .handle u) (t : TaskId) :
    Programs (turn.takeEffect home t) root home := by
  obtain ⟨s', f', as, flow⟩ := turn
  have h : Programs (s'.doLast as) root home := h.doLast after
  have kept :
      Programs ((s'.doLast as).modifyTask t fun m => { m with fiber := some f' }) root home :=
    h.modifyTask t fun m hm => { hm with fiber := fun f hf => (by cases hf; exact isolated) }
  have bare : Programs ((s'.doLast as).modifyTask t fun m => { m with fiber := none }) root home :=
    h.modifyTask t fun m hm => { hm with fiber := fun f hf => (by cases hf) }
  have elapsed : ∀ stage, Programs (((s'.doLast as).modifyTask t fun m =>
      { m with fiber := none }).setSlice home (some (.task t stage))) root home := fun stage =>
    bare.setSlice fun x hx => ⟨t, stage, (Option.some.inj hx).symm⟩
  have dropped : ∀ rs : List Resource, (∀ r ∈ rs, ∃ u, r = .handle u) →
      ∀ a ∈ rs.map Action.release, a.isolated = true := by
    intro rs handles a ha
    obtain ⟨r, hr, rfl⟩ := List.mem_map.1 ha
    obtain ⟨u, rfl⟩ := handles r hr
    rfl
  cases flow with
  | next => exact kept
  | suspend => exact kept.setSlice fun x hx => ⟨t, .suspending, (Option.some.inj hx).symm⟩
  | finish result =>
    refine (elapsed (.ended (.returned result))).doLast fun a ha => ?_
    rcases List.mem_cons.1 ha with rfl | ha
    · rfl
    · exact dropped _ isolated.resources a ha
  | panic message rs =>
    refine ((elapsed (.ended (.panicked message))).doLast fun a ha => ?_).setUnwinding
      (some message)
    refine dropped (rs ++ f'.resources) (fun r hr => ?_) a ha
    exact (List.mem_append.1 hr).elim (owned r) (isolated.resources r)
  | pause later =>
    have := kept.modifyRuntime (f := fun rt => { rt with paused := some later }) (fun _ => rfl)
      (fun _ _ _ he => .inl he) fun _ => .inl rfl
    exact { this with active := fun r goal active => (by cases active) }

end Programs

/-- What a worker does next where nothing but programs is there. -/
inductive Toil (s : State) (home : RuntimeId) : State → Prop where
  /-- Nothing is queued, and it stops. -/
  | stop {rt : Runtime} (found : s.runtimes.get? home = some rt) (free : rt.slice = none)
      (empty : rt.queue.toList = []) : Toil s home (s.stop .quiet)
  /-- A slice begins. -/
  | begin {t : TaskId} {queue : RunQueue Entry} (takes : s.Takes home (.task t) queue) :
      Toil s home
        (((s.popped home queue).setPhase t .running).setSlice home (some (.task t .polling)))
  /-- A body has a turn. -/
  | turn {t : TaskId} {task : Task} {f : Fiber} {turn : Turn}
      (during : s.slice home = some (.task t .polling)) (found : s.tasks.get? t = some task)
      (fiber : task.fiber = some f) (pace : Pace s home t f turn) :
      Toil s home (turn.takeEffect home t)
  /-- The slice of a task that waits is over. -/
  | rest {t : TaskId} {stage : Stage} {joining : Node → Bool}
      (during : s.slice home = some (.task t stage)) (why : s.Waits t stage joining)
      (running : s.phase t = .running) :
      Toil s home (((s.setSlice home none).modifyNode t fun m =>
        { m with joining := joining m, phase := .suspended }).doFirst [.forget t])
  /-- The slice of a task that was woken meanwhile is over. -/
  | again {t : TaskId} {task : Task} {stage : Stage} {joining : Node → Bool}
      (during : s.slice home = some (.task t stage)) (why : s.Waits t stage joining)
      (woken : s.phase t = .notified) (found : s.tasks.get? t = some task) :
      Toil s home ((((s.setSlice home none).modifyNode t fun m =>
        { m with joining := joining m, phase := .ready }).doFirst [.forget t]).enqueue
          home (s.priority t) (.task t))
  /-- The frame of a body is gone and its outcome is kept. -/
  | endBody {t : TaskId} {ending : Ending}
      (during : s.slice home = some (.task t (.ended ending))) :
      Toil s home (s.endBody home t ending)
  /-- A task ends. -/
  | complete {t : TaskId} {stage : Stage} {p : Phase} (trace : Array Event)
      (during : s.slice home = some (.task t stage)) (past : s.Over t stage)
      (alone : s.children t = []) (ended : p.isTerminal = true) :
      Toil s home
        ({ (s.modifyNode t fun m => { m with joining := false, phase := p }).setSlice home
            (some (.task t .leaving)) with trace := trace }.doFirst
          [.finish t, .wakeWaiters t, .reportFailure t])
  /-- The slice of a task that has ended is over. -/
  | leave {t : TaskId} (during : s.slice home = some (.task t .leaving)) :
      Toil s home ((s.setSlice home none).doFirst [.forget t])

/-- A body is panicking only while what it owned is dropped. -/
def State.Unwinds (s : State) (home : RuntimeId) : Prop :=
  ∀ message, s.unwinding = some message →
    ∃ t, s.slice home = some (.task t (.ended (.panicked message)))

namespace State

variable {s : State} {root t : TaskId} {home : RuntimeId} {d : Desk}

theorem endPending_toil (sound : Sound s d) (programs : Programs s root home) {stage : Stage}
    {joining : Node → Bool} (during : s.slice home = some (.task t stage))
    (why : s.Waits t stage joining) :
    Toil s home ((s.modifyNode t fun m => { m with joining := joining m }).endPending home t) := by
  obtain ⟨task, found⟩ := sound.dispatch.known home t stage during
  rw [endPending_eq]
  split
  · rename_i running
    exact .rest during why running
  · rename_i woken
    dsimp only
    rw [found]
    have up := sound.dispatch.ongoing_of_waits during why
    have := Toil.again during why (up.resolve_left woken) found
    rwa [← (programs.tasks t task found).home] at this ⊢

theorem joinChildren_toil (sound : Sound s d) (programs : Programs s root home) {stage : Stage}
    (during : s.slice home = some (.task t stage)) (past : s.Over t stage) :
    Toil s home (s.joinChildren home t) := by
  unfold joinChildren
  split
  · rename_i alone
    unfold complete
    simp only [modifyNode, setPhase, Store.modify_modify, doFirst, setSlice, modifyRuntime, log,
      tell]
    exact .complete _ during past (List.isEmpty_iff.1 alone) (isTerminal_finalPhase _)
  · rename_i busy
    exact endPending_toil sound programs during
      (.inr ⟨past, fun none => busy (List.isEmpty_iff.2 none), rfl⟩)

theorem taskStep_toil (sound : Sound s d) (programs : Programs s root home)
    (unwinds : s.Unwinds home) {stage : Stage} (during : s.slice home = some (.task t stage)) :
    Toil s home (s.taskStep home t stage) := by
  have calm : (∀ ending, stage ≠ .ended ending) → s.unwinding = none := by
    intro other
    cases unwinding : s.unwinding with
    | none => rfl
    | some message =>
      obtain ⟨u, ends⟩ := unwinds message unwinding
      cases during.symm.trans ends
      exact absurd rfl (other _)
  cases stage with
  | polling =>
    obtain ⟨task, found⟩ := sound.dispatch.known home t _ during
    simp only [taskStep, found, calm (by simp)]
    cases fiber : task.fiber with
    | none => exact joinChildren_toil sound programs during (.inr ⟨rfl, by simp [found, fiber]⟩)
    | some f =>
      obtain ⟨turn, pace, taken⟩ := bodyStep_pace home t programs.bare
        ((programs.tasks t task found).fiber f fiber)
      dsimp only
      rw [taken]
      exact .turn during found fiber pace
  | suspending =>
    have same : (s.modifyNode t fun m => { m with joining := m.joining }) = s :=
      congrArg (fun nodes => { s with nodes := nodes }) Store.modify_self
    have := endPending_toil sound programs during (.inl ⟨rfl, rfl⟩)
    rw [same] at this
    simp only [taskStep, calm (by simp)]
    split
    · rename_i yes
      cases yes
    · exact this
  | ended ending =>
    have kept : endingOf s.unwinding ending = ending := by
      cases unwinding : s.unwinding with
      | none => cases ending <;> rfl
      | some message =>
        obtain ⟨u, ends⟩ := unwinds message unwinding
        cases during.symm.trans ends
        rfl
    rw [taskStep, kept]
    exact .endBody during
  | joining => exact joinChildren_toil sound programs during (.inl rfl)
  | leaving => exact .leave during

/-- **A worker does nothing else.** -/
theorem work_toil (sound : Sound s d) (programs : Programs s root home)
    (unwinds : s.Unwinds home) (goal : Goal) : Toil s home (s.work home goal) := by
  obtain ⟨rt, found, running, queued, sliced⟩ := programs.runtime
  simp only [work, found]
  cases slice : rt.slice with
  | some x =>
    obtain ⟨t, stage, rfl⟩ := sliced x slice
    exact taskStep_toil sound programs unwinds (by simp [State.slice, found, slice])
  | none =>
    simp only [running, Bool.false_eq_true, if_false]
    cases next : rt.queue.pop? with
    | none =>
      have empty := rt.queue.pop?_eq
      rw [next] at empty
      refine .stop found slice ?_
      cases list : rt.queue.toList with
      | nil => rfl
      | cons a rest => simp [list] at empty
    | some taken =>
      obtain ⟨entry, queue⟩ := taken
      have takes : s.Takes home entry queue := ⟨rt, found, slice, running, next⟩
      obtain ⟨t, rfl⟩ := queued entry (RunQueue.mem_of_pop? next)
      have ready := (sound.dispatch.taken takes).2.1
      have same : (s.popped home queue).phase t = .ready := ready
      show Toil s home ((s.popped home queue).beginTask home t)
      rw [beginTask, if_pos (.inl same)]
      exact .begin takes

end State

namespace Programs

variable {s s' : State} {root t : TaskId} {home : RuntimeId}

/-- What a worker does for programs leaves nothing but programs. -/
theorem toil (formed : Formed s) (rooted : s.nodes.get? root ≠ none) (w : Toil s home s')
    (h : Programs s root home) : Programs s' root home := by
  have joins : ∀ t p (joining : Node → Bool),
    Programs (((s.setSlice home none).modifyNode t fun m =>
      { m with joining := joining m, phase := p }).doFirst [.forget t]) root home := by
    intro t p joining
    refine ((h.setSlice fun x hx => (by cases hx)).modifyNode t fun _ => by rfl).doFirst
      fun a ha => ?_
    rw [List.mem_singleton.1 ha]
    rfl
  cases w with
  | stop => exact { h with active := fun r goal active => (by cases active) }
  | @begin t queue takes =>
    have popped : Programs (s.popped home queue) root home := by
      refine h.modifyRuntime (fun _ => rfl) (fun rt found e he => .inl ?_) fun _ => .inl rfl
      obtain ⟨rt', found', -, -, pop⟩ := takes.found
      cases found.symm.trans found'
      rw [RunQueue.toList_pop? pop]
      exact List.mem_cons_of_mem _ he
    exact (popped.modifyNode t fun _ => by rfl).setSlice fun x hx =>
      ⟨t, _, (Option.some.inj hx).symm⟩
  | turn during found fiber pace =>
    obtain ⟨after, left, actions, owned⟩ :=
      h.pace formed rooted ((h.tasks _ _ found).fiber _ fiber) pace
    exact after.takeEffect left actions owned _
  | rest => exact joins _ _ _
  | again => exact (joins _ _ _).enqueue _ _
  | @endBody t ending during =>
    obtain ⟨trace, cancelled, eq⟩ := s.endBody_eq home t ending
    rw [eq]
    have kept : Programs ((s.setSlice home (some (.task t .joining))).modifyTask t
        (ending.keep ((s.tasks.get? t).any Task.blocking))) root home := by
      refine (h.setSlice fun x hx => ⟨t, _, (Option.some.inj hx).symm⟩).modifyTask t fun m hm => ?_
      unfold Ending.keep
      split
      · exact { hm with }
      · exact { hm with }
    refine ((kept.traced trace).setUnwinding none).doFirst fun a ha => ?_
    obtain ⟨c, -, rfl⟩ := List.mem_map.1 ha
    rfl
  | @complete t stage p trace =>
    refine (((h.modifyNode t fun _ => by rfl).setSlice fun x hx =>
      ⟨t, _, (Option.some.inj hx).symm⟩).traced trace).doFirst fun a ha => ?_
    rcases List.mem_cons.1 ha with rfl | ha
    · rfl
    · rcases List.mem_cons.1 ha with rfl | ha
      · rfl
      · rw [List.mem_singleton.1 ha]
        rfl
  | @leave t =>
    refine (h.setSlice fun x hx => (by cases hx)).doFirst fun a ha => ?_
    rw [List.mem_singleton.1 ha]
    rfl

end Programs

end Nursery
