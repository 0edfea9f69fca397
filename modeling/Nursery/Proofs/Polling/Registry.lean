import Nursery.Proofs.Group.Maker

/-!
# Who is registered

A task polls a handle, a call or a group, and if it finds nothing there it leaves its waker.  A
task keeps the wakers of all who have polled it; a call and a group keep one, which a later one
replaces.  What the body of a task polls next can be read off the state, and nothing else that a
line does registers anybody.

* `Poll`, `Sight` : a poll and what it comes to.
* `State.registry` : who is registered, with a task, a group or a call.
* `State.Registers` : polls, and nothing else, change who is registered.
* `State.bodyPolls` : what the body of a task polls next.
* `State.bodyTurn_registers` : **the turn of a body registers who polls in vain, and nobody else.**
-/

namespace Nursery

/-- What a poll comes to. -/
inductive Sight where
  /-- Something was there. -/
  | ready
  /-- Nothing was there yet. -/
  | pending
  /-- Nothing is to come any more, since all was collected. -/
  | drained
  /-- It was taken before. -/
  | panics
deriving DecidableEq

/-- Nothing was there. -/
def Sight.vain : Sight → Bool
  | .pending | .drained => true
  | .ready | .panics => false

/-- A task polls something that it waits for. -/
structure Poll where
  /-- The task. -/
  poller : TaskId
  /-- A task by its handle, a group, or a call. -/
  target : Resource
  /-- What it comes to. -/
  sight : Sight
deriving DecidableEq

/-- The polls of something, in their order. -/
def pollsOf (r : Resource) (ps : List Poll) : List Poll :=
  ps.filter fun p => p.target = r

/-- The tasks that have polled something in vain, in the order in which they did. -/
def vainly (r : Resource) (ps : List Poll) : List TaskId :=
  ((pollsOf r ps).filter fun p => p.sight.vain).map Poll.poller

/-- What a look at a handle or at a call comes to. -/
def Polled.sight {α : Type} : Polled α → Sight
  | .ready _ => .ready
  | .pending => .pending
  | .panics _ => .panics

/-- What a look for the next result of a group comes to. -/
def Polled.sightOfNext {α : Type} : Polled (Option α) → Sight
  | .ready (some _) => .ready
  | .ready none => .drained
  | .pending => .pending
  | .panics _ => .panics

/-- What a look for all results of a group comes to: it goes on until there is none. -/
def Polled.sightOfAll {α : Type} : Polled α → Sight
  | .ready _ => .drained
  | .pending => .pending
  | .panics _ => .panics

/-- The task that a waker puts back into its queue. -/
def Waker.task? : Waker → Option TaskId
  | .task t => some t
  | .member .. => none

/-- Who is registered after more have come: with a task all of them, and otherwise the last one. -/
def Resource.joined (old new : List TaskId) : Resource → List TaskId
  | .handle _ => old ++ new
  | .group _ | .call _ => (old ++ new).getLast?.toList

namespace State

/-- The tasks that are registered with a task, with a group or with a call. -/
def registry (s : State) : Resource → List TaskId
  | .handle u => (((s.tasks.get? u).map Task.waiters).getD []).filterMap Waker.task?
  | .group g => (s.registered? g).toList
  | .call k => ((s.calls.get? k).bind Call.waker).toList

/-- Polls, and nothing else, change who is registered. -/
structure Registers (ps : List Poll) (s s' : State) : Prop where
  /-- Whoever polls in vain comes to be registered. -/
  who : ∀ r, s'.registry r = r.joined (s.registry r) (vainly r ps)

/-! ### What is polled -/

/-- The poll of a handle or of a call; a group is not polled like that. -/
def resourcePolls (s : State) (t : TaskId) : Resource → List Poll
  | .handle u => [⟨t, .handle u, (s.pollHandle u t).2.sight⟩]
  | .call k => [⟨t, .call k, (s.pollCall k t).2.sight⟩]
  | .group _ => []

/-- The polls of several handles, one after the other, until something is found. -/
def firstPolls (t : TaskId) : List (String × TaskId) → State → List Poll
  | [], _ => []
  | (_, u) :: rest, s =>
    match s.pollHandle u t with
    | (s', .pending) => ⟨t, .handle u, .pending⟩ :: firstPolls t rest s'
    | (_, polled) => [⟨t, .handle u, polled.sight⟩]

end State

/-- What a look at a group comes to. -/
def Look.sight (l : Look) : Sight :=
  match l.tally with
  | none => (l.state.pollNext l.group l.poller).2.sightOfNext
  | some tally => (l.state.pollAll l.group l.poller tally).2.2.sightOfAll

/-- A look at a group is a poll of it. -/
def Look.poll (l : Look) : Poll :=
  ⟨l.poller, .group l.group, l.sight⟩

namespace State

/-- The polls of a line that is in the middle of waiting. -/
def waitPolls (s : State) (t : TaskId) : Wait → List Poll
  | .awaiting r _ => s.resourcePolls t r
  | .selecting handles => firstPolls t handles s
  | wait => (s.lookAgain? t wait).toList.map Look.poll

/-- The first polls of a line. -/
def linePolls (s : State) (t : TaskId) (frame : Frame) (tag : Tag) : Act → List Poll
  | .await .. | .poll .. =>
    ((s.adopt frame tag.target).2.find? tag.target).toList.flatMap
      ((s.adopt frame tag.target).1.resourcePolls t)
  | .any names _ => firstPolls t (takeHandles names frame).1 s
  | act => (s.lookFirst? t frame tag act).toList.map Look.poll

/-- What the body of a task polls next. -/
def bodyPolls (s : State) (t : TaskId) (f : Fiber) : List Poll :=
  match f.waiting, f.code with
  | some w, _ => s.waitPolls t w.wait
  | none, .mk tag act :: _ => s.linePolls t f.frame tag act
  | none, [] => []

end State

variable {s s' s'' : State} {d d' : Desk} {t u g : TaskId} {k : CallId} {r : Resource}
  {f : Fiber} {frame : Frame} {tag : Tag} {attempt : Attempt} {home : RuntimeId} {c : Context}
  {hand hand' : List Resource} {ps qs : List Poll} {p : Poll}

/-! ### Lists of polls -/

theorem vainly_append : vainly r (ps ++ qs) = vainly r ps ++ vainly r qs := by
  simp [vainly, pollsOf]

theorem vainly_singleton :
    vainly r [p] = if p.target = r ∧ p.sight.vain = true then [p.poller] else [] := by
  by_cases here : p.target = r <;> by_cases vain : p.sight.vain = true <;>
    simp [vainly, pollsOf, here, vain]

theorem Resource.joined_joined {a b l : List TaskId} :
    r.joined (r.joined l a) b = r.joined l (a ++ b) := by
  have last : ∀ x : List TaskId, (x.getLast?.toList ++ b).getLast? = (x ++ b).getLast? := by
    intro x
    rw [List.getLast?_append, List.getLast?_append]
    cases b.getLast? <;> cases x.getLast? <;> rfl
  cases r with
  | handle => exact List.append_assoc ..
  | group | call => exact congrArg Option.toList ((last _).trans (by rw [List.append_assoc]))

namespace State

theorem joined_registry : r.joined (s.registry r) [] = s.registry r := by
  cases r with
  | handle => exact List.append_nil _
  | group g =>
    rw [registry]
    cases s.registered? g <;> rfl
  | call k =>
    rw [registry]
    cases (s.calls.get? k).bind Call.waker <;> rfl

namespace Registers

theorem of_same (same : ∀ r, s'.registry r = s.registry r) : Registers [] s s' where
  who r := by rw [same, show vainly r [] = [] from rfl, joined_registry]

theorem same (h : Registers [] s s') (r : Resource) : s'.registry r = s.registry r := by
  rw [h.who, show vainly r [] = [] from rfl, joined_registry]

theorem trans (h : Registers ps s s') (h' : Registers qs s' s'') :
    Registers (ps ++ qs) s s'' where
  who r := by rw [h'.who, h.who, Resource.joined_joined, vainly_append]

theorem tail (h : Registers ps s s') (h' : Registers [] s' s'') : Registers ps s s'' := by
  have both := h.trans h'
  rwa [List.append_nil] at both

theorem of_stores (tasks : s'.tasks = s.tasks) (calls : s'.calls = s.calls)
    (signals : s'.signals = s.signals) : Registers [] s s' := of_same fun r => by
  cases r with
  | handle => rw [registry, registry, tasks]
  | group => rw [registry, registry, registered?, registered?, signals]
  | call => rw [registry, registry, calls]

theorem refl : Registers [] s s :=
  of_same fun _ => rfl

theorem modifyTask {change : Task → Task} (same : ∀ m, (change m).waiters.filterMap Waker.task? =
    m.waiters.filterMap Waker.task?) : Registers [] s (s.modifyTask u change) :=
  of_same fun r => by
    cases r with
    | handle v =>
      simp only [registry, State.modifyTask, Store.get?_modify]
      split
      · cases s.tasks.get? v with
        | none => rfl
        | some m => exact same m
      · rfl
    | group | call => rfl

theorem modifyCall {change : Call → Call} (same : ∀ m, (change m).waker = m.waker) :
    Registers [] s (s.modifyCall k change) :=
  of_same fun r => by
    cases r with
    | call j =>
      simp only [registry, State.modifyCall, Store.get?_modify]
      split
      · cases s.calls.get? j with
        | none => rfl
        | some m => exact congrArg Option.toList (same m)
      · rfl
    | group | handle => rfl

theorem modifySignal {change : Signal → Signal} (same : ∀ m, (change m).waker = m.waker) :
    Registers [] s (s.modifySignal g change) :=
  of_same fun r => by
    cases r with
    | group h =>
      simp only [registry, registered?, State.modifySignal, Store.get?_modify]
      split
      · cases s.signals.get? h with
        | none => rfl
        | some m => exact congrArg Option.toList (same m)
      · rfl
    | call | handle => rfl

theorem found (h : Registers [] s s') (finds : p.sight.vain = false) : Registers [p] s s' where
  who r := by rw [h.same, vainly_singleton, if_neg (by simp [finds]), joined_registry]

theorem vain (vain : p.sight.vain = true)
    (here : s'.registry p.target = p.target.joined (s.registry p.target) [p.poller])
    (others : ∀ r, p.target ≠ r → s'.registry r = s.registry r) : Registers [p] s s' where
  who r := by
    rw [vainly_singleton]
    by_cases mine : p.target = r
    · rw [if_pos ⟨mine, vain⟩, ← mine, here]
    · rw [if_neg fun both => mine both.1, joined_registry, others r mine]

end Registers

/-! ### Polls -/

theorem pollHandle_registers (known : ∃ task, s.tasks.get? u = some task) :
    s.Registers [⟨t, .handle u, (s.pollHandle u t).2.sight⟩] (s.pollHandle u t).1 := by
  unfold pollHandle takeOutcome
  split
  · cases (s.tasks.get? u).bind Task.outcome <;>
      exact .found (.modifyTask fun _ => rfl) rfl
  · -- nothing is there yet, and the waker goes behind those of the others
    obtain ⟨task, found⟩ := known
    refine .vain rfl ?_ fun r other => ?_
    · simp [registry, Resource.joined, State.modifyTask, Store.get?_modify_self, found, Waker.task?]
    · cases r with
      | handle v =>
        have apart : u ≠ v := fun same => other (by rw [same])
        simp only [registry, State.modifyTask, Store.get?_modify_of_ne apart]
      | group | call => rfl

theorem pollCall_registers (known : ∃ call, s.calls.get? k = some call) :
    s.Registers [⟨t, .call k, (s.pollCall k t).2.sight⟩] (s.pollCall k t).1 := by
  obtain ⟨call, found⟩ := known
  unfold pollCall
  rw [found]
  dsimp only
  split
  · exact .found (.modifyCall fun _ => rfl) rfl
  · split
    · refine .vain rfl ?_ fun r other => ?_
      · simp [registry, Resource.joined, State.modifyCall, Store.get?_modify_self, found, doFirst]
      · cases r with
        | call j =>
          have apart : k ≠ j := fun same => other (by rw [same])
          simp only [registry, State.modifyCall, doFirst, Store.get?_modify_of_ne apart]
        | group | handle => rfl
    · -- a refused call whose outcome was taken keeps nobody
      exact .found .refl rfl

theorem resource_registers (known : s.Has r) :
    s.Registers (s.resourcePolls t r) (s.pollResource t r).1 := by
  cases r with
  | handle u =>
    have polled := pollHandle_registers (t := t) (known.imp fun _ there => there.1)
    simp only [resourcePolls, pollResource]
    generalize s.pollHandle u t = x at polled ⊢
    obtain ⟨s', _ | _ | _⟩ := x <;> exact polled
  | group g => exact .refl
  | call k =>
    have polled := pollCall_registers (t := t) (known.imp fun _ there => there.1)
    simp only [resourcePolls, pollResource]
    generalize s.pollCall k t = x at polled ⊢
    obtain ⟨s', _ | _ | _⟩ := x <;> exact polled

theorem known_pollHandle {v : TaskId} (known : ∃ task, s.tasks.get? v = some task) :
    ∃ task, (s.pollHandle u t).1.tasks.get? v = some task := by
  have kept : ∀ change : Task → Task, ∃ task, (s.modifyTask u change).tasks.get? v = some task :=
    fun change => known.elim fun m there => ⟨_, Store.get?_modify_eq_some.2 ⟨m, there, rfl⟩⟩
  unfold pollHandle takeOutcome
  split
  · cases (s.tasks.get? u).bind Task.outcome <;> exact kept _
  · exact kept _

theorem first_registers (handles : List (String × TaskId)) :
    ∀ {s : State} {seen : List (String × TaskId)},
      (∀ h ∈ handles, ∃ task, s.tasks.get? h.2 = some task) →
        s.Registers (firstPolls t handles s) (pollFirst t seen handles s).1 := by
  induction handles with
  | nil => exact fun _ => .refl
  | cons h rest ih =>
    intro s seen known
    obtain ⟨name, u⟩ := h
    obtain ⟨mine, others⟩ := List.forall_mem_cons.1 known
    have polled := pollHandle_registers (t := t) mine
    -- the handles behind this one are still there when it is their turn
    have still := fun v there => known_pollHandle (u := u) (t := t) (v := v) (s := s) there
    rw [firstPolls, pollFirst]
    generalize s.pollHandle u t = x at polled still ⊢
    obtain ⟨s', _ | _ | _⟩ := x
    · exact polled
    · exact polled.trans (ih fun h there => still h.2 (others h there))
    · exact polled

/-! ### Looks at a group -/

theorem awaitSignal_registers (known : ∃ signal, s.signals.get? g = some signal) {sight : Sight}
    (vain : sight.vain = true) :
    s.Registers [⟨t, .group g, sight⟩] (s.awaitSignal g t) := by
  obtain ⟨signal, found⟩ := known
  refine .vain vain ?_ fun r other => ?_
  · simp [registry, registered?, Resource.joined, awaitSignal, State.modifySignal,
      Store.get?_modify_self, found, doFirst]
  · cases r with
    | group h =>
      have apart : g ≠ h := fun same => other (by rw [same])
      simp only [registry, registered?, awaitSignal, State.modifySignal, doFirst,
        Store.get?_modify_of_ne apart]
    | handle | call => rfl

theorem collect_registers (s : State) (g : TaskId) (i : Nat) :
    s.Registers [] (s.collect g i).1 := by
  unfold collect
  split
  · exact .refl
  · dsimp only
    have counted : s.Registers [] (s.modifyGroup g fun m =>
        { m with remaining := m.remaining - 1 }) := .of_stores rfl rfl rfl
    split
    · exact counted
    · rename_i u _
      split
      · generalize
          (s.modifyGroup g fun m => { m with remaining := m.remaining - 1 }) = x at counted ⊢
        have taken : s.Registers [] (x.takeOutcome u).1 :=
          counted.trans (Registers.modifyTask fun _ => rfl)
        generalize x.takeOutcome u = y at taken ⊢
        obtain ⟨y, _ | e | value⟩ := y
        · exact taken
        · dsimp only
          split
          · exact taken
          · split
            · exact taken.trans (.of_stores rfl rfl rfl)
            · exact taken.trans (.of_stores rfl rfl rfl)
        · exact taken
      · exact counted

theorem collecting {rest : List Nat} {i : Nat} {x : State}
    {result : Option (Except GroupError Int64)} (known : ∃ signal, s.signals.get? g = some signal)
    (collects : (s.modifySignal g fun m => { m with completed := rest }).collect g i =
      (x, result)) :
    s.Registers [] x ∧ ∃ signal, x.signals.get? g = some signal := by
  have collected := collect_registers (s.modifySignal g fun m => { m with completed := rest }) g i
  have quiet := (collect_quiet (s.modifySignal g fun m => { m with completed := rest }) g i).1
  rw [collects] at collected quiet
  have drawn : s.Registers [] (s.modifySignal g fun m => { m with completed := rest }) :=
    .modifySignal fun _ => rfl
  refine ⟨drawn.trans collected, ?_⟩
  obtain ⟨signal, found⟩ := known
  rw [quiet]
  exact ⟨_, Store.get?_modify_eq_some.2 ⟨signal, found, rfl⟩⟩

theorem nextAmong_registers (places : List Nat) : ∀ {s : State},
    (∃ signal, s.signals.get? g = some signal) →
      s.Registers [⟨t, .group g, (nextAmong g t places s).2.sightOfNext⟩]
        (nextAmong g t places s).1 := by
  induction places with
  | nil =>
    intro s known
    refine awaitSignal_registers known ?_
    rw [nextAmong]
    dsimp only
    split <;> rfl
  | cons i rest ih =>
    intro s known
    rw [nextAmong]
    split
    · rename_i collects
      exact .found (collecting known collects).1 rfl
    · -- a child that has nothing to give is passed by
      rename_i collects
      obtain ⟨collected, known'⟩ := collecting known collects
      exact collected.trans (ih known')

theorem allAmong_registers (places : List Nat) : ∀ {s : State} {tally : Tally},
    (∃ signal, s.signals.get? g = some signal) →
      s.Registers [⟨t, .group g, (allAmong g t places tally s).2.2.sightOfAll⟩]
        (allAmong g t places tally s).1 := by
  induction places with
  | nil =>
    intro s tally known
    refine awaitSignal_registers known ?_
    rw [allAmong]
    dsimp only
    split <;> rfl
  | cons i rest ih =>
    intro s tally known
    rw [allAmong]
    split <;> rename_i collects <;> obtain ⟨collected, known'⟩ := collecting known collects <;>
      exact collected.trans (ih known')

theorem look_registers {l : Look} (known : ∃ signal, l.state.signals.get? l.group = some signal) :
    l.state.Registers [l.poll] l.found := by
  obtain ⟨x, g, t, tally⟩ := l
  cases tally with
  | none => exact nextAmong_registers _ known
  | some tally => exact allAmong_registers _ known

/-! ### Lines that poll nothing -/

namespace Registers

theorem setTask (fresh : s.tasks.get? u = none) {m : Task}
    (free : m.waiters.filterMap Waker.task? = []) :
    Registers [] s { s with tasks := s.tasks.set u m } :=
  of_same fun r => by
    cases r with
    | handle v =>
      simp only [registry, Store.get?_set]
      split
      · rename_i same
        rw [← same, fresh]
        exact free
      · rfl
    | group | call => rfl

theorem setCall (fresh : s.calls.get? k = none) {m : Call} (free : m.waker = none) :
    Registers [] s { s with calls := s.calls.set k m } :=
  of_same fun r => by
    cases r with
    | call j =>
      simp only [registry, Store.get?_set]
      split
      · rename_i same
        rw [← same, fresh]
        exact congrArg Option.toList free
      · rfl
    | group | handle => rfl

theorem setSignal (fresh : s.signals.get? g = none) {m : Signal} (free : m.waker = none) :
    Registers [] s { s with signals := s.signals.set g m } :=
  of_same fun r => by
    cases r with
    | group h =>
      simp only [registry, registered?, Store.get?_set]
      split
      · rename_i same
        rw [← same, fresh]
        exact congrArg Option.toList free
      · rfl
    | call | handle => rfl

theorem enqueue (home : RuntimeId) (p : Priority) (e : Entry) :
    Registers [] s (s.enqueue home p e) := by
  obtain ⟨runtimes, agenda, eq⟩ := enqueue_eq s home p e
  rw [eq]
  exact .of_stores rfl rfl rfl

theorem post (a : ActorId) (home : RuntimeId) (message : Message) :
    Registers [] s (s.post a home message) := by
  obtain ⟨actors, runtimes, agenda, eq⟩ := post_eq s a home message
  rw [eq]
  exact .of_stores rfl rfl rfl

theorem spawned (formed : Formed s) (p : Priority) (parent : Option TaskId) (home : RuntimeId)
    (body : List Line) (blocking : Bool) :
    Registers [] s ((s.addNode .task p parent).launch s.nextNode home body blocking) := by
  obtain ⟨nodes, trace, -, eq⟩ := launch_addNode_eq formed.nodes p parent home body blocking
  rw [eq]
  refine .tail ?_ (.enqueue ..)
  exact .tail (setTask formed.fresh_task rfl) (.of_stores rfl rfl rfl)

theorem makeGroup (formed : Formed s) (unmade : s.signals.get? s.nextNode = none) (c : Context)
    (home : RuntimeId) : Registers [] s (s.makeGroup c home) := by
  obtain ⟨nodes, trace, priority, -, eq⟩ := makeGroup_eq formed.nodes c home
  rw [eq]
  exact .tail (setSignal unmade rfl) (.of_stores rfl rfl rfl)

theorem addChild (formed : Formed s) (g : TaskId) (group : Group) (priority : Option Priority)
    (body : List Line) : Registers [] s (s.addChild g group priority body) := by
  obtain ⟨nodes, trace, p, -, eq⟩ :=
    addChild_eq formed.nodes formed.fresh_task g group priority body
  rw [eq]
  refine .tail ?_ (.enqueue ..)
  exact .tail (setTask formed.fresh_task rfl) (.of_stores rfl rfl rfl)

theorem adopt (frame : Frame) (name : String) : Registers [] s (s.adopt frame name).1 := by
  obtain ⟨shared, eq⟩ := adopt_eq s frame name
  rw [eq]
  exact .of_stores rfl rfl rfl

theorem callActor (formed : Formed s) (a : ActorId) (handler : List Line) :
    Registers [] s (s.callActor c a handler) := by
  have made : ∀ m : Call, m.waker = none →
      Registers [] s { s with calls := s.calls.set s.nextCall m } :=
    fun m free => setCall formed.fresh_call free
  unfold State.callActor
  split
  · exact (made { accepted := false, outcome := some (.error .reentrant) } rfl).tail
      (.of_stores rfl rfl rfl)
  · split
    · exact made { accepted := false, outcome := some (.error .noRuntime) } rfl
    · exact (made { accepted := true } rfl).tail (.post ..)

end Registers

/-- **A plain line registers nobody.** -/
theorem plain?_registers (formed : Formed s) (unmade : s.signals.get? s.nextNode = none) {act : Act}
    {reaction : Reaction} (h : s.plain? c frame tag act = some reaction) :
    s.Registers [] reaction.state := by
  cases act <;> simp only [plain?, Option.some.injEq, reduceCtorEq] at h <;> subst h
  case note | currentTask | isCancelled | thread | phase | isTerminal | isFinished
    | handleCancelled | handleTask | groupSize | groupCancelled | describeActor | pending
    | childPhase => exact .refl
  case panic => exact .of_stores rfl rfl rfl
  case spawn =>
    unfold spawn
    split
    · exact .refl
    · dsimp only
      split
      · exact .tail (.spawned formed ..) (.of_stores rfl rfl rfl)
      · exact .tail (.spawned formed ..) (.of_stores rfl rfl rfl)
  case spawnOn =>
    unfold spawnOn
    split
    · exact .refl
    · exact .tail (.spawned formed ..) (.of_stores rfl rfl rfl)
  case cancel | cancelGroup | describe | wake => split <;> exact .refl
  case drop =>
    unfold dropNamed
    split
    · exact .refl
    · exact .of_stores rfl rfl rfl
    · exact .refl
  case share =>
    unfold shareNamed
    split
    · exact .of_stores rfl rfl rfl
    · exact .refl
  case group =>
    unfold bindGroup
    split
    · exact .refl
    · exact .makeGroup formed unmade ..
  case add =>
    have adopted := Registers.adopt (s := s) frame tag.target
    obtain ⟨shared, eq⟩ := adopt_eq s frame tag.target
    have formed' : Formed (s.adopt frame tag.target).1 := by rw [eq]; exact { formed with }
    unfold add
    generalize s.adopt frame tag.target = p at adopted formed' ⊢
    obtain ⟨s', frame'⟩ := p
    dsimp only at adopted ⊢
    split
    · split
      · exact (adopted.trans (.addChild formed' ..)).trans (.of_stores rfl rfl rfl)
      · exact adopted
    · exact adopted
  case actor => exact .of_stores rfl rfl rfl
  case call =>
    unfold bindCall
    split
    · exact .refl
    · exact .callActor formed ..
  case send =>
    unfold send sendActor
    split
    · exact .refl
    · cases c.home with
      | none => exact .refl
      | some home => exact .post ..

/-! ### Turns of a body -/

/-- What a body can get at is there, and so are the signals of the groups. -/
structure Furnished (s : State) (f : Fiber) : Prop where
  /-- Every record is listed once and under a name of its own. -/
  formed : Formed s
  /-- The signal of the next group is a new one. -/
  unmade : s.signals.get? s.nextNode = none
  /-- Every group has a signal. -/
  signals : ∀ g group, s.groups.get? g = some group → ∃ signal, s.signals.get? g = some signal
  /-- What the body owns is there. -/
  owned : ∀ r ∈ f.resources, s.Has r
  /-- What it finds under a name is there. -/
  named : ∀ name r, s.find? f.frame name = some r → s.Has r

theorem harvest_leaves {after : List Action} (h : Harvest) :
    (s.harvest t f tag attempt after h).state = s := by
  cases h <;> rfl

theorem awaitResource_registers (known : s.Has r) {taken : Bool} :
    s.Registers (s.resourcePolls t r) (s.awaitResource t f tag attempt r taken).state := by
  have polled := resource_registers (t := t) known
  unfold awaitResource
  generalize s.pollResource t r = x at polled ⊢
  obtain ⟨s', _ | _ | _⟩ := x
  · rw [harvest_leaves]
    exact polled
  · exact polled
  · exact polled

theorem awaitFirst_registers {handles : List (String × TaskId)}
    (known : ∀ h ∈ handles, s.Has (.handle h.2)) :
    s.Registers (firstPolls t handles s) (s.awaitFirst t f tag attempt handles).state := by
  have polled : s.Registers (firstPolls t handles s) (pollFirst t [] handles s).1 :=
    first_registers handles fun h mine => (known h mine).imp fun _ there => there.1
  unfold awaitFirst
  generalize pollFirst t [] handles s = x at polled ⊢
  obtain ⟨s', ⟨name, u, outcome, others⟩ | _ | _⟩ := x
  · dsimp only
    rw [harvest_leaves]
    exact polled
  · exact polled
  · exact polled

theorem turn_registers (l : Look) (f : Fiber) (tag : Tag) (attempt : Attempt) (own : Bool)
    (known : ∃ signal, l.state.signals.get? l.group = some signal) :
    l.state.Registers [l.poll] (l.turn f tag attempt own).state := by
  rw [(l.turn_state f tag attempt own).1]
  exact look_registers known

theorem find?_adopt {name : String} (found : (s.adopt frame name).2.find? name = some r) :
    s.find? frame name = some r := by
  unfold adopt at found
  unfold find?
  split at found
  · rename_i none shared
    rw [Frame.find?_bind_self] at found
    rw [none, shared, found]
    rfl
  · dsimp only at found
    rw [found]
    rfl

theorem has_adopt {name : String} (h : s.Has r) : (s.adopt frame name).1.Has r := by
  obtain ⟨shared, eq⟩ := adopt_eq s frame name
  rw [eq]
  cases r <;> exact h

theorem awaitNamed_registers (named : ∀ name r, s.find? f.frame name = some r → s.Has r)
    {keep : Bool} : s.Registers (s.linePolls t f.frame tag (.await keep attempt))
      (s.awaitNamed t f tag keep attempt).state := by
  have adopted := Registers.adopt (s := s) f.frame tag.target
  have known : ∀ r, (s.adopt f.frame tag.target).2.find? tag.target = some r →
      (s.adopt f.frame tag.target).1.Has r := fun r found =>
    has_adopt (named _ r (find?_adopt found))
  unfold awaitNamed
  rw [linePolls]
  generalize s.adopt f.frame tag.target = x at adopted known ⊢
  obtain ⟨s', frame⟩ := x
  dsimp only at adopted known ⊢
  split
  · rename_i g found
    rw [found]
    exact adopted
  · rename_i none
    rw [none]
    exact adopted
  · rename_i r _ found
    rw [found, Option.toList_some, List.flatMap_singleton]
    exact adopted.trans (awaitResource_registers (known r found))

theorem pollNamed_registers (named : ∀ name r, s.find? f.frame name = some r → s.Has r)
    {keep : Bool} : s.Registers (s.linePolls t f.frame tag (.poll keep attempt))
      (s.pollNamed t f tag keep attempt).state := by
  have adopted := Registers.adopt (s := s) f.frame tag.target
  have known : ∀ r, (s.adopt f.frame tag.target).2.find? tag.target = some r →
      (s.adopt f.frame tag.target).1.Has r := fun r found =>
    has_adopt (named _ r (find?_adopt found))
  unfold pollNamed
  rw [linePolls]
  generalize s.adopt f.frame tag.target = x at adopted known ⊢
  obtain ⟨s', frame⟩ := x
  dsimp only at adopted known ⊢
  split
  · rename_i none
    rw [none]
    exact adopted
  · rename_i r found
    have polled := adopted.trans (resource_registers (t := t) (known r found))
    rw [found, Option.toList_some, List.flatMap_singleton]
    generalize s'.pollResource t r = y at polled ⊢
    obtain ⟨s'', _ | _ | _⟩ := y
    · dsimp only
      split
      · rw [harvest_leaves]
        exact polled
      · rw [harvest_leaves]
        exact polled
    · exact polled
    · exact polled

theorem signal_adopted (has : s.Furnished f) {name : String} {s' : State} {frame : Frame}
    (adopts : s.adoptGroup f.frame name = (s', frame, some g)) :
    s.Registers [] s' ∧ ∃ signal, s'.signals.get? g = some signal := by
  have adopted := Registers.adopt (s := s) f.frame name
  obtain ⟨shared, eq⟩ := adopt_eq s f.frame name
  have known := fun r found => has.named name r (find?_adopt found)
  unfold adoptGroup at adopts
  generalize s.adopt f.frame name = x at adopted eq known adopts
  obtain ⟨s₁, frame₁⟩ := x
  dsimp only at adopted eq known adopts
  split at adopts
  · rename_i h found
    cases adopts
    obtain ⟨group, there⟩ := known _ found
    rw [eq]
    exact ⟨.of_stores rfl rfl rfl, has.signals _ group there⟩
  · cases adopts

theorem not_adopted {name : String} {s' : State} {frame' : Frame}
    (adopts : s.adoptGroup frame name = (s', frame', none)) : s.Registers [] s' := by
  obtain ⟨shared, eq⟩ := adoptGroup_eq s frame name
  rw [adopts] at eq
  dsimp only at eq
  rw [eq]
  exact .of_stores rfl rfl rfl

/-- **A line registers who polls in vain, and nobody else.** -/
theorem runLine_registers (has : s.Furnished f) (free : f.waiting = none) (act : Act) :
    s.Registers (s.linePolls t f.frame tag act) (s.runLine home t f tag act).state := by
  have frame : ∀ r ∈ f.frame.resources, s.Has r := by
    rw [← resources_of_waiting free]
    exact has.owned
  have plain : ∀ {reaction}, s.plain? ⟨.task t, some home⟩ f.frame tag act = some reaction →
      s.Registers [] reaction.state := plain?_registers has.formed has.unmade
  cases act with
  | await keep attempt => exact awaitNamed_registers has.named
  | poll keep attempt => exact pollNamed_registers has.named
  | any names attempt =>
    rw [linePolls, runLine]
    have taken := fun r => count_takeHandles names r f.frame
    generalize takeHandles names f.frame = x at taken ⊢
    obtain ⟨handles, rest⟩ := x
    dsimp only at taken ⊢
    split
    · rename_i nothing
      rw [List.isEmpty_iff.1 nothing]
      exact .refl
    · -- a handle that is taken out of the frame was in it
      refine awaitFirst_registers fun h mine => frame _ (List.count_pos_iff.1 ?_)
      have here :=
        List.count_pos_iff.2 (List.mem_map_of_mem (f := fun h => Resource.handle h.2) mine)
      have less := taken (.handle h.2)
      rw [List.count_append] at less
      omega
  | next attempt =>
    rcases adopts : s.adoptGroup f.frame tag.target with ⟨s', frame, _ | g⟩
    · simp only [linePolls, lookFirst?, runLine, adopts]
      exact not_adopted adopts
    · simp only [linePolls, lookFirst?, runLine, adopts]
      obtain ⟨adopted, known⟩ := signal_adopted has adopts
      have looks := turn_registers ⟨s', g, t, none⟩ { f with frame := frame } tag attempt false
        known
      exact adopted.trans looks
  | all attempt =>
    rcases adopts : s.adoptGroup f.frame tag.target with ⟨s', frame, _ | g⟩
    · simp only [linePolls, lookFirst?, runLine, adopts]
      exact not_adopted adopts
    · simp only [linePolls, lookFirst?, runLine, adopts]
      obtain ⟨adopted, known⟩ := signal_adopted has adopts
      have looks := turn_registers ⟨s', g, t, some ⟨[], none⟩⟩ { f with frame := frame } tag attempt
        false known
      exact adopted.trans looks
  | withGroup plan attempt => exact .makeGroup has.formed has.unmade _ _
  | check | ifCancelled =>
    rw [runLine]
    split <;> exact .refl
  | yieldTimes | spin =>
    simp only [runLine, giveWay, State.spin]
    split <;> exact .refl
  | hold | blockInside =>
    rw [runLine]
    split
    · exact .of_stores rfl rfl rfl
    · exact .refl
  | loop times body => cases times <;> exact .refl
  | ret | fail | raiseCancelled | raisePanicked | wakeSelf => exact .refl
  | park => exact .of_stores rfl rfl rfl
  | _ =>
    simp only [runLine]
    split
    · exact .refl
    · rename_i reaction simple
      have same := plain simple
      split <;> exact same

theorem poll_registers (has : s.Furnished f) {w : Waiting} (waits : f.waiting = some w)
    (own : w.wait.OnOwn f.resources) :
    s.Registers (s.waitPolls t w.wait) (s.poll t f w).state := by
  have known : ∀ g, .group g ∈ f.resources → ∃ signal, s.signals.get? g = some signal :=
    fun g mine => (has.owned _ mine).elim fun group there => has.signals g group there
  obtain ⟨tag, attempt, wait⟩ := w
  cases wait with
  | yielding | spinning =>
    simp only [poll, giveWay, State.spin]
    split <;> exact .refl
  | parked => exact .refl
  | awaiting r taken =>
    cases r with
    | group g => exact own.elim
    | handle | call => exact awaitResource_registers (has.owned _ own)
  | selecting handles => exact awaitFirst_registers fun h mine => has.owned _ (own h mine)
  | next g =>
    exact turn_registers ⟨s, g, t, none⟩ { f with waiting := none } tag attempt false (known g own)
  | all g alone values failure =>
    exact turn_registers ⟨s, g, t, some ⟨values, failure⟩⟩ { f with waiting := none } tag attempt
      alone
      (known g own)
  | filling g plan =>
    cases plan with
    | nil =>
      exact turn_registers ⟨s, g, t, some ⟨[], none⟩⟩ { f with waiting := none } tag attempt true
        (known g own)
    | cons item rest =>
      simp only [poll, fill]
      split
      · exact .addChild has.formed _ _ _ _
      · exact .refl
      · exact .refl
      · exact .refl
      · exact .refl

/-- **The turn of a body registers who polls in vain, and nobody else.** -/
theorem bodyTurn_registers (has : s.Furnished f)
    (own : ∀ w, f.waiting = some w → w.wait.OnOwn f.resources) :
    s.Registers (s.bodyPolls t f) (s.bodyTurn home t f).state := by
  unfold bodyPolls bodyTurn
  cases waits : f.waiting with
  | some w => exact poll_registers has waits (own w waits)
  | none =>
    cases f.code with
    | nil => exact .refl
    | cons line rest =>
      obtain ⟨tag, act⟩ := line
      -- the line is off the code when it runs, but what the body can get at is the same
      have rested : s.Furnished { f with code := rest } :=
        ⟨has.formed, has.unmade, has.signals, has.owned, has.named⟩
      have turn : s.Registers (s.linePolls t f.frame tag act)
          (s.runLine home t { f with code := rest } tag act).state :=
        runLine_registers rested waits act
      rw [waits] at turn
      exact turn

end State

/-- What came of a turn registers nobody. -/
theorem Turn.registers (turn : Turn) (home : RuntimeId) (t : TaskId) :
    State.Registers [] turn.state (turn.takeEffect home t) := by
  have body : ∀ (x : State) (f : Option Fiber), x.tasks = turn.state.tasks →
      x.calls = turn.state.calls → x.signals = turn.state.signals →
        State.Registers [] turn.state (x.modifyTask t fun m => { m with fiber := f }) :=
    fun x f tasks calls signals => .tail (.of_stores tasks calls signals) (.modifyTask fun _ => rfl)
  obtain ⟨s, f, after, flow⟩ := turn
  cases flow with
  | next => exact body _ _ rfl rfl rfl
  | suspend | finish | panic | pause => exact .tail (body s _ rfl rfl rfl) (.of_stores rfl rfl rfl)

end Nursery
