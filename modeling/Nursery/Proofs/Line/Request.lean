import Nursery.Machine.Worker
import Nursery.Proofs.Node

/-!
# What a line asks to be cancelled

Only three lines ask for a cancellation: that of a handle, that of a group, and that of a group
while it is filled.  Such a line does nothing else, and every other line leaves no cancellation to
be done.  The same goes for the end of a body, which asks for its children if it is a failure.

* `Orders` : an agenda begins with the cancellation of some nodes, and holds no other one.
* `State.requests` : what a line asks for.
* `State.fails` : the end of a body is a failure.
* `State.asked`, `State.failing` : what is asked for next, and which body fails next.
* `State.step_orders` : nothing else is asked for.
-/

namespace Nursery

/-- An agenda begins with the cancellation of some nodes, and holds no other one. -/
def Orders (as : List Action) (ns : List TaskId) : Prop :=
  ∃ rest, as = ns.map .cancel ++ rest ∧ ∀ n, .cancel n ∉ rest

/-- No cancellation is to be done. -/
def State.Calm (s : State) : Prop :=
  Orders s.agenda []

/-- The nodes that a line asks to be cancelled: that of a handle or of a group. -/
def State.requests (s : State) (frame : Frame) (tag : Tag) : Act → List TaskId
  | .cancel => (s.findHandle? frame tag.target).toList
  | .cancelGroup => (s.findGroup? frame tag.target).toList
  | _ => []

/-- The node that a suspended line asks to be cancelled: that of the group that it fills. -/
def Wait.requests : Wait → List TaskId
  | .filling g (.cancelAll :: _) => [g]
  | _ => []

/-- The nodes that a body asks to be cancelled next. -/
def State.bodyRequests (s : State) (f : Fiber) : List TaskId :=
  if f.begun = false then []
  else
    match f.waiting, f.code with
    | some w, _ => w.wait.requests
    | none, .mk tag act :: _ => s.requests f.frame tag act
    | none, [] => []

/-- The end of a body cancels the children of its task: it panicked, or it returned an error that
is not a cancellation.  What a body returns to the main thread that is blocked on it is no
failure. -/
def State.fails (s : State) (t : TaskId) (ending : Ending) : Bool :=
  match State.endingOf s.unwinding ending with
  | .panicked _ => true
  | .returned (.ok _) => false
  | .returned (.error e) => !(s.tasks.get? t).any Task.blocking && !e.isCancelled

/-- The nodes that a handler asks to be cancelled next. -/
def State.handlerRequests (s : State) (frame : Frame) : List Line → List TaskId
  | .mk tag act :: _ => s.requests frame tag act
  | [] => []

/-- The nodes that a worker asks to be cancelled next by a line, at some point of a slice. -/
def State.sliceRequests (s : State) : Option Slice → List TaskId
  | some (.task t .polling) =>
    match (s.tasks.get? t).bind Task.fiber, s.unwinding with
    | some f, none => s.bodyRequests f
    | _, _ => []
  | some (.drain _ _ (.handling code frame _)) => s.handlerRequests frame code
  | _ => []

/-- The task whose body a worker finds to have failed next, at some point of a slice. -/
def State.sliceFailure (s : State) : Option Slice → Option TaskId
  | some (.task t (.ended ending)) => if s.fails t ending then some t else none
  | _ => none

/-- The nodes that the line asks to be cancelled that is run next. -/
def State.asked (s : State) : List TaskId :=
  match s.agenda, s.active with
  | [], some (home, _) => s.sliceRequests (s.slice home)
  | _, _ => []

/-- The task whose body is found to have failed next. -/
def State.failing (s : State) : Option TaskId :=
  match s.agenda, s.active with
  | [], some (home, _) => s.sliceFailure (s.slice home)
  | _, _ => none

/-- The nodes that the worker wants to be cancelled next. -/
def State.orders (s : State) : List TaskId :=
  s.asked ++ s.failing.toList.flatMap s.children

/-- The nodes that a turn asks to be cancelled. -/
def Turn.Asks (turn : Turn) (ns : List TaskId) : Prop :=
  Orders (turn.state.agenda ++ turn.after) ns

/-- The nodes that a plain line asks to be cancelled. -/
def Reaction.Asks (reaction : Reaction) (ns : List TaskId) : Prop :=
  Orders (reaction.state.agenda ++ reaction.after) ns

namespace Orders

variable {as bs : List Action} {ns : List TaskId} {n : TaskId}

theorem mem_iff (h : Orders as ns) : .cancel n ∈ as ↔ n ∈ ns := by
  obtain ⟨rest, rfl, calm⟩ := h
  simp [calm n]

theorem of_calm (calm : ∀ n, .cancel n ∉ as) : Orders as [] :=
  ⟨as, rfl, calm⟩

theorem append (h : Orders as ns) (calm : ∀ n, .cancel n ∉ bs) : Orders (as ++ bs) ns := by
  obtain ⟨rest, rfl, none⟩ := h
  refine ⟨rest ++ bs, List.append_assoc _ _ _, fun n hn => ?_⟩
  exact (List.mem_append.1 hn).elim (none n) (calm n)

theorem prepend (h : Orders bs []) (calm : ∀ n, .cancel n ∉ as) : Orders (as ++ bs) [] := by
  obtain ⟨rest, rfl, none⟩ := h
  exact of_calm fun n hn => (List.mem_append.1 hn).elim (calm n) (none n)

end Orders

/-- A line that leaves nothing to be cancelled asks for nothing. -/
theorem Reaction.Asks.nothing {reaction : Reaction} (calm : reaction.state.Calm)
    (free : ∀ n, .cancel n ∉ reaction.after) : reaction.Asks [] :=
  calm.append free

/-- What came of a turn is done after what it asks to be cancelled. -/
theorem Turn.Asks.takeEffect {turn : Turn} {ns : List TaskId} (h : turn.Asks ns) {home : RuntimeId}
    {t : TaskId} : Orders (turn.takeEffect home t).agenda ns := by
  unfold Turn.takeEffect
  dsimp only
  split
  · exact h
  · exact h
  · exact h.append (by simp)
  · exact h.append (by simp)
  · exact h

namespace State

variable {s : State} {c : Context} {home : RuntimeId} {t : TaskId} {f : Fiber} {frame : Frame}
  {tag : Tag} {attempt : Attempt}

namespace Calm

theorem idle (h : s.agenda = []) : s.Calm :=
  .of_calm (by simp [h])

theorem free (h : s.Calm) {n : TaskId} : .cancel n ∉ s.agenda :=
  fun ahead => absurd (h.mem_iff.1 ahead) List.not_mem_nil

theorem doFirst (h : s.Calm) {as : List Action} (calm : ∀ n, .cancel n ∉ as) :
    (s.doFirst as).Calm :=
  h.prepend calm

theorem enqueue (h : s.Calm) (r : RuntimeId) (p : Priority) (e : Entry) :
    (s.enqueue r p e).Calm := by
  unfold State.enqueue
  split
  · exact h.doFirst (by simp)
  · exact h

theorem addNode (h : s.Calm) (kind : NodeKind) (p : Priority) (parent : Option TaskId) :
    (s.addNode kind p parent).Calm := by
  unfold State.addNode
  split
  · exact h
  · dsimp only
    split <;> exact h

theorem launch (h : s.Calm) (n : TaskId) (r : RuntimeId) (body : List Line) (blocking : Bool) :
    (s.launch n r body blocking).Calm := by
  refine enqueue ?_ _ _ _
  exact h

theorem makeGroup (h : s.Calm) (c : Context) (r : RuntimeId) : (s.makeGroup c r).Calm :=
  h.addNode _ _ _

theorem addChild (h : s.Calm) (g : TaskId) (group : Group) (p : Option Priority)
    (body : List Line) : (s.addChild g group p body).Calm :=
  (h.addNode _ _ _).launch _ _ _ _

theorem post (h : s.Calm) (a : ActorId) (r : RuntimeId) (m : Message) : (s.post a r m).Calm := by
  unfold State.post
  split
  · exact h
  · dsimp only
    split
    · exact h
    · refine enqueue ?_ _ _ _
      exact h

theorem callActor (h : s.Calm) (c : Context) (a : ActorId) (handler : List Line) :
    (s.callActor c a handler).Calm := by
  unfold State.callActor
  split
  · exact h
  · split
    · exact h
    · refine post ?_ _ _ _
      exact h

theorem adopt (h : s.Calm) (frame : Frame) (name : String) : (s.adopt frame name).1.Calm := by
  unfold State.adopt
  split <;> exact h

theorem pollHandle (h : s.Calm) (t u : TaskId) : (s.pollHandle t u).1.Calm := by
  unfold State.pollHandle takeOutcome
  split
  · cases (s.tasks.get? t).bind Task.outcome <;> exact h
  · exact h

theorem pollCall (h : s.Calm) (k : CallId) (t : TaskId) : (s.pollCall k t).1.Calm := by
  unfold State.pollCall
  split
  · exact h
  · split
    · exact h
    · split
      · refine doFirst ?_ (by simp)
        exact h
      · exact h

theorem collect (h : s.Calm) (g : TaskId) (index : Nat) : (s.collect g index).1.Calm := by
  unfold State.collect takeOutcome
  split
  · exact h
  · dsimp only
    split
    · exact h
    · split
      · cases (((s.modifyGroup g _).tasks.get? _).bind Task.outcome) with
        | none => exact h
        | some outcome =>
          cases outcome with
          | ok value => exact h
          | error e =>
            dsimp only
            split
            · exact h
            · split <;> exact h
      · exact h

theorem awaitSignal (h : s.Calm) (g t : TaskId) : (s.awaitSignal g t).Calm := by
  refine doFirst ?_ (by simp)
  exact h

theorem nextAmong (g t : TaskId) (places : List Nat) :
    ∀ {s : State}, s.Calm → (State.nextAmong g t places s).1.Calm := by
  induction places with
  | nil => exact fun h => h.awaitSignal g t
  | cons index rest ih =>
    intro s h
    have drawn : (s.modifySignal g fun m => { m with completed := rest }).Calm := h
    have collected := drawn.collect g index
    unfold State.nextAmong
    generalize (s.modifySignal g fun m => { m with completed := rest }).collect g index = p
      at collected ⊢
    obtain ⟨s', _ | result⟩ := p
    · exact ih collected
    · exact collected

theorem allAmong (g t : TaskId) (places : List Nat) :
    ∀ {s : State} {tally : Tally}, s.Calm → (State.allAmong g t places tally s).1.Calm := by
  induction places with
  | nil => exact fun h => h.awaitSignal g t
  | cons index rest ih =>
    intro s tally h
    have drawn : (s.modifySignal g fun m => { m with completed := rest }).Calm := h
    have collected := drawn.collect g index
    unfold State.allAmong
    generalize (s.modifySignal g fun m => { m with completed := rest }).collect g index = p
      at collected ⊢
    obtain ⟨s', _ | result⟩ := p
    · exact ih collected
    · exact ih collected

theorem pollResource (h : s.Calm) (t : TaskId) (r : Resource) : (s.pollResource t r).1.Calm := by
  cases r with
  | handle u =>
    have polled := h.pollHandle u t
    simp only [State.pollResource]
    generalize s.pollHandle u t = p at polled ⊢
    obtain ⟨s', _ | _ | _⟩ := p <;> exact polled
  | group g => exact h
  | call k =>
    have polled := h.pollCall k t
    simp only [State.pollResource]
    generalize s.pollCall k t = p at polled ⊢
    obtain ⟨s', _ | _ | _⟩ := p <;> exact polled

theorem pollFirst (t : TaskId) (handles : List (String × TaskId)) :
    ∀ {s : State} {seen : List (String × TaskId)}, s.Calm →
      (State.pollFirst t seen handles s).1.Calm := by
  induction handles with
  | nil => exact fun h => h
  | cons h rest ih =>
    intro s seen calm
    obtain ⟨name, u⟩ := h
    have polled := calm.pollHandle u t
    unfold State.pollFirst
    generalize s.pollHandle u t = p at polled ⊢
    obtain ⟨s', _ | _ | _⟩ := p
    · exact polled
    · exact ih polled
    · exact polled

end Calm

/-! ### Turns of a body -/

theorem calm_tells (tag : Tag) (who : Speaker) (report : Report) (n : TaskId) :
    .cancel n ∉ tag.tells who report := by
  simp [Tag.tells]

theorem calm_releases (rs : List Resource) (n : TaskId) : .cancel n ∉ rs.map Action.release := by
  simp

theorem tells_asks (calm : s.Calm) {report : Report} : (s.tells t f tag report).Asks [] :=
  calm.append (calm_tells _ _ _)

theorem harvest_asks (calm : s.Calm) {after : List Action} (free : ∀ n, .cancel n ∉ after)
    {h : Harvest} : (s.harvest t f tag attempt after h).Asks [] := by
  cases h <;> exact calm.append fun n hn =>
    (List.mem_append.1 hn).elim (free n) (calm_tells _ _ _ n)

theorem suspends_asks (calm : s.Calm) {wait : Wait} {after : List Action}
    (free : ∀ n, .cancel n ∉ after) : (s.suspends f tag attempt wait after).Asks [] :=
  calm.append free

theorem settled_asks (calm : s.Calm) {flow : Flow} :
    Turn.Asks { state := s, fiber := f, flow := flow } [] :=
  calm.append (by simp)

theorem spin_asks (calm : s.Calm) {turns limit : Nat} :
    (s.spin t f tag turns limit).Asks [] := by
  unfold spin
  split
  · exact suspends_asks calm (by simp)
  · exact tells_asks calm

theorem giveWay_asks (calm : s.Calm) {left : Nat} : (s.giveWay t f tag left).Asks [] := by
  unfold giveWay
  split
  · exact tells_asks calm
  · exact suspends_asks calm (by simp)

theorem awaitResource_asks (calm : s.Calm) {r : Resource} {taken : Bool} :
    (s.awaitResource t f tag attempt r taken).Asks [] := by
  have polled := calm.pollResource t r
  unfold awaitResource
  generalize s.pollResource t r = p at polled ⊢
  obtain ⟨s', _ | _ | _⟩ := p
  · exact harvest_asks polled (by cases taken <;> simp)
  · exact suspends_asks polled (by simp)
  · exact settled_asks polled

theorem awaitFirst_asks (calm : s.Calm) {handles : List (String × TaskId)} :
    (s.awaitFirst t f tag attempt handles).Asks [] := by
  have polled : (pollFirst t [] handles s).1.Calm := Calm.pollFirst t handles calm
  unfold awaitFirst
  generalize pollFirst t [] handles s = p at polled ⊢
  obtain ⟨s', ⟨name, u, outcome, others⟩ | _ | _⟩ := p
  · exact harvest_asks polled (by simp)
  · exact suspends_asks polled (by simp)
  · exact settled_asks polled

theorem awaitNext_asks (calm : s.Calm) {g : TaskId} :
    (s.awaitNext t f tag attempt g).Asks [] := by
  have polled := Calm.nextAmong g t (s.completed g) calm
  unfold awaitNext pollNext
  generalize nextAmong g t (s.completed g) s = p at polled ⊢
  obtain ⟨s', _ | _ | _⟩ := p
  · exact harvest_asks polled (by simp)
  · exact suspends_asks polled (by simp)
  · exact settled_asks polled

theorem awaitAll_asks (calm : s.Calm) {g : TaskId} {own : Bool} {tally : Tally} :
    (s.awaitAll t f tag attempt g own tally).Asks [] := by
  have polled : (allAmong g t (s.completed g) tally s).1.Calm := Calm.allAmong g t _ calm
  unfold awaitAll pollAll
  generalize allAmong g t (s.completed g) tally s = p at polled ⊢
  obtain ⟨s', tally', _ | _ | _⟩ := p
  · exact harvest_asks polled (calm_releases _)
  · exact suspends_asks polled (by simp)
  · exact settled_asks polled

theorem awaitNamed_asks (calm : s.Calm) {keep : Bool} :
    (s.awaitNamed t f tag keep attempt).Asks [] := by
  have adopted := calm.adopt f.frame tag.target
  unfold awaitNamed
  generalize s.adopt f.frame tag.target = p at adopted ⊢
  obtain ⟨s', frame⟩ := p
  dsimp only
  split
  · exact tells_asks adopted
  · exact tells_asks adopted
  · exact awaitResource_asks adopted

theorem pollNamed_asks (calm : s.Calm) {keep : Bool} :
    (s.pollNamed t f tag keep attempt).Asks [] := by
  have adopted := calm.adopt f.frame tag.target
  unfold pollNamed
  generalize s.adopt f.frame tag.target = p at adopted ⊢
  obtain ⟨s', frame⟩ := p
  dsimp only
  split
  · exact tells_asks adopted
  · rename_i r _
    have polled := State.Calm.pollResource adopted t r
    generalize s'.pollResource t r = q at polled ⊢
    obtain ⟨s'', _ | _ | _⟩ := q
    · dsimp only
      split
      · exact harvest_asks polled (by simp)
      · exact harvest_asks polled (by simp)
    · exact tells_asks polled
    · exact settled_asks polled

theorem adoptGroup_calm (calm : s.Calm) (frame : Frame) (name : String) :
    (s.adoptGroup frame name).1.Calm := by
  have adopted := calm.adopt frame name
  unfold adoptGroup
  generalize s.adopt frame name = p at adopted ⊢
  obtain ⟨s', frame'⟩ := p
  dsimp only
  split <;> exact adopted

/-! ### Lines that do not wait -/

theorem add_asks (calm : s.Calm) {priority : Option Priority} {body : List Line} :
    (s.add frame tag priority body).Asks [] := by
  have adopted := calm.adopt frame tag.target
  unfold add
  generalize s.adopt frame tag.target = p at adopted ⊢
  obtain ⟨s', frame'⟩ := p
  dsimp only
  split
  · split
    · refine .nothing ?_ (by simp [reports])
      exact State.Calm.addChild adopted _ _ _ _
    · exact .nothing adopted (by simp [reports])
  · exact .nothing adopted (by simp [reports])

/-- **A plain line asks for what it says.** -/
theorem plain?_asks (idle : s.agenda = []) {act : Act} {reaction : Reaction}
    (h : s.plain? c frame tag act = some reaction) :
    reaction.Asks (s.requests frame tag act) := by
  have calm : s.Calm := .idle idle
  have quiet : ∀ report, (s.reports frame report).Asks [] :=
    fun _ => .nothing calm (by simp [reports])
  -- one cancellation at the end of the agenda
  have one : ∀ n, Orders (s.agenda ++ [.cancel n]) [n] := fun n => ⟨[], by simp [idle], by simp⟩
  cases act <;> simp only [plain?, Option.some.injEq, reduceCtorEq] at h <;> subst h
  case note | currentTask | isCancelled | thread | phase | isTerminal | isFinished
    | handleCancelled | handleTask | groupSize | groupCancelled | describeActor | pending
    | childPhase => exact quiet _
  case panic => exact .nothing calm (by simp [panics])
  case spawn =>
    unfold spawn
    split
    · exact .nothing calm (by simp [panics])
    · refine .nothing ?_ (by simp [binds])
      dsimp only
      split
      · exact (calm.addNode _ _ _).launch _ _ _ _
      · exact (calm.addNode _ _ _).launch _ _ _ _
  case spawnOn =>
    unfold spawnOn
    split
    · exact quiet _
    · refine .nothing ?_ (by simp [binds])
      exact (calm.addNode _ _ _).launch _ _ _ _
  case cancel =>
    cases found : s.findHandle? frame tag.target with
    | none =>
      simp only [requests, found, Option.toList_none]
      exact quiet _
    | some n =>
      simp only [requests, found, Option.toList_some]
      exact one n
  case cancelGroup =>
    cases found : s.findGroup? frame tag.target with
    | none =>
      simp only [requests, found, Option.toList_none]
      exact quiet _
    | some n =>
      simp only [requests, found, Option.toList_some]
      exact one n
  case describe => split <;> exact quiet _
  case drop =>
    unfold dropNamed
    split
    · exact .nothing calm (by simp)
    · exact .nothing calm (by simp)
    · exact quiet _
  case share =>
    unfold shareNamed
    split
    · refine .nothing ?_ (by simp [share])
      exact calm
    · exact quiet _
  case group =>
    unfold bindGroup
    split
    · exact .nothing calm (by simp [panics])
    · exact .nothing (calm.makeGroup _ _) (by simp [binds])
  case add => exact add_asks calm
  case actor => exact .nothing calm (by simp [bindActor, reports])
  case call =>
    unfold bindCall
    split
    · exact quiet _
    · exact .nothing (calm.callActor _ _ _) (by simp [binds])
  case send =>
    unfold send sendActor
    split
    · exact quiet _
    · cases c.home with
      | none => exact quiet _
      | some home => exact .nothing (calm.post _ _ _) (by simp [reports])
  case wake =>
    split
    · exact .nothing calm (by simp)
    · exact quiet _

/-! ### Lines of a body -/

theorem requests_of_plain?_none {act : Act} (h : s.plain? c frame tag act = none) :
    s.requests frame tag act = [] := by
  cases act with
  | cancel | cancelGroup => cases h
  | _ => rfl

/-- **A line of a body asks for what it says.** -/
theorem runLine_asks (idle : s.agenda = []) (act : Act) :
    (s.runLine home t f tag act).Asks (s.requests f.frame tag act) := by
  have calm : s.Calm := .idle idle
  have adopted := adoptGroup_calm calm f.frame tag.target
  unfold runLine
  split
  · -- the body ends, in four ways
    exact settled_asks calm
  · exact settled_asks calm
  · exact settled_asks calm
  · exact settled_asks calm
  · -- a check whether it was cancelled
    split
    · exact tells_asks (f := f) calm
    · exact tells_asks calm
  · -- it gives way a number of times, or until it is cancelled
    exact giveWay_asks calm
  · exact spin_asks calm
  · -- it parks itself
    refine suspends_asks ?_ (by simp)
    exact calm
  · -- it wakes itself
    refine calm.append fun n hn => ?_
    refine (List.mem_append.1 hn).elim (fun woken => ?_) (calm_tells _ _ _ n)
    split at woken <;> simp at woken
  · -- a loop, and a choice by whether it was cancelled
    split <;> exact settled_asks calm
  · exact settled_asks calm
  · -- it waits for a task or a call, or looks at it once
    exact awaitNamed_asks calm
  · exact pollNamed_asks calm
  · -- it waits for the first of several tasks
    rename_i names attempt
    generalize takeHandles names f.frame = p
    obtain ⟨handles, frame⟩ := p
    dsimp only
    split
    · exact tells_asks calm
    · exact awaitFirst_asks calm
  · -- it waits for the next result of a group, or for all
    generalize s.adoptGroup f.frame tag.target = p at adopted ⊢
    obtain ⟨s', frame, _ | g⟩ := p
    · exact tells_asks adopted
    · exact awaitNext_asks adopted
  · generalize s.adoptGroup f.frame tag.target = p at adopted ⊢
    obtain ⟨s', frame, _ | g⟩ := p
    · exact tells_asks adopted
    · exact awaitAll_asks adopted
  · -- a group of its own
    exact settled_asks (calm.makeGroup _ _)
  · -- it holds the worker
    split
    · refine settled_asks ?_
      exact calm
    · exact tells_asks calm
  · split
    · exact settled_asks calm
    · exact tells_asks calm
  · -- any other line does not wait
    split
    · rename_i none
      rw [requests_of_plain?_none none]
      exact tells_asks calm
    · rename_i reaction plain
      have orders := plain?_asks idle plain
      dsimp only
      split
      · unfold Turn.Asks
        rw [← List.append_assoc]
        exact orders.append (calm_tells _ _ _)
      · exact orders

theorem fill_asks (idle : s.agenda = []) {g : TaskId} (plan : List PlanItem) :
    (s.fill t f tag attempt g plan).Asks (Wait.filling g plan).requests := by
  have calm : s.Calm := .idle idle
  cases plan with
  | nil => exact awaitAll_asks calm
  | cons item rest =>
    cases item with
    | cancelAll =>
      unfold fill
      exact ⟨[], by simp [idle, Wait.requests], by simp⟩
    | panic => exact settled_asks calm
    | look =>
      unfold fill
      cases s.groups.get? g with
      | none => exact settled_asks calm
      | some group => exact Orders.append calm (by simp)
    | add priority body =>
      unfold fill
      cases s.groups.get? g with
      | none => exact settled_asks calm
      | some group => exact Orders.append (calm.addChild _ _ _ _) (by simp)

theorem poll_asks (idle : s.agenda = []) {w : Waiting} : (s.poll t f w).Asks w.wait.requests := by
  have calm : s.Calm := .idle idle
  obtain ⟨tag, attempt, wait⟩ := w
  cases wait with
  | yielding => exact giveWay_asks calm
  | spinning => exact spin_asks calm
  | parked => exact tells_asks calm
  | awaiting => exact awaitResource_asks calm
  | selecting => exact awaitFirst_asks calm
  | next => exact awaitNext_asks calm
  | all => exact awaitAll_asks calm
  | filling g plan => exact fill_asks idle plan

/-- **A body asks for what its next line says**, or for the group that it fills. -/
theorem bodyStep_orders (idle : s.agenda = []) :
    Orders (s.bodyStep home t f).agenda (s.bodyRequests f) := by
  have calm : s.Calm := .idle idle
  unfold bodyStep bodyRequests
  split
  · exact calm
  · cases waits : f.waiting with
    | some w => exact (poll_asks idle).takeEffect
    | none =>
      cases f.code with
      | nil => exact (settled_asks calm).takeEffect
      | cons line rest =>
        obtain ⟨tag, act⟩ := line
        exact (runLine_asks idle act).takeEffect

/-! ### Handlers and workers -/

/-- **A handler asks for what its next line says.** -/
theorem handlerStep_orders (idle : s.agenda = []) {a : ActorId} {handled : Nat} {code : List Line}
    {reply : Option CallId} :
    Orders (s.handlerStep home a handled code frame reply).agenda
      (s.handlerRequests frame code) := by
  have calm : s.Calm := .idle idle
  -- what the answer of a line is written to does not matter
  have effect : ∀ {answer : Answer} {ns : List TaskId},
      Orders (answer.state.agenda ++ answer.after) ns →
        Orders (answer.takeEffect home a handled reply).agenda ns := by
    intro answer ns asks
    unfold Answer.takeEffect
    dsimp only
    split
    · exact asks.append (by simp)
    · split <;> exact asks
  cases code with
  | nil => exact effect (calm.append (by simp))
  | cons line rest =>
    obtain ⟨tag, act⟩ := line
    refine effect ?_
    have told : ∀ report, Orders (s.agenda ++ tag.tells (.actor a) report) [] :=
      fun _ => calm.append (calm_tells _ _ _)
    have nothing : Orders (s.agenda ++ []) [] := calm.append (by simp)
    change Orders _ (s.requests frame tag act)
    unfold handlerLine
    dsimp only
    split
    · rename_i xs report effect
      have silent : s.requests frame tag act = [] := by cases act <;> first | rfl | cases effect
      rw [silent]
      exact told report
    · split
      · exact nothing
      · exact nothing
      · exact nothing
      · split
        · exact nothing
        · exact told _
      · split
        · exact nothing
        · exact told _
      · split
        · rename_i none
          rw [requests_of_plain?_none none]
          exact told _
        · rename_i reaction plain
          have orders := plain?_asks idle plain
          split
          · rw [← List.append_assoc]
            exact orders.append (calm_tells _ _ _)
          · exact orders

theorem endPending_calm (calm : s.Calm) : (s.endPending home t).Calm := by
  unfold endPending
  dsimp only
  split
  · refine Calm.doFirst ?_ (by simp)
    exact calm
  · split
    · refine Calm.enqueue (Calm.doFirst ?_ (by simp)) _ _ _
      exact calm
    · exact calm

theorem joinChildren_calm (calm : s.Calm) : (s.joinChildren home t).Calm := by
  unfold joinChildren complete
  split
  · refine Calm.doFirst ?_ (by simp)
    exact calm
  · refine endPending_calm ?_
    exact calm

/-- **The end of a body asks for the children of its task** if it is a failure, and for nothing
otherwise. -/
theorem endBody_orders (idle : s.agenda = []) {ending : Ending} :
    Orders (s.endBody home t (endingOf s.unwinding ending)).agenda
      (if s.fails t ending then s.children t else []) := by
  have calm : s.Calm := .idle idle
  have all : Orders ((s.children t).map .cancel ++ s.agenda) (s.children t) :=
    ⟨[], by rw [idle], by simp⟩
  unfold endBody fails
  dsimp only
  cases endingOf s.unwinding ending with
  | panicked message => exact all
  | returned result =>
    dsimp only
    by_cases blocking : (s.tasks.get? t).any Task.blocking = true
    · rw [if_pos blocking]
      cases result with
      | ok value => exact calm
      | error e =>
        dsimp only
        rw [blocking]
        exact calm
    · rw [if_neg blocking]
      cases result with
      | ok value => exact calm
      | error e =>
        dsimp only
        rw [Bool.not_eq_true] at blocking
        rw [blocking]
        cases e with
        | cancelled => exact calm
        | failed | panicked => exact all

theorem taskStep_orders (idle : s.agenda = []) (stage : Stage) :
    Orders (s.taskStep home t stage).agenda (s.sliceRequests (some (.task t stage)) ++
      (s.sliceFailure (some (.task t stage))).toList.flatMap s.children) := by
  have calm : s.Calm := .idle idle
  cases stage with
  | polling =>
    simp only [sliceFailure, Option.toList_none, List.flatMap_nil, List.append_nil, sliceRequests]
    unfold taskStep
    cases found : s.tasks.get? t with
    | none => exact calm
    | some task =>
      cases fiber : task.fiber with
      | none =>
        simp only [Option.bind_some, fiber]
        exact joinChildren_calm calm
      | some f =>
        cases unwinding : s.unwinding with
        | none =>
          simp only [Option.bind_some, fiber]
          exact bodyStep_orders idle
        | some message =>
          simp only [Option.bind_some, fiber]
          exact (settled_asks calm).takeEffect
  | suspending =>
    unfold taskStep
    dsimp only
    split
    · exact (settled_asks calm).takeEffect
    · exact endPending_calm calm
  | ended ending =>
    have orders : Orders (s.endBody home t (endingOf s.unwinding ending)).agenda
        (if s.fails t ending then s.children t else []) := endBody_orders idle
    change Orders (s.endBody home t (endingOf s.unwinding ending)).agenda _
    simp only [sliceRequests, sliceFailure, List.nil_append]
    split
    · rename_i fails
      rw [fails, if_pos rfl] at orders
      simpa using orders
    · rename_i holds
      rw [if_neg holds] at orders
      exact orders
  | joining => exact joinChildren_calm calm
  | leaving =>
    refine Calm.doFirst ?_ (by simp)
    exact calm

theorem drainStep_orders (idle : s.agenda = []) {a : ActorId} {handled : Nat}
    (stage : HandlerStage) :
    Orders (s.drainStep home a handled stage).agenda
      (s.sliceRequests (some (.drain a handled stage))) := by
  have calm : s.Calm := .idle idle
  have ends : (s.endDrain home a handled).Calm := by
    unfold endDrain
    dsimp only
    split
    · exact calm
    · split
      · exact calm
      · refine Calm.enqueue ?_ _ _ _
        exact calm
  cases stage with
  | idle =>
    change (s.nextMessage home a handled).Calm
    unfold nextMessage
    split
    · exact calm
    · split
      · split
        · exact ends
        · exact calm
      · exact ends
  | handling => exact handlerStep_orders idle
  | replying reply result =>
    change (s.endHandler home a handled reply result).Calm
    unfold endHandler
    split
    · refine Calm.doFirst ?_ (by simp)
      exact calm
    · exact calm
    · refine Calm.doFirst ?_ (by simp)
      exact calm
    · exact calm

theorem beginTask_calm (calm : s.Calm) : (s.beginTask home t).Calm := by
  unfold beginTask
  split
  · exact calm
  · refine Calm.doFirst ?_ (by simp)
    exact calm

theorem meetMarker_calm (calm : s.Calm) {goal : Goal} {serial : Nat} :
    (s.meetMarker home goal serial).Calm := by
  unfold meetMarker
  split
  · split
    · split
      · exact calm
      · exact calm.enqueue home _ _
    · exact calm
  · exact calm

/-- **The machine asks for what the next line says**, and for the children of a body that fails,
and for nothing else. -/
theorem step_orders (idle : s.agenda = []) : Orders s.step.agenda s.orders := by
  have calm : s.Calm := .idle idle
  unfold step orders asked failing
  rw [idle]
  cases s.active with
  | none => exact calm
  | some work =>
    obtain ⟨home, goal⟩ := work
    dsimp only
    unfold State.work
    cases found : s.runtimes.get? home with
    | none =>
      have nowhere : s.slice home = none := by simp [slice, found]
      rw [nowhere]
      exact calm
    | some rt =>
      have here : s.slice home = rt.slice := by simp [slice, found]
      rw [here]
      dsimp only
      cases rt.slice with
      | some slice =>
        cases slice with
        | task t stage => exact taskStep_orders idle stage
        | drain a handled stage =>
          simp only [sliceFailure, Option.toList_none, List.flatMap_nil, List.append_nil]
          exact drainStep_orders idle stage
      | none =>
        change Calm _
        dsimp only
        split
        · exact calm
        · split
          · exact calm
          · split
            · refine beginTask_calm ?_
              exact calm
            · exact calm
            · refine meetMarker_calm ?_
              exact calm

end State

end Nursery
