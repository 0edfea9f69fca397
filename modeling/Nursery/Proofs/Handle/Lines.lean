import Nursery.Proofs.Handle.Items

/-!
# Twins and lines

No line can see whether the handle of a task is still there: a line that finds a handle finds the
handle of another task, or takes it for granted.  So a line does the same in both runs, and what it
reports is the same.

* `Twins`, `Reaction.Twins`, `Turn.Twins`, `Answer.Twins` : what comes of a line in both runs.
* `Twins.elim` : what is done with what a look finds is done in both runs.
* `Twin.plain?` : **a line that does not wait does the same to twins.**
* `Twin.poll` : so does another look of one that waits.
-/

namespace Nursery

/-- The same is found in two states that are twins after the look. -/
inductive Twins (t : TaskId) {α : Type} : State × α → State × α → Prop where
  /-- What is found. -/
  | both {s k : State} (h : Twin t s k) (found : α) : Twins t (s, found) (k, found)

/-- What is done with what a look finds is the same in both runs if it is whatever is found. -/
@[elab_as_elim]
theorem Twins.elim {t : TaskId} {α : Type} {motive : State × α → State × α → Prop}
    {x y : State × α} (looked : Twins t x y)
    (both : ∀ {s k : State}, Twin t s k → ∀ found, motive (s, found) (k, found)) : motive x y := by
  cases looked with
  | both h found => exact both h found

/-- Two lines do the same to twins. -/
def Reaction.Twins (t : TaskId) (x y : Reaction) : Prop :=
  ∃ k, Twin t x.state k ∧ y = { x with state := k }

/-- Two turns do the same to twins. -/
def Turn.Twins (t : TaskId) (x y : Turn) : Prop :=
  ∃ k, Twin t x.state k ∧ y = { x with state := k }

/-- Two lines of a handler do the same to twins. -/
def Answer.Twins (t : TaskId) (x y : Answer) : Prop :=
  ∃ k, Twin t x.state k ∧ y = { x with state := k }

variable {s s' k k' : State} {t u g : TaskId} {c : Context} {f : Fiber} {frame : Frame} {tag : Tag}
  {attempt : Attempt}

namespace Twin

/-! ### Tasks -/

theorem setTask (h : Twin t s k) (n : TaskId) {m : Task} (held : m.handleDropped = false)
    (unreported : m.reported = false) :
    Twin t { s with tasks := s.tasks.set n m } { k with tasks := k.tasks.set n m } :=
  { h with
    tasks := (congrArg (·.set n m) h.tasks).trans
      (Store.set_map (Task.keptAs_of_fresh held unreported)) }

theorem launch (h : Twin t s k) (n : TaskId) (home : RuntimeId) (body : List Line)
    (blocking : Bool) : Twin t (s.launch n home body blocking) (k.launch n home body blocking) := by
  have queued : ∀ {s k : State}, Twin t s k →
      Twin t ((s.log (.spawned n (s.priority n))).enqueue home (s.priority n) (.task n))
        ((k.log (.spawned n (k.priority n))).enqueue home (k.priority n) (.task n)) := by
    intro s k h
    rw [h.priority]
    exact (h.log _).enqueue ..
  exact queued ((h.setPhase n .ready).setTask n rfl rfl)

theorem takeOutcome (h : Twin t s k) (u : TaskId) :
    Twins t (s.takeOutcome u) (k.takeOutcome u) := by
  unfold State.takeOutcome
  rw [h.bind u fun _ => rfl]
  exact .both (h.modifyTask u fun _ => by rfl) _

theorem pollHandle (h : Twin t s k) (u poller : TaskId) :
    Twins t (s.pollHandle u poller) (k.pollHandle u poller) := by
  unfold State.pollHandle
  rw [h.phase]
  split
  · have taken := h.takeOutcome u
    refine taken.elim fun h outcome => ?_
    cases outcome with
    | none => exact .both h _
    | some outcome => exact .both h _
  · exact .both (h.modifyTask u fun _ => by rfl) _

/-! ### Groups -/

theorem makeGroup (h : Twin t s k) (c : Context) (home : RuntimeId) :
    Twin t (s.makeGroup c home) (k.makeGroup c home) := by
  have priority : c.task.map k.priority = c.task.map s.priority :=
    congrArg (c.task.map ·) (funext h.priority)
  unfold State.makeGroup
  dsimp only
  rw [h.nextNode, priority]
  have made := h.addNode .group ((c.task.map s.priority).getD .normal) c.task
  exact { made with
    groups := congrArg (fun x => x.set s.nextNode { home := home }) made.groups
    signals := congrArg (fun x => x.set s.nextNode {}) made.signals }

theorem addChild (h : Twin t s k) (g : TaskId) (group : Group) (priority : Option Priority)
    (body : List Line) :
    Twin t (s.addChild g group priority body) (k.addChild g group priority body) := by
  unfold State.addChild
  dsimp only
  rw [h.nextNode, h.priority]
  exact (((h.addNode ..).launch ..).modifyTask _ fun _ => by rfl).modifyGroup g _

theorem collect (h : Twin t s k) (g : TaskId) (index : Nat) :
    Twins t (s.collect g index) (k.collect g index) := by
  unfold State.collect
  rw [h.groups]
  cases s.groups.get? g with
  | none => exact .both h _
  | some group =>
    have counted := h.modifyGroup g fun m => { m with remaining := m.remaining - 1 }
    dsimp only
    cases group.children[index]? with
    | none => exact .both counted _
    | some u =>
      dsimp only
      rw [counted.phase]
      split
      · have taken := counted.takeOutcome u
        refine taken.elim fun h outcome => ?_
        rcases outcome with _ | e | value
        · exact .both h _
        · dsimp only
          split
          · exact .both h _
          · split
            · exact .both (h.log _) _
            · exact .both (h.modifyGroup g _) _
        · exact .both h _
      · exact .both counted _

theorem awaitSignal (h : Twin t s k) (g poller : TaskId) :
    Twin t (s.awaitSignal g poller) (k.awaitSignal g poller) := by
  unfold State.awaitSignal
  rw [h.signals]
  exact (h.modifySignal g _).doFirst _

theorem completed (h : Twin t s k) (g : TaskId) : k.completed g = s.completed g := by
  rw [State.completed, State.completed, h.signals]

theorem drained (h : Twin t s k) (g : TaskId) : k.drained g = s.drained g := by
  rw [State.drained, State.drained, h.groups]

theorem nextAmong (g poller : TaskId) (places : List Nat) : ∀ {s k : State}, Twin t s k →
    Twins t (State.nextAmong g poller places s) (State.nextAmong g poller places k) := by
  induction places with
  | nil =>
    intro s k h
    rw [State.nextAmong, State.nextAmong, h.drained]
    exact .both (h.awaitSignal g poller) _
  | cons index rest ih =>
    intro s k h
    rw [State.nextAmong, State.nextAmong]
    have collected := (h.modifySignal g fun m => { m with completed := rest }).collect g index
    refine collected.elim fun h result => ?_
    cases result with
    | none => exact ih h
    | some result => exact .both h _

theorem pollNext (h : Twin t s k) (g poller : TaskId) :
    Twins t (s.pollNext g poller) (k.pollNext g poller) := by
  rw [State.pollNext, State.pollNext, h.completed]
  exact nextAmong g poller _ h

theorem allAmong (g poller : TaskId) (places : List Nat) : ∀ {s k : State} (tally : Tally),
    Twin t s k →
      Twins t (State.allAmong g poller places tally s)
        (State.allAmong g poller places tally k) := by
  induction places with
  | nil =>
    intro s k tally h
    rw [State.allAmong, State.allAmong, h.drained]
    exact .both (h.awaitSignal g poller) _
  | cons index rest ih =>
    intro s k tally h
    rw [State.allAmong, State.allAmong]
    have collected := (h.modifySignal g fun m => { m with completed := rest }).collect g index
    refine collected.elim fun h result => ?_
    cases result with
    | none => exact ih _ h
    | some result => exact ih _ h

theorem pollAll (h : Twin t s k) (g poller : TaskId) (tally : Tally) :
    Twins t (s.pollAll g poller tally) (k.pollAll g poller tally) := by
  rw [State.pollAll, State.pollAll, h.completed]
  exact allAmong g poller _ tally h

/-! ### Actors -/

theorem post (h : Twin t s k) (a : ActorId) (home : RuntimeId) (message : Message) :
    Twin t (s.post a home message) (k.post a home message) := by
  unfold State.post
  rw [h.actors]
  cases s.actors.get? a with
  | none => exact h
  | some actor =>
    have posted := h.modifyActor a fun m =>
      { m with mailbox := m.mailbox ++ [message], scheduled := true }
    dsimp only
    split
    · exact posted
    · exact posted.enqueue ..

theorem nextCall (h : Twin t s k) : k.nextCall = s.nextCall := by
  rw [State.nextCall, State.nextCall, h.calls]

theorem setCall (h : Twin t s k) (call : Call) :
    Twin t { s with calls := s.calls.set s.nextCall call }
      { k with calls := k.calls.set k.nextCall call } :=
  { h with calls := by rw [h.nextCall, h.calls] }

theorem callActor (h : Twin t s k) (c : Context) (a : ActorId) (handler : List Line) :
    Twin t (s.callActor c a handler) (k.callActor c a handler) := by
  unfold State.callActor
  split
  · exact (h.log _).setCall _
  · cases c.home with
    | none => exact h.setCall _
    | some home =>
      dsimp only
      rw [h.nextCall]
      have called := h.setCall { accepted := true }
      rw [h.nextCall] at called
      exact called.post ..

theorem pollCall (h : Twin t s k) (c : CallId) (poller : TaskId) :
    Twins t (s.pollCall c poller) (k.pollCall c poller) := by
  unfold State.pollCall
  rw [h.calls]
  cases s.calls.get? c with
  | none => exact .both h _
  | some call =>
    dsimp only
    cases call.outcome with
    | some outcome => exact .both (h.modifyCall c _) _
    | none =>
      dsimp only
      split
      · exact .both ((h.modifyCall c _).doFirst _) _
      · exact .both h _

/-! ### Lines that do not wait -/

theorem find? (h : Twin t s k) (frame : Frame) (name : String) :
    k.find? frame name = s.find? frame name := by
  rw [State.find?, State.find?, h.shared]

theorem findHandle? (h : Twin t s k) (frame : Frame) (name : String) :
    k.findHandle? frame name = s.findHandle? frame name := by
  rw [State.findHandle?, State.findHandle?, h.find?]

theorem findGroup? (h : Twin t s k) (frame : Frame) (name : String) :
    k.findGroup? frame name = s.findGroup? frame name := by
  rw [State.findGroup?, State.findGroup?, h.find?]

theorem findActor? (h : Twin t s k) (name : String) : k.findActor? name = s.findActor? name := by
  rw [State.findActor?, State.findActor?, h.actorNames]

theorem threadName (h : Twin t s k) (c : Context) : k.threadName c = s.threadName c := by
  rw [State.threadName, State.threadName, h.runtimes]

theorem describeHandle (h : Twin t s k) (u : TaskId) : k.describeHandle u = s.describeHandle u := by
  unfold State.describeHandle
  rw [h.phase]

theorem describeCall (h : Twin t s k) (c : CallId) : k.describeCall c = s.describeCall c := by
  unfold State.describeCall State.callPending
  rw [h.calls]

theorem childPhase (h : Twin t s k) (frame : Frame) (name child : String) :
    k.childPhase frame name child = s.childPhase frame name child := by
  rw [State.childPhase, State.childPhase, h.findGroup?, h.taskNames, h.groups]
  simp only [h.phase]

theorem withShared (h : Twin t s k) (frame : Frame) :
    Twin t { s with shared := frame } { k with shared := frame } :=
  { h with shared := rfl }

theorem withActors (h : Twin t s k) (actors : Store ActorId Actor) (names : Store String ActorId) :
    Twin t { s with actors := actors, actorNames := names }
      { k with actors := actors, actorNames := names } :=
  { h with actors := rfl, actorNames := rfl }

theorem withName (h : Twin t s k) (name : String) (n : TaskId) :
    Twin t { s with taskNames := s.taskNames.set name n }
      { k with taskNames := k.taskNames.set name n } :=
  { h with taskNames := congrArg (·.set name n) h.taskNames }

theorem adopt (h : Twin t s k) (frame : Frame) (name : String) :
    Twins t (s.adopt frame name) (k.adopt frame name) := by
  unfold State.adopt
  rw [h.shared]
  split
  · exact .both (h.withShared _) _
  · exact .both h _

theorem reports (h : Twin t s k) (frame : Frame) (report : Report) :
    Reaction.Twins t (s.reports frame report) (k.reports frame report) :=
  ⟨k, h, rfl⟩

theorem binds (h : Twin t s k) (frame : Frame) (name : String) (r : Resource) (report : Report) :
    Reaction.Twins t (s.binds frame name r report) (k.binds frame name r report) :=
  ⟨k, h, rfl⟩

theorem spawned (h : Twin t s k) (n : TaskId) (home : RuntimeId) (body : List Line)
    (name : String) : Twin t
      { s.launch n home body false with taskNames := s.taskNames.set name n }
      { k.launch n home body false with taskNames := k.taskNames.set name n } :=
  { h.launch n home body false with taskNames := congrArg (·.set name n) h.taskNames }

theorem spawn (h : Twin t s k) (c : Context) (frame : Frame) (tag : Tag)
    (priority : Option Priority) (detached : Bool) (body : List Line) :
    Reaction.Twins t (s.spawn c frame tag priority detached body)
      (k.spawn c frame tag priority detached body) := by
  have inherited : c.task.map k.priority = c.task.map s.priority :=
    congrArg (c.task.map ·) (funext h.priority)
  unfold State.spawn
  cases c.home with
  | none => exact ⟨k, h, rfl⟩
  | some home =>
    dsimp only
    rw [inherited, h.nextNode]
    split
    · exact ((h.addNode ..).spawned ..).binds ..
    · exact ((h.addNode ..).spawned ..).binds ..

theorem spawnOn (h : Twin t s k) (frame : Frame) (tag : Tag) (place : Nat)
    (priority : Option Priority) (body : List Line) :
    Reaction.Twins t (s.spawnOn frame tag place priority body)
      (k.spawnOn frame tag place priority body) := by
  unfold State.spawnOn
  rw [h.places]
  cases s.places.get? place with
  | none => exact h.reports frame _
  | some home =>
    dsimp only
    rw [h.nextNode]
    exact ((h.addNode ..).spawned ..).binds ..

theorem bindGroup (h : Twin t s k) (c : Context) (frame : Frame) (tag : Tag) :
    Reaction.Twins t (s.bindGroup c frame tag) (k.bindGroup c frame tag) := by
  unfold State.bindGroup
  cases c.home with
  | none => exact ⟨k, h, rfl⟩
  | some home =>
    dsimp only
    rw [h.nextNode]
    exact (h.makeGroup c home).binds ..

theorem add (h : Twin t s k) (frame : Frame) (tag : Tag) (priority : Option Priority)
    (body : List Line) :
    Reaction.Twins t (s.add frame tag priority body) (k.add frame tag priority body) := by
  unfold State.add
  refine (h.adopt frame tag.target).elim fun h frame => ?_
  dsimp only
  split
  · rw [h.groups]
    split
    · rw [h.nextNode]
      exact ((h.addChild ..).withName ..).reports ..
    · exact h.reports ..
  · exact h.reports ..

theorem dropNamed (h : Twin t s k) (frame : Frame) (name : String) :
    Reaction.Twins t (s.dropNamed frame name) (k.dropNamed frame name) := by
  unfold State.dropNamed
  rw [h.shared]
  split
  · exact ⟨k, h, rfl⟩
  · exact ⟨_, h.withShared _, rfl⟩
  · exact h.reports ..

theorem shareNamed (h : Twin t s k) (frame : Frame) (name : String) :
    Reaction.Twins t (s.shareNamed frame name) (k.shareNamed frame name) := by
  unfold State.shareNamed State.share
  rw [h.shared]
  split
  · exact ⟨_, h.withShared _, rfl⟩
  · exact h.reports ..

theorem bindActor (h : Twin t s k) (frame : Frame) (tag : Tag) (init : List Int64)
    (priority : Option Priority) :
    Reaction.Twins t (s.bindActor frame tag init priority)
      (k.bindActor frame tag init priority) := by
  unfold State.bindActor
  dsimp only
  rw [h.actors, h.actorNames]
  exact ((h.withActors _ _).log _).reports ..

theorem bindCall (h : Twin t s k) (c : Context) (frame : Frame) (tag : Tag) (handler : List Line) :
    Reaction.Twins t (s.bindCall c frame tag handler) (k.bindCall c frame tag handler) := by
  unfold State.bindCall
  rw [h.findActor?, h.nextCall]
  split
  · exact h.reports ..
  · exact (h.callActor ..).binds ..

theorem send (h : Twin t s k) (c : Context) (frame : Frame) (tag : Tag) (handler : List Line) :
    Reaction.Twins t (s.send c frame tag handler) (k.send c frame tag handler) := by
  unfold State.send State.sendActor
  rw [h.findActor?]
  split
  · exact h.reports ..
  · cases c.home with
    | none => exact h.reports ..
    | some home => exact (h.post ..).reports ..

/-- **A line that does not wait does the same to twins.** -/
theorem plain? (h : Twin t s k) (c : Context) (frame : Frame) (tag : Tag) (act : Act) :
    Option.Rel (Reaction.Twins t) (s.plain? c frame tag act) (k.plain? c frame tag act) := by
  -- twins differ in a handle only, and no line asks for that
  cases act with
  | note | currentTask => exact .some (h.reports ..)
  | isCancelled =>
    rw [State.plain?, State.plain?, funext h.isCancelled]
    exact .some (h.reports ..)
  | thread =>
    rw [State.plain?, State.plain?, h.threadName]
    exact .some (h.reports ..)
  | panic => exact .some ⟨_, h.tell _, rfl⟩
  | spawn => exact .some (h.spawn ..)
  | spawnOn => exact .some (h.spawnOn ..)
  | phase | isTerminal | isFinished =>
    simp only [State.plain?, h.findHandle?, h.phase]
    exact .some (h.reports ..)
  | handleCancelled =>
    simp only [State.plain?, h.findHandle?, h.isCancelled]
    exact .some (h.reports ..)
  | handleTask =>
    simp only [State.plain?, h.findHandle?]
    exact .some (h.reports ..)
  | cancel =>
    rw [State.plain?, State.plain?, h.findHandle?]
    split
    · exact .some ⟨k, h, rfl⟩
    · exact .some (h.reports ..)
  | describe =>
    simp only [State.plain?, h.find?, h.describeHandle, h.describeCall]
    split <;> exact .some (h.reports ..)
  | drop => exact .some (h.dropNamed ..)
  | share => exact .some (h.shareNamed ..)
  | group => exact .some (h.bindGroup ..)
  | add => exact .some (h.add ..)
  | groupSize =>
    rw [State.plain?, State.plain?, h.findGroup?, h.groups]
    exact .some (h.reports ..)
  | cancelGroup =>
    rw [State.plain?, State.plain?, h.findGroup?]
    split
    · exact .some ⟨k, h, rfl⟩
    · exact .some (h.reports ..)
  | groupCancelled =>
    simp only [State.plain?, h.findGroup?, h.isCancelled]
    exact .some (h.reports ..)
  | childPhase =>
    rw [State.plain?, State.plain?, h.childPhase]
    exact .some (h.reports ..)
  | actor => exact .some (h.bindActor ..)
  | describeActor =>
    rw [State.plain?, State.plain?, h.findActor?]
    exact .some (h.reports ..)
  | pending =>
    rw [State.plain?, State.plain?, h.findActor?, h.actors]
    exact .some (h.reports ..)
  | call => exact .some (h.bindCall ..)
  | send => exact .some (h.send ..)
  | wake =>
    rw [State.plain?, State.plain?, h.parked]
    split
    · exact .some ⟨k, h, rfl⟩
    · exact .some (h.reports ..)
  | _ => exact .none

/-! ### Lines that wait -/

theorem tells (h : Twin t s k) (u : TaskId) (f : Fiber) (tag : Tag) (report : Report) :
    Turn.Twins t (s.tells u f tag report) (k.tells u f tag report) :=
  ⟨k, h, rfl⟩

theorem harvest (h : Twin t s k) (u : TaskId) (f : Fiber) (tag : Tag) (attempt : Attempt)
    (after : List Action) (x : Harvest) :
    Turn.Twins t (s.harvest u f tag attempt after x) (k.harvest u f tag attempt after x) := by
  cases x <;> exact ⟨k, h, rfl⟩

theorem suspends (h : Twin t s k) (f : Fiber) (tag : Tag) (attempt : Attempt) (wait : Wait)
    (after : List Action) :
    Turn.Twins t (s.suspends f tag attempt wait after) (k.suspends f tag attempt wait after) :=
  ⟨k, h, rfl⟩

theorem pollResource (h : Twin t s k) (u : TaskId) (r : Resource) :
    Twins t (s.pollResource u r) (k.pollResource u r) := by
  cases r with
  | handle v =>
    rw [State.pollResource, State.pollResource]
    refine (h.pollHandle v u).elim fun h found => ?_
    cases found <;> exact .both h _
  | group g => exact .both h _
  | call c =>
    rw [State.pollResource, State.pollResource]
    refine (h.pollCall c u).elim fun h found => ?_
    cases found <;> exact .both h _

theorem pollFirst (u : TaskId) (handles : List (String × TaskId)) :
    ∀ {s k : State} (seen : List (String × TaskId)), Twin t s k →
      Twins t (State.pollFirst u seen handles s) (State.pollFirst u seen handles k) := by
  induction handles with
  | nil => exact fun seen h => .both h _
  | cons x rest ih =>
    intro s k seen h
    obtain ⟨name, v⟩ := x
    rw [State.pollFirst, State.pollFirst]
    refine (h.pollHandle v u).elim fun h found => ?_
    cases found with
    | pending => exact ih _ h
    | _ => exact .both h _

theorem spin (h : Twin t s k) (u : TaskId) (f : Fiber) (tag : Tag) (turns limit : Nat) :
    Turn.Twins t (s.spin u f tag turns limit) (k.spin u f tag turns limit) := by
  unfold State.spin
  rw [h.isCancelled]
  split
  · exact h.suspends ..
  · exact h.tells ..

theorem giveWay (h : Twin t s k) (u : TaskId) (f : Fiber) (tag : Tag) (left : Nat) :
    Turn.Twins t (s.giveWay u f tag left) (k.giveWay u f tag left) := by
  unfold State.giveWay
  split
  · exact h.tells ..
  · exact h.suspends ..

theorem awaitResource (h : Twin t s k) (u : TaskId) (f : Fiber) (tag : Tag) (attempt : Attempt)
    (r : Resource) (taken : Bool) :
    Turn.Twins t (s.awaitResource u f tag attempt r taken)
      (k.awaitResource u f tag attempt r taken) := by
  unfold State.awaitResource
  refine (h.pollResource u r).elim fun h found => ?_
  cases found with
  | ready x => exact h.harvest ..
  | pending => exact h.suspends ..
  | panics message => exact ⟨_, h, rfl⟩

theorem awaitFirst (h : Twin t s k) (u : TaskId) (f : Fiber) (tag : Tag) (attempt : Attempt)
    (handles : List (String × TaskId)) :
    Turn.Twins t (s.awaitFirst u f tag attempt handles) (k.awaitFirst u f tag attempt handles) := by
  unfold State.awaitFirst
  refine (pollFirst u handles [] h).elim fun h found => ?_
  cases found with
  | ready x => exact h.harvest ..
  | pending => exact h.suspends ..
  | panics message => exact ⟨_, h, rfl⟩

theorem awaitNext (h : Twin t s k) (u : TaskId) (f : Fiber) (tag : Tag) (attempt : Attempt)
    (g : TaskId) :
    Turn.Twins t (s.awaitNext u f tag attempt g) (k.awaitNext u f tag attempt g) := by
  unfold State.awaitNext
  refine (h.pollNext g u).elim fun h found => ?_
  cases found with
  | ready x => exact h.harvest ..
  | pending => exact h.suspends ..
  | panics message => exact ⟨_, h, rfl⟩

theorem awaitAll (h : Twin t s k) (u : TaskId) (f : Fiber) (tag : Tag) (attempt : Attempt)
    (g : TaskId) (own : Bool) (tally : Tally) :
    Turn.Twins t (s.awaitAll u f tag attempt g own tally)
      (k.awaitAll u f tag attempt g own tally) := by
  unfold State.awaitAll
  refine (h.pollAll g u tally).elim fun h found => ?_
  obtain ⟨tally, found⟩ := found
  cases found with
  | ready x => exact h.harvest ..
  | pending => exact h.suspends ..
  | panics message => exact ⟨_, h, rfl⟩

theorem fill (h : Twin t s k) (u : TaskId) (f : Fiber) (tag : Tag) (attempt : Attempt) (g : TaskId)
    (plan : List PlanItem) :
    Turn.Twins t (s.fill u f tag attempt g plan) (k.fill u f tag attempt g plan) := by
  cases plan with
  | nil => exact h.awaitAll ..
  | cons item rest =>
    unfold State.fill
    dsimp only
    rw [h.groups, h.nextNode]
    split
    · exact ⟨_, h.addChild .., rfl⟩
    all_goals exact ⟨k, h, rfl⟩

/-- Another look of a line that waits does the same to twins. -/
theorem poll (h : Twin t s k) (u : TaskId) (f : Fiber) (w : Waiting) :
    Turn.Twins t (s.poll u f w) (k.poll u f w) := by
  unfold State.poll
  cases w.wait with
  | yielding left => exact h.giveWay ..
  | spinning turns limit => exact h.spin ..
  | parked => exact h.tells ..
  | awaiting r taken => exact h.awaitResource ..
  | selecting handles => exact h.awaitFirst ..
  | next g => exact h.awaitNext ..
  | all g own values failure => exact h.awaitAll ..
  | filling g plan => exact h.fill ..

/-! ### The lines of a body -/

theorem awaitNamed (h : Twin t s k) (u : TaskId) (f : Fiber) (tag : Tag) (keep : Bool)
    (attempt : Attempt) :
    Turn.Twins t (s.awaitNamed u f tag keep attempt) (k.awaitNamed u f tag keep attempt) := by
  unfold State.awaitNamed
  refine (h.adopt f.frame tag.target).elim fun h frame => ?_
  dsimp only
  split
  · exact h.tells ..
  · exact h.tells ..
  · exact h.awaitResource ..

theorem pollNamed (h : Twin t s k) (u : TaskId) (f : Fiber) (tag : Tag) (keep : Bool)
    (attempt : Attempt) :
    Turn.Twins t (s.pollNamed u f tag keep attempt) (k.pollNamed u f tag keep attempt) := by
  unfold State.pollNamed
  refine (h.adopt f.frame tag.target).elim fun h frame => ?_
  dsimp only
  cases frame.find? tag.target with
  | none => exact h.tells ..
  | some r =>
    dsimp only
    refine (h.pollResource u r).elim fun h found => ?_
    cases found with
    | ready x =>
      dsimp only
      split <;> exact h.harvest ..
    | pending => exact h.tells ..
    | panics message => exact ⟨_, h, rfl⟩

theorem adoptGroup (h : Twin t s k) (frame : Frame) (name : String) :
    Twins t (s.adoptGroup frame name) (k.adoptGroup frame name) := by
  unfold State.adoptGroup
  refine (h.adopt frame name).elim fun h frame => ?_
  dsimp only
  split <;> exact .both h _

theorem mayPause (h : Twin t s k) : k.mayPause = s.mayPause := by
  rw [State.mayPause, State.mayPause, h.active]

end Twin

end Nursery
