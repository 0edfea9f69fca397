import Nursery.Machine.Worker
import Nursery.Proofs.Store

/-!
# Two runs that differ in a handle

The handle of a task is dropped in one run and kept in another one.  Then the two states differ in
the mark of that task, and in whether the log says that nobody looked at its failure.  Whatever the
machine reads off the one state it reads off the other one, but who still refers to the task.

* `Twin` : a state, and what it would be if the handle had been kept.
* `Concurs` : two records of events that say the same but for that failure.
* `Twin.modifyTask`, `Twin.enqueue`, … : **a change that is made to both leaves them twins.**
* `Twin.held`, `Twin.isCancelled`, … : what is read off both is the same.
* `Twin.addNode`, `Twin.cancelNode`, `Twin.reap`, … : the tree.
-/

namespace Nursery

/-- The event says of a task that nobody looked at its failure. -/
def Event.unobserves (t : TaskId) : Event → Bool
  | .logged (.unobserved u _) => u = t
  | _ => false

/-- Two records say the same, but for the failure of a task that nobody looked at. -/
def Concurs (t : TaskId) (a b : Array Event) : Prop :=
  a.toList.filter (fun e => !e.unobserves t) = b.toList.filter (fun e => !e.unobserves t)

/-- A task as it would be if the handle of a given one had been kept. -/
def Task.keptAs (t u : TaskId) (m : Task) : Task :=
  { m with
    handleDropped := t ≠ u && m.handleDropped
    reported := t ≠ u && m.reported }

/-- A state, and what it would be if the handle of a task had been kept. -/
structure Twin (t : TaskId) (s k : State) : Prop where
  /-- The task has its handle. -/
  tasks : k.tasks = s.tasks.map (Task.keptAs t)
  /-- Of its failure nothing is said. -/
  alike : Concurs t s.trace k.trace
  /-- The nodes are the same. -/
  nodes : k.nodes = s.nodes
  /-- The groups are the same. -/
  groups : k.groups = s.groups
  /-- The signals are the same. -/
  signals : k.signals = s.signals
  /-- The calls are the same. -/
  calls : k.calls = s.calls
  /-- The actors are the same. -/
  actors : k.actors = s.actors
  /-- The runtimes are the same. -/
  runtimes : k.runtimes = s.runtimes
  /-- The places are the same. -/
  places : k.places = s.places
  /-- The shared table is the same. -/
  shared : k.shared = s.shared
  /-- The actors have the same names. -/
  actorNames : k.actorNames = s.actorNames
  /-- The same tasks are parked. -/
  parked : k.parked = s.parked
  /-- The tasks have the same names. -/
  taskNames : k.taskNames = s.taskNames
  /-- As many markers were used. -/
  markers : k.markers = s.markers
  /-- The same remains to be done. -/
  agenda : k.agenda = s.agenda
  /-- The same panic unwinds. -/
  unwinding : k.unwinding = s.unwinding
  /-- The same worker was let go on. -/
  active : k.active = s.active
  /-- The last worker stopped for the same reason. -/
  stopped : k.stopped = s.stopped

variable {s s' k k' : State} {t u n : TaskId} {m : Task}

theorem Concurs.refl (t : TaskId) (a : Array Event) : Concurs t a a :=
  rfl

theorem Concurs.push {a b : Array Event} (h : Concurs t a b) (e : Event) :
    Concurs t (a.push e) (b.push e) := by
  simp only [Concurs, Array.toList_push, List.filter_append]
  exact congrArg (· ++ _) h

/-- One of the records says of the failure that nobody looked at it. -/
theorem Concurs.unobserved {a b : Array Event} (h : Concurs t a b) {e : Event}
    (mine : e.unobserves t = true) : Concurs t (a.push e) b := by
  simp only [Concurs, Array.toList_push, List.filter_append, List.filter_singleton, mine,
    Bool.not_true, cond_false, List.append_nil]
  exact h

theorem Task.keptAs_of_ne (other : t ≠ u) (m : Task) : m.keptAs t u = m := by
  simp [keptAs, other]

theorem Task.keptAs_self (m : Task) :
    m.keptAs t t = { m with handleDropped := false, reported := false } := by
  simp [keptAs]

theorem Task.keptAs_of_fresh (held : m.handleDropped = false) (unreported : m.reported = false) :
    m.keptAs t u = m := by
  cases m
  simp_all [keptAs]

namespace Twin

/-! ### Changes -/

theorem tell (h : Twin t s k) (e : Event) : Twin t (s.tell e) (k.tell e) :=
  { h with alike := h.alike.push e }

theorem log (h : Twin t s k) (e : LogEntry) : Twin t (s.log e) (k.log e) :=
  h.tell _

theorem doFirst (h : Twin t s k) (as : List Action) : Twin t (s.doFirst as) (k.doFirst as) :=
  { h with agenda := congrArg (as ++ ·) h.agenda }

theorem doLast (h : Twin t s k) (as : List Action) :
    Twin t { s with agenda := s.agenda ++ as } { k with agenda := k.agenda ++ as } :=
  { h with agenda := congrArg (· ++ as) h.agenda }

theorem modifyNode (h : Twin t s k) (n : TaskId) (f : Node → Node) :
    Twin t (s.modifyNode n f) (k.modifyNode n f) :=
  { h with nodes := congrArg (·.modify n f) h.nodes }

/-- A task changes, but not in the marks that the handle has left. -/
theorem modifyTask (h : Twin t s k) (u : TaskId) {f : Task → Task}
    (blind : ∀ m, f (m.keptAs t u) = (f m).keptAs t u) :
    Twin t (s.modifyTask u f) (k.modifyTask u f) :=
  { h with tasks := (congrArg (·.modify u f) h.tasks).trans (Store.modify_map blind) }

theorem modifyGroup (h : Twin t s k) (g : TaskId) (f : Group → Group) :
    Twin t (s.modifyGroup g f) (k.modifyGroup g f) :=
  { h with groups := congrArg (·.modify g f) h.groups }

theorem modifySignal (h : Twin t s k) (g : TaskId) (f : Signal → Signal) :
    Twin t (s.modifySignal g f) (k.modifySignal g f) :=
  { h with signals := congrArg (·.modify g f) h.signals }

theorem modifyCall (h : Twin t s k) (c : CallId) (f : Call → Call) :
    Twin t (s.modifyCall c f) (k.modifyCall c f) :=
  { h with calls := congrArg (·.modify c f) h.calls }

theorem modifyActor (h : Twin t s k) (a : ActorId) (f : Actor → Actor) :
    Twin t (s.modifyActor a f) (k.modifyActor a f) :=
  { h with actors := congrArg (·.modify a f) h.actors }

theorem modifyRuntime (h : Twin t s k) (r : RuntimeId) (f : Runtime → Runtime) :
    Twin t (s.modifyRuntime r f) (k.modifyRuntime r f) :=
  { h with runtimes := congrArg (·.modify r f) h.runtimes }

theorem setPhase (h : Twin t s k) (u : TaskId) (p : Phase) :
    Twin t (s.setPhase u p) (k.setPhase u p) :=
  h.modifyNode u _

theorem setSlice (h : Twin t s k) (r : RuntimeId) (slice : Option Slice) :
    Twin t (s.setSlice r slice) (k.setSlice r slice) :=
  h.modifyRuntime r _

theorem panic (h : Twin t s k) (message : String) (as : List Action) :
    Twin t { s with unwinding := some message, agenda := s.agenda ++ as }
      { k with unwinding := some message, agenda := k.agenda ++ as } :=
  { h with unwinding := rfl, agenda := congrArg (· ++ as) h.agenda }

theorem pause (h : Twin t s k) :
    Twin t { s with active := none, stopped := some .held }
      { k with active := none, stopped := some .held } :=
  { h with active := rfl, stopped := rfl }

/-! ### What is read -/

theorem get? (h : Twin t s k) (u : TaskId) :
    k.tasks.get? u = (s.tasks.get? u).map (Task.keptAs t u) := by
  rw [h.tasks, Store.get?_map]

theorem get?_of_ne (h : Twin t s k) (other : t ≠ u) : k.tasks.get? u = s.tasks.get? u := by
  rw [h.get?, funext (Task.keptAs_of_ne other)]
  exact Option.map_id_apply

theorem bind {α : Type} (h : Twin t s k) (u : TaskId) {f : Task → Option α}
    (blind : ∀ m, f (m.keptAs t u) = f m) : (k.tasks.get? u).bind f = (s.tasks.get? u).bind f := by
  rw [h.get?, Option.bind_map]
  exact congrArg _ (funext blind)

theorem phase (h : Twin t s k) (u : TaskId) : k.phase u = s.phase u := by
  rw [State.phase, State.phase, h.nodes]

theorem priority (h : Twin t s k) (n : TaskId) : k.priority n = s.priority n := by
  rw [State.priority, State.priority, h.nodes]

theorem flagged (h : Twin t s k) (n : TaskId) : k.flagged n = s.flagged n := by
  rw [State.flagged, State.flagged, h.nodes]

theorem children (h : Twin t s k) (n : TaskId) : k.children n = s.children n := by
  rw [State.children, State.children, h.nodes]

theorem nextNode (h : Twin t s k) : k.nextNode = s.nextNode := by
  rw [State.nextNode, State.nextNode, h.nodes]

theorem slice (h : Twin t s k) (r : RuntimeId) : k.slice r = s.slice r := by
  rw [State.slice, State.slice, h.runtimes]

theorem closed (h : Twin t s k) (r : RuntimeId) : k.closed r = s.closed r := by
  rw [State.closed, State.closed, h.runtimes]

theorem inBody (h : Twin t s k) : k.inBody = s.inBody := by
  have fiber : ∀ u, (k.tasks.get? u).bind Task.fiber = (s.tasks.get? u).bind Task.fiber := fun u =>
    h.bind u fun _ => rfl
  rw [State.inBody, State.inBody, h.active]
  simp only [h.slice, fiber]

theorem enqueue (h : Twin t s k) (r : RuntimeId) (p : Priority) (e : Entry) :
    Twin t (s.enqueue r p e) (k.enqueue r p e) := by
  unfold State.enqueue
  rw [h.closed]
  split
  · exact h.doFirst _
  · exact h.modifyRuntime r _

/-! ### Who keeps what alive -/

theorem signalAlive (h : Twin t s k) (g : TaskId) : k.signalAlive g = s.signalAlive g := by
  rw [State.signalAlive, State.signalAlive, h.groups, h.tasks, h.agenda, Store.any_map]
  rfl

theorem registered (h : Twin t s k) (u : TaskId) : k.registered u = s.registered u := by
  rw [State.registered, State.registered, h.tasks, h.signals, h.calls, h.parked, h.nodes,
    Store.any_map]
  simp only [h.signalAlive]
  rfl

/-- Whether somebody refers to another task. -/
theorem held (h : Twin t s k) (other : t ≠ u) : k.held u = s.held u := by
  rw [State.held, State.held, h.get?_of_ne other, h.runtimes, h.agenda, h.registered]

theorem held_self (h : Twin t s k) (there : s.tasks.get? t = some m) : k.held t = true := by
  rw [State.held, h.get?, there, Option.map_some, Task.keptAs_self]
  simp

theorem rooted (h : Twin t s k) (n : TaskId) : k.rooted n = s.rooted n := by
  rw [State.rooted, State.rooted, h.tasks, Store.contains_map, h.groups, h.signalAlive]

theorem aliveWithin (h : Twin t s k) (steps : Nat) :
    ∀ n, k.aliveWithin steps n = s.aliveWithin steps n := by
  induction steps with
  | zero => exact h.rooted
  | succ steps ih =>
    intro n
    rw [State.aliveWithin, State.aliveWithin, h.rooted, h.nodes]
    simp only [h.children, ih]

theorem alive (h : Twin t s k) (n : TaskId) : k.alive n = s.alive n :=
  h.aliveWithin n.index n

theorem livingParent (h : Twin t s k) (n : TaskId) : k.livingParent n = s.livingParent n := by
  rw [State.livingParent, State.livingParent, h.nodes, funext h.alive]

theorem cancelledWithin (h : Twin t s k) (steps : Nat) :
    ∀ n, k.cancelledWithin steps n = s.cancelledWithin steps n := by
  induction steps with
  | zero => exact h.flagged
  | succ steps ih =>
    intro n
    rw [State.cancelledWithin, State.cancelledWithin, h.flagged, h.livingParent]
    simp only [ih]

theorem isCancelled (h : Twin t s k) (n : TaskId) : k.isCancelled n = s.isCancelled n :=
  h.cancelledWithin n.index n

/-! ### The tree -/

theorem addNode (h : Twin t s k) (kind : NodeKind) (priority : Priority) (parent : Option TaskId) :
    Twin t (s.addNode kind priority parent) (k.addNode kind priority parent) := by
  have set : ∀ {s k : State} (_ : Twin t s k) (n : TaskId) (m : Node),
      Twin t { s with nodes := s.nodes.set n m } { k with nodes := k.nodes.set n m } :=
    fun h n m => { h with nodes := congrArg (·.set n m) h.nodes }
  unfold State.addNode
  cases parent with
  | none =>
    rw [h.nextNode]
    exact set h _ _
  | some p =>
    simp only [h.nextNode, h.flagged]
    split
    · exact (set (h.modifyNode p _) _ _).log _
    · exact set (h.modifyNode p _) _ _

theorem cancelNode (h : Twin t s k) (n : TaskId) : Twin t (s.cancelNode n) (k.cancelNode n) := by
  unfold State.cancelNode
  rw [h.nodes]
  cases s.nodes.get? n with
  | none => exact h
  | some node =>
    dsimp only
    split
    · exact h
    · exact ((h.modifyNode n _).log _).doFirst _

theorem finishNode (h : Twin t s k) (n : TaskId) : Twin t (s.finishNode n) (k.finishNode n) := by
  have left := h.modifyNode n fun m => { m with finished := true }
  unfold State.finishNode
  simp only [left.children]
  split
  · exact left.doFirst _
  · exact left

theorem reap (h : Twin t s k) (p n : TaskId) : Twin t (s.reap p n) (k.reap p n) := by
  unfold State.reap
  rw [h.nodes]
  cases s.nodes.get? p with
  | none => exact h
  | some node =>
    dsimp only
    split
    · exact ((h.modifyNode p _).log _).doFirst _
    · exact (h.modifyNode p _).log _

theorem detachNode (h : Twin t s k) (n : TaskId) : Twin t (s.detachNode n) (k.detachNode n) := by
  unfold State.detachNode
  rw [h.nodes, h.livingParent]
  cases s.nodes.get? n with
  | none => exact h
  | some node =>
    dsimp only
    split
    · exact h
    · cases s.livingParent n with
      | none => exact h.modifyNode n _
      | some p => exact (h.modifyNode n _).reap p n

end Twin

end Nursery
