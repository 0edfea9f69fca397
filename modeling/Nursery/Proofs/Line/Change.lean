import Nursery.Machine.Worker
import Nursery.Proofs.Log
import Nursery.Proofs.Store
import Mathlib.Logic.Relation

/-!
# What a line can change

A line of a body, of a handler or of the main thread changes the state in a few ways only, and
while it runs it has some resources in hand: those of its frame, those it makes, those it has
taken out of the shared table.  `Change` lists the ways, each with what licenses it.  Every line is
a sequence of them, so an invariant has to be checked for each kind of change once.

* `Fiber.looks`, `State.Looks` : a line looks at a group, and may collect its children.
* `Change` : one change to the state and to the hand.
* `Changes` : a sequence of them.
* `State.doLast` : what a line leaves to be done is put behind the rest of the agenda.
-/

namespace Nursery

namespace State

/-- The state with more to be done last. -/
def doLast (s : State) (actions : List Action) : State :=
  { s with agenda := s.agenda ++ actions }

@[simp]
theorem doLast_nil (s : State) : s.doLast [] = s := by
  simp [doLast]

theorem doLast_append (s : State) (as bs : List Action) :
    s.doLast (as ++ bs) = (s.doLast as).doLast bs := by
  simp [doLast]

theorem doLast_cons (s : State) (a : Action) (as : List Action) :
    s.doLast (a :: as) = (s.doLast [a]).doLast as := by
  simp [doLast]

end State

/-! ### Who may collect -/

/-- A look of a suspended line is one at a group. -/
def Wait.looks : Wait → Bool
  | .next _ | .all .. | .filling _ [] => true
  | _ => false

/-- A line looks at a group. -/
def Act.looks : Act → Bool
  | .next _ | .all _ => true
  | _ => false

/-- What a body does next is to look at a group. -/
def Fiber.looks (f : Fiber) : Bool :=
  f.begun &&
    match f.waiting, f.code with
    | some w, _ => w.wait.looks
    | none, .mk _ act :: _ => act.looks
    | none, [] => false

/-- The current task looks at a group: that is what its body, as it is stored, does next. -/
structure State.Looks (s : State) (c : Context) : Prop where
  /-- The body of a task is at work, and looks. -/
  body : ∃ home t task f, c = ⟨.task t, some home⟩ ∧ s.slice home = some (.task t .polling) ∧
    s.tasks.get? t = some task ∧ task.fiber = some f ∧ f.looks = true
  /-- It is not panicking. -/
  calm : s.unwinding = none

/-- A change to a task that leaves its body alone. -/
theorem State.Looks.modifyTask {s : State} {c : Context} (h : s.Looks c) {u : TaskId}
    {f : Task → Task} (same : ∀ m, (f m).fiber = m.fiber) : (s.modifyTask u f).Looks c := by
  obtain ⟨⟨home, t, task, fiber, here, during, found, stored, looks⟩, calm⟩ := h
  refine ⟨⟨home, t, if u = t then f task else task, fiber, here, during, ?_, ?_, looks⟩, calm⟩
  · exact Store.get?_modify_eq_some.2 ⟨task, found, rfl⟩
  · split
    · rw [same, stored]
    · exact stored

/-- One change that a line makes in a context, to the state and to the resources in hand. -/
inductive Change (c : Context) (s : State) (hand : List Resource) :
    State → List Resource → Prop where
  /-- Something is told or logged; that a failure was suppressed, only where one is collected. -/
  | tell (e : Event) (fair : e.loss? = none ∨ s.Looks c) (mild : e.outcry? = none) :
      Change c s hand (s.tell e) hand
  /-- Resources are put in another order, or one is lost sight of. -/
  | shed {hand' : List Resource} (less : ∀ r, hand'.count r ≤ hand.count r) :
      Change c s hand s hand'
  /-- The names of the tasks change. -/
  | nameTask (names : Store String TaskId) : Change c s hand { s with taskNames := names } hand
  /-- A task is made, as a child of the current one or as a root. -/
  | spawn {home : RuntimeId} {parent : Option TaskId} (priority : Priority) (body : List Line)
      (idle : s.agenda = [])
      (built : c.home = some home ∨ parent = none ∧ ∃ place, s.places.get? place = some home)
      (up : parent = none ∨ parent = c.task) :
      Change c s hand ((s.addNode .task priority parent).launch s.nextNode home body false)
        (.handle s.nextNode :: hand)
  /-- A group is made. -/
  | group {home : RuntimeId} (idle : s.agenda = []) (here : c.home = some home) :
      Change c s hand (s.makeGroup c home) (.group s.nextNode :: hand)
  /-- A child is added to a group in hand. -/
  | add {g : TaskId} {group : Group} (priority : Option Priority) (body : List Line)
      (idle : s.agenda = []) (mine : .group g ∈ hand) (found : s.groups.get? g = some group) :
      Change c s hand (s.addChild g group priority body) hand
  /-- A resource is taken out of the shared table. -/
  | adopt {name : String} {r : Resource} (found : s.shared.find? name = some r) :
      Change c s hand { s with shared := s.shared.without name } (r :: hand)
  /-- A resource goes into the shared table, and what was there is in hand. -/
  | share {r : Resource} {rest : List Resource} (name : String) (mine : hand = r :: rest) :
      Change c s hand { s with shared := s.shared.bind name r }
        ((s.shared.find? name).toList ++ rest)
  /-- An actor is made under a name. -/
  | actor (name : String) (priority : Priority) (init : List Int64) :
      Change c s hand
        { s with
          actors := s.actors.set ⟨s.actors.size⟩ { priority := priority, state := init }
          actorNames := s.actorNames.set name ⟨s.actors.size⟩ } hand
  /-- An actor is called. -/
  | call {a : ActorId} {home : RuntimeId} (handler : List Line) (idle : s.agenda = [])
      (here : c.home = some home) (other : c.actor ≠ some a)
      (named : ∃ name, s.actorNames.get? name = some a) :
      Change c s hand
        ({ s with calls := s.calls.set s.nextCall { accepted := true } }.post a home
          ⟨handler, some s.nextCall⟩)
        (.call s.nextCall :: hand)
  /-- A call is refused. -/
  | refuse (e : ActorError) : Change c s hand (s.refuse e) (.call s.nextCall :: hand)
  /-- A message is sent to an actor. -/
  | send {a : ActorId} {home : RuntimeId} (handler : List Line) (idle : s.agenda = [])
      (here : c.home = some home) : Change c s hand (s.post a home ⟨handler, none⟩) hand
  /-- The current task registers with a task whose handle is in hand. -/
  | register {t u : TaskId} (me : c.task = some t) (mine : .handle u ∈ hand)
      (ongoing : (s.phase u).isTerminal = false) :
      Change c s hand (s.modifyTask u fun m => { m with waiters := m.waiters ++ [.task t] }) hand
  /-- The outcome of a task that has ended is taken through its handle or its group. -/
  | take {t : TaskId} (ended : (s.phase t).isTerminal = true)
      (mine : .handle t ∈ hand ∨
        ∃ g group, .group g ∈ hand ∧ s.groups.get? g = some group ∧ t ∈ group.children)
      (fair : .handle t ∈ hand ∨ s.Looks c) :
      Change c s hand (s.modifyTask t fun m => { m with outcome := none }) hand
  /-- The reply of a call in hand is taken. -/
  | learn {k : CallId} (mine : .call k ∈ hand) :
      Change c s hand (s.modifyCall k fun m => { m with outcome := none }) hand
  /-- The current task waits for the reply of a call in hand. -/
  | expect {t : TaskId} {k : CallId} {call : Call} (idle : s.agenda = []) (me : c.task = some t)
      (mine : .call k ∈ hand) (found : s.calls.get? k = some call)
      (open_ : call.outcome = none) (accepted : call.accepted = true) :
      Change c s hand
        ((s.modifyCall k fun m => { m with waker := some t }).doFirst
          (call.waker.toList.map .forget)) hand
  /-- A child is taken off the list of those that ended and were not collected. -/
  | draw {g : TaskId} {index : Nat} {rest : List Nat} (mine : .group g ∈ hand)
      (ready : s.completed g = index :: rest) (fair : s.Looks c) :
      Change c s hand
        ((s.modifySignal g fun m => { m with completed := rest }).modifyGroup g fun m =>
          { m with remaining := m.remaining - 1 }) hand
  /-- The failure of a group is reported. -/
  | fail {g : TaskId} (mine : .group g ∈ hand) (fair : s.Looks c) :
      Change c s hand (s.modifyGroup g fun m => { m with failed := true }) hand
  /-- The current task waits for the next child of a group in hand. -/
  | listen {t g : TaskId} (idle : s.agenda = []) (me : c.task = some t) (mine : .group g ∈ hand)
      (none_ready : s.completed g = []) (fair : s.Looks c) :
      Change c s hand (s.awaitSignal g t) hand
  /-- The waker of the current task is stored under a name. -/
  | park {t : TaskId} (name : String) (me : c.task = some t) :
      Change c s hand
        ({ s with parked := s.parked.set name t }.doLast
          ((s.parked.get? name).toList.map .forget)) hand
  /-- A handler changes the state of its actor. -/
  | state {a : ActorId} (me : c.actor = some a) (xs : List Int64) :
      Change c s hand (s.setActorState a xs) hand
  /-- Something is to be told. -/
  | record (e : Event) (fair : e.Fair) :
      Change c s hand (s.doLast [.record e]) hand
  /-- A resource in hand is to be dropped. -/
  | release {r : Resource} {rest : List Resource} (mine : hand = r :: rest) :
      Change c s hand (s.doLast [.release r]) rest
  /-- A node is to be cancelled. -/
  | cancel (n : TaskId) : Change c s hand (s.doLast [.cancel n]) hand
  /-- A task is to be woken: the current one, or one that parked. -/
  | wake {t : TaskId} (idle : s.agenda = [])
      (known : c.task = some t ∨ ∃ name, s.parked.get? name = some t) :
      Change c s hand (s.doLast [.wake (.task t)]) hand

/-- A sequence of changes. -/
def Changes (c : Context) (s : State) (hand : List Resource) (s' : State)
    (hand' : List Resource) : Prop :=
  Relation.ReflTransGen (fun x y : State × List Resource => Change c x.1 x.2 y.1 y.2)
    (s, hand) (s', hand')

/-- What a line tells about itself is no suppressed failure, and no group that was dropped. -/
theorem Tag.fair_events (tag : Tag) (who : Speaker) (report : Report) :
    ∀ e ∈ tag.events who report, e.Fair := by
  intro e he
  unfold Tag.events at he
  split at he
  · cases he
  · rw [List.mem_singleton.1 he]
    exact ⟨rfl, rfl⟩

namespace Changes

variable {c : Context} {s s' s'' : State} {hand hand' hand'' : List Resource}

theorem refl : Changes c s hand s hand :=
  Relation.ReflTransGen.refl

theorem single (h : Change c s hand s' hand') : Changes c s hand s' hand' :=
  Relation.ReflTransGen.single h

theorem tail (h : Changes c s hand s' hand') (h' : Change c s' hand' s'' hand'') :
    Changes c s hand s'' hand'' :=
  Relation.ReflTransGen.tail h h'

theorem trans (h : Changes c s hand s' hand') (h' : Changes c s' hand' s'' hand'') :
    Changes c s hand s'' hand'' :=
  Relation.ReflTransGen.trans h h'

theorem invariant {I : State → List Resource → Prop} (h : Changes c s hand s' hand')
    (step : ∀ {s s' hand hand'}, Change c s hand s' hand' → I s hand → I s' hand')
    (h₀ : I s hand) : I s' hand' := by
  have key : ∀ x y : State × List Resource,
      Relation.ReflTransGen (fun x y => Change c x.1 x.2 y.1 y.2) x y → I x.1 x.2 → I y.1 y.2 := by
    intro x y hxy hx
    induction hxy with
    | refl => exact hx
    | tail _ hc ih => exact step hc ih
  exact key _ _ h h₀

theorem shed (less : ∀ r, hand'.count r ≤ hand.count r) : Changes c s hand s hand' :=
  single (.shed less)

theorem records (es : List Event) (fair : ∀ e ∈ es, e.Fair) :
    Changes c s hand (s.doLast (es.map .record)) hand := by
  induction es generalizing s with
  | nil =>
    rw [List.map_nil, State.doLast_nil]
    exact refl
  | cons e es ih =>
    rw [List.map_cons, State.doLast_cons]
    exact (single (.record e (fair e List.mem_cons_self))).trans
      (ih fun e he => fair e (List.mem_cons_of_mem _ he))

theorem tells (tag : Tag) (who : Speaker) (report : Report) :
    Changes c s hand (s.doLast (tag.tells who report)) hand :=
  records _ (tag.fair_events who report)

theorem releases (rs : List Resource) :
    Changes c s (rs ++ hand) (s.doLast (rs.map .release)) hand := by
  induction rs generalizing s with
  | nil =>
    rw [List.map_nil, State.doLast_nil]
    exact refl
  | cons r rs ih =>
    rw [List.map_cons, State.doLast_cons]
    exact (single (.release rfl)).trans ih

end Changes

end Nursery
