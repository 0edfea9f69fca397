import Nursery.Machine.Task

/-!
# Groups from outside

A group has a node of its own in the tree, and its children are attached below that.  They tell it
in the order in which they end, and its owner collects them in that order: a value is handed on, a
cancelled child is passed over, the first failure is reported and every later one is logged.

* `State.makeGroup`, `State.addChild` : a group and its children are made.
* `State.collect` : one child is collected.
* `State.pollNext`, `State.pollAll` : the next result, or all of them, are looked for.
-/

namespace Nursery

/-- What waiting for all children of a group has come to. -/
structure Tally where
  /-- The values collected so far, in the order of their children's end. -/
  values : List Int64
  /-- The failure reported so far. -/
  failure : Option GroupError

/-- The tally with one more result. -/
def Tally.add (tally : Tally) : Except GroupError Int64 → Tally
  | .ok value => { tally with values := tally.values ++ [value] }
  | .error e => { tally with failure := some e }

namespace State

/-- A group is made, below the current task if there is one. -/
def makeGroup (s : State) (c : Context) (home : RuntimeId) : State :=
  let g := s.nextNode
  let priority := (c.task.map s.priority).getD .normal
  let s := s.addNode .group priority c.task
  { s with groups := s.groups.set g { home := home }, signals := s.signals.set g {} }

/-- A child with a body is added to a group; the group is told when it ends. -/
def addChild (s : State) (g : TaskId) (group : Group) (priority : Option Priority)
    (body : List Line) : State :=
  let t := s.nextNode
  let s := s.addNode .task (priority.getD (s.priority g)) (some g)
  let s := s.launch t group.home body false
  let s := s.modifyTask t fun m =>
    { m with waiters := m.waiters ++ [.member g group.children.length t] }
  s.modifyGroup g fun m =>
    { m with children := m.children ++ [t], remaining := m.remaining + 1 }

/-- The owner of a group collects the child at a place: its value, or the failure of the group if
it is the first; a cancelled child gives nothing, and neither does a later failure. -/
def collect (s : State) (g : TaskId) (index : Nat) :
    State × Option (Except GroupError Int64) :=
  match s.groups.get? g with
  | none => (s, none)
  | some group =>
    let s := s.modifyGroup g fun m => { m with remaining := m.remaining - 1 }
    match group.children[index]? with
    | none => (s, none)
    | some t =>
      if (s.phase t).isTerminal then
        match s.takeOutcome t with
        | (s, some (.ok value)) => (s, some (.ok value))
        | (s, some (.error e)) =>
          if e.isCancelled then (s, none)
          else if group.failed then (s.log (.suppressed g t e), none)
          else (s.modifyGroup g fun m => { m with failed := true }, some (.error ⟨t, e⟩))
        | (s, none) => (s, none)
      else (s, none)

/-- The places of the children of a group that ended and were not collected. -/
def completed (s : State) (g : TaskId) : List Nat :=
  ((s.signals.get? g).map Signal.completed).getD []

/-- All children of a group were collected. -/
def drained (s : State) (g : TaskId) : Bool :=
  (s.groups.get? g).any fun group => group.remaining = 0

/-- A task waits for the next child of a group. -/
def awaitSignal (s : State) (g poller : TaskId) : State :=
  (s.modifySignal g fun m => { m with waker := some poller }).doFirst
    (((s.signals.get? g).bind Signal.waker).toList.map .forget)

/-- The next result among the children that ended, in the order of their end. -/
def nextAmong (g poller : TaskId) :
    List Nat → State → State × Polled (Option (Except GroupError Int64))
  -- whoever finds no child is registered, even if none is to come
  | [], s => (s.awaitSignal g poller, if s.drained g then .ready none else .pending)
  | index :: rest, s =>
    match (s.modifySignal g fun m => { m with completed := rest }).collect g index with
    | (s, some result) => (s, .ready (some result))
    | (s, none) => nextAmong g poller rest s

/-- A task looks for the next result of a group. -/
def pollNext (s : State) (g poller : TaskId) :
    State × Polled (Option (Except GroupError Int64)) :=
  nextAmong g poller (s.completed g) s

/-- All results among the children that ended, in the order of their end. -/
def allAmong (g poller : TaskId) :
    List Nat → Tally → State → State × Tally × Polled (Except GroupError (List Int64))
  | [], tally, s =>
    (s.awaitSignal g poller, tally,
      if s.drained g then
        .ready (match tally.failure with
          | some e => .error e
          | none => .ok tally.values)
      else .pending)
  | index :: rest, tally, s =>
    match (s.modifySignal g fun m => { m with completed := rest }).collect g index with
    | (s, some result) => allAmong g poller rest (tally.add result) s
    | (s, none) => allAmong g poller rest tally s

/-- A task looks whether all results of a group are there. -/
def pollAll (s : State) (g poller : TaskId) (tally : Tally) :
    State × Tally × Polled (Except GroupError (List Int64)) :=
  allAmong g poller (s.completed g) tally s

end State

end Nursery
