import Nursery.Proofs.Line.Wait
import Nursery.Proofs.Node
import Nursery.Proofs.Program.Evaluation

/-!
# What the body of a program does next

The body of a program has few things to do: it goes on with the next line, gives way, spawns a
task, looks at a task that it waits for, or comes to its end.  A look finds the outcome, or that it
was taken before, or nothing yet.

* `Fiber.Isolated` : what is left of a body is left of a program.
* `Fiber.Passes`, `Fiber.Gives`, `Fiber.Looks`, `Fiber.Ends` : how far a body has got.
* `Pace` : the turns of a program.
* `State.bodyStep_pace` : it has no other ones.
-/

namespace Nursery

/-- A program waits for its turn or for a task. -/
def Wait.isolated : Wait → Bool
  | .yielding _ | .awaiting (.handle _) _ => true
  | _ => false

/-- What is left of a body is left of a program: it has handles of tasks and nothing else. -/
structure Fiber.Isolated (f : Fiber) : Prop where
  /-- The lines that remain are those of a program. -/
  code : linesIsolated f.code = true
  /-- It owns handles only. -/
  frame : ∀ r ∈ f.frame.resources, ∃ u, r = .handle u
  /-- It waits for its turn or for a task. -/
  waiting : ∀ w, f.waiting = some w → w.wait.isolated = true

/-- A body gets from one line to the next. -/
inductive Fiber.Passes (f : Fiber) : Fiber → Prop where
  /-- It begins. -/
  | begin (new : f.begun = false) : Passes f { f with begun := true }
  /-- It has had its turn. -/
  | given {tag : Tag} {attempt : Attempt} {left : Nat}
      (waits : f.waiting = some ⟨tag, attempt, .yielding left⟩) :
      Passes f { f with waiting := none }
  /-- A line does nothing that matters. -/
  | skip {tag : Tag} {act : Act} {rest : List Line} (free : f.waiting = none)
      (code : f.code = .mk tag act :: rest)
      (what : (∃ value, act = .note value) ∨ (∃ body, act = .loop 0 body) ∨ act = .yieldTimes 0) :
      Passes f { f with code := rest }
  /-- A loop goes round. -/
  | again {tag : Tag} {left : Nat} {body rest : List Line} (free : f.waiting = none)
      (code : f.code = .mk tag (.loop (left + 1) body) :: rest) :
      Passes f { f with code := body ++ .mk tag (.loop left body) :: rest }
  /-- There is nobody under the name to wait for. -/
  | missing {tag : Tag} {keep : Bool} {attempt : Attempt} {rest : List Line}
      (free : f.waiting = none) (code : f.code = .mk tag (.await keep attempt) :: rest)
      (nobody : f.frame.find? tag.target = none) : Passes f { f with code := rest }

/-- A body gives way. -/
inductive Fiber.Gives (f : Fiber) : Fiber → Prop where
  /-- For the first time in a line. -/
  | first {tag : Tag} {left : Nat} {rest : List Line} (free : f.waiting = none)
      (code : f.code = .mk tag (.yieldTimes (left + 1)) :: rest) :
      Gives f { f with code := rest, waiting := some ⟨tag, .report, .yielding (left + 1)⟩ }
  /-- Once more. -/
  | again {tag : Tag} {attempt : Attempt} {left : Nat}
      (waits : f.waiting = some ⟨tag, attempt, .yielding (left + 2)⟩) :
      Gives f { f with waiting := some ⟨tag, .report, .yielding (left + 1)⟩ }

/-- A body looks at a task that it waits for, and goes on from some point when it ends. -/
inductive Fiber.Looks (f : Fiber) (tag : Tag) (attempt : Attempt) (u : TaskId) :
    Bool → Fiber → Prop where
  /-- For the first time in a line. -/
  | first {keep : Bool} {rest : List Line} (free : f.waiting = none)
      (code : f.code = .mk tag (.await keep attempt) :: rest)
      (found : f.frame.find? tag.target = some (.handle u)) :
      Looks f tag attempt u (!keep)
        { f with
          code := rest
          frame := if keep then f.frame else f.frame.without tag.target }
  /-- Once more. -/
  | again {taken : Bool} (waits : f.waiting = some ⟨tag, attempt, .awaiting (.handle u) taken⟩) :
      Looks f tag attempt u taken { f with waiting := none }

/-- A body comes to its end with a result. -/
inductive Fiber.Ends (f : Fiber) : Except TaskError Int64 → Prop where
  /-- There is no line left. -/
  | out (free : f.waiting = none) (code : f.code = []) : Ends f (.ok 0)
  /-- It returns a value. -/
  | value {tag : Tag} {value : Option Int64} {measure : Option Measure} {rest : List Line}
      (free : f.waiting = none) (code : f.code = .mk tag (.ret value measure) :: rest) :
      Ends f (.ok (value.getD f.sum))
  /-- It fails. -/
  | error {tag : Tag} {message : String} {cause : Option String} {rest : List Line}
      (free : f.waiting = none) (code : f.code = .mk tag (.fail message cause) :: rest) :
      Ends f (.error (.failed ⟨message, cause.toList⟩))

/-- The body that is left when a line has spawned a task under a name. -/
def Fiber.spawned (f : Fiber) (rest : List Line) (name : String) (u : TaskId) : Fiber :=
  { f with code := rest, frame := f.frame.bind name (.handle u) }

/-- The turns of the body of a program. -/
inductive Pace (s : State) (home : RuntimeId) (t : TaskId) (f : Fiber) : Turn → Prop where
  /-- It gets to the next line. -/
  | pass {f' : Fiber} (trace : Array Event) (told : List Event) (passes : f.Passes f') :
      Pace s home t f
        { state := { s with trace := trace }, fiber := f', after := told.map .record }
  /-- It gives way. -/
  | give {f' : Fiber} (gives : f.Gives f') :
      Pace s home t f
        { state := s, fiber := f', after := [.wake (.task t)], flow := .suspend }
  /-- It spawns a task. -/
  | spawn {tag : Tag} {detached : Bool} {body rest : List Line} {parent : Option TaskId}
      (band : Option Priority) (priority : Priority) (names : Store String TaskId)
      (told : List Event) (free : f.waiting = none)
      (code : f.code = .mk tag (.spawn band detached body) :: rest)
      (up : parent = none ∨ parent = some t) :
      Pace s home t f
        { state :=
            { (s.addNode .task priority parent).launch s.nextNode home body false with
              taskNames := names }
          fiber := f.spawned rest tag.binding s.nextNode
          after := (f.frame.find? tag.binding).toList.map .release ++ told.map .record }
  /-- It looks at a task that has not ended. -/
  | pending {tag : Tag} {attempt : Attempt} {u : TaskId} {taken : Bool} {f' : Fiber}
      (looks : f.Looks tag attempt u taken f') (ongoing : (s.phase u).isTerminal = false) :
      Pace s home t f
        ((s.modifyTask u fun m => { m with waiters := m.waiters ++ [.task t] }).suspends f' tag
          attempt (.awaiting (.handle u) taken) [])
  /-- It looks at a task that has ended, and takes the outcome. -/
  | learn {tag : Tag} {attempt : Attempt} {u : TaskId} {taken : Bool} {f' : Fiber}
      {outcome : Except TaskError Int64} (looks : f.Looks tag attempt u taken f')
      (ended : (s.phase u).isTerminal = true)
      (there : (s.tasks.get? u).bind Task.outcome = some outcome) :
      Pace s home t f
        ((s.modifyTask u fun m => { m with outcome := none }).harvest t f' tag attempt
          (if taken then [.release (.handle u)] else []) (.ofTask outcome))
  /-- It looks at a task whose outcome was taken before. -/
  | gone {tag : Tag} {attempt : Attempt} {u : TaskId} {taken : Bool} {f' : Fiber}
      (looks : f.Looks tag attempt u taken f') (ended : (s.phase u).isTerminal = true)
      (none : (s.tasks.get? u).bind Task.outcome = none) :
      Pace s home t f
        { state := s.modifyTask u fun m => { m with outcome := .none }, fiber := f',
          flow := .panic "task handle polled after completion"
            (if taken then [.handle u] else []) }
  /-- It comes to its end. -/
  | finish {result : Except TaskError Int64} {code : List Line} (ends : f.Ends result)
      (left : f.code = code ∨ ∃ line, f.code = line :: code) :
      Pace s home t f
        { state := s, fiber := { f with code := code }, flow := .finish result }
  /-- It panics. -/
  | panic {tag : Tag} {payload : Payload} {rest : List Line} (trace : Array Event)
      (free : f.waiting = none) (code : f.code = .mk tag (.panic payload) :: rest) :
      Pace s home t f
        { state := { s with trace := trace }, fiber := { f with code := rest },
          flow := .panic payload.message [] }

/-- The body of a program does not pause its worker. -/
theorem Pace.goes {s : State} {home : RuntimeId} {t : TaskId} {f : Fiber} {turn : Turn}
    (pace : Pace s home t f turn) : turn.flow.pauses = false := by
  cases pace with
  | @learn tag attempt u taken f' outcome =>
    cases outcome with
    | ok value => rfl
    | error e => cases attempt <;> rfl
  | _ => rfl

/-! ### What is left of a program -/

namespace Fiber

variable {f f' : Fiber} {tag : Tag} {act : Act} {rest : List Line}

/-- A line of a program, and what comes after it. -/
theorem Isolated.line (h : f.Isolated) (code : f.code = .mk tag act :: rest) :
    act.isolated = true ∧ linesIsolated rest = true := by
  have := h.code
  rwa [code, linesIsolated, Bool.and_eq_true] at this

/-- A program owns nothing but handles. -/
theorem Isolated.resources (h : f.Isolated) : ∀ r ∈ f.resources, ∃ u, r = .handle u := by
  intro r hr
  rcases List.mem_append.1 hr with hr | hr
  · cases hw : f.waiting with
    | none =>
      rw [hw] at hr
      cases hr
    | some w =>
      rw [hw] at hr
      have allowed := h.waiting w hw
      obtain ⟨tag, attempt, wait⟩ := w
      cases wait with
      | awaiting r' taken =>
        cases r' with
        | handle u =>
          cases taken with
          | true => exact ⟨u, List.mem_singleton.1 hr⟩
          | false => cases hr
        | _ => cases allowed
      | yielding left => cases hr
      | _ => cases allowed
  · exact h.frame r hr

theorem Passes.isolated (h : f.Isolated) (passes : f.Passes f') : f'.Isolated := by
  cases passes with
  | begin => exact { h with }
  | given => exact { h with waiting := fun w hw => (by cases hw) }
  | skip free code => exact { h with code := (h.line code).2 }
  | @again tag left body rest free code =>
    obtain ⟨inside, after⟩ := h.line code
    refine { h with code := ?_ }
    rw [linesIsolated_append, linesIsolated, Bool.and_eq_true, Bool.and_eq_true]
    exact ⟨inside, inside, after⟩
  | missing free code => exact { h with code := (h.line code).2 }

theorem Gives.isolated (h : f.Isolated) (gives : f.Gives f') : f'.Isolated := by
  cases gives with
  | first free code =>
    exact { h with code := (h.line code).2, waiting := fun w hw => (by cases hw; rfl) }
  | again => exact { h with waiting := fun w hw => (by cases hw; rfl) }

theorem Looks.isolated {attempt : Attempt} {u : TaskId} {taken : Bool} (h : f.Isolated)
    (looks : f.Looks tag attempt u taken f') : f'.Isolated := by
  cases looks with
  | @first keep rest free code found =>
    refine { h with code := (h.line code).2, frame := fun r hr => ?_ }
    dsimp only at hr
    split at hr
    · exact h.frame r hr
    · exact h.frame r (((Store.remove_sublist tag.target f.frame).map Prod.snd).subset hr)
  | again => exact { h with waiting := fun w hw => (by cases hw) }

theorem Looks.free {attempt : Attempt} {u : TaskId} {taken : Bool}
    (looks : f.Looks tag attempt u taken f') : f'.waiting = none := by
  cases looks with
  | first free => exact free
  | again => rfl

/-- What a body looks at belongs to it. -/
theorem Looks.mem_resources {attempt : Attempt} {u : TaskId} {taken : Bool}
    (own : ∀ w, f.waiting = some w → w.wait.OnOwn f.resources)
    (looks : f.Looks tag attempt u taken f') : .handle u ∈ f.resources := by
  cases looks with
  | first free code found => exact List.mem_append_right _ (Frame.mem_resources_of_find? found)
  | again waits => exact own _ waits

theorem Isolated.spawned (h : f.Isolated) (after : linesIsolated rest = true) (name : String)
    (u : TaskId) : (f.spawned rest name u).Isolated := by
  refine { h with code := after, frame := fun r hr => ?_ }
  rw [Fiber.spawned, Frame.bind, Frame.resources, List.map_append] at hr
  rcases List.mem_append.1 hr with hr | hr
  · exact h.frame r (((Store.remove_sublist name f.frame).map Prod.snd).subset hr)
  · exact ⟨u, List.mem_singleton.1 hr⟩

end Fiber

namespace State

variable {s : State} {home : RuntimeId} {t u : TaskId} {f : Fiber} {tag : Tag} {act : Act}
  {attempt : Attempt} {taken : Bool}

theorem adopt_of_bare (bare : s.shared = []) (frame : Frame) (name : String) :
    s.adopt frame name = (s, frame) := by
  unfold adopt
  rw [bare]
  split
  · rename_i found
    cases found
  · rfl

theorem giveWay_pace {left : Nat} {f' : Fiber}
    (given : left = 0 → f.Passes f')
    (gives : ∀ less, left = less + 1 →
      f.Gives { f' with waiting := some ⟨tag, .report, .yielding left⟩ }) :
    Pace s home t f (s.giveWay t f' tag left) := by
  unfold giveWay
  split
  · rename_i elapsed
    exact .pass s.trace _ (given elapsed)
  · rename_i more
    obtain ⟨less, eq⟩ := Nat.exists_eq_succ_of_ne_zero more
    exact .give (gives less eq)

theorem awaitResource_pace {f' : Fiber} (looks : f.Looks tag attempt u taken f') :
    Pace s home t f (s.awaitResource t f' tag attempt (.handle u) taken) := by
  unfold awaitResource pollResource pollHandle takeOutcome
  dsimp only
  cases ended : (s.phase u).isTerminal with
  | false => exact .pending looks ended
  | true =>
    cases there : (s.tasks.get? u).bind Task.outcome with
    | none => exact .gone looks ended there
    | some outcome => exact .learn looks ended there

theorem runLine_pace {rest : List Line} (bare : s.shared = []) (isolated : f.Isolated)
    (free : f.waiting = none) (code : f.code = .mk tag act :: rest) :
    Pace s home t f (s.runLine home t { f with code := rest } tag act) := by
  have allowed : act.isolated = true := by
    have := isolated.code
    rw [code, linesIsolated, Bool.and_eq_true] at this
    exact this.1
  cases act with
  | note value => exact .pass s.trace _ (.skip free code (.inl ⟨value, rfl⟩))
  | panic payload => exact .panic _ free code
  | ret value measure => exact .finish (.value free code) (.inr ⟨_, code⟩)
  | fail message cause => exact .finish (.error free code) (.inr ⟨_, code⟩)
  | loop times body =>
    cases times with
    | zero => exact .pass s.trace [] (.skip free code (.inr (.inl ⟨body, rfl⟩)))
    | succ left => exact .pass s.trace [] (.again free code)
  | yieldTimes times =>
    refine giveWay_pace (fun none => ?_) fun less more => ?_
    · subst none
      exact .skip free code (.inr (.inr rfl))
    · subst more
      exact .first free code
  | spawn band detached body =>
    have spawned : ∀ priority parent names, (parent = none ∨ parent = some t) → Pace s home t f
        { state :=
            { (s.addNode .task priority parent).launch s.nextNode home body false with
              taskNames := names }
          fiber := f.spawned rest tag.binding s.nextNode
          after := (f.frame.find? tag.binding).toList.map .release ++
            (tag.events (.task t) (.text s.nextNode.text)).map .record } :=
      fun priority parent names up => .spawn band priority names _ free code up
    cases detached with
    | false =>
      exact spawned (band.getD (s.priority t)) (some t)
        ((s.addNode .task (band.getD (s.priority t)) (some t)).taskNames.set tag.binding s.nextNode)
        (.inr rfl)
    | true =>
      exact spawned (s.priority t) none
        ((s.addNode .task (s.priority t) none).taskNames.set tag.binding s.nextNode) (.inl rfl)
  | await keep attempt =>
    show Pace s home t f (s.awaitNamed t { f with code := rest } tag keep attempt)
    unfold awaitNamed
    rw [adopt_of_bare bare]
    dsimp only
    cases found : f.frame.find? tag.target with
    | none => exact .pass s.trace _ (.missing free code found)
    | some r =>
      obtain ⟨u, rfl⟩ := isolated.frame r (Frame.mem_resources_of_find? found)
      exact awaitResource_pace (.first free code found)
  | _ => cases allowed

/-- **The body of a program does nothing else.** -/
theorem bodyStep_pace (home : RuntimeId) (t : TaskId) (bare : s.shared = [])
    (isolated : f.Isolated) :
    ∃ turn, Pace s home t f turn ∧ s.bodyStep home t f = turn.takeEffect home t := by
  unfold bodyStep
  split
  · rename_i new
    refine ⟨_, .pass (s.tell (.told (.task t) "begin" .nothing)).trace [] (.begin new), ?_⟩
    simp [Turn.takeEffect, modifyTask, tell]
  · split
    · rename_i w waits
      refine ⟨_, ?_, rfl⟩
      obtain ⟨tag, attempt, wait⟩ := w
      have allowed := isolated.waiting _ waits
      cases wait with
      | yielding left =>
        refine giveWay_pace (fun none => .given waits) fun less more => ?_
        obtain rfl : left = less + 2 := by omega
        exact .again waits
      | awaiting r taken =>
        cases r with
        | handle u => exact awaitResource_pace (.again waits)
        | _ => cases allowed
      | _ => cases allowed
    · rename_i free code
      exact ⟨_, .finish (.out free code) (.inl rfl), rfl⟩
    · rename_i tag act rest free code
      exact ⟨_, runLine_pace bare isolated free code, rfl⟩

end State

end Nursery
