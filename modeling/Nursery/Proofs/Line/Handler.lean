import Nursery.Proofs.Line.Body
import Nursery.Proofs.Node

/-!
# What a handler makes of the state of its actor

A handler gets the state of its actor and leaves it changed.  `Handles` says what the lines of a
handler come to, without the machine: which state they leave, and the value or the panic that they
end with.  A line of the machine's own handler then goes on towards the same end, or is that end.

* `State.memory` : the state of an actor, if it was made.
* `Handles` : what the lines of a handler make of a state.
* `State.plain?_remembers` : a line leaves the states of actors alone, if it is no handler's own.
* `State.handlerLine_means` : what a line of a handler comes to.
* `Stretches`, `Concludes` : the same, for the states before and after.
* `evaluate` : what a handler computes that asks nobody but the state of its actor.
-/

namespace Nursery

/-- What the handlers of an actor get to see, if it was made. -/
def State.memory (s : State) (a : ActorId) : Option (List Int64) :=
  (s.actors.get? a).map Actor.state

/-- The states of all actors that were made are left alone. -/
def Remembers (s s' : State) : Prop :=
  ∀ b xs, s.memory b = some xs → s'.memory b = some xs

/-- A handler may go on behind the line, and its state is left alone then. -/
def Act.passes : Act → Bool
  | .push _ | .pop | .double | .increment _ | .get | .ret .. | .panic _ | .loop .. => false
  | _ => true

/-- What the lines of a handler make of the state of its actor, and how they end. -/
inductive Handles : List Line → List Int64 → List Int64 → Except String Int64 → Prop where
  /-- There is no line left. -/
  | done {xs : List Int64} : Handles [] xs xs (.ok 0)
  /-- A line changes the state. -/
  | change {tag : Tag} {act : Act} {rest : List Line} {xs ys zs : List Int64} {report : Report}
      {result : Except String Int64} (effect : State.onState? xs act = some (ys, report))
      (next : Handles rest ys zs result) : Handles (.mk tag act :: rest) xs zs result
  /-- A line gives the value. -/
  | ret {tag : Tag} {value : Option Int64} {measure : Option Measure} {rest : List Line}
      {xs : List Int64} :
      Handles (.mk tag (.ret value measure) :: rest) xs xs (.ok (State.replyValue xs value measure))
  /-- A line panics. -/
  | panic {tag : Tag} {payload : Payload} {rest : List Line} {xs : List Int64} :
      Handles (.mk tag (.panic payload) :: rest) xs xs (.error payload.message)
  /-- A line panics that blocks on a runtime, while there is one in its place. -/
  | blocked {tag : Tag} {place : Nat} {rest : List Line} {xs : List Int64} :
      Handles (.mk tag (.blockInside place) :: rest) xs xs
        (.error "block_on cannot be called from a runtime worker thread")
  /-- A loop is over. -/
  | leave {tag : Tag} {body rest : List Line} {xs ys : List Int64} {result : Except String Int64}
      (next : Handles rest xs ys result) : Handles (.mk tag (.loop 0 body) :: rest) xs ys result
  /-- A loop goes on. -/
  | again {tag : Tag} {left : Nat} {body rest : List Line} {xs ys : List Int64}
      {result : Except String Int64}
      (next : Handles (body ++ .mk tag (.loop left body) :: rest) xs ys result) :
      Handles (.mk tag (.loop (left + 1) body) :: rest) xs ys result
  /-- Any other line leaves the state alone. -/
  | pass {tag : Tag} {act : Act} {rest : List Line} {xs ys : List Int64}
      {result : Except String Int64} (passes : act.passes = true)
      (next : Handles rest xs ys result) : Handles (.mk tag act :: rest) xs ys result

/-- What came of a line of a handler, as far as the state of the actor is concerned: the lines that
remain come to what the handler came to before, or the handler is at its end. -/
def Answer.Means (answer : Answer) (a : ActorId) (code : List Line) (xs : List Int64) : Prop :=
  ∃ ys, answer.state.memory a = some ys ∧
    match answer.ended with
    | some result => Handles code xs ys result
    | none => ∀ zs result, Handles answer.code ys zs result → Handles code xs zs result

/-- A handler has gone on: the lines that remain come to what it came to before. -/
def Stretches (s : State) (a : ActorId) (code : List Line) (s' : State) (code' : List Line) :
    Prop :=
  s.actors.Numbered ActorId.index → ∀ xs, s.memory a = some xs →
    ∃ ys, s'.memory a = some ys ∧
      ∀ zs result, Handles code' ys zs result → Handles code xs zs result

/-- A handler has come to its end, and that is what it came to before. -/
def Concludes (s : State) (a : ActorId) (code : List Line) (s' : State)
    (result : Except String Int64) : Prop :=
  s.actors.Numbered ActorId.index → ∀ xs, s.memory a = some xs →
    ∃ ys, s'.memory a = some ys ∧ Handles code xs ys result

namespace Remembers

variable {s s' s'' : State}

theorem refl (s : State) : Remembers s s :=
  fun _ _ h => h

theorem trans (h : Remembers s s') (h' : Remembers s' s'') : Remembers s s'' :=
  fun b xs was => h' b xs (h b xs was)

theorem of_actors (same : s'.actors = s.actors) : Remembers s s' := by
  intro b xs was
  rwa [State.memory, same]

theorem modifyActor (b : ActorId) {f : Actor → Actor} (same : ∀ m, (f m).state = m.state) :
    Remembers s (s.modifyActor b f) :=
  fun _ _ was => (Store.map_get?_modify_same same).trans was

theorem enqueue (h : Remembers s s') (r : RuntimeId) (p : Priority) (e : Entry) :
    Remembers s (s'.enqueue r p e) := by
  obtain ⟨runtimes, agenda, eq⟩ := s'.enqueue_eq r p e
  exact h.trans (of_actors (by rw [eq]))

theorem post (h : Remembers s s') (b : ActorId) (r : RuntimeId) (m : Message) :
    Remembers s (s'.post b r m) := by
  unfold State.post
  split
  · exact h
  · have posted : Remembers s (s'.modifyActor b fun n =>
        { n with mailbox := n.mailbox ++ [m], scheduled := true }) :=
      h.trans (modifyActor b fun _ => rfl)
    dsimp only
    split
    · exact posted
    · exact posted.enqueue _ _ _

theorem addNode (kind : NodeKind) (priority : Priority) (parent : Option TaskId) :
    Remembers s (s.addNode kind priority parent) := by
  apply of_actors
  unfold State.addNode
  split
  · rfl
  · dsimp only
    split <;> rfl

theorem launch (h : Remembers s s') (n : TaskId) (home : RuntimeId) (body : List Line)
    (blocking : Bool) : Remembers s (s'.launch n home body blocking) := by
  refine enqueue ?_ _ _ _
  exact h.trans (of_actors rfl)

end Remembers

namespace State

variable {s : State} {c : Context} {frame : Frame} {tag : Tag} {a : ActorId} {home : RuntimeId}

theorem adopt_remembers (s : State) (frame : Frame) (name : String) :
    Remembers s (s.adopt frame name).1 := by
  unfold adopt
  split
  · exact .of_actors rfl
  · exact .refl s

theorem spawn_remembers {priority : Option Priority} {detached : Bool} {body : List Line} :
    Remembers s (s.spawn c frame tag priority detached body).state := by
  unfold spawn
  split
  · exact .refl s
  · have made : ∀ (p : Priority) (parent : Option TaskId),
        Remembers s (s.addNode .task p parent) := fun p parent => .addNode .task p parent
    dsimp only
    split
    · exact ((made _ _).launch _ _ _ _).trans (.of_actors rfl)
    · exact ((made _ _).launch _ _ _ _).trans (.of_actors rfl)

theorem callActor_remembers {b : ActorId} {handler : List Line} :
    Remembers s (s.callActor c b handler) := by
  unfold callActor
  split
  · exact .of_actors rfl
  · split
    · exact .of_actors rfl
    · refine .post ?_ _ _ _
      exact .of_actors rfl

theorem send_remembers {handler : List Line} :
    Remembers s (s.send c frame tag handler).state := by
  unfold send sendActor
  split
  · exact .refl s
  · cases c.home with
    | none => exact .refl s
    | some home => exact (Remembers.refl s).post _ _ _

theorem bindActor_remembers (numbered : s.actors.Numbered ActorId.index) {init : List Int64}
    {priority : Option Priority} : Remembers s (s.bindActor frame tag init priority).state := by
  intro b xs was
  have fresh : s.actors.get? ⟨s.actors.size⟩ = none := numbered.fresh rfl
  have other : (⟨s.actors.size⟩ : ActorId) ≠ b := by
    rintro rfl
    simp [memory, fresh] at was
  rw [← was]
  exact congrArg (Option.map Actor.state) (Store.get?_set_of_ne other)

theorem add_remembers {priority : Option Priority} {body : List Line} :
    Remembers s (s.add frame tag priority body).state := by
  unfold add
  have adopted := s.adopt_remembers frame tag.target
  generalize s.adopt frame tag.target = p at adopted ⊢
  obtain ⟨s', frame'⟩ := p
  dsimp only at adopted ⊢
  split
  · split
    · exact ((adopted.trans (.addNode _ _ _)).launch _ _ _ _).trans (.of_actors rfl)
    · exact adopted
  · exact adopted

/-- **A plain line leaves the states of all actors alone.** -/
theorem plain?_remembers (numbered : s.actors.Numbered ActorId.index) {act : Act}
    {reaction : Reaction} (h : s.plain? c frame tag act = some reaction) :
    Remembers s reaction.state := by
  cases act <;> simp only [plain?, Option.some.injEq, reduceCtorEq] at h <;> subst h
  case note | currentTask | isCancelled | thread | phase | isTerminal | isFinished
    | handleCancelled | handleTask | groupSize | groupCancelled | describeActor | pending
    | childPhase => exact .refl s
  case panic => exact .of_actors rfl
  case spawn => exact spawn_remembers
  case spawnOn =>
    unfold spawnOn
    split
    · exact .refl s
    · exact ((Remembers.addNode _ _ _).launch _ _ _ _).trans (.of_actors rfl)
  case cancel | cancelGroup | describe | wake => split <;> exact .refl s
  case drop =>
    unfold dropNamed
    split
    · exact .refl s
    · exact .of_actors rfl
    · exact .refl s
  case share =>
    unfold shareNamed
    split
    · exact .of_actors rfl
    · exact .refl s
  case group =>
    unfold bindGroup
    split
    · exact .refl s
    · exact (Remembers.addNode _ _ _).trans (.of_actors rfl)
  case add => exact add_remembers
  case actor => exact bindActor_remembers numbered
  case call =>
    unfold bindCall
    split
    · exact .refl s
    · exact callActor_remembers
  case send => exact send_remembers

theorem plain?_panics {who : Speaker} {act : Act} {reaction : Reaction} {message : String}
    (h : s.plain? ⟨who, some home⟩ frame tag act = some reaction)
    (panics : reaction.result = .error message) :
    ∃ payload, act = .panic payload ∧ message = payload.message := by
  -- every other line comes to a report
  have fine : ∀ {report : Report}, reaction.result = .ok report → False := fun fine => by
    cases fine.symm.trans panics
  cases act <;> simp only [plain?, Option.some.injEq, reduceCtorEq] at h <;> subst h
  case note | currentTask | isCancelled | thread | phase | isTerminal | isFinished
    | handleCancelled | handleTask | groupSize | groupCancelled | describeActor | pending
    | childPhase | actor => exact (fine rfl).elim
  case panic payload =>
    cases panics
    exact ⟨payload, rfl, rfl⟩
  case cancel | cancelGroup | describe | wake =>
    split at fine <;> exact (fine rfl).elim
  case spawn =>
    unfold spawn at fine
    exact (fine rfl).elim
  case spawnOn =>
    unfold spawnOn at fine
    split at fine <;> exact (fine rfl).elim
  case drop =>
    unfold dropNamed at fine
    split at fine <;> exact (fine rfl).elim
  case share =>
    unfold shareNamed at fine
    split at fine <;> exact (fine rfl).elim
  case group =>
    unfold bindGroup at fine
    exact (fine rfl).elim
  case add =>
    unfold add at fine
    dsimp only at fine
    split at fine
    · split at fine <;> exact (fine rfl).elim
    · exact (fine rfl).elim
  case call =>
    unfold bindCall at fine
    split at fine <;> exact (fine rfl).elim
  case send =>
    unfold send sendActor at fine
    split at fine <;> exact (fine rfl).elim

theorem passes_of_silent {act : Act} {xs : List Int64} (silent : onState? xs act = none)
    (ret : ∀ value measure, act ≠ .ret value measure) (loop : ∀ times body, act ≠ .loop times body)
    (panic : ∀ payload, act ≠ .panic payload) : act.passes = true := by
  cases act with
  | push | pop | double | increment | get => cases silent
  | ret value measure => exact absurd rfl (ret value measure)
  | loop times body => exact absurd rfl (loop times body)
  | panic payload => exact absurd rfl (panic payload)
  | _ => rfl

theorem memory_setActorState {xs ys : List Int64} (known : s.memory a = some xs) :
    (s.setActorState a ys).memory a = some ys := by
  obtain ⟨actor, found, -⟩ := Option.map_eq_some_iff.1 known
  simp [memory, setActorState, modifyActor, Store.get?_modify_self, found]

/-- **A line of a handler comes to what the handler comes to.** -/
theorem handlerLine_means (numbered : s.actors.Numbered ActorId.index) {code : List Line}
    {act : Act} {xs : List Int64} (known : s.memory a = some xs) :
    (s.handlerLine home a code frame tag act).Means a (.mk tag act :: code) xs := by
  have state : s.actorState a = xs := by rw [actorState, ← memory, known, Option.getD_some]
  have passes : act.passes = true → ∀ zs result, Handles code xs zs result →
      Handles (.mk tag act :: code) xs zs result := fun passes _ _ next => .pass passes next
  unfold handlerLine
  dsimp only
  split
  · rename_i ys report effect
    rw [state] at effect
    exact ⟨ys, memory_setActorState known, fun _ _ next => .change effect next⟩
  · rename_i silent
    split
    · exact ⟨xs, known, state ▸ .ret⟩
    · exact ⟨xs, known, fun _ _ next => .leave next⟩
    · exact ⟨xs, known, fun _ _ next => .again next⟩
    · split
      · exact ⟨xs, known, passes rfl⟩
      · exact ⟨xs, known, passes rfl⟩
    · split
      · exact ⟨xs, known, .blocked⟩
      · exact ⟨xs, known, passes rfl⟩
    · rename_i ret leave again hold block
      -- the line is no loop, so it passes unless it panics
      have loop : ∀ times body, act ≠ .loop times body := by
        rintro (_ | left) body rfl
        · exact leave body rfl
        · exact again left body rfl
      have other : (∀ payload, act ≠ .panic payload) → act.passes = true :=
        passes_of_silent silent ret loop
      split
      · rename_i meaningless
        refine ⟨xs, known, passes (other ?_)⟩
        rintro payload rfl
        cases meaningless
      · rename_i reaction plain
        have kept := plain?_remembers numbered plain a xs known
        split
        · rename_i report goes
          refine ⟨xs, kept, passes (other ?_)⟩
          rintro payload rfl
          cases plain
          cases goes
        · rename_i message panics
          obtain ⟨payload, rfl, rfl⟩ := plain?_panics plain panics
          exact ⟨xs, kept, .panic⟩

end State

/-! ### What a handler computes -/

/-- How far lines have got with the state of an actor: the state that they leave, and how they
ended, if they did. -/
abbrev Reached := List Int64 × Option (Except String Int64)

/-- What comes next, unless that was the end. -/
def Reached.andThen : Reached → (List Int64 → Reached) → Reached
  | (xs, none), next => next xs
  | ended, _ => ended

/-- The same thing a number of times. -/
def Reached.rounds (round : List Int64 → Reached) : Nat → List Int64 → Reached
  | 0, xs => (xs, none)
  | left + 1, xs => (round xs).andThen (rounds round left)

mutual

/-- What a line of a handler makes of a state. -/
def Line.compute : Line → List Int64 → Reached
  | .mk _ act, xs => act.compute xs

/-- What an act of a handler makes of a state. -/
def Act.compute : Act → List Int64 → Reached
  | .ret value measure, xs => (xs, some (.ok (State.replyValue xs value measure)))
  | .panic payload, xs => (xs, some (.error payload.message))
  | .loop times body, xs => Reached.rounds (fun ys => linesCompute body ys) times xs
  | act, xs => (((State.onState? xs act).map Prod.fst).getD xs, none)

/-- What lines of a handler make of a state. -/
def linesCompute : List Line → List Int64 → Reached
  | [], xs => (xs, none)
  | line :: rest, xs => (line.compute xs).andThen fun ys => linesCompute rest ys

end

mutual

/-- A line asks nobody but the state of its actor. -/
def Line.steady : Line → Bool
  | .mk _ act => act.steady

/-- An act asks nobody but the state of its actor: it does not block on a runtime, which may be
there or not. -/
def Act.steady : Act → Bool
  | .blockInside _ => false
  | .loop _ body => linesSteady body
  | _ => true

/-- Lines ask nobody but the state of their actor. -/
def linesSteady : List Line → Bool
  | [] => true
  | line :: rest => line.steady && linesSteady rest

end

/-- What a handler makes of a state, and how it ends. -/
def evaluate (code : List Line) (xs : List Int64) : List Int64 × Except String Int64 :=
  let reached := linesCompute code xs
  (reached.1, reached.2.getD (.ok 0))

theorem Reached.andThen_assoc (x : Reached) (f g : List Int64 → Reached) :
    (x.andThen f).andThen g = x.andThen fun ys => (f ys).andThen g := by
  obtain ⟨ys, _ | result⟩ := x <;> rfl

theorem linesCompute_append (code rest : List Line) (xs : List Int64) :
    linesCompute (code ++ rest) xs = (linesCompute code xs).andThen (linesCompute rest) := by
  induction code generalizing xs with
  | nil => rfl
  | cons line code ih =>
    rw [List.cons_append, linesCompute, linesCompute, Reached.andThen_assoc]
    simp only [ih]

theorem linesSteady_append (code rest : List Line) :
    linesSteady (code ++ rest) = (linesSteady code && linesSteady rest) := by
  induction code with
  | nil => rfl
  | cons line code ih => rw [List.cons_append, linesSteady, linesSteady, ih, Bool.and_assoc]

theorem linesCompute_loop (tag : Tag) (left : Nat) (body rest : List Line) (xs : List Int64) :
    linesCompute (.mk tag (.loop (left + 1) body) :: rest) xs =
      linesCompute (body ++ .mk tag (.loop left body) :: rest) xs := by
  rw [linesCompute_append, linesCompute, Line.compute, Act.compute, Reached.rounds,
    Reached.andThen_assoc]
  rfl

theorem Act.compute_of_onState? {act : Act} {xs ys : List Int64} {report : Report}
    (effect : State.onState? xs act = some (ys, report)) : act.compute xs = (ys, none) := by
  cases act <;> cases effect <;> rfl

theorem Act.compute_of_passes {act : Act} (passes : act.passes = true) (xs : List Int64) :
    act.compute xs = (xs, none) := by
  cases act <;> cases passes <;> rfl

/-- **A handler comes to what it computes**, if it asks nobody but the state of its actor. -/
theorem Handles.evaluate {code : List Line} {xs ys : List Int64} {result : Except String Int64}
    (h : Handles code xs ys result) (steady : linesSteady code = true) :
    Nursery.evaluate code xs = (ys, result) := by
  have line : ∀ {tag : Tag} {act : Act} {rest : List Line} {xs zs : List Int64},
      act.compute xs = (zs, none) →
        Nursery.evaluate (.mk tag act :: rest) xs = Nursery.evaluate rest zs := fun same => by
    simp only [Nursery.evaluate, linesCompute, Line.compute, same, Reached.andThen]
  have tail : ∀ {l : Line} {rest : List Line}, linesSteady (l :: rest) = true →
      linesSteady rest = true := fun both => (Bool.and_eq_true_iff.1 both).2
  induction h with
  | done | ret | panic => rfl
  | change effect _ ih => exact (line (Act.compute_of_onState? effect)).trans (ih (tail steady))
  | blocked => cases steady
  | leave _ ih => exact (line rfl).trans (ih (tail steady))
  | @again tag left body rest xs ys result _ ih =>
    rw [Nursery.evaluate, linesCompute_loop]
    refine ih ?_
    rw [linesSteady_append]
    exact Bool.and_eq_true_iff.2 ⟨(Bool.and_eq_true_iff.1 steady).1, steady⟩
  | pass passes _ ih => exact (line (Act.compute_of_passes passes _)).trans (ih (tail steady))

end Nursery
