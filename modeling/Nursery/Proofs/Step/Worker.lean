import Nursery.Machine.Worker
import Nursery.Proofs.Line.Handler

/-!
# What a worker does next

`Work` lists everything that a worker can do when the agenda is empty: what it does for the slice
that it is in the middle of, and what it does with the next entry of its queue.  The lines of
bodies and handlers appear in it as sequences of changes.

* `State.Runs` : the body of a task is at work on a runtime.
* `Work` : what a worker does next.
* `State.work_cases` : a worker does nothing else.
-/

namespace Nursery

namespace State

/-- The body of a task is at work on a runtime. -/
structure Runs (s : State) (home : RuntimeId) (t : TaskId) (task : Task) (f : Fiber) : Prop where
  /-- The worker is inside the body. -/
  slice : s.slice home = some (.task t .polling) ∨ s.slice home = some (.task t .suspending)
  /-- The task is known. -/
  found : s.tasks.get? t = some task
  /-- The body has not ended. -/
  fiber : task.fiber = some f

theorem Runs.during {s : State} {home : RuntimeId} {t : TaskId} {task : Task} {f : Fiber}
    (runs : s.Runs home t task f) : ∃ stage, s.slice home = some (.task t stage) :=
  runs.slice.elim (⟨_, ·⟩) (⟨_, ·⟩)

/-- The body of a task is over, at some stage of a slice. -/
def Over (s : State) (t : TaskId) (stage : Stage) : Prop :=
  stage = .joining ∨ stage = .polling ∧ (s.tasks.get? t).bind Task.fiber = none

/-- A task waits at the end of its slice: its body is suspended, or it is over and children are
left, which is noted. -/
def Waits (s : State) (t : TaskId) (stage : Stage) (joining : Node → Bool) : Prop :=
  stage = .suspending ∧ joining = Node.joining ∨
    s.Over t stage ∧ s.children t ≠ [] ∧ joining = fun _ => true

/-- The state in which an entry was taken from the queue of a runtime. -/
def popped (s : State) (home : RuntimeId) (queue : RunQueue Entry) : State :=
  s.modifyRuntime home fun rt => { rt with queue := queue }

/-- Every body waits for something that it owns. -/
def WaitsOnOwn (s : State) : Prop :=
  ∀ t task f w, s.tasks.get? t = some task → task.fiber = some f → f.waiting = some w →
    w.wait.OnOwn f.resources

/-- A worker is free to take an entry from its queue. -/
structure Takes (s : State) (home : RuntimeId) (e : Entry) (queue : RunQueue Entry) : Prop where
  /-- The runtime is open, in no slice, and the entry is the next one. -/
  found : ∃ rt, s.runtimes.get? home = some rt ∧ rt.slice = none ∧ rt.closed = false ∧
    rt.queue.pop? = some (e, queue)

end State

/-- What a worker does next. -/
inductive Work (s : State) (home : RuntimeId) : State → Prop where
  /-- It stops, in no slice. -/
  | stop (why : Stop) (free : s.slice home = none) : Work s home (s.stop why)
  /-- A task or an actor is not known any more. -/
  | lost {slice : Slice} (during : s.slice home = some slice)
      (missing : (∃ t, slice = .task t .polling ∧ s.tasks.get? t = none) ∨
        ∃ a handled, slice = .drain a handled .idle ∧ s.actors.get? a = none) :
      Work s home (s.setSlice home none)
  /-- A body goes on with its next line. -/
  | next {t : TaskId} {task : Task} {f f' : Fiber} {s' : State} (runs : s.Runs home t task f)
      (polling : s.slice home = some (.task t .polling))
      (changes : Changes ⟨.task t, some home⟩ s f.resources s' f'.resources)
      (own : ∀ w, f'.waiting = some w → w.wait.OnOwn f'.resources) :
      Work s home (s'.modifyTask t fun m => { m with fiber := some f' })
  /-- A body suspends itself. -/
  | suspend {t : TaskId} {task : Task} {f f' : Fiber} {s' : State} {w : Waiting}
      (runs : s.Runs home t task f) (polling : s.slice home = some (.task t .polling))
      (changes : Changes ⟨.task t, some home⟩ s f.resources s' f'.resources)
      (waits : f'.waiting = some w) (own : w.wait.OnOwn f'.resources)
      (armed : w.wait.Armed s' t ∨ .wake (.task t) ∈ s'.agenda) :
      Work s home ((s'.modifyTask t fun m => { m with fiber := some f' }).setSlice home
        (some (.task t .suspending)))
  /-- A body ends, and what it owned is to be dropped. -/
  | ends {t : TaskId} {task : Task} {f : Fiber} {s' : State} {owned : List Resource}
      {ending : Ending} {unwinding : Option String} (told : List Event)
      (runs : s.Runs home t task f)
      (changes : Changes ⟨.task t, some home⟩ s f.resources s' owned)
      (how : (∃ result, ending = .returned result ∧ unwinding = s'.unwinding) ∨
        ∃ message, ending = .panicked message ∧ unwinding = some message)
      (fair : ∀ e ∈ told, e.Fair) :
      Work s home
        ({ (s'.modifyTask t fun m => { m with fiber := none }).setSlice home
            (some (.task t (.ended ending))) with unwinding := unwinding }.doLast
          (told.map Action.record ++ owned.map Action.release))
  /-- A body pauses its worker. -/
  | pause {t : TaskId} {task : Task} {f f' : Fiber} {s' : State} (later : List Event)
      (runs : s.Runs home t task f) (polling : s.slice home = some (.task t .polling))
      (changes : Changes ⟨.task t, some home⟩ s f.resources s' f'.resources)
      (own : ∀ w, f'.waiting = some w → w.wait.OnOwn f'.resources) (may : s.mayPause = true)
      (fair : ∀ e ∈ later, e.Fair) :
      Work s home
        { (s'.modifyTask t fun m => { m with fiber := some f' }).modifyRuntime home fun rt =>
            { rt with paused := some later } with active := none, stopped := some .held }
  /-- The slice of a task that waits is over. -/
  | rest {t : TaskId} {stage : Stage} {joining : Node → Bool}
      (during : s.slice home = some (.task t stage)) (why : s.Waits t stage joining)
      (running : s.phase t = .running) :
      Work s home (((s.setSlice home none).modifyNode t fun m =>
        { m with joining := joining m, phase := .suspended }).doFirst [.forget t])
  /-- The slice of a task that was woken meanwhile is over. -/
  | again {t : TaskId} {task : Task} {stage : Stage} {joining : Node → Bool}
      (during : s.slice home = some (.task t stage)) (why : s.Waits t stage joining)
      (woken : s.phase t ≠ .running) (found : s.tasks.get? t = some task) :
      Work s home ((((s.setSlice home none).modifyNode t fun m =>
        { m with joining := joining m, phase := .ready }).doFirst [.forget t]).enqueue
          task.home (s.priority t) (.task t))
  /-- The slice of a task is over that is not known any more. -/
  | forgotten {t : TaskId} {stage : Stage} {joining : Node → Bool}
      (during : s.slice home = some (.task t stage)) (why : s.Waits t stage joining)
      (missing : s.tasks.get? t = none) :
      Work s home ((s.setSlice home none).modifyNode t fun m =>
        { m with joining := joining m, phase := .ready })
  /-- The frame of a body is gone and its outcome is kept. -/
  | endBody {t : TaskId} {ending : Ending} {f : Task → Task} (trace : Array Event)
      (cancelled : List TaskId) (during : s.slice home = some (.task t (.ended ending)))
      (only : ∀ m, ∃ o a, f m = { m with outcome := some o, answer := a })
      (mute : losses trace = losses s.trace) (hush : outcries trace = outcries s.trace) :
      Work s home
        ({ (s.setSlice home (some (.task t .joining))).modifyTask t f with
            unwinding := none, trace := trace }.doFirst (cancelled.map .cancel))
  /-- A task ends. -/
  | complete {t : TaskId} {stage : Stage} {p : Phase} (trace : Array Event)
      (during : s.slice home = some (.task t stage)) (past : s.Over t stage)
      (alone : s.children t = []) (ended : p.isTerminal = true)
      (final : p = State.finalPhase ((s.tasks.get? t).bind Task.outcome))
      (mute : losses trace = losses s.trace) (hush : outcries trace = outcries s.trace) :
      Work s home
        ({ (s.modifyNode t fun m => { m with joining := false, phase := p }).setSlice home
            (some (.task t .leaving)) with trace := trace }.doFirst
          [.finish t, .wakeWaiters t, .reportFailure t])
  /-- The slice of a task that has ended is over. -/
  | leave {t : TaskId} (during : s.slice home = some (.task t .leaving)) :
      Work s home ((s.setSlice home none).doFirst [.forget t])
  /-- The next message of an actor is taken up. -/
  | receive {a : ActorId} {handled : Nat} {actor : Actor} {message : Message}
      {rest : List Message} (during : s.slice home = some (.drain a handled .idle))
      (found : s.actors.get? a = some actor) (mail : actor.mailbox = message :: rest) :
      Work s home ((s.modifyActor a fun m => { m with mailbox := rest }).setSlice home
        (some (.drain a handled (.handling message.handler [] message.reply))))
  /-- The slice of an actor without messages is over. -/
  | drained {a : ActorId} {handled : Nat} {actor : Actor}
      (during : s.slice home = some (.drain a handled .idle))
      (found : s.actors.get? a = some actor) (empty : actor.mailbox = []) :
      Work s home (((s.setSlice home none).log (.drained a handled)).modifyActor a fun m =>
        { m with scheduled := false })
  /-- The slice of an actor with messages left is over. -/
  | drainAgain {a : ActorId} {handled : Nat} {actor : Actor}
      (during : s.slice home = some (.drain a handled .idle))
      (found : s.actors.get? a = some actor) (mail : actor.mailbox ≠ []) :
      Work s home (((s.setSlice home none).log (.drained a handled)).enqueue home
        actor.priority (.drain a))
  /-- A handler goes on with its next line. -/
  | handle {a : ActorId} {handled : Nat} {code code' : List Line} {frame frame' : Frame}
      {reply : Option CallId} {s' : State}
      (during : s.slice home = some (.drain a handled (.handling code frame reply)))
      (changes : Changes ⟨.actor a, some home⟩ s frame.resources s' frame'.resources)
      (means : Stretches s a code s' code') :
      Work s home (s'.setSlice home (some (.drain a handled (.handling code' frame' reply))))
  /-- A handler pauses its worker. -/
  | hold {a : ActorId} {handled : Nat} {code code' : List Line} {frame frame' : Frame}
      {reply : Option CallId} {s' : State} (later : List Event)
      (during : s.slice home = some (.drain a handled (.handling code frame reply)))
      (changes : Changes ⟨.actor a, some home⟩ s frame.resources s' frame'.resources)
      (may : s.mayPause = true) (means : Stretches s a code s' code')
      (fair : ∀ e ∈ later, e.Fair) :
      Work s home
        { (s'.setSlice home (some (.drain a handled (.handling code' frame' reply)))).modifyRuntime
            home fun rt => { rt with paused := some later } with
          active := none, stopped := some .held }
  /-- A handler ends, and what it owned is to be dropped. -/
  | handled {a : ActorId} {handled : Nat} {code : List Line} {frame frame' : Frame}
      {reply : Option CallId} {s' : State} (result : Except String Int64)
      (during : s.slice home = some (.drain a handled (.handling code frame reply)))
      (changes : Changes ⟨.actor a, some home⟩ s frame.resources s' frame'.resources)
      (means : Concludes s a code s' result) :
      Work s home
        ((s'.setSlice home (some (.drain a handled (.replying reply result)))).doLast
          (frame'.resources.map .release))
  /-- The frame of a handler is gone and its reply is given. -/
  | reply {a : ActorId} {handled : Nat} {reply : Option CallId} {result : Except String Int64}
      (trace : Array Event) (outcome : Except ActorError Int64)
      (during : s.slice home = some (.drain a handled (.replying reply result)))
      (gives : outcome = result.mapError .handlerPanicked)
      (mute : losses trace = losses s.trace) (hush : outcries trace = outcries s.trace) :
      Work s home
        ({ s.setSlice home (some (.drain a (handled + 1) .idle)) with trace := trace }.doFirst
          (reply.toList.map fun k => .answer k outcome))
  /-- A slice of a task begins. -/
  | begin {t : TaskId} {queue : RunQueue Entry} (takes : s.Takes home (.task t) queue)
      (due : s.phase t = .ready ∨ s.phase t = .notified) :
      Work s home (((s.popped home queue).setPhase t .running).setSlice home
        (some (.task t .polling)))
  /-- The entry of a task that is not due is dropped. -/
  | refuse {t : TaskId} {queue : RunQueue Entry} (takes : s.Takes home (.task t) queue)
      (undue : ¬ (s.phase t = .ready ∨ s.phase t = .notified)) :
      Work s home ((s.popped home queue).doFirst [.forget t])
  /-- A slice of an actor begins. -/
  | beginDrain {a : ActorId} {queue : RunQueue Entry} (takes : s.Takes home (.drain a) queue) :
      Work s home ((s.popped home queue).setSlice home (some (.drain a 0 .idle)))
  /-- The marker that the worker counts stops it. -/
  | markerStop {serial : Nat} {queue : RunQueue Entry} (takes : s.Takes home (.marker serial) queue)
      (why : Stop) : Work s home ((s.popped home queue).stop why)
  /-- The marker that the worker counts goes to the back of its band. -/
  | markerAgain {serial : Nat} {queue : RunQueue Entry} (band : Priority) (goal : Goal)
      (takes : s.Takes home (.marker serial) queue) :
      Work s home { (s.popped home queue).enqueue home band (.marker serial) with
        active := some (home, goal) }
  /-- A marker that nobody counts is dropped. -/
  | markerSkip {serial : Nat} {queue : RunQueue Entry}
    (takes : s.Takes home (.marker serial) queue) :
      Work s home (s.popped home queue)

namespace State

variable {s : State} {home : RuntimeId} {t : TaskId}

theorem Takes.free {e : Entry} {queue : RunQueue Entry} (takes : s.Takes home e queue) :
    s.slice home = none := by
  obtain ⟨rt, found, free, -⟩ := takes.found
  simp [slice, found, free]

theorem Armed.doLast {w : Wait} {after : List Action} (h : w.Armed s t) :
    w.Armed (s.doLast after) t := by
  cases w with
  | awaiting r taken => cases r <;> exact h
  | _ => exact h

/-- A turn that fits takes effect in one of five ways.  At the end of a slice only a panic is
left. -/
theorem takeEffect_work {task : Task} {f : Fiber} {turn : Turn} (runs : s.Runs home t task f)
    (goes : s.slice home = some (.task t .polling) ∨
      ∃ message owned, turn.flow = .panic message owned)
    (fits : turn.Fits ⟨.task t, some home⟩ s f.resources t)
    (may : ∀ later, turn.flow = .pause later →
      s.mayPause = true ∧ ∀ e ∈ later, e.Fair) :
    Work s home (turn.takeEffect home t) := by
  obtain ⟨s', f', after, flow⟩ := turn
  obtain ⟨changes, own, armed⟩ := fits
  have polling : (∀ message owned, flow ≠ .panic message owned) →
      s.slice home = some (.task t .polling) := by
    intro other
    rcases goes with polling | ⟨message, owned, panics⟩
    · exact polling
    · exact absurd panics (other message owned)
  cases flow with
  | next => exact .next runs (polling (by simp)) changes own
  | suspend =>
    obtain ⟨w, waits, armed⟩ := armed rfl
    refine .suspend runs (polling (by simp)) changes waits (own w waits) ?_
    rcases armed with armed | woken
    · exact .inl (Armed.doLast armed)
    · exact .inr (List.mem_append_right _ woken)
  | finish result =>
    exact .ends [.told (.task t) "end" (endReport result)] runs changes (.inl ⟨result, rfl, rfl⟩)
      (by simp [Event.Fair, Event.loss?, Event.outcry?])
  | panic message owned =>
    exact .ends [] runs changes (.inr ⟨message, rfl, rfl⟩) (by simp)
  | pause later =>
    obtain ⟨may, fair⟩ := may later rfl
    exact .pause later runs (polling (by simp)) changes own may fair

theorem endPending_eq (joining : Node → Bool) :
    (s.modifyNode t fun m => { m with joining := joining m }).endPending home t =
      if s.phase t = .running then
        ((s.setSlice home none).modifyNode t fun m =>
          { m with joining := joining m, phase := .suspended }).doFirst [.forget t]
      else
        let ready := (s.setSlice home none).modifyNode t fun m =>
          { m with joining := joining m, phase := .ready }
        match s.tasks.get? t with
        | some task => (ready.doFirst [.forget t]).enqueue task.home (s.priority t) (.task t)
        | none => ready := by
  have phase : ((s.modifyNode t fun m => { m with joining := joining m }).setSlice home
      none).phase t = s.phase t := phase_modifyNode_same fun _ => rfl
  have priority : ∀ p, ((s.setSlice home none).modifyNode t fun m =>
      { m with joining := joining m, phase := p }).priority t = s.priority t :=
    fun p => priority_modifyNode_same fun _ => rfl
  have node : ∀ p, ((s.modifyNode t fun m => { m with joining := joining m }).setSlice home
      none).setPhase t p = (s.setSlice home none).modifyNode t fun m =>
        { m with joining := joining m, phase := p } := by
    intro p
    simp [modifyNode, setPhase, setSlice, modifyRuntime, Store.modify_modify]
  have tasks : ((s.setSlice home none).modifyNode t fun m =>
      { m with joining := joining m, phase := .ready }).tasks.get? t = s.tasks.get? t := rfl
  unfold endPending
  dsimp only
  rw [phase, node, node, tasks]
  split
  · rfl
  · cases s.tasks.get? t with
    | none => rfl
    | some task =>
      dsimp only
      rw [priority]

theorem endPending_work {stage : Stage} {joining : Node → Bool}
    (during : s.slice home = some (.task t stage)) (why : s.Waits t stage joining) :
    Work s home ((s.modifyNode t fun m => { m with joining := joining m }).endPending home t) := by
  rw [endPending_eq]
  split
  · rename_i running
    exact .rest during why running
  · rename_i woken
    dsimp only
    split
    · rename_i task found
      exact .again during why woken found
    · rename_i missing
      exact .forgotten during why missing

theorem isTerminal_finalPhase (outcome : Option (Except TaskError Int64)) :
    (finalPhase outcome).isTerminal = true := by
  rcases outcome with _ | (_ | _ | _) | _ <;> rfl

theorem finalPhase_eq_completed {outcome : Except TaskError Int64} :
    finalPhase (some outcome) = .completed ↔ ∃ value, outcome = .ok value := by
  constructor
  · intro final
    rcases outcome with (_ | _ | _) | value
    · cases final
    · cases final
    · cases final
    · exact ⟨value, rfl⟩
  · rintro ⟨value, rfl⟩
    rfl

theorem finalPhase_eq_cancelled {outcome : Except TaskError Int64} :
    finalPhase (some outcome) = .cancelled ↔ outcome = .error .cancelled := by
  constructor
  · intro final
    rcases outcome with (_ | _ | _) | _
    · rfl
    · cases final
    · cases final
    · cases final
  · rintro rfl
    rfl

theorem finalPhase_eq_failed {outcome : Except TaskError Int64} :
    finalPhase (some outcome) = .failed ↔ ∃ e, outcome = .error e ∧ e ≠ .cancelled := by
  constructor
  · intro final
    rcases outcome with e | _
    · refine ⟨e, rfl, ?_⟩
      rintro rfl
      cases final
    · cases final
  · rintro ⟨e, rfl, other⟩
    cases e with
    | cancelled => exact absurd rfl other
    | failed => rfl
    | panicked => rfl

theorem joinChildren_work {stage : Stage} (during : s.slice home = some (.task t stage))
    (past : s.Over t stage) : Work s home (s.joinChildren home t) := by
  unfold joinChildren
  split
  · rename_i alone
    unfold complete
    dsimp only
    simp only [modifyNode, setPhase, Store.modify_modify, doFirst, setSlice, modifyRuntime, log,
      tell]
    exact .complete _ during past (List.isEmpty_iff.1 alone) (isTerminal_finalPhase _) rfl
      (losses_push_of_none _ rfl) (outcries_push_of_none _ rfl)
  · rename_i busy
    exact endPending_work during (.inr ⟨past, fun none => busy (List.isEmpty_iff.2 none), rfl⟩)

theorem endBody_work {ending ending' : Ending}
    (during : s.slice home = some (.task t (.ended ending))) :
    Work s home (s.endBody home t ending') := by
  have quiet : ∀ f : Task → Task, (∀ m, ∃ o a, f m = { m with outcome := some o, answer := a }) →
      Work s home (State.modifyTask
        { s.setSlice home (some (.task t .joining)) with unwinding := none } t f) :=
    fun f only => .endBody s.trace [] during only rfl rfl
  have fails : ∀ e : TaskError, Work s home
      (let s := State.modifyTask
        { s.setSlice home (some (.task t .joining)) with unwinding := none } t
          fun m => { m with outcome := some (.error e) }
      if e.isCancelled then s
      else (s.log (.bodyFailed t e)).doFirst ((s.children t).map .cancel)) := by
    intro e
    dsimp only
    split
    · exact quiet _ fun m => ⟨_, m.answer, rfl⟩
    · exact .endBody _ _ during (fun m => ⟨_, m.answer, rfl⟩) (losses_push_of_none _ rfl)
        (outcries_push_of_none _ rfl)
  unfold endBody
  dsimp only
  split
  · exact fails _
  · split
    · exact quiet _ fun m => ⟨_, _, rfl⟩
    · split
      · exact quiet _ fun m => ⟨_, m.answer, rfl⟩
      · exact fails _

theorem taskStep_work (idle : s.agenda = []) (own : s.WaitsOnOwn) {stage : Stage}
    (during : s.slice home = some (.task t stage)) : Work s home (s.taskStep home t stage) := by
  cases stage with
  | polling =>
    simp only [taskStep]
    split
    · rename_i missing
      exact .lost during (.inl ⟨t, rfl, missing⟩)
    · rename_i task found
      split
      · rename_i f message fiber _
        exact takeEffect_work ⟨.inl during, found, fiber⟩ (.inl during)
          (unwind_fits fun w hw => own t task f w found fiber hw)
            fun later pauses => by cases pauses
      · rename_i f fiber calm
        obtain ⟨turn, fits, may, taken⟩ : ∃ turn : Turn,
            turn.Fits ⟨.task t, some home⟩ s f.resources t ∧
              (∀ later, turn.flow = .pause later →
                s.mayPause = true ∧ ∀ e ∈ later, e.Fair) ∧
              s.bodyStep home t f = turn.takeEffect home t :=
          bodyStep_turn idle during found fiber calm fun w hw => own t task f w found fiber hw
        rw [taken]
        exact takeEffect_work ⟨.inl during, found, fiber⟩ (.inl during) fits may
      · rename_i fiber
        exact joinChildren_work during (.inr ⟨rfl, by simp [found, fiber]⟩)
  | suspending =>
    simp only [taskStep]
    split
    · rename_i f message fiber _
      obtain ⟨task, found, fiber⟩ := Option.bind_eq_some_iff.1 fiber
      exact takeEffect_work ⟨.inr during, found, fiber⟩ (.inr ⟨message, [], rfl⟩)
        (unwind_fits fun w hw => own t task f w found fiber hw) fun later pauses => by cases pauses
    · have same : (s.modifyNode t fun m => { m with joining := m.joining }) = s :=
        congrArg (fun nodes => { s with nodes := nodes }) Store.modify_self
      have := endPending_work during (.inl ⟨rfl, rfl⟩)
      rwa [same] at this
  | ended ending => exact endBody_work during
  | joining => exact joinChildren_work during (.inl rfl)
  | leaving => exact .leave during

/-! ### Actors -/

theorem nextMessage_work {a : ActorId} {handled : Nat}
    (during : s.slice home = some (.drain a handled .idle)) :
    Work s home (s.nextMessage home a handled) := by
  unfold nextMessage
  split
  · rename_i missing
    exact .lost during (.inr ⟨a, handled, rfl, missing⟩)
  · rename_i actor found
    have past : Work s home (s.endDrain home a handled) := by
      unfold endDrain
      dsimp only
      split
      · rename_i missing
        exact absurd (missing.symm.trans found) (by simp)
      · rename_i actor' found'
        cases found.symm.trans found'
        split
        · rename_i empty
          exact .drained during found (List.isEmpty_iff.1 empty)
        · rename_i mail
          exact .drainAgain during found fun none => mail (List.isEmpty_iff.2 none)
    split
    · split
      · exact past
      · rename_i message rest mail
        exact .receive during found mail
    · exact past

theorem handlerStep_work (idle : s.agenda = []) {a : ActorId} {handled : Nat} {code : List Line}
    {frame : Frame} {reply : Option CallId}
    (during : s.slice home = some (.drain a handled (.handling code frame reply))) :
    Work s home (s.handlerStep home a handled code frame reply) := by
  have taken : ∀ answer : Answer, answer.Fits ⟨.actor a, some home⟩ s frame →
      (∀ later, answer.pause = some later →
        s.mayPause = true ∧ ∀ e ∈ later, e.Fair) →
      (s.actors.Numbered ActorId.index → ∀ xs, s.memory a = some xs → answer.Means a code xs) →
      Work s home (answer.takeEffect home a handled reply) := by
    rintro ⟨s', code', frame', after, ended, pause⟩ fits may means
    rcases ended with _ | result
    · rcases pause with _ | later
      · exact .handle during fits means
      · obtain ⟨may, fair⟩ := may later rfl
        exact .hold later during fits may means fair
    · exact .handled result during fits means
  unfold handlerStep
  dsimp only
  split
  · refine taken _ ?_ (fun later pauses => by cases pauses) fun _ xs known => ⟨xs, known, .done⟩
    change Changes _ _ _ (s.doLast []) _
    rw [doLast_nil]
    exact .refl
  · exact taken _ (handlerLine_fits idle) (fun _ => handlerLine_pauses)
      fun numbered _ known => handlerLine_means numbered known

theorem drainStep_work (idle : s.agenda = []) {a : ActorId} {handled : Nat} {stage : HandlerStage}
    (during : s.slice home = some (.drain a handled stage)) :
    Work s home (s.drainStep home a handled stage) := by
  cases stage with
  | idle => exact nextMessage_work during
  | handling code frame reply => exact handlerStep_work idle during
  | replying reply result =>
    simp only [drainStep, endHandler]
    cases result with
    | ok value =>
      cases reply with
      | none => exact .reply s.trace (.ok value) during rfl rfl rfl
      | some k => exact .reply s.trace (.ok value) during rfl rfl rfl
    | error message =>
      cases reply with
      | none =>
        exact .reply (s.log (.unheardPanic a message)).trace (.error (.handlerPanicked message))
          during rfl (losses_push_of_none _ rfl) (outcries_push_of_none _ rfl)
      | some k =>
        exact .reply (s.log (.handlerPanicked a message)).trace
          (.error (.handlerPanicked message)) during rfl (losses_push_of_none _ rfl)
          (outcries_push_of_none _ rfl)

/-! ### The next entry -/

/-- **A worker does one of these things.** -/
theorem work_cases (idle : s.agenda = []) (own : s.WaitsOnOwn) (goal : Goal) :
    Work s home (s.work home goal) := by
  unfold work
  split
  · rename_i missing
    exact .stop _ (by simp [slice, missing])
  · rename_i rt found
    split
    · rename_i t stage during
      exact taskStep_work idle own (by simp [slice, found, during])
    · rename_i a handled stage during
      exact drainStep_work idle (by simp [slice, found, during])
    · rename_i free
      have none : s.slice home = none := by simp [slice, found, free]
      split
      · exact .stop _ none
      · rename_i open_
        rw [Bool.not_eq_true] at open_
        split
        · exact .stop _ none
        · rename_i entry queue next
          have takes : s.Takes home entry queue := ⟨rt, found, free, open_, next⟩
          dsimp only
          split
          · rename_i t
            unfold beginTask
            split
            · rename_i due
              exact .begin takes due
            · rename_i undue
              exact .refuse takes undue
          · exact .beginDrain takes
          · rename_i serial
            unfold meetMarker
            split
            · split
              · split
                · exact .markerStop takes _
                · exact .markerAgain _ _ takes
              · exact .markerSkip takes
            · exact .markerSkip takes

end State

end Nursery
