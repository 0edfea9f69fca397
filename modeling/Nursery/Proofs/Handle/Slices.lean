import Nursery.Proofs.Handle.Lines

/-!
# Twins and slices

A worker takes the same entry in both runs and does the same in the slice: the body and the handler
run the same lines, and how they end is the same.

* `Twin.runLine`, `Twin.bodyStep` : the line of a body, and the next thing a body does.
* `Twin.handlerLine`, `Twin.handlerStep` : the line of a handler, and the next thing a handler does.
* `Twin.work` : **the next thing a worker does leaves twins.**
-/

namespace Nursery

variable {s s' k k' : State} {t u : TaskId} {home : RuntimeId}

namespace Twin

/-! ### Bodies -/

theorem withParked (h : Twin t s k) (parked : Store String TaskId) :
    Twin t { s with parked := parked } { k with parked := parked } :=
  { h with parked := rfl }

theorem runLine (h : Twin t s k) (home : RuntimeId) (u : TaskId) (f : Fiber) (tag : Tag)
    (act : Act) : Turn.Twins t (s.runLine home u f tag act) (k.runLine home u f tag act) := by
  have plain := h.plain? ⟨.task u, some home⟩ f.frame tag act
  cases act with
  | ret | fail | raiseCancelled | raisePanicked | wakeSelf => exact ⟨k, h, rfl⟩
  | check =>
    rw [State.runLine, State.runLine, h.isCancelled]
    split
    · exact ⟨k, h, rfl⟩
    · exact h.tells ..
  | yieldTimes => exact h.giveWay ..
  | spin => exact h.spin ..
  | park =>
    rw [State.runLine, State.runLine, h.parked]
    exact (h.withParked _).suspends ..
  | loop times body =>
    cases times <;> exact ⟨k, h, rfl⟩
  | ifCancelled =>
    rw [State.runLine, State.runLine, h.isCancelled]
    exact ⟨k, h, rfl⟩
  | await => exact h.awaitNamed ..
  | poll => exact h.pollNamed ..
  | any =>
    simp only [State.runLine]
    split
    · exact h.tells ..
    · exact h.awaitFirst ..
  | next attempt =>
    rw [State.runLine, State.runLine]
    refine (h.adoptGroup f.frame tag.target).elim fun h found => ?_
    obtain ⟨frame, found⟩ := found
    cases found with
    | none => exact h.tells ..
    | some g => exact h.awaitNext ..
  | all attempt =>
    rw [State.runLine, State.runLine]
    refine (h.adoptGroup f.frame tag.target).elim fun h found => ?_
    obtain ⟨frame, found⟩ := found
    cases found with
    | none => exact h.tells ..
    | some g => exact h.awaitAll ..
  | withGroup plan attempt =>
    simp only [State.runLine]
    rw [h.nextNode]
    exact ⟨_, h.makeGroup .., rfl⟩
  | hold =>
    rw [State.runLine, State.runLine, h.mayPause]
    split
    · exact ⟨_, h.tell _, rfl⟩
    · exact h.tells ..
  | blockInside place =>
    rw [State.runLine, State.runLine, h.places]
    split
    · exact ⟨k, h, rfl⟩
    · exact h.tells ..
  -- whatever does not wait is a plain line
  | _ =>
    simp only [State.runLine]
    revert plain
    generalize State.plain? s _ _ _ _ = x
    generalize State.plain? k _ _ _ _ = y
    rintro (⟨_, h, rfl⟩ | _)
    · dsimp only
      split <;> exact ⟨_, h, rfl⟩
    · exact h.tells ..

theorem takeEffect {x y : Turn} (h : Turn.Twins t x y) (home : RuntimeId) (u : TaskId) :
    Twin t (x.takeEffect home u) (y.takeEffect home u) := by
  obtain ⟨k, h, rfl⟩ := h
  have later := h.doLast x.after
  unfold Turn.takeEffect
  dsimp only
  split
  · exact later.modifyTask u fun _ => by rfl
  · exact (later.modifyTask u fun _ => by rfl).setSlice ..
  · exact ((later.modifyTask u fun _ => by rfl).setSlice ..).doLast _
  · exact ((later.modifyTask u fun _ => by rfl).setSlice home _).panic ..
  · exact ((later.modifyTask u fun _ => by rfl).modifyRuntime home _).pause

/-- The next thing that a body does leaves twins. -/
theorem bodyStep (h : Twin t s k) (home : RuntimeId) (u : TaskId) (f : Fiber) :
    Twin t (s.bodyStep home u f) (k.bodyStep home u f) := by
  unfold State.bodyStep
  split
  · exact (h.tell _).modifyTask u fun _ => by rfl
  · split
    · exact takeEffect (h.poll ..) ..
    · exact takeEffect ⟨k, h, rfl⟩ ..
    · exact takeEffect (h.runLine ..) ..

/-! ### Handlers -/

theorem actorState (h : Twin t s k) (a : ActorId) : k.actorState a = s.actorState a := by
  rw [State.actorState, State.actorState, h.actors]

theorem handlerLine (h : Twin t s k) (home : RuntimeId) (a : ActorId) (code : List Line)
    (frame : Frame) (tag : Tag) (act : Act) :
    Answer.Twins t (s.handlerLine home a code frame tag act)
      (k.handlerLine home a code frame tag act) := by
  have plain := h.plain? ⟨.actor a, some home⟩ frame tag act
  unfold State.handlerLine
  rw [h.actorState]
  dsimp only
  split
  · exact ⟨_, h.modifyActor a _, rfl⟩
  · cases act with
    | ret => exact ⟨k, h, rfl⟩
    | loop times body => cases times <;> exact ⟨k, h, rfl⟩
    | hold =>
      simp only [h.mayPause]
      split
      · exact ⟨_, h.tell _, rfl⟩
      · exact ⟨k, h, rfl⟩
    | blockInside place =>
      simp only [h.places]
      split <;> exact ⟨k, h, rfl⟩
    | _ =>
      dsimp only
      revert plain
      generalize State.plain? s _ _ _ _ = x
      generalize State.plain? k _ _ _ _ = y
      rintro (⟨_, h, rfl⟩ | _)
      · dsimp only
        split <;> exact ⟨_, h, rfl⟩
      · exact ⟨k, h, rfl⟩

theorem answerEffect {x y : Answer} (h : Answer.Twins t x y) (home : RuntimeId) (a : ActorId)
    (handled : Nat) (reply : Option CallId) :
    Twin t (x.takeEffect home a handled reply) (y.takeEffect home a handled reply) := by
  obtain ⟨k, h, rfl⟩ := h
  have later := h.doLast x.after
  unfold Answer.takeEffect
  dsimp only
  split
  · exact (later.setSlice ..).doLast _
  · split
    · exact ((later.setSlice ..).modifyRuntime home _).pause
    · exact later.setSlice ..

/-- The next thing that a handler does leaves twins. -/
theorem handlerStep (h : Twin t s k) (home : RuntimeId) (a : ActorId) (handled : Nat)
    (code : List Line) (frame : Frame) (reply : Option CallId) :
    Twin t (s.handlerStep home a handled code frame reply)
      (k.handlerStep home a handled code frame reply) := by
  unfold State.handlerStep
  refine answerEffect ?_ ..
  split
  · exact ⟨k, h, rfl⟩
  · exact h.handlerLine ..

/-! ### The worker -/

theorem stop (h : Twin t s k) (why : Stop) : Twin t (s.stop why) (k.stop why) :=
  { h with active := rfl, stopped := rfl }

theorem endPending (h : Twin t s k) (home : RuntimeId) (u : TaskId) :
    Twin t (s.endPending home u) (k.endPending home u) := by
  have after := h.setSlice home none
  unfold State.endPending
  dsimp only
  rw [after.phase]
  split
  · exact (after.setPhase ..).doFirst _
  · have ready := after.setPhase u .ready
    rw [ready.get?, ready.priority]
    cases State.tasks _ |>.get? u with
    | none => exact ready
    | some m => exact (ready.doFirst _).enqueue ..

theorem endBody (h : Twin t s k) (home : RuntimeId) (u : TaskId) (ending : Ending) :
    Twin t (s.endBody home u ending) (k.endBody home u ending) := by
  have after : Twin t { s.setSlice home (some (.task u .joining)) with unwinding := none }
      { k.setSlice home (some (.task u .joining)) with unwinding := none } :=
    { h.setSlice home _ with unwinding := rfl }
  have blocking : (k.tasks.get? u).any Task.blocking = (s.tasks.get? u).any Task.blocking := by
    rw [h.get?, Option.any_map]
    rfl
  have fails : ∀ {s k : State} (_ : Twin t s k) (e : TaskError), Twin t
      (let s := s.modifyTask u fun m => { m with outcome := some (.error e) }
      if e.isCancelled then s else (s.log (.bodyFailed u e)).doFirst ((s.children u).map .cancel))
      (let k := k.modifyTask u fun m => { m with outcome := some (.error e) }
      if e.isCancelled then k
      else (k.log (.bodyFailed u e)).doFirst ((k.children u).map .cancel)) := by
    intro s k h e
    have failed := h.modifyTask u (f := fun m => { m with outcome := some (.error e) }) fun _ => rfl
    dsimp only
    rw [failed.children]
    split
    · exact failed
    · exact (failed.log _).doFirst _
  unfold State.endBody
  dsimp only
  rw [blocking]
  cases ending with
  | panicked message => exact fails after (.panicked message)
  | returned result =>
    dsimp only
    split
    · exact after.modifyTask u fun _ => by rfl
    · cases result with
      | ok value => exact after.modifyTask u fun _ => by rfl
      | error e => exact fails after e

theorem complete (h : Twin t s k) (home : RuntimeId) (u : TaskId) :
    Twin t (s.complete home u) (k.complete home u) := by
  unfold State.complete
  dsimp only
  rw [h.bind u fun _ => rfl]
  exact (((h.setPhase ..).log _).setSlice ..).doFirst _

theorem joinChildren (h : Twin t s k) (home : RuntimeId) (u : TaskId) :
    Twin t (s.joinChildren home u) (k.joinChildren home u) := by
  unfold State.joinChildren
  rw [h.children]
  split
  · exact (h.modifyNode ..).complete ..
  · exact (h.modifyNode ..).endPending ..

theorem taskStep (h : Twin t s k) (home : RuntimeId) (u : TaskId) (stage : Stage) :
    Twin t (s.taskStep home u stage) (k.taskStep home u stage) := by
  unfold State.taskStep
  cases stage with
  | polling =>
    dsimp only
    rw [h.get?, h.unwinding]
    cases s.tasks.get? u with
    | none => exact h.setSlice ..
    | some m =>
      dsimp only [Option.map_some, Task.keptAs]
      split
      · exact takeEffect ⟨k, h, rfl⟩ ..
      · exact h.bodyStep ..
      · exact h.joinChildren ..
  | suspending =>
    dsimp only
    rw [h.bind u fun _ => rfl, h.unwinding]
    split
    · exact takeEffect ⟨k, h, rfl⟩ ..
    · exact h.endPending ..
  | ended ending =>
    dsimp only
    rw [h.unwinding]
    exact h.endBody ..
  | joining => exact h.joinChildren ..
  | leaving => exact (h.setSlice ..).doFirst _

theorem endDrain (h : Twin t s k) (home : RuntimeId) (a : ActorId) (handled : Nat) :
    Twin t (s.endDrain home a handled) (k.endDrain home a handled) := by
  have after := (h.setSlice home none).log (.drained a handled)
  unfold State.endDrain
  dsimp only
  rw [after.actors]
  split
  · exact after
  · split
    · exact after.modifyActor ..
    · exact after.enqueue ..

theorem nextMessage (h : Twin t s k) (home : RuntimeId) (a : ActorId) (handled : Nat) :
    Twin t (s.nextMessage home a handled) (k.nextMessage home a handled) := by
  have batch : k.batch home = s.batch home := by rw [State.batch, State.batch, h.runtimes]
  unfold State.nextMessage
  rw [h.actors, batch]
  split
  · exact h.setSlice ..
  · split
    · split
      · exact h.endDrain ..
      · exact (h.modifyActor ..).setSlice ..
    · exact h.endDrain ..

theorem endHandler (h : Twin t s k) (home : RuntimeId) (a : ActorId) (handled : Nat)
    (reply : Option CallId) (result : Except String Int64) :
    Twin t (s.endHandler home a handled reply result)
      (k.endHandler home a handled reply result) := by
  have after := h.setSlice home (some (.drain a (handled + 1) .idle))
  unfold State.endHandler
  dsimp only
  split
  · exact after.doFirst _
  · exact after
  · exact (after.log _).doFirst _
  · exact after.log _

theorem drainStep (h : Twin t s k) (home : RuntimeId) (a : ActorId) (handled : Nat)
    (stage : HandlerStage) :
    Twin t (s.drainStep home a handled stage) (k.drainStep home a handled stage) := by
  cases stage with
  | idle => exact h.nextMessage ..
  | handling code frame reply => exact h.handlerStep ..
  | replying reply result => exact h.endHandler ..

theorem beginTask (h : Twin t s k) (home : RuntimeId) (u : TaskId) :
    Twin t (s.beginTask home u) (k.beginTask home u) := by
  unfold State.beginTask
  rw [h.phase]
  split
  · exact (h.setPhase ..).setSlice ..
  · exact h.doFirst _

theorem meetMarker (h : Twin t s k) (home : RuntimeId) (goal : Goal) (serial : Nat) :
    Twin t (s.meetMarker home goal serial) (k.meetMarker home goal serial) := by
  unfold State.meetMarker
  split
  · split
    · split
      · exact h.stop _
      · exact { h.enqueue .. with active := rfl }
    · exact h
  · exact h

/-- **The next thing a worker does leaves twins.** -/
theorem work (h : Twin t s k) (home : RuntimeId) (goal : Goal) :
    Twin t (s.work home goal) (k.work home goal) := by
  unfold State.work
  rw [h.runtimes]
  split
  · exact h.stop _
  · split
    · exact h.taskStep ..
    · exact h.drainStep ..
    · split
      · exact h.stop _
      · split
        · exact h.stop _
        · have popped := h.modifyRuntime home fun rt => { rt with queue := ‹RunQueue Entry› }
          dsimp only
          split
          · exact popped.beginTask ..
          · exact popped.setSlice ..
          · exact popped.meetMarker ..

end Twin

end Nursery
