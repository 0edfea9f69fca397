import Nursery.Proofs.Line.Plain
import Nursery.Proofs.Node
import Nursery.Proofs.Reachable

/-!
# What the main thread does

A move of the main thread builds a runtime, lets a worker go on, makes or leaves a root task,
closes a runtime, runs a line or shelves what the line has left.

* `State.start_eq`, `State.build_cases` : the moves, as changes to the state.
* `State.shelve_changes` : shelving is a sequence of changes.
* `Move.actors` : only lines of the main thread get at the actors.
-/

namespace Nursery

namespace State

variable {s : State}

theorem foldl_tell_eq (es : List Event) : ∀ s : State,
    ∃ trace, es.foldl tell s = { s with trace := trace } := by
  induction es with
  | nil => exact fun s => ⟨s.trace, rfl⟩
  | cons e es ih =>
    intro s
    obtain ⟨trace, eq⟩ := ih (s.tell e)
    exact ⟨trace, eq⟩

theorem start_eq (s : State) (r : RuntimeId) (goal : Goal) :
    ∃ trace, s.start r goal =
      { s.modifyRuntime r fun rt => { rt with paused := none } with
        trace := trace, active := some (r, goal), stopped := none } := by
  obtain ⟨trace, eq⟩ := foldl_tell_eq (((s.runtimes.get? r).bind Runtime.paused).getD [])
    (s.modifyRuntime r fun rt => { rt with paused := none })
  exact ⟨trace, congrArg (fun s : State => { s with active := some (r, goal), stopped := none }) eq⟩

@[simp]
theorem nodes_start (s : State) (r : RuntimeId) (goal : Goal) :
    (s.start r goal).nodes = s.nodes := by
  obtain ⟨trace, eq⟩ := s.start_eq r goal
  rw [eq]
  rfl

@[simp]
theorem tasks_start (s : State) (r : RuntimeId) (goal : Goal) :
    (s.start r goal).tasks = s.tasks := by
  obtain ⟨trace, eq⟩ := s.start_eq r goal
  rw [eq]
  rfl

theorem build_cases (s : State) (place : Nat) (batch : Option Nat) (stem : Option String) :
    (s.build place batch stem).1 = s ∨ s.places.contains place = false ∧
      ∃ settings, (s.build place batch stem).1 = s.install place settings := by
  unfold build
  split
  · exact .inl rfl
  · rename_i free
    dsimp only
    split
    · exact .inl rfl
    · exact .inl rfl
    · exact .inr ⟨by simpa using free, _, rfl⟩

/-- The resources of a line of the main thread go into the shared table one by one. -/
theorem shelve_changes {c : Context} (frame : Frame) : ∀ (s : State) (hand : List Resource),
    Changes c s (frame.resources ++ hand) (s.shelve frame) hand := by
  induction frame with
  | nil => exact fun s hand => .refl
  | cons item rest ih =>
    intro s hand
    have first : Changes c s (item.2 :: (Frame.resources rest ++ hand))
        ((s.share item.1 item.2).1.doLast (s.share item.1 item.2).2)
        (Frame.resources rest ++ hand) :=
      (Changes.single (.share item.1 rfl)).trans (Changes.releases _)
    exact first.trans (ih _ hand)

end State

/-- A move leaves the actors alone, unless it runs a line or shelves what that has left. -/
theorem Move.actors {s s' : State} {d d' : Desk} (numbered : s.nodes.Numbered TaskId.index)
    (idle : s.agenda = []) (m : Move s d s' d') : s'.actors = s.actors ∨
      ∃ hand hand', Changes { who := .main } s hand s' hand' := by
  have started : ∀ (x : State) (r : RuntimeId) (goal : Goal),
      (x.start r goal).actors = x.actors := by
    intro x r goal
    obtain ⟨trace, eq⟩ := x.start_eq r goal
    rw [eq]
    rfl
  cases m with
  | build place batch stem =>
    rcases s.build_cases place batch stem with same | ⟨-, settings, built⟩
    · exact .inl (by rw [same])
    · exact .inl (by rw [built]; rfl)
  | start | block | join => exact .inl (started _ _ _)
  | @startRounds _ r _ rounds band =>
    left
    obtain ⟨runtimes, agenda, eq⟩ := State.enqueue_eq { s with markers := s.markers + 1 } r band
      (.marker (s.markers + 1))
    rw [State.startRounds, started, eq]
  | @launchRoot _ r _ body =>
    left
    obtain ⟨nodes, trace, -, eq⟩ := State.launch_addNode_eq numbered .normal none r body true
    obtain ⟨runtimes, agenda, queued⟩ := State.enqueue_eq _ r .normal (.task s.nextNode)
    rw [State.launchRoot, eq, queued]
  | leaveRoot | close => exact .inl rfl
  | line plain => exact .inr ⟨_, _, State.plain?_fits idle plain⟩
  | @shelve f => exact .inr ⟨_, _, State.shelve_changes f s []⟩

end Nursery
