import Nursery.Machine.Handler
import Nursery.Proofs.Line.Wait

/-!
# Bodies and handlers, as changes

What a body does next is a turn that fits, whichever line it is at: its lines, the start of its
first slice and its end alike.  What a handler does next is a sequence of changes that ends with
the resources of the frame it leaves.

* `State.runLine_fits` : a line of a body.
* `State.bodyTurn` : the turn of a body that has begun; `State.bodyTurn_fits`, it fits.
* `State.bodyStep_turn` : the next thing that a body does.
* `State.handlerLine_fits` : a line of a handler.
* `State.runLine_pauses`, `State.handlerLine_pauses` : a worker pauses only when it may.
-/

namespace Nursery

theorem Turn.nodes_takeEffect (turn : Turn) (home : RuntimeId) (t : TaskId) :
    (turn.takeEffect home t).nodes = turn.state.nodes := by
  obtain ⟨s, f', after, flow⟩ := turn
  cases flow <;> rfl

namespace State

variable {c : Context} {s s' : State} {hand : List Resource} {t : TaskId} {f : Fiber} {tag : Tag}
  {attempt : Attempt} {home : RuntimeId}

/-! ### Lines of a body -/

theorem awaitNamed_fits (idle : s.agenda = []) (me : c.task = some t) {keep : Bool}
    (hf : f.waiting = none) :
    (s.awaitNamed t f tag keep attempt).Fits c s f.frame.resources t := by
  unfold awaitNamed
  have adopted := adopt_changes (c := c) s f.frame tag.target
  have idle' := (agenda_adopt s f.frame tag.target).trans idle
  generalize s.adopt f.frame tag.target = p at adopted idle' ⊢
  obtain ⟨s', frame⟩ := p
  dsimp only at adopted idle' ⊢
  split
  · exact tells_fits adopted hf
  · exact tells_fits adopted hf
  · rename_i r single found
    have single' : ∀ g, r ≠ .group g := fun g hg => single g hg
    cases keep with
    | true =>
      exact awaitResource_fits idle' me single' hf adopted
        (Frame.mem_resources_of_find? found)
    | false =>
      exact awaitResource_fits idle' me single' hf (adopted.trans (take_changes found))
        List.mem_cons_self

theorem pollNamed_fits (idle : s.agenda = []) (me : c.task = some t) {keep : Bool}
    (hf : f.waiting = none) :
    (s.pollNamed t f tag keep attempt).Fits c s f.frame.resources t := by
  unfold pollNamed
  have adopted := adopt_changes (c := c) s f.frame tag.target
  have idle' := (agenda_adopt s f.frame tag.target).trans idle
  generalize s.adopt f.frame tag.target = p at adopted idle' ⊢
  obtain ⟨s', frame⟩ := p
  dsimp only at adopted idle' ⊢
  split
  · exact tells_fits adopted hf
  · rename_i r found
    have looked : Changes c s f.frame.resources (s'.pollResource t r).1 frame.resources := by
      cases r with
      | handle u =>
        exact adopted.trans (pollResource_fits idle' me (Frame.mem_resources_of_find? found)
          (by simp) true).1
      | group g => exact adopted
      | call k =>
        exact adopted.trans (pollResource_fits idle' me (Frame.mem_resources_of_find? found)
          (by simp) true).1
    generalize s'.pollResource t r = p at looked ⊢
    obtain ⟨s'', polled⟩ := p
    cases polled with
    | ready harvest =>
      dsimp only
      split
      · exact harvest_fits (by rwa [doLast_nil]) hf
      · exact harvest_fits ((looked.trans (take_changes found)).tail (.release rfl)) hf
    | pending => exact tells_fits looked hf
    | panics message => exact settled_fits (by rwa [doLast_nil]) hf (by simp)

theorem count_takeHandles (names : List String) (r : Resource) : ∀ frame : Frame,
    (((takeHandles names frame).1.map fun h => Resource.handle h.2) ++
      (takeHandles names frame).2.resources).count r ≤ frame.resources.count r := by
  induction names with
  | nil => intro frame; simp [takeHandles]
  | cons name rest ih =>
    intro frame
    rw [takeHandles]
    split
    · rename_i u found
      have := ih (frame.without name)
      have taken := Frame.count_without frame name r
      rw [found] at taken
      simp only [List.map_cons, List.count_append, List.count_cons, Option.toList_some,
        List.count_nil] at *
      omega
    · rename_i x _ found
      have := ih (frame.bind name x)
      have taken := Frame.count_bind frame name x r
      rw [found] at taken
      simp only [List.count_append, List.count_cons, Option.toList_some, List.count_nil] at *
      omega
    · exact ih frame

theorem adoptGroup_eq (s : State) (frame : Frame) (name : String) :
    ∃ shared, (s.adoptGroup frame name).1 = { s with shared := shared } := by
  obtain ⟨shared, eq⟩ := adopt_eq s frame name
  refine ⟨shared, ?_⟩
  unfold adoptGroup
  dsimp only
  split <;> exact eq

theorem Looks.adoptGroup (h : s.Looks c) (frame : Frame) (name : String) :
    (s.adoptGroup frame name).1.Looks c := by
  obtain ⟨shared, eq⟩ := adoptGroup_eq s frame name
  rw [eq]
  exact ⟨h.body, h.calm⟩

theorem adoptGroup_changes (idle : s.agenda = []) (frame : Frame) (name : String) :
    Changes c s frame.resources (s.adoptGroup frame name).1
        (s.adoptGroup frame name).2.1.resources ∧
      (s.adoptGroup frame name).1.agenda = [] ∧
      ∀ g, (s.adoptGroup frame name).2.2 = some g →
        .group g ∈ (s.adoptGroup frame name).2.1.resources := by
  unfold adoptGroup
  have adopted := adopt_changes (c := c) s frame name
  have idle' := (agenda_adopt s frame name).trans idle
  generalize s.adopt frame name = p at adopted idle' ⊢
  obtain ⟨s', frame'⟩ := p
  dsimp only at adopted idle' ⊢
  split
  · rename_i g found
    refine ⟨adopted, idle', fun g' hg => ?_⟩
    cases hg
    exact Frame.mem_resources_of_find? found
  · exact ⟨adopted, idle', fun g' hg => by simp at hg⟩

/-- **A line of a body is a turn that fits.** -/
theorem runLine_fits (idle : s.agenda = []) (hf : f.waiting = none) (act : Act)
    (looks : act.looks = true → s.Looks ⟨.task t, some home⟩) :
    (s.runLine home t f tag act).Fits ⟨.task t, some home⟩ s f.frame.resources t := by
  have tells : ∀ report,
      (s.tells t f tag report).Fits ⟨.task t, some home⟩ s f.frame.resources t :=
    fun _ => tells_fits .refl hf
  have nothing : Changes ⟨.task t, some home⟩ s f.frame.resources (s.doLast [])
      f.frame.resources := by
    rw [doLast_nil]
    exact .refl
  have adopted := adoptGroup_changes (c := ⟨.task t, some home⟩) idle f.frame tag.target
  unfold runLine
  split
  · -- the body ends, in four ways
    exact settled_fits nothing hf (by simp)
  · exact settled_fits nothing hf (by simp)
  · exact settled_fits nothing hf (by simp)
  · exact settled_fits nothing hf (by simp)
  · -- a check whether it was cancelled
    split
    · exact settled_fits (Changes.tells ..) hf (by simp)
    · exact tells _
  · -- it gives way a number of times, or until it is cancelled
    exact giveWay_fits idle rfl hf
  · exact spin_fits idle rfl hf
  · -- it parks itself
    refine suspends_fits ?_ trivial (.inl trivial)
    rw [doLast_append]
    exact (Changes.single (.park tag.binding rfl)).tail (.record _ ⟨rfl, rfl⟩)
  · -- it wakes itself
    refine settled_fits ?_ hf (by simp)
    rw [doLast_append]
    refine Changes.trans ?_ (Changes.tells ..)
    split
    · exact nothing
    · exact .single (.wake idle (.inl rfl))
  · -- a loop, and a choice by whether it was cancelled
    split
    · exact settled_fits nothing hf (by simp)
    · exact settled_fits nothing hf (by simp)
  · exact settled_fits nothing hf (by simp)
  · -- it waits for a task or a call, or looks at it once
    exact awaitNamed_fits idle rfl hf
  · exact pollNamed_fits idle rfl hf
  · -- it waits for the first of several tasks
    rename_i names attempt
    have taken : Changes ⟨.task t, some home⟩ s f.frame.resources s
        (((takeHandles names f.frame).1.map fun h => Resource.handle h.2) ++
          (takeHandles names f.frame).2.resources) :=
      .shed fun r => count_takeHandles names r f.frame
    generalize takeHandles names f.frame = p at taken ⊢
    obtain ⟨handles, frame⟩ := p
    dsimp only at taken ⊢
    split
    · rename_i none_taken
      rw [List.isEmpty_iff.1 none_taken] at taken
      exact tells_fits taken hf
    · exact awaitFirst_fits rfl hf taken
  · -- it waits for the next result of a group, or for all
    have looks' := (looks rfl).adoptGroup f.frame tag.target
    generalize s.adoptGroup f.frame tag.target = p at adopted looks' ⊢
    obtain ⟨s', frame, _ | g⟩ := p
    · exact tells_fits adopted.1 hf
    · exact awaitNext_fits looks' adopted.2.1 rfl hf adopted.1 (adopted.2.2 g rfl)
  · have looks' := (looks rfl).adoptGroup f.frame tag.target
    generalize s.adoptGroup f.frame tag.target = p at adopted looks' ⊢
    obtain ⟨s', frame, _ | g⟩ := p
    · exact tells_fits adopted.1 hf
    · exact awaitAll_fits looks' adopted.2.1 rfl hf adopted.1 (adopted.2.2 g rfl)
  · -- a group of its own
    refine ⟨?_, fun w hw => ?_, fun hs => by simp at hs⟩
    · rw [doLast_nil]
      exact .single (.group idle rfl)
    · cases hw
      exact List.mem_cons_self
  · -- it holds the worker
    split
    · refine settled_fits ?_ hf (by simp)
      rw [doLast_nil]
      exact .single (.tell _ (.inl rfl) rfl)
    · exact tells _
  · split
    · exact settled_fits nothing hf (by simp)
    · exact tells _
  · -- any other line does not wait
    split
    · exact tells _
    · rename_i reaction plain
      have done := plain?_fits idle plain
      dsimp only
      split
      · refine settled_fits ?_ hf (by simp)
        rw [doLast_append]
        exact done.trans (Changes.tells ..)
      · exact settled_fits done hf (by simp)

theorem pollNamed_goes_on {keep : Bool} :
    (s.pollNamed t f tag keep attempt).flow.pauses = false := by
  unfold pollNamed
  dsimp only
  split
  · rfl
  · split
    · split <;> exact harvest_goes_on
    · rfl
    · rfl

theorem awaitNamed_goes_on {keep : Bool} :
    (s.awaitNamed t f tag keep attempt).flow.pauses = false := by
  unfold awaitNamed
  dsimp only
  split
  · rfl
  · rfl
  · exact awaitResource_goes_on

/-- A line pauses the worker only when it may, and tells that it went on afterwards. -/
theorem runLine_pauses (act : Act) (pauses : (s.runLine home t f tag act).flow.pauses = true) :
    s.mayPause = true ∧ (s.runLine home t f tag act).flow =
      .pause (tag.events (.task t) (.text "resumed")) := by
  suffices key : (s.runLine home t f tag act).flow.pauses = false ∨ s.mayPause = true ∧
      (s.runLine home t f tag act).flow = .pause (tag.events (.task t) (.text "resumed")) from
    key.resolve_left (by simp [pauses])
  clear pauses
  unfold runLine
  split
  · -- the body ends, in four ways
    exact .inl rfl
  · exact .inl rfl
  · exact .inl rfl
  · exact .inl rfl
  · -- a check whether it was cancelled
    split <;> exact .inl rfl
  · -- it gives way a number of times, or until it is cancelled
    exact .inl giveWay_goes_on
  · exact .inl spin_goes_on
  · -- it parks itself
    exact .inl rfl
  · -- it wakes itself
    exact .inl rfl
  · -- a loop, and a choice by whether it was cancelled
    split <;> exact .inl rfl
  · exact .inl rfl
  · -- it waits for a task or a call, or looks at it once
    exact .inl awaitNamed_goes_on
  · exact .inl pollNamed_goes_on
  · -- it waits for the first of several tasks
    dsimp only
    split
    · exact .inl rfl
    · exact .inl awaitFirst_goes_on
  · -- it waits for the next result of a group, or for all
    split
    · exact .inl awaitNext_goes_on
    · exact .inl rfl
  · split
    · exact .inl awaitAll_goes_on
    · exact .inl rfl
  · -- a group of its own
    exact .inl rfl
  · -- it holds the worker
    split
    · rename_i may
      exact .inr ⟨may, rfl⟩
    · exact .inl rfl
  · split <;> exact .inl rfl
  · -- any other line does not wait
    split
    · exact .inl rfl
    · dsimp only
      split <;> exact .inl rfl

theorem pauses_fairly {flow : Flow} (pauses : flow.pauses = true →
      s.mayPause = true ∧ flow = .pause (tag.events (.task t) (.text "resumed"))) :
    ∀ later, flow = .pause later → s.mayPause = true ∧ ∀ e ∈ later, e.Fair := by
  rintro later rfl
  obtain ⟨may, told⟩ := pauses rfl
  cases told
  exact ⟨may, tag.fair_events _ _⟩

/-- The turn of a body that has begun: it looks again where it waits, or goes to the next line. -/
def bodyTurn (s : State) (home : RuntimeId) (t : TaskId) (f : Fiber) : Turn :=
  match f.waiting, f.code with
  | some w, _ => s.poll t f w
  | none, [] => { state := s, fiber := f, flow := .finish (.ok 0) }
  | none, .mk tag act :: rest => s.runLine home t { f with code := rest } tag act

theorem bodyStep_eq (begun : f.begun = true) :
    s.bodyStep home t f = (s.bodyTurn home t f).takeEffect home t := by
  simp only [bodyStep, begun, reduceCtorEq, if_false, bodyTurn]
  split <;> simp_all only

/-- A turn of a body fits.  It pauses the worker only when it may. -/
theorem bodyTurn_fits (idle : s.agenda = []) {task : Task}
    (during : s.slice home = some (.task t .polling)) (found : s.tasks.get? t = some task)
    (stored : task.fiber = some f) (calm : s.unwinding = none)
    (own : ∀ w, f.waiting = some w → w.wait.OnOwn f.resources) (begun : f.begun = true) :
    (s.bodyTurn home t f).Fits ⟨.task t, some home⟩ s f.resources t ∧
      ∀ later, (s.bodyTurn home t f).flow = .pause later →
        s.mayPause = true ∧ ∀ e ∈ later, e.Fair := by
  have looks : f.looks = true → s.Looks ⟨.task t, some home⟩ := fun looks =>
    ⟨⟨home, t, task, f, rfl, during, found, stored, looks⟩, calm⟩
  unfold bodyTurn
  split
  · rename_i w hw
    refine ⟨poll_fits idle rfl (fun due => looks ?_) hw (own w hw), fun later pauses => ?_⟩
    · simp [Fiber.looks, begun, hw, due]
    · cases (poll_goes_on (w := w)).symm.trans (congrArg Flow.pauses pauses)
  · rename_i hf _
    rw [resources_of_waiting hf]
    exact ⟨settled_fits (by rw [doLast_nil]; exact .refl) hf (by simp),
      fun later pauses => (by cases pauses)⟩
  · rename_i tag act rest hf next
    rw [resources_of_waiting hf]
    refine ⟨runLine_fits (f := { f with code := rest }) idle hf act (fun due => looks ?_),
      pauses_fairly (runLine_pauses act)⟩
    simp [Fiber.looks, begun, hf, next, due]

/-- **The next thing that a body does is a turn that fits.**  It pauses the worker only when it
may. -/
theorem bodyStep_turn (idle : s.agenda = []) {task : Task}
    (during : s.slice home = some (.task t .polling)) (found : s.tasks.get? t = some task)
    (stored : task.fiber = some f) (calm : s.unwinding = none)
    (own : ∀ w, f.waiting = some w → w.wait.OnOwn f.resources) :
    ∃ turn : Turn, turn.Fits ⟨.task t, some home⟩ s f.resources t ∧
      (∀ later, turn.flow = .pause later →
        s.mayPause = true ∧ ∀ e ∈ later, e.Fair) ∧
      s.bodyStep home t f = turn.takeEffect home t := by
  cases begun : f.begun with
  | true =>
    obtain ⟨fits, may⟩ := bodyTurn_fits idle during found stored calm own begun
    exact ⟨_, fits, may, bodyStep_eq begun⟩
  | false =>
    refine ⟨{ state := s.tell (.told (.task t) "begin" .nothing),
              fiber := { f with begun := true } }, ⟨?_, own, fun hs => by simp at hs⟩,
            fun later pauses => (by cases pauses), ?_⟩
    · rw [doLast_nil]
      exact .single (.tell _ (.inl rfl) rfl)
    · rw [bodyStep, if_pos begun]
      exact congrArg (State.modifyTask · t _) (doLast_nil _).symm

theorem unwind_fits {message : String} (own : ∀ w, f.waiting = some w → w.wait.OnOwn f.resources) :
    Turn.Fits c s f.resources t { state := s, fiber := f, flow := .panic message [] } := by
  refine ⟨?_, own, fun hs => by simp at hs⟩
  rw [doLast_nil]
  exact .refl

/-! ### Lines of a handler -/

end State

/-- What a line of a handler has done is a sequence of changes. -/
def Answer.Fits (c : Context) (s : State) (frame : Frame) (answer : Answer) : Prop :=
  Changes c s frame.resources (answer.state.doLast answer.after) answer.frame.resources

namespace State

variable {c : Context} {s : State} {tag : Tag} {home : RuntimeId}

/-- **A line of a handler is a sequence of changes.** -/
theorem handlerLine_fits (idle : s.agenda = []) {a : ActorId} {code : List Line} {frame : Frame}
    {act : Act} :
    (s.handlerLine home a code frame tag act).Fits ⟨.actor a, some home⟩ s frame := by
  have nothing : Changes ⟨.actor a, some home⟩ s frame.resources (s.doLast []) frame.resources := by
    rw [doLast_nil]
    exact .refl
  have told : ∀ report, Changes ⟨.actor a, some home⟩ s frame.resources
      (s.doLast (tag.tells (.actor a) report)) frame.resources := fun _ => Changes.tells ..
  unfold handlerLine
  dsimp only
  split
  · rename_i xs report _
    exact (Changes.single (.state rfl xs)).trans (Changes.tells ..)
  · split
    · exact nothing
    · exact nothing
    · exact nothing
    · split
      · exact (Changes.single (.tell _ (.inl rfl) rfl)).trans (by rw [doLast_nil]; exact .refl)
      · exact told _
    · split
      · exact nothing
      · exact told _
    · split
      · exact told _
      · rename_i reaction plain
        have done := plain?_fits idle plain
        split
        · change Changes _ _ _ (State.doLast _ _) _
          rw [doLast_append]
          exact done.trans (Changes.tells ..)
        · exact done

/-- A line of a handler pauses the worker only when it may, and tells that it went on afterwards. -/
theorem handlerLine_pauses {a : ActorId} {code : List Line} {frame : Frame} {act : Act}
    {later : List Event} (pauses : (s.handlerLine home a code frame tag act).pause = some later) :
    s.mayPause = true ∧ ∀ e ∈ later, e.Fair := by
  suffices key : (s.handlerLine home a code frame tag act).pause = none ∨ s.mayPause = true ∧
      (s.handlerLine home a code frame tag act).pause =
        some (tag.events (.actor a) (.text "resumed")) by
    obtain ⟨may, told⟩ := key.resolve_left (by simp [pauses])
    cases pauses.symm.trans told
    exact ⟨may, tag.fair_events _ _⟩
  clear pauses
  unfold handlerLine
  dsimp only
  split
  · exact .inl rfl
  · split
    · exact .inl rfl
    · exact .inl rfl
    · exact .inl rfl
    · split
      · rename_i may
        exact .inr ⟨may, rfl⟩
      · exact .inl rfl
    · split <;> exact .inl rfl
    · split
      · exact .inl rfl
      · split <;> exact .inl rfl

end State

end Nursery
