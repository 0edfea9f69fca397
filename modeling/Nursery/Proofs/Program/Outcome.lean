import Nursery.Proofs.Completion
import Nursery.Proofs.Program.Rest

/-!
# A program comes to what it says

The main thread blocks on a program, on a runtime with one worker.  However the slices of its tasks
fall, and in whatever bands they run, the worker comes to the end of it: nothing is queued any more
and every task has ended.  What the main thread learns then is what the program comes to when each
child is evaluated where it is waited for.

* `Idle` : a runtime has nothing to do.
* `Idle.engaged` : it begins to work on a program.
* `Engaged.report` : the main thread learns what it has come to.
* `Concluded` : a program is over, and what is left of it is cleared up.
* `Idle.evaluates` : a program ends on a runtime that has nothing to do.
* `blockOn_evaluates` : **a program ends, and comes to what its evaluation comes to.**
-/

namespace Nursery

/-! ### A worker is let go on -/

section

variable {s : State} {root : TaskId} {home : RuntimeId} {fate : TaskId → Ending} {d : Desk}

theorem Programs.start (h : Programs s root home) (goal : Goal) :
    Programs (s.start home goal) root home := by
  obtain ⟨trace, eq⟩ := s.start_eq home goal
  have moved := h.modifyRuntime (f := fun rt => { rt with paused := none }) (fun _ => rfl)
    (fun rt _ e queued => .inl queued) fun _ => .inl rfl
  rw [eq]
  exact { moved with active := fun r goal goes => by cases goes; rfl }

theorem Staffed.start (h : Staffed s home) (goal : Goal) : Staffed (s.start home goal) home := by
  obtain ⟨trace, eq⟩ := s.start_eq home goal
  have moved := h.modifyRuntime (f := fun rt => { rt with paused := none }) fun _ => rfl
  rw [eq]
  exact { moved with }

theorem Fated.start (sound : Sound s d) (free : s.slice home = none) (h : Fated s fate home)
    (goal : Goal) : Fated (s.start home goal) fate home := by
  refine h.keep sound (State.tasks_start ..) (fun u => ?_) (by simp [free]) ?_
  · rw [State.Spent, State.Spent, State.phase, State.nodes_start, State.tasks_start]
    rfl
  · simp [State.slice_start, free]

end

/-! ### The beginning -/

/-- A runtime has nothing to do, and nothing has been done yet. -/
structure Idle (s : State) (home : RuntimeId) : Prop where
  /-- The main thread has nothing in hand. -/
  reachable : Reachable s .clear
  /-- There are no nodes. -/
  nodes : s.nodes = {}
  /-- There are no tasks. -/
  tasks : s.tasks = {}
  /-- Nothing is shared. -/
  bare : s.shared = []
  /-- Nothing remains to be done. -/
  agenda : s.agenda = []
  /-- No worker goes on. -/
  still : s.active = none
  /-- No panic is in the air. -/
  calm : s.unwinding = none
  /-- The runtime is open, and nothing is queued. -/
  runtime : ∃ rt, s.runtimes.get? home = some rt ∧ rt.closed = false ∧ rt.slice = none ∧
    rt.queue.toList = []

namespace Idle

variable {s : State} {home : RuntimeId}

theorem resting (h : Idle s home) : s.resting = true := by
  simp [State.resting, h.agenda, h.still]

theorem slice (h : Idle s home) : s.slice home = none := by
  obtain ⟨rt, built, -, free, -⟩ := h.runtime
  simp [State.slice, built, free]

theorem unknown (h : Idle s home) (n : TaskId) : s.nodes.get? n = none := by
  rw [h.nodes]
  rfl

theorem start (h : Idle s home) {place : Nat} (placed : s.places.get? place = some home) :
    ∃ s', Idle s' home ∧ s'.stopped ≠ some .held ∧ s'.places = s.places ∧
      ∀ limit ≥ 1, State.run limit (s.start home .quiet) = s' := by
  obtain ⟨rt, built, running, free, empty⟩ := h.runtime
  have started := h.reachable.next (.move h.resting (.start placed))
  have next : Reachable (s.start home .quiet).step .clear := started.next .step
  obtain ⟨trace, eq⟩ := s.start_eq home .quiet
  have there : (s.start home .quiet).runtimes.get? home = some { rt with paused := none } := by
    rw [eq]
    show (s.runtimes.modify home _).get? home = _
    rw [Store.get?_modify_self, built]
    rfl
  have none_left : rt.queue.pop? = none := by
    cases pop : rt.queue.pop? with
    | none => rfl
    | some found =>
      rw [RunQueue.toList_pop? pop] at empty
      cases empty
  -- the worker finds nothing to do and stops at once
  have stops : (s.start home .quiet).step = (s.start home .quiet).stop .quiet := by
    have agenda : (s.start home .quiet).agenda = [] := by rw [eq]; exact h.agenda
    have active : (s.start home .quiet).active = some (home, .quiet) := by rw [eq]
    rw [State.step, agenda, active]
    simp only [State.work, there, free, running, none_left, Bool.false_eq_true, if_false]
  refine ⟨(s.start home .quiet).step, ?_, ?_, ?_, fun limit more => ?_⟩
  · rw [stops] at next ⊢
    refine ⟨next, ?_, ?_, ?_, ?_, rfl, ?_, ⟨_, there, running, free, empty⟩⟩
    all_goals rw [eq]
    · exact h.nodes
    · exact h.tasks
    · exact h.bare
    · exact h.agenda
    · exact h.calm
  · rw [stops]
    simp [State.stop]
  · rw [stops, eq]
    rfl
  · obtain ⟨limit, rfl⟩ := Nat.exists_eq_succ_of_ne_zero (by omega : limit ≠ 0)
    have busy : (s.start home .quiet).resting = false := by
      rw [eq]
      simp [State.resting]
    rw [State.run, busy]
    refine State.run_of_resting ?_ limit
    have agenda : ((s.start home .quiet).stop .quiet).agenda = [] := by rw [eq]; exact h.agenda
    rw [stops, State.resting, agenda]
    rfl

theorem programs (h : Idle s home) (root : TaskId) : Programs s root home where
  bare := h.bare
  kind n node found := by simp [h.unknown] at found
  distinct := h.nodes ▸ Store.distinct_empty
  agenda a due := by simp [h.agenda] at due
  tasks t m found := by simp [h.tasks, Store.get?, Store.lookup] at found
  runtime := by
    obtain ⟨rt, built, running, free, empty⟩ := h.runtime
    refine ⟨rt, built, running, ?_, ?_⟩
    · simp [empty]
    · simp [free]
  active r goal goes := by simp [h.still] at goes

theorem staffed (h : Idle s home) : Staffed s home where
  unwinds message raised := by simp [h.calm] at raised
  there n known := absurd (h.unknown n) known
  bodiless t m found := by simp [h.tasks, Store.get?, Store.lookup] at found
  busy t up := by simp [State.phase, h.unknown] at up

theorem fated (h : Idle s home) (fate : TaskId → Ending) : Fated s fate home where
  bodies t m f found := by simp [h.tasks, Store.get?, Store.lookup] at found
  ended t ending during := by simp [h.slice] at during
  kept t m found := by simp [h.tasks, Store.get?, Store.lookup] at found

/-- The main thread blocks on a program, and the runtime begins to work on it. -/
theorem engaged (h : Idle s home) {place : Nat} (placed : s.places.get? place = some home)
    {body : List Line} (isolated : linesIsolated body = true) :
    (s.launchRoot home body).resting = true ∧
      Engaged ((s.launchRoot home body).start home .blocking) s.nextNode home
        (evaluateInline body [] 0) := by
  have sound := h.reachable.sound
  have formed := sound.formed
  have before := h.programs s.nextNode
  have launched := h.reachable.next (.move h.resting (.launchRoot placed body))
  obtain ⟨nodes, trace, grown, eq⟩ := before.launch_eq formed .normal none body true
  have tasks := before.tasks_launch formed .normal none body true
  have slice := (Keeps.launch formed .normal none home body true).slice home
  have programs : Programs (s.launchRoot home body) s.nextNode home :=
    before.launch formed .normal isolated (iff_of_true rfl rfl)
  have staffed : Staffed (s.launchRoot home body) home :=
    h.staffed.launch before formed h.agenda .normal none body true
  have fated := (h.fated fun _ => .panicked "").launch sound before (fun u ending during => by
    simp [h.slice] at during) .normal none body true
  have rests : (s.launchRoot home body).resting = true := by
    rw [State.launchRoot, eq]
    simpa [State.resting, State.modifyRuntime, h.still] using h.agenda
  refine ⟨rests, ?_⟩
  have started := launched.next (.move rests .block)
  have launch : ∀ n, (s.launchRoot home body).nodes.get? n = nodes.get? n := by
    intro n
    rw [State.launchRoot, eq]
    rfl
  -- the root is all there is
  have alone : ∀ n node, nodes.get? n = some node → n = s.nextNode ∧ node.children = [] := by
    intro n node found
    rcases grown.origin formed.nodes found with ⟨b, rfl, rfl⟩ | ⟨m, old, -⟩
    · exact ⟨rfl, rfl⟩
    · rw [h.unknown] at old
      cases old
  exact {
    reachable := started
    programs := programs.start _
    staffed := staffed.start _
    fated := ⟨_, Function.update_self .., fated.start launched.sound (slice.trans h.slice) _⟩
    rooted := by
      obtain ⟨b, made⟩ := grown.new
      rw [State.nodes_start, launch, made]
      simp
    elders := by
      intro t m f u found fiber mine
      rw [State.tasks_start, State.launchRoot, tasks, Store.get?_set] at found
      split at found
      · cases found
        cases fiber
        cases mine
      · simp [h.tasks, Store.get?, Store.lookup] at found
    reaping := by
      intro p above c found goes listed
      rw [State.nodes_start, launch] at found
      rw [(alone p above found).2] at listed
      cases listed
    quiet := fun still => by
      obtain ⟨trace, eq⟩ := (s.launchRoot home body).start_eq home .blocking
      rw [eq] at still
      cases still }

theorem of_build {place : Nat} {batch : Option Nat} {stem : Option String}
    (placed : (({} : State).build place batch stem).1.places.get? place = some home) :
    Idle (({} : State).build place batch stem).1 home := by
  have reachable : Reachable (({} : State).build place batch stem).1 .clear :=
    .next .init (.move rfl (.build place batch stem))
  rcases State.build_cases {} place batch stem with same | ⟨-, settings, installed⟩
  · rw [same] at placed
    cases placed
  · rw [installed] at placed reachable ⊢
    rw [State.install, Store.get?_set_self] at placed
    cases placed
    exact ⟨reachable, rfl, rfl, rfl, rfl, rfl, rfl, _, Store.get?_set_self, rfl, rfl, rfl⟩

end Idle

/-! ### The end -/

section

variable {s s' : State} {root : TaskId} {home : RuntimeId} {ending : Ending}

/-- The main thread learns what the root has come to. -/
theorem Ending.Kept.report {m : Task} (kept : ending.Kept m) (blocking : m.blocking = true)
    (found : s.tasks.get? root = some m) (ended : (s.phase root).isTerminal = true) :
    s.blockReport root = ending.report := by
  unfold Ending.Kept at kept
  rw [blocking] at kept
  rw [State.blockReport, if_pos ended, found, Option.bind_some, Option.bind_some]
  cases ending with
  | panicked message => rw [kept]; rfl
  | returned result =>
    obtain ⟨outcome, answer⟩ := kept
    rw [outcome, answer]
    cases result <;> rfl

theorem Engaged.report (h : Engaged s root home ending) (rests : s.resting = true) :
    s.blockReport root = ending.report := by
  have sound := h.reachable.sound
  have elapsed := h.ended rests root h.rooted
  have free := (h.quiet (State.still_of_resting rests)).2.1
  -- the main thread holds the handle of the root
  obtain ⟨m, found, -⟩ : s.Has (.handle root) := sound.own.there (.handle root) (by
    simp [Desk.resources])
  have blocking := (h.programs.tasks root m found).blocking.2 rfl
  obtain ⟨fate, rfl, fated⟩ := h.fated
  have gone := h.staffed.bodiless root m found elapsed
  rcases fated.kept root m found gone (by simp [free]) with kept | ⟨no, -⟩
  · exact kept.report blocking found elapsed
  · cases blocking.symm.trans no

/-- A program is over, and what is left of it is cleared up. -/
structure Concluded (s : State) (root : TaskId) (home : RuntimeId) : Prop where
  /-- The main thread has nothing in hand. -/
  reachable : Reachable s .clear
  /-- Nothing but programs is there. -/
  programs : Programs s root home
  /-- Nobody is lost. -/
  staffed : Staffed s home
  /-- No worker goes on. -/
  still : s.active = none
  /-- The root is there. -/
  rooted : s.nodes.get? root ≠ none
  /-- Every task has ended. -/
  ended : ∀ n, s.nodes.get? n ≠ none → (s.phase n).isTerminal = true

/-- The main thread drops the handle of the root. -/
theorem Engaged.leave (h : Engaged s root home ending) (rests : s.resting = true) :
    Concluded (s.leaveRoot root) root home where
  reachable := h.reachable.next (.move rests (.leaveRoot (h.ended rests root h.rooted)))
  programs := by
    refine (h.programs.modifyTask root fun m hm => ?_).doFirst fun a due => ?_
    · exact { hm with }
    · rw [List.mem_singleton.1 due]
      rfl
  staffed := by
    have taken := h.staffed.modifyTask (t := root) (f := fun m => { m with outcome := none })
      fun m _ none => none
    exact taken.doFirst fun n => by simp
  still := by
    show s.active = none
    exact State.still_of_resting rests
  rooted := h.rooted
  ended := h.ended rests

namespace Concluded

theorem step (h : Concluded s root home) (busy : s.resting = false) :
    Concluded s.step root home ∧ Lessens home s s.step := by
  have sound := h.reachable.sound
  have next : Reachable s.step .clear := h.reachable.next .step
  cases agenda : s.agenda with
  | nil => simp [State.resting, agenda, h.still] at busy
  | cons a rest =>
    obtain ⟨s₀, first, eq⟩ : ∃ s₀ : State, s = s₀.doFirst [a] ∧ s.step = s₀.perform a :=
      ⟨{ s with agenda := rest }, by simp [State.doFirst, ← agenda], by rw [State.step, agenda]⟩
    subst first
    have e := State.perform_effect (s := s₀) a
    rw [← eq] at e
    have formed : Formed s₀ := { sound.formed with }
    refine ⟨{
      reachable := next
      programs := Programs.effect e h.programs
      staffed := Staffed.effect sound h.programs e h.staffed
      still := e.active.trans h.still
      rooted := ?_
      ended := fun n known => ?_ }, e.lessens formed h.programs⟩
    · obtain ⟨node, known⟩ := Option.ne_none_iff_exists'.1 h.rooted
      obtain ⟨node', known', -⟩ := Lasts.effect e root node known
      simp [known']
    · rw [e.isTerminal formed]
      exact h.ended n (e.known known)

theorem queued (h : Concluded s root home) : s.queued home = 0 := by
  have sound := h.reachable.sound
  obtain ⟨rt, built, -, tasks, -⟩ := h.programs.runtime
  have empty : rt.queue.toList = [] := by
    refine List.eq_nil_iff_forall_not_mem.2 fun e queued => ?_
    obtain ⟨t, rfl⟩ := tasks e queued
    have ready := (sound.dispatch.mem_queue built queued).2
    obtain ⟨node, known, -⟩ := State.get?_of_phase ready (by simp)
    have elapsed := h.ended t (by simp [known])
    rw [ready] at elapsed
    cases elapsed
  rw [State.queued, built, Option.map_some, Option.getD_some, empty, List.length_nil]

end Concluded

end

/-- A program on whose root the main thread blocks ends, where nothing was done before. -/
theorem Idle.evaluates {s : State} {place : Nat} {home : RuntimeId} {body : List Line}
    (h : Idle s home) (placed : s.places.get? place = some home)
    (isolated : linesIsolated body = true) :
    ∃ enough s', (∀ limit ≥ enough,
        State.blockOn limit s place body = (s', (evaluateInline body [] 0).report)) ∧
      s'.resting = true ∧ Concluded s' ⟨0⟩ home := by
  obtain ⟨s₁, idle, unheld, places, first⟩ := h.start placed
  obtain ⟨rests₁, engaged⟩ := idle.engaged (by rw [places, placed]) isolated
  obtain ⟨enough₁, s₂, worked, rests₂, second⟩ :=
    Lessens.rests (fun s (h : Engaged s _ home _) => h.step) engaged
  obtain ⟨enough₂, s₃, elapsed, rests₃, third⟩ :=
    Lessens.rests (fun s (h : Concluded s _ home) => h.step) (worked.leave rests₂)
  have root : s₁.nextNode = ⟨0⟩ := by rw [State.nextNode, idle.nodes]; rfl
  refine ⟨max 1 (max enough₁ enough₂), s₃, fun limit more => ?_, rests₃, root ▸ elapsed⟩
  rw [State.blockOn, placed]
  dsimp only
  rw [first limit (by omega), if_neg unheld, State.run_of_resting rests₁, second limit (by omega),
    third limit (by omega), worked.report rests₂]

/-- **A program ends, and comes to what its evaluation comes to.**  On a runtime with one worker,
whatever its settings and whatever bands the program asks for, the worker gets to the end of a
program on whose root the main thread blocks.  Then nothing is queued, and the root, everything
below it and every other task have ended; and what the main thread has learnt is what the program
comes to when each child is evaluated where it is waited for. -/
theorem blockOn_evaluates {place : Nat} {batch : Option Nat} {stem : Option String}
    {home : RuntimeId} {body : List Line}
    (placed : (({} : State).build place batch stem).1.places.get? place = some home)
    (isolated : linesIsolated body = true) :
    ∃ enough s, (∀ limit ≥ enough,
        State.blockOn limit (({} : State).build place batch stem).1 place body =
          (s, (evaluateInline body [] 0).report)) ∧
      s.resting = true ∧ s.queued home = 0 ∧ s.SubtreeEnded ⟨0⟩ ∧
      ∀ t, s.nodes.get? t ≠ none → (s.phase t).isTerminal = true := by
  obtain ⟨enough, s, blocks, rests, elapsed⟩ := (Idle.of_build placed).evaluates placed isolated
  have subtree := elapsed.reachable.sound.kinship.subtreeEnded (elapsed.ended _ elapsed.rooted)
  exact ⟨enough, s, blocks, rests, elapsed.queued, subtree, elapsed.ended⟩

/-- A root task that spawns two children in other bands.  One has a detached child of its own that
gives way before it returns, the other one panics. -/
def branchingBody : List Line :=
  [.mk ⟨"spawn", none, some "left", true⟩ (.spawn (some .high) false
      [.mk ⟨"spawn", none, some "deep", true⟩ (.spawn none true
          [.mk ⟨"yield", none, none, true⟩ (.yieldTimes 2),
            .mk ⟨"ret", none, none, true⟩ (.ret (some 20) none)]),
        .mk ⟨"await", some "deep", none, true⟩ (.await false .wrap),
        .mk ⟨"ret", none, none, true⟩ (.ret none none)]),
    .mk ⟨"spawn", none, some "right", true⟩ (.spawn (some .low) false
      [.mk ⟨"panic", none, none, true⟩ (.panic (.owned "broken"))]),
    .mk ⟨"await", some "right", none, true⟩ (.await true .report),
    .mk ⟨"await", some "left", none, true⟩ (.await true .raise),
    .mk ⟨"ret", none, none, true⟩ (.ret none none)]

/-- The main thread gets the value of the detached grandchild. -/
theorem blockOn_evaluates_branching : linesIsolated branchingBody = true ∧
    ∃ enough s, (∀ limit ≥ enough,
        State.blockOn limit (({} : State).build 0 none none).1 0 branchingBody = (s, .value 20)) ∧
      s.queued ⟨0⟩ = 0 ∧ s.SubtreeEnded ⟨0⟩ := by
  have isolated : linesIsolated branchingBody = true := by decide
  have placed : (({} : State).build 0 none none).1.places.get? 0 = some ⟨0⟩ := by decide
  obtain ⟨enough, s, blocks, -, empty, ended, -⟩ := blockOn_evaluates placed isolated
  have comes : (evaluateInline branchingBody [] 0).report = .value 20 := by
    simp [branchingBody, evaluateInline, Store.lookup, Store.put, Store.remove, Tag.target,
      Tag.binding, Scope.after, Attempt.resume, Ending.outcome, Ending.report]
  refine ⟨isolated, enough, s, fun limit more => ?_, empty, ended⟩
  rw [blocks limit more, comes]

end Nursery
