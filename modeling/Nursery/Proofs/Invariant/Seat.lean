import Nursery.Proofs.Invariant.Formed

/-!
# Where a line runs

A line runs in the body of a task, in a handler or on the main thread, and it leaves its own place
alone: the fiber that is stored for it, the slice that it is part of, and what every node and task
is apart from who is listed or waits there.

* `Keeps` : what every line leaves alone, with `Changes.keeps`.
* `Seated` : where a line runs, and what is stored there; `Seated.keeps`, it stays there.
* `State.Within` : where a body is running, with `State.inBody_iff`.
* `Effect.slice`, `Effect.active`, `Effect.terminal` : what an item of the agenda leaves alone.
* `Effect.fiber`, `Effect.within` : no item begins a body.
-/

namespace Nursery

theorem State.post_eq (s : State) (a : ActorId) (home : RuntimeId) (message : Message) :
    ∃ actors runtimes agenda, s.post a home message =
      { s with actors := actors, runtimes := runtimes, agenda := agenda } := by
  unfold State.post
  split
  · exact ⟨s.actors, s.runtimes, s.agenda, rfl⟩
  · dsimp only
    split
    · exact ⟨_, s.runtimes, s.agenda, rfl⟩
    · obtain ⟨runtimes, agenda, eq⟩ := State.enqueue_eq (s.modifyActor a fun m =>
        { m with mailbox := m.mailbox ++ [message], scheduled := true }) home _ (.drain a)
      exact ⟨_, runtimes, agenda, eq⟩

theorem State.slice_eq {s : State} {home : RuntimeId} {slice : Slice}
    (h : s.slice home = some slice) :
    ∃ rt, s.runtimes.get? home = some rt ∧ rt.slice = some slice :=
  Option.bind_eq_some_iff.1 h

theorem State.slice_or_of_ne {s : State} {home r : RuntimeId} {x y : Slice}
    (at_home : s.slice home = some x) (now : s.slice r = some y) :
    home = r ∧ y = x ∨ home ≠ r ∧ s.slice r = some y := by
  by_cases hr : home = r
  · subst hr
    exact .inl ⟨rfl, Option.some.inj (now.symm.trans at_home)⟩
  · exact .inr ⟨hr, now⟩

theorem State.slice_modifyRuntime_of_ne {s : State} {home r : RuntimeId} {f : Runtime → Runtime}
    (hr : home ≠ r) : (s.modifyRuntime home f).slice r = s.slice r := by
  simp only [slice, modifyRuntime, Store.get?_modify_of_ne hr]

theorem State.slice_modifyRuntime_same {s : State} {r : RuntimeId} (home : RuntimeId)
    {f : Runtime → Runtime} (same : ∀ rt, (f rt).slice = rt.slice) :
    (s.modifyRuntime home f).slice r = s.slice r := by
  simp only [slice, modifyRuntime, Store.get?_modify]
  cases s.runtimes.get? r with
  | none => split <;> rfl
  | some rt =>
    split
    · exact same rt
    · rfl

theorem State.slice_setSlice {s : State} {home r : RuntimeId} {new : Option Slice} {slice : Slice}
    (h : (s.setSlice home new).slice r = some slice) :
    home = r ∧ new = some slice ∨ home ≠ r ∧ s.slice r = some slice := by
  obtain ⟨rt', found', during⟩ := State.slice_eq h
  obtain ⟨rt, found, rfl⟩ := Store.get?_modify_eq_some.1 found'
  split at during
  · rename_i same
    exact .inl ⟨same, during⟩
  · rename_i other
    exact .inr ⟨other, by simp [State.slice, found, during]⟩

theorem State.slice_setSlice_old {s : State} {home r : RuntimeId} {new : Option Slice}
    {slice : Slice} (h : (s.setSlice home new).slice r = some slice) (other : new ≠ some slice) :
    s.slice r = some slice := by
  rcases State.slice_setSlice h with ⟨-, same⟩ | ⟨-, old⟩
  · exact absurd same other
  · exact old

theorem State.slice_setSlice_self {s : State} {home : RuntimeId} {x : Slice} {y : Option Slice}
    (during : s.slice home = some x) : (s.setSlice home y).slice home = y := by
  obtain ⟨rt, found, -⟩ := slice_eq during
  simp [slice, setSlice, modifyRuntime, Store.get?_modify_self, found]

theorem State.slice_start (s : State) (home r : RuntimeId) (goal : Goal) :
    (s.start home goal).slice r = s.slice r := by
  obtain ⟨trace, eq⟩ := s.start_eq home goal
  rw [eq]
  exact State.slice_modifyRuntime_same home fun _ => rfl

/-- An item that a line may leave on the agenda. -/
def Action.ofLine : Action → Bool
  | .record _ | .release _ | .cancel _ | .forget _ | .discard _ | .wake (.task _) => true
  | _ => false

/-- What every line leaves alone. -/
structure Keeps (s s' : State) : Prop where
  /-- A node may get children. -/
  nodes : ∀ n node, s.nodes.get? n = some node →
    ∃ cs, s'.nodes.get? n = some { node with children := node.children ++ cs }
  /-- A task may get other waiters, and its outcome may be taken. -/
  tasks : ∀ t task, s.tasks.get? t = some task →
    ∃ ws o, s'.tasks.get? t = some { task with waiters := ws, outcome := o }
  /-- No runtime goes. -/
  built : ∀ r rt, s.runtimes.get? r = some rt → ∃ rt', s'.runtimes.get? r = some rt'
  /-- Every worker stays where it is. -/
  slice : ∀ r, s'.slice r = s.slice r
  /-- No runtime is closed. -/
  closed : ∀ r, s'.closed r = s.closed r
  /-- The same worker goes on. -/
  active : s'.active = s.active
  /-- The runtimes stay in their places. -/
  places : s'.places = s.places
  /-- No panic begins or ends. -/
  unwinding : s'.unwinding = s.unwinding

namespace Keeps

variable {s s' s'' : State} {c : Context} {hand hand' : List Resource}

theorem refl (s : State) : Keeps s s where
  nodes _ node h := ⟨[], by rw [List.append_nil]; exact h⟩
  tasks _ task h := ⟨task.waiters, task.outcome, h⟩
  built _ rt h := ⟨rt, h⟩
  slice _ := rfl
  closed _ := rfl
  active := rfl
  places := rfl
  unwinding := rfl

theorem trans (h : Keeps s s') (h' : Keeps s' s'') : Keeps s s'' where
  nodes n node hn := by
    obtain ⟨cs, hn'⟩ := h.nodes n node hn
    obtain ⟨cs', hn''⟩ := h'.nodes n _ hn'
    exact ⟨cs ++ cs', by rw [hn'', List.append_assoc]⟩
  tasks t task ht := by
    obtain ⟨ws, o, ht'⟩ := h.tasks t task ht
    obtain ⟨ws', o', ht''⟩ := h'.tasks t _ ht'
    exact ⟨ws', o', ht''⟩
  built r rt hr := by
    obtain ⟨rt', hr'⟩ := h.built r rt hr
    exact h'.built r rt' hr'
  slice r := (h'.slice r).trans (h.slice r)
  closed r := (h'.closed r).trans (h.closed r)
  active := h'.active.trans h.active
  places := h'.places.trans h.places
  unwinding := h'.unwinding.trans h.unwinding

theorem phase (h : Keeps s s') {n : TaskId} {node : Node} (hn : s.nodes.get? n = some node) :
    s'.phase n = s.phase n := by
  obtain ⟨cs, hn'⟩ := h.nodes n node hn
  rw [State.phase_of_get? hn', State.phase_of_get? hn]

theorem modifyTask (t : TaskId) {f : Task → Task}
    (only : ∀ m, ∃ ws o, f m = { m with waiters := ws, outcome := o }) :
    Keeps s (s.modifyTask t f) :=
  { refl s with
    tasks := fun u task hu => by
      by_cases htu : t = u
      · subst htu
        obtain ⟨ws, o, eq⟩ := only task
        exact ⟨ws, o, by simp [State.modifyTask, Store.get?_modify_self, hu, eq]⟩
      · exact ⟨task.waiters, task.outcome, (Store.get?_modify_of_ne htu).trans hu⟩ }

theorem enqueue (r : RuntimeId) (p : Priority) (e : Entry) : Keeps s (s.enqueue r p e) := by
  unfold State.enqueue
  split
  · exact { refl s with }
  · exact { refl s with
      built := fun r' rt found => ⟨_, Store.get?_modify_eq_some.2 ⟨rt, found, rfl⟩⟩
      slice := fun r' => by
        simp only [State.slice, State.modifyRuntime, Store.get?_modify]
        split
        · cases s.runtimes.get? r' <;> rfl
        · rfl
      closed := fun r' => congrArg (Option.getD · true) (Store.map_get?_modify_same fun _ => rfl) }

theorem grow {kind : NodeKind} {priority : Priority} {parent : Option TaskId} {p : Phase}
    {nodes : Store TaskId Node} (numbered : s.nodes.Numbered TaskId.index)
    (grown : Grown s kind priority parent p nodes) (trace : Array Event) :
    Keeps s { s with nodes := nodes, trace := trace } :=
  { refl s with
    nodes := fun _ _ hn => ⟨_, grown.kept numbered hn⟩ }

theorem setTask {n : TaskId} (fresh : s.tasks.get? n = none) (task : Task) :
    Keeps s { s with tasks := s.tasks.set n task } :=
  { refl s with
    tasks := fun t m ht => by
      have old : n ≠ t := by
        rintro rfl
        simp [fresh] at ht
      exact ⟨m.waiters, m.outcome, (Store.get?_set_of_ne old).trans ht⟩ }

theorem launch (formed : Formed s) (priority : Priority) (parent : Option TaskId)
    (home : RuntimeId) (body : List Line) (blocking : Bool) :
    Keeps s ((s.addNode .task priority parent).launch s.nextNode home body blocking) := by
  obtain ⟨nodes, trace, grown, eq⟩ :=
    State.launch_addNode_eq formed.nodes priority parent home body blocking
  rw [eq]
  refine ((grow formed.nodes grown trace).trans (setTask ?_ _)).trans (enqueue _ _ _)
  exact formed.fresh_task

theorem post (a : ActorId) (home : RuntimeId) (message : Message) :
    Keeps s (s.post a home message) := by
  unfold State.post
  split
  · exact refl s
  · dsimp only
    split
    · exact { refl s with }
    · refine trans ?_ (enqueue _ _ _)
      exact { refl s with }

theorem change (formed : Formed s) (hc : Change c s hand s' hand') : Keeps s s' := by
  cases hc with
  | tell | shed | nameTask | adopt | share | actor | refuse | learn | expect | fail | listen
  | park | state | record | release | cancel | wake | draw => exact { refl s with }
  | spawn => exact launch formed _ _ _ _ _
  | group =>
    obtain ⟨nodes, trace, priority, grown, eq⟩ := State.makeGroup_eq formed.nodes _ _
    rw [eq]
    exact { grow formed.nodes grown trace with }
  | add =>
    refine (launch formed _ _ _ _ _).trans ((modifyTask s.nextNode fun m => ?_).trans
      { refl _ with })
    exact ⟨_, m.outcome, rfl⟩
  | call =>
    refine trans ?_ (post _ _ _)
    exact { refl s with }
  | send => exact post _ _ _
  | register => exact modifyTask _ fun m => ⟨_, m.outcome, rfl⟩
  | take => exact modifyTask _ fun m => ⟨m.waiters, _, rfl⟩

end Keeps

/-- A sequence of changes leaves alone what every change does. -/
theorem Changes.keeps {s s' : State} {c : Context} {hand hand' : List Resource}
    (formed : Formed s) (hc : Changes c s hand s' hand') : Keeps s s' :=
  (hc.invariant (I := fun x _ => Formed x ∧ Keeps s x)
    (fun hc h => ⟨h.1.change hc, h.2.trans (.change h.1 hc)⟩) ⟨formed, .refl s⟩).2

/-- The worker of a runtime that was let go on is inside the own code of a task, or it drops what
that has left. -/
def State.Within (s : State) (r : RuntimeId) (t : TaskId) : Prop :=
  (∃ goal, s.active = some (r, goal)) ∧
    ((∃ task f, s.Runs r t task f) ∨ ∃ ending, s.slice r = some (.task t (.ended ending)))

theorem State.Runs.of_stores {s s' : State} {r : RuntimeId} {t : TaskId} {task : Task} {f : Fiber}
    (h : s.Runs r t task f) (tasks : s'.tasks = s.tasks) (runtimes : s'.runtimes = s.runtimes) :
    s'.Runs r t task f := by
  obtain ⟨during, found, fiber⟩ := h
  exact ⟨by rwa [State.slice, runtimes], by rwa [tasks], fiber⟩

theorem State.Within.of_stores {s s' : State} {r : RuntimeId} {t : TaskId} (h : s.Within r t)
    (tasks : s'.tasks = s.tasks) (runtimes : s'.runtimes = s.runtimes)
    (active : s'.active = s.active) : s'.Within r t := by
  obtain ⟨⟨goal, here⟩, at_work⟩ := h
  refine ⟨⟨goal, active.trans here⟩, at_work.imp ?_ fun ⟨ending, during⟩ => ⟨ending, ?_⟩⟩
  · rintro ⟨task, f, runs⟩
    exact ⟨task, f, runs.of_stores tasks runtimes⟩
  · rwa [slice, runtimes]

/-- A body is running where a worker is inside one. -/
theorem State.inBody_iff {s : State} : s.inBody = true ↔ ∃ r t, s.Within r t := by
  constructor
  · intro inside
    unfold inBody at inside
    split at inside
    · rename_i r goal active
      have there : ∀ {t}, ((s.tasks.get? t).bind Task.fiber).isSome = true →
          ∃ task f, s.tasks.get? t = some task ∧ task.fiber = some f := by
        intro t some_fiber
        obtain ⟨f, bound⟩ := Option.isSome_iff_exists.1 some_fiber
        obtain ⟨task, found, fiber⟩ := Option.bind_eq_some_iff.1 bound
        exact ⟨task, f, found, fiber⟩
      split at inside
      · rename_i t polling
        obtain ⟨task, f, found, fiber⟩ := there inside
        exact ⟨r, t, ⟨goal, active⟩, .inl ⟨task, f, .inl polling, found, fiber⟩⟩
      · rename_i t suspending
        obtain ⟨task, f, found, fiber⟩ := there inside
        exact ⟨r, t, ⟨goal, active⟩, .inl ⟨task, f, .inr suspending, found, fiber⟩⟩
      · rename_i t ending ended
        exact ⟨r, t, ⟨goal, active⟩, .inr ⟨ending, ended⟩⟩
      · cases inside
    · cases inside
  · rintro ⟨r, t, ⟨goal, active⟩, ⟨task, f, slice | slice, found, fiber⟩ | ⟨ending, slice⟩⟩
    · simp [inBody, active, slice, found, fiber]
    · simp [inBody, active, slice, found, fiber]
    · simp [inBody, active, slice]

/-- Where a line runs, and what is stored there. -/
inductive Seated (s : State) : Context → List Resource → Prop where
  /-- In the body of a task. -/
  | body {home : RuntimeId} {t : TaskId} {task : Task} {f : Fiber} (runs : s.Runs home t task f) :
      Seated s ⟨.task t, some home⟩ f.resources
  /-- In a handler. -/
  | handler {home : RuntimeId} {a : ActorId} {handled : Nat} {code : List Line} {frame : Frame}
      {reply : Option CallId}
      (during : s.slice home = some (.drain a handled (.handling code frame reply))) :
      Seated s ⟨.actor a, some home⟩ frame.resources
  /-- On the main thread. -/
  | main : Seated s { who := .main } []

theorem State.Runs.keeps {s s' : State} {home : RuntimeId} {t : TaskId} {task : Task} {f : Fiber}
    (h : s.Runs home t task f) (k : Keeps s s') : ∃ task', s'.Runs home t task' f := by
  obtain ⟨ws, o, found⟩ := k.tasks t task h.found
  exact ⟨_, by rw [k.slice]; exact h.slice, found, h.fiber⟩

theorem Seated.keeps {s s' : State} {c : Context} {base : List Resource} (h : Seated s c base)
    (k : Keeps s s') : Seated s' c base := by
  cases h with
  | body runs =>
    obtain ⟨task', runs'⟩ := runs.keeps k
    exact .body runs'
  | handler during => exact .handler (by rw [k.slice]; exact during)
  | main => exact .main

/-! ### The agenda of a line -/

/-- The agenda holds only what a line leaves there. -/
def State.OfLine (s : State) : Prop :=
  ∀ a ∈ s.agenda, a.ofLine = true

namespace State.OfLine

variable {s s' : State} {c : Context} {hand hand' : List Resource}

theorem idle (h : s.agenda = []) : s.OfLine := by
  intro a ha
  rw [h] at ha
  cases ha

theorem doFirst (h : s.OfLine) {as : List Action} (new : ∀ a ∈ as, a.ofLine = true) :
    (s.doFirst as).OfLine :=
  fun a ha => (List.mem_append.1 ha).elim (new a) (h a)

theorem doLast (h : s.OfLine) {as : List Action} (new : ∀ a ∈ as, a.ofLine = true) :
    (s.doLast as).OfLine :=
  fun a ha => (List.mem_append.1 ha).elim (h a) (new a)

theorem enqueue (h : s.OfLine) (r : RuntimeId) (p : Priority) (e : Entry) :
    (s.enqueue r p e).OfLine := by
  unfold State.enqueue
  split
  · exact h.doFirst (by simp [Action.ofLine])
  · exact h

theorem post (h : s.OfLine) (a : ActorId) (home : RuntimeId) (message : Message) :
    (s.post a home message).OfLine := by
  unfold State.post
  split
  · exact h
  · dsimp only
    split
    · exact h
    · refine enqueue ?_ _ _ _
      exact h

theorem change (h : s.OfLine) (formed : Formed s) (hc : Change c s hand s' hand') : s'.OfLine := by
  cases hc with
  | tell | shed | nameTask | adopt | share | actor | refuse | learn | state | register | take
  | draw | fail => exact h
  | @spawn home parent priority body =>
    obtain ⟨nodes, trace, -, eq⟩ :=
      State.launch_addNode_eq formed.nodes priority parent home body false
    rw [eq]
    refine enqueue ?_ _ _ _
    exact h
  | group =>
    obtain ⟨nodes, trace, priority, -, eq⟩ := State.makeGroup_eq formed.nodes c _
    rw [eq]
    exact h
  | @add g group priority body =>
    obtain ⟨nodes, trace, p, -, eq⟩ :=
      State.addChild_eq formed.nodes formed.fresh_task g group priority body
    rw [eq]
    refine enqueue ?_ _ _ _
    exact h
  | call =>
    refine post ?_ _ _ _
    exact h
  | send => exact h.post _ _ _
  | expect | listen => exact h.doFirst (by simp [Action.ofLine])
  | park =>
    refine doLast ?_ (by simp [Action.ofLine])
    exact h
  | record | release | cancel | wake => exact h.doLast (by simp [Action.ofLine])

end State.OfLine

/-! ### What an item of the agenda leaves alone -/

namespace Effect

variable {s s' : State} {a : Action} {t : TaskId}

theorem slice_enqueue (home : RuntimeId) (p : Priority) (e : Entry) (r : RuntimeId) :
    (s.enqueue home p e).slice r = s.slice r :=
  (Keeps.enqueue home p e).slice r

/-- No worker moves. -/
theorem slice (e : Effect s a s') (r : RuntimeId) : s'.slice r = s.slice r := by
  cases e with
  | resume => exact slice_enqueue _ _ _ r
  | _ => rfl

/-- No other worker is let go on. -/
theorem active (e : Effect s a s') : s'.active = s.active := by
  cases e with
  | resume => exact (Keeps.enqueue _ _ _).active
  | _ => rfl

theorem closed (e : Effect s a s') (r : RuntimeId) : s'.closed r = s.closed r := by
  cases e with
  | resume => exact (Keeps.enqueue _ _ _).closed r
  | _ => rfl

theorem places (e : Effect s a s') : s'.places = s.places := by
  cases e with
  | resume => exact (Keeps.enqueue _ _ _).places
  | _ => rfl

/-- A task keeps its body, or it is about to go. -/
theorem fiber (e : Effect s a s') {task' : Task} (found' : s'.tasks.get? t = some task') :
    ∃ task, s.tasks.get? t = some task ∧
      (task'.fiber = task.fiber ∨ task'.fiber = none ∧ .bury t ∈ s'.agenda) := by
  cases e with
  | resume =>
    unfold State.enqueue at found'
    split at found' <;> exact ⟨task', found', .inl rfl⟩
  | wakeWaiters =>
    obtain ⟨m, found, rfl⟩ := Store.get?_modify_eq_some.1 found'
    refine ⟨m, found, .inl ?_⟩
    split <;> rfl
  | @reportFailure u f trace only | @dropHandle u f trace only =>
    obtain ⟨m, found, rfl⟩ := Store.get?_modify_eq_some.1 found'
    refine ⟨m, found, .inl ?_⟩
    obtain ⟨b, eq⟩ := only m
    split
    · rw [eq]
    · rfl
  | @forget u =>
    obtain ⟨m, found, rfl⟩ := Store.get?_modify_eq_some.1 found'
    refine ⟨m, found, ?_⟩
    split
    · rename_i same
      subst same
      exact .inr ⟨rfl, by simp [State.doFirst]⟩
    · exact .inl rfl
  | bury =>
    rw [State.doFirst, Store.get?_erase] at found'
    split at found'
    · cases found'
    · exact ⟨task', found', .inl rfl⟩
  | _ => exact ⟨task', found', .inl rfl⟩

theorem keeps_fiber (e : Effect s a s') (held : s.held t = true) (kept : a ≠ .bury t) {task : Task}
    (found : s.tasks.get? t = some task) :
    ∃ task', s'.tasks.get? t = some task' ∧ task'.fiber = task.fiber := by
  cases e with
  | resume =>
    unfold State.enqueue
    split <;> exact ⟨task, found, rfl⟩
  | wakeWaiters =>
    refine ⟨_, Store.get?_modify_of_get? found, ?_⟩
    split <;> rfl
  | @reportFailure u f trace only | @dropHandle u f trace only =>
    obtain ⟨b, eq⟩ := only task
    refine ⟨_, Store.get?_modify_of_get? found, ?_⟩
    split
    · rw [eq]
    · rfl
  | @forget u _ _ loose =>
    refine ⟨_, Store.get?_modify_of_get? found, ?_⟩
    split
    · rename_i same
      subst same
      cases held.symm.trans loose
    · rfl
  | @bury u =>
    refine ⟨task, ?_, rfl⟩
    rw [State.doFirst, Store.get?_erase, if_neg fun same => kept (by rw [same])]
    exact found
  | _ => exact ⟨task, found, rfl⟩

theorem runs (e : Effect s a s') {home : RuntimeId} {task' : Task} {f : Fiber}
    (h : s'.Runs home t task' f) : ∃ task, s.Runs home t task f := by
  obtain ⟨task, found, same | ⟨gone, -⟩⟩ := e.fiber h.found
  · exact ⟨task, e.slice home ▸ h.slice, found, same.symm.trans h.fiber⟩
  · cases gone.symm.trans h.fiber

/-- Nobody comes to be inside a body. -/
theorem within (e : Effect s a s') {r : RuntimeId} (h : s'.Within r t) : s.Within r t := by
  obtain ⟨⟨goal, active⟩, ⟨task, f, runs⟩ | ⟨ending, slice⟩⟩ := h
  · exact ⟨⟨goal, e.active.symm.trans active⟩, .inl ((e.runs runs).imp fun _ h => ⟨f, h⟩)⟩
  · exact ⟨⟨goal, e.active.symm.trans active⟩, .inr ⟨ending, (e.slice r).symm.trans slice⟩⟩

theorem outside (e : Effect s a s') (h : s.inBody = false) : s'.inBody = false := by
  by_contra inside
  obtain ⟨r, t, within⟩ := State.inBody_iff.1 (Bool.not_eq_false _ ▸ inside)
  cases h.symm.trans (State.inBody_iff.2 ⟨r, t, e.within within⟩)

/-- A task that has ended stays as it is. -/
theorem terminal (e : Effect s a s') (h : (s.phase t).isTerminal = true) :
    s'.phase t = s.phase t := by
  have other : ∀ u p, s.phase u = p → p.isTerminal = false → u ≠ t := by
    rintro u p hp ongoing rfl
    rw [hp, ongoing] at h
    cases h
  cases e with
  | cancel | finish | orphan => exact State.phase_modifyNode_same fun _ => by rfl
  | reap | reapLast =>
    exact (State.phase_modifyNode_same fun _ => by rfl).trans
      (State.phase_modifyNode_same fun _ => by rfl)
  | resume suspended =>
    unfold State.enqueue
    split <;> exact State.phase_modifyNode_of_ne (s := s) (other _ _ suspended rfl)
  | notify running => exact State.phase_modifyNode_of_ne (other _ _ running rfl)
  | _ => rfl

end Effect

end Nursery
