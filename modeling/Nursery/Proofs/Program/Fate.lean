import Nursery.Proofs.Program.Staff

/-!
# What becomes of a program

Every task of a program has a fate: what its body comes to when it is evaluated by itself.  What is
left of the body comes to the same at every moment, with the children that it has spawned and not
waited for yet, and at its end the task has met its fate.  When anything runs, and in which band,
does not come into it.

* `State.Spent` : somebody has learnt how a task ended.
* `Fiber.Heads` : what is left of a body comes to the fate of its task.
* `Fated` : every task meets its fate.
* `Fated.effect`, `Fated.toil` : it is kept.
-/

namespace Nursery

namespace State

/-- A task has ended, and its outcome was taken. -/
def Spent (s : State) (t : TaskId) : Prop :=
  (s.phase t).isTerminal = true ∧ (s.tasks.get? t).bind Task.outcome = none

end State

/-- The task that a body waits for. -/
def Fiber.pending (f : Fiber) : Option TaskId :=
  match f.waiting with
  | some ⟨_, _, .awaiting (.handle u) _⟩ => some u
  | _ => none

/-- What is under a name agrees with what was spawned under it. -/
inductive Named (spent : TaskId → Prop) (fate : TaskId → Ending) (pending : Option TaskId) :
    Option Resource → Option (Option (List Line)) → Prop where
  /-- There is nobody. -/
  | nobody : Named spent fate pending none none
  /-- There is a child that nobody has waited for. -/
  | child {u : TaskId} {body : List Line} (comes : evaluateInline body [] 0 = fate u)
      (unspent : ¬ spent u) (other : pending ≠ some u) :
      Named spent fate pending (some (.handle u)) (some (some body))
  /-- There is the handle of a child that was waited for, or is being waited for. -/
  | past {u : TaskId} (learnt : spent u ∨ pending = some u) :
      Named spent fate pending (some (.handle u)) (some none)

/-- What a body has under its names agrees with what it has spawned. -/
def Frame.Agrees (frame : Frame) (spent : TaskId → Prop) (fate : TaskId → Ending)
    (pending : Option TaskId) (scope : Scope) : Prop :=
  ∀ name, Named spent fate pending (frame.find? name) (Store.lookup name scope)

/-- What is left of a body comes to this. -/
def Fiber.comesTo (f : Fiber) (fate : TaskId → Ending) (scope : Scope) : Ending :=
  match f.waiting with
  | some ⟨_, attempt, .awaiting (.handle u) _⟩ =>
    attempt.resume f.sum (fun sum => evaluateInline f.code scope sum) (fate u).outcome
  | _ => evaluateInline f.code scope f.sum

/-- What is left of a body comes to the fate of its task. -/
structure Fiber.Heads (f : Fiber) (spent : TaskId → Prop) (fate : TaskId → Ending) (t : TaskId)
    (scope : Scope) : Prop where
  /-- What is under its names agrees with what it has spawned. -/
  agrees : f.frame.Agrees spent fate f.pending scope
  /-- Nobody has learnt of the end that it waits for. -/
  ahead : ∀ u, f.pending = some u → ¬ spent u
  /-- It comes to the fate of its task. -/
  comes : f.comesTo fate scope = fate t

/-- A task keeps the end of its body.  The main thread gets the result of the root. -/
def Ending.Kept (ending : Ending) (m : Task) : Prop :=
  match ending, m.blocking with
  | .returned result, true => m.outcome = some (.ok 0) ∧ m.answer = some result
  | _, _ => m.outcome = some ending.outcome

/-- Every task meets its fate. -/
structure Fated (s : State) (fate : TaskId → Ending) (home : RuntimeId) : Prop where
  /-- What is left of a body comes to the fate of its task. -/
  bodies : ∀ t m f, s.tasks.get? t = some m → m.fiber = some f →
    ∃ scope, f.Heads s.Spent fate t scope
  /-- A body that has ended has met it. -/
  ended : ∀ t ending, s.slice home = some (.task t (.ended ending)) → ending = fate t
  /-- The task keeps it until somebody has learnt of it. -/
  kept : ∀ t m, s.tasks.get? t = some m → m.fiber = none →
    (∀ ending, s.slice home ≠ some (.task t (.ended ending))) →
      (fate t).Kept m ∨ m.blocking = false ∧ s.Spent t

/-! ### Frames -/

namespace Frame

variable {f : Frame} {name other : String} {r : Resource}

theorem find?_without :
    (f.without name).find? other = if name = other then none else f.find? other :=
  Store.lookup_remove name other f

theorem find?_bind :
    (f.bind name r).find? other = if name = other then some r else f.find? other := by
  have append : ∀ es : Frame, Store.lookup other (es ++ [(name, r)]) =
      (Store.lookup other es).or (if name = other then some r else none) := by
    intro es
    induction es with
    | nil => simp [Store.lookup]
    | cons e es ih =>
      obtain ⟨j, x⟩ := e
      simp only [List.cons_append, Store.lookup]
      split
      · rfl
      · exact ih
  rw [bind, find?, append]
  show ((f.without name).find? other).or _ = _
  rw [find?_without]
  split
  · rfl
  · cases f.find? other <;> rfl

theorem two_le_count (apart : name ≠ other) (h : f.find? name = some r)
    (h' : f.find? other = some r) : 2 ≤ f.resources.count r := by
  have less := count_without f name r
  have left : (f.without name).find? other = some r := by rw [find?_without, if_neg apart, h']
  have := List.count_pos_iff.2 (mem_resources_of_find? left)
  rw [h] at less
  simp at less
  omega

end Frame

/-- Somebody has learnt of the end of the child that was waited for. -/
theorem Frame.Agrees.learn {spent spent' : TaskId → Prop} {fate : TaskId → Ending} {u : TaskId}
    {frame : Frame} {scope : Scope} (h : frame.Agrees spent fate (some u) scope) (now : spent' u)
    (others : ∀ v, v ≠ u → (spent' v ↔ spent v)) : frame.Agrees spent' fate none scope := by
  intro name
  have named := h name
  generalize frame.find? name = x, Store.lookup name scope = y at named
  cases named with
  | nobody => exact .nobody
  | @child v body comes unspent other =>
    have apart : v ≠ u := fun same => other (same ▸ rfl)
    exact .child comes (fun learnt => unspent ((others v apart).1 learnt)) (by simp)
  | @past v learnt =>
    refine .past (.inl ?_)
    by_cases same : v = u
    · exact same ▸ now
    · exact (others v same).2 (learnt.resolve_right fun eq => same (Option.some.inj eq).symm)

/-! ### Bodies -/

namespace Fiber

variable {spent : TaskId → Prop} {fate : TaskId → Ending} {t u : TaskId} {f f' : Fiber}
  {scope : Scope}
  {tag : Tag} {attempt : Attempt} {taken : Bool}

theorem pending_of_free (free : f.waiting = none) : f.pending = none := by
  rw [pending, free]

theorem comesTo_of_free (free : f.waiting = none) :
    f.comesTo fate scope = evaluateInline f.code scope f.sum := by
  rw [comesTo, free]

/-- The next line leads to the same end. -/
theorem Passes.heads (passes : f.Passes f') (heads : f.Heads spent fate t scope) :
    f'.Heads spent fate t scope := by
  have comes := heads.comes
  cases passes with
  | begin => exact { heads with }
  | given waits =>
    have none : f.pending = none := by rw [pending, waits]
    refine ⟨?_, fun u waits => (by cases waits), ?_⟩
    · have := heads.agrees
      rwa [none] at this
    · rwa [comesTo, waits] at comes
  | @skip tag act rest free code what =>
    rw [comesTo_of_free free, code] at comes
    refine ⟨?_, ?_, ?_⟩
    · exact heads.agrees
    · exact heads.ahead
    · rw [comesTo_of_free (by exact free), ← comes]
      rcases what with ⟨value, rfl⟩ | ⟨body, rfl⟩ | rfl
      · rw [evaluateInline]
        all_goals simp
      · rw [evaluateInline]
      · rw [evaluateInline]
        all_goals simp
  | @again tag left body rest free code =>
    rw [comesTo_of_free free, code, evaluateInline] at comes
    refine ⟨heads.agrees, heads.ahead, ?_⟩
    rwa [comesTo_of_free (by exact free)]
  | @missing tag keep attempt rest free code nobody =>
    have absent : Store.lookup tag.target scope = none := by
      have named := heads.agrees tag.target
      rw [nobody] at named
      cases found : Store.lookup tag.target scope with
      | none => rfl
      | some child =>
        rw [found] at named
        cases named
    rw [comesTo_of_free free, code, evaluateInline, absent] at comes
    refine ⟨heads.agrees, heads.ahead, ?_⟩
    rwa [comesTo_of_free (by exact free)]

theorem Gives.heads (gives : f.Gives f') (heads : f.Heads spent fate t scope) :
    f'.Heads spent fate t scope := by
  have comes := heads.comes
  cases gives with
  | @first tag left rest free code =>
    have agrees := heads.agrees
    rw [pending_of_free free] at agrees
    rw [comesTo_of_free free, code, evaluateInline] at comes
    · exact ⟨agrees, fun u waits => (by cases waits), comes⟩
    all_goals simp
  | again waits =>
    have none : f.pending = none := by rw [pending, waits]
    have agrees := heads.agrees
    rw [none] at agrees
    rw [comesTo, waits] at comes
    exact ⟨agrees, fun u waits => (by cases waits), comes⟩

/-- A look finds a child that nobody has learnt of, and goes on from there to the same end, or it
comes too late. -/
theorem Looks.heads (once : ∀ r, f.resources.count r ≤ 1) (looks : f.Looks tag attempt u taken f')
    (heads : f.Heads spent fate t scope) :
    spent u ∧ fate t = .panicked "task handle polled after completion" ∨
      ¬ spent u ∧ ∃ scope', f'.frame.Agrees spent fate (some u) scope' ∧
        attempt.resume f'.sum (fun sum => evaluateInline f'.code scope' sum) (fate u).outcome =
          fate t := by
  have comes := heads.comes
  cases looks with
  | @first keep rest free code found =>
    have agrees := heads.agrees
    rw [pending_of_free free] at agrees
    have named := agrees tag.target
    rw [found] at named
    rw [comesTo_of_free free, code, evaluateInline] at comes
    -- no other name has the same handle
    have apart : ∀ name v, name ≠ tag.target → f.frame.find? name = some (.handle v) → v ≠ u := by
      rintro name v other same rfl
      have two := Frame.two_le_count other same found
      have one := once (.handle v)
      rw [Fiber.resources, List.count_append] at one
      omega
    have others : ∀ name, name ≠ tag.target →
        Named spent fate (some u) (f.frame.find? name) (Store.lookup name scope) := by
      intro name other
      have old := agrees name
      generalize frame : f.frame.find? name = x, Store.lookup name scope = y at old
      cases old with
      | nobody => exact .nobody
      | @child v body same unspent =>
        exact .child same unspent fun eq => apart name v other frame (Option.some.inj eq).symm
      | past learnt => exact .past (.inl (learnt.resolve_right (by simp)))
    generalize held : Store.lookup tag.target scope = x at named
    cases named with
    | @past _ learnt =>
      rw [held] at comes
      exact .inl ⟨learnt.resolve_right (by simp), comes.symm⟩
    | @child _ body same unspent =>
      rw [held] at comes
      refine .inr ⟨unspent, scope.after tag.target keep, fun name => ?_, ?_⟩
      · by_cases other : name = tag.target
        · subst other
          cases keep with
          | true =>
            simp only [if_true, found, Scope.after, Store.lookup_put]
            exact .past (.inr rfl)
          | false =>
            simp only [Bool.false_eq_true, if_false, Frame.find?_without, Scope.after,
              Store.lookup_remove, if_true]
            exact .nobody
        · have back : ¬ tag.target = name := fun eq => other eq.symm
          cases keep with
          | true =>
            simp only [if_true, Scope.after, Store.lookup_put, if_neg back]
            exact others name other
          | false =>
            simp only [Bool.false_eq_true, if_false, Frame.find?_without, Scope.after,
              Store.lookup_remove, if_neg back]
            exact others name other
      · rw [← comes, ← same]
  | again waits =>
    have pending : f.pending = some u := by rw [Fiber.pending, waits]
    have agrees := heads.agrees
    rw [pending] at agrees
    rw [comesTo, waits] at comes
    exact .inr ⟨heads.ahead u pending, scope, agrees, comes⟩

/-- A body waits for the child that it looks at. -/
theorem Heads.awaiting (unspent : ¬ spent u)
    (agrees : f.frame.Agrees spent fate (some u) scope)
    (comes : attempt.resume f.sum (fun sum => evaluateInline f.code scope sum) (fate u).outcome =
      fate t) (taken : Bool) :
    ({ f with waiting := some ⟨tag, attempt, .awaiting (.handle u) taken⟩ } : Fiber).Heads
      spent fate t
      scope := by
  refine ⟨agrees, fun v waits => ?_, comes⟩
  cases waits
  exact unspent

/-- A child is spawned under a name. -/
theorem Heads.spawned {band : Option Priority} {detached : Bool} {body rest : List Line}
    (heads : f.Heads spent fate t scope) (free : f.waiting = none)
    (code : f.code = .mk tag (.spawn band detached body) :: rest)
    (fated : evaluateInline body [] 0 = fate u) (unspent : ¬ spent u) :
    (f.spawned rest tag.binding u).Heads spent fate t
      (Store.put tag.binding (some body) scope) := by
  have agrees := heads.agrees
  have comes := heads.comes
  rw [pending_of_free free] at agrees
  rw [comesTo_of_free free, code, evaluateInline] at comes
  have none : (f.spawned rest tag.binding u).pending = none := pending_of_free free
  refine ⟨fun name => ?_, fun v waits => ?_, ?_⟩
  · rw [none]
    show Named spent fate _ ((f.frame.bind tag.binding (.handle u)).find? name) _
    rw [Frame.find?_bind, Store.lookup_put]
    split
    · exact .child fated unspent (by simp)
    · exact agrees name
  · rw [none] at waits
    cases waits
  · rwa [comesTo_of_free (by exact free)]

/-- The end of a body is its fate. -/
theorem Ends.comes {result : Except TaskError Int64} (ends : f.Ends result)
    (heads : f.Heads spent fate t scope) : fate t = .returned result := by
  have comes := heads.comes
  cases ends with
  | out free code =>
    rw [comesTo_of_free free, code, evaluateInline] at comes
    exact comes.symm
  | value free code =>
    rw [comesTo_of_free free, code, evaluateInline] at comes
    exact comes.symm
  | error free code =>
    rw [comesTo_of_free free, code, evaluateInline] at comes
    exact comes.symm

/-- Where nobody learns of its children, a body goes on to the same end. -/
theorem Heads.imp {spent' : TaskId → Prop} {fate' : TaskId → Ending}
    (heads : f.Heads spent fate t scope)
    (own : ∀ w, f.waiting = some w → w.wait.OnOwn f.resources)
    (learnt : ∀ u, .handle u ∈ f.resources → (spent' u ↔ spent u))
    (same : ∀ u, .handle u ∈ f.resources → fate' u = fate u) (self : fate' t = fate t) :
    f.Heads spent' fate' t scope := by
  have awaited : ∀ u, f.pending = some u → .handle u ∈ f.resources := by
    intro u waits
    unfold pending at waits
    split at waits
    · rename_i tag attempt v taken found
      cases waits
      exact own _ found
    · cases waits
  refine ⟨fun name => ?_, fun u waits => ?_, ?_⟩
  · have named := heads.agrees name
    generalize frame : f.frame.find? name = x, Store.lookup name scope = y at named
    have mine : ∀ u, x = some (.handle u) → .handle u ∈ f.resources := by
      rintro u rfl
      exact List.mem_append_right _ (Frame.mem_resources_of_find? frame)
    cases named with
    | nobody => exact .nobody
    | @child u body comes unspent other =>
      have here := mine u rfl
      exact .child (comes.trans (same u here).symm) (fun now => unspent ((learnt u here).1 now))
        other
    | @past u past => exact .past (past.imp (learnt u (mine u rfl)).2 id)
  · exact fun now => heads.ahead u waits ((learnt u (awaited u waits)).1 now)
  · rw [self, ← heads.comes]
    unfold comesTo
    split
    · rename_i tag attempt v taken found
      rw [same v (own _ found)]
    · rfl

end Fiber

/-! ### Items of the agenda -/

namespace Effect

variable {s s' : State} {a : Action} {t : TaskId}

theorem keeps_end (e : Effect s a s') {m' : Task} (found' : s'.tasks.get? t = some m') :
    ∃ m, s.tasks.get? t = some m ∧
      m'.blocking = m.blocking ∧ m'.outcome = m.outcome ∧ m'.answer = m.answer := by
  cases e with
  | resume =>
    rw [State.tasks_enqueue] at found'
    exact ⟨m', found', rfl, rfl, rfl⟩
  | wakeWaiters | forget =>
    obtain ⟨m, found, rfl⟩ := Store.get?_modify_eq_some.1 found'
    refine ⟨m, found, ?_⟩
    split <;> exact ⟨rfl, rfl, rfl⟩
  | @reportFailure u f trace only | @dropHandle u f trace only =>
    obtain ⟨m, found, rfl⟩ := Store.get?_modify_eq_some.1 found'
    refine ⟨m, found, ?_⟩
    obtain ⟨b, eq⟩ := only m
    split
    · rw [eq]
      exact ⟨rfl, rfl, rfl⟩
    · exact ⟨rfl, rfl, rfl⟩
  | bury =>
    rw [State.doFirst, Store.get?_erase] at found'
    split at found'
    · cases found'
    · exact ⟨m', found', rfl, rfl, rfl⟩
  | _ => exact ⟨m', found', rfl, rfl, rfl⟩

theorem spent_iff (formed : Formed s) (e : Effect s a s') {m' : Task}
    (found' : s'.tasks.get? t = some m') : s'.Spent t ↔ s.Spent t := by
  obtain ⟨m, found, -, outcome, -⟩ := e.keeps_end found'
  rw [State.Spent, State.Spent, e.isTerminal formed, found, found', Option.bind_some,
    Option.bind_some, outcome]

end Effect

theorem Ending.Kept.imp {ending : Ending} {m m' : Task} (h : ending.Kept m)
    (blocking : m'.blocking = m.blocking) (outcome : m'.outcome = m.outcome)
    (answer : m'.answer = m.answer) : ending.Kept m' := by
  unfold Kept at h ⊢
  rwa [blocking, outcome, answer]

theorem Ending.Kept.exists_outcome {ending : Ending} {m : Task} (h : ending.Kept m) :
    ∃ result, m.outcome = some result := by
  unfold Kept at h
  split at h
  · exact ⟨_, h.1⟩
  · exact ⟨_, h⟩

/-- A task on which nobody blocks keeps the outcome. -/
theorem Ending.Kept.outcome {ending : Ending} {m : Task} (h : ending.Kept m)
    (unblocked : m.blocking = false) : m.outcome = some ending.outcome := by
  unfold Kept at h
  rw [unblocked] at h
  cases ending <;> exact h

namespace Fated

variable {s s' : State} {fate : TaskId → Ending} {root t : TaskId} {home : RuntimeId} {d : Desk}
  {a : Action}

theorem there (sound : Sound s d) {m : Task} {f : Fiber} (found : s.tasks.get? t = some m)
    (fiber : m.fiber = some f) {u : TaskId} (mine : .handle u ∈ f.resources) :
    ∃ m', s.tasks.get? u = some m' := by
  have : .handle u ∈ m.resources := by rwa [Task.resources_of_fiber fiber]
  obtain ⟨m', there, -⟩ := sound.own.there _ (Nat.lt_of_lt_of_le
    (State.owners_of_task sound.formed found this) (Nat.le_add_right _ _))
  exact ⟨m', there⟩

/-- An item of the agenda leaves every fate alone. -/
theorem effect (formed : Formed s) (sound' : Sound s' d) (staffed : Staffed s home)
    (staffed' : Staffed s' home) (e : Effect s a s') (h : Fated s fate home) :
    Fated s' fate home := by
  constructor
  · intro t m' f found' fiber'
    obtain ⟨m, found, same | ⟨none, -⟩⟩ := e.fiber found'
    · obtain ⟨scope, heads⟩ := h.bodies t m f found (same.symm.trans fiber')
      refine ⟨scope, heads.imp ((sound'.wakeful t m' found').own f · fiber') (fun u mine => ?_)
        (fun _ _ => rfl) rfl⟩
      obtain ⟨m'', there⟩ := Fated.there sound' found' fiber' mine
      exact e.spent_iff formed there
    · rw [none] at fiber'
      cases fiber'
  · intro t ending during
    exact h.ended t ending ((e.slice home).symm.trans during)
  · intro t m' found' elapsed apart
    obtain ⟨m, found, fiber⟩ := e.fiber found'
    obtain ⟨m₀, found₀, blocking, outcome, answer⟩ := e.keeps_end found'
    cases found.symm.trans found₀
    have before : m.fiber = none := by
      rcases fiber with same | ⟨-, buried⟩
      · exact same.symm.trans elapsed
      · -- only a task that has ended is buried, and no body is left of it
        have known : s'.nodes.get? t ≠ none := by
          have := sound'.formed.tasks t m' found'
          intro missing
          rw [State.kind?, missing] at this
          cases this
        refine staffed.bodiless t m found ?_
        rw [← e.isTerminal formed]
        cases ended : (s'.phase t).isTerminal with
        | true => rfl
        | false => exact absurd buried (staffed'.there t known ended).2
    rcases h.kept t m found before (fun ending during =>
      apart ending ((e.slice home).trans during)) with kept | ⟨free, spent⟩
    · exact .inl (kept.imp blocking outcome answer)
    · exact .inr ⟨blocking.trans free, (e.spent_iff formed found').2 spent⟩

/-! ### What a worker does -/

theorem unshared (sound : Sound s d) {m : Task} {f : Fiber} (found : s.tasks.get? t = some m)
    (fiber : m.fiber = some f) {r : Resource} (mine : r ∈ f.resources) :
    r ∉ d.resources ∧ ∀ t' m' f', t' ≠ t → s.tasks.get? t' = some m' → m'.fiber = some f' →
      r ∉ f'.resources := by
  have once := sound.own.once r
  have here : 0 < m.resources.count r := by
    rw [Task.resources_of_fiber fiber]
    exact List.count_pos_iff.2 mine
  simp only [State.owners, List.count_nil, Nat.add_zero] at once
  refine ⟨fun theirs => ?_, fun t' m' f' apart found' fiber' theirs => ?_⟩
  · have := Store.le_tally (w := fun _ m => List.count r (Task.resources m))
      sound.formed.distinctTasks found
    have := List.count_pos_iff.2 theirs
    omega
  · have there : 0 < m'.resources.count r := by
      rw [Task.resources_of_fiber fiber']
      exact List.count_pos_iff.2 theirs
    have := Store.add_le_tally (w := fun _ m => List.count r (Task.resources m))
      sound.formed.distinctTasks apart found' found
    omega

theorem keep (sound : Sound s d) (h : Fated s fate home) (tasks : s'.tasks = s.tasks)
    (spent : ∀ u, s'.Spent u ↔ s.Spent u)
    (before : ∀ t ending, s.slice home ≠ some (.task t (.ended ending)))
    (after : ∀ t ending, s'.slice home ≠ some (.task t (.ended ending))) :
    Fated s' fate home := by
  constructor
  · intro t m f found fiber
    rw [tasks] at found
    obtain ⟨scope, heads⟩ := h.bodies t m f found fiber
    exact ⟨scope, heads.imp ((sound.wakeful t m found).own f · fiber) (fun u _ => spent u)
      (fun _ _ => rfl) rfl⟩
  · exact fun t ending during => absurd during (after t ending)
  · intro t m found elapsed apart
    rw [tasks] at found
    rw [spent]
    exact h.kept t m found elapsed (before t)

theorem spent_modifyNode {p : Phase} {f : Node → Node} (phase : ∀ m, (f m).phase = p)
    (ongoing : (s.phase t).isTerminal = false) (goes : p.isTerminal = false) (u : TaskId) :
    (s.modifyNode t f).Spent u ↔ s.Spent u := by
  have same : ((s.modifyNode t f).phase u).isTerminal = (s.phase u).isTerminal := by
    by_cases here : t = u
    · subst here
      cases found : s.nodes.get? t with
      | none => rw [State.phase_modifyNode_of_none found]
      | some m => rw [State.phase_modifyNode_self found, phase, goes, ongoing]
    · rw [State.phase_modifyNode_of_ne here]
  rw [State.Spent, State.Spent, same]
  rfl

/-- A turn takes effect: the others are where they were, and the body goes on to its fate or has
met it. -/
theorem takeEffect {turn : Turn} (during : turn.state.slice home = some (.task t .polling))
    (goes : turn.flow.pauses = false)
    (bodies : ∀ u m f, u ≠ t → turn.state.tasks.get? u = some m → m.fiber = some f →
      ∃ scope, f.Heads turn.state.Spent fate u scope)
    (kept : ∀ u m, u ≠ t → turn.state.tasks.get? u = some m → m.fiber = none →
      (fate u).Kept m ∨ m.blocking = false ∧ turn.state.Spent u)
    (self : match turn.flow with
      | .finish result => fate t = .returned result
      | .panic message _ => fate t = .panicked message
      | _ => ∃ scope, turn.fiber.Heads turn.state.Spent fate t scope) :
    Fated (turn.takeEffect home t) fate home := by
  obtain ⟨s, f', after, flow⟩ := turn
  -- whatever the worker comes to, the body is kept or has met its fate
  have all : ∀ (x : State) (fiber : Option Fiber), x.nodes = s.nodes →
      x.tasks = s.tasks.modify t (fun m => { m with fiber := fiber }) →
      (∀ f, fiber = some f → ∃ scope, f.Heads s.Spent fate t scope) →
      (∀ u ending, x.slice home = some (.task u (.ended ending)) → u = t ∧ ending = fate t) →
      (fiber = none → ∃ ending, x.slice home = some (.task t (.ended ending))) →
      Fated x fate home := by
    intro x fiber nodes tasks mine ends elapsed
    have spent : x.Spent = s.Spent := by
      funext u
      rw [State.Spent, State.Spent, State.phase, nodes, tasks, Store.get?_modify]
      split
      · cases found : s.tasks.get? u <;> rfl
      · rfl
    constructor
    · intro u m f found fiber'
      rw [spent]
      rw [tasks] at found
      obtain ⟨m, known, rfl⟩ := Store.get?_modify_eq_some.1 found
      split at fiber'
      · rename_i same
        exact same ▸ mine f fiber'
      · rename_i apart
        exact bodies u m f (Ne.symm apart) known fiber'
    · intro u ending now
      obtain ⟨rfl, met⟩ := ends u ending now
      exact met
    · intro u m found none apart
      rw [spent]
      rw [tasks] at found
      obtain ⟨m, known, rfl⟩ := Store.get?_modify_eq_some.1 found
      split at none
      · rename_i same
        subst same
        obtain ⟨ending, now⟩ := elapsed none
        exact absurd now (apart ending)
      · rename_i other
        rw [if_neg other]
        exact kept u m (Ne.symm other) known none
  obtain ⟨rt, built, slice⟩ := State.slice_eq during
  have stage : ∀ (x : State) (stage : Stage), x.runtimes = s.runtimes →
      (x.setSlice home (some (.task t stage))).slice home = some (.task t stage) := by
    intro x stage same
    simp [State.slice, State.setSlice, State.modifyRuntime, Store.get?_modify_self, same, built]
  cases flow with
  | next =>
    refine all _ (some f') rfl rfl (fun f eq => Option.some.inj eq ▸ self) (fun u ending now => ?_)
      fun none => (by cases none)
    cases now.symm.trans during
  | suspend =>
    refine all _ (some f') rfl rfl (fun f eq => Option.some.inj eq ▸ self) (fun u ending now => ?_)
      fun none => (by cases none)
    cases now.symm.trans (stage _ _ rfl)
  | finish result =>
    refine all _ none rfl rfl (fun f eq => (by cases eq)) (fun u ending now => ?_)
      fun _ => ⟨_, stage _ _ rfl⟩
    cases now.symm.trans (stage _ (.ended (.returned result)) rfl)
    exact ⟨rfl, self.symm⟩
  | panic message owned =>
    refine all _ none rfl rfl (fun f eq => (by cases eq)) (fun u ending now => ?_)
      fun _ => ⟨_, stage _ _ rfl⟩
    cases now.symm.trans (stage _ (.ended (.panicked message)) rfl)
    exact ⟨rfl, self.symm⟩
  | pause later => cases goes

/-- A body looks at a child, which notes who has looked, or whose outcome is taken: the others are
where they were. -/
theorem look (sound : Sound s (.blocked home root)) (programs : Programs s root home)
    (h : Fated s fate home) {m : Task} {f : Fiber} (found : s.tasks.get? t = some m)
    (fiber : m.fiber = some f) {u : TaskId} (mine : .handle u ∈ f.resources) {g : Task → Task}
    (same : ∀ m, (g m).fiber = m.fiber ∧ (g m).blocking = m.blocking ∧ (g m).answer = m.answer)
    (outcome : (∀ m, (g m).outcome = m.outcome) ∨
      (s.phase u).isTerminal = true ∧ ∀ m, (g m).outcome = none)
    (apart : ∀ u ending, s.slice home ≠ some (.task u (.ended ending))) :
    (∀ v, v ≠ u → ((s.modifyTask u g).Spent v ↔ s.Spent v)) ∧
    (∀ v m f, v ≠ t → (s.modifyTask u g).tasks.get? v = some m → m.fiber = some f →
      ∃ scope, f.Heads (s.modifyTask u g).Spent fate v scope) ∧
    ∀ v m, v ≠ t → (s.modifyTask u g).tasks.get? v = some m → m.fiber = none →
      (fate v).Kept m ∨ m.blocking = false ∧ (s.modifyTask u g).Spent v := by
  obtain ⟨free, alone⟩ := unshared sound found fiber mine
  -- whose outcome is not looked at is as it was
  have other : ∀ v, v ≠ u → ((s.modifyTask u g).Spent v ↔ s.Spent v) := by
    intro v away
    have : (s.modifyTask u g).tasks.get? v = s.tasks.get? v :=
      Store.get?_modify_of_ne (Ne.symm away)
    rw [State.Spent, State.Spent, this]
    rfl
  refine ⟨other, fun v m' f' away found' fiber' => ?_, fun v m' away found' none => ?_⟩
  · obtain ⟨m₀, known, rfl⟩ := Store.get?_modify_eq_some.1 found'
    have before : m₀.fiber = some f' := by
      split at fiber'
      · exact (same m₀).1.symm.trans fiber'
      · exact fiber'
    obtain ⟨scope, heads⟩ := h.bodies v m₀ f' known before
    refine ⟨scope, heads.imp ((sound.wakeful v m₀ known).own f' · before) (fun w theirs => ?_)
      (fun _ _ => rfl) rfl⟩
    exact other w fun eq => alone v m₀ f' away known before (eq ▸ theirs)
  · obtain ⟨m₀, known, rfl⟩ := Store.get?_modify_eq_some.1 found'
    by_cases here : u = v
    · subst here
      rw [if_pos rfl] at none ⊢
      have before := h.kept u m₀ known ((same m₀).1.symm.trans none) (apart u)
      obtain ⟨-, blocking, answer⟩ := same m₀
      rcases outcome with keeps | ⟨ended, taken⟩
      · rcases before with kept | ⟨unblocked, spent⟩
        · exact .inl (kept.imp blocking (keeps m₀) answer)
        · refine .inr ⟨blocking.trans unblocked, spent.1, ?_⟩
          have := spent.2
          rw [known] at this
          rw [found']
          simp only [if_pos, Option.bind_some, keeps]
          exact this
      · have unblocked : m₀.blocking = false := by
          cases blocked : m₀.blocking with
          | false => rfl
          | true =>
            have := (programs.tasks u m₀ known).blocking.1 blocked
            subst this
            exact absurd (List.mem_singleton.2 rfl) free
        refine .inr ⟨blocking.trans unblocked, ended, ?_⟩
        rw [found']
        simp only [if_pos, Option.bind_some, taken]
    · rw [if_neg here] at none ⊢
      rw [other v (Ne.symm here)]
      exact h.kept v m₀ known none (apart v)

theorem launch (sound : Sound s d) (programs : Programs s root home) (h : Fated s fate home)
    (apart : ∀ u ending, s.slice home ≠ some (.task u (.ended ending))) (priority : Priority)
    (parent : Option TaskId) (body : List Line) (blocking : Bool) :
    Fated ((s.addNode .task priority parent).launch s.nextNode home body blocking)
      (Function.update fate s.nextNode (evaluateInline body [] 0)) home := by
  have slice := (Keeps.launch sound.formed priority parent home body blocking).slice home
  have tasks := programs.tasks_launch sound.formed priority parent body blocking
  have ready := programs.phase_launch_new sound.formed priority parent body blocking
  have old : ∀ n, n ≠ s.nextNode → _ = s.phase n := fun n other =>
    programs.phase_launch_old sound.formed priority parent body blocking other
  generalize (s.addNode .task priority parent).launch s.nextNode home body blocking = s' at *
  -- whoever was there is who it was
  have known : ∀ u m, s.tasks.get? u = some m → u ≠ s.nextNode := by
    rintro u m found rfl
    cases sound.formed.fresh_task.symm.trans found
  have before : ∀ u, u ≠ s.nextNode → s'.tasks.get? u = s.tasks.get? u := fun u other => by
    rw [tasks, Store.get?_set_of_ne (Ne.symm other)]
  have spent : ∀ u, u ≠ s.nextNode → (s'.Spent u ↔ s.Spent u) := fun u other => by
    rw [State.Spent, State.Spent, old u other, before u other]
  constructor
  · intro u m f found fiber
    by_cases new : u = s.nextNode
    · subst new
      rw [tasks, Store.get?_set_self] at found
      cases found
      cases fiber
      refine ⟨[], fun name => ?_, fun v waits => (by cases waits), ?_⟩
      · exact .nobody
      · rw [Function.update_self]
        rfl
    · rw [before u new] at found
      obtain ⟨scope, heads⟩ := h.bodies u m f found fiber
      have mine : ∀ v, .handle v ∈ f.resources → v ≠ s.nextNode := fun v mine =>
        have ⟨m', there⟩ := Fated.there sound found fiber mine
        known v m' there
      exact ⟨scope, heads.imp ((sound.wakeful u m found).own f · fiber)
        (fun v theirs => spent v (mine v theirs))
        (fun v theirs => Function.update_of_ne (mine v theirs) _ _)
        (Function.update_of_ne new _ _)⟩
  · intro u ending during
    exact absurd (slice.symm.trans during) (apart u ending)
  · intro u m found none _
    by_cases new : u = s.nextNode
    · subst new
      rw [tasks, Store.get?_set_self] at found
      cases found
      cases none
    · rw [before u new] at found
      rw [spent u new, Function.update_of_ne new]
      exact h.kept u m found none (apart u)

theorem turn (sound : Sound s (.blocked home root)) (programs : Programs s root home)
    (staffed : Staffed s home) (h : Fated s fate home) {m : Task} {f : Fiber} {turn : Turn}
    (during : s.slice home = some (.task t .polling)) (found : s.tasks.get? t = some m)
    (fiber : m.fiber = some f) (pace : Pace s home t f turn) :
    ∃ fate', (∀ u, s.nodes.get? u ≠ none → fate' u = fate u) ∧
      Fated (turn.takeEffect home t) fate' home := by
  obtain ⟨scope, heads⟩ := h.bodies t m f found fiber
  have own := fun w => (sound.wakeful t m found).own f w fiber
  have once : ∀ r, f.resources.count r ≤ 1 := by
    intro r
    have := Store.le_tally (w := fun _ m => List.count r (Task.resources m))
      sound.formed.distinctTasks found
    have total := sound.own.once r
    simp only [State.owners, List.count_nil, Nat.add_zero] at total
    rw [Task.resources_of_fiber fiber] at this
    omega
  have polling := (pace.keeps sound.formed).slice home
  rw [during] at polling
  have apart : ∀ u ending, s.slice home ≠ some (.task u (.ended ending)) := by
    intro u ending now
    cases now.symm.trans during
  have bodies := fun u m f (_ : u ≠ t) => h.bodies u m f
  have kept := fun u m (_ : u ≠ t) found none => h.kept u m found none (apart u)
  cases pace with
  | pass trace told passes =>
    exact ⟨fate, fun _ _ => rfl, takeEffect polling rfl bodies kept ⟨scope, passes.heads heads⟩⟩
  | give gives =>
    exact ⟨fate, fun _ _ => rfl, takeEffect polling rfl bodies kept ⟨scope, gives.heads heads⟩⟩
  | finish ends =>
    exact ⟨fate, fun _ _ => rfl, takeEffect polling rfl bodies kept (ends.comes heads)⟩
  | panic trace free code =>
    have comes := heads.comes
    rw [Fiber.comesTo_of_free free, code, evaluateInline] at comes
    exact ⟨fate, fun _ _ => rfl, takeEffect polling rfl bodies kept comes.symm⟩
  | @pending tag attempt u taken f' looks ongoing =>
    have mine := looks.mem_resources own
    obtain ⟨other, bodies', kept'⟩ := h.look sound programs found fiber mine
      (g := fun m => { m with waiters := m.waiters ++ [.task t] }) (fun m => ⟨rfl, rfl, rfl⟩)
      (.inl fun m => rfl) apart
    have unspent : ¬ s.Spent u := fun spent => by simp [spent.1] at ongoing
    rcases looks.heads once heads with ⟨spent, -⟩ | ⟨-, scope', agrees, comes⟩
    · exact absurd spent unspent
    · have same : (s.modifyTask u fun m => { m with waiters := m.waiters ++ [.task t] }).Spent =
          s.Spent := by
        funext v
        by_cases here : v = u
        · subst here
          refine propext ⟨fun spent => ?_, fun spent => absurd spent unspent⟩
          have := ongoing.symm.trans spent.1
          cases this
        · exact propext (other v here)
      have waits : ({ f' with waiting := some ⟨tag, attempt, .awaiting (.handle u) taken⟩ } :
          Fiber).Heads s.Spent fate t scope' := .awaiting unspent agrees comes taken
      rw [← same] at waits
      exact ⟨fate, fun _ _ => rfl, takeEffect polling rfl bodies' kept' ⟨scope', waits⟩⟩
  | @learn tag attempt u taken f' outcome looks ended there =>
    have mine := looks.mem_resources own
    obtain ⟨other, bodies', kept'⟩ := h.look sound programs found fiber mine
      (g := fun m => { m with outcome := none }) (fun m => ⟨rfl, rfl, rfl⟩)
      (.inr ⟨ended, fun m => rfl⟩) apart
    obtain ⟨mu, known, outcome_eq⟩ := Option.bind_eq_some_iff.1 there
    -- what the child has kept is its fate
    have met : (fate u).outcome = outcome := by
      rcases h.kept u mu known (staffed.bodiless u mu known ended) (apart u) with kept | ⟨-, spent⟩
      · have unblocked : mu.blocking = false := by
          cases blocked : mu.blocking with
          | false => rfl
          | true =>
            obtain rfl := (programs.tasks u mu known).blocking.1 blocked
            exact absurd (List.mem_singleton.2 rfl) (unshared sound found fiber mine).1
        exact Option.some.inj ((kept.outcome unblocked).symm.trans outcome_eq)
      · cases spent.2.symm.trans there
    have learnt : (s.modifyTask u fun m => { m with outcome := none }).Spent u := by
      refine ⟨ended, ?_⟩
      simp [State.modifyTask, Store.get?_modify_self, known]
    rcases looks.heads once heads with ⟨spent, -⟩ | ⟨-, scope', agrees, comes⟩
    · have := spent.2.symm.trans there
      cases this
    have agrees := agrees.learn learnt other
    have free := looks.free
    have none : ∀ sum, ({ f' with sum := sum } : Fiber).pending = .none :=
      fun sum => Fiber.pending_of_free free
    have goes : ∀ sum, evaluateInline f'.code scope' sum = fate t →
        ({ f' with sum := sum } : Fiber).Heads
          (s.modifyTask u fun m => { m with outcome := .none }).Spent fate t scope' := by
      intro sum on
      refine ⟨(none sum).symm ▸ agrees, fun v waits => ?_, ?_⟩
      · rw [none] at waits
        cases waits
      · exact (Fiber.comesTo_of_free (by exact free)).trans on
    rw [met] at comes
    refine ⟨fate, fun _ _ => rfl, ?_⟩
    cases outcome with
    | ok value => exact takeEffect polling rfl bodies' kept' ⟨scope', goes _ comes⟩
    | error e =>
      cases attempt with
      | report => exact takeEffect polling rfl bodies' kept' ⟨scope', goes f'.sum comes⟩
      | wrap => exact takeEffect polling rfl bodies' kept' comes.symm
      | raise => exact takeEffect polling rfl bodies' kept' comes.symm
  | @gone tag attempt u taken f' looks ended none =>
    have mine := looks.mem_resources own
    obtain ⟨-, bodies', kept'⟩ := h.look sound programs found fiber mine
      (g := fun m => { m with outcome := .none }) (fun m => ⟨rfl, rfl, rfl⟩)
      (.inr ⟨ended, fun m => rfl⟩) apart
    rcases looks.heads once heads with ⟨-, late⟩ | ⟨unspent, -⟩
    · exact ⟨fate, fun _ _ => rfl, takeEffect polling rfl bodies' kept' late⟩
    · exact absurd ⟨ended, none⟩ unspent
  | @spawn tag detached body rest parent band priority names told free code up =>
    have known : t ≠ s.nextNode := by
      rintro rfl
      cases (sound.formed.fresh_task).symm.trans found
    have launched := h.launch sound programs apart priority parent body false
    have tasks := programs.tasks_launch sound.formed priority parent body false
    have ready := programs.phase_launch_new sound.formed priority parent body false
    have same := (Keeps.launch sound.formed priority parent home body false).slice home
    obtain ⟨scope', heads'⟩ := launched.bodies t m f
      (by rw [tasks, Store.get?_set_of_ne (Ne.symm known), found]) fiber
    refine ⟨_, fun u old => Function.update_of_ne ?_ _ _, takeEffect polling rfl
      (fun u m f _ => launched.bodies u m f)
      (fun u m _ found none => launched.kept u m found none fun ending now =>
        apart u ending (same.symm.trans now))
      ⟨_, heads'.spawned free code (by rw [Function.update_self]) fun spent => ?_⟩⟩
    · rintro rfl
      exact old (State.fresh_nextNode sound.formed.nodes)
    · have ended := spent.1
      rw [show State.phase _ s.nextNode = .ready from ready] at ended
      cases ended

theorem endBody (sound : Sound s d) (h : Fated s fate home) {ending : Ending}
    (during : s.slice home = some (.task t (.ended ending))) :
    Fated (s.endBody home t ending) fate home := by
  obtain ⟨trace, cancelled, eq⟩ := s.endBody_eq home t ending
  obtain ⟨m, found⟩ := sound.dispatch.known home t _ during
  obtain ⟨rt, built, -⟩ := State.slice_eq during
  have up : s.phase t = .running ∨ s.phase t = .notified := (sound.dispatch.slice_fits during).2
  have ongoing : ¬ s.Spent t := by
    rintro ⟨ended, -⟩
    rcases up with up | up <;> rw [up] at ended <;> cases ended
  have slice : (s.endBody home t ending).slice home = some (.task t .joining) := by
    rw [eq]
    exact State.slice_setSlice_built built
  have tasks : (s.endBody home t ending).tasks =
      s.tasks.modify t (ending.keep ((s.tasks.get? t).any Task.blocking)) := by
    rw [eq]
    rfl
  have blocking : (s.tasks.get? t).any Task.blocking = m.blocking := by rw [found]; rfl
  rw [blocking] at tasks
  -- the task has not ended yet, so nobody counts it as spent
  have spent : ∀ u, (s.endBody home t ending).Spent u ↔ s.Spent u := by
    intro u
    have phase : (s.endBody home t ending).phase u = s.phase u := by
      rw [eq]
      rfl
    rw [State.Spent, State.Spent, phase, tasks]
    by_cases here : t = u
    · subst here
      have still : (s.phase t).isTerminal = false := by rcases up with up | up <;> rw [up] <;> rfl
      simp [still]
    · rw [Store.get?_modify_of_ne here]
  constructor
  · intro u m' f found' fiber'
    rw [tasks] at found'
    obtain ⟨m₀, known, rfl⟩ := Store.get?_modify_eq_some.1 found'
    have before : m₀.fiber = some f := by
      split at fiber'
      · rwa [Ending.fiber_keep] at fiber'
      · exact fiber'
    obtain ⟨scope, heads⟩ := h.bodies u m₀ f known before
    exact ⟨scope, heads.imp ((sound.wakeful u m₀ known).own f · before) (fun v _ => spent v)
      (fun _ _ => rfl) rfl⟩
  · intro u ending' now
    cases slice.symm.trans now
  · intro u m' found' none _
    rw [tasks] at found'
    obtain ⟨m₀, known, rfl⟩ := Store.get?_modify_eq_some.1 found'
    by_cases here : t = u
    · subst here
      cases found.symm.trans known
      rw [if_pos rfl, ← h.ended t ending during]
      refine .inl ?_
      unfold Ending.Kept Ending.keep
      cases ending with
      | panicked message => rfl
      | returned result =>
        cases blocked : m.blocking with
        | true => simp
        | false => simp [Ending.outcome]
    · rw [if_neg here] at none ⊢
      rw [spent]
      refine h.kept u m₀ known none fun ending' now => ?_
      cases during.symm.trans now
      exact here rfl

/-- **What a worker does for programs leads them to their fates**, and leaves the fates of those
that are there alone. -/
theorem toil (sound : Sound s (.blocked home root)) (programs : Programs s root home)
    (staffed : Staffed s home) (w : Toil s home s') (h : Fated s fate home) :
    ∃ fate', (∀ u, s.nodes.get? u ≠ none → fate' u = fate u) ∧ Fated s' fate' home := by
  obtain ⟨rt, built, -⟩ := programs.runtime
  have none : ∀ x : State, x.runtimes = s.runtimes →
      (x.setSlice home .none).slice home = .none := by
    intro x same
    exact State.slice_setSlice_built (same ▸ built)
  have ongoing : ∀ {t}, s.phase t = .running ∨ s.phase t = .notified →
      (s.phase t).isTerminal = false := by
    intro t up
    rcases up with up | up <;> rw [up] <;> rfl
  have waits : ∀ {t stage joining}, s.slice home = some (.task t stage) → s.Waits t stage joining →
      ∀ u ending, s.slice home ≠ some (.task u (.ended ending)) := by
    intro t stage joining during why u ending now
    cases during.symm.trans now
    rcases why with ⟨other, -⟩ | ⟨other | ⟨other, -⟩, -⟩ <;> cases other
  cases w with
  | @stop rt found free empty =>
    have slice : s.slice home = .none := by simp [State.slice, found, free]
    refine ⟨fate, fun _ _ => rfl, h.keep sound rfl (fun u => Iff.rfl) ?_ ?_⟩
    · simp [slice]
    · intro t ending now
      cases slice.symm.trans now
  | @begin t queue takes =>
    have ready := (sound.dispatch.taken takes).2.1
    refine ⟨fate, fun _ _ => rfl,
      h.keep sound rfl (spent_modifyNode (fun m => by rfl) ?_ rfl) ?_ ?_⟩
    · show (s.phase t).isTerminal = false
      rw [ready]
      rfl
    · simp [takes.free]
    · intro u ending now
      obtain ⟨rt', found, -⟩ := takes.found
      have built' : ((s.popped home queue).setPhase t .running).runtimes.get? home =
          some { rt' with queue := queue } := by
        show (s.runtimes.modify home _).get? home = _
        rw [Store.get?_modify_self, found]
        rfl
      cases (State.slice_setSlice_built built').symm.trans now
  | turn during found fiber pace => exact h.turn sound programs staffed during found fiber pace
  | @rest t stage joining during why running =>
    refine ⟨fate, fun _ _ => rfl, h.keep sound rfl (spent_modifyNode (fun m => by rfl) ?_ rfl)
      (waits during why) ?_⟩
    · exact ongoing (.inl running)
    · intro u ending now
      cases (none s rfl).symm.trans now
  | @again t task stage joining during why woken found =>
    refine ⟨fate, fun _ _ => rfl, h.keep sound (State.tasks_enqueue ..) (fun u => ?_)
      (waits during why) ?_⟩
    · refine Iff.trans ?_ (spent_modifyNode (t := t) (p := .ready)
        (f := fun m => { m with joining := joining m, phase := .ready }) (fun m => rfl)
        (ongoing (.inr woken)) rfl u)
      rw [State.Spent, State.Spent, State.phase_enqueue, State.tasks_enqueue]
      rfl
    · intro u ending now
      rw [Effect.slice_enqueue] at now
      cases (none s rfl).symm.trans now
  | endBody during => exact ⟨fate, fun _ _ => rfl, h.endBody sound during⟩
  | @complete t stage p trace during past alone ended =>
    have up := ongoing (sound.dispatch.ongoing_of_over during past)
    have apart : ∀ u ending, s.slice home ≠ some (.task u (.ended ending)) := by
      intro u ending now
      cases during.symm.trans now
      rcases past with other | ⟨other, -⟩ <;> cases other
    obtain ⟨m, found⟩ := sound.dispatch.known home t _ during
    -- the end of the body is kept until now
    obtain ⟨result, kept⟩ : ∃ result, m.outcome = some result := by
      have elapsed : m.fiber = .none := by
        rcases past with rfl | ⟨-, elapsed⟩
        · exact (sound.wakeful t m found).past home _ during rfl
        · rwa [found] at elapsed
      rcases h.kept t m found elapsed (apart t) with kept | ⟨-, spent⟩
      · exact kept.exists_outcome
      · cases up.symm.trans spent.1
    refine ⟨fate, fun _ _ => rfl, h.keep sound rfl (fun u => ?_) apart ?_⟩
    · by_cases here : t = u
      · subst here
        refine iff_of_false (fun spent => ?_) fun spent => by cases up.symm.trans spent.1
        have : (s.tasks.get? t).bind Task.outcome = .none := spent.2
        rw [found, Option.bind_some, kept] at this
        cases this
      · have phase := State.phase_modifyNode_of_ne (s := s)
          (f := fun m => { m with joining := false, phase := p }) here
        show ((State.modifyNode _ t _).phase u).isTerminal = true ∧ _ ↔ _
        rw [phase]
        rfl
    · intro u ending now
      have built' : (s.modifyNode t fun m =>
          { m with joining := false, phase := p }).runtimes.get? home = some rt := built
      cases (State.slice_setSlice_built built').symm.trans now
  | @leave t during =>
    refine ⟨fate, fun _ _ => rfl, h.keep sound rfl (fun u => Iff.rfl) ?_ ?_⟩
    · intro u ending now
      cases during.symm.trans now
    · intro u ending now
      cases (none s rfl).symm.trans now

end Fated

end Nursery
