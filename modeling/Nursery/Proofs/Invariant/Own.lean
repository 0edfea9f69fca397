import Nursery.Proofs.Invariant.Seat

/-!
# Every resource has one owner

Handles, groups and calls are owned: by the shared table, by a body, by the handler that a worker
is in the middle of, by a group, by an item of the agenda that drops them, or by whoever has them
in hand.  No resource has two owners, and an owned resource is there.

While a line runs, the body it belongs to is still stored as it was before the line.  What is
stored there is the *base*, and is counted once more in the hand.

* `State.owners` : how often a resource is owned.
* `Own` : the invariant.
* `Own.effect`, `Own.change`, `Own.work`, `Own.move` : it is kept.
-/

namespace Nursery

/-- What an item of the agenda owns. -/
def Action.resources : Action → List Resource
  | .release r => [r]
  | .dissolve g => [.group g]
  | _ => []

/-- What the body of a task owns. -/
def Task.resources (m : Task) : List Resource :=
  m.fiber.toList.flatMap Fiber.resources

/-- What the handler owns that the worker of a runtime is in the middle of. -/
def Runtime.resources (rt : Runtime) : List Resource :=
  match rt.slice with
  | some (.drain _ _ (.handling _ frame _)) => frame.resources
  | _ => []

/-- The handles that a group owns. -/
def Group.resources (g : Group) : List Resource :=
  g.children.map .handle

namespace State

/-- How often a resource is owned. -/
def owners (s : State) (r : Resource) : Nat :=
  s.shared.resources.count r + s.tasks.tally (fun _ m => m.resources.count r)
    + s.runtimes.tally (fun _ rt => rt.resources.count r)
    + s.groups.tally (fun _ g => g.resources.count r)
    + (s.agenda.flatMap Action.resources).count r

/-- A resource is there and was not dropped. -/
def Has (s : State) : Resource → Prop
  | .handle t => ∃ task, s.tasks.get? t = some task ∧ task.handleDropped = false
  | .group g => ∃ group, s.groups.get? g = some group
  | .call k => ∃ call, s.calls.get? k = some call ∧ call.dropped = false

end State

/-- No resource has two owners, and an owned resource is there; with what is in hand, and what is
stored of it. -/
structure Own (s : State) (hand base : List Resource) : Prop where
  /-- No resource has two owners. -/
  once : ∀ r, s.owners r + hand.count r ≤ 1 + base.count r
  /-- An owned resource is there. -/
  there : ∀ r, 0 < s.owners r + hand.count r → s.Has r

namespace State

variable {s : State} {r : Resource}

/-! ### How often a resource is owned -/

theorem owners_doFirst (as : List Action) :
    (s.doFirst as).owners r = s.owners r + (as.flatMap Action.resources).count r := by
  simp only [owners, doFirst, List.flatMap_append, List.count_append]
  omega

theorem owners_doLast (as : List Action) :
    (s.doLast as).owners r = s.owners r + (as.flatMap Action.resources).count r := by
  simp only [owners, doLast, List.flatMap_append, List.count_append]
  omega

theorem owners_enqueue (home : RuntimeId) (p : Priority) (e : Entry)
    (distinct : s.runtimes.Distinct) : (s.enqueue home p e).owners r = s.owners r := by
  unfold enqueue
  split
  · rw [owners_doFirst]
    rfl
  · have : (s.runtimes.modify home fun rt => { rt with queue := rt.queue.push p e }).tally
        (fun _ rt => rt.resources.count r) = s.runtimes.tally (fun _ rt => rt.resources.count r) :=
      Store.tally_modify_same (fun _ _ => rfl) distinct
    simp only [owners, modifyRuntime, this]

theorem owners_modifyTask (distinct : s.tasks.Distinct) {t : TaskId} {task : Task}
    (found : s.tasks.get? t = some task) (f : Task → Task) :
    (s.modifyTask t f).owners r + task.resources.count r =
      s.owners r + (f task).resources.count r := by
  have := Store.tally_modify (w := fun _ m => m.resources.count r) (f := f) distinct found
  simp only [owners, modifyTask]
  omega

theorem owners_modifyTask_same (distinct : s.tasks.Distinct) {t : TaskId} {f : Task → Task}
    (same : ∀ m, (f m).fiber = m.fiber) : (s.modifyTask t f).owners r = s.owners r := by
  have : (s.tasks.modify t f).tally (fun _ m => m.resources.count r) =
      s.tasks.tally (fun _ m => m.resources.count r) :=
    Store.tally_modify_same (fun m _ => by simp only [Task.resources, same]) distinct
  simp only [owners, modifyTask, this]

theorem owners_modifyRuntime (distinct : s.runtimes.Distinct) {home : RuntimeId} {rt : Runtime}
    (found : s.runtimes.get? home = some rt) (f : Runtime → Runtime) :
    (s.modifyRuntime home f).owners r + rt.resources.count r =
      s.owners r + (f rt).resources.count r := by
  have := Store.tally_modify (w := fun _ m => m.resources.count r) (f := f) distinct found
  simp only [owners, modifyRuntime]
  omega

theorem owners_modifyGroup_same (distinct : s.groups.Distinct) {g : TaskId} {f : Group → Group}
    (same : ∀ m, (f m).children = m.children) : (s.modifyGroup g f).owners r = s.owners r := by
  have : (s.groups.modify g f).tally (fun _ m => m.resources.count r) =
      s.groups.tally (fun _ m => m.resources.count r) :=
    Store.tally_modify_same (fun m _ => by simp only [Group.resources, same]) distinct
  simp only [owners, modifyGroup, this]

/-! ### What is there -/

theorem has_modifyTask {t : TaskId} {f : Task → Task}
    (same : ∀ m, (f m).handleDropped = m.handleDropped) (h : s.Has r) :
    (s.modifyTask t f).Has r := by
  cases r with
  | handle u =>
    obtain ⟨task, found, kept⟩ := h
    by_cases htu : t = u
    · subst htu
      exact ⟨f task, by simp [modifyTask, Store.get?_modify_self, found], by rwa [same]⟩
    · exact ⟨task, (Store.get?_modify_of_ne htu).trans found, kept⟩
  | group g => exact h
  | call k => exact h

theorem has_modifyGroup {g : TaskId} {f : Group → Group} (h : s.Has r) :
    (s.modifyGroup g f).Has r := by
  cases r with
  | handle u => exact h
  | group g' =>
    obtain ⟨group, found⟩ := h
    exact ⟨_, Store.get?_modify_eq_some.2 ⟨group, found, rfl⟩⟩
  | call k => exact h

theorem has_modifyCall {k : CallId} {f : Call → Call} (same : ∀ m, (f m).dropped = m.dropped)
    (h : s.Has r) : (s.modifyCall k f).Has r := by
  cases r with
  | handle u => exact h
  | group g => exact h
  | call k' =>
    obtain ⟨call, found, kept⟩ := h
    refine ⟨_, Store.get?_modify_eq_some.2 ⟨call, found, rfl⟩, ?_⟩
    split
    · rwa [same]
    · exact kept

end State

namespace Own

variable {s s' : State} {c : Context} {hand hand' rest base : List Resource} {a : Action}

theorem init : Own {} [] [] where
  once r := by simp [State.owners, Store.tally, Frame.resources]
  there r h := by simp [State.owners, Store.tally, Frame.resources] at h

theorem keep (h : Own s hand base)
    (less : ∀ r, s'.owners r + hand'.count r ≤ s.owners r + hand.count r)
    (has : ∀ r, 0 < s'.owners r + hand'.count r → s.Has r → s'.Has r) : Own s' hand' base where
  once r := by
    have := h.once r
    have := less r
    omega
  there r hr := has r hr (h.there r (by have := less r; omega))

theorem keepNew (h : Own s hand base) (new : Resource) (absent : ¬ s.Has new) (now : s'.Has new)
    (less : ∀ r, s'.owners r + hand'.count r ≤ s.owners r + (new :: hand).count r)
    (has : ∀ r, s.Has r → s'.Has r) : Own s' hand' base := by
  have none : s.owners new + hand.count new = 0 := by
    by_contra some
    exact absent (h.there new (Nat.pos_of_ne_zero some))
  refine ⟨fun r => ?_, fun r hr => ?_⟩
  · have := h.once r
    have := less r
    by_cases hn : new = r
    · subst hn
      rw [List.count_cons_self] at this
      omega
    · rw [List.count_cons_of_ne hn] at this
      omega
  · by_cases hn : new = r
    · exact hn ▸ now
    · have := less r
      rw [List.count_cons_of_ne hn] at this
      exact has r (h.there r (by omega))

/-! ### Changes to one record -/

theorem tell (h : Own s hand base) (e : Event) : Own (s.tell e) hand base :=
  { h with }

theorem traced (h : Own s hand base) (trace : Array Event) :
    Own { s with trace := trace } hand base :=
  { h with }

theorem modifyNode (h : Own s hand base) (n : TaskId) (f : Node → Node) :
    Own (s.modifyNode n f) hand base :=
  { h with }

theorem modifySignal (h : Own s hand base) (g : TaskId) (f : Signal → Signal) :
    Own (s.modifySignal g f) hand base :=
  { h with }

theorem modifyActor (h : Own s hand base) (a : ActorId) (f : Actor → Actor) :
    Own (s.modifyActor a f) hand base :=
  { h with }

theorem pop {a : Action} (h : Own (s.doFirst [a]) hand base) : Own s hand base :=
  h.keep (fun r => by rw [State.owners_doFirst]; omega) fun r _ hr => by cases r <;> exact hr

theorem doFirst (h : Own s hand base) {as : List Action}
    (free : as.flatMap Action.resources = []) : Own (s.doFirst as) hand base :=
  h.keep (fun r => by rw [State.owners_doFirst, free]; simp) fun r _ hr => by cases r <;> exact hr

theorem doLast (h : Own s hand base) {as : List Action}
    (free : as.flatMap Action.resources = []) : Own (s.doLast as) hand base :=
  h.keep (fun r => by rw [State.owners_doLast, free]; simp) fun r _ hr => by cases r <;> exact hr

theorem enqueue (h : Own s hand base) (distinct : s.runtimes.Distinct) (home : RuntimeId)
    (p : Priority) (e : Entry) : Own (s.enqueue home p e) hand base := by
  refine h.keep (fun r => ?_) fun r _ hr => ?_
  · exact Nat.le_of_eq (by rw [State.owners_enqueue home p e distinct])
  · unfold State.enqueue
    split <;> cases r <;> exact hr

theorem modifyTask (h : Own s hand base) (distinct : s.tasks.Distinct) {t : TaskId}
    {f : Task → Task} (fiber : ∀ m, (f m).fiber = m.fiber)
    (dropped : ∀ m, (f m).handleDropped = m.handleDropped) : Own (s.modifyTask t f) hand base :=
  h.keep (fun r => Nat.le_of_eq (by rw [State.owners_modifyTask_same distinct fiber]))
    fun _ _ hr => State.has_modifyTask dropped hr

theorem modifyGroup (h : Own s hand base) (distinct : s.groups.Distinct) {g : TaskId}
    {f : Group → Group} (same : ∀ m, (f m).children = m.children) :
    Own (s.modifyGroup g f) hand base :=
  h.keep (fun r => Nat.le_of_eq (by rw [State.owners_modifyGroup_same distinct same]))
    fun _ _ hr => State.has_modifyGroup hr

theorem modifyCall (h : Own s hand base) {k : CallId} {f : Call → Call}
    (same : ∀ m, (f m).dropped = m.dropped) : Own (s.modifyCall k f) hand base :=
  h.keep (fun _ => Nat.le_refl _) fun _ _ hr => State.has_modifyCall same hr

theorem modifyRuntime (h : Own s hand base) (distinct : s.runtimes.Distinct) {home : RuntimeId}
    {f : Runtime → Runtime} (less : ∀ rt, s.runtimes.get? home = some rt →
      ∀ r, (f rt).resources.count r ≤ rt.resources.count r) :
    Own (s.modifyRuntime home f) hand base := by
  refine h.keep (fun r => ?_) fun r _ hr => by cases r <;> exact hr
  cases found : s.runtimes.get? home with
  | none => simp only [State.owners, State.modifyRuntime, Store.modify_of_none found, Nat.le_refl]
  | some rt =>
    have := State.owners_modifyRuntime (r := r) distinct found f
    have := less rt found r
    omega

/-! ### Items of the agenda -/

theorem has_of_agenda (h : Own s hand base) (asked : a ∈ s.agenda) {r : Resource}
    (mine : r ∈ a.resources) : s.Has r := by
  refine h.there r (Nat.add_pos_left ?_ _)
  have owned : 0 < (s.agenda.flatMap Action.resources).count r :=
    List.count_pos_iff.2 (List.mem_flatMap.2 ⟨a, asked, mine⟩)
  rw [State.owners]
  omega

theorem free_map {α : Type} {f : α → Action} (free : ∀ a, (f a).resources = []) (l : List α) :
    (l.map f).flatMap Action.resources = [] := by
  induction l with
  | nil => rfl
  | cons a l ih => simp [free, ih]

theorem resources_releases (l : List Resource) :
    (l.map Action.release).flatMap Action.resources = l := by
  induction l with
  | nil => rfl
  | cons r l ih => simpa [Action.resources] using ih

theorem resources_forget (w : Waker) : w.forget.resources = [] := by
  cases w <;> rfl

theorem resources_afterPanic (as : List Action) :
    (as.filterMap Action.afterPanic).flatMap Action.resources = as.flatMap Action.resources := by
  have one : ∀ a : Action, a.afterPanic.toList.flatMap Action.resources = a.resources := by
    intro a
    cases a with
    | wake w => cases w <;> rfl
    | _ => rfl
  induction as with
  | nil => rfl
  | cons a as ih =>
    have first := one a
    cases left : a.afterPanic with
    | none =>
      rw [left] at first
      rw [List.filterMap_cons_none left, List.flatMap_cons, ← first, ih]
      rfl
    | some b =>
      rw [left] at first
      rw [List.filterMap_cons_some left, List.flatMap_cons, List.flatMap_cons, ih, ← first]
      simp

theorem dropped {r : Resource} (h : Own (s.doFirst [.release r]) hand []) :
    s.owners r + hand.count r = 0 := by
  have := h.once r
  simp only [State.owners_doFirst, List.flatMap_cons, List.flatMap_nil, Action.resources,
    List.append_nil, List.count_cons_self, List.count_nil] at this
  omega

theorem dropHandle (distinct : s.tasks.Distinct) {t : TaskId} {f : Task → Task}
    (trace : Array Event) (only : ∀ m, ∃ b, f m = { m with handleDropped := true, reported := b })
    (h : Own (s.doFirst [.release (.handle t)]) hand []) :
    Own ({ s.modifyTask t f with trace := trace }.doFirst [.forget t]) hand [] := by
  have fiber : ∀ m, (f m).fiber = m.fiber := fun m => by
    obtain ⟨b, eq⟩ := only m
    rw [eq]
  have none := h.dropped
  have owners : ∀ r, ({ s.modifyTask t f with trace := trace }.doFirst [.forget t]).owners r =
      s.owners r := fun r =>
    (State.owners_doFirst _).trans (State.owners_modifyTask_same distinct fiber)
  refine h.pop.keep (fun r => Nat.le_of_eq (by rw [owners])) fun r hr has => ?_
  rw [owners] at hr
  cases r with
  | handle u =>
    have htu : t ≠ u := by
      rintro rfl
      omega
    obtain ⟨task, found, kept⟩ := has
    exact ⟨task, (Store.get?_modify_of_ne htu).trans found, kept⟩
  | group g => exact has
  | call k => exact has

theorem dropCall {k : CallId} {f : Call → Call} {as : List Action}
    (free : as.flatMap Action.resources = []) (h : Own (s.doFirst [.release (.call k)]) hand []) :
    Own ((s.modifyCall k f).doFirst as) hand [] := by
  have none := h.dropped
  have owners : ∀ r, ((s.modifyCall k f).doFirst as).owners r = s.owners r := fun r => by
    rw [State.owners_doFirst, free]
    rfl
  refine h.pop.keep (fun r => Nat.le_of_eq (by rw [owners])) fun r hr has => ?_
  rw [owners] at hr
  cases r with
  | handle u => exact has
  | group g => exact has
  | call k' =>
    have hk : k ≠ k' := by
      rintro rfl
      omega
    obtain ⟨call, found, kept⟩ := has
    exact ⟨call, (Store.get?_modify_of_ne hk).trans found, kept⟩

theorem dissolve (distinct : s.groups.Distinct) {g : TaskId} {group : Group}
    (found : s.groups.get? g = some group) (h : Own (s.doFirst [.dissolve g]) hand []) :
    Own ({ s with groups := s.groups.erase g }.doFirst
      (group.children.map (fun t => Action.release (.handle t)) ++ [Action.forgetSignal g]))
      hand [] := by
  have children : (group.children.map (fun t => Action.release (.handle t)) ++
      [Action.forgetSignal g]).flatMap Action.resources = group.resources := by
    have := resources_releases (group.children.map Resource.handle)
    rw [List.map_map] at this
    rw [List.flatMap_append, show (fun t => Action.release (.handle t)) =
      Action.release ∘ Resource.handle from rfl, this]
    exact List.append_nil _
  have owners : ∀ r, ({ s with groups := s.groups.erase g }.doFirst
      (group.children.map (fun t => Action.release (.handle t)) ++
        [Action.forgetSignal g])).owners r = s.owners r := by
    intro r
    have := Store.tally_erase (w := fun _ m => m.resources.count r) distinct found
    rw [State.owners_doFirst, children]
    simp only [State.owners]
    omega
  have none := h.once (.group g)
  simp only [State.owners_doFirst, List.flatMap_cons, List.flatMap_nil, Action.resources,
    List.append_nil, List.count_cons_self, List.count_nil] at none
  refine h.pop.keep (fun r => Nat.le_of_eq (by rw [owners])) fun r hr has => ?_
  rw [owners] at hr
  cases r with
  | handle u => exact has
  | group g' =>
    have hg : g ≠ g' := by
      rintro rfl
      omega
    obtain ⟨group', found'⟩ := has
    exact ⟨group', by simpa [State.doFirst, Store.get?_erase, hg] using found'⟩
  | call k => exact has

theorem forget (distinct : s.tasks.Distinct) {t : TaskId} {task : Task}
    (found : s.tasks.get? t = some task) (h : Own s hand base) :
    Own ((s.modifyTask t fun m => { m with fiber := none }).doFirst
      ((task.fiber.toList.flatMap Fiber.resources).map Action.release ++ [Action.bury t]))
      hand base := by
  refine h.keep (fun r => ?_) fun r _ has => ?_
  · have moved := State.owners_modifyTask (r := r) distinct found fun m => { m with fiber := none }
    rw [State.owners_doFirst, List.flatMap_append, resources_releases]
    simp only [Task.resources, Option.toList_none, List.flatMap_nil, List.count_nil,
      List.flatMap_cons, Action.resources, List.append_nil] at moved ⊢
    omega
  · have := State.has_modifyTask (t := t) (f := fun m => { m with fiber := none })
      (fun _ => rfl) has
    cases r <;> exact this

theorem bury (distinct : s.tasks.Distinct) {t : TaskId} {task : Task}
    (found : s.tasks.get? t = some task) (gone : task.handleDropped = true)
    (h : Own s hand base) :
    Own ({ s with tasks := s.tasks.erase t }.doFirst (task.waiters.map Waker.forget))
      hand base := by
  refine h.keep (fun r => ?_) fun r _ has => ?_
  · have := Store.tally_erase (w := fun _ m => m.resources.count r) distinct found
    rw [State.owners_doFirst, free_map resources_forget]
    simp only [State.owners, List.count_nil]
    omega
  · cases r with
    | handle u =>
      obtain ⟨task', found', kept⟩ := has
      have htu : t ≠ u := by
        rintro rfl
        cases found.symm.trans found'
        simp [gone] at kept
      exact ⟨task', by simpa [State.doFirst, Store.get?_erase, htu] using found', kept⟩
    | group g => exact has
    | call k => exact has

theorem effect (formed : Formed s) {a : Action}
    (gone : ∀ t task, a = .bury t → s.tasks.get? t = some task → task.handleDropped = true)
    (e : Effect s a s') (h : Own (s.doFirst [a]) hand []) : Own s' hand [] := by
  have tasks := formed.distinctTasks
  -- an item gives what it holds to what it leaves, or drops it
  cases e with
  | spent => exact h.pop
  | cancel => exact ((h.pop.modifyNode _ _).tell _).doFirst (free_map (fun _ => rfl) _)
  | finish => exact (h.pop.modifyNode _ _).doFirst (by split <;> rfl)
  | orphan => exact h.pop.modifyNode _ _
  | reap => exact ((h.pop.modifyNode _ _).modifyNode _ _).tell _
  | reapLast =>
    refine (((h.pop.modifyNode _ _).modifyNode _ _).tell _).doFirst ?_
    split <;> split <;> rfl
  | resume => exact (h.pop.modifyNode _ _).enqueue formed.distinctRuntimes _ _ _
  | notify => exact (h.pop.modifyNode _ _).doFirst rfl
  | awake | inform | discardTask | discardDrain => exact h.pop.doFirst rfl
  | trip => exact ((h.pop.modifySignal _ _).tell _).doFirst rfl
  | announce => exact (h.pop.modifySignal _ _).doFirst (free_map (fun _ => rfl) _)
  | wakeWaiters =>
    exact (h.pop.modifyTask tasks (fun _ => by rfl) (fun _ => by rfl)).doFirst
      (free_map (fun _ => rfl) _)
  | @reportFailure t f trace only =>
    have looked := h.pop.modifyTask tasks (t := t) (f := f)
      (fun m => by obtain ⟨b, eq⟩ := only m; rw [eq])
      (fun m => by obtain ⟨b, eq⟩ := only m; rw [eq])
    exact looked.traced trace
  | answer => exact (h.pop.modifyCall (fun _ => by rfl)).doFirst (free_map (fun _ => rfl) _)
  | record => exact h.pop.tell _
  | panic =>
    refine h.pop.keep (fun r => Nat.le_of_eq ?_) fun r _ hr => by cases r <;> exact hr
    simp only [State.owners, resources_afterPanic]
  | dropHandle trace only => exact dropHandle tasks trace only h
  | dropGroup | dropUndrained => exact { h with }
  | dropAnswered => exact dropCall (free_map (fun _ => rfl) _) h
  | @dropPending k =>
    have left : Own ((s.modifyCall k fun m => { m with dropped := true }).doFirst []) hand [] :=
      dropCall rfl h
    exact left
  | dissolve found => exact dissolve formed.distinctGroups found h
  | forget found => exact forget tasks found h.pop
  | bury found => exact bury tasks found (gone _ _ rfl found) h.pop
  | silence => exact (h.pop.modifySignal _ _).doFirst (free_map (fun _ => rfl) _)
  | abandon trace =>
    exact ((h.pop.modifyActor _ _).traced trace).doFirst (free_map (fun _ => rfl) _)

/-! ### Lines -/

theorem post (h : Own s hand base) (distinct : s.runtimes.Distinct) (a : ActorId)
    (home : RuntimeId) (message : Message) : Own (s.post a home message) hand base := by
  unfold State.post
  split
  · exact h
  · dsimp only
    split
    · exact h.modifyActor _ _
    · exact (h.modifyActor _ _).enqueue distinct _ _ _

theorem setTask (formed : Formed s) (task : Task) (nodes : Store TaskId Node)
    (trace : Array Event) (owned : task.resources = []) (kept : task.handleDropped = false)
    (h : Own s hand base) :
    Own { s with nodes := nodes, trace := trace, tasks := s.tasks.set s.nextNode task }
      (.handle s.nextNode :: hand) base := by
  have fresh := formed.fresh_task
  refine h.keepNew (.handle s.nextNode) ?_ ⟨task, Store.get?_set_self, kept⟩
    (fun r => ?_) fun r hr => ?_
  · rintro ⟨task', found, -⟩
    exact absurd (fresh.symm.trans found) (by simp)
  · have := Store.tally_set_fresh (w := fun _ m => m.resources.count r) (a := task) fresh
    simp only [owned, List.count_nil] at this
    simp only [State.owners]
    omega
  · cases r with
    | handle u =>
      obtain ⟨task', found, kept'⟩ := hr
      have htu : s.nextNode ≠ u := by
        rintro rfl
        exact absurd (fresh.symm.trans found) (by simp)
      exact ⟨task', (Store.get?_set_of_ne htu).trans found, kept'⟩
    | group g => exact hr
    | call k => exact hr

theorem setCall (formed : Formed s) {call : Call} (kept : call.dropped = false)
    (h : Own s hand base) :
    Own { s with calls := s.calls.set s.nextCall call } (.call s.nextCall :: hand) base := by
  have fresh := formed.fresh_call
  refine h.keepNew (.call s.nextCall) ?_ ⟨call, Store.get?_set_self, kept⟩
    (fun r => Nat.le_refl _) fun r hr => ?_
  · rintro ⟨call', found, -⟩
    exact absurd (fresh.symm.trans found) (by simp)
  · cases r with
    | handle u => exact hr
    | group g => exact hr
    | call k =>
      obtain ⟨call', found, kept'⟩ := hr
      have hk : s.nextCall ≠ k := by
        rintro rfl
        exact absurd (fresh.symm.trans found) (by simp)
      exact ⟨call', (Store.get?_set_of_ne hk).trans found, kept'⟩

theorem makeGroup (formed : Formed s) (c : Context) (home : RuntimeId) (h : Own s hand base) :
    Own (s.makeGroup c home) (.group s.nextNode :: hand) base := by
  obtain ⟨nodes, trace, priority, -, eq⟩ := State.makeGroup_eq formed.nodes c home
  have fresh := formed.fresh_group
  rw [eq]
  refine h.keepNew (.group s.nextNode) ?_ ⟨_, Store.get?_set_self⟩
    (fun r => ?_) fun r hr => ?_
  · rintro ⟨group, found⟩
    exact absurd (fresh.symm.trans found) (by simp)
  · have := Store.tally_set_fresh (w := fun _ m => m.resources.count r)
      (a := { home := home }) fresh
    simp only [Group.resources, List.map_nil, List.count_nil] at this
    simp only [State.owners, Group.resources]
    omega
  · cases r with
    | handle u => exact hr
    | group g =>
      obtain ⟨group, found⟩ := hr
      have hg : s.nextNode ≠ g := by
        rintro rfl
        exact absurd (fresh.symm.trans found) (by simp)
      exact ⟨group, (Store.get?_set_of_ne hg).trans found⟩
    | call k => exact hr

theorem addChild (formed : Formed s) {g : TaskId} {group : Group}
    (found : s.groups.get? g = some group) (priority : Option Priority) (body : List Line)
    (h : Own s hand base) : Own (s.addChild g group priority body) hand base := by
  obtain ⟨nodes, trace, p, -, eq⟩ :=
    State.addChild_eq formed.nodes formed.fresh_task g group priority body
  rw [eq]
  refine enqueue ?_ ?_ _ _ _
  swap
  · exact formed.distinctRuntimes
  have made := setTask formed
    { fiber := some { code := body }, home := group.home,
      waiters := [.member g group.children.length s.nextNode] } nodes trace rfl rfl h
  refine made.keep (fun r => ?_) fun r _ hr => ?_
  · have := Store.tally_modify (w := fun _ m => m.resources.count r)
      (f := fun m =>
        { m with children := m.children ++ [s.nextNode], remaining := m.remaining + 1 })
      formed.distinctGroups found
    simp only [Group.resources, List.map_append, List.map_cons, List.map_nil,
      List.count_append, List.count_cons, List.count_nil] at this
    simp only [State.owners, Group.resources, List.count_cons]
    omega
  · have := State.has_modifyGroup (g := g) (f := fun m =>
      { m with children := m.children ++ [s.nextNode], remaining := m.remaining + 1 }) hr
    cases r <;> exact this

theorem change (formed : Formed s) (hc : Change c s hand s' hand')
    (h : Own s (hand ++ rest) base) : Own s' (hand' ++ rest) base := by
  have tasks := formed.distinctTasks
  have same : ∀ x, s.owners x + (hand ++ rest).count x = s.owners x + (hand ++ rest).count x :=
    fun _ => rfl
  cases hc with
  | tell | nameTask | actor => exact { h with }
  | shed less =>
    refine h.keep (fun r => ?_) fun _ _ hr => hr
    have := less r
    simp only [List.count_append]
    omega
  | @spawn home parent priority body =>
    obtain ⟨nodes, trace, -, eq⟩ :=
      State.launch_addNode_eq formed.nodes priority parent home body false
    rw [eq]
    exact (setTask formed _ nodes trace rfl rfl h).enqueue formed.distinctRuntimes _ _ _
  | group => exact makeGroup formed _ _ h
  | add _ _ _ _ found => exact addChild formed found _ _ h
  | @adopt name r found =>
    refine h.keep (fun x => ?_) fun x _ hx => by cases x <;> exact hx
    -- what leaves the shared table comes into the hand
    have := Frame.count_without s.shared name x
    rw [found] at this
    simp only [Option.toList_some, List.count_cons, List.count_nil] at this
    simp only [State.owners, List.cons_append, List.count_cons]
    omega
  | @share r left name mine =>
    subst mine
    refine h.keep (fun x => ?_) fun x _ hx => by cases x <;> exact hx
    have := Frame.count_bind s.shared name r x
    simp only [List.count_cons] at this
    simp only [State.owners, List.cons_append, List.append_assoc, List.count_append,
      List.count_cons]
    omega
  | call => exact (setCall formed rfl h).post formed.distinctRuntimes _ _ _
  | refuse => exact setCall formed rfl h
  | send => exact h.post formed.distinctRuntimes _ _ _
  | register | take => exact h.modifyTask tasks (fun _ => by rfl) (fun _ => by rfl)
  | learn => exact h.modifyCall (fun _ => by rfl)
  | expect => exact (h.modifyCall (fun _ => by rfl)).doFirst (free_map (fun _ => rfl) _)
  | draw =>
    exact (h.modifySignal _ _).modifyGroup formed.distinctGroups (fun _ => by rfl)
  | fail => exact h.modifyGroup formed.distinctGroups (fun _ => by rfl)
  | listen => exact (h.modifySignal _ _).doFirst (free_map (fun _ => rfl) _)
  | park name me =>
    have named : ∀ parked, Own { s with parked := parked } (hand ++ rest) base :=
      fun _ => { h with }
    exact (named _).doLast (free_map (fun _ => rfl) _)
  | state => exact h.modifyActor _ _
  | record | cancel | wake => exact h.doLast rfl
  | @release r left mine =>
    subst mine
    refine h.keep (fun x => ?_) fun x _ hx => by cases x <;> exact hx
    rw [State.owners_doLast]
    simp only [List.flatMap_cons, List.flatMap_nil, Action.resources, List.append_nil,
      List.cons_append, List.count_cons, List.count_nil]
    omega

theorem afterChanges (formed : Formed s) (hc : Changes c s hand s' hand')
    (h : Own s (hand ++ rest) base) : Own s' (hand' ++ rest) base :=
  (hc.invariant (I := fun s hand => Formed s ∧ Own s (hand ++ rest) base)
    (fun hc h => ⟨h.1.change hc, h.2.change h.1 hc⟩) ⟨formed, h⟩).2

end Own

/-! ### Where a line runs -/

/-- What is stored where a line runs has an owner there. -/
theorem Seated.count_le {s : State} {c : Context} {base : List Resource} (formed : Formed s)
    (seat : Seated s c base) (r : Resource) : base.count r ≤ s.owners r := by
  cases seat with
  | @body home t task f runs =>
    have := Store.le_tally (w := fun _ m => m.resources.count r) formed.distinctTasks runs.found
    simp only [Task.resources, runs.fiber, Option.toList_some, List.flatMap_cons,
      List.flatMap_nil, List.append_nil] at this
    simp only [State.owners, Task.resources]
    omega
  | handler during =>
    obtain ⟨rt, found, slice⟩ := State.slice_eq during
    have := Store.le_tally (w := fun _ m => m.resources.count r) formed.distinctRuntimes found
    simp only [Runtime.resources, slice] at this
    simp only [State.owners, Runtime.resources]
    omega
  | main => exact Nat.zero_le _

namespace Own

variable {s s' : State} {c : Context} {hand hand' rest base : List Resource}

theorem lift (formed : Formed s) (seat : Seated s c base) (h : Own s rest []) :
    Own s (base ++ rest) base := by
  have stored := seat.count_le formed
  refine ⟨fun r => ?_, fun r hr => h.there r ?_⟩
  · have := h.once r
    simp only [List.count_nil, List.count_append] at *
    omega
  · have := stored r
    simp only [List.count_append] at hr
    omega

theorem settleBody (left : List Resource) (distinct : s.tasks.Distinct) {t : TaskId} {task : Task}
    {f : Fiber}
    (found : s.tasks.get? t = some task) (was : task.fiber = some f) (fiber : Option Fiber)
    (less : ∀ r, (fiber.toList.flatMap Fiber.resources).count r + left.count r ≤ hand.count r)
    (h : Own s (hand ++ rest) f.resources) :
    Own (s.modifyTask t fun m => { m with fiber := fiber }) (left ++ rest) [] := by
  have moved : ∀ r, (s.modifyTask t fun m => { m with fiber := fiber }).owners r +
      f.resources.count r = s.owners r + (fiber.toList.flatMap Fiber.resources).count r := by
    intro r
    have := State.owners_modifyTask (r := r) distinct found fun m => { m with fiber := fiber }
    simpa only [Task.resources, was, Option.toList_some, List.flatMap_cons, List.flatMap_nil,
      List.append_nil] using this
  refine ⟨fun r => ?_, fun r hr => State.has_modifyTask (fun _ => rfl) (h.there r ?_)⟩
  · have := h.once r
    have := moved r
    have := less r
    simp only [List.count_append, List.count_nil] at *
    omega
  · have := moved r
    have := less r
    simp only [List.count_append] at *
    omega

theorem settleHandler (left : List Resource) (distinct : s.runtimes.Distinct) {home : RuntimeId}
    {a : ActorId}
    {handled : Nat} {code : List Line} {frame : Frame} {reply : Option CallId}
    (during : s.slice home = some (.drain a handled (.handling code frame reply)))
    {g : Runtime → Runtime} {kept : List Resource} (stored : ∀ rt, (g rt).resources = kept)
    (less : ∀ r, kept.count r + left.count r ≤ hand.count r)
    (h : Own s (hand ++ rest) frame.resources) :
    Own (s.modifyRuntime home g) (left ++ rest) [] := by
  obtain ⟨rt, found, slice⟩ := State.slice_eq during
  have moved : ∀ r, (s.modifyRuntime home g).owners r + frame.resources.count r =
      s.owners r + kept.count r := by
    intro r
    have := State.owners_modifyRuntime (r := r) distinct found g
    rwa [stored, Runtime.resources, slice] at this
  refine ⟨fun r => ?_, fun r hr => ?_⟩
  · have := h.once r
    have := moved r
    have := less r
    simp only [List.count_append, List.count_nil] at *
    omega
  · have has := h.there r (by
      have := moved r
      have := less r
      simp only [List.count_append] at *
      omega)
    cases r <;> exact has

theorem drop {left : List Resource} (told : List Event) (h : Own s (left ++ rest) base) :
    Own (s.doLast (told.map Action.record ++ left.map Action.release)) rest base := by
  refine h.keep (fun r => ?_) fun r _ hr => by cases r <;> exact hr
  rw [State.owners_doLast, List.flatMap_append, free_map (fun _ => rfl), resources_releases]
  simp only [List.nil_append, List.count_append]
  omega

/-! ### Work and moves -/

theorem setSlice (h : Own s hand base) (distinct : s.runtimes.Distinct) (home : RuntimeId)
    (slice : Option Slice) (free : ∀ rt : Runtime, ({ rt with slice := slice }).resources = []) :
    Own (s.setSlice home slice) hand base :=
  h.modifyRuntime distinct fun rt _ r => by simp [free rt]

theorem modifyRuntimeSame (h : Own s hand base) (distinct : s.runtimes.Distinct)
    {home : RuntimeId} {f : Runtime → Runtime} (same : ∀ rt, (f rt).slice = rt.slice) :
    Own (s.modifyRuntime home f) hand base :=
  h.modifyRuntime distinct fun rt _ r => by simp [Runtime.resources, same]

theorem turn (formed : Formed s) {home : RuntimeId} {t : TaskId} {task : Task} {f : Fiber}
    (runs : s.Runs home t task f) (changes : Changes ⟨.task t, some home⟩ s f.resources s' hand)
    (left : List Resource) (fiber : Option Fiber)
    (less : ∀ r, (fiber.toList.flatMap Fiber.resources).count r + left.count r ≤ hand.count r)
    (h : Own s rest []) :
    Own (s'.modifyTask t fun m => { m with fiber := fiber }) (left ++ rest) [] := by
  obtain ⟨task', runs'⟩ := runs.keeps (changes.keeps formed)
  exact settleBody left (formed.changes changes).distinctTasks runs'.found runs'.fiber fiber less
    (afterChanges formed changes (h.lift formed (.body runs)))

theorem answer (formed : Formed s) {home : RuntimeId} {a : ActorId} {handled : Nat}
    {code : List Line} {frame : Frame} {reply : Option CallId}
    (during : s.slice home = some (.drain a handled (.handling code frame reply)))
    (changes : Changes ⟨.actor a, some home⟩ s frame.resources s' hand)
    (kept left : List Resource) {g : Runtime → Runtime} (stored : ∀ rt, (g rt).resources = kept)
    (less : ∀ r, kept.count r + left.count r ≤ hand.count r) (h : Own s rest []) :
    Own (s'.modifyRuntime home g) (left ++ rest) [] := by
  have during' := ((changes.keeps formed).slice home).trans during
  exact settleHandler left (formed.changes changes).distinctRuntimes during' stored less
    (afterChanges formed changes (h.lift formed (.handler during)))

theorem work (formed : Formed s) {home : RuntimeId} (w : Work s home s') (h : Own s rest []) :
    Own s' rest [] := by
  have runtimes := formed.distinctRuntimes
  have tasks := formed.distinctTasks
  -- a line hands on what it holds; everything else moves a reference
  cases w with
  | stop => exact { h with }
  | lost => exact h.setSlice runtimes _ _ fun _ => rfl
  | next runs _ changes => exact turn formed runs changes [] (some _) (fun r => by simp) h
  | @suspend _ _ _ f' _ _ runs _ changes =>
    have stored := turn formed runs changes [] (some f') (fun r => by simp) h
    exact stored.setSlice (formed.changes changes).distinctRuntimes _ _ fun _ => rfl
  | @ends t _ _ _ owned ending _ told runs changes =>
    have stored := turn formed runs changes owned none (fun r => by simp) h
    have ended := stored.setSlice (formed.changes changes).distinctRuntimes home
      (some (.task t (.ended ending))) fun _ => rfl
    exact { ended.drop told with }
  | @pause _ _ _ f' _ later runs _ changes =>
    have stored := turn formed runs changes [] (some f') (fun r => by simp) h
    exact { stored.modifyRuntimeSame (formed.changes changes).distinctRuntimes
      fun _ => by rfl with }
  | rest =>
    exact ((h.setSlice runtimes _ _ fun _ => rfl).modifyNode _ _).doFirst rfl
  | again =>
    refine (((h.setSlice runtimes _ _ fun _ => rfl).modifyNode _ _).doFirst rfl).enqueue ?_ _ _ _
    exact runtimes.modify _ _
  | forgotten => exact (h.setSlice runtimes _ _ fun _ => rfl).modifyNode _ _
  | @endBody t _ f trace cancelled _ only =>
    have kept := (h.setSlice runtimes home (some (.task t .joining)) fun _ => rfl).modifyTask tasks
      (t := t) (f := f)
        (fun m => by obtain ⟨o, a, eq⟩ := only m; rw [eq])
        (fun m => by obtain ⟨o, a, eq⟩ := only m; rw [eq])
    have past : Own { (s.setSlice home (some (.task t .joining))).modifyTask t f with
        unwinding := none, trace := trace } rest [] := { kept with }
    exact past.doFirst (free_map (fun _ => rfl) _)
  | complete trace =>
    exact (((h.modifyNode _ _).setSlice runtimes _ _ fun _ => rfl).traced trace).doFirst rfl
  | leave => exact (h.setSlice runtimes _ _ fun _ => rfl).doFirst rfl
  | receive => exact (h.modifyActor _ _).setSlice runtimes _ _ fun _ => rfl
  | drained => exact ((h.setSlice runtimes _ _ fun _ => rfl).tell _).modifyActor _ _
  | drainAgain =>
    refine ((h.setSlice runtimes _ _ fun _ => rfl).tell _).enqueue ?_ _ _ _
    exact runtimes.modify _ _
  | @handle _ _ _ _ _ frame' _ _ during changes =>
    exact answer formed during changes frame'.resources [] (fun _ => by rfl) (fun r => by simp) h
  | @hold a handled _ code' _ frame' reply _ later during changes =>
    have stored := answer formed during changes frame'.resources []
      (g := fun rt => { rt with slice := some (.drain a handled (.handling code' frame' reply)) })
      (fun _ => rfl) (fun r => by simp) h
    exact { stored.modifyRuntimeSame ((formed.changes changes).distinctRuntimes.modify _ _)
      fun _ => by rfl with }
  | @handled a handled _ _ frame' reply _ result during changes =>
    have stored := answer formed during changes [] frame'.resources
      (g := fun rt => { rt with slice := some (.drain a handled (.replying reply result)) })
      (fun _ => rfl) (fun r => by simp) h
    exact stored.drop []
  | reply trace =>
    exact ((h.setSlice runtimes _ _ fun _ => rfl).traced trace).doFirst (free_map (fun _ => rfl) _)
  | begin =>
    refine ((h.modifyRuntimeSame runtimes fun _ => by rfl).modifyNode _ _).setSlice ?_ _ _
      fun _ => rfl
    exact runtimes.modify _ _
  | refuse => exact (h.modifyRuntimeSame runtimes fun _ => by rfl).doFirst rfl
  | beginDrain =>
    refine (h.modifyRuntimeSame runtimes fun _ => by rfl).setSlice ?_ _ _ fun _ => rfl
    exact runtimes.modify _ _
  | markerStop => exact { h.modifyRuntimeSame runtimes fun _ => by rfl with }
  | markerAgain =>
    exact { (h.modifyRuntimeSame runtimes fun _ => by rfl).enqueue
      (runtimes.modify _ _) _ _ _ with }
  | markerSkip => exact h.modifyRuntimeSame runtimes fun _ => by rfl

theorem start (formed : Formed s) (r : RuntimeId) (goal : Goal) (h : Own s rest []) :
    Own (s.start r goal) rest [] := by
  obtain ⟨trace, eq⟩ := s.start_eq r goal
  rw [eq]
  exact { h.modifyRuntimeSame formed.distinctRuntimes fun _ => by rfl with }

theorem install (formed : Formed s) (place : Nat) (settings : Settings) (h : Own s hand base) :
    Own (s.install place settings) hand base := by
  refine h.keep (fun r => Nat.le_of_eq ?_) fun r _ hr => by cases r <;> exact hr
  have := Store.tally_set_fresh (w := fun _ rt => rt.resources.count r)
    (a := { settings := settings }) (formed.runtimes.fresh (k := ⟨s.runtimes.size⟩) rfl)
  simp only [State.owners, State.install, this]
  simp [Runtime.resources]

theorem move (formed : Formed s) (idle : s.agenda = []) {d d' : Desk} (m : Move s d s' d')
    (h : Own s d.resources []) : Own s' d'.resources [] := by
  have runtimes := formed.distinctRuntimes
  cases m with
  | build place batch stem =>
    rcases s.build_cases place batch stem with same | ⟨-, settings, built⟩
    · rwa [same]
    · rw [built]
      exact h.install formed place settings
  | start | block => exact h.start formed _ _
  | startRounds _ rounds band =>
    have marked : Own { s with markers := s.markers + 1 } [] [] := { h with }
    have formed' : Formed { s with markers := s.markers + 1 } := { formed with }
    exact (marked.enqueue runtimes _ _ _).start (formed'.enqueue _ _ _) _ _
  | @launchRoot _ r _ body =>
    obtain ⟨nodes, trace, -, eq⟩ :=
      State.launch_addNode_eq formed.nodes .normal none r body true
    rw [State.launchRoot, eq]
    exact (setTask formed _ nodes trace rfl rfl h).enqueue runtimes _ _ _
  | @leaveRoot _ t =>
    have taken := h.modifyTask formed.distinctTasks (t := t)
      (f := fun m => { m with outcome := none }) (fun _ => rfl) (fun _ => rfl)
    exact taken.keep (fun r => by
      rw [State.leaveRoot, State.owners_doFirst]
      simp only [State.takeOutcome, Desk.resources, List.flatMap_cons, List.flatMap_nil,
        Action.resources, List.append_nil, List.count_nil]
      omega) fun r _ hr => by cases r <;> exact hr
  | @close place r =>
    have removed : Own { s with places := s.places.erase place } [] [] := { h with }
    exact ((removed.modifyRuntimeSame runtimes fun _ => by rfl).tell _).doFirst
      (free_map (fun _ => rfl) _)
  | join => exact h.start formed _ _
  | @line _ _ reaction plain =>
    have line : Own (State.begin reaction) (reaction.frame.resources ++ []) [] :=
      afterChanges formed (State.plain?_fits idle plain) h
    rwa [List.append_nil] at line
  | @shelve f =>
    have shelved := State.shelve_changes (c := { who := .main }) f s []
    have line : Own (s.shelve f) ([] ++ []) [] :=
      afterChanges formed shelved (by rwa [List.append_nil, List.append_nil])
    exact line

end Own

end Nursery
