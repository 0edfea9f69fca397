import Nursery.Proofs.Invariant.Seat

/-!
# Every task has a runtime

The runtime of a task, of a group and of a place was built, and a runtime that was built stays
known for ever.

* `Housed` : the invariant.
* `Housed.effect`, `Housed.change`, `Housed.work`, `Housed.move` : it is kept.
-/

namespace Nursery

namespace State

/-- The runtime was built. -/
def Built (s : State) (r : RuntimeId) : Prop :=
  ∃ rt, s.runtimes.get? r = some rt

/-- The runtime whose queue a task is put into, if the task is known. -/
def home? (s : State) (t : TaskId) : Option RuntimeId :=
  (s.tasks.get? t).map Task.home

/-- The runtime of the children of a group, if the group is known. -/
def groupHome? (s : State) (g : TaskId) : Option RuntimeId :=
  (s.groups.get? g).map Group.home

end State

/-- The runtimes of tasks, groups and places were built. -/
structure Housed (s : State) : Prop where
  /-- The runtime of a task was built. -/
  tasks : ∀ t r, s.home? t = some r → s.Built r
  /-- The runtime of a group was built. -/
  groups : ∀ g r, s.groupHome? g = some r → s.Built r
  /-- The runtime in a place was built. -/
  places : ∀ place r, s.places.get? place = some r → s.Built r

namespace State

variable {s : State} {r : RuntimeId}

theorem Built.modifyRuntime (h : s.Built r) (home : RuntimeId) (f : Runtime → Runtime) :
    (s.modifyRuntime home f).Built r := by
  obtain ⟨rt, found⟩ := h
  exact ⟨_, Store.get?_modify_eq_some.2 ⟨rt, found, rfl⟩⟩

theorem Built.enqueue (h : s.Built r) (home : RuntimeId) (p : Priority) (e : Entry) :
    (s.enqueue home p e).Built r := by
  unfold State.enqueue
  split
  · exact h
  · exact h.modifyRuntime _ _

theorem home?_modifyTask {t u : TaskId} {f : Task → Task} (same : ∀ m, (f m).home = m.home) :
    (s.modifyTask t f).home? u = s.home? u :=
  Store.map_get?_modify_same same

theorem groupHome?_modifyGroup {g u : TaskId} {f : Group → Group}
    (same : ∀ m, (f m).home = m.home) : (s.modifyGroup g f).groupHome? u = s.groupHome? u :=
  Store.map_get?_modify_same same

theorem built_of_slice {slice : Slice} (h : s.slice r = some slice) : s.Built r := by
  obtain ⟨rt, found, -⟩ := slice_eq h
  exact ⟨rt, found⟩

end State

namespace Housed

variable {s s' : State} {c : Context} {hand hand' : List Resource} {a : Action}

theorem init : Housed {} where
  tasks t r h := by simp [State.home?, Store.get?, Store.lookup] at h
  groups g r h := by simp [State.groupHome?, Store.get?, Store.lookup] at h
  places place r h := by simp [Store.get?, Store.lookup] at h

theorem modifyTask (h : Housed s) (t : TaskId) {f : Task → Task}
    (same : ∀ m, (f m).home = m.home) : Housed (s.modifyTask t f) :=
  { h with tasks := fun u r hu => h.tasks u r ((State.home?_modifyTask same).symm.trans hu) }

theorem modifyGroup (h : Housed s) (g : TaskId) {f : Group → Group}
    (same : ∀ m, (f m).home = m.home) : Housed (s.modifyGroup g f) :=
  { h with
    groups := fun u r hu => h.groups u r ((State.groupHome?_modifyGroup same).symm.trans hu) }

theorem modifyRuntime (h : Housed s) (home : RuntimeId) (f : Runtime → Runtime) :
    Housed (s.modifyRuntime home f) where
  tasks t r ht := (h.tasks t r ht).modifyRuntime home f
  groups g r hg := (h.groups g r hg).modifyRuntime home f
  places place r hp := (h.places place r hp).modifyRuntime home f

theorem enqueue (h : Housed s) (home : RuntimeId) (p : Priority) (e : Entry) :
    Housed (s.enqueue home p e) := by
  unfold State.enqueue
  split
  · exact { h with }
  · exact h.modifyRuntime _ _

theorem eraseTask (h : Housed s) (t : TaskId) : Housed { s with tasks := s.tasks.erase t } :=
  { h with
    tasks := fun u r hu => by
      simp only [State.home?, Store.get?_erase] at hu
      split at hu
      · cases hu
      · exact h.tasks u r hu }

theorem eraseGroup (h : Housed s) (g : TaskId) : Housed { s with groups := s.groups.erase g } :=
  { h with
    groups := fun u r hu => by
      simp only [State.groupHome?, Store.get?_erase] at hu
      split at hu
      · cases hu
      · exact h.groups u r hu }

theorem setTask (h : Housed s) (task : Task) (built : s.Built task.home) (t : TaskId)
    (nodes : Store TaskId Node) (trace : Array Event) :
    Housed { s with nodes := nodes, trace := trace, tasks := s.tasks.set t task } :=
  { h with
    tasks := fun u r hu => by
      by_cases htu : t = u
      · subst htu
        simp only [State.home?, Store.get?_set_self, Option.map_some, Option.some.injEq] at hu
        exact hu ▸ built
      · simp only [State.home?, Store.get?_set_of_ne htu] at hu
        exact h.tasks u r hu }

/-! ### Transitions -/

theorem effect (e : Effect s a s') (h : Housed s) : Housed s' := by
  cases e with
  | spent | cancel | finish | orphan | reap | reapLast | notify | awake | inform | trip | announce
  | answer | record | panic | dropGroup | dropUndrained | dropAnswered | dropPending | silence
  | discardTask | discardDrain | abandon => exact { h with }
  | resume =>
    refine enqueue ?_ _ _ _
    exact { h with }
  | wakeWaiters | forget => exact { h.modifyTask _ (fun _ => by rfl) with }
  | @reportFailure t f trace only | @dropHandle t f trace only =>
    have kept := h.modifyTask t (f := f) fun m => by
      obtain ⟨b, eq⟩ := only m
      rw [eq]
    exact { kept with }
  | dissolve => exact { h.eraseGroup _ with }
  | bury => exact { h.eraseTask _ with }

theorem post (h : Housed s) (a : ActorId) (home : RuntimeId) (message : Message) :
    Housed (s.post a home message) := by
  unfold State.post
  split
  · exact h
  · dsimp only
    split
    · exact { h with }
    · refine enqueue ?_ _ _ _
      exact { h with }

/-- A line that runs on a runtime that was built. -/
theorem change (formed : Formed s) (here : ∀ home, c.home = some home → s.Built home)
    (hc : Change c s hand s' hand') (h : Housed s) : Housed s' := by
  cases hc with
  | tell | shed | nameTask | adopt | share | actor | refuse | learn | expect | listen | park
  | state | record | release | cancel | wake => exact { h with }
  | @spawn home parent priority body idle built =>
    -- a task is made on the runtime of its maker, or on one that the main thread names
    have built' : s.Built home := by
      rcases built with built | ⟨-, place, found⟩
      · exact here home built
      · exact h.places place home found
    obtain ⟨nodes, trace, -, eq⟩ :=
      State.launch_addNode_eq formed.nodes priority parent home body false
    rw [eq]
    refine enqueue ?_ _ _ _
    exact h.setTask _ built' _ nodes trace
  | @group home _ built =>
    obtain ⟨nodes, trace, priority, -, eq⟩ := State.makeGroup_eq formed.nodes c home
    rw [eq]
    refine { h with groups := fun g r hg => ?_ }
    by_cases same : s.nextNode = g
    · subst same
      simp only [State.groupHome?, Store.get?_set_self, Option.map_some, Option.some.injEq] at hg
      exact hg ▸ here home built
    · simp only [State.groupHome?, Store.get?_set_of_ne same] at hg
      exact h.groups g r hg
  | @add g group priority body _ _ found =>
    obtain ⟨nodes, trace, p, -, eq⟩ :=
      State.addChild_eq formed.nodes formed.fresh_task g group priority body
    have built : s.Built group.home := h.groups g _ (by simp [State.groupHome?, found])
    rw [eq]
    refine enqueue ?_ _ _ _
    have made := h.setTask
      { fiber := some { code := body }, home := group.home,
        waiters := [.member g group.children.length s.nextNode] } built s.nextNode nodes trace
    exact made.modifyGroup g fun _ => rfl
  | call =>
    refine post ?_ _ _ _
    exact { h with }
  | send => exact h.post _ _ _
  | register | take => exact h.modifyTask _ fun _ => by rfl
  | draw | fail => exact { h.modifyGroup _ (fun _ => by rfl) with }

theorem changes (formed : Formed s) (here : ∀ home, c.home = some home → s.Built home)
    (hc : Changes c s hand s' hand') (h : Housed s) : Housed s' := by
  have := hc.invariant
    (I := fun s _ => Formed s ∧ (∀ home, c.home = some home → s.Built home) ∧ Housed s)
    (fun hc h => ⟨h.1.change hc, fun home at_home => by
      obtain ⟨rt, found⟩ := h.2.1 home at_home
      exact (Keeps.change h.1 hc).built home rt found, h.2.2.change h.1 h.2.1 hc⟩)
    ⟨formed, here, h⟩
  exact this.2.2

theorem work (formed : Formed s) {home : RuntimeId} (w : Work s home s') (h : Housed s) :
    Housed s' := by
  -- a line runs where a worker is in a slice
  have line : ∀ {who : Speaker} {slice : Slice} {s₁ : State} {hand hand' : List Resource},
      s.slice home = some slice → Changes ⟨who, some home⟩ s hand s₁ hand' → Housed s₁ := by
    intro who slice s₁ hand hand' during hc
    refine h.changes formed (fun home' at_home => ?_) hc
    cases at_home
    exact State.built_of_slice during
  have body : ∀ {t : TaskId} {task : Task} {f : Fiber} {s₁ : State} {hand : List Resource},
      s.Runs home t task f → Changes ⟨.task t, some home⟩ s f.resources s₁ hand →
        ∀ fiber, Housed (s₁.modifyTask t fun m => { m with fiber := fiber }) := by
    intro t task f s₁ hand runs hc fiber
    rcases runs.slice with during | during
    · exact (line during hc).modifyTask t fun _ => rfl
    · exact (line during hc).modifyTask t fun _ => rfl
  cases w with
  | stop => exact { h with }
  | lost | markerSkip => exact h.modifyRuntime _ _
  | next runs _ changes => exact body runs changes _
  | suspend runs _ changes => exact (body runs changes _).modifyRuntime _ _
  | ends told runs changes => exact { (body runs changes none).modifyRuntime home _ with }
  | pause later runs _ changes => exact { (body runs changes (some _)).modifyRuntime home _ with }
  | rest | leave | refuse | markerStop | reply => exact { h.modifyRuntime home _ with }
  | forgotten | drained => exact { h.modifyRuntime home _ with }
  | again =>
    refine enqueue ?_ _ _ _
    exact { h.modifyRuntime home _ with }
  | @endBody t ending f trace cancelled during only =>
    have joined : Housed (s.setSlice home (some (.task t .joining))) := h.modifyRuntime _ _
    have kept := joined.modifyTask t (f := f) fun m => by
      obtain ⟨o, a, eq⟩ := only m
      rw [eq]
    exact { kept with }
  | complete => exact { h.modifyRuntime home _ with }
  | receive => exact { h.modifyRuntime home _ with }
  | drainAgain =>
    refine enqueue ?_ _ _ _
    exact { h.modifyRuntime home _ with }
  | handle during changes => exact (line during changes).modifyRuntime _ _
  | hold later during changes =>
    exact { ((line during changes).modifyRuntime home _).modifyRuntime home _ with }
  | handled result during changes => exact { (line during changes).modifyRuntime home _ with }
  | begin => exact { (h.modifyRuntime home _).modifyRuntime home _ with }
  | beginDrain => exact (h.modifyRuntime _ _).modifyRuntime _ _
  | markerAgain band goal => exact { (h.modifyRuntime home _).enqueue home band _ with }

theorem start (h : Housed s) (r : RuntimeId) (goal : Goal) : Housed (s.start r goal) := by
  obtain ⟨trace, eq⟩ := s.start_eq r goal
  rw [eq]
  exact { h.modifyRuntime r fun rt => { rt with paused := none } with }

theorem install (formed : Formed s) (h : Housed s) (place : Nat) (settings : Settings) :
    Housed (s.install place settings) := by
  have fresh := formed.runtimes.fresh (k := ⟨s.runtimes.size⟩) rfl
  have old : ∀ r, s.Built r → (s.install place settings).Built r := by
    rintro r ⟨rt, found⟩
    have other : (⟨s.runtimes.size⟩ : RuntimeId) ≠ r := by
      rintro rfl
      exact absurd (fresh.symm.trans found) (by simp)
    exact ⟨rt, (Store.get?_set_of_ne other).trans found⟩
  refine ⟨fun t r ht => old r (h.tasks t r ht), fun g r hg => old r (h.groups g r hg),
    fun place' r hp => ?_⟩
  by_cases same : place = place'
  · subst same
    simp only [State.install, Store.get?_set_self, Option.some.injEq] at hp
    subst hp
    exact ⟨_, Store.get?_set_self⟩
  · exact old r (h.places place' r ((Store.get?_set_of_ne same).symm.trans hp))

theorem move (formed : Formed s) (idle : s.agenda = []) {d d' : Desk} (m : Move s d s' d')
    (h : Housed s) : Housed s' := by
  have main : ∀ home, ({ who := .main } : Context).home = some home → s.Built home := by
    intro home at_home
    cases at_home
  cases m with
  | build place batch stem =>
    rcases s.build_cases place batch stem with same | ⟨-, settings, built⟩
    · rwa [same]
    · rw [built]
      exact h.install formed place settings
  | start | block | join => exact h.start _ _
  | startRounds _ rounds band =>
    have marked : Housed { s with markers := s.markers + 1 } := { h with }
    exact (marked.enqueue _ _ _).start _ _
  | @launchRoot place r found body =>
    obtain ⟨nodes, trace, -, eq⟩ :=
      State.launch_addNode_eq formed.nodes .normal none r body true
    rw [State.launchRoot, eq]
    refine enqueue ?_ _ _ _
    exact h.setTask _ (h.places place r found) _ nodes trace
  | leaveRoot => exact { h.modifyTask _ (fun _ => by rfl) with }
  | @close place r found =>
    have removed : Housed { s with places := s.places.erase place } :=
      { h with
        places := fun place' r' hp => by
          simp only [Store.get?_erase] at hp
          split at hp
          · cases hp
          · exact h.places place' r' hp }
    exact { removed.modifyRuntime r fun rt => { rt with closed := true, queue := {} } with }
  | line plain => exact h.changes formed main (State.plain?_fits idle plain)
  | @shelve f => exact h.changes formed main (State.shelve_changes f s [])

end Housed

end Nursery
