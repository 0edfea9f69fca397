import Nursery.Proofs.Invariant.Dispatch
import Nursery.Proofs.Invariant.Hushed

/-!
# Whoever waits will be woken

A task that only a wake can bring back waits for something that is not there yet, and its waker is
registered where that will come up; or a wake for it is on its way already.  Each way of waiting is
followed through every change: either it goes on as before, or the change has brought a wake.

* `State.Dormant`, `State.Roused`, `State.Attended` : who needs a wake, and where it comes from.
* `Heeds` : what a task waits for is still waited for, or the task was woken.
* `Tended`, `Wakeful` : the invariant, for one task and for all.
* `Wakeful.effect`, `Wakeful.bystander`, `Wakeful.work`, `Wakeful.move` : it is kept.
-/

namespace Nursery

namespace State

/-- Only a wake brings the task back: it is suspended, or its slice is about to end with that. -/
def Dormant (s : State) (t : TaskId) : Prop :=
  s.phase t = .suspended ∨ s.phase t = .running ∧ ∃ r, s.slice r = some (.task t .suspending)

theorem not_dormant {s : State} {t : TaskId} (up : s.phase t ≠ .suspended)
    (slices : ∀ r, s.slice r ≠ some (.task t .suspending)) : ¬ s.Dormant t := by
  rintro (suspended | ⟨-, r, during⟩)
  · exact up suspended
  · exact slices r during

theorem not_dormant_of_phase {s : State} {t : TaskId} {p : Phase} (phase : s.phase t = p)
    (up : p ≠ .suspended) (idle : p ≠ .running) : ¬ s.Dormant t := by
  rintro (suspended | ⟨running, -⟩)
  · exact up (phase.symm.trans suspended)
  · exact idle (phase.symm.trans running)

/-- A wake for the task is on its way. -/
def Roused (s : State) (t : TaskId) : Prop :=
  .wake (.task t) ∈ s.agenda ∨
    ∃ u task, .wakeWaiters u ∈ s.agenda ∧ s.tasks.get? u = some task ∧ .task t ∈ task.waiters

/-- The task waits for its children, and there are some. -/
def Joins (s : State) (t : TaskId) : Prop :=
  ∃ node, s.nodes.get? t = some node ∧ node.children ≠ [] ∧ node.joining = true

/-- What is left of the task waits for something that will wake it, or goes with the task. -/
def Attended (s : State) (t : TaskId) : Option Fiber → Prop
  | some f => ∃ w, f.waiting = some w ∧ w.wait.Armed s t
  | none => .bury t ∈ s.agenda ∨ s.Joins t

end State

/-- The stages of a slice at which the body has ended. -/
def Stage.past : Stage → Bool
  | .ended _ | .joining | .leaving => true
  | .polling | .suspending => false

/-- A task is woken when it has to be. -/
structure Tended (s : State) (t : TaskId) (task : Task) : Prop where
  /-- The body waits for something that it owns. -/
  own : ∀ f w, task.fiber = some f → f.waiting = some w → w.wait.OnOwn f.resources
  /-- Nothing is left of a body that has ended. -/
  past : ∀ r stage, s.slice r = some (.task t stage) → stage.past = true → task.fiber = none
  /-- A task that only a wake brings back will get one. -/
  attended : s.Dormant t → s.Roused t ∨ s.Attended t task.fiber

/-- Every task is woken when it has to be. -/
def Wakeful (s : State) : Prop :=
  ∀ t task, s.tasks.get? t = some task → Tended s t task

theorem Wakeful.waitsOnOwn {s : State} (h : Wakeful s) : s.WaitsOnOwn :=
  fun t task f w found fiber waits => (h t task found).own f w fiber waits

/-- Whatever a task waits for that owns some resources, it goes on waiting for it, or a wake is on
its way. -/
structure Heeds (s s' : State) (t : TaskId) (rs : List Resource) : Prop where
  /-- A wake is not lost. -/
  roused : s.Roused t → s'.Roused t
  /-- The end of a task. -/
  awaits : ∀ u, .handle u ∈ rs → s.Awaits t u → s'.Awaits t u ∨ s'.Roused t
  /-- The reply of a call. -/
  expects : ∀ k, .call k ∈ rs → s.Expects t k → s'.Expects t k ∨ s'.Roused t
  /-- The next child of a group. -/
  listens : ∀ g, .group g ∈ rs → s.Listens t g → s'.Listens t g ∨ s'.Roused t
  /-- The last of the children. -/
  joins : s.Joins t → s'.Joins t ∨ s'.Roused t
  /-- The end of the task itself. -/
  buried : .bury t ∈ s.agenda → .bury t ∈ s'.agenda

namespace Heeds

variable {s s' s'' : State} {t : TaskId} {rs : List Resource}

theorem trans (h : Heeds s s' t rs) (h' : Heeds s' s'' t rs) : Heeds s s'' t rs where
  roused hr := h'.roused (h.roused hr)
  awaits u hu ha := (h.awaits u hu ha).elim (h'.awaits u hu) fun hr => .inr (h'.roused hr)
  expects k hk he := (h.expects k hk he).elim (h'.expects k hk) fun hr => .inr (h'.roused hr)
  listens g hg hl := (h.listens g hg hl).elim (h'.listens g hg) fun hr => .inr (h'.roused hr)
  joins hj := (h.joins hj).elim h'.joins fun hr => .inr (h'.roused hr)
  buried hb := h'.buried (h.buried hb)

theorem of_roused (woken : s'.Roused t) (buried : .bury t ∈ s.agenda → .bury t ∈ s'.agenda) :
    Heeds s s' t rs where
  roused _ := woken
  awaits _ _ _ := .inr woken
  expects _ _ _ := .inr woken
  listens _ _ _ := .inr woken
  joins _ := .inr woken
  buried := buried

theorem armed {w : Wait} (h : Heeds s s' t rs) (own : w.OnOwn rs) (armed : w.Armed s t) :
    w.Armed s' t ∨ s'.Roused t := by
  by_cases woken : s'.Roused t
  · exact .inr woken
  refine .inl ?_
  cases w with
  | yielding | spinning | filling => exact armed
  | parked => exact trivial
  | awaiting r taken =>
    cases r with
    | handle u => exact (h.awaits u own armed).resolve_right woken
    | group g => exact armed
    | call k => exact (h.expects k own armed).resolve_right woken
  | selecting handles =>
    intro x hx
    exact (h.awaits x.2 (own x hx) (armed x hx)).resolve_right woken
  | next g => exact (h.listens g own armed).resolve_right woken
  | all g => exact (h.listens g own armed).resolve_right woken

/-! ### Changes to one record -/

theorem records (nodes : s'.nodes = s.nodes) (tasks : s'.tasks = s.tasks)
    (calls : s'.calls = s.calls) (groups : s'.groups = s.groups) (signals : s'.signals = s.signals)
    (agenda : ∀ a ∈ s.agenda, a ∈ s'.agenda) : Heeds s s' t rs where
  roused hr := by
    rcases hr with now | ⟨u, task, later, found, waits⟩
    · exact .inl (agenda _ now)
    · exact .inr ⟨u, task, agenda _ later, by rwa [tasks], waits⟩
  awaits u _ ha := by
    refine .inl ?_
    simp only [State.Awaits, State.phase, nodes, tasks]
    exact ha
  expects k _ he := by
    refine .inl ?_
    simp only [State.Expects, calls]
    exact he
  listens g _ hl := by
    refine .inl ?_
    simp only [State.Listens, State.completed, groups, signals]
    exact hl
  joins hj := by
    refine .inl ?_
    simp only [State.Joins, nodes]
    exact hj
  buried := agenda _

theorem refl : Heeds s s t rs :=
  records rfl rfl rfl rfl rfl fun _ h => h

theorem doFirst (as : List Action) : Heeds s (s.doFirst as) t rs :=
  records rfl rfl rfl rfl rfl fun _ h => List.mem_append_right _ h

theorem doLast (as : List Action) : Heeds s (s.doLast as) t rs :=
  records rfl rfl rfl rfl rfl fun _ h => List.mem_append_left _ h

theorem tell (e : Event) : Heeds s (s.tell e) t rs :=
  records rfl rfl rfl rfl rfl fun _ h => h

theorem traced (trace : Array Event) : Heeds s { s with trace := trace } t rs :=
  records rfl rfl rfl rfl rfl fun _ h => h

theorem setSlice (home : RuntimeId) (new : Option Slice) : Heeds s (s.setSlice home new) t rs :=
  records rfl rfl rfl rfl rfl fun _ h => h

theorem enqueue (r : RuntimeId) (p : Priority) (e : Entry) : Heeds s (s.enqueue r p e) t rs := by
  unfold State.enqueue
  split
  · exact doFirst _
  · exact records rfl rfl rfl rfl rfl fun _ h => h

theorem modifyNode {n : TaskId} {f : Node → Node}
    (ongoing : s.Awaits t n → ∀ m, m.phase.isTerminal = false → (f m).phase.isTerminal = false)
    (joins : n = t → ∀ m, s.nodes.get? n = some m → m.children ≠ [] → m.joining = true →
      (f m).children ≠ [] ∧ (f m).joining = true) : Heeds s (s.modifyNode n f) t rs where
  roused hr := hr
  awaits u _ ha := by
    refine .inl ⟨?_, ha.2⟩
    by_cases hn : n = u
    · subst hn
      cases found : s.nodes.get? n with
      | none =>
        rw [State.phase_modifyNode_of_none found]
        exact ha.1
      | some m =>
        rw [State.phase_modifyNode_self found]
        refine ongoing ha m ?_
        rw [← State.phase_of_get? found]
        exact ha.1
    · rw [State.phase_modifyNode_of_ne hn]
      exact ha.1
  expects k _ he := .inl he
  listens g _ hl := .inl hl
  joins hj := by
    obtain ⟨m, found, some_left, waits⟩ := hj
    refine .inl ⟨_, Store.get?_modify_eq_some.2 ⟨m, found, rfl⟩, ?_⟩
    split
    · rename_i same
      subst same
      exact joins rfl m found some_left waits
    · exact ⟨some_left, waits⟩
  buried hb := hb

theorem markNode {n : TaskId} {f : Node → Node}
    (same : ∀ m, (m.phase.isTerminal = false → (f m).phase.isTerminal = false) ∧
      (f m).children = m.children ∧ (f m).joining = m.joining) :
    Heeds s (s.modifyNode n f) t rs := by
  refine .modifyNode (fun _ m => (same m).1) fun _ m _ some_left waits => ⟨?_, ?_⟩
  · rwa [(same m).2.1]
  · rwa [(same m).2.2]

theorem modifyTask {u : TaskId} {f : Task → Task}
    (kept : ∀ m, s.tasks.get? u = some m → .task t ∈ m.waiters → .task t ∈ (f m).waiters) :
    Heeds s (s.modifyTask u f) t rs where
  roused hr := by
    rcases hr with now | ⟨v, m, later, found, waits⟩
    · exact .inl now
    · refine .inr ⟨v, _, later, Store.get?_modify_eq_some.2 ⟨m, found, rfl⟩, ?_⟩
      split
      · rename_i same
        subst same
        exact kept m found waits
      · exact waits
  awaits v _ ha := by
    refine .inl ⟨ha.1, fun m' found' => ?_⟩
    obtain ⟨m, found, rfl⟩ := Store.get?_modify_eq_some.1 found'
    split
    · rename_i same
      subst same
      exact kept m found (ha.2 m found)
    · exact ha.2 m found
  expects k _ he := .inl he
  listens g _ hl := .inl hl
  joins hj := .inl hj
  buried hb := hb

theorem modifyCall {k : CallId} {f : Call → Call}
    (kept : .call k ∈ rs → ∀ m, s.calls.get? k = some m →
      m.accepted = true ∧ m.outcome = none ∧ m.waker = some t →
        (f m).accepted = true ∧ (f m).outcome = none ∧ (f m).waker = some t) :
    Heeds s (s.modifyCall k f) t rs where
  roused hr := hr
  awaits u _ ha := .inl ha
  expects j hj he := by
    refine .inl fun m' found' => ?_
    obtain ⟨m, found, rfl⟩ := Store.get?_modify_eq_some.1 found'
    split
    · rename_i same
      subst same
      exact kept hj m found (he m found)
    · exact he m found
  listens g _ hl := .inl hl
  joins hj := .inl hj
  buried hb := hb

theorem modifySignal {g : TaskId} {f : Signal → Signal}
    (kept : .group g ∈ rs → ∀ m, s.signals.get? g = some m →
      m.completed = [] → m.waker = some t → (f m).completed = [] ∧ (f m).waker = some t) :
    Heeds s (s.modifySignal g f) t rs where
  roused hr := hr
  awaits u _ ha := .inl ha
  expects k _ he := .inl he
  listens j hj hl := by
    obtain ⟨none_ready, outstanding, waker⟩ := hl
    have both : ∀ m, s.signals.get? j = some m → m.completed = [] ∧ m.waker = some t := by
      intro m found
      refine ⟨?_, waker m found⟩
      simpa [State.completed, found] using none_ready
    have now : ∀ m', (s.modifySignal g f).signals.get? j = some m' →
        m'.completed = [] ∧ m'.waker = some t := by
      intro m' found'
      obtain ⟨m, found, rfl⟩ := Store.get?_modify_eq_some.1 found'
      split
      · rename_i same
        subst same
        exact kept hj m found (both m found).1 (both m found).2
      · exact both m found
    refine .inl ⟨?_, outstanding, fun m' found' => (now m' found').2⟩
    cases found' : (s.modifySignal g f).signals.get? j with
    | none => simp [State.completed, found']
    | some m' => simpa [State.completed, found'] using (now m' found').1
  joins hj := .inl hj
  buried hb := hb

theorem modifyGroup {g : TaskId} {f : Group → Group}
    (kept : .group g ∈ rs → ∀ m, s.groups.get? g = some m → 0 < m.remaining →
      0 < (f m).remaining) : Heeds s (s.modifyGroup g f) t rs where
  roused hr := hr
  awaits u _ ha := .inl ha
  expects k _ he := .inl he
  listens j hj hl := by
    refine .inl ⟨hl.1, fun m' found' => ?_, hl.2.2⟩
    obtain ⟨m, found, rfl⟩ := Store.get?_modify_eq_some.1 found'
    split
    · rename_i same
      subst same
      exact kept hj m found (hl.2.1 m found)
    · exact hl.2.1 m found
  joins hj := .inl hj
  buried hb := hb

theorem eraseGroup (g : TaskId) : Heeds s { s with groups := s.groups.erase g } t rs where
  roused hr := hr
  awaits u _ ha := .inl ha
  expects k _ he := .inl he
  listens j hj hl := by
    refine .inl ⟨hl.1, fun m found => ?_, hl.2.2⟩
    rw [Store.get?_erase] at found
    split at found
    · cases found
    · exact hl.2.1 m found
  joins hj := .inl hj
  buried hb := hb

theorem eraseTask {u : TaskId} (silent : .wakeWaiters u ∉ s.agenda) :
    Heeds s { s with tasks := s.tasks.erase u } t rs where
  roused hr := by
    rcases hr with now | ⟨v, m, later, found, waits⟩
    · exact .inl now
    · have other : u ≠ v := by
        rintro rfl
        exact silent later
      exact .inr ⟨v, m, later, by rw [Store.get?_erase, if_neg other]; exact found, waits⟩
  awaits v _ ha := by
    refine .inl ⟨ha.1, fun m found => ?_⟩
    rw [Store.get?_erase] at found
    split at found
    · cases found
    · exact ha.2 m found
  expects k _ he := .inl he
  listens g _ hl := .inl hl
  joins hj := .inl hj
  buried hb := hb

/-! ### Items of the agenda -/

theorem pop {a : Action} (wake : a ≠ .wake (.task t))
    (waiters : ∀ u m, a = .wakeWaiters u → s.tasks.get? u = some m → .task t ∉ m.waiters)
    (bury : a ≠ .bury t) : Heeds (s.doFirst [a]) s t rs where
  roused hr := by
    rcases hr with now | ⟨u, m, later, found, waits⟩
    · exact .inl ((List.mem_cons.1 now).resolve_left (Ne.symm wake))
    · refine .inr ⟨u, m, (List.mem_cons.1 later).resolve_left fun same => ?_, found, waits⟩
      exact waiters u m same.symm found waits
  awaits u _ ha := .inl ha
  expects k _ he := .inl he
  listens g _ hl := .inl hl
  joins hj := .inl hj
  buried hb := (List.mem_cons.1 hb).resolve_left (Ne.symm bury)

theorem panic {message : String} (soft : ∀ b ∈ s.agenda, b.wakes = false)
    (calm : ∀ b ∈ s.agenda, b.tolls = false) :
    Heeds s { s with unwinding := some message
                     agenda := s.agenda.filterMap Action.afterPanic } t rs where
  roused hr := by
    rcases hr with now | ⟨u, m, later, -, -⟩
    · cases soft _ now
    · cases calm _ later
  awaits u _ ha := .inl ha
  expects k _ he := .inl he
  listens g _ hl := .inl hl
  joins hj := .inl hj
  buried hb := List.mem_filterMap.2 ⟨_, hb, rfl⟩

end Heeds

/-! ### Items of the agenda -/

theorem State.Roused.doFirst {s : State} {t : TaskId} {as : List Action}
    (h : .wake (.task t) ∈ as) : (s.doFirst as).Roused t :=
  .inl (List.mem_append_left _ h)

theorem State.owners_of_task {s : State} (formed : Formed s) {t : TaskId} {task : Task}
    (found : s.tasks.get? t = some task) {r : Resource} (mine : r ∈ task.resources) :
    0 < s.owners r := by
  have := Store.le_tally (w := fun _ m => m.resources.count r) formed.distinctTasks found
  have := List.count_pos_iff.2 mine
  simp only [owners]
  omega

namespace Effect

variable {s s' : State} {a : Action} {t : TaskId} {hand : List Resource}

theorem dormant (formed : Formed s) (e : Effect s a s') {task : Task}
    (found : s'.tasks.get? t = some task) (d : s'.Dormant t) :
    s.Dormant t ∧ a ≠ .wake (.task t) := by
  have back : s'.phase t = s.phase t → s.Dormant t := by
    intro phase
    refine d.imp (phase.symm.trans ·) fun ⟨running, r, during⟩ => ?_
    exact ⟨phase.symm.trans running, r, (e.slice r).symm.trans during⟩
  by_cases wakes : a = .wake (.task t)
  · exfalso
    subst wakes
    cases e with
    | spent why => exact absurd (why.2.symm.trans found) (by simp)
    | resume _ known =>
      obtain ⟨node, hn, -⟩ := Option.map_eq_some_iff.1 (formed.tasks t _ known)
      refine State.not_dormant_of_phase (p := .ready) ?_ (by simp) (by simp) d
      unfold State.enqueue
      split <;> exact State.phase_modifyNode_self (s := s) hn
    | notify running =>
      obtain ⟨node, hn, -⟩ := State.get?_of_phase running (by simp)
      exact State.not_dormant_of_phase (p := .notified)
        (State.phase_modifyNode_self (s := s) hn) (by simp) (by simp) d
    | awake up stopped => exact State.not_dormant_of_phase rfl up stopped d
  · refine ⟨back ?_, wakes⟩
    cases e with
    | cancel | finish | orphan => exact State.phase_modifyNode_same fun _ => by rfl
    | reap | reapLast =>
      exact (State.phase_modifyNode_same fun _ => by rfl).trans
        (State.phase_modifyNode_same fun _ => by rfl)
    | @resume u =>
      have other : u ≠ t := by simpa using wakes
      unfold State.enqueue
      split <;> exact State.phase_modifyNode_of_ne (s := s) other
    | @notify u =>
      have other : u ≠ t := by simpa using wakes
      exact State.phase_modifyNode_of_ne (s := s) other
    | _ => rfl

theorem heeds (formed : Formed s) (own : Own (s.doFirst [a]) hand [])
    (tether : Tether (s.doFirst [a])) (hushed : Hushed (s.doFirst [a])) (e : Effect s a s')
    {task : Task} (found : s.tasks.get? t = some task) (asleep : a ≠ .wake (.task t))
    (stays : ∃ task', s'.tasks.get? t = some task') :
    Heeds (s.doFirst [a]) s' t task.resources := by
  -- what the task waits for is not being dropped
  have mine : ∀ r ∈ task.resources, a ≠ .release r := by
    rintro r hr rfl
    have := State.owners_of_task formed found hr
    have := own.dropped
    omega
  have wakers : ∀ {w : Option TaskId}, w = some t →
      .wake (.task t) ∈ w.toList.map fun u => Action.wake (.task u) := by
    rintro w rfl
    simp
  have unburied : a ≠ .bury t → .bury t ∈ (s.doFirst [a]).agenda → .bury t ∈ s.agenda :=
    fun other hb => (List.mem_cons.1 hb).resolve_left (Ne.symm other)
  cases e with
  | spent why =>
    refine .pop asleep ?_ ?_
    · rintro u m rfl known
      exact absurd (known.symm.trans why) (by simp)
    · rintro rfl
      exact absurd (found.symm.trans why) (by simp)
  | cancel =>
    exact (((Heeds.pop asleep (by simp) (by simp)).trans
      (.markNode fun m => by exact ⟨id, rfl, rfl⟩)).trans (.tell _)).trans (.doFirst _)
  | finish =>
    exact ((Heeds.pop asleep (by simp) (by simp)).trans
      (.markNode fun m => by exact ⟨id, rfl, rfl⟩)).trans (.doFirst _)
  | orphan =>
    exact (Heeds.pop asleep (by simp) (by simp)).trans
      (.markNode fun m => by exact ⟨id, rfl, rfl⟩)
  | reap _ _ _ _ more =>
    refine (((Heeds.pop asleep (by simp) (by simp)).trans
      (.markNode fun m => by exact ⟨id, rfl, rfl⟩)).trans (.modifyNode ?_ ?_)).trans (.tell _)
    · exact fun _ m hm => hm
    · exact fun _ m _ _ waits => ⟨more, waits⟩
  | @reapLast n p node above _ _ _ listed =>
    by_cases woken : p = t ∧ above.joining = true
    · obtain ⟨rfl, joins⟩ := woken
      refine .of_roused (.doFirst ?_) fun hb => List.mem_append_right _ (unburied (by simp) hb)
      simp [joins]
    · refine ((((Heeds.pop asleep (by simp) (by simp)).trans
        (.markNode fun m => by exact ⟨id, rfl, rfl⟩)).trans (.modifyNode ?_ ?_)).trans
        (.tell _)).trans (.doFirst _)
      · exact fun _ m hm => hm
      · intro same m hm _ waits
        cases listed.symm.trans hm
        exact absurd ⟨same, waits⟩ woken
  | resume =>
    exact ((Heeds.pop asleep (by simp) (by simp)).trans
      (.markNode fun m => by exact ⟨fun _ => rfl, rfl, rfl⟩)).trans (.enqueue _ _ _)
  | notify =>
    exact ((Heeds.pop asleep (by simp) (by simp)).trans
      (.markNode fun m => by exact ⟨fun _ => rfl, rfl, rfl⟩)).trans (.doFirst _)
  | awake | inform | dropGroup | dropUndrained | discardTask | discardDrain =>
    exact (Heeds.pop asleep (by simp) (by simp)).trans (.doFirst _)
  | trip =>
    refine (((Heeds.pop asleep (by simp) (by simp)).trans (.modifySignal ?_)).trans
      (.tell _)).trans (.doFirst _)
    exact fun _ m _ none_ready waker => ⟨none_ready, waker⟩
  | @announce g index signal known =>
    by_cases woken : signal.waker = some t
    · exact .of_roused (.doFirst (wakers woken)) fun hb =>
        List.mem_append_right _ (unburied (by simp) hb)
    · refine ((Heeds.pop asleep (by simp) (by simp)).trans (.modifySignal ?_)).trans (.doFirst _)
      intro _ m hm _ waker
      cases known.symm.trans hm
      exact absurd waker woken
  | @wakeWaiters u m known =>
    by_cases woken : .task t ∈ m.waiters
    · exact .of_roused (.doFirst (List.mem_map.2 ⟨_, woken, rfl⟩)) fun hb =>
        List.mem_append_right _ (unburied (by simp) hb)
    · refine ((Heeds.pop asleep ?_ (by simp)).trans (.modifyTask ?_)).trans (.doFirst _)
      · rintro v m' same hm
        cases same
        cases known.symm.trans hm
        exact woken
      · intro m' hm waits
        cases known.symm.trans hm
        exact absurd waits woken
  | @reportFailure u f trace only =>
    refine ((Heeds.pop asleep (by simp) (by simp)).trans (.modifyTask (u := u) (f := f) ?_)).trans
      (.traced trace)
    intro m _ waits
    obtain ⟨b, eq⟩ := only m
    rw [eq]
    exact waits
  | @answer k outcome call known =>
    by_cases woken : call.waker = some t
    · exact .of_roused (.doFirst (wakers woken)) fun hb =>
        List.mem_append_right _ (unburied (by simp) hb)
    · refine ((Heeds.pop asleep (by simp) (by simp)).trans (.modifyCall ?_)).trans (.doFirst _)
      rintro _ m hm ⟨-, -, waker⟩
      cases known.symm.trans hm
      exact absurd waker woken
  | record => exact (Heeds.pop asleep (by simp) (by simp)).trans (.tell _)
  | panic _ inside =>
    have soft : ∀ b ∈ s.agenda, b.wakes = false := hushed.soft inside
    have calm : ∀ b ∈ s.agenda, b.tolls = false :=
      fun b hb => hushed.calm inside b (List.mem_cons_of_mem _ hb)
    exact (Heeds.pop asleep (by simp) (by simp)).trans (.panic soft calm)
  | @dropHandle u f trace only =>
    refine (((Heeds.pop asleep (by simp) (by simp)).trans
      (.modifyTask (u := u) (f := f) ?_)).trans (.traced trace)).trans (.doFirst _)
    intro m _ waits
    obtain ⟨b, eq⟩ := only m
    rw [eq]
    exact waits
  | @dropAnswered k =>
    refine ((Heeds.pop asleep (by simp) (by simp)).trans (.modifyCall ?_)).trans (.doFirst _)
    exact fun hk => absurd rfl (mine _ hk)
  | dropPending =>
    refine (Heeds.pop asleep (by simp) (by simp)).trans (.modifyCall ?_)
    exact fun hk => absurd rfl (mine _ hk)
  | dissolve =>
    exact ((Heeds.pop asleep (by simp) (by simp)).trans (.eraseGroup _)).trans (.doFirst _)
  | forget =>
    refine ((Heeds.pop asleep (by simp) (by simp)).trans (.modifyTask ?_)).trans (.doFirst _)
    exact fun m _ waits => waits
  | @bury u =>
    have other : u ≠ t := by
      rintro rfl
      obtain ⟨m, hm⟩ := stays
      simp [State.doFirst, Store.get?_erase] at hm
    refine ((Heeds.pop asleep (by simp) (by simpa using other)).trans (.eraseTask ?_)).trans
      (.doFirst _)
    -- a task whose waiters are to be woken is still in its slice
    intro later
    obtain ⟨-, r, during⟩ := tether.leaving u (List.mem_cons_of_mem _ later)
    exact (tether.buried u List.mem_cons_self).slice_ne r _ during
  | @silence g signal dead =>
    refine ((Heeds.pop asleep (by simp) (by simp)).trans (.modifySignal ?_)).trans (.doFirst _)
    -- the owner of a group can get at its signal
    intro hg
    obtain ⟨group, known⟩ := own.there (.group g) (by
      rw [State.owners_doFirst]
      have := State.owners_of_task formed found hg
      omega)
    have alive := State.signalAlive_of_heard (s := s) (.inl ⟨group, known⟩)
    rw [dead] at alive
    cases alive
  | @abandon _ _ trace =>
    refine (Heeds.pop asleep (by simp) (by simp)).trans (.records rfl rfl rfl rfl rfl ?_)
    exact fun b hb => List.mem_append_right _ hb

end Effect

/-! ### One task -/

theorem Task.resources_of_fiber {m : Task} {f : Fiber} (h : m.fiber = some f) :
    m.resources = f.resources := by
  simp [Task.resources, h]

namespace Tended

variable {s s' : State} {t : TaskId} {task task' : Task}

theorem pass (h : Tended s t task) (fiber : task'.fiber = task.fiber)
    (slice : ∀ r stage, s'.slice r = some (.task t stage) → s.slice r = some (.task t stage))
    (heeds : s'.Dormant t → s.Dormant t ∧ Heeds s s' t task.resources) : Tended s' t task' where
  own f w hf hw := h.own f w (fiber ▸ hf) hw
  past r stage during past := fiber.trans (h.past r stage (slice r stage during) past)
  attended d := by
    obtain ⟨before, heeds⟩ := heeds d
    rcases h.attended before with woken | waits
    · exact .inl (heeds.roused woken)
    rw [fiber]
    cases hf : task.fiber with
    | none =>
      rw [hf] at waits
      rcases waits with buried | joins
      · exact .inr (.inl (heeds.buried buried))
      · exact (heeds.joins joins).symm.imp id .inr
    | some f =>
      rw [hf] at waits
      obtain ⟨w, hw, armed⟩ := waits
      have own : w.wait.OnOwn task.resources := by
        rw [Task.resources_of_fiber hf]
        exact h.own f w hf hw
      exact (heeds.armed own armed).symm.imp id fun armed => ⟨w, hw, armed⟩

theorem of_buried (none : task.fiber = none) (buried : .bury t ∈ s.agenda) : Tended s t task where
  own f w hf := by
    rw [none] at hf
    cases hf
  past _ _ _ _ := none
  attended _ := by
    rw [none]
    exact .inr (.inl buried)

theorem newborn {f : Fiber} (fiber : task.fiber = some f) (waiting : f.waiting = none)
    (ready : s.phase t = .ready) (free : ∀ r stage, s.slice r ≠ some (.task t stage)) :
    Tended s t task where
  own f' w hf hw := by
    rw [fiber] at hf
    cases hf
    rw [waiting] at hw
    cases hw
  past r stage during := absurd during (free r stage)
  attended d := absurd d (State.not_dormant_of_phase ready (by simp) (by simp))

end Tended

namespace Wakeful

variable {s s' : State} {c : Context} {hand rest base : List Resource} {a : Action}

theorem init : Wakeful {} := by
  intro t task found
  simp [Store.get?, Store.lookup] at found

theorem effect (formed : Formed s) (own : Own (s.doFirst [a]) hand [])
    (tether : Tether (s.doFirst [a])) (hushed : Hushed (s.doFirst [a])) (e : Effect s a s')
    (h : Wakeful (s.doFirst [a])) : Wakeful s' := by
  intro t task' found'
  obtain ⟨task, found, same | ⟨none, buried⟩⟩ := e.fiber found'
  · refine (h t task found).pass same (fun r stage during => (e.slice r).symm.trans during) ?_
    intro d
    obtain ⟨before, asleep⟩ := e.dormant formed found' d
    exact ⟨before, e.heeds formed own tether hushed found asleep ⟨task', found'⟩⟩
  · exact .of_buried none buried

end Wakeful

/-! ### Lines -/

/-- A task whose body does not run the line has nothing of what the line has in hand. -/
theorem Own.apart {s : State} {c : Context} {hand rest base : List Resource} (formed : Formed s)
    (seat : Seated s c base) (own : Own s (hand ++ rest) base) {t : TaskId} {task : Task}
    (found : s.tasks.get? t = some task) (other : c.task ≠ some t) {r : Resource}
    (mine : r ∈ task.resources) : r ∉ hand := by
  intro theirs
  have once := own.once r
  have one := List.count_pos_iff.2 theirs
  have two := List.count_pos_iff.2 mine
  rw [List.count_append] at once
  have tasks := Store.le_tally (w := fun _ m => m.resources.count r) formed.distinctTasks found
  cases seat with
  | @body home u m f runs =>
    have apart : u ≠ t := by
      rintro rfl
      exact other rfl
    have both := Store.add_le_tally (w := fun _ m => m.resources.count r) formed.distinctTasks apart
      runs.found found
    rw [Task.resources_of_fiber runs.fiber] at both
    simp only [State.owners] at once
    omega
  | handler during =>
    obtain ⟨rt, known, slice⟩ := State.slice_eq during
    have handlers := Store.le_tally (w := fun _ m => m.resources.count r) formed.distinctRuntimes
      known
    simp only [Runtime.resources, slice] at handlers
    simp only [State.owners, Runtime.resources] at once
    omega
  | main =>
    simp only [State.owners, List.count_nil] at once
    omega

namespace Heeds

variable {s s' : State} {t : TaskId} {rs : List Resource}

theorem grow {kind : NodeKind} {priority : Priority} {parent : Option TaskId} {p : Phase}
    {nodes : Store TaskId Node} (numbered : s.nodes.Numbered TaskId.index)
    (grown : Grown s kind priority parent p nodes) (ongoing : p.isTerminal = false)
    (trace : Array Event) : Heeds s { s with nodes := nodes, trace := trace } t rs where
  roused hr := hr
  awaits u _ ha := by
    refine .inl ⟨?_, ha.2⟩
    by_cases new : u = s.nextNode
    · subst new
      rwa [grown.phase_new rfl]
    · rw [grown.phase_old rfl new]
      exact ha.1
  expects k _ he := .inl he
  listens g _ hl := .inl hl
  joins hj := by
    obtain ⟨node, found, some_left, waits⟩ := hj
    exact .inl ⟨_, grown.kept numbered found, List.append_ne_nil_of_left_ne_nil some_left _, waits⟩
  buried hb := hb

theorem setTask {n : TaskId} (fresh : s.tasks.get? n = none) (apart : .handle n ∉ rs) (m : Task) :
    Heeds s { s with tasks := s.tasks.set n m } t rs where
  roused hr := by
    rcases hr with now | ⟨v, task, later, found, waits⟩
    · exact .inl now
    · have old : n ≠ v := by
        rintro rfl
        simp [fresh] at found
      exact .inr ⟨v, task, later, (Store.get?_set_of_ne old).trans found, waits⟩
  awaits u hu ha := by
    have old : n ≠ u := by
      rintro rfl
      exact apart hu
    exact .inl ⟨ha.1, fun task found => ha.2 task ((Store.get?_set_of_ne old).symm.trans found)⟩
  expects k _ he := .inl he
  listens g _ hl := .inl hl
  joins hj := .inl hj
  buried hb := hb

theorem setCall {k : CallId} (apart : .call k ∉ rs) (m : Call) :
    Heeds s { s with calls := s.calls.set k m } t rs where
  roused hr := hr
  awaits u _ ha := .inl ha
  expects j hj he := by
    have old : k ≠ j := by
      rintro rfl
      exact apart hj
    exact .inl fun call found => he call ((Store.get?_set_of_ne old).symm.trans found)
  listens g _ hl := .inl hl
  joins hj := .inl hj
  buried hb := hb

theorem setGroup {n : TaskId} (apart : .group n ∉ rs) (m : Group) (signal : Signal) :
    Heeds s { s with groups := s.groups.set n m, signals := s.signals.set n signal } t rs where
  roused hr := hr
  awaits u _ ha := .inl ha
  expects k _ he := .inl he
  listens g hg hl := by
    have old : n ≠ g := by
      rintro rfl
      exact apart hg
    refine .inl ⟨?_, fun group found => hl.2.1 group ((Store.get?_set_of_ne old).symm.trans found),
      fun signal found => hl.2.2 signal ((Store.get?_set_of_ne old).symm.trans found)⟩
    simp only [State.completed, Store.get?_set_of_ne old]
    exact hl.1
  joins hj := .inl hj
  buried hb := hb

theorem post (a : ActorId) (home : RuntimeId) (message : Message) :
    Heeds s (s.post a home message) t rs := by
  unfold State.post
  split
  · exact refl
  · dsimp only
    split
    · exact records rfl rfl rfl rfl rfl fun _ h => h
    · refine trans ?_ (enqueue _ _ _)
      exact records rfl rfl rfl rfl rfl fun _ h => h

end Heeds

section

variable {s s' : State} {c : Context} {hand hand' rest base : List Resource} {t : TaskId}
  {task : Task}

/-- Whoever waits goes on waiting while a line runs in another place. -/
theorem Change.heeds (formed : Formed s) (seat : Seated s c base) (own : Own s (hand ++ rest) base)
    (found : s.tasks.get? t = some task) (other : c.task ≠ some t)
    (hc : Change c s hand s' hand') : Heeds s s' t task.resources := by
  -- what the task owns is there, and the line has none of it
  have there : ∀ r ∈ task.resources, s.Has r := fun r hr =>
    own.there r (Nat.lt_of_lt_of_le (State.owners_of_task formed found hr) (Nat.le_add_right _ _))
  have apart : ∀ r ∈ hand, r ∉ task.resources :=
    fun r hr mine => Own.apart formed seat own found other mine hr
  have noHandle : .handle s.nextNode ∉ task.resources := by
    intro mine
    obtain ⟨m, known, -⟩ := there _ mine
    simp [formed.fresh_task] at known
  have noGroup : .group s.nextNode ∉ task.resources := by
    intro mine
    obtain ⟨m, known⟩ := there _ mine
    simp [formed.fresh_group] at known
  have noCall : .call s.nextCall ∉ task.resources := by
    intro mine
    obtain ⟨m, known, -⟩ := there _ mine
    simp [formed.fresh_call] at known
  cases hc with
  | tell | shed | nameTask | adopt | share | actor | state =>
    exact .records rfl rfl rfl rfl rfl fun _ h => h
  | @spawn home parent priority body =>
    obtain ⟨nodes, trace, grown, eq⟩ :=
      State.launch_addNode_eq formed.nodes priority parent home body false
    rw [eq]
    refine ((Heeds.grow formed.nodes grown rfl trace).trans (.setTask ?_ noHandle _)).trans
      (.enqueue _ _ _)
    exact formed.fresh_task
  | group =>
    obtain ⟨nodes, trace, priority, grown, eq⟩ := State.makeGroup_eq formed.nodes c _
    rw [eq]
    exact (Heeds.grow formed.nodes grown rfl trace).trans (.setGroup noGroup _ _)
  | @add g group priority body _ mine =>
    obtain ⟨nodes, trace, p, grown, eq⟩ :=
      State.addChild_eq formed.nodes formed.fresh_task g group priority body
    rw [eq]
    refine (((Heeds.grow formed.nodes grown rfl trace).trans (.setTask ?_ noHandle _)).trans
      (.modifyGroup ?_)).trans (.enqueue _ _ _)
    · exact formed.fresh_task
    · exact fun hg => absurd hg (apart _ mine)
  | call =>
    exact (Heeds.setCall noCall _).trans (.post _ _ _)
  | refuse => exact .setCall noCall _
  | send => exact .post _ _ _
  | register => exact .modifyTask fun m _ waits => List.mem_append_left _ waits
  | take => exact .modifyTask fun m _ waits => waits
  | learn mine => exact .modifyCall fun hk => absurd hk (apart _ mine)
  | expect _ _ mine =>
    exact (Heeds.modifyCall fun hk => absurd hk (apart _ mine)).trans (.doFirst _)
  | draw mine =>
    exact (Heeds.modifySignal fun hg => absurd hg (apart _ mine)).trans
      (.modifyGroup fun hg => absurd hg (apart _ mine))
  | fail mine => exact .modifyGroup fun hg => absurd hg (apart _ mine)
  | listen _ _ mine =>
    exact (Heeds.modifySignal fun hg => absurd hg (apart _ mine)).trans (.doFirst _)
  | park => exact .records rfl rfl rfl rfl rfl fun _ h => List.mem_append_left _ h
  | record | release | cancel | wake => exact .doLast _

/-- A task that a line makes is ready and waits for nothing. -/
theorem Change.newborn (formed : Formed s) (hc : Change c s hand s' hand')
    (found' : s'.tasks.get? t = some task) : (∃ old, s.tasks.get? t = some old) ∨
      s'.phase t = .ready ∧ ∃ f, task.fiber = some f ∧ f.waiting = none := by
  -- where one task is new, with its node
  have launched : ∀ {kind : NodeKind} {priority : Priority} {parent : Option TaskId}
      {nodes : Store TaskId Node} {m : Task}, Grown s kind priority parent .ready nodes →
        s'.nodes = nodes → s'.tasks = s.tasks.set s.nextNode m →
        (∃ f, m.fiber = some f ∧ f.waiting = none) → (∃ old, s.tasks.get? t = some old) ∨
          s'.phase t = .ready ∧ ∃ f, task.fiber = some f ∧ f.waiting = none := by
    intro kind priority parent nodes m grown hn ht body
    rw [ht] at found'
    by_cases new : s.nextNode = t
    · subst new
      rw [Store.get?_set_self] at found'
      cases found'
      obtain ⟨b, node⟩ := grown.new
      exact .inr ⟨by simp [State.phase, hn, node], body⟩
    · exact .inl ⟨task, (Store.get?_set_of_ne new).symm.trans found'⟩
  cases hc with
  | @spawn home parent priority body =>
    obtain ⟨nodes, trace, grown, eq⟩ :=
      State.launch_addNode_eq formed.nodes priority parent home body false
    exact launched grown (by rw [eq, State.nodes_enqueue]) (by rw [eq, State.tasks_enqueue])
      ⟨_, rfl, rfl⟩
  | group =>
    obtain ⟨nodes, trace, priority, grown, eq⟩ := State.makeGroup_eq formed.nodes c _
    rw [eq] at found'
    exact .inl ⟨task, found'⟩
  | @add g group priority body =>
    obtain ⟨nodes, trace, p, grown, eq⟩ :=
      State.addChild_eq formed.nodes formed.fresh_task g group priority body
    exact launched grown (by rw [eq, State.nodes_enqueue]) (by rw [eq, State.tasks_enqueue])
      ⟨_, rfl, rfl⟩
  | @call a home handler =>
    obtain ⟨actors, runtimes, agenda, eq⟩ := State.post_eq
      { s with calls := s.calls.set s.nextCall { accepted := true } } a home
      ⟨handler, some s.nextCall⟩
    rw [eq] at found'
    exact .inl ⟨task, found'⟩
  | @send a home handler =>
    obtain ⟨actors, runtimes, agenda, eq⟩ := State.post_eq s a home ⟨handler, none⟩
    rw [eq] at found'
    exact .inl ⟨task, found'⟩
  | register | take =>
    obtain ⟨m, found, -⟩ := Store.get?_modify_eq_some.1 found'
    exact .inl ⟨m, found⟩
  | _ => exact .inl ⟨task, found'⟩

theorem Changes.heeds (formed : Formed s) (seat : Seated s c base)
    (own : Own s (hand ++ rest) base) (found : s.tasks.get? t = some task)
    (other : c.task ≠ some t) (hc : Changes c s hand s' hand') : Heeds s s' t task.resources := by
  have key := hc.invariant (I := fun x hand => (Formed x ∧ Keeps s x) ∧ Own x (hand ++ rest) base ∧
    Heeds s x t task.resources) (fun {x x' hand hand'} hc h => ?_)
    ⟨⟨formed, .refl s⟩, own, .refl⟩
  · exact key.2.2
  · obtain ⟨⟨formed', keeps⟩, own', heeds⟩ := h
    obtain ⟨ws, o, found'⟩ := keeps.tasks t task found
    refine ⟨⟨formed'.change hc, keeps.trans (.change formed' hc)⟩, own'.change formed' hc, ?_⟩
    have next := hc.heeds formed' (seat.keeps keeps) own' found' other
    exact heeds.trans next

theorem Changes.newborn (formed : Formed s) (hc : Changes c s hand s' hand')
    (found' : s'.tasks.get? t = some task) : (∃ old, s.tasks.get? t = some old) ∨
      s'.phase t = .ready ∧ ∃ f, task.fiber = some f ∧ f.waiting = none := by
  have key := hc.invariant (I := fun x _ => Formed x ∧ ∀ task, x.tasks.get? t = some task →
    (∃ old, s.tasks.get? t = some old) ∨
      x.phase t = .ready ∧ ∃ f, task.fiber = some f ∧ f.waiting = none)
    (fun {x x' hand hand'} hc h => ?_) ⟨formed, fun task found => .inl ⟨task, found⟩⟩
  · exact key.2 task found'
  · obtain ⟨formed', old⟩ := h
    refine ⟨formed'.change hc, fun task found => ?_⟩
    rcases hc.newborn formed' found with ⟨m, known⟩ | new
    · refine (old m known).imp id fun ⟨ready, f, fiber, waiting⟩ => ?_
      obtain ⟨node, hn, -⟩ := Option.map_eq_some_iff.1 (formed'.tasks t m known)
      have keeps : Keeps x x' := .change formed' hc
      obtain ⟨ws, o, known'⟩ := keeps.tasks t m known
      cases known'.symm.trans found
      exact ⟨(keeps.phase hn).trans ready, f, fiber, waiting⟩
    · exact .inr new

/-- A task whose body does not run the line stays tended. -/
theorem Wakeful.bystander (formed : Formed s) (dispatch : Dispatch s) (seat : Seated s c base)
    (own : Own s (hand ++ rest) base) (hc : Changes c s hand s' hand') (h : Wakeful s)
    (found' : s'.tasks.get? t = some task) (other : c.task ≠ some t) : Tended s' t task := by
  have keeps : Keeps s s' := hc.keeps formed
  have slice : ∀ r stage, s'.slice r = some (.task t stage) → s.slice r = some (.task t stage) :=
    fun r stage during => (keeps.slice r).symm.trans during
  rcases hc.newborn formed found' with ⟨m, found⟩ | ⟨ready, f, fiber, waiting⟩
  · obtain ⟨ws, o, known⟩ := keeps.tasks t m found
    cases known.symm.trans found'
    obtain ⟨node, hn, -⟩ := Option.map_eq_some_iff.1 (formed.tasks t m found)
    refine (h t m found).pass rfl slice fun d => ⟨?_, hc.heeds formed seat own found other⟩
    refine d.imp ((keeps.phase hn).symm.trans ·) fun ⟨running, r, during⟩ => ?_
    exact ⟨(keeps.phase hn).symm.trans running, r, slice r _ during⟩
  · refine .newborn fiber waiting ready fun r stage => ?_
    exact (dispatch.changes formed hc).not_sliced (.inr ready) r stage

end

namespace Wakeful

variable {s s' s₁ : State} {c : Context} {hand hand' rest base : List Resource} {home : RuntimeId}
  {t : TaskId}

theorem changes (formed : Formed s) (dispatch : Dispatch s) (seat : Seated s c base)
    (own : Own s (hand ++ rest) base) (nobody : c.task = none) (hc : Changes c s hand s' hand')
    (h : Wakeful s) : Wakeful s' :=
  fun _ _ found' => h.bystander formed dispatch seat own hc found' (by simp [nobody])

/-! ### Work -/

theorem alike (h : Wakeful s) (heeds : ∀ u rs, Heeds s s' u rs)
    (phase : ∀ u, s'.phase u = s.phase u) (tasks : s'.tasks = s.tasks)
    (slice : ∀ r u stage, s'.slice r = some (.task u stage) → s.slice r = some (.task u stage)) :
    Wakeful s' := by
  intro u m found
  rw [tasks] at found
  refine (h u m found).pass rfl (fun r stage => slice r u stage) fun d => ⟨?_, heeds u _⟩
  refine d.imp ((phase u).symm.trans ·) fun ⟨running, r, during⟩ => ?_
  exact ⟨(phase u).symm.trans running, r, slice r u _ during⟩

/-- Where all that a task can wait for stays, and every worker is where it was, nothing changes. -/
theorem unseen (h : Wakeful s) (nodes : s'.nodes = s.nodes) (tasks : s'.tasks = s.tasks)
    (calls : s'.calls = s.calls) (groups : s'.groups = s.groups) (signals : s'.signals = s.signals)
    (runtimes : s'.runtimes = s.runtimes) (agenda : s'.agenda = s.agenda) : Wakeful s' := by
  refine h.alike (fun _ _ => .records nodes tasks calls groups signals fun _ item => ?_)
    (fun u => ?_) tasks fun r u stage during => ?_
  · rwa [agenda]
  · simp only [State.phase, nodes]
  · rwa [State.slice, runtimes] at during

theorem setSlice (h : Wakeful s) (home : RuntimeId) {new : Option Slice}
    (other : ∀ u stage, new ≠ some (.task u stage)) : Wakeful (s.setSlice home new) := by
  refine h.alike (fun u rs => .records rfl rfl rfl rfl rfl fun _ h => h) (fun u => rfl) rfl ?_
  exact fun r u stage during => State.slice_setSlice_old during (other u stage)

theorem modifyRuntime (h : Wakeful s) (home : RuntimeId) {f : Runtime → Runtime}
    (same : ∀ rt, (f rt).slice = rt.slice) : Wakeful (s.modifyRuntime home f) := by
  refine h.alike (fun u rs => .records rfl rfl rfl rfl rfl fun _ h => h) (fun u => rfl) rfl ?_
  exact fun r u stage during => (State.slice_modifyRuntime_same home same).symm.trans during

theorem doFirst (h : Wakeful s) (as : List Action) : Wakeful (s.doFirst as) :=
  h.alike (fun _ _ => .doFirst as) (fun _ => rfl) rfl fun _ _ _ => id

theorem doLast (h : Wakeful s) (as : List Action) : Wakeful (s.doLast as) :=
  h.alike (fun _ _ => .doLast as) (fun _ => rfl) rfl fun _ _ _ => id

theorem enqueue (h : Wakeful s) (home : RuntimeId) (p : Priority) (e : Entry) :
    Wakeful (s.enqueue home p e) := by
  unfold State.enqueue
  split
  · exact h.doFirst _
  · exact h.modifyRuntime home fun _ => rfl

theorem settle (h : Wakeful s) (t : TaskId) (heeds : ∀ u rs, u ≠ t → Heeds s s' u rs)
    (phase : ∀ u, u ≠ t → s'.phase u = s.phase u)
    (tasks : ∀ u, u ≠ t → s'.tasks.get? u = s.tasks.get? u)
    (slice : ∀ r u stage, u ≠ t → s'.slice r = some (.task u stage) →
      s.slice r = some (.task u stage))
    (mine : ∀ m, s'.tasks.get? t = some m → Tended s' t m) : Wakeful s' := by
  intro u m found
  by_cases hu : u = t
  · subst hu
    exact mine m found
  rw [tasks u hu] at found
  refine (h u m found).pass rfl (fun r stage => slice r u stage hu) fun d => ⟨?_, heeds u _ hu⟩
  refine d.imp ((phase u hu).symm.trans ·) fun ⟨running, r, during⟩ => ?_
  exact ⟨(phase u hu).symm.trans running, r, slice r u _ hu during⟩

/-- A worker goes on with one task, or is done with it, and the node of the task changes with
that: all others go on as before. -/
theorem settleSlice (h : Wakeful s) (t : TaskId) {new : Option Slice} {f : Node → Node}
    (as : List Action) (ongoing : ∀ m, (f m).phase.isTerminal = false)
    (other : ∀ u stage, u ≠ t → new ≠ some (.task u stage))
    (mine : ∀ m, s.tasks.get? t = some m →
      Tended (((s.setSlice home new).modifyNode t f).doFirst as) t m) :
    Wakeful (((s.setSlice home new).modifyNode t f).doFirst as) := by
  refine h.settle t (fun u rs hu => ?_) (fun u hu => ?_) (fun u _ => rfl)
    (fun r u stage hu now => ?_)
    mine
  · refine ((Heeds.setSlice home new).trans (.modifyNode ?_ ?_)).trans (.doFirst as)
    · exact fun _ m _ => ongoing m
    · exact fun same => absurd same.symm hu
  · exact State.phase_modifyNode_of_ne (s := s.setSlice home new) (Ne.symm hu)
  · exact State.slice_setSlice_old (s := s) now (other u stage hu)

theorem turn (formed : Formed s) (dispatch : Dispatch s) (own : Own s rest []) (h : Wakeful s)
    {task : Task} {f : Fiber} (runs : s.Runs home t task f)
    (hc : Changes ⟨.task t, some home⟩ s f.resources s₁ hand) {fiber : Option Fiber} (stage : Stage)
    (heeds : ∀ u rs, Heeds (s₁.modifyTask t fun m => { m with fiber := fiber }) s' u rs)
    (phase : ∀ u, s'.phase u = s₁.phase u)
    (tasks : s'.tasks = (s₁.modifyTask t fun m => { m with fiber := fiber }).tasks)
    (slice : ∀ r slice, s'.slice r = some slice →
      home = r ∧ slice = .task t stage ∨ home ≠ r ∧ s₁.slice r = some slice)
    (mine : ∀ f' w, fiber = some f' → f'.waiting = some w → w.wait.OnOwn f'.resources)
    (past : stage.past = true → fiber = none)
    (armed : stage = .suspending → ∃ f' w, fiber = some f' ∧ f'.waiting = some w ∧
      (w.wait.Armed s₁ t ∨ .wake (.task t) ∈ s₁.agenda)) : Wakeful s' := by
  have keeps : Keeps s s₁ := hc.keeps formed
  obtain ⟨task₁, runs₁⟩ := runs.keeps keeps
  obtain ⟨-, up⟩ := (dispatch.changes formed hc).runs runs₁
  obtain ⟨stage₀, during₀⟩ := runs.during
  -- the task is in no other slice
  have alone : ∀ r stage', s'.slice r = some (.task t stage') → stage' = stage := by
    intro r stage' during
    rcases slice r _ during with ⟨-, same⟩ | ⟨hr, old⟩
    · cases same
      rfl
    · exact absurd (dispatch.one_slice during₀ ((keeps.slice r).symm.trans old)) hr
  have stored : ∀ u rs, Heeds s₁ s' u rs := fun u rs =>
    (Heeds.modifyTask fun m _ waits => by exact waits).trans (heeds u rs)
  intro u m' found'
  rw [tasks] at found'
  by_cases hu : t = u
  · subst hu
    obtain ⟨m, found, rfl⟩ := Store.get?_modify_eq_some.1 found'
    rw [if_pos rfl]
    refine ⟨mine, fun r stage' during => ?_, fun d => ?_⟩
    · rw [alone r stage' during]
      exact past
    · rcases d with suspended | ⟨-, r, during⟩
      · rw [phase] at suspended
        rcases up with up | up <;> simp [up] at suspended
      · obtain ⟨f', w, hf, hw, armed⟩ := armed (alone r _ during).symm
        rcases armed with armed | woken
        · have armed' := (stored t f'.resources).armed (mine f' w hf hw) armed
          refine armed'.symm.imp id fun armed => ?_
          show s'.Attended t fiber
          rw [hf]
          exact ⟨w, hw, armed⟩
        · exact .inl ((stored t []).roused (.inl woken))
  · have found : s₁.tasks.get? u = some m' := (Store.get?_modify_of_ne hu).symm.trans found'
    have other : (⟨.task t, some home⟩ : Context).task ≠ some u := by
      simpa [Context.task] using hu
    have before := h.bystander formed dispatch (.body runs) (own.lift formed (.body runs)) hc found
      other
    have same : ∀ r stage', s'.slice r = some (.task u stage') →
        s₁.slice r = some (.task u stage') := by
      intro r stage' during
      rcases slice r _ during with ⟨-, same⟩ | ⟨-, old⟩
      · cases same
        exact absurd rfl hu
      · exact old
    refine before.pass rfl same fun d => ⟨?_, stored u _⟩
    refine d.imp ((phase u).symm.trans ·) fun ⟨running, r, during⟩ => ?_
    exact ⟨(phase u).symm.trans running, r, same r _ during⟩

theorem rest_tended (dispatch : Dispatch s) (h : Wakeful s) {stage : Stage} {joining : Node → Bool}
    (during : s.slice home = some (.task t stage))
    (why : s.Waits t stage joining) (running : s.phase t = .running) {m : Task}
    (found : s.tasks.get? t = some m) :
    Tended (((s.setSlice home none).modifyNode t fun m =>
      { m with joining := joining m, phase := .suspended }).doFirst [.forget t]) t m := by
  have free : ∀ r stage', ((s.setSlice home none).modifyNode t fun m =>
      { m with joining := joining m, phase := .suspended }).slice r ≠ some (.task t stage') :=
    dispatch.unsliced during
  have before := h t m found
  rcases why with ⟨rfl, rfl⟩ | ⟨past, some_left, rfl⟩
  · -- the body is suspended, and waits as before
    refine before.pass rfl (fun r stage' now => absurd now (free r stage')) fun _ => ?_
    refine ⟨.inr ⟨running, home, during⟩, ?_⟩
    refine ((Heeds.setSlice home none).trans (.modifyNode ?_ ?_)).trans (.doFirst _)
    · exact fun _ m _ => rfl
    · exact fun _ m _ some_left waits => ⟨some_left, waits⟩
  · -- the body is over, and children are left
    have none : m.fiber = none := by
      rcases past with rfl | ⟨-, none⟩
      · exact before.past home _ during rfl
      · simpa [found] using none
    refine ⟨before.own, fun r stage' now => absurd now (free r stage'), fun _ => .inr ?_⟩
    rw [none]
    refine .inr ?_
    cases hn : s.nodes.get? t with
    | none => simp [State.children, hn] at some_left
    | some node =>
      rw [State.children_of_get? hn] at some_left
      exact ⟨_, Store.get?_modify_eq_some.2 ⟨node, hn, rfl⟩, by simpa using some_left, by simp⟩

theorem again_tended (formed : Formed s) (dispatch : Dispatch s) (h : Wakeful s) {stage : Stage}
    {joining : Node → Bool} (during : s.slice home = some (.task t stage)) {m : Task}
    (found : s.tasks.get? t = some m) :
    Tended (((s.setSlice home none).modifyNode t fun m =>
      { m with joining := joining m, phase := .ready }).doFirst [.forget t]) t m := by
  obtain ⟨node, hn, -⟩ := Option.map_eq_some_iff.1 (formed.tasks t m found)
  have ready : ((s.setSlice home none).modifyNode t fun m =>
      { m with joining := joining m, phase := .ready }).phase t = .ready :=
    State.phase_modifyNode_self (s := s.setSlice home none) hn
  exact ⟨(h t m found).own, fun r stage' now => absurd now (dispatch.unsliced during r stage'),
    fun d => absurd d (State.not_dormant_of_phase ready (by simp) (by simp))⟩

theorem endBody_tended (dispatch : Dispatch s) (h : Wakeful s) {ending : Ending} {f : Task → Task}
    (during : s.slice home = some (.task t (.ended ending)))
    (stored : ∀ m, (f m).fiber = m.fiber) (trace : Array Event) (as : List Action) {m : Task}
    (found : s.tasks.get? t = some m) :
    Tended ({ (s.setSlice home (some (.task t .joining))).modifyTask t f with
      unwinding := none, trace := trace }.doFirst as) t (f m) := by
  have none : (f m).fiber = none := (stored m).trans ((h t m found).past home _ during rfl)
  refine ⟨fun f' w hf => ?_, fun _ _ _ _ => none, fun d => absurd d (State.not_dormant ?_ ?_)⟩
  · rw [none] at hf
    cases hf
  · intro suspended
    have suspended : s.phase t = .suspended := suspended
    exact dispatch.not_sliced (.inl suspended) home _ during
  · intro r now
    cases dispatch.only_slice during now

theorem complete_tended (formed : Formed s) (h : Wakeful s) {stage : Stage} {p : Phase}
    (during : s.slice home = some (.task t stage)) (past : s.Over t stage)
    (ended : p.isTerminal = true) (trace : Array Event) (as : List Action) {m : Task}
    (found : s.tasks.get? t = some m) :
    Tended ({ (s.modifyNode t fun m => { m with joining := false, phase := p }).setSlice home
      (some (.task t .leaving)) with trace := trace }.doFirst as) t m := by
  have none : m.fiber = none := by
    rcases past with rfl | ⟨-, none⟩
    · exact (h t m found).past home _ during rfl
    · simpa [found] using none
  obtain ⟨node, hn, -⟩ := Option.map_eq_some_iff.1 (formed.tasks t m found)
  have phase : (s.modifyNode t fun m => { m with joining := false, phase := p }).phase t = p :=
    State.phase_modifyNode_self hn
  refine ⟨(h t m found).own, fun _ _ _ _ => none,
    fun d => absurd d (State.not_dormant_of_phase phase ?_ ?_)⟩
  all_goals rintro rfl; simp [Phase.isTerminal] at ended

theorem begin_tended (formed : Formed s) (dispatch : Dispatch s) (h : Wakeful s)
    {queue : RunQueue Entry} (takes : s.Takes home (.task t) queue) {m : Task}
    (found : s.tasks.get? t = some m) :
    Tended (((s.popped home queue).setPhase t .running).setSlice home
      (some (.task t .polling))) t m := by
  obtain ⟨-, ready, -⟩ := dispatch.taken takes
  have begun : ∀ r stage, (((s.popped home queue).setPhase t .running).setSlice home
      (some (.task t .polling))).slice r = some (.task t stage) → stage = .polling := by
    intro r stage now
    rcases State.slice_setSlice now with ⟨-, same⟩ | ⟨hr, old⟩
    · cases same
      rfl
    · have old : (s.popped home queue).slice r = some (.task t stage) := old
      rw [State.popped, State.slice_modifyRuntime_of_ne hr] at old
      exact absurd old (dispatch.not_sliced (.inr ready) r stage)
  obtain ⟨node, hn, -⟩ := Option.map_eq_some_iff.1 (formed.tasks t m found)
  have running : (s.setPhase t .running).phase t = .running := State.phase_modifyNode_self hn
  refine ⟨(h t m found).own, fun r stage now past => ?_,
    fun d => absurd d (State.not_dormant ?_ fun r now => ?_)⟩
  · rw [begun r stage now] at past
    cases past
  · intro suspended
    have suspended : (s.setPhase t .running).phase t = .suspended := suspended
    cases running.symm.trans suspended
  · cases begun r _ now

theorem complete_heeds {stage : Stage} {p : Phase} (dispatch : Dispatch s) (idle : s.agenda = [])
    (trace : Array Event) (during : s.slice home = some (.task t stage)) {u : TaskId}
    (other : u ≠ t) (rs : List Resource) :
    Heeds s ({ (s.modifyNode t fun m => { m with joining := false, phase := p }).setSlice home
      (some (.task t .leaving)) with trace := trace }.doFirst
        [.finish t, .wakeWaiters t, .reportFailure t]) u rs := by
  obtain ⟨task, known⟩ := dispatch.known home t stage during
  by_cases waits : .task u ∈ task.waiters
  · refine .of_roused (.inr ⟨t, task, ?_, known, waits⟩) fun hb => ?_
    · simp [State.doFirst]
    · rw [idle] at hb
      cases hb
  · refine (((Heeds.modifyNode ?_ ?_).trans (.setSlice _ _)).trans (.traced trace)).trans
      (.doFirst _)
    · exact fun awaits => absurd (awaits.2 task known) waits
    · exact fun same => absurd same.symm other

theorem work (formed : Formed s) (dispatch : Dispatch s) (own : Own s rest [])
    (idle : s.agenda = []) (w : Work s home s') (h : Wakeful s) : Wakeful s' := by
  -- only what is written into a task, its node or its slice can touch who waits
  cases w with
  | stop => exact h.unseen rfl rfl rfl rfl rfl rfl rfl
  | lost => exact h.setSlice home (by simp)
  | @next t task f f' s₁ runs polling changes fits =>
    have at_home := ((changes.keeps formed).slice home).trans polling
    refine h.turn formed dispatch own runs changes .polling (fun _ _ => .refl)
      (fun _ => rfl) rfl (fun r x now => State.slice_or_of_ne at_home now)
      (fun f'' w hf hw => ?_) (by simp [Stage.past]) (by simp)
    cases hf
    exact fits w hw
  | @suspend t task f f' s₁ w runs polling changes waits fits armed =>
    refine h.turn formed dispatch own runs changes .suspending
      (fun _ _ => .records rfl rfl rfl rfl rfl fun _ h => h) (fun _ => rfl) rfl
      (fun r x now => ?_) (fun f'' w' hf hw => ?_) (by simp [Stage.past])
      (fun _ => ⟨f', w, rfl, waits, armed⟩)
    · exact (State.slice_setSlice now).imp (And.imp id fun h => (Option.some.inj h).symm) id
    · cases hf
      cases waits.symm.trans hw
      exact fits
  | @ends t task f s₁ owned ending unwinding told runs changes =>
    refine h.turn formed dispatch own runs changes (.ended ending)
      (fun _ _ => .records rfl rfl rfl rfl rfl fun _ h => List.mem_append_left _ h) (fun _ => rfl)
      rfl (fun r x now => ?_) (fun f'' w' hf hw => ?_) (fun _ => rfl) (by simp)
    · exact (State.slice_setSlice now).imp (And.imp id fun h => (Option.some.inj h).symm) id
    · cases hf
  | @pause t task f f' s₁ later runs polling changes fits =>
    have at_home := ((changes.keeps formed).slice home).trans polling
    refine h.turn formed dispatch own runs changes .polling
      (fun _ _ => .records rfl rfl rfl rfl rfl fun _ h => h) (fun _ => rfl) rfl
      (fun r x now => State.slice_or_of_ne at_home ?_) (fun f'' w hf hw => ?_)
      (by simp [Stage.past]) (by simp)
    · exact (State.slice_modifyRuntime_same home (f := fun rt => { rt with paused := some later })
        fun _ => rfl).symm.trans now
    · cases hf
      exact fits w hw
  | rest during why running =>
    exact h.settleSlice _ _ (fun _ => rfl) (by simp)
      fun m found => h.rest_tended dispatch during why running found
  | again during =>
    exact (h.settleSlice _ _ (fun _ => rfl) (by simp)
      fun m found => h.again_tended formed dispatch during found).enqueue _ _ _
  | forgotten during _ missing =>
    obtain ⟨task, found⟩ := dispatch.known _ _ _ during
    exact absurd (missing.symm.trans found) (by simp)
  | @endBody t ending f trace cancelled during only =>
    have stored : ∀ m, (f m).waiters = m.waiters ∧ (f m).fiber = m.fiber := by
      intro m
      obtain ⟨o, a, eq⟩ := only m
      rw [eq]
      exact ⟨rfl, rfl⟩
    refine h.settle t (fun u rs hu => ?_) (fun u hu => rfl)
      (fun u hu => Store.get?_modify_of_ne (Ne.symm hu))
      (fun r u _ hu now => State.slice_setSlice_old (s := s) now (by simp [Ne.symm hu]))
      (fun m' found' => ?_)
    · refine ((Heeds.setSlice home _).trans (.modifyTask (u := t) (f := f) ?_)).trans
        (.records rfl rfl rfl rfl rfl fun _ h => List.mem_append_right _ h)
      intro m _ waits
      rwa [(stored m).1]
    · obtain ⟨m, found, rfl⟩ := Store.get?_modify_eq_some.1 found'
      rw [if_pos rfl]
      exact h.endBody_tended dispatch during (fun m => (stored m).2) trace _ found
  | @complete t stage p trace during past alone ended =>
    refine h.settle t (fun u rs hu => complete_heeds dispatch idle trace during hu rs)
      (fun u hu => State.phase_modifyNode_of_ne (s := s) (Ne.symm hu)) (fun u hu => rfl)
      (fun r u _ hu now => State.slice_setSlice_old (s := s.modifyNode t _) now
        (by simp [Ne.symm hu]))
      (fun m found => ?_)
    exact h.complete_tended formed during past ended trace _ found
  | leave => exact (h.setSlice home (by simp)).doFirst _
  | receive =>
    refine setSlice ?_ home (by simp)
    exact h.unseen rfl rfl rfl rfl rfl rfl rfl
  | drained =>
    exact (h.setSlice home (by simp)).unseen rfl rfl rfl rfl rfl rfl rfl
  | drainAgain =>
    refine enqueue ?_ _ _ _
    exact (h.setSlice home (by simp)).unseen rfl rfl rfl rfl rfl rfl rfl
  | handle during changes =>
    exact (h.changes formed dispatch (.handler during) (own.lift formed (.handler during)) rfl
      changes).setSlice home (by simp)
  | @hold a handled _ code' _ frame' reply s₁ later during changes =>
    have line := h.changes formed dispatch (.handler during) (own.lift formed (.handler during))
      rfl changes
    have stored : Wakeful (s₁.setSlice home
        (some (.drain a handled (.handling code' frame' reply)))) := line.setSlice home (by simp)
    exact (stored.modifyRuntime home fun _ => by rfl).unseen rfl rfl rfl rfl rfl rfl rfl
  | handled result during changes =>
    have line := h.changes formed dispatch (.handler during) (own.lift formed (.handler during))
      rfl changes
    exact (line.setSlice home (by simp)).doLast _
  | @reply a handled reply result trace =>
    have past : Wakeful (s.setSlice home (some (.drain a (handled + 1) .idle))) :=
      h.setSlice home (by simp)
    have told : Wakeful { s.setSlice home (some (.drain a (handled + 1) .idle)) with
        trace := trace } := past.unseen rfl rfl rfl rfl rfl rfl rfl
    exact told.doFirst _
  | @begin t queue takes =>
    have popped : Wakeful (s.popped home queue) := h.modifyRuntime home fun _ => rfl
    exact popped.settleSlice t [] (fun _ => rfl) (fun u _ hu => by simp [Ne.symm hu])
      fun m found => h.begin_tended formed dispatch takes found
  | refuse takes undue => exact absurd (.inl (dispatch.taken takes).2.1) undue
  | beginDrain =>
    exact (h.modifyRuntime home fun _ => by rfl).setSlice home (by simp)
  | markerStop =>
    exact (h.modifyRuntime home fun _ => by rfl).unseen rfl rfl rfl rfl rfl rfl rfl
  | markerAgain band goal takes =>
    exact ((h.modifyRuntime home fun _ => by rfl).enqueue home band _).unseen rfl rfl rfl rfl rfl
      rfl rfl
  | markerSkip => exact h.modifyRuntime home fun _ => by rfl

/-! ### Moves -/

theorem start (h : Wakeful s) (r : RuntimeId) (goal : Goal) : Wakeful (s.start r goal) := by
  obtain ⟨trace, eq⟩ := s.start_eq r goal
  rw [eq]
  exact (h.modifyRuntime r fun _ => by rfl).unseen rfl rfl rfl rfl rfl rfl rfl

theorem install (h : Wakeful s) (place : Nat) (settings : Settings) :
    Wakeful (s.install place settings) := by
  refine h.alike (fun _ _ => .records rfl rfl rfl rfl rfl fun _ h => h) (fun _ => rfl) rfl ?_
  intro r u stage during
  by_cases new : (⟨s.runtimes.size⟩ : RuntimeId) = r
  · subst new
    simp [State.slice, State.install, Store.get?_set_self] at during
  · rwa [State.slice, State.install, Store.get?_set_of_ne new] at during

theorem launchRoot (formed : Formed s) (dispatch : Dispatch s) (own : Own s rest [])
    (h : Wakeful s) (r : RuntimeId) (body : List Line) : Wakeful (s.launchRoot r body) := by
  obtain ⟨nodes, trace, grown, eq⟩ :=
    State.launch_addNode_eq formed.nodes .normal none r body true
  rw [State.launchRoot, eq]
  refine enqueue ?_ _ _ _
  intro u m' found'
  by_cases new : s.nextNode = u
  · subst new
    rw [Store.get?_set_self] at found'
    cases found'
    refine .newborn rfl rfl (grown.phase_new rfl) fun r' stage => ?_
    refine dispatch.not_sliced (.inl ?_) r' stage
    simp [State.phase, State.fresh_nextNode formed.nodes]
  · have found : s.tasks.get? u = some m' := (Store.get?_set_of_ne new).symm.trans found'
    have phase : ({ s with nodes := nodes } : State).phase u = s.phase u :=
      grown.phase_old rfl (Ne.symm new)
    refine (h u m' found).pass rfl (fun _ _ during => during) fun d => ⟨?_, ?_⟩
    · exact d.imp (phase.symm.trans ·) fun during => ⟨phase.symm.trans during.1, during.2⟩
    · refine (Heeds.grow formed.nodes grown rfl trace).trans (.setTask ?_ ?_ _)
      · exact formed.fresh_task
      · intro mine
        obtain ⟨m, known, -⟩ := own.there _
          (Nat.lt_of_lt_of_le (State.owners_of_task formed found mine) (Nat.le_add_right _ _))
        simp [formed.fresh_task] at known

theorem move (formed : Formed s) (dispatch : Dispatch s) (idle : s.agenda = []) {d d' : Desk}
    (m : Move s d s' d') (own : Own s d.resources []) (h : Wakeful s) : Wakeful s' := by
  cases m with
  | build place batch stem =>
    rcases s.build_cases place batch stem with same | ⟨-, settings, built⟩
    · rwa [same]
    · rw [built]
      exact h.install place settings
  | start | block | join => exact h.start _ _
  | startRounds _ rounds band =>
    have marked : Wakeful { s with markers := s.markers + 1 } :=
      h.unseen rfl rfl rfl rfl rfl rfl rfl
    exact (marked.enqueue _ _ _).start _ _
  | launchRoot => exact h.launchRoot formed dispatch own _ _
  | @leaveRoot _ t =>
    refine doFirst (fun u m' found' => ?_) _
    obtain ⟨m, found, rfl⟩ := Store.get?_modify_eq_some.1 found'
    refine (h u m found).pass (by split <;> rfl) (fun _ _ during => during) fun d => ⟨d, ?_⟩
    exact .modifyTask fun m _ waits => waits
  | @close place r =>
    have removed : Wakeful { s with places := s.places.erase place } :=
      h.unseen rfl rfl rfl rfl rfl rfl rfl
    have shut : Wakeful ({ s with places := s.places.erase place }.modifyRuntime r fun rt =>
        { rt with closed := true, queue := {} }) := removed.modifyRuntime r fun _ => rfl
    refine doFirst ?_ _
    exact shut.unseen rfl rfl rfl rfl rfl rfl rfl
  | line plain =>
    have nothing : Own s ([] ++ []) [] := own
    exact h.changes formed dispatch .main nothing rfl (State.plain?_fits idle plain)
  | @shelve f =>
    have held : Own s ((f.resources ++ []) ++ []) [] := by
      rwa [List.append_nil, List.append_nil]
    exact h.changes formed dispatch .main held rfl (State.shelve_changes f s [])

end Wakeful

end Nursery
