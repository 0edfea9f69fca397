import Nursery.Proofs.Backlog.Newcomers
import Nursery.Proofs.Backlog.Requests
import Nursery.Proofs.Delivery.Testimony

/-!
# In which order new tasks begin

The tasks that are made while a worker is in one slice wait in their bands in the order in which
they were made.  Whatever is put into the queue after that, and whatever the tasks do once they
have begun, they begin in the order of descending priority, and those of one priority in the order
in which they were made.

* `State.made`, `State.firsts` : the tasks that were made, and those that have begun.
* `Path.lined` : at the end of the slice they wait in order.
* `Path.orderly` : they begin in that order.
* `dispatch_refines` : **the queues are stable priority queues.**
-/

namespace Nursery

variable {s s' s'' s₀ s₁ s₂ : State} {d d' d'' d₀ d₁ d₂ : Desk} {r : RuntimeId} {t : TaskId}
  {past more during after : List State} {e : Entry} {low : Nat}

namespace State

/-- The tasks that were made on a runtime between two states, in the order in which they were
made. -/
def made (r : RuntimeId) (s s' : State) : List TaskId :=
  ((List.range' s.nodes.size (s'.nodes.size - s.nodes.size)).map TaskId.mk).filter fun t =>
    s'.home? t = some r

/-- The tasks among some that begin on a runtime, in the order of their first slices. -/
def firsts (r : RuntimeId) (kids : List TaskId) (s : State) (past : List State) : List TaskId :=
  (((gather (begins r) s past).filterMap Entry.task?).filter (· ∈ kids)).eraseDups

/-- The tasks that wait in the queue of a runtime, in the order in which they would be taken. -/
def lineup (r : RuntimeId) (s : State) : List TaskId :=
  (s.scheduler r).queue.toList.filterMap Entry.task?

end State

/-! ### What a queue holds -/

theorem mem_tasks {entries : List Entry} :
    t ∈ entries.filterMap Entry.task? ↔ .task t ∈ entries := by
  rw [List.mem_filterMap]
  constructor
  · rintro ⟨e, mem, same⟩
    cases e <;> cases same
    exact mem
  · exact fun mem => ⟨_, mem, rfl⟩

theorem tasks_of_markers {entries : List Entry} (markers : ∀ e ∈ entries, e.isWork = false) :
    entries.filterMap Entry.task? = [] := by
  rw [List.filterMap_eq_nil_iff]
  intro e mem
  have marker := markers e mem
  cases e with
  | task => cases marker
  | drain | marker => rfl

namespace RunQueue

variable {α : Type} {q q' : RunQueue α} {a : α}

theorem toList_eq_bands : q.toList = q.band .high ++ q.band .normal ++ q.band .low :=
  rfl

theorem band_of_pop? (h : q.pop? = some (a, q')) (p : Priority) :
    q.band p = q'.band p ∨ q.band p = a :: q'.band p := by
  obtain ⟨high, normal, low⟩ := q
  rcases high with _ | ⟨x, high⟩ <;> rcases normal with _ | ⟨y, normal⟩ <;>
    rcases low with _ | ⟨z, low⟩ <;> simp only [pop?, Option.some.injEq, Prod.mk.injEq,
      reduceCtorEq] at h
  all_goals
    obtain ⟨rfl, rfl⟩ := h
    cases p <;> simp [band]

end RunQueue

namespace Dispatch

theorem scheduler_queued (h : Dispatch s) {p : Priority}
    (queued : .task t ∈ (s.scheduler r).queue.band p) :
    s.home? t = some r ∧ s.priority t = p := by
  cases found : s.runtimes.get? r with
  | none =>
    rw [State.scheduler_of_missing found] at queued
    cases p <;> cases queued
  | some rt =>
    rw [State.scheduler_of_found found] at queued
    obtain ⟨home, -, band⟩ := h.queued r rt p t found queued
    exact ⟨home, band⟩

theorem scheduler_once (h : Dispatch s) (r : RuntimeId) (t : TaskId) :
    (s.scheduler r).queue.toList.count (.task t) ≤ 1 := by
  cases found : s.runtimes.get? r with
  | none =>
    rw [State.scheduler_of_missing found]
    exact Nat.zero_le 1
  | some rt =>
    rw [State.scheduler_of_found found]
    exact h.once r rt t found

theorem scheduler_ready (h : Dispatch s) (housed : Housed s)
    (running : (s.scheduler r).closed = false) (home : s.home? t = some r)
    (ready : s.phase t = .ready) : .task t ∈ (s.scheduler r).queue.toList := by
  obtain ⟨rt, found⟩ := housed.tasks t r home
  rw [State.scheduler_of_found found] at running ⊢
  exact h.ready r rt t found running home ready

end Dispatch

/-- What is put behind a task that waits is not that task. -/
theorem Feeds.not_again {new : Priority → List Entry} (feeds : Feeds r s s' new)
    (dispatch : Dispatch s') (queued : .task t ∈ (s.scheduler r).queue.toList) (p : Priority) :
    .task t ∉ new p := by
  intro again
  have once := dispatch.scheduler_once r t
  have before := List.count_pos_iff.2 queued
  have more := List.count_pos_iff.2 again
  rw [RunQueue.toList_eq_bands, List.count_append, List.count_append] at before
  rw [RunQueue.toList_eq_bands, List.count_append, List.count_append, feeds.band, feeds.band,
    feeds.band, List.count_append, List.count_append, List.count_append] at once
  cases p <;> omega

theorem Feeds.mem {new : Priority → List Entry} (feeds : Feeds r s s' new)
    (queued : e ∈ (s.scheduler r).queue.toList) : e ∈ (s'.scheduler r).queue.toList := by
  obtain ⟨p, mem⟩ := RunQueue.mem_toList.1 queued
  refine RunQueue.mem_toList.2 ⟨p, ?_⟩
  rw [feeds.band]
  exact List.mem_append_left _ mem

/-! ### The tasks of one slice line up -/

/-- The tasks among some entries that were made from a point of time on. -/
def recent (low : Nat) (entries : List Entry) : List TaskId :=
  (entries.filterMap Entry.task?).filter fun t => low ≤ t.index

theorem mem_recent {entries : List Entry} :
    t ∈ recent low entries ↔ .task t ∈ entries ∧ low ≤ t.index := by
  rw [recent, List.mem_filter, mem_tasks, decide_eq_true_eq]

theorem recent_append (as bs : List Entry) :
    recent low (as ++ bs) = recent low as ++ recent low bs := by
  simp [recent]

/-- The tasks of a runtime that were made from a point of time on are queued, and in each band in
the order in which they were made. -/
structure Lined (r : RuntimeId) (low : Nat) (s : State) : Prop where
  /-- They are queued. -/
  queued : ∀ t, low ≤ t.index → s.home? t = some r → .task t ∈ (s.scheduler r).queue.toList
  /-- In order. -/
  rising : ∀ p, (recent low ((s.scheduler r).queue.band p)).Pairwise fun t u => t.index < u.index

theorem Lined.init (sound : Sound s d) (r : RuntimeId) : Lined r s.nodes.size s := by
  have early : ∀ t, s.home? t = some r → t.index < s.nodes.size := by
    intro t home
    obtain ⟨m, found, -⟩ := Option.map_eq_some_iff.1 home
    obtain ⟨node, known, -⟩ := Option.map_eq_some_iff.1 (sound.formed.tasks t m found)
    exact sound.formed.nodes t node known
  refine ⟨fun t late home => absurd (early t home) (by omega), fun p => ?_⟩
  have none : recent s.nodes.size ((s.scheduler r).queue.band p) = [] := by
    rw [List.eq_nil_iff_forall_not_mem]
    intro t mem
    obtain ⟨queued, late⟩ := mem_recent.1 mem
    exact absurd (early t (sound.dispatch.scheduler_queued queued).1) (by omega)
  rw [none]
  exact .nil

/-- Where no slice begins, the tasks stay in line, and new ones go behind them. -/
theorem Lined.next (h : Reachable s d) (tr : Transition s d s' d')
    (calm : State.begins r s s' = []) (running' : (s'.scheduler r).closed = false)
    (lined : (s.scheduler r).closed = false → Lined r low s) : Lined r low s' := by
  have sound := h.sound
  have dispatch := (h.next tr).sound.dispatch
  have arrives : (∀ t, .task t ∈ (s.scheduler r).queue.toList →
      .task t ∈ (s'.scheduler r).queue.toList) → Lined r low s →
        ∀ t, low ≤ t.index → s'.home? t = some r → .task t ∈ (s'.scheduler r).queue.toList := by
    intro stays before t late home
    rcases tr.hosts sound t r home with old | ⟨-, ready⟩
    · exact stays t (before.queued t late old)
    · exact dispatch.scheduler_ready (h.next tr).sound.housed running' home ready
  cases tr.traffic h r with
  | @feeds new feeds rising =>
    have before := lined (feeds.closed.symm.trans running')
    refine ⟨arrives (fun t => feeds.mem) before, fun p => ?_⟩
    rw [feeds.band, recent_append, List.pairwise_append]
    refine ⟨before.rising p, (rising p).filter _, fun t mem u mem' => ?_⟩
    obtain ⟨queued, -⟩ := mem_recent.1 mem
    obtain ⟨entered, late⟩ := mem_recent.1 mem'
    obtain ⟨m, found, -⟩ := Option.map_eq_some_iff.1 (sound.dispatch.scheduler_queued queued).1
    obtain ⟨node, known, -⟩ := Option.map_eq_some_iff.1 (sound.formed.tasks t m found)
    have early := sound.formed.nodes t node known
    have here : s'.home? u = some r := by
      refine (dispatch.scheduler_queued (p := p) ?_).1
      rw [feeds.band]
      exact List.mem_append_right _ entered
    -- a task that waits already is not queued again, so this one is new
    rcases tr.hosts sound u r here with old | ⟨new, -⟩
    · exact absurd entered (feeds.not_again dispatch (before.queued u late old) p)
    · omega
  | @takes e rest new asks running _ pop band markers begun =>
    have before := lined running
    have marker : e.isWork = false := by
      rw [calm] at begun
      by_contra work
      rw [Bool.not_eq_false] at work
      simp [work] at begun
    refine ⟨arrives (fun t queued => ?_) before, fun p => ?_⟩
    · rw [RunQueue.toList_pop? pop] at queued
      rcases List.mem_cons.1 queued with same | later
      · rw [← same] at marker
        cases marker
      · obtain ⟨p, mem⟩ := RunQueue.mem_toList.1 later
        refine RunQueue.mem_toList.2 ⟨p, ?_⟩
        rw [band]
        exact List.mem_append_left _ mem
    · have nothing : recent low (new p) = [] := by rw [recent, tasks_of_markers (markers p)]; rfl
      rw [band, recent_append, nothing, List.append_nil]
      have rising := before.rising p
      rcases RunQueue.band_of_pop? pop p with same | first
      · rwa [same] at rising
      · have none : recent low [e] = [] := by
          rw [recent, tasks_of_markers (by simpa using marker)]
          rfl
        rwa [first, ← List.singleton_append, recent_append, none, List.nil_append] at rising
  | closes _ _ empty =>
    rw [empty] at running'
    cases running'

/-- While no slice begins, the new tasks line up. -/
theorem Path.lined (h : Reachable s₀ d₀) (p : Path s₀ d₀ during s d)
    (calm : gather (State.begins r) s during = []) (running : (s.scheduler r).closed = false) :
    Lined r s₀.nodes.size s := by
  induction p with
  | refl => exact .init h.sound r
  | next p t ih =>
    rw [gather_cons, List.append_eq_nil_iff] at calm
    exact .next (h.leads p.leads) t calm.2 running (ih calm.1)

/-- The tasks that were made are queued, in each band in the order in which they were made. -/
theorem Lined.band_eq (sound : Sound s₁ d₁) (lined : Lined r s₀.nodes.size s₁) (p : Priority) :
    recent s₀.nodes.size ((s₁.scheduler r).queue.band p) =
      (State.made r s₀ s₁).filter fun t => s₁.priority t = p := by
  have made_rising : ((State.made r s₀ s₁).filter fun t => s₁.priority t = p).Pairwise
      fun t u => t.index < u.index := by
    refine .filter _ (.filter _ ?_)
    rw [List.pairwise_map]
    exact List.pairwise_lt_range'
  have distinct : ∀ {l : List TaskId}, (l.Pairwise fun t u => t.index < u.index) → l.Nodup :=
    fun rising => rising.imp fun {t u} less same => by subst same; exact Nat.lt_irrefl _ less
  have antisymm : ∀ t u : TaskId, t ∈ recent s₀.nodes.size ((s₁.scheduler r).queue.band p) →
      u ∈ (State.made r s₀ s₁).filter (fun t => s₁.priority t = p) → t.index < u.index →
        u.index < t.index → t = u := fun t u _ _ less more => absurd less (by omega)
  refine List.Perm.eq_of_pairwise antisymm (lined.rising p) made_rising ?_
  rw [List.perm_ext_iff_of_nodup (distinct (lined.rising p)) (distinct made_rising)]
  intro t
  simp only [mem_recent, State.made, List.mem_filter, List.mem_map, List.mem_range'_1,
    decide_eq_true_eq]
  constructor
  · rintro ⟨queued, late⟩
    obtain ⟨home, band⟩ := sound.dispatch.scheduler_queued queued
    obtain ⟨m, found, -⟩ := Option.map_eq_some_iff.1 home
    obtain ⟨node, known, -⟩ := Option.map_eq_some_iff.1 (sound.formed.tasks t m found)
    have early := sound.formed.nodes t node known
    exact ⟨⟨⟨t.index, ⟨late, by omega⟩, rfl⟩, home⟩, band⟩
  · rintro ⟨⟨⟨i, ⟨late, -⟩, rfl⟩, home⟩, band⟩
    obtain ⟨q, mem⟩ := RunQueue.mem_toList.1 (lined.queued _ late home)
    obtain rfl : q = p := (sound.dispatch.scheduler_queued mem).2.symm.trans band
    exact ⟨mem, late⟩

/-- The new tasks wait in the order of descending priority. -/
theorem Lined.lineup_eq (sound : Sound s₁ d₁) (lined : Lined r s₀.nodes.size s₁) :
    (State.lineup r s₁).filter (· ∈ State.made r s₀ s₁) =
      (State.made r s₀ s₁).mergeSort (Priority.descends s₁.priority) := by
  have band : ∀ p, (((s₁.scheduler r).queue.band p).filterMap Entry.task?).filter
      (· ∈ State.made r s₀ s₁) = (State.made r s₀ s₁).filter fun t => s₁.priority t = p := by
    intro p
    rw [← lined.band_eq sound p, recent]
    refine List.filter_congr fun t mem => ?_
    rw [decide_eq_decide]
    have own := lined.band_eq sound p
    constructor
    · intro made
      simp only [State.made, List.mem_filter, List.mem_map, List.mem_range'_1] at made
      obtain ⟨⟨i, ⟨late, -⟩, rfl⟩, -⟩ := made
      exact late
    · intro late
      have here : t ∈ recent s₀.nodes.size ((s₁.scheduler r).queue.band p) :=
        mem_recent.2 ⟨mem_tasks.1 mem, late⟩
      rw [own] at here
      exact (List.mem_filter.1 here).1
  rw [State.lineup, RunQueue.toList_eq_bands, List.filterMap_append, List.filterMap_append,
    List.filter_append, List.filter_append, band, band, band, Priority.mergeSort_eq]

/-! ### They begin in that order -/

theorem RunQueue.tasks_filter {q q' : RunQueue Entry} {new : Priority → List Entry}
    (band : ∀ p, q'.band p = q.band p ++ new p) {P : TaskId → Bool}
    (none : ∀ p, ((new p).filterMap Entry.task?).filter P = []) :
    (q'.toList.filterMap Entry.task?).filter P = (q.toList.filterMap Entry.task?).filter P := by
  simp only [RunQueue.toList_eq_bands, List.filterMap_append, List.filter_append, band, none,
    List.append_nil]

namespace State

variable {order : List TaskId}

theorem firsts_of_calm (calm : (begins r s s').filterMap Entry.task? = []) :
    firsts r order s' (s :: past) = firsts r order s past := by
  rw [firsts, gather_cons, List.filterMap_append, calm, List.append_nil, firsts]

theorem firsts_of_task (begun : begins r s s' = [.task t]) :
    firsts r order s' (s :: past) = firsts r order s past ++
      if t ∈ order ∧ t ∉ firsts r order s past then [t] else [] := by
  have before : ∀ l : List TaskId, l.eraseDups ++ ([t].removeAll l).eraseDups =
      l.eraseDups ++ if t ∉ l.eraseDups then [t] else [] := by
    intro l
    by_cases mem : t ∈ l <;> simp [List.removeAll, mem, List.eraseDups_cons]
  rw [firsts, gather_cons, begun, List.filterMap_append, List.filter_append,
    show [Entry.task t].filterMap Entry.task? = [t] from rfl]
  by_cases mine : t ∈ order
  · rw [List.filter_cons_of_pos (by simpa using mine), List.filter_nil, List.eraseDups_append,
      before]
    simp only [mine, true_and, firsts]
  · rw [List.filter_cons_of_neg (by simpa using mine), List.filter_nil, List.append_nil]
    simp only [mine, false_and, if_false, List.append_nil, firsts]

end State

/-- Some tasks begin in a given order, and those that have not begun wait in that order as long as
the queue is open. -/
structure Orderly (r : RuntimeId) (order : List TaskId) (past : List State) (s : State) :
    Prop where
  /-- Those that have begun are the first of them. -/
  begun : State.firsts r order s past <+: order
  /-- The others wait. -/
  rest : (s.scheduler r).closed = false → order = State.firsts r order s past ++
    (State.lineup r s).filter fun t => t ∈ order ∧ t ∉ State.firsts r order s past

namespace Orderly

variable {order : List TaskId}

/-- Before anything has begun, all wait. -/
theorem init (waits : (s.scheduler r).closed = false →
    (State.lineup r s).filter (· ∈ order) = order) : Orderly r order [] s where
  begun := List.nil_prefix
  rest running := by
    refine (waits running).symm.trans ?_
    simp [State.firsts]

theorem waits (h : Orderly r order past s) (running : (s.scheduler r).closed = false)
    (mine : t ∈ order) (unbegun : t ∉ State.firsts r order s past) :
    .task t ∈ (s.scheduler r).queue.toList := by
  rw [h.rest running] at mine
  rcases List.mem_append.1 mine with begun | waits
  · exact absurd begun unbegun
  · exact mem_tasks.1 (List.mem_filter.1 waits).1

theorem same (h : Orderly r order past s)
    (calm : State.firsts r order s' (s :: past) = State.firsts r order s past)
    (running : (s'.scheduler r).closed = false → (s.scheduler r).closed = false)
    (rest : (s.scheduler r).closed = false → (s'.scheduler r).closed = false →
      ((State.lineup r s').filter fun t => t ∈ order ∧ t ∉ State.firsts r order s past) =
        (State.lineup r s).filter fun t => t ∈ order ∧ t ∉ State.firsts r order s past) :
    Orderly r order (s :: past) s' where
  begun := calm ▸ h.begun
  rest running' := by
    rw [calm, rest (running running') running']
    exact h.rest (running running')

theorem first (h : Orderly r order past s) (dispatch : Dispatch s)
    (running : (s.scheduler r).closed = false) {rest : RunQueue Entry}
    (pop : (s.scheduler r).queue.pop? = some (.task t, rest))
    (unbegun : t ∈ order ∧ t ∉ State.firsts r order s past)
    (starts : State.firsts r order s' (s :: past) = State.firsts r order s past ++ [t])
    (left : ∀ P : TaskId → Bool, (State.lineup r s').filter P =
      (rest.toList.filterMap Entry.task?).filter P) : Orderly r order (s :: past) s' := by
  have queue := RunQueue.toList_pop? pop
  have once : t ∉ rest.toList.filterMap Entry.task? := by
    intro again
    have count := dispatch.scheduler_once r t
    have more := List.count_pos_iff.2 (mem_tasks.1 again)
    rw [queue, List.count_cons_self] at count
    omega
  have others : (rest.toList.filterMap Entry.task?).filter
      (fun u => u ∈ order ∧ u ∉ State.firsts r order s past ++ [t]) =
        (rest.toList.filterMap Entry.task?).filter
          fun u => u ∈ order ∧ u ∉ State.firsts r order s past := by
    refine List.filter_congr fun u mem => ?_
    have apart : u ≠ t := fun same => once (same ▸ mem)
    simp [apart]
  have all := h.rest running
  rw [State.lineup, queue, List.filterMap_cons_some (show Entry.task? (.task t) = some t from rfl),
    List.filter_cons_of_pos (by simpa using unbegun)] at all
  have split : order = State.firsts r order s' (s :: past) ++ (State.lineup r s').filter
      fun u => u ∈ order ∧ u ∉ State.firsts r order s' (s :: past) := by
    rw [starts, left, others, List.append_assoc, List.singleton_append]
    exact all
  exact ⟨⟨_, split.symm⟩, fun _ => split⟩

theorem next (h : Orderly r order past s) (dispatch : Dispatch s) (dispatch' : Dispatch s')
    (traffic : Traffic r s s') : Orderly r order (s :: past) s' := by
  cases traffic with
  | @feeds new feeds rising nothing none =>
    refine h.same (State.firsts_of_calm (by rw [none]; rfl)) (fun running => feeds.closed ▸ running)
      fun running _ => ?_
    refine RunQueue.tasks_filter feeds.band fun p => List.filter_eq_nil_iff.2 fun t mem waits => ?_
    rw [decide_eq_true_eq] at waits
    exact feeds.not_again dispatch' (h.waits running waits.1 waits.2) p (mem_tasks.1 mem)
  | @takes e rest new asks running running' pop band markers begun =>
    have left : ∀ P : TaskId → Bool, (State.lineup r s').filter P =
        (rest.toList.filterMap Entry.task?).filter P := fun P =>
      RunQueue.tasks_filter band fun p => by rw [tasks_of_markers (markers p)]; rfl
    have before : State.lineup r s = (e :: rest.toList).filterMap Entry.task? := by
      rw [State.lineup, RunQueue.toList_pop? pop]
    cases e with
    | drain b =>
      exact h.same (State.firsts_of_calm (by rw [begun]; rfl)) (fun _ => running)
        fun _ _ => by rw [left, before]; rfl
    | marker serial =>
      exact h.same (State.firsts_of_calm (by rw [begun]; rfl)) (fun _ => running)
        fun _ _ => by rw [left, before]; rfl
    | task u =>
      have starts : State.firsts r order s' (s :: past) = State.firsts r order s past ++
          if u ∈ order ∧ u ∉ State.firsts r order s past then [u] else [] :=
        State.firsts_of_task begun
      rw [List.filterMap_cons_some (show Entry.task? (.task u) = some u from rfl)] at before
      by_cases first : u ∈ order ∧ u ∉ State.firsts r order s past
      · exact h.first dispatch running pop first (by rw [starts, if_pos first]) left
      · rw [if_neg first, List.append_nil] at starts
        refine h.same starts (fun _ => running) fun _ _ => ?_
        rw [left, before, List.filter_cons_of_neg (by simpa using first)]
  | closes quiet running empty dropped none =>
    refine h.same (State.firsts_of_calm (by rw [none]; rfl)) (fun running => ?_) fun _ running => ?_
    · rw [empty] at running
      cases running
    · rw [empty] at running
      cases running

end Orderly

/-- Tasks that wait in a given order begin in that order. -/
theorem Path.orderly {order : List TaskId} (h : Reachable s₁ d₁) (p : Path s₁ d₁ after s d)
    (waits : (s₁.scheduler r).closed = false → (State.lineup r s₁).filter (· ∈ order) = order) :
    Orderly r order after s := by
  induction p with
  | refl => exact .init waits
  | next p t ih =>
    have before := h.leads p.leads
    exact ih.next before.sound.dispatch (before.next t).sound.dispatch (t.traffic before r)

/-! ### The theorem -/

/-- Bands serve as a stable priority queue. -/
structure StableQueue (α : Type) : Prop where
  /-- They answer every sequence of requests as one list does that keeps all entries in the order
  in which they were put in. -/
  answers : ∀ qs : List (Request α), (serveAll Scheduler.serve {} qs).1 =
    (serveAll Backlog.serve {} qs).1
  /-- The list gives the first entry of the greatest priority: it exceeds whatever was put in
  before it, and nothing exceeds it. -/
  first : ∀ (l rest : List (Priority × α)) a, Backlog.pop? l = some (a, rest) →
    ∃ before p after, l = before ++ (p, a) :: after ∧ rest = before ++ after ∧
      (∀ x ∈ before, x.1.rank < p.rank) ∧ ∀ x ∈ after, x.1.rank ≤ p.rank
  /-- It gives one as long as it holds any. -/
  gives : ∀ l : List (Priority × α), Backlog.pop? l = none → l = []
  /-- Whatever is put in is given, dropped or kept, and nothing else is. -/
  whole : ∀ qs : List (Request α), ((qs.flatMap Request.pushed).map Prod.snd).Perm
    ((serveAll Backlog.serve {} qs).1.flatMap Response.popped ++
      (serveAll Backlog.serve {} qs).1.flatMap Response.dropped ++
        (serveAll Backlog.serve {} qs).2.entries.map Prod.snd)
  /-- To take everything is to sort it by descending priority, without changing the order of what
  is of one priority. -/
  sorts : ∀ l : List (Priority × α),
    Backlog.drain l = (l.mergeSort (Priority.descends Prod.fst)).map Prod.snd

theorem StableQueue.all (α : Type) : StableQueue α where
  answers := Scheduler.serveAll_eq
  first _ _ _ := Backlog.pop?_eq_some
  gives _ := Backlog.pop?_eq_none.1
  whole qs := by simpa using Backlog.serveAll_perm qs {}
  sorts := Backlog.drain_eq_mergeSort

/-- **The queues are stable priority queues.**  The bands answer every sequence of pushes, pops and
shutdowns as the one list does that always gives the first entry of the greatest priority.  Along a
run the worker of a runtime begins slices for exactly what that list gives, and what the list
discards when the runtime is dropped is dropped in the same order.  So the tasks that are made while
the worker is in one slice begin in the stable order of descending priority, whatever they do once
they have begun and whatever else is queued; as long as the runtime is there, those that have not
begun wait in that order. -/
theorem dispatch_refines (h : Trail past s₀ d₀) (slice : Path s₀ d₀ during s₁ d₁)
    (one : gather (State.begins r) s₁ during = []) (later : Path s₁ d₁ after s₂ d₂) :
    (∀ α, StableQueue α) ∧ Refines r (after ++ (during ++ past)) s₂ ∧
      Orderly r ((State.made r s₀ s₁).mergeSort (Priority.descends s₁.priority)) after s₂ := by
  refine ⟨.all, ((h.path slice).path later).refines r, ?_⟩
  have there := h.reachable.leads slice.leads
  refine later.orderly there fun running => ?_
  have lined := slice.lined h.reachable one running
  refine Eq.trans (List.filter_congr fun t _ => ?_) (lined.lineup_eq there.sound)
  rw [decide_eq_decide, List.mem_mergeSort]

/-- A line that spawns a task of some priority, which ends at once. -/
def spawnLine (name : String) (p : Priority) : Line :=
  .mk ⟨"spawn", none, some name, true⟩ (.spawn (some p) false [])

/-- A body that spawns four tasks. -/
def planned : List Line :=
  [spawnLine "a" .low, spawnLine "b" .high, spawnLine "c" .normal, spawnLine "d" .high]

/-- The first of the two tasks of high priority begins first, and the task of low priority last. -/
theorem dispatch_refines_planned : ∃ past s₀ during s₁ after s₂, Trail past s₀ .clear ∧
    Path s₀ .clear during s₁ .clear ∧ gather (State.begins ⟨0⟩) s₁ during = [] ∧
    Path s₁ .clear after s₂ .clear ∧ State.made ⟨0⟩ s₀ s₁ = [⟨1⟩, ⟨2⟩, ⟨3⟩, ⟨4⟩] ∧
    State.firsts ⟨0⟩ [⟨2⟩, ⟨4⟩, ⟨3⟩, ⟨1⟩] s₂ after = [⟨2⟩, ⟨4⟩, ⟨3⟩, ⟨1⟩] := by
  have start := trail_solo planned 1
  have slice : Path (solo planned 1).2 .clear _ _ .clear := Path.refl.follow 12
  have rest : Path (follow 12 [] (solo planned 1).2).2 .clear _ _ .clear := Path.refl.follow 70
  have one : gather (State.begins ⟨0⟩) (follow 12 [] (solo planned 1).2).2
      (follow 12 [] (solo planned 1).2).1 = [] := by decide +kernel
  have made : State.made ⟨0⟩ (solo planned 1).2 (follow 12 [] (solo planned 1).2).2 =
      [⟨1⟩, ⟨2⟩, ⟨3⟩, ⟨4⟩] := by decide +kernel
  obtain ⟨-, -, orderly⟩ := dispatch_refines start slice one rest
  have running : ((follow 70 [] (follow 12 [] (solo planned 1).2).2).2.scheduler ⟨0⟩).closed =
      false := by decide +kernel
  have none : State.lineup ⟨0⟩ (follow 70 [] (follow 12 [] (solo planned 1).2).2).2 = [] := by
    decide +kernel
  have order : (State.made ⟨0⟩ (solo planned 1).2 (follow 12 [] (solo planned 1).2).2).mergeSort
      (Priority.descends (follow 12 [] (solo planned 1).2).2.priority) =
        [⟨2⟩, ⟨4⟩, ⟨3⟩, ⟨1⟩] := by
    rw [Priority.mergeSort_eq, made]
    decide +kernel
  rw [order] at orderly
  have all := orderly.rest running
  rw [none, List.filter_nil, List.append_nil] at all
  exact ⟨_, _, _, _, _, _, start, slice, one, rest, made, all.symm⟩

end Nursery
