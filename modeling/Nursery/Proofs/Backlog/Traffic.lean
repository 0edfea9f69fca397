import Nursery.Proofs.Backlog.Reference
import Nursery.Proofs.Invariant.Halted
import Nursery.Proofs.Invariant.Ranked
import Nursery.Proofs.Trail

/-!
# What a transition does to a queue

The queue of a runtime is changed in three ways.  Whoever makes, wakes or calls somebody puts
entries at the back of the bands; the worker, when it is in no slice, asks for the next entry; and
whoever drops the runtime shuts the queue down.

* `State.scheduler` : the queue of a runtime.
* `State.asks`, `State.begins` : the worker asks for an entry, and a slice begins.
* `Feeds`, `Changes.feeds` : entries are put behind those that wait, new tasks in order.
* `Traffic` : the three ways; `Transition.traffic` : there is no other.
-/

namespace Nursery

/-- The task of an entry. -/
def Entry.task? : Entry → Option TaskId
  | .task t => some t
  | _ => none

/-- The entry for which a slice begins. -/
def Slice.begun : Option Slice → Option Slice → List Entry
  | none, some (.task t _) => [.task t]
  | none, some (.drain a ..) => [.drain a]
  | _, _ => []

namespace State

/-- The queue of a runtime; that of one that was not built yet is empty. -/
def scheduler (s : State) (r : RuntimeId) : Scheduler Entry :=
  ((s.runtimes.get? r).map fun rt => { queue := rt.queue, closed := rt.closed }).getD {}

/-- The worker of a runtime was let go on, is in no slice, and asks for the next entry. -/
def asks (r : RuntimeId) (s s' : State) : Bool :=
  s.agenda.isEmpty && s'.agenda.isEmpty && decide (s.active.map Prod.fst = some r) &&
    (s.slice r).isNone

/-- The entry for which the worker of a runtime begins a slice. -/
def begins (r : RuntimeId) (s s' : State) : List Entry :=
  Slice.begun (s.slice r) (s'.slice r)

variable {s s' : State} {r home : RuntimeId}

theorem scheduler_of_found {rt : Runtime} (found : s.runtimes.get? r = some rt) :
    s.scheduler r = { queue := rt.queue, closed := rt.closed } := by
  simp [scheduler, found]

theorem scheduler_of_missing (missing : s.runtimes.get? r = none) : s.scheduler r = {} := by
  simp [scheduler, missing]

theorem scheduler_of_runtimes (same : s'.runtimes = s.runtimes) :
    s'.scheduler r = s.scheduler r := by
  simp only [scheduler, same]

theorem scheduler_modifyRuntime {f : Runtime → Runtime} (queue : ∀ rt, (f rt).queue = rt.queue)
    (closed : ∀ rt, (f rt).closed = rt.closed) :
    (s.modifyRuntime home f).scheduler r = s.scheduler r :=
  congrArg (Option.getD · ({} : Scheduler Entry))
    (Store.map_get?_modify_same fun rt => by simp only [queue, closed])

theorem scheduler_modifyRuntime_of_ne {f : Runtime → Runtime} (other : home ≠ r) :
    (s.modifyRuntime home f).scheduler r = s.scheduler r := by
  simp only [scheduler, modifyRuntime, Store.get?_modify_of_ne other]

@[simp]
theorem scheduler_setSlice (slice : Option Slice) :
    (s.setSlice home slice).scheduler r = s.scheduler r :=
  scheduler_modifyRuntime (fun _ => rfl) fun _ => rfl

theorem scheduler_enqueue (p : Priority) (e : Entry) :
    (s.enqueue home p e).scheduler r = s.scheduler r ∨
      (s.scheduler r).closed = false ∧ (s.enqueue home p e).scheduler r =
        { s.scheduler r with queue := (s.scheduler r).queue.push p e } := by
  unfold enqueue
  split
  · exact .inl rfl
  · rename_i running
    by_cases same : home = r
    · subst same
      cases found : s.runtimes.get? home with
      | none => simp [closed, found] at running
      | some rt =>
        have shut : rt.closed = false := by simpa [closed, found] using running
        refine .inr ?_
        simp [scheduler, modifyRuntime, Store.get?_modify_self, found, shut]
    · exact .inl (scheduler_modifyRuntime_of_ne same)

theorem begins_of_same (same : s'.slice r = s.slice r) : begins r s s' = [] := by
  rw [begins, same]
  cases s.slice r with
  | none => rfl
  | some slice => cases slice <;> rfl

theorem begins_of_during {slice : Slice} (during : s.slice r = some slice) :
    begins r s s' = [] := by
  rw [begins, during]
  cases slice <;> rfl

theorem not_asks {slice : Slice} (during : s.slice r = some slice) : asks r s s' = false := by
  simp [asks, during]

end State

theorem RunQueue.band_push {α : Type} (q : RunQueue α) (p r : Priority) (a : α) :
    (q.push p a).band r = q.band r ++ if p = r then [a] else [] := by
  cases p <;> cases r <;> simp [push, band]

theorem RunQueue.eq_empty {α : Type} {q : RunQueue α} (empty : q.toList = []) : q = {} := by
  obtain ⟨high, normal, low⟩ := q
  simp only [toList, List.append_eq_nil_iff] at empty
  simp only [empty]

/-! ### More entries at the back -/

/-- Entries are put behind those that wait. -/
structure Feeds (r : RuntimeId) (s s' : State) (new : Priority → List Entry) : Prop where
  /-- The queue stays open or closed. -/
  closed : (s'.scheduler r).closed = (s.scheduler r).closed
  /-- A closed queue takes nothing. -/
  shut : (s.scheduler r).closed = true → ∀ p, new p = []
  /-- They are at the back of the bands. -/
  band : ∀ p, (s'.scheduler r).queue.band p = (s.scheduler r).queue.band p ++ new p

/-- The tasks among some entries are in the order in which they were made. -/
def Rising (entries : List Entry) : Prop :=
  (entries.filterMap Entry.task?).Pairwise fun t u => t.index < u.index

/-- The tasks among some entries were made between two points of time. -/
def Between (low high : Nat) (entries : List Entry) : Prop :=
  ∀ t, .task t ∈ entries → low ≤ t.index ∧ t.index < high

variable {s s' s'' : State} {d d' : Desk} {r home : RuntimeId} {goal : Goal} {a : Action}
  {c : Context} {hand hand' : List Resource} {new new' : Priority → List Entry}

theorem Rising.nil : Rising [] :=
  List.Pairwise.nil

theorem Rising.single (e : Entry) : Rising [e] := by
  cases e with
  | task t => exact List.pairwise_singleton _ t
  | drain | marker => exact .nil

theorem Between.nil (low high : Nat) : Between low high [] := by
  intro t ht
  cases ht

theorem Rising.append {low mid high : Nat} {as bs : List Entry} (ha : Rising as) (hb : Rising bs)
    (early : Between low mid as) (late : Between mid high bs) : Rising (as ++ bs) := by
  rw [Rising, List.filterMap_append, List.pairwise_append]
  refine ⟨ha, hb, fun t ht u hu => ?_⟩
  obtain ⟨x, hx, tx⟩ := List.mem_filterMap.1 ht
  obtain ⟨y, hy, uy⟩ := List.mem_filterMap.1 hu
  cases x <;> cases tx
  cases y <;> cases uy
  exact Nat.lt_of_lt_of_le (early t hx).2 (late u hy).1

namespace Feeds

theorem of_same (same : s'.scheduler r = s.scheduler r) : Feeds r s s' fun _ => [] where
  closed := by rw [same]
  shut _ _ := rfl
  band p := by rw [same, List.append_nil]

theorem trans (h : Feeds r s s' new) (h' : Feeds r s' s'' new') :
    Feeds r s s'' fun p => new p ++ new' p where
  closed := h'.closed.trans h.closed
  shut shut p := by rw [h.shut shut, h'.shut (h.closed.trans shut), List.append_nil]
  band p := by rw [h'.band, h.band, List.append_assoc]

theorem trans_same (h : Feeds r s s' new) (same : s''.scheduler r = s'.scheduler r) :
    Feeds r s s'' new where
  closed := by rw [same, h.closed]
  shut := h.shut
  band p := by rw [same, h.band]

theorem of_push {p : Priority} {e : Entry} (closed : (s.scheduler r).closed = false)
    (pushed : s'.scheduler r = { s.scheduler r with queue := (s.scheduler r).queue.push p e }) :
    Feeds r s s' fun q => if p = q then [e] else [] where
  closed := by rw [pushed]
  shut shut := by rw [closed] at shut; cases shut
  band q := by rw [pushed, RunQueue.band_push]

end Feeds

theorem State.enqueue_feeds (s : State) (r home : RuntimeId) (p : Priority) (e : Entry) :
    ∃ new, Feeds r s (s.enqueue home p e) new ∧ ∀ q, new q = [] ∨ new q = [e] := by
  have cases : (s.enqueue home p e).scheduler r = s.scheduler r ∨
      (s.scheduler r).closed = false ∧ (s.enqueue home p e).scheduler r =
        { s.scheduler r with queue := (s.scheduler r).queue.push p e } :=
      State.scheduler_enqueue p e
  rcases cases with same | ⟨running, pushed⟩
  · exact ⟨_, .of_same same, fun _ => .inl rfl⟩
  · refine ⟨_, .of_push running pushed, fun q => ?_⟩
    split
    · exact .inr rfl
    · exact .inl rfl

/-- A single entry is in order. -/
theorem Rising.of_one {entries : List Entry} {e : Entry} (one : entries = [] ∨ entries = [e]) :
    Rising entries := by
  rcases one with none | one
  · exact none ▸ .nil
  · exact one ▸ .single e

/-! ### What a line puts into a queue -/

/-- What lines have put into a queue: the tasks among it are new, and in order. -/
structure Supplies (r : RuntimeId) (s s' : State) : Prop where
  /-- No node goes. -/
  grows : s.nodes.size ≤ s'.nodes.size
  /-- The entries are put behind those that wait. -/
  feeds : ∃ new, Feeds r s s' new ∧
    ∀ p, Between s.nodes.size s'.nodes.size (new p) ∧ Rising (new p)

namespace Supplies

theorem of_same (nodes : s'.nodes.size = s.nodes.size) (same : s'.scheduler r = s.scheduler r) :
    Supplies r s s' where
  grows := nodes.ge
  feeds := ⟨_, .of_same same, fun _ => ⟨.nil _ _, .nil⟩⟩

theorem trans (h : Supplies r s s') (h' : Supplies r s' s'') : Supplies r s s'' := by
  obtain ⟨grows, new, feeds, ordered⟩ := h
  obtain ⟨grows', new', feeds', ordered'⟩ := h'
  refine ⟨grows.trans grows', _, feeds.trans feeds', fun p => ⟨fun t ht => ?_, ?_⟩⟩
  · rcases List.mem_append.1 ht with early | late
    · exact ⟨((ordered p).1 t early).1, ((ordered p).1 t early).2.trans_le grows'⟩
    · exact ⟨grows.trans ((ordered' p).1 t late).1, ((ordered' p).1 t late).2⟩
  · exact (ordered p).2.append (ordered' p).2 (ordered p).1 (ordered' p).1

theorem fed (h : Supplies r s s') : ∃ new, Feeds r s s' new ∧ ∀ p, Rising (new p) := by
  obtain ⟨-, new, feeds, ordered⟩ := h
  exact ⟨new, feeds, fun p => (ordered p).2⟩

theorem launch {kind : NodeKind} {q : Priority} {parent : Option TaskId} {phase : Phase}
    {nodes : Store TaskId Node} {x : State} (grown : Grown s kind q parent phase nodes)
    (same : x.nodes = nodes) (runtimes : x.runtimes = s.runtimes) (p : Priority) :
    Supplies r s (x.enqueue home p (.task s.nextNode)) := by
  obtain ⟨b, made⟩ := grown.new
  have later : s.nodes.size < nodes.size := grown.numbered s.nextNode _ made
  have here : (x.enqueue home p (.task s.nextNode)).nodes.size = nodes.size := by
    rw [State.nodes_enqueue, same]
  obtain ⟨new, feeds, one⟩ := x.enqueue_feeds r home p (.task s.nextNode)
  have from_start : Feeds r s x fun _ => [] := .of_same (State.scheduler_of_runtimes runtimes)
  refine ⟨by omega, _, from_start.trans feeds, fun q => ⟨fun t ht => ?_, ?_⟩⟩
  · rw [List.nil_append] at ht
    rcases one q with none | one
    · rw [none] at ht
      cases ht
    · rw [one, List.mem_singleton] at ht
      cases ht
      exact ⟨Nat.le_refl _, here ▸ later⟩
  · rw [List.nil_append]
    exact .of_one (one q)

theorem enqueueDrain (p : Priority) (b : ActorId) : Supplies r s (s.enqueue home p (.drain b)) := by
  obtain ⟨new, feeds, one⟩ := s.enqueue_feeds r home p (.drain b)
  refine ⟨by rw [State.nodes_enqueue], new, feeds, fun q => ⟨fun t ht => ?_, .of_one (one q)⟩⟩
  rcases one q with none | one
  · rw [none] at ht
    cases ht
  · rw [one, List.mem_singleton] at ht
    cases ht

theorem post (b : ActorId) (message : Message) : Supplies r s (s.post b home message) := by
  unfold State.post
  split
  · exact .of_same rfl rfl
  · rename_i actor _
    have changed : Supplies r s (s.modifyActor b fun m =>
        { m with mailbox := m.mailbox ++ [message], scheduled := true }) := .of_same rfl rfl
    dsimp only
    split
    · exact changed
    · exact changed.trans (enqueueDrain _ _)

theorem change (formed : Formed s) (hc : Change c s hand s' hand') : Supplies r s s' := by
  cases hc with
  | spawn priority body =>
    obtain ⟨nodes, trace, grown, eq⟩ := State.launch_addNode_eq formed.nodes priority _ _ body false
    rw [eq]
    exact launch grown (by rfl) (by rfl) _
  | group =>
    obtain ⟨nodes, trace, priority, grown, eq⟩ := State.makeGroup_eq formed.nodes c _
    obtain ⟨b, made⟩ := grown.new
    have later : s.nodes.size < nodes.size := grown.numbered s.nextNode _ made
    rw [eq]
    exact ⟨later.le, _, .of_same rfl, fun _ => ⟨.nil _ _, .nil⟩⟩
  | @add g group priority body =>
    obtain ⟨nodes, trace, p, grown, eq⟩ :=
      State.addChild_eq formed.nodes formed.fresh_task g group priority body
    rw [eq]
    exact launch grown (by rfl) (by rfl) _
  | call handler =>
    have called : Supplies r s { s with calls := s.calls.set s.nextCall { accepted := true } } :=
      .of_same rfl rfl
    exact called.trans (post _ _)
  | send => exact post _ _
  | _ => exact .of_same rfl rfl

end Supplies

theorem Changes.supplies (formed : Formed s) (hc : Changes c s hand s' hand') (r : RuntimeId) :
    Supplies r s s' :=
  (hc.invariant (I := fun x _ => Formed x ∧ Supplies r s x)
    (fun hc h => ⟨h.1.change hc, h.2.trans (.change h.1 hc)⟩) ⟨formed, .of_same rfl rfl⟩).2

/-- Lines put tasks into a queue in the order in which they make them. -/
theorem Changes.feeds (formed : Formed s) (hc : Changes c s hand s' hand') (r : RuntimeId) :
    ∃ new, Feeds r s s' new ∧ ∀ p, Rising (new p) :=
  (hc.supplies formed r).fed

/-! ### The three ways -/

/-- What a transition does to the queue of a runtime. -/
inductive Traffic (r : RuntimeId) (s s' : State) : Prop where
  /-- Entries are put behind those that wait; a worker that asks finds nothing. -/
  | feeds {new : Priority → List Entry} (feeds : Feeds r s s' new) (rising : ∀ p, Rising (new p))
      (nothing : State.asks r s s' = true → (∀ p, new p = []) ∧
        ((s.scheduler r).closed = true ∨ (s.scheduler r).queue.pop? = none))
      (none : State.begins r s s' = [])
  /-- The worker asks and gets an entry; the marker that it counts goes back into the queue. -/
  | takes {e : Entry} {rest : RunQueue Entry} {new : Priority → List Entry}
      (asks : State.asks r s s' = true)
      (running : (s.scheduler r).closed = false) (running' : (s'.scheduler r).closed = false)
      (pop : (s.scheduler r).queue.pop? = some (e, rest))
      (band : ∀ p, (s'.scheduler r).queue.band p = rest.band p ++ new p)
      (markers : ∀ p x, x ∈ new p → x.isWork = false)
      (begun : State.begins r s s' = [e].filter Entry.isWork)
  /-- The queue is shut down, and what it held is to be dropped. -/
  | closes (quiet : State.asks r s s' = false) (running : (s.scheduler r).closed = false)
      (empty : s'.scheduler r = { queue := {}, closed := true })
      (dropped : s'.agenda =
        ((s.scheduler r).queue.toList.filter Entry.isWork).map Action.discard)
      (none : State.begins r s s' = [])

/-- Where nothing is asked, entries may be put into the queue. -/
theorem Feeds.traffic (h : Feeds r s s' new) (rising : ∀ p, Rising (new p))
    (quiet : State.asks r s s' = false) (none : State.begins r s s' = []) : Traffic r s s' :=
  .feeds h rising (fun asks => by rw [quiet] at asks; cases asks) none

theorem Traffic.of_same (same : s'.scheduler r = s.scheduler r)
    (quiet : State.asks r s s' = false) (none : State.begins r s s' = []) : Traffic r s s' :=
  (Feeds.of_same same).traffic (fun _ => .nil) quiet none

theorem Effect.traffic (e : Effect s a s') (r : RuntimeId) :
    ∃ new, Feeds r s s' new ∧ ∀ p, Rising (new p) := by
  cases e with
  | @resume t task =>
    obtain ⟨new, feeds, one⟩ :=
      (s.setPhase t .ready).enqueue_feeds r task.home (s.priority t) (.task t)
    have ready : Feeds r s (s.setPhase t .ready) fun _ => [] := .of_same rfl
    exact ⟨_, ready.trans feeds, fun p => .of_one (one p)⟩
  | _ => exact ⟨_, .of_same rfl, fun _ => .nil⟩

/-- A worker in the middle of a slice, or that of another runtime, only puts entries into a
queue. -/
theorem Work.feeds (formed : Formed s) (w : Work s home s')
    (busy : home ≠ r ∨ s.slice home ≠ none) : ∃ new, Feeds r s s' new ∧ ∀ p, Rising (new p) := by
  have same : ∀ {x : State}, x.scheduler r = s.scheduler r →
      ∃ new, Feeds r s x new ∧ ∀ p, Rising (new p) :=
    fun same => ⟨_, .of_same same, fun _ => .nil⟩
  have line : ∀ {c : Context} {hand hand' : List Resource} {x y : State},
      Changes c s hand x hand' → y.scheduler r = x.scheduler r →
        ∃ new, Feeds r s y new ∧ ∀ p, Rising (new p) := by
    intro c hand hand' x y changes same
    obtain ⟨new, feeds, rising⟩ := changes.feeds formed r
    exact ⟨new, feeds.trans_same same, rising⟩
  have queues : ∀ {x : State} (h : RuntimeId) (p : Priority) (e : Entry),
      x.scheduler r = s.scheduler r → ∃ new, Feeds r s (x.enqueue h p e) new ∧
        ∀ p, Rising (new p) := by
    intro x h p e same
    obtain ⟨new, feeds, one⟩ := x.enqueue_feeds r h p e
    exact ⟨_, (Feeds.of_same same).trans feeds, fun p => .of_one (one p)⟩
  -- in the middle of a slice no entry is taken
  have popped : ∀ {e : Entry} {queue : RunQueue Entry}, s.Takes home e queue →
      (s.popped home queue).scheduler r = s.scheduler r := by
    intro e queue takes
    rcases busy with other | during
    · exact State.scheduler_modifyRuntime_of_ne other
    · exact absurd takes.free during
  have paused : ∀ {x : State} {later : Option (List Event)},
      (x.modifyRuntime home fun rt => { rt with paused := later }).scheduler r = x.scheduler r :=
    State.scheduler_modifyRuntime (fun _ => rfl) fun _ => rfl
  have turned : ∀ {x : State} {slice : Option Slice},
      (x.setSlice home slice).scheduler r = x.scheduler r := State.scheduler_setSlice _
  cases w with
  | stop => exact same rfl
  | lost => exact same turned
  | next _ _ changes => exact line changes rfl
  | suspend _ _ changes => exact line changes turned
  | ends _ _ changes => exact line changes turned
  | pause _ _ _ changes => exact line changes paused
  | rest | forgotten | endBody | complete | leave | receive | drained | reply => exact same turned
  | again => exact queues _ _ _ turned
  | drainAgain => exact queues _ _ _ turned
  | handle _ changes => exact line changes turned
  | hold _ _ changes => exact line changes (paused.trans turned)
  | handled _ _ changes => exact line changes turned
  | begin takes | beginDrain takes => exact same (turned.trans (popped takes))
  | refuse takes | markerStop takes | markerSkip takes => exact same (popped takes)
  | @markerAgain serial _ band _ takes =>
    obtain ⟨new, feeds, rising⟩ := queues home band (.marker serial) (popped takes)
    exact ⟨new, feeds.trans_same rfl, rising⟩

/-- A worker that asks and finds nothing stops. -/
theorem State.traffic_stop (none : (s.scheduler home).closed = true ∨
    (s.scheduler home).queue.pop? = none) : Traffic home s (s.stop .quiet) :=
  .feeds (.of_same rfl) (fun _ => .nil) (fun _ => ⟨fun _ => rfl, none⟩) (State.begins_of_same rfl)

namespace State.Takes

variable {e : Entry} {queue : RunQueue Entry}

theorem scheduler_popped (takes : s.Takes home e queue) :
    (s.popped home queue).scheduler home = { queue := queue, closed := false } := by
  obtain ⟨rt, found, -, running, -⟩ := takes.found
  simp [State.scheduler, State.popped, State.modifyRuntime, Store.get?_modify_self, found, running]

theorem slice_popped (takes : s.Takes home e queue) : (s.popped home queue).slice home = none :=
  (State.slice_modifyRuntime_same home fun _ => by rfl).trans takes.free

/-- A worker that takes an entry begins a slice for it, unless it is a marker, which may go back
into the queue. -/
theorem traffic (takes : s.Takes home e queue) (idle : s.agenda = [])
    (active : s.active = some (home, goal)) (still : s'.agenda = [])
    (feeds : Feeds home (s.popped home queue) s' new)
    (markers : ∀ p x, x ∈ new p → x.isWork = false)
    (begun : Slice.begun none (s'.slice home) = [e].filter Entry.isWork) : Traffic home s s' := by
  have popped := takes.scheduler_popped
  obtain ⟨rt, found, free, running, pop⟩ := takes.found
  have here := State.scheduler_of_found found
  refine @Traffic.takes home s s' e queue new ?_ ?_ ?_ ?_ (fun p => ?_) markers ?_
  · simp [State.asks, idle, still, active, takes.free]
  · rw [here, running]
  · rw [feeds.closed, popped]
  · rw [here, pop]
  · rw [feeds.band, popped]
  · rw [State.begins, takes.free, begun]

theorem traffic_task {t : TaskId} (takes : s.Takes home (.task t) queue) (dispatch : Dispatch s)
    (idle : s.agenda = []) (active : s.active = some (home, goal)) :
    Traffic home s ((s.popped home queue).beginTask home t) := by
  have ready : (s.popped home queue).phase t = .ready := (dispatch.taken takes).2.1
  have begun : (((s.popped home queue).setPhase t .running).setSlice home
      (some (.task t .polling))).slice home = some (.task t .polling) :=
    State.slice_setSlice_popped takes
  rw [State.beginTask, if_pos (.inl ready)]
  refine takes.traffic idle active idle (.of_same (State.scheduler_setSlice _)) (by simp) ?_
  rw [begun]
  rfl

theorem traffic_drain {b : ActorId} (takes : s.Takes home (.drain b) queue) (idle : s.agenda = [])
    (active : s.active = some (home, goal)) :
    Traffic home s ((s.popped home queue).setSlice home (some (.drain b 0 .idle))) := by
  refine takes.traffic idle active idle (.of_same (State.scheduler_setSlice _)) (by simp) ?_
  rw [State.slice_setSlice_popped takes]
  rfl

theorem traffic_marker {serial : Nat} (takes : s.Takes home (.marker serial) queue)
    (idle : s.agenda = []) (active : s.active = some (home, goal)) :
    Traffic home s ((s.popped home queue).meetMarker home goal serial) := by
  have free := takes.slice_popped
  have plain : ∀ {x : State}, x.agenda = [] → x.runtimes = (s.popped home queue).runtimes →
      Traffic home s x := by
    intro x still same
    refine takes.traffic idle active still (.of_same (State.scheduler_of_runtimes same))
      (by simp) ?_
    rw [show x.slice home = (s.popped home queue).slice home by simp only [State.slice, same], free]
    rfl
  unfold State.meetMarker
  split
  · rename_i counted left band
    split
    · split
      · exact plain idle rfl
      · obtain ⟨new, feeds, one⟩ :=
          (s.popped home queue).enqueue_feeds home home band (.marker serial)
        have again : ((s.popped home queue).enqueue home band (.marker serial)).agenda = [] := by
          obtain ⟨rt, found, -, running, -⟩ := takes.found
          rw [State.enqueue, if_neg]
          · exact idle
          · simp [State.closed, State.popped, State.modifyRuntime, Store.get?_modify_self, found,
              running]
        have slice : ((s.popped home queue).enqueue home band (.marker serial)).slice home = none :=
          (Effect.slice_enqueue _ _ _ _).trans free
        refine takes.traffic idle active again (feeds.trans_same rfl) (fun p x mem => ?_)
          (congrArg (Slice.begun none) slice)
        rcases one p with none | one
        · rw [none] at mem
          cases mem
        · rw [one, List.mem_singleton] at mem
          rw [mem]
          rfl
    · exact plain idle rfl
  · exact plain idle rfl

end State.Takes

/-- A worker in no slice takes the next entry, if there is one. -/
theorem State.traffic_free (dispatch : Dispatch s) (idle : s.agenda = [])
    (active : s.active = some (home, goal)) (free : s.slice home = none) :
    Traffic home s (s.work home goal) := by
  unfold State.work
  split
  · rename_i missing
    exact State.traffic_stop (.inr (by rw [State.scheduler_of_missing missing]; rfl))
  · rename_i rt found
    have here := State.scheduler_of_found found
    have idle_slice : rt.slice = none := by simpa [State.slice, found] using free
    rw [idle_slice]
    dsimp only
    split
    · rename_i shut
      exact State.traffic_stop (.inl (by rw [here, shut]))
    · rename_i running
      split
      · rename_i empty
        exact State.traffic_stop (.inr (by rw [here, empty]))
      · rename_i entry queue pop
        have takes : s.Takes home entry queue :=
          ⟨rt, found, idle_slice, Bool.eq_false_iff.2 running, pop⟩
        cases entry with
        | task t => exact takes.traffic_task dispatch idle active
        | drain b => exact takes.traffic_drain idle active
        | marker serial => exact takes.traffic_marker idle active

/-- A runtime that is dropped shuts its queue down. -/
theorem State.traffic_close (ranked : Ranked s) (idle : s.agenda = []) (still : s.active = none)
    (built : s.Built home) (places : Store Nat RuntimeId) (r : RuntimeId) :
    Traffic r s ({ s with places := places }.close home) := by
  have quiet : State.asks r s ({ s with places := places }.close home) = false := by
    simp [State.asks, still]
  have slice : ({ s with places := places }.close home).slice r = s.slice r :=
    State.slice_modifyRuntime_same home fun _ => by rfl
  by_cases here : home = r
  · subst here
    obtain ⟨rt, found⟩ := built
    have before := State.scheduler_of_found found
    have after : ({ s with places := places }.close home).scheduler home =
        { queue := {}, closed := true } := by
      simp [State.scheduler, State.close, State.doFirst, State.log, State.tell,
        State.modifyRuntime, Store.get?_modify_self, found]
    cases running : rt.closed with
    | false =>
      refine .closes quiet (by rw [before, running]) after ?_ (State.begins_of_same slice)
      simp [State.close, State.doFirst, State.log, State.tell, State.modifyRuntime, found, before,
        idle]
    | true =>
      -- a queue that is closed already holds nothing
      refine .of_same ?_ quiet (State.begins_of_same slice)
      have shut : s.closed home = true := by simp [State.closed, found, running]
      have empty : rt.queue.toList = [] := by
        rw [List.eq_nil_iff_forall_not_mem]
        intro e queued
        refine ranked.closed home e shut ?_
        simpa [State.queue, found] using queued
      rw [after, before, RunQueue.eq_empty empty, running]
  · refine .of_same ?_ quiet (State.begins_of_same slice)
    exact State.scheduler_modifyRuntime_of_ne (s := { s with places := places }) here

/-- A move of the main thread puts entries into a queue or shuts one down. -/
theorem Move.traffic (sound : Sound s d) (ranked : Ranked s) (rests : s.resting = true)
    (m : Move s d s' d') (r : RuntimeId) : Traffic r s s' := by
  have idle := State.idle_of_resting rests
  have still := State.still_of_resting rests
  have quiet : State.asks r s s' = false := by simp [State.asks, still]
  have none := State.begins_of_same (m.slice sound.formed idle r)
  have started : ∀ (x : State) (h : RuntimeId) (g : Goal),
      (x.start h g).scheduler r = x.scheduler r := by
    intro x h g
    obtain ⟨trace, eq⟩ := x.start_eq h g
    rw [eq]
    exact State.scheduler_modifyRuntime (fun _ => by rfl) fun _ => by rfl
  have line : ∀ {hand hand' : List Resource}, Changes { who := .main } s hand s' hand' →
      ∃ new, Feeds r s s' new ∧ ∀ p, Rising (new p) := fun changes => changes.feeds sound.formed r
  have fed : (∃ new, Feeds r s s' new ∧ ∀ p, Rising (new p)) → Traffic r s s' := by
    rintro ⟨new, feeds, rising⟩
    exact feeds.traffic rising quiet none
  cases m with
  | build place batch stem =>
    refine .of_same ?_ quiet none
    rcases s.build_cases place batch stem with same | ⟨-, settings, built⟩
    · rw [same]
    · rw [built]
      have fresh : s.runtimes.get? ⟨s.runtimes.size⟩ = Option.none :=
        sound.formed.runtimes.fresh rfl
      -- a new runtime begins with an empty queue, and the others keep theirs
      by_cases new : (⟨s.runtimes.size⟩ : RuntimeId) = r
      · subst new
        simp [State.scheduler, State.install, Store.get?_set_self, fresh]
      · simp only [State.scheduler, State.install, Store.get?_set_of_ne new]
  | start | block | join => exact .of_same (started _ _ _) quiet none
  | @startRounds _ h _ rounds band =>
    obtain ⟨new, feeds, one⟩ := State.enqueue_feeds { s with markers := s.markers + 1 } r h band
      (.marker (s.markers + 1))
    have marked : Feeds r s { s with markers := s.markers + 1 } fun _ => [] := .of_same rfl
    exact fed ⟨_, marked.trans (feeds.trans_same (started _ _ _)), fun p => .of_one (one p)⟩
  | @launchRoot _ h _ body =>
    obtain ⟨nodes, trace, grown, eq⟩ :=
      State.launch_addNode_eq sound.formed.nodes .normal Option.none h body true
    refine fed (Supplies.fed ?_)
    rw [State.launchRoot, eq]
    exact .launch grown (by rfl) (by rfl) _
  | leaveRoot => exact .of_same rfl quiet none
  | @close place h found =>
    exact State.traffic_close ranked idle still (sound.housed.places place h found) _ r
  | line plain => exact fed (line (State.plain?_fits idle plain))
  | @shelve f => exact fed (line (State.shelve_changes (c := { who := .main }) f s []))

/-- **What a transition does to the queue of a runtime:** it puts entries behind those that wait,
or the worker takes the next entry, or the queue is shut down. -/
theorem Transition.traffic (h : Reachable s d) (t : Transition s d s' d') (r : RuntimeId) :
    Traffic r s s' := by
  have sound := h.sound
  cases t with
  | step =>
    have next := State.step_cases sound.wakeful.waitsOnOwn
    generalize made : s.step = x at next
    cases next with
    | @item a s₀ _ first e =>
      obtain ⟨new, feeds, rising⟩ := e.traffic r
      have quiet : State.asks r s x = false := by
        subst first
        simp [State.asks, State.doFirst]
      have before : s.scheduler r = s₀.scheduler r := by rw [first]; rfl
      have slice : x.slice r = s.slice r := by rw [e.slice, first]; rfl
      exact ((Feeds.of_same before.symm).trans feeds).traffic rising quiet
        (State.begins_of_same slice)
    | @work home goal _ idle active w =>
      -- only the free worker of this runtime takes an entry from its queue
      by_cases busy : home ≠ r ∨ s.slice home ≠ none
      · obtain ⟨new, feeds, rising⟩ := w.feeds sound.formed busy
        have quiet : State.asks r s x = false := by
          rcases busy with other | during
          · simp [State.asks, active, other]
          · by_cases here : home = r
            · subst here
              obtain ⟨slice, during⟩ := Option.ne_none_iff_exists'.1 during
              exact State.not_asks during
            · simp [State.asks, active, here]
        refine feeds.traffic rising quiet ?_
        by_cases here : home = r
        · subst here
          obtain ⟨slice, during⟩ := Option.ne_none_iff_exists'.1 (busy.resolve_left (by simp))
          exact State.begins_of_during during
        · exact State.begins_of_same (w.slice_of_ne sound.formed here)
      · simp only [ne_eq, not_or, not_not] at busy
        obtain ⟨rfl, free⟩ := busy
        have step : s.step = s.work home goal := by simp [State.step, idle, active]
        rw [← made, step]
        exact State.traffic_free sound.dispatch idle active free
    | rest rests =>
      have still := State.still_of_resting rests
      exact .of_same rfl (by simp [State.asks, still]) (State.begins_of_same rfl)
  | stray => exact .of_same rfl (by simp [State.asks, State.doFirst]) (State.begins_of_same rfl)
  | move rests m => exact m.traffic sound h.ranked rests r

end Nursery
