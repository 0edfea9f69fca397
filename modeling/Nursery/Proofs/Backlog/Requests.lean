import Nursery.Proofs.Backlog.Traffic

/-!
# The machine serves as the one list does

What happens to the queue of a runtime along a run is a sequence of requests: the worker asks for
entries, others put entries into it, and the main thread shuts it down.  Where the list that keeps
everything in the order of the requests gives an entry, the worker begins a slice for it, and what
the list discards at the end is dropped by the machine in the same order.

* `State.dealings` : the requests of a transition.
* `State.sheds` : what is to be dropped when a queue is shut down.
* `Traffic.served` : a transition answers its requests.
* `Trail.refines` : **a run answers its requests as the list does.**
-/

namespace Nursery

/-- The entry that is to be dropped. -/
def Action.discarded? : Action → Option Entry
  | .discard e => some e
  | _ => none

/-- The requests that put the further entries of the bands into a queue.  They are listed band by
band: in which order entries of different priorities come in makes no difference to any queue. -/
def RunQueue.additions {α : Type} (q q' : RunQueue α) : List (Request α) :=
  [Priority.high, .normal, .low].flatMap fun p =>
    ((q'.band p).drop (q.band p).length).map (.push p)

namespace State

/-- The queue of a runtime is shut down. -/
def shuts (r : RuntimeId) (s s' : State) : Bool :=
  !(s.scheduler r).closed && (s'.scheduler r).closed

/-- The worker of a runtime asks for an entry, or its queue is shut down. -/
def demands (r : RuntimeId) (s s' : State) : List (Request Entry) :=
  (if asks r s s' then [.pop] else []) ++ if shuts r s s' then [.shutdown] else []

/-- What is asked of the queue of a runtime. -/
def dealings (r : RuntimeId) (s s' : State) : List (Request Entry) :=
  demands r s s' ++ RunQueue.additions
    (serveAll Scheduler.serve (s.scheduler r) (demands r s s')).2.queue (s'.scheduler r).queue

/-- What is to be dropped when the queue of a runtime is shut down. -/
def sheds (r : RuntimeId) (s s' : State) : List Entry :=
  if shuts r s s' then s'.agenda.filterMap Action.discarded? else []

end State

/-! ### Putting entries into a queue -/

section Scheduler

variable {α : Type}

theorem RunQueue.ext_band {q q' : RunQueue α} (same : ∀ p, q.band p = q'.band p) : q = q' := by
  obtain ⟨high, normal, low⟩ := q
  obtain ⟨high', normal', low'⟩ := q'
  obtain rfl : high = high' := same .high
  obtain rfl : normal = normal' := same .normal
  obtain rfl : low = low' := same .low
  rfl

/-- Entries of one priority go to the back of their band. -/
theorem Scheduler.serveAll_push (p : Priority) (as : List α) : ∀ {x : Scheduler α},
    x.closed = false → (∀ a ∈ (serveAll serve x (as.map (.push p))).1, a = .kept) ∧
      (serveAll serve x (as.map (.push p))).2.closed = false ∧
        ∀ q, (serveAll serve x (as.map (.push p))).2.queue.band q =
          x.queue.band q ++ if p = q then as else [] := by
  induction as with
  | nil => exact fun running => ⟨by simp [serveAll], running, by simp [serveAll]⟩
  | cons a as ih =>
    intro x running
    have step : x.serve (.push p a) = (.kept, { x with queue := x.queue.push p a }) := by
      simp [serve, running]
    obtain ⟨kept, open', band⟩ := ih (x := { x with queue := x.queue.push p a }) running
    simp only [List.map_cons, serveAll, step]
    refine ⟨fun b hb => ?_, open', fun q => ?_⟩
    · rcases List.mem_cons.1 hb with rfl | later
      · rfl
      · exact kept b later
    · rw [band, RunQueue.band_push]
      split
      · simp
      · simp

/-- An open queue takes further entries, and holds them at the back of its bands. -/
theorem Scheduler.serveAll_additions {x y : Scheduler α} {new : Priority → List α}
    (running : x.closed = false) (running' : y.closed = false)
    (band : ∀ p, y.queue.band p = x.queue.band p ++ new p) :
    (∀ a ∈ (serveAll serve x (x.queue.additions y.queue)).1, a = .kept) ∧
      (serveAll serve x (x.queue.additions y.queue)).2 = y := by
  have further : ∀ p, (y.queue.band p).drop (x.queue.band p).length = new p := by
    intro p
    rw [band, List.drop_left]
  simp only [RunQueue.additions, List.flatMap_cons, List.flatMap_nil, List.append_nil, further,
    serveAll_append]
  obtain ⟨kept₁, open₁, band₁⟩ := serveAll_push .high (new .high) running
  obtain ⟨kept₂, open₂, band₂⟩ := serveAll_push .normal (new .normal) open₁
  obtain ⟨kept₃, open₃, band₃⟩ := serveAll_push .low (new .low) open₂
  refine ⟨fun a ha => ?_, ?_⟩
  · rcases List.mem_append.1 ha with first | later
    · exact kept₁ a first
    · rcases List.mem_append.1 later with second | third
      · exact kept₂ a second
      · exact kept₃ a third
  · have queue :
        (serveAll serve (serveAll serve (serveAll serve x ((new .high).map (.push .high))).2
        ((new .normal).map (.push .normal))).2 ((new .low).map (.push .low))).2.queue =
        y.queue := by
      refine RunQueue.ext_band fun p => ?_
      rw [band₃, band₂, band₁, band]
      cases p <;> simp
    generalize (serveAll serve (serveAll serve (serveAll serve x ((new .high).map (.push .high))).2
        ((new .normal).map (.push .normal))).2 ((new .low).map (.push .low))).2 = z at open₃ queue ⊢
    obtain ⟨queue', closed⟩ := z
    obtain ⟨queue'', closed'⟩ := y
    simp_all

/-- Whatever is kept is neither given nor dropped. -/
theorem Response.quiet {as : List (Response α)} (kept : ∀ a ∈ as, a = .kept) :
    as.flatMap popped = [] ∧ as.flatMap dropped = [] := by
  constructor
  · rw [List.flatMap_eq_nil_iff]
    intro a ha
    rw [kept a ha]
    rfl
  · rw [List.flatMap_eq_nil_iff]
    intro a ha
    rw [kept a ha]
    rfl

end Scheduler

/-! ### A transition answers its requests -/

variable {s s' : State} {d d' : Desk} {past : List State} {r : RuntimeId}

/-- The answers to some requests tell what happens in a transition. -/
structure Served (r : RuntimeId) (s s' : State)
    (answered : List (Response Entry) × Scheduler Entry) : Prop where
  /-- The queue is left as it is then. -/
  left : answered.2 = s'.scheduler r
  /-- A slice begins for whatever is given, unless it is a marker. -/
  begins : (answered.1.flatMap Response.popped).filter Entry.isWork = State.begins r s s'
  /-- Whatever is dropped is on the agenda, unless it is a marker. -/
  sheds : (answered.1.flatMap Response.dropped).filter Entry.isWork = State.sheds r s s'

/-- What is demanded is answered first; then further entries are taken. -/
theorem Served.of_demands {x : Scheduler Entry} {answers : List (Response Entry)}
    {new : Priority → List Entry}
    (demands : serveAll Scheduler.serve (s.scheduler r) (State.demands r s s') = (answers, x))
    (closed : (s'.scheduler r).closed = x.closed)
    (shut : x.closed = true → (s'.scheduler r).queue = x.queue)
    (band : ∀ p, (s'.scheduler r).queue.band p = x.queue.band p ++ new p)
    (begins : (answers.flatMap Response.popped).filter Entry.isWork = State.begins r s s')
    (sheds : (answers.flatMap Response.dropped).filter Entry.isWork = State.sheds r s s') :
    Served r s s' (serveAll Scheduler.serve (s.scheduler r) (State.dealings r s s')) := by
  rw [State.dealings, serveAll_append, demands]
  have added : (∀ a ∈ (serveAll Scheduler.serve x
      (x.queue.additions (s'.scheduler r).queue)).1, a = .kept) ∧
        (serveAll Scheduler.serve x (x.queue.additions (s'.scheduler r).queue)).2 =
          s'.scheduler r := by
    cases state : x.closed with
    | true =>
      have nothing : x.queue.additions (s'.scheduler r).queue = [] := by
        simp [RunQueue.additions, shut state]
      rw [nothing]
      refine ⟨by simp [serveAll], ?_⟩
      have queue := shut state
      generalize s'.scheduler r = y at closed queue
      obtain ⟨queue', closed'⟩ := y
      obtain ⟨queue'', closed''⟩ := x
      simp_all [serveAll]
    | false => exact Scheduler.serveAll_additions state (closed.trans state) band
  obtain ⟨kept, left⟩ := added
  obtain ⟨none, none'⟩ := Response.quiet kept
  refine ⟨left, ?_, ?_⟩
  · rw [List.flatMap_append, none, List.append_nil, begins]
  · rw [List.flatMap_append, none', List.append_nil, sheds]

theorem discarded_of_discard (entries : List Entry) :
    (entries.map Action.discard).filterMap Action.discarded? = entries := by
  rw [List.filterMap_map]
  exact List.filterMap_some

/-- A transition answers its requests. -/
theorem Traffic.served (h : Traffic r s s') :
    Served r s s' (serveAll Scheduler.serve (s.scheduler r) (State.dealings r s s')) := by
  cases h with
  | @feeds new feeds rising nothing none =>
    have open_ : State.shuts r s s' = false := by
      rw [State.shuts, feeds.closed]
      cases (s.scheduler r).closed <;> rfl
    have shed : State.sheds r s s' = [] := by simp [State.sheds, open_]
    have shut : (s.scheduler r).closed = true →
        (s'.scheduler r).queue = (s.scheduler r).queue := fun shut =>
      RunQueue.ext_band fun p => by rw [feeds.band, feeds.shut shut, List.append_nil]
    -- a worker that has asked in vain was told that there is nothing
    cases asks : State.asks r s s' with
    | false =>
      have demands : serveAll Scheduler.serve (s.scheduler r) (State.demands r s s') =
          ([], s.scheduler r) := by simp [State.demands, asks, open_, serveAll]
      exact .of_demands demands feeds.closed shut feeds.band (by rw [none]; rfl) (by rw [shed]; rfl)
    | true =>
      have answer : (s.scheduler r).serve .pop = (.given Option.none, s.scheduler r) := by
        rcases (nothing asks).2 with closed | empty
        · simp [Scheduler.serve, closed]
        · simp [Scheduler.serve, empty]
      have demands : serveAll Scheduler.serve (s.scheduler r) (State.demands r s s') =
          ([.given Option.none], s.scheduler r) := by
        simp [State.demands, asks, open_, serveAll, answer]
      exact .of_demands demands feeds.closed shut feeds.band (by rw [none]; rfl) (by rw [shed]; rfl)
  | @takes e rest new asks running running' pop band markers begun =>
    have open_ : State.shuts r s s' = false := by simp [State.shuts, running']
    have answer : (s.scheduler r).serve .pop =
        (.given (some e), { queue := rest, closed := false }) := by
      simp [Scheduler.serve, running, pop]
    have demands : serveAll Scheduler.serve (s.scheduler r) (State.demands r s s') =
        ([.given (some e)], { queue := rest, closed := false }) := by
      simp [State.demands, asks, open_, serveAll, answer]
    refine .of_demands demands running' (by simp) band ?_ ?_
    · rw [begun]
      rfl
    · simp [State.sheds, open_, Response.dropped]
  | closes quiet running empty dropped none =>
    have shuts : State.shuts r s s' = true := by simp [State.shuts, running, empty]
    have demands : serveAll Scheduler.serve (s.scheduler r) (State.demands r s s') =
        ([.discarded (s.scheduler r).queue.toList], { queue := {}, closed := true }) := by
      simp [State.demands, quiet, shuts, serveAll, Scheduler.serve]
    have same : ∀ p, (s'.scheduler r).queue.band p = ({} : RunQueue Entry).band p ++ [] := by
      simp [empty]
    refine .of_demands demands (by rw [empty]) (fun _ => by rw [empty]) same ?_ ?_
    · rw [none]
      rfl
    · rw [State.sheds, if_pos shuts, dropped, discarded_of_discard]
      simp [Response.dropped]

/-! ### A run answers its requests -/

/-- The one list answers the requests of a run as the machine does. -/
structure Refines (r : RuntimeId) (past : List State) (s : State) : Prop where
  /-- The slices begin in the order in which the list gives the entries; only a marker begins
  none. -/
  begins : ((serveAll Backlog.serve {} (gather (State.dealings r) s past)).1.flatMap
    Response.popped).filter Entry.isWork = gather (State.begins r) s past
  /-- What the list discards is dropped, in the same order. -/
  sheds : ((serveAll Backlog.serve {} (gather (State.dealings r) s past)).1.flatMap
    Response.dropped).filter Entry.isWork = gather (State.sheds r) s past
  /-- What is queued is what the list still holds, in the order in which it would give it. -/
  waits : (s.scheduler r).queue.toList =
    Backlog.drain (serveAll Backlog.serve {} (gather (State.dealings r) s past)).2.entries
  /-- Both were shut down, or neither was. -/
  closed : (s.scheduler r).closed =
    (serveAll Backlog.serve {} (gather (State.dealings r) s past)).2.closed

theorem Trail.answers (h : Trail past s d) (r : RuntimeId) :
    (serveAll Scheduler.serve {} (gather (State.dealings r) s past)).2 = s.scheduler r ∧
    ((serveAll Scheduler.serve {} (gather (State.dealings r) s past)).1.flatMap
      Response.popped).filter Entry.isWork = gather (State.begins r) s past ∧
    ((serveAll Scheduler.serve {} (gather (State.dealings r) s past)).1.flatMap
      Response.dropped).filter Entry.isWork = gather (State.sheds r) s past := by
  induction h with
  | init => exact ⟨rfl, rfl, rfl⟩
  | @next past s s' d d' h t ih =>
    obtain ⟨left, begins, sheds⟩ := ih
    have served := (t.traffic h.reachable r).served
    rw [gather_cons, serveAll_append, left]
    refine ⟨served.left, ?_, ?_⟩
    · rw [List.flatMap_append, List.filter_append, begins, served.begins, gather_cons]
    · rw [List.flatMap_append, List.filter_append, sheds, served.sheds, gather_cons]

/-- **A run answers its requests as the one list does.** -/
theorem Trail.refines (h : Trail past s d) (r : RuntimeId) : Refines r past s := by
  obtain ⟨left, begins, sheds⟩ := h.answers r
  obtain ⟨same, matching⟩ :=
    (Scheduler.Matches.init : ({} : Scheduler Entry).Matches {}).serveAll
      (gather (State.dealings r) s past)
  rw [same] at begins sheds
  rw [left] at matching
  exact ⟨begins, sheds, matching.queue.toList_eq, matching.closed⟩

end Nursery
