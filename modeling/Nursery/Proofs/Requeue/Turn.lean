import Nursery.Proofs.Backlog.Starts
import Nursery.Proofs.Exclusion
import Nursery.Proofs.Requeue.Batch

/-!
# Work that is queued again waits its turn

A task that gives way, or was woken while it was running, and an actor with messages left go to the
back of their bands when their slices are over, behind all that was queued meanwhile.  The bands are
queues: what was in one and what has come into it is what has left it and what is in it now.  So
whatever is queued in the same or a higher band is given to the worker before the entry is.

* `State.given` : the entry that the worker of a runtime gets from its queue.
* `Path.conserves` : a band is a queue, as long as it is open.
* `Within.stays` : while a slice lasts nothing leaves the queue, and its entry is not in it.
* `WaitsTurn` : an entry at the back of its band waits for all that is before it.
* `requeued_waits` : **whatever is queued again waits its turn.**
* `requeued_waits_chatty` : an actor that sends to itself waits for a task.
-/

namespace Nursery

variable {s s' s₀ x y : State} {d d' d₀ dx dy : Desk} {r : RuntimeId} {during more : List State}
  {e : Entry} {p q : Priority} {new : Priority → List Entry}

/-- The entry that the worker of a runtime gets from its queue. -/
def State.given (r : RuntimeId) (s s' : State) : List Entry :=
  if asks r s s' then ((s.scheduler r).serve .pop).1.popped else []

/-! ### A band is a queue -/

/-- What comes into a band, and what leaves it. -/
structure Flows (r : RuntimeId) (q : Priority) (s s' : State) (come gone : List Entry) : Prop where
  /-- It was not shut down before. -/
  running : (s.scheduler r).closed = false
  /-- What was there and what has come is what has gone and what is there. -/
  conserves : (s.scheduler r).queue.band q ++ come = gone ++ (s'.scheduler r).queue.band q

namespace Flows

variable {come gone come' gone' : List Entry}

theorem trans (h : Flows r q s s' come gone) (h' : Flows r q s' x come' gone') :
    Flows r q s x (come ++ come') (gone ++ gone') where
  running := h.running
  conserves := by
    rw [← List.append_assoc, h.conserves, List.append_assoc, h'.conserves, List.append_assoc]

end Flows

theorem Feeds.flows (h : Feeds r s s' new) (running : (s.scheduler r).closed = false)
    (q : Priority) : Flows r q s s' (new q) [] where
  running := running
  conserves := (h.band q).symm

theorem State.given_of_pop {rest : RunQueue Entry} (asks : State.asks r s s' = true)
    (running : (s.scheduler r).closed = false) (pop : (s.scheduler r).queue.pop? = some (e, rest)) :
    State.given r s s' = [e] := by
  simp [State.given, asks, Scheduler.serve, running, pop, Response.popped]

theorem State.mem_given (given : e ∈ State.given r s s') :
    (s.scheduler r).closed = false ∧ ∃ rest, (s.scheduler r).queue.pop? = some (e, rest) := by
  unfold State.given at given
  split at given
  · cases shut : (s.scheduler r).closed with
    | true => simp [Scheduler.serve, shut, Response.popped] at given
    | false =>
      cases pop : (s.scheduler r).queue.pop? with
      | none => simp [Scheduler.serve, shut, pop, Response.popped] at given
      | some next =>
        obtain ⟨u, rest⟩ := next
        obtain rfl : e = u := by simpa [Scheduler.serve, shut, pop, Response.popped] using given
        exact ⟨rfl, rest, rfl⟩
  · cases given

/-- While the queue stays open, what leaves a band is given. -/
theorem Traffic.flows (h : Traffic r s s') (running' : (s'.scheduler r).closed = false)
    (q : Priority) : ∃ come gone, Flows r q s s' come gone ∧ gone.Sublist (State.given r s s') := by
  cases h with
  | @feeds new feeds _ _ _ =>
    exact ⟨_, _, feeds.flows (feeds.closed ▸ running') q, List.nil_sublist _⟩
  | @takes e rest new asks running _ pop band _ _ =>
    rw [State.given_of_pop asks running pop]
    -- an entry leaves one band only
    rcases RunQueue.band_of_pop? pop q with other | here
    · exact ⟨new q, [], ⟨running, by rw [band, other, List.nil_append]⟩, List.nil_sublist _⟩
    · exact ⟨new q, [e], ⟨running, by rw [band, here, List.singleton_append, List.cons_append]⟩,
        List.Sublist.refl _⟩
  | closes _ _ empty =>
    rw [empty] at running'
    cases running'

/-- **A band is a queue**, as long as it is open: along a run all that leaves it is given. -/
theorem Path.conserves (h : Reachable s d) (path : Path s d more x dx)
    (running : (x.scheduler r).closed = false) (q : Priority) :
    ∃ come gone, Flows r q s x come gone ∧ gone.Sublist (gather (State.given r) x more) := by
  induction path with
  | refl => exact ⟨[], [], ⟨running, by simp⟩, List.nil_sublist _⟩
  | next path t ih =>
    obtain ⟨come', gone', flows', sub'⟩ := (t.traffic (h.leads path.leads) r).flows running q
    obtain ⟨come, gone, flows, sub⟩ := ih flows'.running
    exact ⟨_, _, flows.trans flows', sub.append sub'⟩

/-- A slice begins for whatever is given, unless it is a marker. -/
theorem Traffic.begins_eq (h : Traffic r s s') :
    State.begins r s s' = (State.given r s s').filter Entry.isWork := by
  cases h with
  | feeds _ _ nothing none =>
    rw [none]
    cases asks : State.asks r s s' with
    | false => simp [State.given, asks]
    | true =>
      rcases (nothing asks).2 with shut | empty
      · simp [State.given, asks, Scheduler.serve, shut, Response.popped]
      · cases shut : (s.scheduler r).closed <;>
          simp [State.given, asks, Scheduler.serve, shut, empty, Response.popped]
  | takes asks running _ pop _ _ begun => rw [begun, State.given_of_pop asks running pop]
  | closes quiet _ _ _ none =>
    rw [none]
    simp [State.given, quiet]

theorem Path.begins_eq (h : Reachable s d) (path : Path s d more x dx) :
    gather (State.begins r) x more = (gather (State.given r) x more).filter Entry.isWork := by
  induction path with
  | refl => rfl
  | next path t ih =>
    rw [gather_cons, gather_cons, List.filter_append, ih,
      (t.traffic (h.leads path.leads) r).begins_eq]

/-! ### Where an entry is -/

/-- The entry that is taken is the first of its band, and nothing is in the bands above. -/
theorem RunQueue.first_of_pop? {α : Type} {a : α} {b rest : RunQueue α}
    (h : b.pop? = some (a, rest)) :
    ∃ p, b.band p = a :: rest.band p ∧ ∀ q : Priority, p.rank < q.rank → b.band q = [] := by
  obtain ⟨high, normal, low⟩ := b
  rcases high with _ | ⟨u, high⟩
  · rcases normal with _ | ⟨v, normal⟩
    · rcases low with _ | ⟨w, low⟩
      · cases h
      · cases h
        refine ⟨.low, rfl, fun q above => ?_⟩
        cases q <;> first | rfl | simp [Priority.rank] at above
    · cases h
      refine ⟨.normal, rfl, fun q above => ?_⟩
      cases q <;> first | rfl | simp [Priority.rank] at above
  · cases h
    refine ⟨.high, rfl, fun q above => ?_⟩
    cases q <;> simp [Priority.rank] at above

theorem State.scheduler_queue (s : State) (r : RuntimeId) : (s.scheduler r).queue = s.queue r := by
  unfold State.scheduler State.queue
  cases s.runtimes.get? r <;> rfl

/-- A task and an actor wait in one band only. -/
theorem Reachable.one_band (h : Reachable s d) (work : e.isWork = true)
    (here : e ∈ (s.scheduler r).queue.band p) (there : e ∈ (s.scheduler r).queue.band q) :
    p = q := by
  cases e with
  | task t =>
    exact (h.sound.dispatch.scheduler_queued here).2.symm.trans
      (h.sound.dispatch.scheduler_queued there).2
  | drain a =>
    rw [State.scheduler_queue] at here there
    have band := (h.ranked.band r p _ here a rfl).symm.trans (h.ranked.band r q _ there a rfl)
    exact Option.some.inj band
  | marker => cases work

/-- What is in a slice is not queued. -/
theorem Reachable.unqueued (h : Reachable s d) {z : Slice} (during : s.slice r = some z) :
    z.entry ∉ (s.scheduler r).queue.toList := by
  cases z with
  | task t stage =>
    obtain ⟨rt, found, -⟩ := State.slice_eq during
    rw [State.scheduler_of_found found]
    refine h.sound.dispatch.not_queued found fun ready => ?_
    exact h.sound.dispatch.not_sliced (.inr ready) r stage during
  | drain a handled stage =>
    obtain ⟨l, kept⟩ := h.kept a
    rw [State.scheduler_queue]
    intro queued
    obtain ⟨p, mem⟩ := RunQueue.mem_toList.1 queued
    exact kept.carried.2.not_queued during r p mem

/-! ### While a slice lasts -/

/-- A worker in a slice gets nothing from the queue. -/
theorem Transition.feeds_of_during (h : Reachable s d) (t : Transition s d s' d') {z : Slice}
    (during : s.slice r = some z) (running' : (s'.scheduler r).closed = false) :
    ∃ new, Feeds r s s' new := by
  cases t.traffic h r with
  | feeds feeds => exact ⟨_, feeds⟩
  | takes asks => cases (State.not_asks during).symm.trans asks
  | closes _ _ empty =>
    rw [empty] at running'
    cases running'

/-- While a slice lasts and the queue is open, nothing leaves the queue, and the entry of the slice
is not in it, however often it is woken. -/
theorem Within.stays (w : Within r e x s₀ during s) (h : Reachable s₀ d₀)
    (path : Path s₀ d₀ during s d) (running : (s.scheduler r).closed = false) :
    ∀ y ∈ s :: during, e ∉ (y.scheduler r).queue.toList ∧
      ∀ q, (y.scheduler r).queue.band q <+: (s.scheduler r).queue.band q := by
  have inside := w.lasts
  clear w
  have apart : ∀ {y : State} {dy : Desk}, Reachable y dy → (y.slice r).map Slice.entry = some e →
      e ∉ (y.scheduler r).queue.toList := by
    intro y dy there during
    obtain ⟨z, now, rfl⟩ := Option.map_eq_some_iff.1 during
    exact there.unqueued now
  induction path with
  | refl =>
    intro y mem
    cases List.mem_singleton.1 mem
    exact ⟨apart h (inside _ mem), fun q => List.prefix_rfl⟩
  | @next during s s' d d' path t ih =>
    have there := h.leads path.leads
    obtain ⟨z, now, -⟩ := Option.map_eq_some_iff.1 (inside s (by simp))
    obtain ⟨new, feeds⟩ := t.feeds_of_during there now running
    intro y mem
    rcases List.mem_cons.1 mem with rfl | before
    · exact ⟨apart (there.next t) (inside _ mem), fun q => List.prefix_rfl⟩
    · obtain ⟨out, prior⟩ := ih (feeds.closed ▸ running)
        (fun z hz => inside z (List.mem_cons_of_mem _ hz)) y before
      exact ⟨out, fun q => (prior q).trans (by rw [feeds.band]; exact List.prefix_append _ _)⟩

/-! ### Waiting -/

/-- An entry has gone to the back of its band and waits for all that is before it. -/
structure WaitsTurn (r : RuntimeId) (e : Entry) (p : Priority) (s s' : State) (d' : Desk) :
    Prop where
  /-- All that was set off before is done. -/
  settled : s.agenda = []
  /-- It is the last one of its band, and nothing else has changed in the queue. -/
  back : ∀ q, (s'.scheduler r).queue.band q =
    (s.scheduler r).queue.band q ++ if p = q then [e] else []
  /-- As long as the queue is open, what leaves a band is given, and what comes in goes behind what
  is there. -/
  waits : ∀ more x dx, Path s' d' more x dx → (x.scheduler r).closed = false → ∀ q,
    ∃ come gone, Flows r q s' x come gone ∧ gone.Sublist (gather (State.given r) x more)
  /-- When the entry gets its next slice, all that was queued in its band and in those above was
  given to the worker before, in the order of each band. -/
  turn : ∀ more x dx y dy, Path s' d' more x dx → Transition x dx y dy →
    e ∉ gather (State.begins r) x more → e ∈ State.begins r x y → ∀ q : Priority, p.rank ≤ q.rank →
      ((s.scheduler r).queue.band q).Sublist (gather (State.given r) x more)
  /-- Whatever is given gets a slice, unless it is a marker. -/
  begins : ∀ more x dx, Path s' d' more x dx →
    gather (State.begins r) x more = (gather (State.given r) x more).filter Entry.isWork

theorem prefix_of_first {α : Type} {a : α} {before after before' after' : List α}
    (same : before ++ a :: after = before' ++ a :: after') (first : a ∉ before) :
    before <+: before' := by
  rcases List.append_eq_append_iff.1 same with ⟨more, longer, -⟩ | ⟨more, shorter, tail⟩
  · exact ⟨more, longer.symm⟩
  · cases more with
    | nil => exact ⟨[], by rw [shorter, List.append_nil, List.append_nil]⟩
    | cons b more =>
      obtain ⟨rfl, -⟩ := List.cons.inj tail
      exact absurd (shorter ▸ List.mem_append_right _ List.mem_cons_self) first

/-- The entry that is taken is the first one of its band, and nothing is in those above. -/
theorem Reachable.first_of_pop (h : Reachable s d) (work : e.isWork = true) {rest : RunQueue Entry}
    (pop : (s.scheduler r).queue.pop? = some (e, rest))
    (here : e ∈ (s.scheduler r).queue.band p) : (s.scheduler r).queue.band p = e :: rest.band p ∧
      ∀ q : Priority, p.rank < q.rank → (s.scheduler r).queue.band q = [] := by
  obtain ⟨p', first, above⟩ := RunQueue.first_of_pop? pop
  obtain rfl := h.one_band work here (first ▸ List.mem_cons_self)
  exact ⟨first, above⟩

/-- An entry that was put at the back of its band waits for all that is before it. -/
theorem WaitsTurn.of_back (h : Reachable s' d') (idle : s.agenda = []) (work : e.isWork = true)
    (apart : e ∉ (s.scheduler r).queue.toList)
    (back : ∀ q, (s'.scheduler r).queue.band q =
      (s.scheduler r).queue.band q ++ if p = q then [e] else []) : WaitsTurn r e p s s' d' where
  settled := idle
  back := back
  waits _ _ _ path running q := path.conserves h running q
  begins _ _ _ path := path.begins_eq h
  turn more x dx y dy path t unbegun begun q above := by
    have there := h.leads path.leads
    rw [(t.traffic there r).begins_eq] at begun
    have given := (List.mem_filter.1 begun).1
    have ungiven : e ∉ gather (State.given r) x more := by
      intro before
      rw [path.begins_eq h] at unbegun
      exact unbegun (List.mem_filter.2 ⟨before, work⟩)
    obtain ⟨running, rest, pop⟩ := State.mem_given given
    -- it still waits in its band
    have here : e ∈ (x.scheduler r).queue.band p := by
      obtain ⟨come, gone, flows, sub⟩ := path.conserves h running p
      have mem : e ∈ gone ++ (x.scheduler r).queue.band p := by
        rw [← flows.conserves, back, if_pos rfl]
        simp
      exact (List.mem_append.1 mem).resolve_left fun gone => ungiven (sub.subset gone)
    obtain ⟨first, empty⟩ := there.first_of_pop work pop here
    obtain ⟨come, gone, flows, sub⟩ := path.conserves h running q
    have kept := flows.conserves
    refine List.IsPrefix.sublist ?_ |>.trans sub
    by_cases same : p = q
    · subst same
      rw [back, if_pos rfl, first, List.append_assoc, List.singleton_append] at kept
      refine prefix_of_first kept fun queued => apart (RunQueue.mem_toList.2 ⟨_, queued⟩)
    · -- the bands above are empty by now
      have higher : p.rank < q.rank := lt_of_le_of_ne above fun eq => same (Priority.rank_inj.1 eq)
      rw [back, if_neg same, List.append_nil, empty q higher, List.append_nil] at kept
      exact ⟨come, kept⟩

/-- **Whatever is queued again waits its turn.**  A worker begins a slice for a task or an actor and
is in it up to some state.  It takes up no more messages meanwhile than its runtime allows at a
time.  As long as the queue is open, the entry is not in it during the slice, however often it is
woken, and what is queued meanwhile is still there at the end, in the same order.  If the slice ends
with the next transition and the entry is in the queue again, then it is the last one of its band,
and before it gets its next slice the worker is given all that was queued in that band and in those
above. -/
theorem requeued_waits (h : Reachable x dx) (t : Transition x dx s₀ d₀)
    (slice : Path s₀ d₀ during s d) (within : Within r e x s₀ during s) :
    (gather (State.picks r) s during).length ≤ s₀.batch r ∧
    ((s.scheduler r).closed = false → ∀ y ∈ s :: during, e ∉ (y.scheduler r).queue.toList ∧
      ∀ q, (y.scheduler r).queue.band q <+: (s.scheduler r).queue.band q) ∧
    ∀ s' d' p, Transition s d s' d' → s'.slice r = none → e ∈ (s'.scheduler r).queue.band p →
      WaitsTurn r e p s s' d' := by
  have first := h.next t
  have there := first.leads slice.leads
  refine ⟨within.taken_le h t slice, fun running => within.stays first slice running,
    fun s' d' p t' ended queued => ?_⟩
  obtain ⟨z, now, rfl⟩ := Option.map_eq_some_iff.1 (within.lasts s List.mem_cons_self)
  have apart := there.unqueued now
  have absent : ∀ q, z.entry ∉ (s.scheduler r).queue.band q := fun q mem =>
    apart (RunQueue.mem_toList.2 ⟨q, mem⟩)
  cases t'.fares there now with
  | goesOn after => cases ended.symm.trans after
  | ends _ _ same =>
    rw [same] at queued
    exact absurd queued (absent p)
  | @again p' idle _ _ pushed =>
    have band : ∀ q, (s'.scheduler r).queue.band q =
        (s.scheduler r).queue.band q ++ if p' = q then [z.entry] else [] := by
      intro q
      rw [pushed, RunQueue.band_push]
    have same : p' = p := by
      by_contra other
      rw [band, if_neg other, List.append_nil] at queued
      exact absent p queued
    subst same
    exact .of_back (there.next t') idle z.isWork_entry apart band

/-- The body of a task that sends one message, whose handler sends another one to its own actor, and
that then spawns a task. -/
def chattyBody : List Line :=
  [.mk ⟨"send", some "mail", none, true⟩ (.send [.mk ⟨"send", some "mail", none, true⟩ (.send [])]),
    spawnLine "a" .normal]

/-- On a runtime where one message may be handled at a time, the slice of that actor begins and
ends, and later its next slice begins. -/
theorem path_chatty : ∃ x during s more y, Reachable x .clear ∧ x.step.batch ⟨0⟩ = 1 ∧
    Path x.step .clear during s .clear ∧ Within ⟨0⟩ (.drain ⟨0⟩) x x.step during s ∧
    (s.scheduler ⟨0⟩).queue.normal = [.task ⟨1⟩] ∧ s.step.slice ⟨0⟩ = none ∧
    (s.step.scheduler ⟨0⟩).queue.normal = [.task ⟨1⟩, .drain ⟨0⟩] ∧
    Path s.step .clear more y .clear ∧ gather (State.begins ⟨0⟩) y more = [.task ⟨1⟩] ∧
    State.begins ⟨0⟩ y y.step = [.drain ⟨0⟩] := by
  have built : Reachable _ .clear := Reachable.init.next (.move rfl (.build 0 (some 1) none))
  have made := built.next (.move (by decide) (.line (show State.plain? _ { who := .main } []
    ⟨"actor", none, some "mail", true⟩ (.actor [] none) = some _ from rfl)))
  have shelved := (reachable_run made 1).next (.move (by decide) .shelve)
  have ready := shelved.enlist (by decide) "chatty" chattyBody (by decide)
  have started := ready.next (.move (by decide) (.start (show Store.get? _ 0 = some ⟨0⟩ by decide)))
  have run := reachable_run started 11
  exact ⟨_, _, _, _, _, run, by decide +kernel, Path.refl.follow 4,
    ⟨by decide +kernel, by decide +kernel⟩, by decide +kernel, by decide +kernel, by decide +kernel,
    Path.refl.follow 14, by decide +kernel, by decide +kernel⟩

/-- One message is a batch.  The actor goes behind the task that was spawned before its slice ended,
and gets its next slice only after that task has got one. -/
theorem requeued_waits_chatty : ∃ x s₀ during s s' more y y', Reachable x .clear ∧
    Transition x .clear s₀ .clear ∧ Path s₀ .clear during s .clear ∧
    Within ⟨0⟩ (.drain ⟨0⟩) x s₀ during s ∧ (gather (State.picks ⟨0⟩) s during).length ≤ 1 ∧
    Transition s .clear s' .clear ∧ s'.slice ⟨0⟩ = none ∧
    WaitsTurn ⟨0⟩ (.drain ⟨0⟩) .normal s s' .clear ∧ Path s' .clear more y .clear ∧
    Transition y .clear y' .clear ∧ .drain ⟨0⟩ ∉ gather (State.begins ⟨0⟩) y more ∧
    .drain ⟨0⟩ ∈ State.begins ⟨0⟩ y y' ∧
    [.task ⟨1⟩].Sublist (gather (State.given ⟨0⟩) y more) := by
  obtain ⟨x, during, s, more, y, h, batch, slice, within, band, ended, queued, path, others,
    again⟩ :=
    path_chatty
  obtain ⟨few, -, waits⟩ := requeued_waits h .step slice within
  have last : .drain ⟨0⟩ ∈ (s.step.scheduler ⟨0⟩).queue.band .normal := by
    rw [RunQueue.band, queued]
    simp
  have turn := waits _ .clear .normal .step ended last
  have unbegun : .drain ⟨0⟩ ∉ gather (State.begins ⟨0⟩) y more := by
    rw [others]
    decide
  have begins : .drain ⟨0⟩ ∈ State.begins ⟨0⟩ y y.step := again ▸ List.mem_singleton_self _
  have given := turn.turn _ _ _ _ _ path .step unbegun begins .normal (Nat.le_refl _)
  rw [RunQueue.band, band] at given
  exact ⟨x, x.step, during, s, s.step, more, y, y.step, h, .step, slice, within, batch ▸ few, .step,
    ended, turn, path, .step, unbegun, begins, given⟩

end Nursery
