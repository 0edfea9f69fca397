import Nursery.Proofs.RunQueue
import Mathlib.Data.List.Sort

/-!
# A stable priority queue

The plainest queue that serves by priority keeps one list in the order in which the entries were
put in, and takes the first entry that no other one exceeds in rank.  The bands of a run queue do
the same without ever looking for the greatest priority.

* `Scheduler` : the bands of a run queue, and whether it was shut down.
* `Backlog` : the one list, and the same requests.
* `Backlog.pop?_eq_some` : what it takes exceeds all that was put in before, and nothing exceeds it.
* `Backlog.drain_eq_mergeSort` : to empty it is to sort it.
* `Scheduler.serveAll_eq` : **the bands answer every sequence of requests as the one list does.**
* `Backlog.serveAll_perm` : nothing is lost and nothing is given twice.
-/

namespace Nursery

variable {α : Type}

/-! ### Requests -/

/-- What is asked of a queue. -/
inductive Request (α : Type) where
  /-- To keep an entry. -/
  | push (p : Priority) (a : α)
  /-- To give the entry that is next. -/
  | pop
  /-- To take nothing more. -/
  | shutdown

/-- What comes of a request. -/
inductive Response (α : Type) where
  /-- The entry is kept. -/
  | kept
  /-- The entry is dropped. -/
  | refused (a : α)
  /-- The entry that was next, if there was one. -/
  | given (a : Option α)
  /-- What was still kept is dropped, in this order. -/
  | discarded (entries : List α)

/-- The entry that was put in. -/
def Request.pushed : Request α → List (Priority × α)
  | .push p a => [(p, a)]
  | _ => []

/-- The entry that was given. -/
def Response.popped : Response α → List α
  | .given a => a.toList
  | _ => []

/-- The entries that were dropped. -/
def Response.dropped : Response α → List α
  | .refused a => [a]
  | .discarded entries => entries
  | _ => []

/-- A sequence of requests, answered one after the other. -/
def serveAll {σ : Type} (serve : σ → Request α → Response α × σ) :
    σ → List (Request α) → List (Response α) × σ
  | s, [] => ([], s)
  | s, q :: qs =>
    let (answer, s) := serve s q
    let (answers, s) := serveAll serve s qs
    (answer :: answers, s)

theorem serveAll_append {σ : Type} {serve : σ → Request α → Response α × σ}
    (qs rs : List (Request α)) : ∀ s : σ, serveAll serve s (qs ++ rs) =
      ((serveAll serve s qs).1 ++ (serveAll serve (serveAll serve s qs).2 rs).1,
        (serveAll serve (serveAll serve s qs).2 rs).2) := by
  induction qs with
  | nil => exact fun s => rfl
  | cons q qs ih => exact fun s => by simp [serveAll, ih]

/-! ### The bands -/

/-- A run queue and whether it was shut down. -/
structure Scheduler (α : Type) where
  /-- What waits, in its bands. -/
  queue : RunQueue α := {}
  /-- It takes nothing more and gives nothing more. -/
  closed : Bool := false

/-- A request to the bands. -/
def Scheduler.serve (s : Scheduler α) : Request α → Response α × Scheduler α
  | .push p a =>
    if s.closed then (.refused a, s) else (.kept, { s with queue := s.queue.push p a })
  | .pop =>
    if s.closed then (.given none, s)
    else
      match s.queue.pop? with
      | some (a, queue) => (.given (some a), { s with queue := queue })
      | none => (.given none, s)
  | .shutdown => (.discarded s.queue.toList, { queue := {}, closed := true })

/-! ### The one list -/

/-- Entries in the order in which they were put in, and whether the list was shut down. -/
structure Backlog (α : Type) where
  /-- What waits, the oldest first. -/
  entries : List (Priority × α) := []
  /-- It takes nothing more and gives nothing more. -/
  closed : Bool := false

namespace Backlog

/-- No entry of a list exceeds the given one in rank. -/
def leads (l : List (Priority × α)) (x : Priority × α) : Bool :=
  l.all fun y => y.1.rank ≤ x.1.rank

/-- The first entry of the greatest priority, and the list without it. -/
def pop? (l : List (Priority × α)) : Option (α × List (Priority × α)) :=
  (l.find? (leads l)).map fun x => (x.2, l.eraseP (leads l))

theorem exists_leads {l : List (Priority × α)} (h : l ≠ []) : ∃ x ∈ l, leads l x = true := by
  induction l with
  | nil => exact absurd rfl h
  | cons y l ih =>
    by_cases last : l = []
    · subst last
      exact ⟨y, List.mem_cons_self, by simp [leads]⟩
    · obtain ⟨x, mem, leads'⟩ := ih last
      simp only [leads, List.all_eq_true, decide_eq_true_eq] at leads'
      rcases Nat.le_total y.1.rank x.1.rank with below | above
      · refine ⟨x, List.mem_cons_of_mem _ mem, ?_⟩
        simpa [leads, below] using fun p a => leads' (p, a)
      · refine ⟨y, List.mem_cons_self, ?_⟩
        simpa [leads] using fun p a hpa => (leads' (p, a) hpa).trans above

theorem pop?_eq_none {l : List (Priority × α)} : pop? l = none ↔ l = [] := by
  constructor
  · intro none
    by_contra some
    obtain ⟨x, mem, leads⟩ := exists_leads some
    rw [pop?, Option.map_eq_none_iff, List.find?_eq_none] at none
    exact none x mem leads
  · rintro rfl
    rfl

/-- What is taken exceeds everything that was put in before it, and nothing that was put in after
it exceeds it. -/
theorem pop?_eq_some {l rest : List (Priority × α)} {a : α} (h : pop? l = some (a, rest)) :
    ∃ before p after, l = before ++ (p, a) :: after ∧ rest = before ++ after ∧
      (∀ x ∈ before, x.1.rank < p.rank) ∧ ∀ x ∈ after, x.1.rank ≤ p.rank := by
  obtain ⟨⟨p, b⟩, first, same⟩ := Option.map_eq_some_iff.1 h
  obtain ⟨rfl, rfl⟩ := Prod.mk.inj same
  obtain ⟨top, before, after, split, passed⟩ := List.find?_eq_some_iff_append.1 first
  have others : ∀ x ∈ before, ¬ leads l x = true := fun x mem leads => by
    simpa [leads] using passed x mem
  have bound : ∀ x ∈ l, x.1.rank ≤ p.rank := by simpa [leads] using top
  refine ⟨before, p, after, split, ?_, fun x mem => ?_, fun x mem => ?_⟩
  · have erased := List.eraseP_append_right ((p, b) :: after) others
    rw [List.eraseP_cons_of_pos top, ← split] at erased
    exact erased
  · have most := bound x (split ▸ List.mem_append_left _ mem)
    refine Nat.lt_of_le_of_ne most fun equal => others x mem ?_
    simpa [leads, equal] using fun q c => bound (q, c)
  · exact bound x (split ▸ List.mem_append_right _ (List.mem_cons_of_mem _ mem))

theorem length_of_pop? {l rest : List (Priority × α)} {a : α} (h : pop? l = some (a, rest)) :
    rest.length < l.length := by
  obtain ⟨before, p, after, rfl, rfl, -⟩ := pop?_eq_some h
  simp

/-- The entries in the order in which they would be taken. -/
def drain (l : List (Priority × α)) : List α :=
  match _h : pop? l with
  | none => []
  | some (a, rest) => a :: drain rest
termination_by l.length
decreasing_by exact length_of_pop? _h

theorem drain_of_none {l : List (Priority × α)} (h : pop? l = none) : drain l = [] := by
  rw [drain]
  split
  · rfl
  · rename_i some
    cases h.symm.trans some

theorem drain_of_some {l rest : List (Priority × α)} {a : α} (h : pop? l = some (a, rest)) :
    drain l = a :: drain rest := by
  rw [drain]
  split
  · rename_i none
    cases h.symm.trans none
  · rename_i b rest' some
    cases h.symm.trans some
    rfl

/-- A request to the one list. -/
def serve (s : Backlog α) : Request α → Response α × Backlog α
  | .push p a =>
    if s.closed then (.refused a, s) else (.kept, { s with entries := s.entries ++ [(p, a)] })
  | .pop =>
    if s.closed then (.given none, s)
    else
      match pop? s.entries with
      | some (a, entries) => (.given (some a), { s with entries := entries })
      | none => (.given none, s)
  | .shutdown => (.discarded (drain s.entries), { entries := [], closed := true })

end Backlog

/-! ### The bands are those of the list -/

/-- Each band holds the entries of its priority. -/
def RunQueue.Matches (q : RunQueue α) (l : List (Priority × α)) : Prop :=
  ∀ p, q.band p = (l.filter fun x => x.1 = p).map Prod.snd

/-- The highest band that is not empty gives its first entry, and the other bands stay. -/
theorem RunQueue.pop?_of_band {q : RunQueue α} {p : Priority} {a : α} {rest : List α}
    (higher : ∀ r : Priority, p.rank < r.rank → q.band r = []) (own : q.band p = a :: rest) :
    ∃ q', q.pop? = some (a, q') ∧ q'.band p = rest ∧ ∀ r, r ≠ p → q'.band r = q.band r := by
  obtain ⟨high, normal, low⟩ := q
  cases p with
  | high =>
    obtain rfl : high = _ := own
    exact ⟨_, rfl, rfl, fun r other => by cases r <;> first | rfl | exact absurd rfl other⟩
  | normal =>
    obtain rfl : normal = _ := own
    obtain rfl : high = [] := higher .high (by decide)
    exact ⟨_, rfl, rfl, fun r other => by cases r <;> first | rfl | exact absurd rfl other⟩
  | low =>
    obtain rfl : low = _ := own
    obtain rfl : high = [] := higher .high (by decide)
    obtain rfl : normal = [] := higher .normal (by decide)
    exact ⟨_, rfl, rfl, fun r other => by cases r <;> first | rfl | exact absurd rfl other⟩

namespace RunQueue.Matches

variable {q : RunQueue α} {l : List (Priority × α)}

theorem empty : ({} : RunQueue α).Matches [] := by
  intro p
  cases p <;> rfl

theorem push (h : q.Matches l) (p : Priority) (a : α) : (q.push p a).Matches (l ++ [(p, a)]) := by
  intro r
  have old := h r
  by_cases same : p = r
  · subst same
    simp only [List.filter_append, List.map_append, ← old]
    cases p <;> simp [RunQueue.push, band]
  · simp only [List.filter_append, List.map_append, ← old]
    cases p <;> cases r <;> first | exact absurd rfl same | simp [RunQueue.push, band]

theorem pop? (h : q.Matches l) {rest : List (Priority × α)} {a : α}
    (next : Backlog.pop? l = some (a, rest)) : ∃ q', q.pop? = some (a, q') ∧ q'.Matches rest := by
  obtain ⟨before, p, after, rfl, rfl, below, above⟩ := Backlog.pop?_eq_some next
  -- the bands above that of the entry are empty, and the entry is the first of its own
  have higher : ∀ r : Priority, p.rank < r.rank → q.band r = [] := by
    intro r exceeds
    rw [h r, List.map_eq_nil_iff, List.filter_eq_nil_iff]
    simp only [List.mem_append, List.mem_cons, decide_eq_true_eq]
    rintro x (mem | rfl | mem) rfl
    · exact absurd (below x mem) (by omega)
    · exact absurd exceeds (Nat.lt_irrefl _)
    · exact absurd (above x mem) (by omega)
  have none : before.filter (fun x => x.1 = p) = [] := by
    rw [List.filter_eq_nil_iff]
    intro x mem same
    rw [decide_eq_true_eq] at same
    exact absurd (below x mem) (by rw [same]; omega)
  have own : q.band p = a :: ((before ++ after).filter fun x => x.1 = p).map Prod.snd := by
    rw [h p]
    simp [List.filter_append, none]
  have others : ∀ r, r ≠ p →
      q.band r = ((before ++ after).filter fun x => x.1 = r).map Prod.snd := by
    intro r other
    rw [h r]
    simp [List.filter_append, Ne.symm other]
  obtain ⟨q', taken, first, same⟩ := RunQueue.pop?_of_band higher own
  refine ⟨q', taken, fun r => ?_⟩
  by_cases other : r = p
  · subst other
    exact first
  · rw [same r other, others r other]

theorem toList_eq {l : List (Priority × α)} : ∀ {q : RunQueue α}, q.Matches l →
    q.toList = Backlog.drain l := by
  induction l using Backlog.drain.induct with
  | case1 l none =>
    intro q h
    have empty := Backlog.pop?_eq_none.1 none
    subst empty
    rw [Backlog.drain_of_none none]
    have bands : ∀ p, q.band p = [] := h
    have high : q.high = [] := bands .high
    have normal : q.normal = [] := bands .normal
    have low : q.low = [] := bands .low
    simp [toList, high, normal, low]
  | case2 l a rest some ih =>
    intro q h
    obtain ⟨q', pop, h'⟩ := h.pop? some
    rw [toList_pop? pop, ih h', Backlog.drain_of_some some]

end RunQueue.Matches

/-- The bands and the list hold the same. -/
structure Scheduler.Matches (s : Scheduler α) (b : Backlog α) : Prop where
  /-- Each band holds the entries of its priority. -/
  queue : s.queue.Matches b.entries
  /-- Both were shut down, or neither was. -/
  closed : s.closed = b.closed

namespace Scheduler

variable {s : Scheduler α} {b : Backlog α}

theorem Matches.init : ({} : Scheduler α).Matches {} :=
  ⟨.empty, rfl⟩

/-- One request is answered in the same way. -/
theorem Matches.serve (h : s.Matches b) (q : Request α) :
    (s.serve q).1 = (b.serve q).1 ∧ (s.serve q).2.Matches (b.serve q).2 := by
  obtain ⟨queue, closed⟩ := h
  cases shut : s.closed with
  | true =>
    have shut' := closed.symm.trans shut
    cases q with
    | push p a =>
      simp only [Scheduler.serve, Backlog.serve, shut, shut', if_true]
      exact ⟨trivial, queue, closed⟩
    | pop =>
      simp only [Scheduler.serve, Backlog.serve, shut, shut', if_true]
      exact ⟨trivial, queue, closed⟩
    | shutdown => exact ⟨congrArg _ queue.toList_eq, .empty, rfl⟩
  | false =>
    have shut' := closed.symm.trans shut
    cases q with
    | push p a =>
      simp only [Scheduler.serve, Backlog.serve, shut, shut', Bool.false_eq_true, if_false]
      exact ⟨trivial, queue.push p a, rfl⟩
    | pop =>
      simp only [Scheduler.serve, Backlog.serve, shut, shut', Bool.false_eq_true, if_false]
      cases first : Backlog.pop? b.entries with
      | none =>
        have empty := Backlog.pop?_eq_none.1 first
        cases taken : s.queue.pop? with
        | none => exact ⟨rfl, queue, closed⟩
        | some x =>
          have held := RunQueue.toList_pop? taken
          rw [queue.toList_eq, Backlog.drain_of_none first] at held
          cases held
      | some x =>
        obtain ⟨q', taken, rest⟩ := queue.pop? first
        simp only [taken]
        exact ⟨trivial, rest, rfl⟩
    | shutdown => exact ⟨congrArg _ queue.toList_eq, .empty, rfl⟩

theorem Matches.serveAll (qs : List (Request α)) : ∀ {s : Scheduler α} {b : Backlog α},
    s.Matches b → (serveAll Scheduler.serve s qs).1 = (serveAll Backlog.serve b qs).1 ∧
      (serveAll Scheduler.serve s qs).2.Matches (serveAll Backlog.serve b qs).2 := by
  induction qs with
  | nil => exact fun h => ⟨rfl, h⟩
  | cons q qs ih =>
    intro s b h
    obtain ⟨answer, next⟩ := h.serve q
    obtain ⟨answers, last⟩ := ih next
    exact ⟨by simp only [Nursery.serveAll, answer, answers], last⟩

/-- **The bands answer every sequence of requests as the one list does.** -/
theorem serveAll_eq (qs : List (Request α)) :
    (serveAll serve ({} : Scheduler α) qs).1 = (serveAll Backlog.serve {} qs).1 :=
  (Matches.serveAll qs .init).1

end Scheduler

namespace Backlog

/-! ### Nothing is lost -/

theorem perm_of_pop? {l rest : List (Priority × α)} {a : α} (h : pop? l = some (a, rest)) :
    (l.map Prod.snd).Perm (a :: rest.map Prod.snd) := by
  obtain ⟨before, p, after, rfl, rfl, -⟩ := pop?_eq_some h
  simp

theorem drain_perm (l : List (Priority × α)) : (drain l).Perm (l.map Prod.snd) := by
  induction l using drain.induct with
  | case1 l none =>
    rw [drain_of_none none, pop?_eq_none.1 none]
    exact .refl _
  | case2 l a rest some ih =>
    rw [drain_of_some some]
    exact (ih.cons a).trans (perm_of_pop? some).symm

theorem serve_perm (s : Backlog α) (q : Request α) :
    (s.entries.map Prod.snd ++ q.pushed.map Prod.snd).Perm
      ((s.serve q).1.popped ++ (s.serve q).1.dropped ++ (s.serve q).2.entries.map Prod.snd) := by
  cases q with
  | push p a =>
    -- what was put in comes behind the rest, or is given back before it
    cases shut : s.closed <;>
      simp [serve, shut, Request.pushed, Response.popped, Response.dropped]
  | pop =>
    cases shut : s.closed
    · cases first : pop? s.entries with
      | none => simp [serve, shut, first, Request.pushed, Response.popped, Response.dropped]
      | some x =>
        simpa [serve, shut, first, Request.pushed, Response.popped, Response.dropped]
          using perm_of_pop? first
    · simp [serve, shut, Request.pushed, Response.popped, Response.dropped]
  | shutdown =>
    simpa [serve, Request.pushed, Response.popped, Response.dropped]
      using (drain_perm s.entries).symm

/-- Whatever is put in is given, dropped or kept, and nothing else is. -/
theorem serveAll_perm (qs : List (Request α)) : ∀ s : Backlog α,
    (s.entries.map Prod.snd ++ (qs.flatMap Request.pushed).map Prod.snd).Perm
      ((serveAll serve s qs).1.flatMap Response.popped ++
        (serveAll serve s qs).1.flatMap Response.dropped ++
          (serveAll serve s qs).2.entries.map Prod.snd) := by
  induction qs with
  | nil => exact fun s => by simp [serveAll]
  | cons q qs ih =>
    intro s
    have one := s.serve_perm q
    have rest := ih (s.serve q).2
    classical
    rw [List.perm_iff_count] at one rest ⊢
    intro a
    have first := one a
    have later := rest a
    simp only [List.count_append] at first later
    simp only [serveAll, List.flatMap_cons, List.map_append, List.count_append]
    omega

end Backlog

/-! ### Sorting -/

/-- Two entries are in order if the later one does not exceed the earlier one. -/
def Priority.descends {β : Type} (key : β → Priority) (x y : β) : Bool :=
  decide ((key y).rank ≤ (key x).rank)

/-- A list in descending order is its bands one after the other. -/
theorem Priority.eq_bands {β : Type} {key : β → Priority} {l : List β}
    (sorted : l.Pairwise fun x y => Priority.descends key x y = true) :
    l = l.filter (fun x => key x = .high) ++ l.filter (fun x => key x = .normal) ++
      l.filter (fun x => key x = .low) := by
  induction l with
  | nil => rfl
  | cons x l ih =>
    obtain ⟨first, rest⟩ := List.pairwise_cons.1 sorted
    have below : ∀ y ∈ l, (key y).rank ≤ (key x).rank := by
      simpa [Priority.descends] using first
    have none : ∀ p : Priority, (key x).rank < p.rank → l.filter (fun y => key y = p) = [] := by
      intro p exceeds
      rw [List.filter_eq_nil_iff]
      intro y mem same
      rw [decide_eq_true_eq] at same
      exact absurd (below y mem) (by rw [same]; omega)
    cases band : key x with
    | high =>
      conv_lhs => rw [ih rest]
      simp [band]
    | normal =>
      have high := none .high (by rw [band]; decide)
      conv_lhs => rw [ih rest]
      simp [band, high]
    | low =>
      have high := none .high (by rw [band]; decide)
      have normal := none .normal (by rw [band]; decide)
      conv_lhs => rw [ih rest]
      simp [band, high, normal]

/-- To sort by descending priority is to put the bands one after the other. -/
theorem Priority.mergeSort_eq {β : Type} (key : β → Priority) (l : List β) :
    l.mergeSort (Priority.descends key) =
      l.filter (fun x => key x = .high) ++ l.filter (fun x => key x = .normal) ++
        l.filter (fun x => key x = .low) := by
  have trans : ∀ x y z : β, Priority.descends key x y = true → Priority.descends key y z = true →
      Priority.descends key x z = true := by
    simp only [Priority.descends, decide_eq_true_eq]
    omega
  have total : ∀ x y : β, (Priority.descends key x y || Priority.descends key y x) = true := by
    simp only [Priority.descends, Bool.or_eq_true, decide_eq_true_eq]
    omega
  -- sorting leaves every band as it is
  have stable : ∀ p, (l.mergeSort (Priority.descends key)).filter (fun x => key x = p) =
      l.filter fun x => key x = p := by
    intro p
    have alike : (l.filter fun x => key x = p).Pairwise
        fun x y => Priority.descends key x y = true := by
      rw [List.pairwise_filter]
      refine List.Pairwise.imp ?_ (List.pairwise_of_forall (fun _ _ => trivial))
      intro x y _ hx hy
      simp only [decide_eq_true_eq] at hx hy
      simp [Priority.descends, hx, hy]
    have kept := List.sublist_mergeSort trans total alike List.filter_sublist
    have inside := kept.filter fun x => decide (key x = p)
    rw [List.filter_filter] at inside
    simp only [Bool.and_self] at inside
    refine (inside.eq_of_length ?_).symm
    exact ((List.mergeSort_perm l _).filter _).length_eq.symm
  have bands := Priority.eq_bands (List.pairwise_mergeSort trans total l)
  rwa [stable, stable, stable] at bands

/-- To empty the list is to sort it: the greatest priority first, and what is of one priority in
the order in which it was put in. -/
theorem Backlog.drain_eq_mergeSort (l : List (Priority × α)) :
    drain l = (l.mergeSort (Priority.descends Prod.fst)).map Prod.snd := by
  have built : ∃ q : RunQueue α, q.Matches l :=
    ⟨⟨(l.filter fun x => x.1 = .high).map Prod.snd, (l.filter fun x => x.1 = .normal).map Prod.snd,
      (l.filter fun x => x.1 = .low).map Prod.snd⟩, fun p => by cases p <;> rfl⟩
  obtain ⟨q, h⟩ := built
  have high : q.high = _ := h .high
  have normal : q.normal = _ := h .normal
  have low : q.low = _ := h .low
  rw [← h.toList_eq, RunQueue.toList, Priority.mergeSort_eq, high, normal, low]
  simp

end Nursery
