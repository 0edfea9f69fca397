import Nursery.Proofs.Exclusion
import Nursery.Proofs.Invariant.Joined
import Nursery.Proofs.Passage

/-!
# Every call is answered once

Along a run, what leaves one place of a call's way has got to the next one, so the handlers that
were begun and ended, the replies that were given and the places of the state add up: a call that
was accepted is in one place at any time, and a reply is the last of them.  A reply tells what the
handler returned or that it panicked, or that there was no handler.

* `begun`, `ended`, `written` : what was seen of a call.
* `Trail.balance` : what was seen and what is to be seen yet add up.
* `Trail.slot` : what the caller can learn is what was written last.
* `answered_once` : the replies of an accepted call.
* `answered_once_late` : a call that a held task makes after its runtime was closed.
-/

namespace Nursery

/-- The messages of a call that were taken up. -/
def begun (k : CallId) (past : List State) (s : State) : List Pickup :=
  (gather State.pickups s past).filter fun e => decide (e.message.reply = some k)

/-- The handlers of a call that have ended. -/
def ended (k : CallId) (past : List State) (s : State) : List Verdict :=
  (gather State.verdicts s past).filter fun e => decide (e.reply = some k)

/-- The replies of a call that were written. -/
def written (k : CallId) (past : List State) (s : State) : List Reply :=
  (gather State.replies s past).filter fun e => decide (e.call = k)

/-- What was seen of a call along a run, and where it is. -/
structure Balance (k : CallId) (P : Except ActorError Int64 → Bool) (past : List State)
    (s : State) : Prop where
  /-- An accepted call waits, or was taken up, or was dropped. -/
  placed : s.placed k = s.waiting k + (begun k past s).length +
    (s.pledged k isDropped + (written k past s).countP fun e => isDropped e.outcome)
  /-- One that was taken up is being handled, or its handler has ended. -/
  handles : s.sliced (Slice.handles k) + (ended k past s).length = (begun k past s).length
  /-- After the end of its handler the reply is owed, pledged or written. -/
  owes : s.sliced (Slice.owes k P) +
      (s.pledged k P + (written k past s).countP fun e => P e.outcome) =
    (ended k past s).countP fun e => P (learnt e.result)

/-- What the caller of a call can learn is what was written last, until it is taken. -/
def Slot (k : CallId) (past : List State) (s : State) : Prop :=
  match s.calls.get? k with
  | none => written k past s = []
  | some call =>
    (written k past s = [] → call.answered = false ∧ (call.accepted = true → call.outcome = none)) ∧
    ∀ es e, written k past s = es ++ [e] →
      call.answered = true ∧ (call.outcome = some e.outcome ∨ call.outcome = none)

variable {s s' : State} {d d' : Desk} {past : List State} {k : CallId}
  {P : Except ActorError Int64 → Bool}

/-! ### Adding up -/

theorem length_begun_cons : (begun k (s :: past) s').length = (begun k past s).length +
    (s.pickups s').countP fun e => decide (e.message.reply = some k) := by
  rw [begun, gather_cons, List.filter_append, List.length_append, List.countP_eq_length_filter]
  rfl

theorem length_ended_cons : (ended k (s :: past) s').length = (ended k past s).length +
    (s.verdicts s').countP fun e => decide (e.reply = some k) := by
  rw [ended, gather_cons, List.filter_append, List.length_append, List.countP_eq_length_filter]
  rfl

theorem countP_ended_cons : (ended k (s :: past) s').countP (fun e => P (learnt e.result)) =
    (ended k past s).countP (fun e => P (learnt e.result)) +
      (s.verdicts s').countP fun e => decide (e.reply = some k) && P (learnt e.result) := by
  rw [ended, gather_cons, List.filter_append, List.countP_append,
    List.countP_filter (l := s.verdicts s')]
  simp only [Bool.and_comm]
  rfl

theorem written_cons : written k (s :: past) s' = written k past s ++
    (s.replies s').filter fun e => decide (e.call = k) := by
  rw [written, gather_cons, List.filter_append]
  rfl

theorem countP_written_cons : (written k (s :: past) s').countP (fun e => P e.outcome) =
    (written k past s).countP (fun e => P e.outcome) +
      (s.replies s').countP fun e => decide (e.call = k) && P e.outcome := by
  rw [written_cons, List.countP_append, List.countP_filter (l := s.replies s')]
  simp only [Bool.and_comm]

/-- **Along every run** nothing of a call is lost, for replies of any kind that a handler can
cause. -/
theorem Trail.balance (h : Trail past s d) (real : P (.error .dropped) = false) (k : CallId) :
    Balance k P past s := by
  induction h with
  | init => exact ⟨rfl, rfl, rfl⟩
  | next h t ih =>
    obtain ⟨n, m, p, passes⟩ := t.passes h.reachable.sound real k
    obtain ⟨placed, handles, owes⟩ := ih
    refine ⟨?_, ?_, ?_⟩
    · have now := passes.placed
      have waiting := passes.waiting
      have dropped := passes.dropped
      rw [length_begun_cons, countP_written_cons]
      omega
    · have now := passes.handles
      rw [length_begun_cons, length_ended_cons]
      omega
    · have now := passes.owes
      have pledged := passes.pledged
      rw [countP_ended_cons, countP_written_cons]
      omega

theorem countP_parts {α : Type} {p q r : α → Bool}
    (parts : ∀ x, (p x).toNat = (q x).toNat + (r x).toNat) (xs : List α) :
    xs.countP p = xs.countP q + xs.countP r := by
  induction xs with
  | nil => rfl
  | cons x xs ih =>
    rw [countP_cons_toNat, countP_cons_toNat q, countP_cons_toNat r, ih, parts]
    omega

theorem isDropped_parts (o : Except ActorError Int64) :
    (true).toNat = (isDropped o).toNat + (!isDropped o).toNat := by
  cases isDropped o <;> rfl

theorem pledged_parts (s : State) (k : CallId) :
    s.pledged k (fun _ => true) = s.pledged k isDropped + s.pledged k fun o => !isDropped o := by
  refine countP_parts (fun b => ?_) s.agenda
  cases b with
  | answer j outcome =>
    simp only [Action.answers]
    cases decide (j = k)
    · rfl
    · exact isDropped_parts outcome
  | _ => rfl

theorem owes_learnt (k : CallId) :
    Slice.owes k (fun o => !isDropped o) = Slice.owes k fun _ => true := by
  funext x
  rcases x with _ | ⟨a, handled, _ | _ | ⟨reply, result⟩⟩ <;> simp [Slice.owes]

/-- **A call that was accepted is in one place**: it waits, it is being handled, its handler has
ended, its reply is on the agenda, or the reply was written. -/
theorem Trail.places (h : Trail past s d) (k : CallId) :
    s.placed k = s.waiting k + s.sliced (Slice.handles k) + s.sliced (Slice.owes k fun _ => true) +
      s.pledged k (fun _ => true) + (written k past s).length := by
  have balance : Balance k (fun o => !isDropped o) past s := h.balance rfl k
  have placed := balance.placed
  have handles := balance.handles
  have owes := balance.owes
  have real : (ended k past s).countP (fun e => !isDropped (learnt e.result)) =
      (ended k past s).length := by
    simp [isDropped_learnt]
  have all : (written k past s).length = (written k past s).countP (fun e => isDropped e.outcome) +
      (written k past s).countP fun e => !isDropped e.outcome := by
    rw [← countP_parts (p := fun _ => true) fun e : Reply => isDropped_parts e.outcome]
    simp
  rw [owes_learnt, real] at owes
  rw [pledged_parts, all]
  omega

theorem placed_le_one (s : State) (k : CallId) : s.placed k ≤ 1 :=
  Bool.toNat_le _

/-- Only an accepted call gets a reply. -/
theorem Trail.known (h : Trail past s d) (pledged : 0 < s.pledged k fun _ => true) :
    ∃ call, s.calls.get? k = some call := by
  have places := h.places k
  cases found : s.calls.get? k with
  | none => simp [State.placed, found] at places; omega
  | some call => exact ⟨call, rfl⟩

theorem State.pledged_of_replied {e : Reply} (given : e ∈ s.replies s') (mine : e.call = k) :
    s.replies s' = [e] ∧ 0 < s.pledged k fun _ => true := by
  unfold State.replies at given ⊢
  split at given
  · rename_i j outcome rest agenda
    rw [List.mem_singleton.1 given] at mine ⊢
    refine ⟨rfl, ?_⟩
    simp [State.pledged, agenda, Action.answers, show j = k from mine]
  · cases given

/-! ### What the caller can learn -/

theorem Slot.init : Slot k [] {} :=
  rfl

/-- The caller can learn what is written, and nothing else. -/
theorem Slot.next (h : Slot k past s) (trail : Trail past s d) (t : Transition s d s' d') :
    Slot k (s :: past) s' := by
  obtain ⟨n, m, p, passes⟩ : ∃ n m p, Passes k (fun _ => false) n m p s s' :=
    t.passes trail.reachable.sound rfl k
  by_cases replied : ∀ e ∈ s.replies s', e.call ≠ k
  · have same : written k (s :: past) s' = written k past s := by
      rw [written_cons, List.filter_eq_nil_iff.2 (by simpa using replied), List.append_nil]
    have stays := passes.stays replied
    unfold Slot at h ⊢
    rw [same]
    cases found : s.calls.get? k with
    | none =>
      rw [found] at h stays
      cases found' : s'.calls.get? k with
      | none => exact h
      | some call =>
        rw [found'] at stays
        refine ⟨fun _ => stays call rfl, fun es e some => ?_⟩
        simp [h] at some
    | some call =>
      rw [found] at h stays
      obtain ⟨call', found', accepted, answered, outcome⟩ := stays
      rw [found']
      dsimp only at h ⊢
      rw [accepted, answered]
      refine ⟨fun none => ⟨(h.1 none).1, fun taken => ?_⟩, fun es e some => ⟨(h.2 es e some).1, ?_⟩⟩
      · exact outcome.elim (fun same => same.trans ((h.1 none).2 taken)) id
      · exact outcome.elim (fun same => same ▸ (h.2 es e some).2) .inr
  · obtain ⟨e, given, mine⟩ : ∃ e ∈ s.replies s', e.call = k := by
      by_contra none
      exact replied fun e he hk => none ⟨e, he, hk⟩
    have one := State.pledged_of_replied given mine
    obtain ⟨call, found⟩ := trail.known one.2
    obtain ⟨call', found', -, answered, outcome⟩ := passes.learns e given mine call found
    have more : written k (s :: past) s' = written k past s ++ [e] := by
      rw [written_cons, one.1, List.filter_cons_of_pos (by simpa using mine), List.filter_nil]
    unfold Slot
    rw [found', more]
    refine ⟨fun none => by simp at none, fun es e' last => ?_⟩
    have same : e = e' := List.singleton_inj.1 (List.append_inj_right' last rfl)
    rw [same] at outcome
    exact ⟨answered, .inl outcome⟩

theorem Trail.slot (h : Trail past s d) (k : CallId) : Slot k past s := by
  induction h with
  | init => exact .init
  | next h t ih => exact ih.next h t

/-- Only an accepted call whose caller cannot learn anything yet gets a reply. -/
theorem Trail.unheard (h : Trail past s d) {call : Call} (found : s.calls.get? k = some call)
    (pledged : 0 < s.pledged k fun _ => true) :
    call.accepted = true ∧ call.outcome = none ∧ written k past s = [] := by
  have places := h.places k
  have one := placed_le_one s k
  have slot := h.slot k
  have unwritten : written k past s = [] := List.length_eq_zero_iff.1 (by omega)
  have accepted : call.accepted = true := by
    cases taken : call.accepted with
    | true => rfl
    | false =>
      have none : s.placed k = 0 := by simp [State.placed, found, taken]
      omega
  simp only [Slot, found] at slot
  exact ⟨accepted, (slot.1 unwritten).2 accepted, unwritten⟩

/-! ### What a reply tells, and where a call without one is -/

/-- A reply that was written is the only one.  It tells that the message was dropped and was never
taken up, or it tells how the handler of the message ended, which was the only one. -/
theorem Trail.tells (h : Trail past s d) {e : Reply} (he : e ∈ written k past s) :
    written k past s = [e] ∧
      (e.outcome = .error .dropped ∧ begun k past s = [] ∧ ended k past s = [] ∨
        ∃ p v, begun k past s = [p] ∧ ended k past s = [v] ∧ e.outcome = learnt v.result) := by
  have places := h.places k
  have one := placed_le_one s k
  have some : 0 < (written k past s).length := List.length_pos_of_mem he
  have real : Balance k (fun o => !isDropped o) past s := h.balance rfl k
  have alone : written k past s = [e] := by
    obtain ⟨e', only⟩ := List.length_eq_one_iff.1 (show (written k past s).length = 1 by omega)
    rw [only] at he ⊢
    rw [List.mem_singleton.1 he]
  refine ⟨alone, ?_⟩
  have handles := real.handles
  have owes := real.owes
  have pledged := pledged_parts s k
  rw [owes_learnt, alone, countP_one] at owes
  simp only [isDropped_learnt, Bool.not_false, List.countP_true] at owes
  cases dropped : isDropped e.outcome with
  | true =>
    left
    rw [dropped] at owes
    have none : (ended k past s).length = 0 ∧ (begun k past s).length = 0 := by
      simp only [Bool.not_true, Bool.toNat_false] at owes
      omega
    refine ⟨?_, List.length_eq_zero_iff.1 none.2, List.length_eq_zero_iff.1 none.1⟩
    revert dropped
    rcases e.outcome with (_ | _ | _ | _) | _ <;> simp [isDropped]
  | false =>
    right
    rw [dropped] at owes
    have single : (ended k past s).length = 1 ∧ (begun k past s).length = 1 := by
      simp only [Bool.not_false, Bool.toNat_true] at owes
      omega
    obtain ⟨v, hv⟩ := List.length_eq_one_iff.1 single.1
    obtain ⟨p, hp⟩ := List.length_eq_one_iff.1 single.2
    refine ⟨p, v, hp, hv, ?_⟩
    -- the same account, of replies with this outcome only
    have exact_ : Balance k (fun o => decide (o = e.outcome)) past s := by
      refine h.balance ?_ k
      rw [decide_eq_false_iff_not]
      intro same
      rw [← same] at dropped
      cases dropped
    have gave := exact_.owes
    rw [alone, hv, countP_one, countP_one, decide_eq_true (rfl : e.outcome = e.outcome),
      Bool.toNat_true] at gave
    by_contra other
    rw [decide_eq_false (Ne.symm other), Bool.toNat_false] at gave
    omega

/-- A call that was accepted and got no reply waits in a mailbox or is being handled, unless its
reply is about to be given. -/
theorem Trail.somewhere (h : Trail past s d) (accepted : 0 < s.placed k)
    (unwritten : written k past s = []) (idle : s.agenda = []) :
    (∃ a, ∃ m ∈ s.mailbox a, m.reply = some k) ∨ ∃ r a handled,
      (∃ code frame, s.slice r = some (.drain a handled (.handling code frame (some k)))) ∨
        ∃ result, s.slice r = some (.drain a handled (.replying (some k) result)) := by
  have formed := h.reachable.sound.formed
  have places := h.places k
  have calm : s.pledged k (fun _ => true) = 0 := by simp [State.pledged, idle]
  rw [unwritten, calm, List.length_nil] at places
  have busy : ∀ f : Slice → Bool, 0 < s.sliced f → ∃ r x, s.slice r = some x ∧ f x = true := by
    intro f some
    obtain ⟨r, rt, found, going⟩ := Store.exists_of_tally_pos formed.distinctRuntimes some
    cases slice : rt.slice with
    | none => simp [slice] at going
    | some x =>
      refine ⟨r, x, by simp [State.slice, found, slice], ?_⟩
      cases fits : f x with
      | true => rfl
      | false => simp [slice, fits] at going
  by_cases waits : 0 < s.waiting k
  · left
    obtain ⟨a, actor, found, some⟩ := Store.exists_of_tally_pos formed.distinctActors waits
    obtain ⟨m, hm, mine⟩ := List.countP_pos_iff.1 some
    exact ⟨a, m, by simpa [State.mailbox, found] using hm, by simpa using mine⟩
  · right
    by_cases handled : 0 < s.sliced (Slice.handles k)
    · obtain ⟨r, x, during, mine⟩ := busy _ handled
      rcases x with _ | ⟨a, n, _ | ⟨code, frame, reply⟩ | _⟩ <;> simp [Slice.handles] at mine
      subst mine
      exact ⟨r, a, n, .inl ⟨code, frame, during⟩⟩
    · obtain ⟨r, x, during, mine⟩ := busy (Slice.owes k fun _ => true) (by omega)
      rcases x with _ | ⟨a, n, _ | _ | ⟨reply, result⟩⟩ <;> simp [Slice.owes] at mine
      subst mine
      exact ⟨r, a, n, .inr ⟨result, during⟩⟩

/-- **Every call that was accepted is answered exactly once.**

* It is in one place at any time: it waits, it is being handled, its handler has ended, its reply
  is on the agenda, or its reply was written.  So at most one reply is written, which is what the
  caller can learn until it takes it.
* The reply tells that the message was dropped exactly if it was never taken up, and how its
  handler ended otherwise.
* Between two things that a worker does, a call without a reply waits or is being handled.
* Once every runtime is closed and its worker was waited for, there is a reply. -/
theorem answered_once (h : Trail past s d) {call : Call} (found : s.calls.get? k = some call)
    (accepted : call.accepted = true) :
    s.waiting k + s.sliced (Slice.handles k) + s.sliced (Slice.owes k fun _ => true) +
      s.pledged k (fun _ => true) + (written k past s).length = 1 ∧
    (written k past s = [] ∧ call.answered = false ∧ call.outcome = none ∨
      ∃ e, written k past s = [e] ∧ call.answered = true ∧
        (call.outcome = some e.outcome ∨ call.outcome = none)) ∧
    (∀ e ∈ written k past s,
      e.outcome = .error .dropped ∧ begun k past s = [] ∧ ended k past s = [] ∨
        ∃ p v, begun k past s = [p] ∧ ended k past s = [v] ∧ e.outcome = learnt v.result) ∧
    (written k past s = [] → s.agenda = [] →
      (∃ a, ∃ m ∈ s.mailbox a, m.reply = some k) ∨ ∃ r a handled,
        (∃ code frame, s.slice r = some (.drain a handled (.handling code frame (some k)))) ∨
          ∃ result, s.slice r = some (.drain a handled (.replying (some k) result))) ∧
    (s.resting = true → (∀ r, d ≠ .closing r) →
      (∀ r rt, s.runtimes.get? r = some rt → rt.closed = true) →
        ∃ e, written k past s = [e]) := by
  have placed : s.placed k = 1 := by simp [State.placed, found, accepted]
  have places := h.places k
  have slot := h.slot k
  simp only [Slot, found] at slot
  have somewhere := h.somewhere (k := k) (by omega)
  have once : written k past s = [] ∨ ∃ e, written k past s = [e] := by
    cases all : written k past s with
    | nil => exact .inl rfl
    | cons e rest =>
      rw [all] at places
      have none : rest = [] :=
        List.length_eq_zero_iff.1 (by simp only [List.length_cons] at places; omega)
      exact .inr ⟨e, by rw [none]⟩
  refine ⟨by omega, ?_, fun e he => (h.tells he).2, somewhere, fun rests joined shut => ?_⟩
  · rcases once with none | ⟨e, one⟩
    · exact .inl ⟨none, (slot.1 none).1, (slot.1 none).2 accepted⟩
    · exact .inr ⟨e, one, slot.2 [] e one⟩
  · refine once.resolve_left fun none => ?_
    have idle := State.idle_of_resting rests
    have still := State.still_of_resting rests
    have closed : ∀ r, s.closed r = true := by
      intro r
      cases built : s.runtimes.get? r with
      | none => simp [State.closed, built]
      | some rt => simp [State.closed, built, shut r rt built]
    -- no worker is in a slice, and no queue is left in which one could be
    have unsliced : ∀ r, s.slice r = Option.none := fun r =>
      h.reachable.joined.unsliced still (joined r) (closed r)
    rcases somewhere none idle with ⟨a, m, mail, -⟩ | ⟨r, a, n, ⟨_, _, during⟩ | ⟨_, during⟩⟩
    · obtain ⟨r, ⟨p, running, -⟩ | ⟨n, stage, during⟩⟩ :=
        (h.reachable.expected (List.ne_nil_of_mem mail)).2 idle
      · cases (closed r).symm.trans running
      · cases (unsliced r).symm.trans during
    · cases (unsliced r).symm.trans during
    · cases (unsliced r).symm.trans during

/-! ### A call that is made too late -/

/-- The body of a task that pauses its worker, and calls an actor when it goes on. -/
def lateBody : List Line :=
  [.mk ⟨"hold", none, none, true⟩ .hold,
    .mk ⟨"call", some "mail", some "reply", true⟩
      (.call [.mk ⟨"push", none, none, true⟩ (.push 1)])]

/-- The task is held while its runtime is dropped, so it goes on and calls on a runtime that is
closed. -/
theorem trail_late : ∃ past s, Trail past s .clear ∧
    (s.calls.get? ⟨0⟩).any Call.accepted = true ∧ s.resting = true ∧
    ∀ r rt, s.runtimes.get? r = some rt → rt.closed = true := by
  have built : Trail _ _ .clear := Trail.init.next (.move rfl (.build 0 none none))
  have made := built.next (.move (by decide) (.line (show State.plain? _ { who := .main } []
    ⟨"actor", none, some "mail", true⟩ (.actor [] none) = some _ from rfl)))
  have spawning := (made.follow 1).next (.move (by decide) .shelve)
  have spawned := spawning.next (.move (by decide) (.line (show State.plain? _ { who := .main } []
    ⟨"rt_spawn", none, some "late", true⟩ (.spawnOn 0 none lateBody) = some _ from rfl)))
  have starting := (spawned.follow 1).next (.move (by decide) .shelve)
  have held := (starting.next (.move (by decide)
    (.start (show Store.get? _ 0 = some ⟨0⟩ by decide)))).follow 10
  have closed := held.next (.move (by decide +kernel)
    (.close (show Store.get? _ 0 = some ⟨0⟩ by decide +kernel)))
  have joined := ((closed.follow 5).next (.move (by decide +kernel) .join)).follow 40
  refine ⟨_, _, joined, by decide +kernel, by decide +kernel, fun r rt found => ?_⟩
  have shut := Store.of_any_eq_false (p := fun _ rt => !rt.closed) (by decide +kernel) found
  simpa using shut

/-- Its caller learns that the message was dropped. -/
theorem answered_once_late : ∃ past s call, Trail past s .clear ∧ s.calls.get? ⟨0⟩ = some call ∧
    call.accepted = true ∧ call.answered = true ∧ ∃ e, written ⟨0⟩ past s = [e] := by
  obtain ⟨past, s, h, taken, rests, shut⟩ := trail_late
  obtain ⟨call, found, accepted⟩ := (Option.any_eq_true _ _).1 taken
  obtain ⟨-, once, -, -, final⟩ := answered_once h found accepted
  obtain ⟨e, one⟩ := final rests (by simp) shut
  refine ⟨past, s, call, h, found, accepted, ?_, e, one⟩
  rcases once with ⟨none, -⟩ | ⟨-, -, answered, -⟩
  · simp [one] at none
  · exact answered

end Nursery
