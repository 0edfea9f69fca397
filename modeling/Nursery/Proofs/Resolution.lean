import Nursery.Proofs.Replies

/-!
# A call whose reply was taken

Whoever finds the reply of a call takes it, so one look at a call finds it there at most.  What a
later look finds depends on how the call was made.  A refused call knows that its outcome was
taken, and panics.  An accepted one only knows that there is no outcome, which is how it was
before the reply: it counts as pending again, and waits for a reply that nobody will give.

* `State.heard`, `heard` : the outcomes of a call that are found and taken.
* `heard_pollCall` : a look finds the outcome exactly if it takes it.
* `Call.Spent` : a call that will not get an outcome any more.
* `Trail.heard_once` : what is found is what was written, once.
* `resolved_call` : what is left of a call whose outcome was taken.
* `resolved_call_kept` : a task keeps an accepted call after it has learnt the reply.
* `pending_again` : so a call that was resolved is pending.
-/

namespace Nursery

/-- The outcome of a call that is there before a transition and not after it: somebody has looked,
has found it, and has taken it. -/
def State.heard (k : CallId) (s s' : State) : List (Except ActorError Int64) :=
  match (s.calls.get? k).bind Call.outcome, (s'.calls.get? k).bind Call.outcome with
  | some outcome, none => [outcome]
  | _, _ => []

/-- The outcomes of a call that were found by those who looked. -/
def heard (k : CallId) (past : List State) (s : State) : List (Except ActorError Int64) :=
  gather (State.heard k) s past

/-- There is no outcome, and none is to come: the call was refused, or its reply was given. -/
structure Call.Spent (call : Call) : Prop where
  /-- There is none. -/
  outcome : call.outcome = none
  /-- An accepted call got its reply. -/
  answered : call.accepted = true → call.answered = true

/-- What was found of a call and what can still be found is what was written; of a refused call it
is one thing at most. -/
def Shown (k : CallId) (past : List State) (s : State) : Prop :=
  match s.calls.get? k with
  | none => heard k past s = []
  | some call => (heard k past s ++ call.outcome.toList).length ≤ 1 ∧
    (call.accepted = true →
      heard k past s ++ call.outcome.toList = (written k past s).map Reply.outcome)

variable {s s' : State} {d d' : Desk} {past : List State} {k : CallId} {t : TaskId} {call : Call}
  {P : Except ActorError Int64 → Bool} {n m p : Nat}

/-! ### Looking -/

/-- A look at a call finds the outcome exactly if it takes it. -/
theorem heard_pollCall (s : State) (k : CallId) (t : TaskId) :
    State.heard k s (s.pollCall k t).1 =
      match (s.pollCall k t).2 with
      | .ready outcome => [outcome]
      | _ => [] := by
  unfold State.pollCall
  split
  · rename_i missing
    simp [State.heard, missing]
  · rename_i call found
    split
    · rename_i outcome there
      simp [State.heard, State.modifyCall, Store.get?_modify_self, found, there]
    · rename_i none
      split <;> simp [State.heard, found, none]

/-- A look at a refused call whose outcome was taken panics and changes nothing. -/
theorem Call.Spent.pollCall_refused (spent : call.Spent) (found : s.calls.get? k = some call)
    (refused : call.accepted = false) (t : TaskId) :
    s.pollCall k t = (s, .panics "actor call polled after completion") := by
  simp [State.pollCall, found, spent.outcome, refused]

/-- A look at an accepted one finds nothing. -/
theorem Call.Spent.pollCall_accepted (spent : call.Spent) (found : s.calls.get? k = some call)
    (accepted : call.accepted = true) (t : TaskId) : (s.pollCall k t).2 = .pending := by
  simp [State.pollCall, found, spent.outcome, accepted]

/-- Whoever waits for it goes on waiting. -/
theorem Call.Spent.poll_suspends (spent : call.Spent) (found : s.calls.get? k = some call)
    (accepted : call.accepted = true) (t : TaskId) (f : Fiber) (tag : Tag) (attempt : Attempt)
    (taken : Bool) : (s.poll t f ⟨tag, attempt, .awaiting (.call k) taken⟩).flow = .suspend := by
  have pending := spent.pollCall_accepted found accepted t
  rw [State.poll]
  unfold State.awaitResource State.pollResource
  rcases look : s.pollCall k t with ⟨s', polled⟩
  rw [look] at pending
  cases pending
  simp only [State.suspends, look]

/-- The written form of a call without an outcome shows whether it was accepted. -/
theorem Call.Spent.describe (spent : call.Spent) (found : s.calls.get? k = some call) :
    s.describeCall k = "ActorCall \x7b pending: " ++ toString call.accepted ++ " \x7d" := by
  have pending : s.callPending k = call.accepted := by
    simp [State.callPending, found, spent.outcome]
  exact congrArg (fun b : Bool => "ActorCall \x7b pending: " ++ toString b ++ " \x7d") pending

/-! ### Along a run -/

theorem heard_cons : heard k (s :: past) s' = heard k past s ++ State.heard k s s' :=
  rfl

theorem heard_of_stays {call call' : Call} (found : s.calls.get? k = some call)
    (found' : s'.calls.get? k = some call')
    (outcome : call'.outcome = call.outcome ∨ call'.outcome = none) :
    State.heard k s s' ++ call'.outcome.toList = call.outcome.toList := by
  rcases outcome with same | none
  · cases was : call.outcome <;> simp [State.heard, found, found', same, was]
  · cases was : call.outcome <;> simp [State.heard, found, found', none, was]

/-- A transition shows what it writes, once. -/
theorem Shown.next (h : Shown k past s) (trail : Trail past s d) (t : Transition s d s' d') :
    Shown k (s :: past) s' := by
  obtain ⟨n, m, p, passes⟩ : ∃ n m p, Passes k (fun _ => false) n m p s s' :=
    t.passes trail.reachable.sound rfl k
  unfold Shown at h ⊢
  by_cases replied : ∀ e ∈ s.replies s', e.call ≠ k
  · -- without a reply the outcome stays, or is taken
    have same : written k (s :: past) s' = written k past s := by
      rw [written_cons, List.filter_eq_nil_iff.2 (by simpa using replied), List.append_nil]
    have stays := passes.stays replied
    rw [same, heard_cons]
    cases found : s.calls.get? k with
    | none =>
      rw [found] at h stays
      have nothing : State.heard k s s' = [] := by simp [State.heard, found]
      have slot := trail.slot k
      simp only [Slot, found] at slot
      rw [h, nothing, slot]
      cases found' : s'.calls.get? k with
      | none => rfl
      | some call' =>
        obtain ⟨-, open_⟩ := stays call' found'
        refine ⟨?_, fun accepted => by simp [open_ accepted]⟩
        cases call'.outcome <;> simp
    | some call =>
      rw [found] at h stays
      obtain ⟨call', found', accepted, -, outcome⟩ := stays
      rw [found']
      dsimp only at h ⊢
      rw [List.append_assoc, heard_of_stays found found' outcome, accepted]
      exact h
  · -- the reply is the only one, and nothing was found before
    obtain ⟨e, given, mine⟩ : ∃ e ∈ s.replies s', e.call = k := by
      by_contra none
      exact replied fun e he hk => none ⟨e, he, hk⟩
    obtain ⟨only, pledged⟩ := State.pledged_of_replied given mine
    obtain ⟨call, found⟩ := trail.known pledged
    obtain ⟨taken, open_, unwritten⟩ := trail.unheard found pledged
    obtain ⟨call', found', accepted, -, outcome⟩ := passes.learns e given mine call found
    rw [found] at h
    obtain ⟨-, all⟩ := h
    have before : heard k past s = [] := by simpa [open_, unwritten] using all taken
    have nothing : State.heard k s s' = [] := by simp [State.heard, found, open_]
    have more : written k (s :: past) s' = [e] := by
      rw [written_cons, only, unwritten, List.filter_cons_of_pos (by simpa using mine),
        List.filter_nil, List.nil_append]
    rw [found', heard_cons, before, nothing, more]
    simp [outcome]

theorem Trail.shown (h : Trail past s d) (k : CallId) : Shown k past s := by
  induction h with
  | init => exact (rfl : heard k [] {} = [])
  | next h t ih => exact ih.next h t

/-- The outcome of a call is found once at most: what was written, if the call was accepted. -/
theorem Trail.heard_once (h : Trail past s d) (found : s.calls.get? k = some call)
    (ready : heard k past s ≠ []) : ∃ outcome, heard k past s = [outcome] ∧ call.Spent ∧
      (call.accepted = true → ∃ e, written k past s = [e] ∧ e.outcome = outcome) := by
  have shown := h.shown k
  have slot := h.slot k
  simp only [Shown, Slot, found] at shown slot
  obtain ⟨short, all⟩ := shown
  obtain ⟨outcome, rest, first⟩ := List.exists_cons_of_ne_nil ready
  rw [first] at short all ⊢
  simp only [List.length_append, List.length_cons] at short
  have alone : rest = [] := List.length_eq_zero_iff.1 (by omega)
  have none : call.outcome = none := by
    cases left : call.outcome with
    | none => rfl
    | some o =>
      simp only [left, Option.toList_some, List.length_singleton] at short
      omega
  subst alone
  have wrote : call.accepted = true → ∃ e, written k past s = [e] ∧ e.outcome = outcome := by
    intro accepted
    have account := all accepted
    rw [none, Option.toList_none, List.append_nil] at account
    obtain ⟨e, one, same⟩ := List.map_eq_singleton_iff.1 account.symm
    exact ⟨e, one, same⟩
  refine ⟨outcome, rfl, ⟨none, fun accepted => ?_⟩, wrote⟩
  obtain ⟨e, one, -⟩ := wrote accepted
  exact (slot.2 [] e one).1

/-- A call that will not get an outcome any more goes on so. -/
theorem Call.Spent.lasts (h : Reachable s d) (l : Leads s d s' d')
    (found : s.calls.get? k = some call) (spent : call.Spent) :
    ∃ call', s'.calls.get? k = some call' ∧ call'.accepted = call.accepted ∧ call'.Spent := by
  induction l with
  | refl => exact ⟨call, found, rfl, spent⟩
  | @next s₁ s₂ d₁ d₂ l t ih =>
    obtain ⟨call₁, found₁, same, spent₁⟩ := ih
    have reachable := h.leads l
    obtain ⟨past, trail⟩ := reachable.trail
    obtain ⟨n, m, p, passes⟩ : ∃ n m p, Passes k (fun _ => false) n m p s₁ s₂ :=
      t.passes reachable.sound rfl k
    have replied : ∀ e ∈ s₁.replies s₂, e.call ≠ k := by
      intro e given mine
      -- a reply that is on its way has not been written, so the call was not answered
      obtain ⟨accepted, -, unwritten⟩ :=
        trail.unheard found₁ (State.pledged_of_replied given mine).2
      have slot := trail.slot k
      simp only [Slot, found₁] at slot
      cases (spent₁.answered accepted).symm.trans (slot.1 unwritten).1
    have stays := passes.stays replied
    rw [found₁] at stays
    obtain ⟨call₂, found₂, accepted, answered, outcome⟩ := stays
    refine ⟨call₂, found₂, accepted.trans same, ?_, fun taken => ?_⟩
    · exact outcome.elim (fun kept => kept.trans spent₁.outcome) id
    · rw [answered]
      exact spent₁.answered (accepted ▸ taken)

/-- **What is left of a call whose outcome was taken.**  One look found it: what was written, if
the call was accepted.  From then on

* a refused call is not pending, and every look at it panics;
* an accepted call is pending as it was before its reply, and no reply is on its way any more: it
  waits nowhere, no handler of it is at work, and none is about to be written.  So in whatever
  follows every look at it finds nothing, and a task that waits for it is suspended again at every
  look. -/
theorem resolved_call (h : Trail past s d) (found : s.calls.get? k = some call)
    (ready : heard k past s ≠ []) :
    (∃ outcome, heard k past s = [outcome] ∧
      (call.accepted = true → ∃ e, written k past s = [e] ∧ e.outcome = outcome)) ∧
    (call.accepted = false → ∀ s' d', Leads s d s' d' →
      s'.describeCall k = "ActorCall \x7b pending: false \x7d" ∧
      ∀ t, s'.pollCall k t = (s', .panics "actor call polled after completion")) ∧
    (call.accepted = true →
      s.waiting k + s.sliced (Slice.handles k) + s.sliced (Slice.owes k fun _ => true) +
        s.pledged k (fun _ => true) = 0 ∧
      ∀ s' d', Leads s d s' d' →
        s'.describeCall k = "ActorCall \x7b pending: true \x7d" ∧
        (∀ t, (s'.pollCall k t).2 = .pending) ∧
        ∀ t f tag attempt taken,
          (s'.poll t f ⟨tag, attempt, .awaiting (.call k) taken⟩).flow = .suspend) := by
  obtain ⟨outcome, once, spent, wrote⟩ := h.heard_once found ready
  refine ⟨⟨outcome, once, wrote⟩, fun refused s' d' l => ?_,
    fun accepted => ⟨?_, fun s' d' l => ?_⟩⟩
  · obtain ⟨call', found', same, spent'⟩ := spent.lasts h.reachable l found
    rw [refused] at same
    exact ⟨by rw [spent'.describe found', same]; rfl, spent'.pollCall_refused found' same⟩
  · have places := h.places k
    have one := placed_le_one s k
    obtain ⟨e, written_, -⟩ := wrote accepted
    rw [written_, List.length_singleton] at places
    omega
  · obtain ⟨call', found', same, spent'⟩ := spent.lasts h.reachable l found
    rw [accepted] at same
    exact ⟨by rw [spent'.describe found', same]; rfl, spent'.pollCall_accepted found' same,
      fun t f tag attempt taken => spent'.poll_suspends found' same t f tag attempt taken⟩

/-! ### A call that is kept -/

/-- The body of a task that calls an actor, learns the reply, and waits for the same call again. -/
def askingBody : List Line :=
  [.mk ⟨"call", some "mail", some "reply", true⟩ (.call [.mk ⟨"push", none, none, true⟩ (.push 1)]),
    .mk ⟨"await", some "reply", none, true⟩ (.await true .report),
    .mk ⟨"await", some "reply", none, true⟩ (.await true .report)]

theorem trail_asking : ∃ past s, Trail past s .clear ∧ (s.calls.get? ⟨0⟩).any Call.accepted = true ∧
    (heard ⟨0⟩ past s).isEmpty = false ∧ s.resting = true ∧ s.phase ⟨0⟩ = .suspended := by
  have built : Trail _ _ .clear := Trail.init.next (.move rfl (.build 0 none none))
  have made := built.next (.move (by decide) (.line (show State.plain? _ { who := .main } []
    ⟨"actor", none, some "mail", true⟩ (.actor [] none) = some _ from rfl)))
  have spawning := (made.follow 1).next (.move (by decide) .shelve)
  have spawned := spawning.next (.move (by decide) (.line (show State.plain? _ { who := .main } []
    ⟨"rt_spawn", none, some "asker", true⟩ (.spawnOn 0 none askingBody) = some _ from rfl)))
  have starting := (spawned.follow 1).next (.move (by decide) .shelve)
  have asked := (starting.next (.move (by decide)
    (.start (show Store.get? _ 0 = some ⟨0⟩ by decide)))).follow 30
  exact ⟨_, _, asked, by decide +kernel, by decide +kernel, by decide +kernel, by decide +kernel⟩

/-- The call that was resolved is pending, and goes on so. -/
theorem resolved_call_kept : ∃ past s call, Trail past s .clear ∧ s.calls.get? ⟨0⟩ = some call ∧
    call.accepted = true ∧ heard ⟨0⟩ past s ≠ [] ∧
    ∀ s' d', Leads s .clear s' d' → s'.describeCall ⟨0⟩ = "ActorCall \x7b pending: true \x7d" := by
  obtain ⟨past, s, h, taken, learnt, -⟩ := trail_asking
  obtain ⟨call, found, accepted⟩ := (Option.any_eq_true _ _).1 taken
  have ready : heard ⟨0⟩ past s ≠ [] := fun none => by simp [none] at learnt
  exact ⟨past, s, call, h, found, accepted, ready, fun s' d' l =>
    (((resolved_call h found ready).2.2 accepted).2 s' d' l).1⟩

/-- **A call does not stay resolved**: there is a call of which a look has found the outcome, that
does not show so, and that a later look finds pending instead of panicking. -/
theorem pending_again : ¬ ∀ past s d k call, Trail past s d → s.calls.get? k = some call →
    heard k past s ≠ [] → s.describeCall k = "ActorCall \x7b pending: false \x7d" ∧
      ∀ t, (s.pollCall k t).2 = .panics "actor call polled after completion" := by
  intro stays
  obtain ⟨past, s, h, taken, learnt, -⟩ := trail_asking
  obtain ⟨call, found, accepted⟩ := (Option.any_eq_true _ _).1 taken
  have ready : heard ⟨0⟩ past s ≠ [] := fun none => by simp [none] at learnt
  obtain ⟨-, -, spent, -⟩ := h.heard_once found ready
  have panics := (stays past s _ _ call h found ready).2 ⟨0⟩
  rw [spent.pollCall_accepted found accepted] at panics
  cases panics

end Nursery
