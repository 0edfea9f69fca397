import Nursery.Proofs.Trail

/-!
# The way of a call

A call that was accepted is a message in a mailbox, then a handler in progress, then a reply to be
given, then a reply on the agenda; or it goes from the mailbox to the agenda at once, when the
messages of its actor are dropped.  At each of these places the calls are counted, and `Passes`
says for every transition what leaves one place and gets to the next.

* `State.placed`, `State.waiting`, `State.sliced`, `State.pledged` : the places.
* `Adds` : what a line does: it may accept calls, and nothing else.
* `Passes` : what a transition does.
* `Transition.passes` : it does nothing else.
-/

namespace Nursery

/-- What a caller can learn of the result of a handler. -/
def learnt (result : Except String Int64) : Except ActorError Int64 :=
  result.mapError .handlerPanicked

/-- The outcome tells that the message was dropped. -/
def isDropped : Except ActorError Int64 → Bool
  | .error .dropped => true
  | _ => false

@[simp]
theorem isDropped_learnt (result : Except String Int64) : isDropped (learnt result) = false := by
  cases result <;> rfl

/-- The slice is in the handler of a call. -/
def Slice.handles (k : CallId) : Slice → Bool
  | .drain _ _ (.handling _ _ reply) => decide (reply = some k)
  | _ => false

/-- The slice has come to the end of the handler of a call, with an outcome of some kind. -/
def Slice.owes (k : CallId) (P : Except ActorError Int64 → Bool) : Slice → Bool
  | .drain _ _ (.replying reply result) => decide (reply = some k) && P (learnt result)
  | _ => false

/-- The item gives a call an outcome of some kind. -/
def Action.answers (k : CallId) (P : Except ActorError Int64 → Bool) : Action → Bool
  | .answer j outcome => decide (j = k) && P outcome
  | _ => false

/-- The item gives a call its reply. -/
def Action.isAnswer : Action → Bool
  | .answer .. => true
  | _ => false

/-- What becomes of a call that gets no reply: its reply may be taken, and a new call has none. -/
def Call.Stays (before after : Option Call) : Prop :=
  match before with
  | none => ∀ c', after = some c' → c'.answered = false ∧ (c'.accepted = true → c'.outcome = none)
  | some c => ∃ c', after = some c' ∧ c'.accepted = c.accepted ∧ c'.answered = c.answered ∧
    (c'.outcome = c.outcome ∨ c'.outcome = none)

namespace State

/-- The call was accepted, as a number. -/
def placed (s : State) (k : CallId) : Nat :=
  ((s.calls.get? k).any Call.accepted).toNat

/-- How many messages of a call wait in the mailboxes. -/
def waiting (s : State) (k : CallId) : Nat :=
  s.actors.tally fun _ actor => actor.mailbox.countP fun m => decide (m.reply = some k)

/-- How many workers are in slices of a kind. -/
def sliced (s : State) (f : Slice → Bool) : Nat :=
  s.runtimes.tally fun _ rt => (rt.slice.any f).toNat

/-- How often an outcome of some kind is about to be given to a call. -/
def pledged (s : State) (k : CallId) (P : Except ActorError Int64 → Bool) : Nat :=
  s.agenda.countP (Action.answers k P)

end State

/-- A line accepts a call a number of times, which puts it into a mailbox, and does nothing else to
it. -/
structure Adds (k : CallId) (n : Nat) (s s' : State) : Prop where
  /-- The call is accepted. -/
  placed : s'.placed k = s.placed k + n
  /-- It waits. -/
  waiting : s'.waiting k = s.waiting k + n
  /-- No worker moves. -/
  sliced : ∀ f, s'.sliced f = s.sliced f
  /-- Nor does this or that worker. -/
  slice : ∀ r, s'.slice r = s.slice r
  /-- No reply is about to be given. -/
  pledged : ∀ P, s'.pledged k P = s.pledged k P
  /-- The call gets no reply. -/
  stays : Call.Stays (s.calls.get? k) (s'.calls.get? k)

/-- What a transition does to a call: `n` times it is accepted, `m` times its message is dropped,
and `p` times a reply of some kind goes onto the agenda. -/
structure Passes (k : CallId) (P : Except ActorError Int64 → Bool) (n m p : Nat) (s s' : State) :
    Prop where
  /-- The call is accepted. -/
  placed : s'.placed k = s.placed k + n
  /-- It enters a mailbox, and leaves it when it is taken up or dropped. -/
  waiting : s'.waiting k + (s.pickups s').countP (fun e => decide (e.message.reply = some k)) + m =
    s.waiting k + n
  /-- It is handled, until the handler ends. -/
  handles : s'.sliced (Slice.handles k) +
      (s.verdicts s').countP (fun e => decide (e.reply = some k)) =
    s.sliced (Slice.handles k) +
      (s.pickups s').countP fun e => decide (e.message.reply = some k)
  /-- A handler that has ended owes it the reply. -/
  owes : s'.sliced (Slice.owes k P) + p = s.sliced (Slice.owes k P) +
    (s.verdicts s').countP fun e => decide (e.reply = some k) && P (learnt e.result)
  /-- The reply of a handler goes onto the agenda and is written. -/
  pledged : s'.pledged k P + (s.replies s').countP (fun e => decide (e.call = k) && P e.outcome) =
    s.pledged k P + p
  /-- So does that of a message that is dropped. -/
  dropped : s'.pledged k isDropped +
      (s.replies s').countP (fun e => decide (e.call = k) && isDropped e.outcome) =
    s.pledged k isDropped + m
  /-- Without a reply the call stays. -/
  stays : (∀ e ∈ s.replies s', e.call ≠ k) → Call.Stays (s.calls.get? k) (s'.calls.get? k)
  /-- A reply is kept in the call. -/
  learns : ∀ e ∈ s.replies s', e.call = k → ∀ c, s.calls.get? k = some c →
    ∃ c', s'.calls.get? k = some c' ∧ c'.accepted = c.accepted ∧ c'.answered = true ∧
      c'.outcome = some e.outcome

variable {s s' s'' x : State} {d d' : Desk} {c : Context} {hand hand' : List Resource}
  {home : RuntimeId} {goal : Goal} {a : Action} {k : CallId} {n : Nat}
  {P : Except ActorError Int64 → Bool} {f : Slice → Bool}

/-! ### The places -/

theorem countP_cons_toNat {α : Type} (p : α → Bool) (y : α) (ys : List α) :
    (y :: ys).countP p = ys.countP p + (p y).toNat := by
  rw [List.countP_cons]
  cases p y <;> rfl

theorem countP_one {α : Type} (p : α → Bool) (y : α) : [y].countP p = (p y).toNat := by
  rw [countP_cons_toNat, List.countP_nil, Nat.zero_add]

theorem Action.answers_eq_false {b : Action} (calm : b.isAnswer = false) :
    b.answers k P = false := by
  cases b with
  | answer => cases calm
  | _ => rfl

theorem countP_answers {as : List Action} (calm : ∀ b ∈ as, b.isAnswer = false) :
    as.countP (Action.answers k P) = 0 :=
  List.countP_eq_zero.2 fun b hb => by simp [Action.answers_eq_false (calm b hb)]

theorem Call.Stays.refl (call : Option Call) : Call.Stays call call := by
  cases call with
  | none => rintro c' ⟨⟩
  | some call => exact ⟨call, rfl, rfl, rfl, .inl rfl⟩

theorem Call.Stays.trans {x y z : Option Call} (h : Call.Stays x y) (h' : Call.Stays y z) :
    Call.Stays x z := by
  cases x with
  | none =>
    cases y with
    | none => exact h'
    | some c =>
      obtain ⟨c', rfl, accepted, answered, outcome⟩ := h'
      rintro c'' ⟨⟩
      obtain ⟨unanswered, open_⟩ := h c rfl
      refine ⟨answered.trans unanswered, fun taken => ?_⟩
      exact outcome.elim (fun same => same.trans (open_ (accepted.symm.trans taken))) id
  | some c =>
    obtain ⟨c', rfl, accepted, answered, outcome⟩ := h
    obtain ⟨c'', rfl, accepted', answered', outcome'⟩ := h'
    refine ⟨c'', rfl, accepted'.trans accepted, answered'.trans answered, ?_⟩
    rcases outcome' with same | taken
    · exact outcome.imp same.trans same.trans
    · exact .inr taken

namespace State

theorem sliced_modifyRuntime (distinct : s.runtimes.Distinct) {g : Runtime → Runtime}
    (same : ∀ rt, (g rt).slice = rt.slice) : (s.modifyRuntime home g).sliced f = s.sliced f :=
  Store.tally_modify_same (fun rt _ => by rw [same]) distinct

theorem sliced_enqueue (distinct : s.runtimes.Distinct) (p : Priority) (e : Entry) :
    (s.enqueue home p e).sliced f = s.sliced f := by
  unfold enqueue
  split
  · rfl
  · exact sliced_modifyRuntime distinct fun _ => rfl

theorem sliced_setSlice (distinct : s.runtimes.Distinct) {rt : Runtime}
    (found : s.runtimes.get? home = some rt) (y : Option Slice) :
    (s.setSlice home y).sliced f + (rt.slice.any f).toNat = s.sliced f + (y.any f).toNat :=
  Store.tally_modify distinct found

theorem pledged_enqueue (p : Priority) (e : Entry) :
    (s.enqueue home p e).pledged k P = s.pledged k P := by
  unfold enqueue
  split
  · simp [pledged, doFirst, Action.answers]
  · rfl

theorem waiting_modifyActor (formed : Formed s) {b : ActorId} {g : Actor → Actor}
    (same : ∀ m, (g m).mailbox = m.mailbox) : (s.modifyActor b g).waiting k = s.waiting k :=
  Store.tally_modify_same (fun m _ => by rw [same]) formed.distinctActors

end State

namespace Adds

theorem refl (s : State) : Adds k 0 s s where
  placed := rfl
  waiting := rfl
  sliced _ := rfl
  slice _ := rfl
  pledged _ := rfl
  stays := .refl _

theorem trans {m : Nat} (h : Adds k n s s') (h' : Adds k m s' s'') : Adds k (n + m) s s'' where
  placed := by rw [h'.placed, h.placed, Nat.add_assoc]
  waiting := by rw [h'.waiting, h.waiting, Nat.add_assoc]
  sliced f := (h'.sliced f).trans (h.sliced f)
  slice r := (h'.slice r).trans (h.slice r)
  pledged P := (h'.pledged P).trans (h.pledged P)
  stays := h.stays.trans h'.stays

theorem of_eq (calls : s'.calls = s.calls) (actors : s'.actors = s.actors)
    (runtimes : s'.runtimes = s.runtimes) (agenda : s'.agenda = s.agenda) : Adds k 0 s s' where
  placed := by simp only [State.placed, calls, Nat.add_zero]
  waiting := by simp only [State.waiting, actors, Nat.add_zero]
  sliced f := by simp only [State.sliced, runtimes]
  slice r := by simp only [State.slice, runtimes]
  pledged P := by simp only [State.pledged, agenda]
  stays := by
    rw [calls]
    exact .refl _

theorem alike (h : Adds k n s s') (calls : s''.calls = s'.calls) (actors : s''.actors = s'.actors)
    (runtimes : s''.runtimes = s'.runtimes) (agenda : s''.agenda = s'.agenda) : Adds k n s s'' :=
  h.trans (of_eq calls actors runtimes agenda)

theorem doFirst {as : List Action} (h : Adds k n s s') (calm : ∀ b ∈ as, b.isAnswer = false) :
    Adds k n s (s'.doFirst as) :=
  { h with
    pledged := fun P => by
      rw [← h.pledged P, State.pledged, State.doFirst, List.countP_append, countP_answers calm,
        Nat.zero_add]
      rfl }

theorem doLast {as : List Action} (h : Adds k n s s') (calm : ∀ b ∈ as, b.isAnswer = false) :
    Adds k n s (s'.doLast as) :=
  { h with
    pledged := fun P => by
      rw [← h.pledged P, State.pledged, State.doLast, List.countP_append, countP_answers calm,
        Nat.add_zero]
      rfl }

theorem enqueue (h : Adds k n s s') (distinct : s'.runtimes.Distinct) (r : RuntimeId)
    (p : Priority) (e : Entry) : Adds k n s (s'.enqueue r p e) := by
  obtain ⟨runtimes, agenda, eq⟩ := s'.enqueue_eq r p e
  exact {
    placed := by
      rw [← h.placed, eq]
      rfl
    waiting := by
      rw [← h.waiting, eq]
      rfl
    sliced := fun f => (State.sliced_enqueue distinct p e).trans (h.sliced f)
    slice := fun r' => (Effect.slice_enqueue r p e r').trans (h.slice r')
    pledged := fun P => (State.pledged_enqueue p e).trans (h.pledged P)
    stays := by
      rw [eq]
      exact h.stays }

theorem modifyRuntime (h : Adds k n s s') (distinct : s'.runtimes.Distinct) (r : RuntimeId)
    {g : Runtime → Runtime} (same : ∀ rt, (g rt).slice = rt.slice) :
    Adds k n s (s'.modifyRuntime r g) :=
  { h with
    sliced := fun f => (State.sliced_modifyRuntime distinct same).trans (h.sliced f)
    slice := fun r' => (State.slice_modifyRuntime_same r same).trans (h.slice r') }

theorem modifyActor (h : Adds k n s s') (formed : Formed s') (b : ActorId) {g : Actor → Actor}
    (same : ∀ m, (g m).mailbox = m.mailbox) : Adds k n s (s'.modifyActor b g) :=
  { h with waiting := (State.waiting_modifyActor formed same).trans h.waiting }

theorem modifyCall (h : Adds k n s s') (j : CallId) {g : Call → Call}
    (accepted : ∀ m, (g m).accepted = m.accepted) (answered : ∀ m, (g m).answered = m.answered)
    (outcome : ∀ m, (g m).outcome = m.outcome ∨ (g m).outcome = none) :
    Adds k n s (s'.modifyCall j g) := by
  have step : Call.Stays (s'.calls.get? k) ((s'.modifyCall j g).calls.get? k) := by
    by_cases hj : j = k
    · subst hj
      simp only [State.modifyCall, Store.get?_modify_self]
      cases s'.calls.get? j with
      | none => rintro c' ⟨⟩
      | some m => exact ⟨g m, rfl, accepted m, answered m, outcome m⟩
    · simp only [State.modifyCall, Store.get?_modify_of_ne hj]
      exact .refl _
  have placed : (s'.modifyCall j g).placed k = s'.placed k := by
    simp only [State.placed, State.modifyCall, Store.get?_modify]
    split
    · cases s'.calls.get? k with
      | none => rfl
      | some m => exact congrArg Bool.toNat (accepted m)
    · rfl
  exact { h with placed := placed.trans h.placed, stays := h.stays.trans step }

theorem post (formed : Formed x) (actors : x.actors = s.actors) (runtimes : x.runtimes = s.runtimes)
    (agenda : x.agenda = s.agenda) {b : ActorId} {m : Message}
    (known : m.reply = none ∨ ∃ actor, x.actors.get? b = some actor)
    (placed : x.placed k = s.placed k + (decide (m.reply = some k)).toNat)
    (stays : Call.Stays (s.calls.get? k) (x.calls.get? k)) (r : RuntimeId) :
    Adds k (decide (m.reply = some k)).toNat s (x.post b r m) := by
  unfold State.post
  -- a message without a call may get lost; one with a call is for an actor that is known
  cases found : x.actors.get? b with
  | none =>
    have silent : m.reply = none := known.resolve_right fun h => by
      obtain ⟨actor, h⟩ := h
      cases found.symm.trans h
    have same : Adds k 0 s x := {
      placed := by simpa [silent] using placed
      waiting := by simp only [State.waiting, actors, Nat.add_zero]
      sliced := fun f => by simp only [State.sliced, runtimes]
      slice := fun r => by simp only [State.slice, runtimes]
      pledged := fun P => by simp only [State.pledged, agenda]
      stays := stays }
    simpa [silent] using same
  | some actor =>
    have posted : Adds k (decide (m.reply = some k)).toNat s (x.modifyActor b fun n =>
        { n with mailbox := n.mailbox ++ [m], scheduled := true }) := {
      placed := placed
      waiting := by
        have moved := Store.tally_modify
          (w := fun _ (n : Actor) => n.mailbox.countP fun m => decide (m.reply = some k))
          (f := fun n => { n with mailbox := n.mailbox ++ [m], scheduled := true })
          formed.distinctActors found
        have was : s.waiting k = x.waiting k := by rw [State.waiting, State.waiting, actors]
        rw [List.countP_append, countP_one] at moved
        rw [was]
        change Store.tally _ (x.actors.modify b _) = Store.tally _ x.actors + _
        omega
      sliced := fun f => by simp only [State.sliced, State.modifyActor, runtimes]
      slice := fun r => by simp only [State.slice, State.modifyActor, runtimes]
      pledged := fun P => by simp only [State.pledged, State.modifyActor, agenda]
      stays := stays }
    dsimp only
    split
    · exact posted
    · exact posted.enqueue formed.distinctRuntimes r _ _

theorem launch (formed : Formed s) (nodes : Store TaskId Node) (tasks : Store TaskId Task)
    (groups : Store TaskId Group) (trace : Array Event) (p : Priority) (t : TaskId) :
    Adds k 0 s ({ s with nodes := nodes, tasks := tasks, groups := groups, trace := trace }.enqueue
      home p (.task t)) := by
  have same : Adds k 0 s
      { s with nodes := nodes, tasks := tasks, groups := groups, trace := trace } :=
    of_eq rfl rfl rfl rfl
  exact same.enqueue formed.distinctRuntimes home p _

theorem stays_setCall (formed : Formed s) {call : Call} (new : call.answered = false)
    (open_ : call.accepted = true → call.outcome = none) :
    Call.Stays (s.calls.get? k) ((s.calls.set s.nextCall call).get? k) := by
  by_cases hk : s.nextCall = k
  · subst hk
    rw [formed.fresh_call, Store.get?_set_self]
    rintro c' ⟨⟩
    exact ⟨new, open_⟩
  · rw [Store.get?_set_of_ne hk]
    exact .refl _

theorem change (formed : Formed s) (hc : Change c s hand s' hand') :
    ∃ n, Adds k n s s' := by
  -- only a new call is a new place
  cases hc with
  | tell | shed | nameTask | adopt | share | register | take | draw | fail =>
    exact ⟨0, of_eq rfl rfl rfl rfl⟩
  | @spawn home parent priority body =>
    obtain ⟨nodes, trace, -, eq⟩ :=
      State.launch_addNode_eq formed.nodes priority parent home body false
    rw [eq]
    exact ⟨0, launch formed _ _ s.groups _ _ _⟩
  | group =>
    obtain ⟨nodes, trace, priority, -, eq⟩ := State.makeGroup_eq formed.nodes c _
    rw [eq]
    exact ⟨0, of_eq rfl rfl rfl rfl⟩
  | @add g group priority body =>
    obtain ⟨nodes, trace, p, -, eq⟩ :=
      State.addChild_eq formed.nodes formed.fresh_task g group priority body
    rw [eq]
    exact ⟨0, launch formed _ _ _ _ _ _⟩
  | actor name priority init =>
    refine ⟨0, { (of_eq rfl rfl rfl rfl : Adds k 0 s s) with waiting := ?_ }⟩
    have fresh := formed.actors.fresh (k := ⟨s.actors.size⟩) rfl
    exact Store.tally_set_fresh fresh
  | @call b home handler idle here other named =>
    obtain ⟨name, named⟩ := named
    refine ⟨_, post (s := s) (formed.setCall _) rfl rfl rfl (.inr (formed.named name b named)) ?_
      (stays_setCall formed rfl fun _ => rfl) home⟩
    by_cases hk : s.nextCall = k
    · subst hk
      simp [State.placed, Store.get?_set_self, formed.fresh_call]
    · simp [State.placed, Store.get?_set_of_ne hk, hk]
  | refuse e =>
    refine ⟨0, { (of_eq rfl rfl rfl rfl : Adds k 0 s s) with
      placed := ?_
      stays := stays_setCall formed rfl fun taken => by cases taken }⟩
    by_cases hk : s.nextCall = k
    · subst hk
      simp [State.placed, State.refuse, Store.get?_set_self, formed.fresh_call]
    · simp [State.placed, State.refuse, Store.get?_set_of_ne hk]
  | @send b home handler =>
    exact ⟨_, post (s := s) formed rfl rfl rfl (.inl rfl) (by simp) (.refl _) home⟩
  | learn =>
    exact ⟨0, (refl s).modifyCall _ (fun _ => rfl) (fun _ => rfl) fun _ => .inr rfl⟩
  | expect =>
    refine ⟨0, doFirst ((refl s).modifyCall _ ?_ ?_ ?_) (by simp [Action.isAnswer])⟩
    · exact fun _ => rfl
    · exact fun _ => rfl
    · exact fun _ => .inl rfl
  | listen =>
    refine ⟨0, doFirst ?_ (by simp [Action.isAnswer])⟩
    exact of_eq rfl rfl rfl rfl
  | park =>
    refine ⟨0, doLast ?_ (by simp [Action.isAnswer])⟩
    exact of_eq rfl rfl rfl rfl
  | state => exact ⟨0, (refl s).modifyActor formed _ fun _ => rfl⟩
  | record | release | cancel | wake =>
    exact ⟨0, (refl s).doLast (by simp [Action.isAnswer])⟩

end Adds

/-- So does a sequence of changes. -/
theorem Changes.adds (formed : Formed s) (hc : Changes c s hand s' hand') (k : CallId) :
    ∃ n, Adds k n s s' := by
  refine (hc.invariant (I := fun x _ => Formed x ∧ ∃ n, Adds k n s x) (fun hc h => ?_)
    ⟨formed, 0, .refl s⟩).2
  obtain ⟨formed', n, adds⟩ := h
  obtain ⟨m, adds'⟩ := Adds.change (k := k) formed' hc
  exact ⟨formed'.change hc, _, adds.trans adds'⟩

namespace Passes

theorem of_adds (h : Adds k n s s') (still : s.Still s') (none : s.replies s' = []) :
    Passes k P n 0 0 s s' where
  placed := h.placed
  waiting := by rw [still.pickups, h.waiting]; rfl
  handles := by rw [still.verdicts, still.pickups, h.sliced]; rfl
  owes := by rw [still.verdicts, h.sliced]; rfl
  pledged := by rw [none, h.pledged]; rfl
  dropped := by rw [none, h.pledged]; rfl
  stays _ := h.stays
  learns e he := by simp [none] at he

theorem turn {rt : Runtime} {y : Option Slice} (adds : Adds k n s x)
    (distinct : x.runtimes.Distinct) (idle : s.agenda = []) (active : s.active = some (home, goal))
    (found : x.runtimes.get? home = some rt) (rest : Adds k 0 (x.setSlice home y) s')
    (pickups : Slice.pickups rt.slice y = []) (verdicts : Slice.verdicts rt.slice y = [])
    (handles : y.any (Slice.handles k) = rt.slice.any (Slice.handles k))
    (owes : y.any (Slice.owes k P) = rt.slice.any (Slice.owes k P)) : Passes k P n 0 0 s s' := by
  have before : s.slice home = rt.slice := by
    rw [← adds.slice]
    simp [State.slice, found]
  have after : s'.slice home = y := by
    rw [rest.slice]
    simp [State.slice, State.setSlice, State.modifyRuntime, Store.get?_modify_self, found]
  have still : s.Still s' := .of_slices active before after pickups verdicts
  have none : s.replies s' = [] := by simp [State.replies, idle]
  have same : ∀ f : Slice → Bool, y.any f = rt.slice.any f → s'.sliced f = s.sliced f := by
    intro f hf
    have moved := State.sliced_setSlice (f := f) distinct found y
    rw [hf] at moved
    rw [rest.sliced, ← adds.sliced]
    omega
  exact {
    placed := rest.placed.trans adds.placed
    waiting := by rw [still.pickups, rest.waiting, List.countP_nil]; exact adds.waiting
    handles := by rw [still.verdicts, still.pickups, same _ handles]; rfl
    owes := by rw [still.verdicts, same _ owes]; rfl
    pledged := by rw [none, rest.pledged]; exact adds.pledged P
    dropped := by rw [none, rest.pledged]; exact adds.pledged isDropped
    stays := fun _ => adds.stays.trans rest.stays
    learns := fun e he => by simp [none] at he }

/-! ### Items of the agenda -/

theorem isAnswer_forget (w : Waker) : w.forget.isAnswer = false := by
  cases w <;> rfl

theorem answers_afterPanic (as : List Action) :
    (as.filterMap Action.afterPanic).countP (Action.answers k P) =
      as.countP (Action.answers k P) := by
  induction as with
  | nil => rfl
  | cons first rest ih =>
    cases first with
    | wake w =>
      simp [Action.afterPanic, ih, Action.answers_eq_false (isAnswer_forget w)]
      rfl
    | _ => simp [List.filterMap_cons, Action.afterPanic, List.countP_cons, Action.answers, ih]

theorem effect_adds (formed : Formed s) (e : Effect s a s') (calm : a.isAnswer = false)
    (other : ∀ b, a ≠ .abandon b) : Adds k 0 (s.doFirst [a]) s' := by
  have pop : Adds k 0 (s.doFirst [a]) s :=
    { (.of_eq rfl rfl rfl rfl : Adds k 0 s s) with
      pledged := fun P => by
        simp [State.pledged, State.doFirst, Action.answers_eq_false calm] }
  have same : ∀ {y : State}, y.calls = s.calls → y.actors = s.actors → y.runtimes = s.runtimes →
      y.agenda = s.agenda → Adds k 0 (s.doFirst [a]) y :=
    fun calls actors runtimes agenda => pop.trans (.of_eq calls actors runtimes agenda)
  -- everything but an answer and the end of a mailbox is no concern of the call
  cases e with
  | spent => exact pop
  | orphan | reap | reportFailure | record => exact same rfl rfl rfl rfl
  | @resume t =>
    have ready : Adds k 0 (s.doFirst [.wake (.task t)]) (s.setPhase t .ready) :=
      same rfl rfl rfl rfl
    exact ready.enqueue formed.distinctRuntimes _ _ _
  | finish =>
    refine Adds.doFirst (same rfl rfl rfl rfl) ?_
    split <;> simp [Action.isAnswer]
  | reapLast =>
    refine Adds.doFirst (same rfl rfl rfl rfl) ?_
    rw [List.forall_mem_append]
    constructor <;> split <;> simp [Action.isAnswer]
  | forget =>
    refine Adds.doFirst (same rfl rfl rfl rfl) ?_
    rw [List.forall_mem_append, List.forall_mem_map, List.forall_mem_singleton]
    exact ⟨fun _ _ => rfl, rfl⟩
  | bury =>
    refine Adds.doFirst (same rfl rfl rfl rfl) ?_
    rw [List.forall_mem_map]
    exact fun w _ => isAnswer_forget w
  | cancel | trip | announce | dropHandle | dissolve | silence | wakeWaiters
  | notify | awake | inform | dropGroup | dropUndrained | discardTask | discardDrain =>
    refine Adds.doFirst (same rfl rfl rfl rfl) ?_
    simp [Action.isAnswer, or_imp, forall_and]
  | dropAnswered =>
    refine Adds.doFirst (pop.modifyCall _ ?_ ?_ ?_) (by simp [Action.isAnswer])
    · exact fun _ => rfl
    · exact fun _ => rfl
    · exact fun _ => .inl rfl
  | dropPending => exact pop.modifyCall _ (fun _ => rfl) (fun _ => rfl) fun _ => .inl rfl
  | panic =>
    exact { pop with
      pledged := fun P => by
        rw [← pop.pledged P]
        exact answers_afterPanic s.agenda }
  | answer => cases calm
  | abandon => exact absurd rfl (other _)

theorem countP_dropped (P : Except ActorError Int64 → Bool) (ms : List Message) :
    ((ms.filterMap Message.reply).map fun j => Action.answer j (.error .dropped)).countP
      (Action.answers k P) =
        if P (.error .dropped) then ms.countP fun m => decide (m.reply = some k) else 0 := by
  induction ms with
  | nil => simp
  | cons m ms ih =>
    cases reply : m.reply with
    | none => simp [reply, ih]
    | some j =>
      cases kind : P (.error .dropped) with
      | false => simp [reply, ih, kind, Action.answers]
      | true => simp [reply, ih, kind, Action.answers, List.countP_cons]

theorem abandon (formed : Formed s) (real : P (.error .dropped) = false) {b : ActorId}
    (e : Effect s (.abandon b) s') : ∃ m, Passes k P 0 m 0 (s.doFirst [.abandon b]) s' := by
  have still : (s.doFirst [.abandon b]).Still s' := .of_same e.slice
  have none : (s.doFirst [.abandon b]).replies s' = [] := rfl
  cases e with
  | spent =>
    have pop : Adds k 0 (s.doFirst [.abandon b]) s :=
      { (.of_eq rfl rfl rfl rfl : Adds k 0 s s) with
        pledged := fun P => by simp [State.pledged, State.doFirst, Action.answers] }
    exact ⟨0, of_adds pop still none⟩
  | @abandon _ actor trace found =>
    refine ⟨actor.mailbox.countP fun m => decide (m.reply = some k), ?_⟩
    have emptied := Store.tally_modify
      (w := fun _ (n : Actor) => n.mailbox.countP fun m => decide (m.reply = some k))
      (f := fun n => { n with scheduled := false, mailbox := [] }) formed.distinctActors found
    have before : ∀ P, (s.doFirst [.abandon b]).pledged k P = s.pledged k P := fun P => by
      simp [State.pledged, State.doFirst, Action.answers]
    -- what was in the mailbox is answered as dropped
    have after : ∀ P, (({ s.modifyActor b fun m => { m with scheduled := false, mailbox := [] } with
        trace := trace } : State).doFirst ((actor.mailbox.filterMap Message.reply).map fun j =>
          .answer j (.error .dropped))).pledged k P = (if P (.error .dropped) then
            actor.mailbox.countP fun m => decide (m.reply = some k) else 0) + s.pledged k P := by
      intro P
      rw [← countP_dropped]
      exact List.countP_append
    exact {
      placed := rfl
      waiting := by
        rw [still.pickups]
        exact emptied
      handles := by
        rw [still.verdicts, still.pickups]
        rfl
      owes := by
        rw [still.verdicts]
        rfl
      pledged := by
        rw [none, before, after, real]
        simp
      dropped := by
        rw [none, before, after]
        simp [isDropped, Nat.add_comm]
      stays := fun _ => .refl _
      learns := fun e he => by simp [none] at he }

theorem answer {j : CallId} {outcome : Except ActorError Int64}
    (e : Effect s (.answer j outcome) s') :
    Passes k P 0 0 0 (s.doFirst [.answer j outcome]) s' := by
  have still : (s.doFirst [.answer j outcome]).Still s' := .of_same e.slice
  have one : (s.doFirst [.answer j outcome]).replies s' = [⟨j, outcome⟩] := rfl
  have before : ∀ P, (s.doFirst [.answer j outcome]).pledged k P =
      s.pledged k P + (decide (j = k) && P outcome).toNat := by
    intro P
    simp only [State.pledged, State.doFirst, List.singleton_append, countP_cons_toNat,
      Action.answers]
  have written : ∀ P : Except ActorError Int64 → Bool, [(⟨j, outcome⟩ : Reply)].countP
      (fun e => decide (e.call = k) && P e.outcome) = (decide (j = k) && P outcome).toNat :=
    fun P => countP_one _ _
  -- the reply is written into the call, if that is still there
  have moves : s'.placed k = s.placed k ∧ s'.actors = s.actors ∧ s'.runtimes = s.runtimes ∧
      (∀ P, s'.pledged k P = s.pledged k P) ∧
      (j ≠ k → Call.Stays (s.calls.get? k) (s'.calls.get? k)) ∧
      ∀ c, j = k → s.calls.get? k = some c → ∃ c', s'.calls.get? k = some c' ∧
        c'.accepted = c.accepted ∧ c'.answered = true ∧ c'.outcome = some outcome := by
    cases e with
    | spent missing =>
      refine ⟨rfl, rfl, rfl, fun _ => rfl, fun _ => .refl _, fun c hj found => ?_⟩
      subst hj
      cases found.symm.trans missing
    | @answer _ _ call found =>
      refine ⟨?_, rfl, rfl, fun P => ?_, fun hj => ?_, fun c hj found' => ?_⟩
      · simp only [State.placed, State.doFirst, State.modifyCall, Store.get?_modify]
        split
        · cases s.calls.get? k <;> rfl
        · rfl
      · simp [State.pledged, State.doFirst, State.modifyCall, List.countP_append, List.countP_map,
          Function.comp_def, Action.answers]
      · simp only [State.doFirst, State.modifyCall, Store.get?_modify_of_ne hj]
        exact .refl _
      · subst hj
        simp [State.doFirst, State.modifyCall, Store.get?_modify_self, found']
  obtain ⟨placed, actors, runtimes, pledged, stays, learns⟩ := moves
  exact {
    placed := placed
    waiting := by
      rw [still.pickups, State.waiting, actors]
      rfl
    handles := by
      rw [still.verdicts, still.pickups, State.sliced, runtimes]
      rfl
    owes := by
      rw [still.verdicts, State.sliced, runtimes]
      rfl
    pledged := by rw [one, pledged, before, written, Nat.add_zero]
    dropped := by rw [one, pledged, before, written, Nat.add_zero]
    stays := fun others => stays (others ⟨j, outcome⟩ (by simp [one]))
    learns := fun e he hk c found => by
      rw [one, List.mem_singleton] at he
      subst he
      exact learns c hk found }

theorem effect (formed : Formed s) (real : P (.error .dropped) = false) (e : Effect s a s') :
    ∃ m, Passes k P 0 m 0 (s.doFirst [a]) s' := by
  by_cases dropped : ∃ b, a = .abandon b
  · obtain ⟨b, rfl⟩ := dropped
    exact abandon formed real e
  · by_cases given : a.isAnswer = true
    · cases a with
      | answer j outcome => exact ⟨0, answer e⟩
      | _ => cases given
    · have calm : a.isAnswer = false := by simpa using given
      refine ⟨0, of_adds (effect_adds formed e calm fun b hb => dropped ⟨b, hb⟩)
        (.of_same e.slice) ?_⟩
      cases a with
      | answer => cases calm
      | _ => rfl

/-! ### Work -/

theorem receive (formed : Formed s) (idle : s.agenda = []) (active : s.active = some (home, goal))
    {b : ActorId} {handled : Nat} {actor : Actor} {message : Message} {rest : List Message}
    (during : s.slice home = some (.drain b handled .idle))
    (found : s.actors.get? b = some actor) (mail : actor.mailbox = message :: rest) :
    Passes k P 0 0 0 s ((s.modifyActor b fun m => { m with mailbox := rest }).setSlice home
      (some (.drain b handled (.handling message.handler [] message.reply)))) := by
  generalize now : (s.modifyActor b fun m => { m with mailbox := rest }).setSlice home
    (some (.drain b handled (.handling message.handler [] message.reply))) = s'
  obtain ⟨rt, known, slice⟩ := State.slice_eq during
  have after : s'.slice home =
      some (.drain b handled (.handling message.handler [] message.reply)) := by
    rw [← now]
    exact State.slice_setSlice_self (s := s.modifyActor b fun m => { m with mailbox := rest })
      during
  have pickups : s.pickups s' = [⟨b, message⟩] := by
    rw [State.pickups_eq active, during, after]
    rfl
  have verdicts : s.verdicts s' = [] := by
    rw [State.verdicts_eq active, during, after]
    rfl
  have none : s.replies s' = [] := by simp [State.replies, idle]
  have taken := Store.tally_modify
    (w := fun _ (n : Actor) => n.mailbox.countP fun m => decide (m.reply = some k))
    (f := fun n => { n with mailbox := rest }) formed.distinctActors found
  -- the call goes from the mailbox into the slice
  have moved : ∀ f : Slice → Bool, s'.sliced f + (f (.drain b handled .idle)).toNat = s.sliced f +
      (f (.drain b handled (.handling message.handler [] message.reply))).toNat := by
    intro f
    have moved := State.sliced_setSlice (f := f)
      (s := s.modifyActor b fun m => { m with mailbox := rest }) formed.distinctRuntimes known
      (some (.drain b handled (.handling message.handler [] message.reply)))
    rw [now, slice] at moved
    exact moved
  have waiting :
      s'.waiting k = (s.modifyActor b fun m => { m with mailbox := rest }).waiting k := by
    rw [← now]
    rfl
  exact {
    placed := by
      rw [← now]
      rfl
    waiting := by
      rw [mail, countP_cons_toNat] at taken
      rw [pickups, waiting, countP_one]
      simp only [State.waiting, State.modifyActor] at taken ⊢
      omega
    handles := by
      have := moved (Slice.handles k)
      simp only [Slice.handles, Bool.toNat_false, Nat.add_zero] at this
      rw [pickups, verdicts, this, countP_one]
      rfl
    owes := by
      rw [verdicts]
      exact moved (Slice.owes k P)
    pledged := by
      rw [none, ← now]
      rfl
    dropped := by
      rw [none, ← now]
      rfl
    stays := fun _ => by
      rw [← now]
      exact .refl _
    learns := fun e he => by simp [none] at he }

theorem handled (formed : Formed x) (idle : s.agenda = []) (active : s.active = some (home, goal))
    (adds : Adds k n s x) {b : ActorId} {count : Nat} {code : List Line} {frame : Frame}
    {reply : Option CallId} {result : Except String Int64} {as : List Action}
    (during : s.slice home = some (.drain b count (.handling code frame reply)))
    (calm : ∀ a ∈ as, a.isAnswer = false) :
    Passes k P n 0 0 s ((x.setSlice home (some (.drain b count (.replying reply result)))).doLast
      as) := by
  generalize now : x.setSlice home (some (.drain b count (.replying reply result))) = y
  have before := (adds.slice home).trans during
  obtain ⟨rt, known, slice⟩ := State.slice_eq before
  have ends : Adds k 0 y (y.doLast as) := (Adds.refl y).doLast calm
  have after : (y.doLast as).slice home = some (.drain b count (.replying reply result)) := by
    rw [ends.slice, ← now]
    exact State.slice_setSlice_self before
  have pickups : s.pickups (y.doLast as) = [] := by
    rw [State.pickups_eq active, during, after]
    rfl
  have verdicts : s.verdicts (y.doLast as) = [⟨b, reply, result⟩] := by
    rw [State.verdicts_eq active, during, after]
    rfl
  have none : s.replies (y.doLast as) = [] := by simp [State.replies, idle]
  -- the call stays in the slice, which owes the reply now
  have moved : ∀ f : Slice → Bool, (y.doLast as).sliced f +
      (f (.drain b count (.handling code frame reply))).toNat =
        s.sliced f + (f (.drain b count (.replying reply result))).toNat := by
    intro f
    have moved := State.sliced_setSlice (f := f) formed.distinctRuntimes known
      (some (.drain b count (.replying reply result)))
    rw [now, slice, adds.sliced] at moved
    rw [ends.sliced]
    exact moved
  have same : Adds k n s { y with runtimes := x.runtimes } := by
    rw [← now]
    exact adds
  exact {
    placed := same.placed
    waiting := by
      rw [pickups, ends.waiting]
      exact same.waiting
    handles := by
      have := moved (Slice.handles k)
      simp only [Slice.handles, Bool.toNat_false, Nat.add_zero] at this
      rw [pickups, verdicts, ← this, countP_one]
      rfl
    owes := by
      have := moved (Slice.owes k P)
      simp only [Slice.owes, Bool.toNat_false, Nat.add_zero] at this
      rw [verdicts, this, countP_one]
      rfl
    pledged := by
      rw [none, ends.pledged]
      exact same.pledged P
    dropped := by
      rw [none, ends.pledged]
      exact same.pledged isDropped
    stays := fun _ => same.stays
    learns := fun e he => by simp [none] at he }

theorem reply (formed : Formed s) (idle : s.agenda = []) (active : s.active = some (home, goal))
    {b : ActorId} {count : Nat} {reply : Option CallId} {result : Except String Int64}
    (trace : Array Event)
    (during : s.slice home = some (.drain b count (.replying reply result))) :
    ∃ p, Passes k P 0 0 p s
      ({ s.setSlice home (some (.drain b (count + 1) .idle)) with trace := trace }.doFirst
        (reply.toList.map fun j => .answer j (learnt result))) := by
  generalize now : s.setSlice home (some (.drain b (count + 1) .idle)) = y
  obtain ⟨rt, known, slice⟩ := State.slice_eq during
  generalize given : ({ y with trace := trace } : State).doFirst
    (reply.toList.map fun j => .answer j (learnt result)) = s'
  have after : s'.slice home = some (.drain b (count + 1) .idle) := by
    rw [← given, ← now]
    exact State.slice_setSlice_self during
  have still : s.Still s' := .of_slices active during after rfl rfl
  have none : s.replies s' = [] := by simp [State.replies, idle]
  have moved : ∀ f : Slice → Bool, s'.sliced f +
      (f (.drain b count (.replying reply result))).toNat =
        s.sliced f + (f (.drain b (count + 1) .idle)).toNat := by
    intro f
    have moved := State.sliced_setSlice (f := f) formed.distinctRuntimes known
      (some (.drain b (count + 1) .idle))
    rw [now, slice] at moved
    rw [← given]
    exact moved
  -- the slice owes nothing any more, and the answer is next on the agenda
  have pledged : ∀ P, s'.pledged k P =
      s.pledged k P + (decide (reply = some k) && P (learnt result)).toNat := by
    intro P
    have was : s.pledged k P = 0 := by simp [State.pledged, idle]
    have agenda : y.agenda = [] := by
      rw [← now]
      exact idle
    rw [was, ← given]
    cases reply with
    | none => simp [State.pledged, State.doFirst, agenda]
    | some j =>
      simp only [State.pledged, State.doFirst, agenda, Option.toList_some, List.map_cons,
        List.map_nil, List.append_nil, countP_one, Action.answers, Option.some.injEq, Nat.zero_add]
  refine ⟨(decide (reply = some k) && P (learnt result)).toNat, {
    placed := ?_
    waiting := ?_
    handles := ?_
    owes := ?_
    pledged := by rw [none, pledged]; rfl
    dropped := by rw [none, pledged, isDropped_learnt, Bool.and_false]; rfl
    stays := fun _ => ?_
    learns := fun e he => by simp [none] at he }⟩
  · rw [← given, ← now]
    rfl
  · rw [still.pickups, ← given, ← now]
    rfl
  · rw [still.verdicts, still.pickups]
    exact moved (Slice.handles k)
  · rw [still.verdicts]
    exact moved (Slice.owes k P)
  · rw [← given, ← now]
    exact .refl _

theorem popped {e : Entry} {queue : RunQueue Entry} (formed : Formed s)
    (takes : s.Takes home e queue) : Adds k 0 s (s.popped home queue) ∧
      ∃ rt, (s.popped home queue).runtimes.get? home = some rt ∧ rt.slice = none := by
  obtain ⟨rt, found, free, -⟩ := takes.found
  refine ⟨(Adds.refl s).modifyRuntime formed.distinctRuntimes home fun _ => rfl,
    { rt with queue := queue }, ?_, free⟩
  simp [State.popped, State.modifyRuntime, Store.get?_modify_self, found]

theorem work (sound : Sound s d) (idle : s.agenda = []) (active : s.active = some (home, goal))
    (w : Work s home s') : ∃ n p, Passes k P n 0 p s s' := by
  have formed := sound.formed
  have distinct := formed.distinctRuntimes
  have none : s.replies s' = [] := by simp [State.replies, idle]
  have line : ∀ {c : Context} {hand hand' : List Resource} {s₁ : State},
      Changes c s hand s₁ hand' → Formed s₁ ∧ ∃ n, Adds k n s s₁ :=
    fun hc => ⟨formed.changes hc, hc.adds formed k⟩
  -- a worker of a task moves on within its slice, or leaves it
  have moves : ∀ {t : TaskId} {stage : Stage} {y : Option Slice} {z : State},
      s.slice home = some (.task t stage) →
      (y = Option.none ∨ ∃ stage', y = some (.task t stage')) →
      Adds k 0 (s.setSlice home y) z → Passes k P 0 0 0 s z := by
    intro t stage y z during task rest
    obtain ⟨rt, found, slice⟩ := State.slice_eq during
    refine turn (Adds.refl s) distinct idle active found rest ?_ ?_ ?_ ?_ <;>
      rcases task with rfl | ⟨stage', rfl⟩ <;> rw [slice] <;> rfl
  cases w with
  | stop => exact ⟨0, 0, of_adds (.of_eq rfl rfl rfl rfl) (.of_same fun _ => rfl) none⟩
  | lost during missing =>
    obtain ⟨rt, found, slice⟩ := State.slice_eq during
    refine ⟨0, 0, turn (Adds.refl s) distinct idle active found (.refl _) ?_ ?_ ?_ ?_⟩ <;>
      rw [slice] <;> rcases missing with ⟨t, rfl, -⟩ | ⟨b, handled, rfl, -⟩ <;> rfl
  | next _ _ changes =>
    obtain ⟨-, n, adds⟩ := line changes
    exact ⟨n, 0, of_adds (adds.alike rfl rfl rfl rfl) (.of_same adds.slice) none⟩
  | @suspend t _ _ f' s₁ _ _ polling changes =>
    obtain ⟨formed₁, n, adds⟩ := line changes
    obtain ⟨rt, found, slice⟩ := State.slice_eq ((adds.slice home).trans polling)
    refine ⟨n, 0, turn adds formed₁.distinctRuntimes idle active found
      (y := some (.task t .suspending)) (.of_eq rfl rfl rfl rfl) ?_ ?_ ?_ ?_⟩ <;> rw [slice] <;> rfl
  | @ends t _ _ s₁ owned ending _ told runs changes =>
    obtain ⟨formed₁, n, adds⟩ := line changes
    obtain ⟨stage, during⟩ : ∃ stage, s.slice home = some (.task t stage) := by
      rcases runs.slice with polling | suspending
      · exact ⟨_, polling⟩
      · exact ⟨_, suspending⟩
    obtain ⟨rt, found, slice⟩ := State.slice_eq ((adds.slice home).trans during)
    refine ⟨n, 0, turn adds formed₁.distinctRuntimes idle active found
      (y := some (.task t (.ended ending))) (.doLast (.of_eq rfl rfl rfl rfl) ?_) ?_ ?_ ?_ ?_⟩
    · simp [Action.isAnswer, or_imp, forall_and]
    all_goals
      rw [slice]
      rfl
  | @pause t _ _ f' s₁ later _ _ changes =>
    obtain ⟨formed₁, n, adds⟩ := line changes
    have paused : Adds k n s (s₁.modifyRuntime home fun rt => { rt with paused := some later }) :=
      adds.modifyRuntime formed₁.distinctRuntimes home fun _ => rfl
    exact ⟨n, 0, of_adds (paused.alike rfl rfl rfl rfl) (.of_same paused.slice) none⟩
  | rest during =>
    exact ⟨0, 0, moves during (.inl rfl)
      (.doFirst (.of_eq rfl rfl rfl rfl) (by simp [Action.isAnswer]))⟩
  | @again t task stage joining during =>
    have left : Adds k 0 (s.setSlice home Option.none)
        (((s.setSlice home Option.none).modifyNode t fun m =>
          { m with joining := joining m, phase := .ready }).doFirst [.forget t]) :=
      .doFirst (.of_eq rfl rfl rfl rfl) (by simp [Action.isAnswer])
    exact ⟨0, 0, moves during (.inl rfl) (left.enqueue (distinct.modify _ _) _ _ _)⟩
  | forgotten during => exact ⟨0, 0, moves during (.inl rfl) (.of_eq rfl rfl rfl rfl)⟩
  | endBody trace cancelled during =>
    refine ⟨0, 0, moves during (.inr ⟨.joining, rfl⟩) (.doFirst (.of_eq rfl rfl rfl rfl) ?_)⟩
    simp [Action.isAnswer]
  | complete trace during =>
    refine ⟨0, 0, moves during (.inr ⟨.leaving, rfl⟩) (.doFirst (.of_eq rfl rfl rfl rfl) ?_)⟩
    simp [Action.isAnswer]
  | leave during =>
    exact ⟨0, 0, moves during (.inl rfl) (.doFirst (.refl _) (by simp [Action.isAnswer]))⟩
  | receive during found mail => exact ⟨0, 0, receive formed idle active during found mail⟩
  | @drained b handled actor during =>
    obtain ⟨rt, found, slice⟩ := State.slice_eq during
    have told : Adds k 0 (s.setSlice home Option.none)
        ((s.setSlice home Option.none).log (.drained b handled)) := .of_eq rfl rfl rfl rfl
    have formed' : Formed ((s.setSlice home Option.none).log (.drained b handled)) :=
      (formed.modifyRuntime _ _).tell _
    refine ⟨0, 0, turn (Adds.refl s) distinct idle active found
      (told.modifyActor formed' b fun _ => by rfl) ?_ ?_ ?_ ?_⟩ <;> rw [slice] <;> rfl
  | @drainAgain b handled actor during =>
    obtain ⟨rt, found, slice⟩ := State.slice_eq during
    have told : Adds k 0 (s.setSlice home Option.none)
        ((s.setSlice home Option.none).log (.drained b handled)) := .of_eq rfl rfl rfl rfl
    refine ⟨0, 0, turn (Adds.refl s) distinct idle active found
      (told.enqueue (distinct.modify _ _) home _ _) ?_ ?_ ?_ ?_⟩ <;> rw [slice] <;> rfl
  | @handle b handled code code' frame frame' reply s₁ during changes =>
    obtain ⟨formed₁, n, adds⟩ := line changes
    obtain ⟨rt, found, slice⟩ := State.slice_eq ((adds.slice home).trans during)
    refine ⟨n, 0, turn adds formed₁.distinctRuntimes idle active found (.refl _) ?_ ?_ ?_ ?_⟩ <;>
      rw [slice] <;> rfl
  | @hold b handled code code' frame frame' reply s₁ later during changes =>
    obtain ⟨formed₁, n, adds⟩ := line changes
    obtain ⟨rt, found, slice⟩ := State.slice_eq ((adds.slice home).trans during)
    have paused : ∀ y, Adds k 0 (s₁.setSlice home y)
        ((s₁.setSlice home y).modifyRuntime home fun rt => { rt with paused := some later }) :=
      fun y => (Adds.refl _).modifyRuntime (formed₁.distinctRuntimes.modify _ _) home fun _ => rfl
    refine ⟨n, 0, turn adds formed₁.distinctRuntimes idle active found
      ((paused _).alike rfl rfl rfl rfl) ?_ ?_ ?_ ?_⟩ <;> rw [slice] <;> rfl
  | handled result during changes =>
    obtain ⟨formed₁, n, adds⟩ := line changes
    exact ⟨n, 0, handled formed₁ idle active adds during (by simp [Action.isAnswer])⟩
  | reply trace outcome during gives =>
    subst gives
    obtain ⟨p, passes⟩ := reply (k := k) (P := P) formed idle active trace during
    exact ⟨0, p, passes⟩
  | begin takes =>
    obtain ⟨taken, rt, found, free⟩ := popped (k := k) formed takes
    refine ⟨0, 0, turn taken (distinct.modify _ _) idle active found (.of_eq rfl rfl rfl rfl)
      ?_ ?_ ?_ ?_⟩ <;> rw [free] <;> rfl
  | @refuse t queue takes =>
    have taken : Adds k 0 s ((s.popped home queue).doFirst [.forget t]) :=
      (popped formed takes).1.doFirst (by simp [Action.isAnswer])
    exact ⟨0, 0, of_adds taken (.of_same taken.slice) none⟩
  | beginDrain takes =>
    obtain ⟨taken, rt, found, free⟩ := popped (k := k) formed takes
    refine ⟨0, 0, turn taken (distinct.modify _ _) idle active found (.refl _) ?_ ?_ ?_ ?_⟩ <;>
      rw [free] <;> rfl
  | markerStop takes =>
    have taken := (popped (k := k) formed takes).1
    exact ⟨0, 0, of_adds (taken.alike rfl rfl rfl rfl) (.of_same taken.slice) none⟩
  | @markerAgain serial queue band _ takes =>
    have taken : Adds k 0 s ((s.popped home queue).enqueue home band (.marker serial)) :=
      (popped formed takes).1.enqueue (distinct.modify _ _) home band _
    exact ⟨0, 0, of_adds (taken.alike rfl rfl rfl rfl) (.of_same taken.slice) none⟩
  | markerSkip takes =>
    have taken := (popped (k := k) formed takes).1
    exact ⟨0, 0, of_adds taken (.of_same taken.slice) none⟩

/-! ### Moves -/

theorem start (distinct : s.runtimes.Distinct) (r : RuntimeId) (goal : Goal) :
    Adds k 0 s (s.start r goal) := by
  obtain ⟨trace, eq⟩ := s.start_eq r goal
  rw [eq]
  exact ((Adds.refl s).modifyRuntime distinct r fun _ => by rfl).alike rfl rfl rfl rfl

theorem move (sound : Sound s d) (rests : s.resting = true) (m : Move s d s' d') :
    ∃ n, Passes k P n 0 0 s s' := by
  have formed := sound.formed
  have distinct := formed.distinctRuntimes
  have idle := State.idle_of_resting rests
  have still := State.still_of_resting rests
  have quiet : ∀ {n : Nat}, Adds k n s s' → ∃ n, Passes k P n 0 0 s s' := fun adds =>
    ⟨_, of_adds adds (.of_main still) (by simp [State.replies, idle])⟩
  cases m with
  | build place batch stem =>
    rcases s.build_cases place batch stem with same | ⟨-, settings, built⟩
    · exact quiet (n := 0) (by rw [same]; exact .refl s)
    · rw [built] at quiet ⊢
      have fresh := formed.runtimes.fresh (k := ⟨s.runtimes.size⟩) rfl
      refine quiet (n := 0) { (.of_eq rfl rfl rfl rfl : Adds k 0 s s) with
        sliced := fun f => ?_
        slice := fun r => ?_ }
      · exact Store.tally_set_fresh fresh
      · by_cases new : (⟨s.runtimes.size⟩ : RuntimeId) = r
        · subst new
          simp [State.slice, State.install, Store.get?_set_self, fresh]
        · simp [State.slice, State.install, Store.get?_set_of_ne new]
  | start | block | join => exact quiet (start distinct _ _)
  | @startRounds _ r _ rounds band =>
    have marked : Adds k 0 s { s with markers := s.markers + 1 } := .of_eq rfl rfl rfl rfl
    have queued := marked.enqueue distinct r band (.marker (s.markers + 1))
    have distinct' : ({ s with markers := s.markers + 1 }.enqueue r band
        (.marker (s.markers + 1))).runtimes.Distinct := by
      have formed' : Formed { s with markers := s.markers + 1 } := { formed with }
      exact (formed'.enqueue r band _).distinctRuntimes
    exact quiet (queued.trans (start distinct' r _))
  | @launchRoot _ r _ body =>
    obtain ⟨nodes, trace, -, eq⟩ := State.launch_addNode_eq formed.nodes .normal none r body true
    refine quiet (n := 0) ?_
    rw [State.launchRoot, eq]
    exact .launch formed _ _ s.groups _ _ _
  | leaveRoot =>
    refine quiet (n := 0) (.doFirst (.of_eq ?_ ?_ ?_ ?_) (by simp [Action.isAnswer])) <;> rfl
  | @close place r =>
    have shut : Adds k 0 s (s.modifyRuntime r fun rt => { rt with closed := true, queue := {} }) :=
      (Adds.refl s).modifyRuntime distinct r fun _ => rfl
    exact quiet (Adds.doFirst (shut.alike rfl rfl rfl rfl) (by simp [Action.isAnswer]))
  | line plain =>
    obtain ⟨n, adds⟩ := (State.plain?_fits idle plain).adds formed k
    exact quiet adds
  | @shelve f =>
    obtain ⟨n, adds⟩ := (State.shelve_changes (c := { who := .main }) f s []).adds formed k
    exact quiet adds

end Passes

/-- **What a transition does to a call.**  Nothing is lost on the way. -/
theorem Transition.passes (sound : Sound s d) (real : P (.error .dropped) = false)
    (t : Transition s d s' d') (k : CallId) : ∃ n m p, Passes k P n m p s s' := by
  cases t with
  | step =>
    have next := State.step_cases sound.wakeful.waitsOnOwn
    generalize s.step = s' at next
    cases next with
    | @item e s₀ s' first effect =>
      subst first
      have formed : Formed s₀ := { sound.formed with }
      obtain ⟨m, passes⟩ := Passes.effect (k := k) formed real effect
      exact ⟨0, m, 0, passes⟩
    | work idle active w =>
      obtain ⟨n, p, passes⟩ := Passes.work (k := k) (P := P) sound idle active w
      exact ⟨n, 0, p, passes⟩
    | rest rests =>
      have none : s.replies s = [] := by simp [State.replies, State.idle_of_resting rests]
      exact ⟨0, 0, 0, .of_adds (.refl s) (.of_same fun _ => rfl) none⟩
  | @stray t _ idle =>
    have woken : Adds k 0 s (s.doFirst [.wake (.task t)]) :=
      (Adds.refl s).doFirst (by simp [Action.isAnswer])
    exact ⟨0, 0, 0, .of_adds woken (.of_same fun _ => rfl) (by simp [State.replies, idle])⟩
  | move rests m =>
    obtain ⟨n, passes⟩ := Passes.move (k := k) (P := P) sound rests m
    exact ⟨n, 0, 0, passes⟩

end Nursery
