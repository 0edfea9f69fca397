import Nursery.Proofs.Replies

/-!
# What becomes of the messages of an actor

An actor takes its messages up one at a time.  Between two states of a run its messages wait, one
of them is taken up, its handler goes on by a line, or it ends; nobody else gets at the state of
the actor meanwhile.

* `State.arrived`, `State.departed` : the messages that enter a mailbox, and those that leave it.
* `State.takes`, `State.closes` : the messages that are taken up, and the handlers that end.
* `Progress` : what a transition does to an actor.
* `Transition.progress` : it does nothing else.
-/

namespace Nursery

/-- What became of a message that left its mailbox. -/
inductive Fate where
  /-- It was taken up. -/
  | handled (m : Message)
  /-- It was dropped. -/
  | dropped (m : Message)

namespace Fate

/-- The message. -/
def message : Fate → Message
  | handled m | dropped m => m

/-- The message, if it was taken up. -/
def handled? : Fate → Option Message
  | handled m => some m
  | dropped _ => none

end Fate

namespace State

/-- A worker is in a handler of an actor, with lines that remain. -/
def Handling (s : State) (r : RuntimeId) (a : ActorId) (code : List Line) (reply : Option CallId) :
    Prop :=
  ∃ handled frame, s.slice r = some (.drain a handled (.handling code frame reply))

/-- The messages that an actor takes up. -/
def takes (a : ActorId) (s s' : State) : List Message :=
  ((s.pickups s').filter fun e => decide (e.actor = a)).map Pickup.message

/-- The handlers of an actor that end. -/
def closes (a : ActorId) (s s' : State) : List Verdict :=
  (s.verdicts s').filter fun e => decide (e.actor = a)

/-- The messages that enter a mailbox. -/
def arrived (a : ActorId) (s s' : State) : List Message :=
  (s'.mailbox a).drop (s.mailbox a).length

/-- The messages that are dropped with the slice of their actor. -/
def dropped (a : ActorId) (s _ : State) : List Message :=
  match s.agenda with
  | .abandon b :: _ => if b = a then s.mailbox a else []
  | _ => []

/-- The messages that leave a mailbox. -/
def departed (a : ActorId) (s s' : State) : List Fate :=
  (s.takes a s').map .handled ++ (s.dropped a s').map .dropped

/-- The state that an actor is made with. -/
def born (a : ActorId) (s s' : State) : List (List Int64) :=
  match s.memory a with
  | some _ => []
  | none => (s'.memory a).toList

end State

/-- What a transition does to an actor. -/
inductive Progress (a : ActorId) (s s' : State) : Prop where
  /-- Its messages wait or are dropped. -/
  | calm
      (mail : s.mailbox a <+: s'.mailbox a ∧ s.dropped a s' = [] ∨
        s'.mailbox a = [] ∧ s.dropped a s' = s.mailbox a)
      (remembers : ∀ xs, s.memory a = some xs → s'.memory a = some xs)
      (same : ∀ r code reply, s'.Handling r a code reply ↔ s.Handling r a code reply)
      (takes : s.takes a s' = []) (closes : s.closes a s' = [])
  /-- Its first message is taken up. -/
  | takesUp {home : RuntimeId} {handled : Nat} {m : Message}
      (idle : s.slice home = some (.drain a handled .idle))
      (mail : s.mailbox a = m :: s'.mailbox a) (free : s.agenda = [])
      (remembers : ∀ xs, s.memory a = some xs → s'.memory a = some xs)
      (handling : s'.Handling home a m.handler m.reply)
      (takes : s.takes a s' = [m]) (closes : s.closes a s' = [])
  /-- Its handler goes on by a line. -/
  | goesOn {home : RuntimeId} {code code' : List Line} {reply : Option CallId}
      (before : s.Handling home a code reply) (mail : s.mailbox a <+: s'.mailbox a)
      (free : s.agenda = []) (stretches : Stretches s a code s' code')
      (after : s'.Handling home a code' reply) (takes : s.takes a s' = [])
      (closes : s.closes a s' = [])
  /-- Its handler ends. -/
  | ends {home : RuntimeId} {handled : Nat} {code : List Line} {reply : Option CallId}
      {result : Except String Int64} (before : s.Handling home a code reply)
      (mail : s.mailbox a <+: s'.mailbox a) (free : s.agenda = [])
      (concludes : Concludes s a code s' result)
      (after : s'.slice home = some (.drain a handled (.replying reply result)))
      (takes : s.takes a s' = []) (closes : s.closes a s' = [⟨a, reply, result⟩])

variable {s s' s'' : State} {d d' : Desk} {c : Context} {hand hand' : List Resource} {a : ActorId}
  {home : RuntimeId} {goal : Goal} {e : Action} {l : Ledger}

/-! ### Who gets at the state of an actor -/

/-- A change leaves the states of all actors alone but that of the handler's own. -/
theorem Change.remembers (formed : Formed s) (hc : Change c s hand s' hand')
    (other : c.actor ≠ some a) {xs : List Int64} (known : s.memory a = some xs) :
    s'.memory a = some xs := by
  have plain : Remembers s s' → s'.memory a = some xs := fun kept => kept a xs known
  cases hc with
  | spawn => exact plain ((Remembers.addNode _ _ _).launch _ _ _ _)
  | group => exact plain ((Remembers.addNode _ _ _).trans (.of_actors rfl))
  | add => exact plain (((Remembers.addNode _ _ _).launch _ _ _ _).trans (.of_actors rfl))
  | actor name priority init =>
    have fresh : s.actors.get? ⟨s.actors.size⟩ = none := formed.actors.fresh rfl
    have old : (⟨s.actors.size⟩ : ActorId) ≠ a := by
      rintro rfl
      simp [State.memory, fresh] at known
    rw [← known]
    exact congrArg (Option.map Actor.state) (Store.get?_set_of_ne old)
  | call =>
    refine plain (.post ?_ _ _ _)
    exact .of_actors rfl
  | send => exact plain ((Remembers.refl s).post _ _ _)
  | @state b me ys =>
    have hb : b ≠ a := by
      rintro rfl
      exact other me
    rw [← known]
    exact congrArg (Option.map Actor.state) (Store.get?_modify_of_ne hb)
  | _ => exact plain (.of_actors rfl)

theorem Changes.remembers (formed : Formed s) (hc : Changes c s hand s' hand')
    (other : c.actor ≠ some a) {xs : List Int64} (known : s.memory a = some xs) :
    s'.memory a = some xs :=
  (hc.invariant (I := fun x _ => Formed x ∧ x.memory a = some xs)
    (fun hc h => ⟨h.1.change hc, hc.remembers h.1 other h.2⟩) ⟨formed, known⟩).2

/-- An item of the agenda leaves the states of all actors alone. -/
theorem Effect.remembers (h : Effect s e s') : Remembers s s' := by
  cases h with
  | resume =>
    refine .enqueue ?_ _ _ _
    exact .of_actors rfl
  | @abandon b =>
    have emptied :
        Remembers s (s.modifyActor b fun m => { m with scheduled := false, mailbox := [] }) :=
      .modifyActor b fun _ => rfl
    exact emptied.trans (.of_actors rfl)
  | _ => exact .of_actors rfl

/-! ### Transitions -/

/-- A worker at this point of a slice is in a handler of the actor. -/
def Slice.inHand (a : ActorId) : Option Slice → Bool
  | some (.drain b _ (.handling ..)) => decide (b = a)
  | _ => false

/-- Where every worker stays where it is and no handler begins or ends, nobody gets on. -/
theorem State.Still.calm (still : s.Still s') (slice : ∀ r, s'.slice r = s.slice r)
    (mail : s.mailbox a <+: s'.mailbox a ∧ s.dropped a s' = [] ∨
      s'.mailbox a = [] ∧ s.dropped a s' = s.mailbox a)
    (remembers : ∀ xs, s.memory a = some xs → s'.memory a = some xs) : Progress a s s' := by
  refine .calm mail remembers (fun r code reply => ?_) ?_ ?_
  · simp only [State.Handling, slice]
  · rw [State.takes, still.pickups]
    rfl
  · rw [State.closes, still.verdicts]
    rfl

/-- A worker gets from one point of its slice to another one, and is in no handler of the actor at
either. -/
theorem Progress.elsewhere {x y : Option Slice} (active : s.active = some (home, goal))
    (idle : s.agenda = []) (others : ∀ r, home ≠ r → s'.slice r = s.slice r)
    (before : s.slice home = x) (after : s'.slice home = y)
    (out : Slice.inHand a x = false) (out' : Slice.inHand a y = false)
    (pickups : ∀ e ∈ Slice.pickups x y, e.actor ≠ a)
    (verdicts : ∀ e ∈ Slice.verdicts x y, e.actor ≠ a)
    (mail : s.mailbox a <+: s'.mailbox a)
    (remembers : ∀ xs, s.memory a = some xs → s'.memory a = some xs) : Progress a s s' := by
  have calm : s.dropped a s' = [] := by simp [State.dropped, idle]
  have free : ∀ {z : State} {w : Option Slice} {code : List Line} {reply : Option CallId},
      z.slice home = w → Slice.inHand a w = false → ¬ z.Handling home a code reply := by
    rintro z w code reply rfl out ⟨n, frame, during⟩
    simp [during, Slice.inHand] at out
  refine .calm (.inl ⟨mail, calm⟩) remembers (fun r code reply => ?_) ?_ ?_
  · by_cases hr : home = r
    · subst hr
      exact ⟨fun h => (free after out' h).elim, fun h => (free before out h).elim⟩
    · simp only [State.Handling, others r hr]
  · rw [State.takes, State.pickups_eq active, before, after,
      List.filter_eq_nil_iff.2 (by simpa using pickups)]
    rfl
  · rw [State.closes, State.verdicts_eq active, before, after]
    exact List.filter_eq_nil_iff.2 (by simpa using verdicts)

/-- An item of the agenda lets nobody get on. -/
theorem Effect.progress (h : Effect s e s') : Progress a (s.doFirst [e]) s' := by
  have still : (s.doFirst [e]).Still s' := .of_same h.slice
  refine still.calm h.slice ?_ fun xs known => h.remembers a xs known
  by_cases he : e = .abandon a
  · subst he
    exact .inr ⟨h.abandoned.1, by simp [State.dropped, State.doFirst]⟩
  · refine .inl ⟨(h.alike he).mailbox.symm ▸ List.prefix_rfl, ?_⟩
    cases e with
    | abandon b =>
      have hb : b ≠ a := by
        rintro rfl
        exact he rfl
      simp [State.dropped, State.doFirst, hb]
    | _ => rfl

/-- The main thread lets nobody get on. -/
theorem Move.progress (formed : Formed s) (carried : Carried s a l) (rests : s.resting = true)
    (m : Move s d s' d') : Progress a s s' := by
  have idle := State.idle_of_resting rests
  have still := State.still_of_resting rests
  refine (State.Still.of_main still).calm (m.slice formed idle)
    (.inl ⟨(carried.move formed idle still m).1, by simp [State.dropped, idle]⟩) fun xs known => ?_
  rcases m.actors formed.nodes idle with same | ⟨hand, hand', hc⟩
  · rw [State.memory, same]
    exact known
  · exact hc.remembers formed (by simp [Context.actor]) known

/-- The first message of an actor is taken up. -/
theorem Progress.receive (active : s.active = some (home, goal)) (idle : s.agenda = [])
    {handled : Nat} {actor : Actor} {m : Message} {rest : List Message}
    (during : s.slice home = some (.drain a handled .idle))
    (found : s.actors.get? a = some actor) (mail : actor.mailbox = m :: rest) :
    Progress a s ((s.modifyActor a fun n => { n with mailbox := rest }).setSlice home
      (some (.drain a handled (.handling m.handler [] m.reply)))) := by
  have after := State.slice_setSlice_self (s := s.modifyActor a fun n => { n with mailbox := rest })
    (y := some (.drain a handled (.handling m.handler [] m.reply))) during
  refine .takesUp during ?_ idle (fun xs known => ?_) ⟨handled, [], after⟩ ?_ ?_
  · simp [State.mailbox, State.setSlice, State.modifyRuntime, State.modifyActor,
      Store.get?_modify_self, found, mail]
  · rw [← known]
    exact Store.map_get?_modify_same fun _ => rfl
  · rw [State.takes, State.pickups_eq active, during, after]
    simp [Slice.pickups]
  · rw [State.closes, State.verdicts_eq active, during, after]
    rfl

/-- The handler of an actor goes on by a line. -/
theorem Progress.handle (active : s.active = some (home, goal)) (idle : s.agenda = [])
    {handled : Nat} {code code' : List Line} {frame frame' : Frame} {reply : Option CallId}
    (during : s.slice home = some (.drain a handled (.handling code frame reply)))
    (after : s'.slice home = some (.drain a handled (.handling code' frame' reply)))
    (mail : s.mailbox a <+: s'.mailbox a) (stretches : Stretches s a code s' code') :
    Progress a s s' := by
  refine .goesOn ⟨handled, frame, during⟩ mail idle stretches ⟨handled, frame', after⟩ ?_ ?_
  · rw [State.takes, State.pickups_eq active, during, after]
    rfl
  · rw [State.closes, State.verdicts_eq active, during, after]
    rfl

/-- The handler of an actor ends. -/
theorem Progress.conclude (active : s.active = some (home, goal)) (idle : s.agenda = [])
    {handled : Nat} {code : List Line} {frame : Frame} {reply : Option CallId}
    {result : Except String Int64}
    (during : s.slice home = some (.drain a handled (.handling code frame reply)))
    (after : s'.slice home = some (.drain a handled (.replying reply result)))
    (mail : s.mailbox a <+: s'.mailbox a) (concludes : Concludes s a code s' result) :
    Progress a s s' := by
  refine .ends ⟨handled, frame, during⟩ mail idle concludes after ?_ ?_
  · rw [State.takes, State.pickups_eq active, during, after]
    rfl
  · rw [State.closes, State.verdicts_eq active, during, after]
    simp [Slice.verdicts]

theorem State.actors_enqueue (x : State) (r : RuntimeId) (p : Priority) (e : Entry) :
    (x.enqueue r p e).actors = x.actors := by
  obtain ⟨runtimes, agenda, eq⟩ := x.enqueue_eq r p e
  rw [eq]

/-- A worker gets from one point of its slice to another one without a message and without a change
to an actor. -/
theorem Progress.quiet {x y : Option Slice} (active : s.active = some (home, goal))
    (idle : s.agenda = []) (others : ∀ r, home ≠ r → s'.slice r = s.slice r)
    (before : s.slice home = x) (after : s'.slice home = y)
    (out : Slice.inHand a x = false) (out' : Slice.inHand a y = false)
    (pickups : Slice.pickups x y = []) (verdicts : Slice.verdicts x y = [])
    (actors : s'.actors = s.actors) : Progress a s s' := by
  have unread : s'.mailbox a = s.mailbox a := by
    rw [State.mailbox, State.mailbox, actors]
  refine .elsewhere active idle others before after out out' (by simp [pickups])
    (by simp [verdicts])
    (unread.symm ▸ List.prefix_rfl) fun xs known => ?_
  rwa [State.memory, actors]

/-- The next message of another actor is taken up. -/
theorem Progress.receiveOther (active : s.active = some (home, goal)) (idle : s.agenda = [])
    {b : ActorId} (hb : b ≠ a) {handled : Nat} {m : Message} {rest : List Message}
    (during : s.slice home = some (.drain b handled .idle))
    (others : ∀ r, home ≠ r → s'.slice r = s.slice r)
    (next : s' = (s.modifyActor b fun n => { n with mailbox := rest }).setSlice home
      (some (.drain b handled (.handling m.handler [] m.reply)))) : Progress a s s' := by
  subst next
  have after := State.slice_setSlice_self
    (s := s.modifyActor b fun n => { n with mailbox := rest })
    (y := some (.drain b handled (.handling m.handler [] m.reply))) during
  have kept : (s.modifyActor b fun n => { n with mailbox := rest }).actors.get? a =
      s.actors.get? a := Store.get?_modify_of_ne hb
  refine .elsewhere active idle others during after rfl (by simpa [Slice.inHand] using hb)
    (fun e he => ?_) (List.forall_mem_nil _) ?_ fun xs known => ?_
  · rw [List.mem_singleton.1 he]
    exact hb
  · have unread : (s.modifyActor b fun n => { n with mailbox := rest }).mailbox a =
        s.mailbox a := congrArg (fun m => (m.map Actor.mailbox).getD []) kept
    exact unread.symm ▸ List.prefix_rfl
  · exact (congrArg (Option.map Actor.state) kept).trans known

/-- What a worker does next lets one actor get on at most. -/
theorem Work.progress (formed : Formed s) (carried : Carried s a l) (idle : s.agenda = [])
    (active : s.active = some (home, goal)) (w : Work s home s') : Progress a s s' := by
  have here : some home = s.thread := by simp [State.thread, active]
  have others : ∀ r, home ≠ r → s'.slice r = s.slice r := fun r hr => w.slice_of_ne formed hr
  have line : ∀ {c : Context} {hand hand' : List Resource} {s₁ : State}, c.home = some home →
      Changes c s hand s₁ hand' → s.mailbox a <+: s₁.mailbox a ∧ s₁.slice home = s.slice home :=
    fun at_home hc =>
      ⟨(hc.grows formed carried (at_home.trans here)).kept, (hc.keeps formed).slice home⟩
  -- the worker is in no handler of the actor, neither before nor after
  have quiet : ∀ {x y : Option Slice}, s.slice home = x → s'.slice home = y →
      Slice.inHand a x = false → Slice.inHand a y = false → Slice.pickups x y = [] →
      Slice.verdicts x y = [] → s'.actors = s.actors → Progress a s s' :=
    .quiet active idle others
  have apart : ∀ {x y : Option Slice}, s.slice home = x → s'.slice home = y →
      Slice.inHand a x = false → Slice.inHand a y = false →
      (∀ e ∈ Slice.pickups x y, e.actor ≠ a) → (∀ e ∈ Slice.verdicts x y, e.actor ≠ a) →
      s.mailbox a <+: s'.mailbox a → (∀ xs, s.memory a = some xs → s'.memory a = some xs) →
      Progress a s s' := .elsewhere active idle others
  have task : ∀ {t : TaskId} {stage : Stage} {y : Option Slice},
      s.slice home = some (.task t stage) → s'.slice home = y → Slice.inHand a y = false →
      s.mailbox a <+: s'.mailbox a → (∀ xs, s.memory a = some xs → s'.memory a = some xs) →
      Progress a s s' := fun before after out =>
    apart before after rfl out (List.forall_mem_nil _) (List.forall_mem_nil _)
  have moved : ∀ (x : State) (r : RuntimeId) (p : Priority) (e : Entry),
      (x.enqueue r p e).slice home = x.slice home := fun _ r p e => Effect.slice_enqueue r p e home
  have left : ∀ {x : Slice}, s.slice home = some x → (s.setSlice home none).slice home = none :=
    State.slice_setSlice_self
  have popped : ∀ {entry : Entry} {queue : RunQueue Entry}, s.Takes home entry queue →
      (s.popped home queue).slice home = none := fun takes =>
    (State.slice_modifyRuntime_same home fun _ => by rfl).trans takes.free
  cases w with
  | stop _ free => exact quiet free free rfl rfl rfl rfl rfl
  | lost during missing =>
    have after := State.slice_setSlice_self (y := none) during
    rcases missing with ⟨t, rfl, -⟩ | ⟨b, n, rfl, -⟩
    · exact quiet during after rfl rfl rfl rfl rfl
    · exact quiet during after rfl rfl rfl rfl rfl
  | next _ polling changes =>
    obtain ⟨mail, slice⟩ := line rfl changes
    exact task polling (slice.trans polling) rfl mail fun xs known =>
      changes.remembers formed (by simp [Context.actor]) known
  | @suspend t _ _ f' s₁ _ _ polling changes =>
    obtain ⟨mail, slice⟩ := line rfl changes
    have after :=
      State.slice_setSlice_self (s := s₁.modifyTask t fun m => { m with fiber := some f' })
      (y := some (.task t .suspending)) (slice.trans polling)
    exact task polling after rfl mail fun xs known =>
      changes.remembers formed (by simp [Context.actor]) known
  | @ends t _ _ s₁ _ ending _ told runs changes =>
    obtain ⟨mail, slice⟩ := line rfl changes
    obtain ⟨stage, during⟩ := runs.during
    have after := State.slice_setSlice_self (s := s₁.modifyTask t fun m => { m with fiber := none })
      (y := some (.task t (.ended ending))) (slice.trans during)
    exact task during after rfl mail fun xs known =>
      changes.remembers formed (by simp [Context.actor]) known
  | @pause t _ _ f' s₁ later _ polling changes =>
    obtain ⟨mail, slice⟩ := line rfl changes
    have paused : (s₁.modifyRuntime home fun rt => { rt with paused := some later }).slice home =
        s₁.slice home := State.slice_modifyRuntime_same home fun _ => rfl
    exact task polling (paused.trans (slice.trans polling)) rfl mail fun xs known =>
      changes.remembers formed (by simp [Context.actor]) known
  | rest during | forgotten during | leave during =>
    exact quiet during (State.slice_setSlice_self during) rfl rfl rfl rfl rfl
  | again during =>
    exact quiet during ((moved _ _ _ _).trans (left during)) rfl rfl rfl rfl
      (State.actors_enqueue _ _ _ _)
  | endBody _ _ during | complete _ during =>
    exact quiet during (State.slice_setSlice_self during) rfl rfl rfl rfl rfl
  | @receive b n actor m rest during found mail =>
    by_cases hb : b = a
    · subst hb
      exact .receive active idle during found mail
    · exact .receiveOther active idle hb during others rfl
  | @drained b n actor during found empty =>
    refine apart during (State.slice_setSlice_self during) rfl rfl (List.forall_mem_nil _)
      (List.forall_mem_nil _) ?_ fun xs known => ?_
    · have kept : (s.modifyActor b fun m => { m with scheduled := false }).mailbox a =
          s.mailbox a := congrArg (Option.getD · []) (Store.map_get?_modify_same fun _ => rfl)
      exact kept.symm ▸ List.prefix_rfl
    · rw [← known]
      exact Store.map_get?_modify_same fun _ => rfl
  | drainAgain during =>
    exact quiet during ((moved _ _ _ _).trans (left during)) rfl rfl rfl rfl
      (State.actors_enqueue _ _ _ _)
  | @handle b n code code' frame frame' reply s₁ during changes means =>
    obtain ⟨mail, slice⟩ := line rfl changes
    have after := State.slice_setSlice_self (y := some (.drain b n (.handling code' frame' reply)))
      (slice.trans during)
    by_cases hb : b = a
    · subst hb
      exact .handle active idle during after mail means
    · exact apart during after (by simpa [Slice.inHand] using hb) (by simpa [Slice.inHand] using hb)
        (List.forall_mem_nil _) (List.forall_mem_nil _) mail fun xs known =>
          changes.remembers formed (by simpa [Context.actor] using hb) known
  | @hold b n code code' frame frame' reply s₁ later during changes _ means =>
    obtain ⟨mail, slice⟩ := line rfl changes
    have paused :
        ((s₁.setSlice home (some (.drain b n (.handling code' frame' reply)))).modifyRuntime
        home fun rt => { rt with paused := some later }).slice home = _ :=
      State.slice_modifyRuntime_same home fun _ => rfl
    have after := paused.trans (State.slice_setSlice_self (slice.trans during))
    by_cases hb : b = a
    · subst hb
      exact .handle active idle during after mail means
    · exact apart during after (by simpa [Slice.inHand] using hb) (by simpa [Slice.inHand] using hb)
        (List.forall_mem_nil _) (List.forall_mem_nil _) mail fun xs known =>
          changes.remembers formed (by simpa [Context.actor] using hb) known
  | @handled b n code frame frame' reply s₁ result during changes means =>
    obtain ⟨mail, slice⟩ := line rfl changes
    have after := State.slice_setSlice_self (y := some (.drain b n (.replying reply result)))
      (slice.trans during)
    by_cases hb : b = a
    · subst hb
      exact .conclude active idle during after mail means
    · refine apart during after (by simpa [Slice.inHand] using hb) rfl (List.forall_mem_nil _)
        (fun e he => ?_) mail fun xs known =>
          changes.remembers formed (by simpa [Context.actor] using hb) known
      rw [List.mem_singleton.1 he]
      exact hb
  | reply _ _ during =>
    exact quiet during (State.slice_setSlice_self during) rfl rfl rfl rfl rfl
  | begin takes | beginDrain takes =>
    exact quiet takes.free (State.slice_setSlice_popped takes) rfl rfl rfl rfl rfl
  | refuse takes | markerStop takes | markerSkip takes =>
    exact quiet takes.free (popped takes) rfl rfl rfl rfl rfl
  | markerAgain _ _ takes =>
    exact quiet takes.free ((moved _ _ _ _).trans (popped takes)) rfl rfl rfl rfl
      (State.actors_enqueue _ _ _ _)

/-- **What a transition does to an actor.**  Its messages wait or are dropped, or the next one is
taken up, or the one that was taken up gets on. -/
theorem Transition.progress (h : Reachable s d) (t : Transition s d s' d') (a : ActorId) :
    Progress a s s' := by
  have sound := h.sound
  obtain ⟨l, kept⟩ := h.kept a
  have calm : ∀ {x : State}, s.agenda = [] → x.mailbox a = s.mailbox a →
      s.mailbox a <+: x.mailbox a ∧ s.dropped a x = [] ∨
        x.mailbox a = [] ∧ s.dropped a x = s.mailbox a := fun idle same =>
    .inl ⟨same.symm ▸ List.prefix_rfl, by simp [State.dropped, idle]⟩
  cases t with
  | step =>
    have next := State.step_cases sound.wakeful.waitsOnOwn
    generalize s.step = s' at next
    cases next with
    | @item e s₀ s' first effect =>
      subst first
      exact effect.progress
    | work idle active w => exact w.progress sound.formed kept.carried.2 idle active
    | rest rests =>
      exact (State.Still.of_same fun _ => rfl).calm (fun _ => rfl)
        (calm (State.idle_of_resting rests) rfl) fun _ known => known
  | @stray t _ idle =>
    have still : s.Still (s.doFirst [.wake (.task t)]) := .of_same fun _ => rfl
    exact still.calm (fun _ => rfl) (calm idle rfl) fun _ known => known
  | move rests m => exact m.progress sound.formed kept.carried.2 rests

end Nursery
