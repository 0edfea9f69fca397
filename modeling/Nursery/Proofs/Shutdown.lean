import Nursery.Proofs.Aftermath
import Nursery.Proofs.Backlog.Traffic
import Nursery.Proofs.Invariant.Answerable
import Nursery.Proofs.Replies

/-!
# A runtime that was dropped

Dropping a runtime closes its queue and drops what it held.  The queue never opens again, so no
slice begins on that runtime any more, and whatever is put into its queue later is dropped as well.
What is dropped may drop other things and wake others, whose entries may be dropped in turn; this
comes to an end, every call among the messages of a dropped slice learns of it, and nothing is put
back.

* `State.Sealed`, `Transition.sealed` : the queue of a closed runtime, which stays so.
* `Slice.GoesOn`, `Transition.goesOn` : a slice goes on or is over, and none begins.
* `Unrolls.mailbox` : while the agenda is worked off mailboxes stay or are emptied.
* `Unrolls.abandons` : a call among the messages of a dropped slice learns of it.
* `shutdown_final` : what follows after a runtime was dropped.
* `shutdown_final_held` : a task is held while its runtime is dropped, and goes on.
-/

namespace Nursery

/-- The queue of a runtime is closed and holds nothing. -/
def State.Sealed (s : State) (r : RuntimeId) : Prop :=
  s.scheduler r = { queue := {}, closed := true }

/-- A slice goes on, or it is over; where there is none, none begins. -/
def Slice.GoesOn : Option Slice → Option Slice → Prop
  | none, y => y = none
  | some (.task t _), y => y = none ∨ ∃ stage, y = some (.task t stage)
  | some (.drain a ..), y => y = none ∨ ∃ handled stage, y = some (.drain a handled stage)

variable {s s' s'' : State} {d d' : Desk} {home r : RuntimeId} {goal : Goal} {a : ActorId}
  {k : CallId} {item : Action} {rest : List Action} {past : List State}

/-! ### The queue -/

namespace State.Sealed

theorem closed (h : s.Sealed r) : s.closed r = true := by
  cases found : s.runtimes.get? r with
  | none => simp [State.Sealed, scheduler, found] at h
  | some rt =>
    simp only [State.Sealed, scheduler_of_found found, Scheduler.mk.injEq] at h
    simp [State.closed, found, h.2]

theorem enqueue (h : s.Sealed r) (p : Priority) (e : Entry) :
    s.enqueue r p e = s.doFirst [.discard e] := by
  rw [State.enqueue, if_pos h.closed]

end State.Sealed

/-- **A closed queue stays closed and empty, and no slice begins on its runtime**, whatever
happens. -/
theorem Transition.sealed (h : Reachable s d) (t : Transition s d s' d') (shut : s.Sealed r) :
    s'.Sealed r ∧ State.begins r s s' = [] := by
  have closed : (s.scheduler r).closed = true := by rw [shut]
  cases t.traffic h r with
  | @feeds new feeds rising nothing none =>
    refine ⟨?_, none⟩
    have still : (s'.scheduler r).closed = true := feeds.closed.trans closed
    have empty : ∀ p, (s'.scheduler r).queue.band p = [] := by
      intro p
      rw [feeds.band p, feeds.shut closed p, List.append_nil, shut]
      cases p <;> rfl
    have bare : (s'.scheduler r).queue = {} := RunQueue.eq_empty (by
      rw [RunQueue.toList]
      simp only [List.append_eq_nil_iff]
      exact ⟨⟨empty .high, empty .normal⟩, empty .low⟩)
    rw [State.Sealed, ← bare, ← still]
  | takes asks running => cases closed.symm.trans running
  | closes quiet running => cases closed.symm.trans running

theorem Leads.sealed (h : Reachable s d) (l : Leads s d s' d') (shut : s.Sealed r) :
    s'.Sealed r := by
  induction l with
  | refl => exact shut
  | next l t ih => exact (t.sealed (h.leads l) ih).1

/-- Dropping a runtime closes its queue, and drops the work that it held, in the order in which it
would have been served. -/
theorem Move.seals (sound : Sound s d) (m : Move s d s' (.closing r)) (idle : s.agenda = []) :
    s'.Sealed r ∧
      s'.agenda = ((s.scheduler r).queue.toList.filter Entry.isWork).map Action.discard := by
  cases m with
  | @close place _ found =>
    obtain ⟨rt, built⟩ := sound.housed.places place r found
    refine ⟨?_, ?_⟩
    · simp [State.Sealed, State.scheduler, State.close, State.log, State.tell, State.doFirst,
        State.modifyRuntime, Store.get?_modify_self, built]
    · simp [State.scheduler, State.close, State.log, State.tell, State.doFirst,
        State.modifyRuntime, built, idle]

/-! ### The slice in progress -/

namespace Slice.GoesOn

theorem refl (x : Option Slice) : Slice.GoesOn x x := by
  rcases x with _ | ⟨t, stage⟩ | ⟨b, handled, stage⟩
  · exact rfl
  · exact .inr ⟨stage, rfl⟩
  · exact .inr ⟨handled, stage, rfl⟩

theorem of_none (x : Option Slice) {y : Option Slice} (none : y = none) : Slice.GoesOn x y := by
  rcases x with _ | ⟨t, stage⟩ | ⟨b, handled, stage⟩
  · exact none
  · exact .inl none
  · exact .inl none

theorem of_task {t : TaskId} {stage stage' : Stage} {x y : Option Slice}
    (before : x = some (.task t stage)) (after : y = some (.task t stage')) : Slice.GoesOn x y := by
  subst before
  exact .inr ⟨stage', after⟩

theorem of_drain {handled handled' : Nat} {stage stage' : HandlerStage} {x y : Option Slice}
    (before : x = some (.drain a handled stage)) (after : y = some (.drain a handled' stage')) :
    Slice.GoesOn x y := by
  subst before
  exact .inr ⟨handled', stage', after⟩

end Slice.GoesOn

/-- On a closed runtime a worker goes on with the slice that it is in the middle of, or that is
over. -/
theorem Work.goesOn (formed : Formed s) (w : Work s home s') (shut : s.closed home = true) :
    Slice.GoesOn (s.slice home) (s'.slice home) := by
  have takes : ∀ {e : Entry} {queue : RunQueue Entry}, s.Takes home e queue → False := by
    rintro e queue ⟨rt, found, -, running, -⟩
    simp [State.closed, found, running] at shut
  have same : s'.slice home = s.slice home → Slice.GoesOn (s.slice home) (s'.slice home) :=
    fun eq => eq ▸ .refl _
  have line : ∀ {c : Context} {hand hand' : List Resource} {x : State},
      Changes c s hand x hand' → x.slice home = s.slice home := fun hc =>
    (hc.keeps formed).slice home
  have paused : ∀ (x : State) (later : Option (List Event)),
      (x.modifyRuntime home fun rt => { rt with paused := later }).slice home = x.slice home :=
    fun x later => State.slice_modifyRuntime_same home fun _ => rfl
  cases w with
  | stop _ free => exact same rfl
  | lost during => exact .of_none _ (State.slice_setSlice_self during)
  | rest during | forgotten during | leave during | drained during =>
    exact .of_none _ (State.slice_setSlice_self during)
  | again during | drainAgain during =>
    exact .of_none _ ((Effect.slice_enqueue _ _ _ home).trans (State.slice_setSlice_self during))
  | next runs polling changes =>
    have still := line changes
    exact same still
  | pause later runs polling changes =>
    have still := line changes
    exact same ((paused _ _).trans still)
  | suspend runs polling changes =>
    exact .of_task polling (State.slice_setSlice_self ((line changes).trans polling))
  | ends told runs changes =>
    rcases runs.slice with during | during
    all_goals exact .of_task during (State.slice_setSlice_self ((line changes).trans during))
  | endBody trace cancelled during | complete trace during =>
    exact .of_task during (State.slice_setSlice_self during)
  | receive during | reply trace outcome during =>
    exact .of_drain during (State.slice_setSlice_self during)
  | handle during changes | handled result during changes =>
    exact .of_drain during (State.slice_setSlice_self ((line changes).trans during))
  | hold later during changes =>
    exact .of_drain during ((paused _ _).trans
      (State.slice_setSlice_self ((line changes).trans during)))
  | begin due | refuse due | beginDrain due | markerStop due | markerSkip due =>
    exact (takes due).elim
  | markerAgain band goal due => exact (takes due).elim

/-- **No slice begins on a closed runtime**; the one in progress goes on, or it is over. -/
theorem Transition.goesOn (h : Reachable s d) (t : Transition s d s' d') (shut : s.Sealed r) :
    Slice.GoesOn (s.slice r) (s'.slice r) := by
  have sound := h.sound
  have same : s'.slice r = s.slice r → Slice.GoesOn (s.slice r) (s'.slice r) :=
    fun eq => eq ▸ .refl _
  cases t with
  | step =>
    have next := State.step_cases sound.wakeful.waitsOnOwn
    generalize s.step = s' at next same
    cases next with
    | item first e =>
      refine same ((e.slice r).trans ?_)
      rw [first]
      rfl
    | @work home goal _ idle active w =>
      by_cases here : home = r
      · subst here
        exact w.goesOn sound.formed shut.closed
      · exact same (w.slice_of_ne sound.formed here)
    | rest => exact .refl _
  | stray => exact .refl _
  | move rests m => exact same (m.slice sound.formed (State.idle_of_resting rests) r)

/-! ### The cascade -/

/-- While the agenda is worked off nothing enters a mailbox. -/
theorem Unrolls.mailbox (h : Unrolls rest s s') (a : ActorId) :
    s'.mailbox a = s.mailbox a ∨ s'.mailbox a = [] := by
  refine h.invariant (I := fun x => x.mailbox a = s.mailbox a ∨ x.mailbox a = []) (.inl rfl)
    fun {x item as y} _ _ e before => ?_
  by_cases abandons : item = .abandon a
  · subst abandons
    exact .inr e.abandoned.1
  · rw [(e.alike abandons).mailbox]
    exact before

/-- An item that is no reply to a call leaves what its caller can learn. -/
theorem Effect.unanswered (e : Effect s item s') (other : ∀ o, item ≠ .answer k o) :
    (s'.calls.get? k).bind Call.outcome = (s.calls.get? k).bind Call.outcome := by
  have same : ∀ {j : CallId} {f : Call → Call}, (∀ m, (f m).outcome = m.outcome) →
      ((s.calls.modify j f).get? k).bind Call.outcome = (s.calls.get? k).bind Call.outcome := by
    intro j f keeps
    rw [Store.get?_modify]
    split
    · cases s.calls.get? k with
      | none => rfl
      | some call => exact keeps call
    · rfl
  cases e with
  | @answer j outcome call found =>
    have apart : j ≠ k := fun here => other outcome (by rw [here])
    simp only [State.doFirst, State.modifyCall, Store.get?_modify_of_ne apart]
  | dropAnswered | dropPending => exact same fun _ => rfl
  | resume =>
    unfold State.enqueue
    split <;> rfl
  | _ => rfl

/-- A reply that is about to be written is the first one. -/
theorem Reachable.unheard (h : Reachable s d) {o : Except ActorError Int64}
    (pledged : .answer k o ∈ s.agenda) :
    ∃ call, s.calls.get? k = some call ∧ call.outcome = none := by
  obtain ⟨past, trail⟩ := h.trail
  have some : 0 < s.pledged k fun _ => true :=
    List.countP_pos_iff.2 ⟨_, pledged, by simp [Action.answers]⟩
  obtain ⟨call, found⟩ := trail.known some
  exact ⟨call, found, (trail.unheard found some).2.1⟩

/-- A call among the messages of an actor is about to learn that its message is dropped: the
messages still wait for that, or the reply is about to be written, or it was. -/
def State.Abandoned (s : State) (a : ActorId) (ms : List Message) (k : CallId) : Prop :=
  s.doom a ≠ 0 ∧ s.mailbox a = ms ∨ .answer k (.error .dropped) ∈ s.agenda ∨
    (s.calls.get? k).bind Call.outcome = some (.error .dropped)

/-- **The calls among the messages of a dropped slice learn of it**, once the agenda is worked
off. -/
theorem Unrolls.abandons (h : Unrolls [] s s') (reachable : Reachable s d) (idle : s'.agenda = [])
    (doomed : s.doom a ≠ 0) :
    s'.mailbox a = [] ∧ ∀ m ∈ s.mailbox a, ∀ k, m.reply = some k →
      (s'.calls.get? k).bind Call.outcome = some (.error .dropped) := by
  have gone : s'.doom a = 0 := by simp [State.doom, idle]
  refine ⟨?_, fun m hm k mine => ?_⟩
  · have empty : s'.doom a ≠ 0 ∨ s'.mailbox a = [] := by
      refine h.invariant (I := fun x => x.doom a ≠ 0 ∨ x.mailbox a = []) (.inl doomed)
        fun {x item as y} _ _ e before => ?_
      by_cases abandons : item = .abandon a
      · subst abandons
        exact .inr e.abandoned.1
      · rw [(e.alike abandons).doom, (e.alike abandons).mailbox]
        exact before
    exact empty.resolve_left (absurd gone)
  · have learns : s'.Abandoned a (s.mailbox a) k := by
      refine h.invariant (I := fun x => x.Abandoned a (s.mailbox a) k) (.inl ⟨doomed, rfl⟩)
        fun {x item as y} way _ e before => ?_
      rcases before with ⟨waits, mail⟩ | pledged | known
      · -- the slice is dropped, and the messages with it
        by_cases abandons : item = .abandon a
        · subst abandons
          refine .inr (.inl ?_)
          cases e with
          | spent missing =>
            have none : x.actors.get? a = none := missing
            have nothing : (x.doFirst [.abandon a]).mailbox a = [] := by
              simp [State.mailbox, State.doFirst, none]
            rw [← mail, nothing] at hm
            cases hm
          | @abandon _ actor trace found =>
            have mail' : actor.mailbox = s.mailbox a := by
              rw [← mail]
              simp [State.mailbox, State.doFirst, found]
            refine List.mem_append_left _ (List.mem_map_of_mem ?_)
            rw [mail']
            exact List.mem_filterMap.2 ⟨m, hm, mine⟩
        · rw [State.Abandoned, (e.alike abandons).doom, (e.alike abandons).mailbox]
          exact .inl ⟨waits, mail⟩
      · -- the reply is written, or is still to be
        rcases List.mem_cons.1 pledged with first | later
        · subst first
          obtain ⟨call, found, -⟩ := (reachable.leads (way.leads d)).unheard pledged
          refine .inr (.inr ?_)
          cases e with
          | spent missing => cases found.symm.trans missing
          | answer _ found' =>
            simp [State.doFirst, State.modifyCall, Store.get?_modify_self, found']
        · refine .inr (.inl ?_)
          rcases e.agenda with kept | ⟨-, panicked⟩
          · exact kept later
          · rw [panicked]
            exact List.mem_filterMap.2 ⟨_, later, rfl⟩
      · -- there is no other reply to that call
        refine .inr (.inr ((e.unanswered fun o again => ?_).trans known))
        subst again
        obtain ⟨call, found, open_⟩ :=
          (reachable.leads (way.leads d)).unheard (o := o) List.mem_cons_self
        rw [found, Option.bind_some, open_] at known
        cases known
    rcases learns with ⟨waits, -⟩ | pledged | known
    · exact absurd gone waits
    · simp [idle] at pledged
    · exact known

/-! ### What follows -/

/-- **What follows after a runtime was dropped**, whatever its queue held, whatever slice was in
progress, and however the run goes on.

* The work that was queued is dropped, in the order in which it would have been served, and the
  slices of actors among it take their messages with them.
* The queue takes nothing more: it stays empty, and every entry that is put into it is dropped.
* No slice of a task or of an actor begins on the runtime any more; the one in progress goes on, or
  it is over.
* Wherever the run has got to, what is to be done comes to an end.  On the way nothing is put into
  the queue or into a mailbox, and mailboxes that are emptied stay so.  The messages of a slice that
  is about to be dropped are gone then, and every call among them has learnt of it. -/
theorem shutdown_final {s₁ : State} (h : Reachable s d) (rests : s.resting = true)
    (m : Move s d s₁ (.closing r)) (l : Leads s₁ (.closing r) s' d') :
    (s₁.agenda = ((s.scheduler r).queue.toList.filter Entry.isWork).map Action.discard ∧
      ∀ a, .drain a ∈ (s.scheduler r).queue.toList → s₁.doom a ≠ 0) ∧
    s'.Sealed r ∧ (∀ p e, s'.enqueue r p e = s'.doFirst [.discard e]) ∧
    (∀ s'' d'', Transition s' d' s'' d'' →
      s''.Sealed r ∧ State.begins r s' s'' = [] ∧ Slice.GoesOn (s'.slice r) (s''.slice r)) ∧
    ∃ x, Unrolls [] s' x ∧ x.agenda = [] ∧
      (∀ y, Unrolls [] s' y → y.Sealed r ∧ ∀ a, y.mailbox a = s'.mailbox a ∨ y.mailbox a = []) ∧
      ∀ a, s'.doom a ≠ 0 → x.mailbox a = [] ∧
        ∀ message ∈ s'.mailbox a, ∀ k, message.reply = some k →
          (x.calls.get? k).bind Call.outcome = some (.error .dropped) := by
  have closed : Reachable s₁ (.closing r) := h.next (.move rests m)
  obtain ⟨shut, dropped⟩ := m.seals h.sound (State.idle_of_resting rests)
  have reachable := closed.leads l
  have stays := l.sealed closed shut
  obtain ⟨x, way, idle⟩ := reachable.worked_off
  refine ⟨⟨dropped, fun a queued => ?_⟩, stays, stays.enqueue, fun s'' d'' t => ?_, x, way, idle,
    fun y way => ?_, fun a doomed => way.abandons reachable idle doomed⟩
  · have pending : .discard (.drain a) ∈ s₁.agenda := by
      rw [dropped]
      exact List.mem_map_of_mem (List.mem_filter.2 ⟨queued, rfl⟩)
    exact Nat.ne_of_gt (List.countP_pos_iff.2 ⟨_, pending, by simp [Action.dooms]⟩)
  · obtain ⟨shut', none⟩ := t.sealed reachable stays
    exact ⟨shut', none, t.goesOn reachable stays⟩
  · exact ⟨(way.leads d').sealed reachable stays, way.mailbox⟩

/-- A task is held while its runtime is dropped.  When it goes on it calls an actor, whose slice is
dropped at once, and the call learns of it. -/
theorem shutdown_final_held : ∃ s s₁ s' x, Reachable s .clear ∧ s.resting = true ∧
    Move s .clear s₁ (.closing ⟨0⟩) ∧ Leads s₁ (.closing ⟨0⟩) s' .clear ∧
    (s'.slice ⟨0⟩).any (Slice.runs ⟨0⟩) = true ∧ Unrolls [] s' x ∧
    (x.calls.get? ⟨0⟩).bind Call.outcome = some (.error .dropped) := by
  have built : Reachable _ .clear := Reachable.init.next (.move rfl (.build 0 none none))
  have made := built.next (.move (by decide) (.line (show State.plain? _ { who := .main } []
    ⟨"actor", none, some "mail", true⟩ (.actor [] none) = some _ from rfl)))
  have spawning := (reachable_run made 1).next (.move (by decide) .shelve)
  have spawned := spawning.next (.move (by decide) (.line (show State.plain? _ { who := .main } []
    ⟨"rt_spawn", none, some "late", true⟩ (.spawnOn 0 none lateBody) = some _ from rfl)))
  have starting := (reachable_run spawned 1).next (.move (by decide) .shelve)
  have held := reachable_run (starting.next (.move (by decide)
    (.start (show Store.get? _ 0 = some ⟨0⟩ by decide)))) 10
  obtain ⟨-, -, -, -, x, way, -, -, abandons⟩ := shutdown_final held (by decide +kernel)
    (.close (show Store.get? _ 0 = some ⟨0⟩ by decide +kernel))
    (((leads_run 1 _ _).next (.move (by decide +kernel) .join)).trans (leads_run 1 _ _))
  obtain ⟨-, learns⟩ := abandons ⟨0⟩ (by decide +kernel)
  exact ⟨_, _, _, x, held, by decide +kernel,
    .close (show Store.get? _ 0 = some (⟨0⟩ : RuntimeId) by decide +kernel),
    ((leads_run 1 _ _).next (.move (by decide +kernel) .join)).trans (leads_run 1 _ _),
    by decide +kernel, way, learns _ List.mem_cons_self ⟨0⟩ rfl⟩

end Nursery
