import Nursery.Proofs.Invariant.Sound

/-!
# Who carries a mailbox

An actor with messages has one slice that is due.  It is queued or running on the runtime whose
thread found the actor without one, its carrier, or it was refused there and is about to be
dropped, with all the messages that wait.  Neither the carrier nor the threads on which the
messages were accepted are part of a state, so a run keeps a ledger of them.

* `Ledger`, `Kept` : the ledger of an actor, and a run that keeps it.
* `State.load`, `State.doom` : where the slice of an actor is.
* `Carried` : the invariant.
* `Kept.carried` : it holds along every run.
-/

namespace Nursery

namespace State

/-- The messages that wait for an actor. -/
def mailbox (s : State) (a : ActorId) : List Message :=
  ((s.actors.get? a).map Actor.mailbox).getD []

/-- A slice of an actor is due. -/
def due (s : State) (a : ActorId) : Bool :=
  ((s.actors.get? a).map Actor.scheduled).getD false

/-- The runtime whose thread is at work. -/
def thread (s : State) : Option RuntimeId :=
  s.active.map Prod.fst

end State

/-- What a run tells of an actor that the state does not. -/
structure Ledger where
  /-- The runtimes on whose threads the messages that wait were accepted, in their order. -/
  senders : List RuntimeId := []
  /-- The runtime whose thread found the actor without a slice, while one is due. -/
  carrier : Option RuntimeId := none

/-- The ledger after a transition: messages leave a mailbox at its front and enter it at its back,
and a slice that is due stays with its carrier. -/
def Ledger.next (l : Ledger) (a : ActorId) (s s' : State) : Ledger where
  senders := l.senders.drop ((s.mailbox a).length - (s'.mailbox a).length) ++
    s.thread.toList.flatMap (List.replicate ((s'.mailbox a).length - (s.mailbox a).length))
  carrier := if s'.due a then if s.due a then l.carrier else s.thread else none

/-- A state that some run gets to, with the ledger of an actor that it has kept. -/
inductive Kept (a : ActorId) : State → Desk → Ledger → Prop where
  /-- Nothing has happened yet. -/
  | init : Kept a {} .clear {}
  /-- One transition later. -/
  | next {s s' : State} {d d' : Desk} {l : Ledger} (h : Kept a s d l) (t : Transition s d s' d') :
      Kept a s' d' (l.next a s s')

/-- An item that comes to the end of the messages of an actor. -/
def Action.dooms (a : ActorId) : Action → Bool
  | .discard (.drain b) | .abandon b => decide (b = a)
  | _ => false

/-- Whether a worker is in a slice of an actor, as a number. -/
def sliceLoad (a : ActorId) : Option Slice → Nat
  | some (.drain b ..) => if b = a then 1 else 0
  | _ => 0

/-- How many slices of an actor are queued or running on a runtime. -/
def Runtime.load (rt : Runtime) (a : ActorId) : Nat :=
  rt.queue.toList.count (.drain a) + sliceLoad a rt.slice

namespace State

/-- How many slices of an actor are queued or running on a runtime. -/
def load (s : State) (r : RuntimeId) (a : ActorId) : Nat :=
  ((s.runtimes.get? r).map fun rt => rt.load a).getD 0

/-- How many slices of an actor are about to be dropped. -/
def doom (s : State) (a : ActorId) : Nat :=
  s.agenda.countP (Action.dooms a)

end State

/-- The slice of an actor is where its carrier is. -/
structure Carried (s : State) (a : ActorId) (l : Ledger) : Prop where
  /-- Every message that waits has a sender. -/
  senders : l.senders.length = (s.mailbox a).length
  /-- Without a slice that is due, nobody carries one and no message waits. -/
  idle : s.due a = false → l.carrier = none ∧ s.mailbox a = []
  /-- The slice that is due is with the carrier, or about to be dropped. -/
  here : ∀ r, l.carrier = some r → s.load r a + s.doom a = 1
  /-- There is none elsewhere. -/
  elsewhere : ∀ r, l.carrier ≠ some r → s.load r a = 0
  /-- Only what a closed runtime carried is about to be dropped. -/
  closed : s.doom a ≠ 0 → ∃ r, l.carrier = some r ∧ s.closed r = true

/-- Nothing has happened to an actor and to its slice. -/
structure Alike (a : ActorId) (s s' : State) : Prop where
  /-- The same messages wait. -/
  mailbox : s'.mailbox a = s.mailbox a
  /-- A slice is due as before. -/
  due : s'.due a = s.due a
  /-- It is where it was. -/
  load : ∀ r, s'.load r a = s.load r a
  /-- It is dropped as before. -/
  doom : s'.doom a = s.doom a
  /-- Its runtime stays closed. -/
  closed : s.doom a ≠ 0 → ∀ r, s.closed r = true → s'.closed r = true

variable {s s' s'' : State} {d d' : Desk} {a b : ActorId} {l : Ledger} {c : Context}
  {hand hand' : List Resource} {home : RuntimeId} {goal : Goal} {e : Action}

/-! ### Where a slice is -/

namespace State

@[simp]
theorem doom_doFirst (as : List Action) :
    (s.doFirst as).doom a = as.countP (Action.dooms a) + s.doom a :=
  List.countP_append

@[simp]
theorem doom_doLast (as : List Action) :
    (s.doLast as).doom a = s.doom a + as.countP (Action.dooms a) :=
  List.countP_append

theorem load_of_get? {r : RuntimeId} {rt : Runtime} (found : s.runtimes.get? r = some rt) :
    s.load r a = rt.load a := by
  simp [load, found]

theorem load_modifyRuntime_same {f : Runtime → Runtime} (same : ∀ rt, (f rt).load a = rt.load a)
    (r : RuntimeId) : (s.modifyRuntime home f).load r a = s.load r a :=
  congrArg (Option.getD · 0) (Store.map_get?_modify_same same)

theorem load_modifyRuntime_of_ne {f : Runtime → Runtime} {r : RuntimeId} (hr : home ≠ r) :
    (s.modifyRuntime home f).load r a = s.load r a := by
  simp only [load, modifyRuntime, Store.get?_modify_of_ne hr]

theorem load_modifyRuntime_self {f : Runtime → Runtime} {rt : Runtime}
    (found : s.runtimes.get? home = some rt) :
    (s.modifyRuntime home f).load home a = (f rt).load a := by
  simp [load, modifyRuntime, Store.get?_modify_self, found]

theorem closed_modifyRuntime {f : Runtime → Runtime} (same : ∀ rt, (f rt).closed = rt.closed)
    (r : RuntimeId) : (s.modifyRuntime home f).closed r = s.closed r :=
  congrArg (Option.getD · true) (Store.map_get?_modify_same same)

theorem alike_enqueue (p : Priority) {e : Entry} (other : e ≠ .drain a) :
    Alike a s (s.enqueue home p e) := by
  have calm : Action.dooms a (.discard e) = false := by
    cases e with
    | drain b => simpa [Action.dooms] using other
    | task | marker => rfl
  unfold enqueue
  split
  · exact ⟨rfl, rfl, fun _ => rfl, by simp [calm], fun _ _ h => h⟩
  · refine ⟨rfl, rfl, load_modifyRuntime_same fun rt => ?_, rfl, fun _ r h => ?_⟩
    · simp only [Runtime.load, RunQueue.count_push]
      rw [List.count_cons_of_ne other]
    · rwa [closed_modifyRuntime fun _ => by rfl]

theorem load_enqueue_drain (p : Priority) :
    (s.enqueue home p (.drain a)).load home a + (s.enqueue home p (.drain a)).doom a =
      s.load home a + s.doom a + 1 := by
  unfold enqueue
  split
  · have same : (s.doFirst [.discard (.drain a)]).load home a = s.load home a := rfl
    rw [same, doom_doFirst]
    simp [Action.dooms]
    omega
  · rename_i running
    have same :
        (s.modifyRuntime home fun rt => { rt with queue := rt.queue.push p (.drain a) }).doom
        a = s.doom a := rfl
    cases found : s.runtimes.get? home with
    | none => simp [closed, found] at running
    | some rt =>
      rw [same, load_modifyRuntime_self found, load_of_get? found]
      simp only [Runtime.load, RunQueue.count_push, List.count_cons_self]
      omega

theorem load_enqueue_of_ne (p : Priority) (e : Entry) {r : RuntimeId} (hr : home ≠ r) :
    (s.enqueue home p e).load r a = s.load r a := by
  unfold enqueue
  split
  · rfl
  · exact load_modifyRuntime_of_ne hr

theorem doom_enqueue_drain (s : State) (home : RuntimeId) (a : ActorId) (p : Priority) :
    (s.enqueue home p (.drain a)).doom a = s.doom a ∨ s.closed home = true := by
  unfold enqueue
  split
  · rename_i shut
    exact .inr shut
  · exact .inl rfl

theorem closed_enqueue (p : Priority) (e : Entry) (r : RuntimeId) :
    (s.enqueue home p e).closed r = s.closed r := by
  unfold enqueue
  split
  · rfl
  · exact closed_modifyRuntime (fun _ => by rfl) r

theorem load_setSlice {old new : Option Slice} (during : s.slice home = old)
    (same : sliceLoad a new = sliceLoad a old) (r : RuntimeId) :
    (s.setSlice home new).load r a = s.load r a := by
  by_cases hr : home = r
  · subst hr
    cases found : s.runtimes.get? home with
    | none =>
      simp [load, setSlice, modifyRuntime, Store.get?_modify_self, found]
    | some rt =>
      have slice : rt.slice = old := by simpa [State.slice, found] using during
      rw [setSlice, load_modifyRuntime_self found, load_of_get? found]
      simp only [Runtime.load, slice, same]
  · exact load_modifyRuntime_of_ne hr

end State

namespace Alike

theorem refl (s : State) : Alike a s s where
  mailbox := rfl
  due := rfl
  load _ := rfl
  doom := rfl
  closed _ _ h := h

theorem trans (h : Alike a s s') (h' : Alike a s' s'') : Alike a s s'' where
  mailbox := h'.mailbox.trans h.mailbox
  due := h'.due.trans h.due
  load r := (h'.load r).trans (h.load r)
  doom := h'.doom.trans h.doom
  closed doomed r shut := h'.closed (h.doom ▸ doomed) r (h.closed doomed r shut)

theorem of_eq (actors : s'.actors = s.actors) (runtimes : s'.runtimes = s.runtimes)
    (agenda : s'.agenda = s.agenda) : Alike a s s' where
  mailbox := by simp only [State.mailbox, actors]
  due := by simp only [State.due, actors]
  load r := by simp only [State.load, runtimes]
  doom := by simp only [State.doom, agenda]
  closed _ r h := by simpa only [State.closed, runtimes] using h

theorem doFirst (h : Alike a s s') {as : List Action} (calm : ∀ b ∈ as, b.dooms a = false) :
    Alike a s (s'.doFirst as) := by
  have none : as.countP (Action.dooms a) = 0 :=
    List.countP_eq_zero.2 fun b hb => by simp [calm b hb]
  exact { h with doom := by rw [State.doom_doFirst, none, Nat.zero_add, h.doom] }

theorem doLast (h : Alike a s s') {as : List Action} (calm : ∀ b ∈ as, b.dooms a = false) :
    Alike a s (s'.doLast as) := by
  have none : as.countP (Action.dooms a) = 0 :=
    List.countP_eq_zero.2 fun b hb => by simp [calm b hb]
  exact { h with doom := by rw [State.doom_doLast, none, Nat.add_zero, h.doom] }

theorem setSlice (h : Alike a s s') {old : Option Slice} (during : s'.slice home = old)
    (new : Option Slice) (same : sliceLoad a new = sliceLoad a old) :
    Alike a s (s'.setSlice home new) where
  mailbox := h.mailbox
  due := h.due
  load r := (State.load_setSlice during same r).trans (h.load r)
  doom := h.doom
  closed doomed r shut := by
    rw [State.setSlice, State.closed_modifyRuntime fun _ => by rfl]
    exact h.closed doomed r shut

theorem setPaused (home : RuntimeId) (later : Option (List Event)) :
    Alike a s (s.modifyRuntime home fun rt => { rt with paused := later }) where
  mailbox := rfl
  due := rfl
  load := State.load_modifyRuntime_same fun _ => by rfl
  doom := rfl
  closed _ r h := by rwa [State.closed_modifyRuntime fun _ => by rfl]

end Alike

namespace Carried

theorem next_eq (h : Carried s a l) (mailbox : s'.mailbox a = s.mailbox a)
    (due : s'.due a = s.due a) : l.next a s s' = l := by
  obtain ⟨senders, carrier⟩ := l
  have kept : (if s'.due a then if s.due a then carrier else s.thread else none) = carrier := by
    rw [due]
    cases free : s.due a with
    | false => exact (h.idle free).1.symm
    | true => rfl
  simp only [Ledger.next, mailbox, Nat.sub_self, List.drop_zero, kept]
  cases s.thread <;> simp

theorem alike (h : Carried s a l) (same : Alike a s s') : Carried s' a l where
  senders := by rw [h.senders, same.mailbox]
  idle free := by
    rw [same.mailbox]
    exact h.idle (same.due ▸ free)
  here r carries := by
    rw [same.load, same.doom]
    exact h.here r carries
  elsewhere r other := by
    rw [same.load]
    exact h.elsewhere r other
  closed doomed := by
    rw [same.doom] at doomed
    obtain ⟨r, carries, shut⟩ := h.closed doomed
    exact ⟨r, carries, same.closed doomed r shut⟩

theorem next_alike (h : Carried s a l) (same : Alike a s s') : Carried s' a (l.next a s s') := by
  rw [h.next_eq same.mailbox same.due]
  exact h.alike same

theorem init : Carried {} a {} where
  senders := rfl
  idle _ := ⟨rfl, rfl⟩
  here _ carries := by cases carries
  elsewhere _ _ := rfl
  closed doomed := absurd rfl doomed

theorem unborne (h : Carried s a l) (free : s.due a = false) :
    (∀ r, s.load r a = 0) ∧ s.doom a = 0 := by
  have nobody := (h.idle free).1
  refine ⟨fun r => h.elsewhere r (by simp [nobody]), ?_⟩
  by_contra doomed
  obtain ⟨r, carries, -⟩ := h.closed doomed
  simp [nobody] at carries

theorem free (h : Carried s a l) (mailbox : s'.mailbox a = []) (due : s'.due a = false)
    (load : ∀ r, s'.load r a = 0) (doom : s'.doom a = 0) : Carried s' a (l.next a s s') where
  senders := by
    simp only [Ledger.next, mailbox, List.length_append, List.length_drop, h.senders]
    cases s.thread <;> simp
  idle _ := ⟨by simp [Ledger.next, due], mailbox⟩
  here r carries := by simp [Ledger.next, due] at carries
  elsewhere r _ := load r
  closed doomed := absurd doom doomed

end Carried

/-! ### Items of the agenda -/

/-- A change to another actor. -/
theorem Alike.modifyActor {f : Actor → Actor} (other : b ≠ a) : Alike a s (s.modifyActor b f) where
  mailbox := by simp only [State.mailbox, State.modifyActor, Store.get?_modify_of_ne other]
  due := by simp only [State.due, State.modifyActor, Store.get?_modify_of_ne other]
  load _ := rfl
  doom := rfl
  closed _ _ h := h

@[simp]
theorem dooms_forget (w : Waker) : w.forget.dooms a = false := by
  cases w <;> rfl

theorem dooms_afterPanic (as : List Action) :
    (as.filterMap Action.afterPanic).countP (Action.dooms a) = as.countP (Action.dooms a) := by
  induction as with
  | nil => rfl
  | cons first rest ih =>
    cases first with
    | wake w =>
      simp [Action.afterPanic, ih]
      rfl
    | _ => simp [List.filterMap_cons, Action.afterPanic, List.countP_cons, Action.dooms, ih]

/-- Only the end of its messages happens to an actor through the agenda. -/
theorem Effect.alike (h : Effect s e s') (other : e ≠ .abandon a) :
    Alike a (s.doFirst [e]) s' := by
  have pop : e.dooms a = false → Alike a (s.doFirst [e]) s := fun calm =>
    ⟨rfl, rfl, fun _ => rfl, by simp [calm], fun _ _ shut => shut⟩
  cases h with
  | spent why =>
    refine pop ?_
    cases e with
    | abandon b => simpa [Action.dooms] using other
    | discard entry =>
      cases entry with
      | drain => exact why.elim
      | task | marker => rfl
    | _ => rfl
  | orphan | reap | reportFailure | record | dropPending =>
    exact (pop rfl).trans (.of_eq rfl rfl rfl)
  | resume =>
    refine (pop rfl).trans (.trans ?_ (State.alike_enqueue _ (by simp)))
    exact .of_eq rfl rfl rfl
  | finish =>
    refine (pop rfl).trans (.doFirst ?_ ?_)
    · exact .of_eq rfl rfl rfl
    · split <;> simp [Action.dooms]
  | reapLast =>
    refine (pop rfl).trans (.doFirst ?_ ?_)
    · exact .of_eq rfl rfl rfl
    · rw [List.forall_mem_append]
      constructor <;> split <;> simp [Action.dooms]
  | forget =>
    refine (pop rfl).trans (.doFirst ?_ ?_)
    · exact .of_eq rfl rfl rfl
    · rw [List.forall_mem_append, List.forall_mem_map, List.forall_mem_singleton]
      exact ⟨fun _ _ => rfl, rfl⟩
  | bury =>
    refine (pop rfl).trans (.doFirst ?_ ?_)
    · exact .of_eq rfl rfl rfl
    · rw [List.forall_mem_map]
      exact fun w _ => dooms_forget w
  | cancel | trip | announce | answer | dropHandle | dropAnswered | dissolve | silence | wakeWaiters
  | notify | awake | inform | dropGroup | dropUndrained | discardTask =>
    refine (pop rfl).trans (.doFirst ?_ ?_)
    · exact .of_eq rfl rfl rfl
    · simp [Action.dooms, or_imp, forall_and]
  | panic =>
    exact ⟨rfl, rfl, fun _ => rfl, by
      simp [State.doom, State.doFirst, dooms_afterPanic, Action.dooms], fun _ _ shut => shut⟩
  | discardDrain b =>
    exact ⟨rfl, rfl, fun _ => rfl, by simp [Action.dooms], fun _ _ shut => shut⟩
  | @abandon b actor trace found =>
    -- the messages of another actor
    have hb : b ≠ a := by
      rintro rfl
      exact other rfl
    refine (pop (by simp [Action.dooms, hb])).trans (.doFirst ?_ ?_)
    · exact (Alike.modifyActor hb).trans (.of_eq rfl rfl rfl)
    · rw [List.forall_mem_map]
      exact fun _ _ => rfl

/-- The messages of an actor are dropped, and no slice of it is due any more. -/
theorem Effect.abandoned (h : Effect s (.abandon a) s') : s'.mailbox a = [] ∧ s'.due a = false := by
  cases h with
  | spent missing =>
    have missing' : s.actors.get? a = none := missing
    simp [State.mailbox, State.due, missing']
  | @abandon _ actor trace found =>
    simp [State.mailbox, State.due, State.doFirst, State.modifyActor, Store.get?_modify_self, found]

/-- The messages of an actor are dropped with its slice. -/
theorem Carried.abandon (h : Carried (s.doFirst [.abandon a]) a l) (e : Effect s (.abandon a) s') :
    Carried s' a (l.next a (s.doFirst [.abandon a]) s') := by
  have doomed : (s.doFirst [.abandon a]).doom a = s.doom a + 1 := by
    simp [Action.dooms, Nat.add_comm]
  -- it was the only slice, so none is left
  have left : (∀ r, s.load r a = 0) ∧ s.doom a = 0 := by
    obtain ⟨r, carries, -⟩ := h.closed (by omega)
    have one : s.load r a + (s.doFirst [.abandon a]).doom a = 1 := h.here r carries
    refine ⟨fun r' => ?_, by omega⟩
    by_cases same : l.carrier = some r'
    · have one' : s.load r' a + (s.doFirst [.abandon a]).doom a = 1 := h.here r' same
      omega
    · exact h.elsewhere r' same
  obtain ⟨mailbox, due⟩ := e.abandoned
  cases e with
  | spent => exact h.free mailbox due left.1 left.2
  | @abandon _ actor trace found =>
    refine h.free mailbox due left.1 ?_
    have calm : ((actor.mailbox.filterMap Message.reply).map fun k =>
        Action.answer k (.error .dropped)).countP (Action.dooms a) = 0 := by
      simp [List.countP_map, Function.comp_def, Action.dooms]
    rw [State.doom_doFirst, calm, Nat.zero_add]
    exact left.2

/-! ### Lines -/

/-- While a line runs, messages are only added to a mailbox, and who carries it does so on. -/
structure Grows (a : ActorId) (l : Ledger) (s s' : State) : Prop where
  /-- The messages that waited still wait. -/
  kept : s.mailbox a <+: s'.mailbox a
  /-- A slice that was due is still due. -/
  due : s.due a = true → s'.due a = true
  /-- The slice is where the carrier is. -/
  carried : Carried s' a (l.next a s s')

namespace Grows

theorem refl (h : Carried s a l) : Grows a l s s where
  kept := List.prefix_rfl
  due := id
  carried := h.next_alike (.refl s)

theorem alike (h : Grows a l s s') (same : Alike a s' s'') : Grows a l s s'' where
  kept := by
    rw [same.mailbox]
    exact h.kept
  due was := by
    rw [same.due]
    exact h.due was
  carried := by
    have eq : l.next a s s'' = l.next a s s' := by simp only [Ledger.next, same.mailbox, same.due]
    rw [eq]
    exact h.carried.alike same

theorem senders (h : Grows a l s s') (here : s.thread = some home) {m : Message}
    (mail : s''.mailbox a = s'.mailbox a ++ [m]) :
    (l.next a s s'').senders.length = (s''.mailbox a).length := by
  have before := h.carried.senders
  have kept := h.kept.length_le
  simp only [Ledger.next, here, mail, Option.toList_some, List.flatMap_cons, List.flatMap_nil,
    List.append_nil, List.length_append, List.length_drop, List.length_replicate,
    List.length_singleton] at before ⊢
  omega

theorem accept (h : Grows a l s s') (here : s.thread = some home) {m : Message}
    (mail : s''.mailbox a = s'.mailbox a ++ [m]) (due : s'.due a = true) (due' : s''.due a = true)
    (runtimes : s''.runtimes = s'.runtimes) (agenda : s''.agenda = s'.agenda) :
    Grows a l s s'' := by
  have carrier : (l.next a s s'').carrier = (l.next a s s').carrier := by
    simp only [Ledger.next, due, due']
  have load : ∀ r, s''.load r a = s'.load r a := fun r => by simp only [State.load, runtimes]
  have doom : s''.doom a = s'.doom a := by simp only [State.doom, agenda]
  refine ⟨?_, fun _ => due', h.senders here mail, ?_, ?_, ?_, ?_⟩
  · rw [mail]
    exact h.kept.trans (List.prefix_append _ _)
  · simp [due']
  · intro r carries
    rw [load, doom]
    exact h.carried.here r (carrier ▸ carries)
  · intro r other
    rw [load]
    exact h.carried.elsewhere r (carrier ▸ other)
  · intro doomed
    rw [carrier]
    obtain ⟨r, carries, shut⟩ := h.carried.closed (doom ▸ doomed)
    exact ⟨r, carries, by simpa only [State.closed, runtimes] using shut⟩

theorem found (h : Grows a l s s') (here : s.thread = some home) {m : Message} {p : Priority}
    (mail : s''.mailbox a = s'.mailbox a ++ [m]) (free : s'.due a = false)
    (due : s''.due a = true) (runtimes : s''.runtimes = s'.runtimes)
    (agenda : s''.agenda = s'.agenda) : Grows a l s (s''.enqueue home p (.drain a)) := by
  obtain ⟨load, doom⟩ := h.carried.unborne free
  have load' : ∀ r, s''.load r a = 0 := fun r => by simpa only [State.load, runtimes] using load r
  have doom' : s''.doom a = 0 := by simpa only [State.doom, agenda] using doom
  obtain ⟨runtimes', agenda', eq⟩ := s''.enqueue_eq home p (.drain a)
  have actors : (s''.enqueue home p (.drain a)).actors = s''.actors := by rw [eq]
  have mail' : (s''.enqueue home p (.drain a)).mailbox a = s'.mailbox a ++ [m] := by
    rw [← mail, State.mailbox, actors, State.mailbox]
  have was : s.due a = false := by
    by_contra busy
    rw [Bool.not_eq_false] at busy
    exact absurd (h.due busy) (by simp [free])
  have now : (s''.enqueue home p (.drain a)).due a = true := by
    rw [← due, State.due, actors, State.due]
  have carrier : (l.next a s (s''.enqueue home p (.drain a))).carrier = some home := by
    simp [Ledger.next, now, was, here]
  refine ⟨?_, fun _ => now, h.senders here mail', ?_, ?_, ?_, ?_⟩
  · rw [mail']
    exact h.kept.trans (List.prefix_append _ _)
  · simp [now]
  · intro r carries
    cases carrier.symm.trans carries
    rw [State.load_enqueue_drain, load', doom']
  · intro r other
    have hr : home ≠ r := by
      rintro rfl
      exact other carrier
    rw [State.load_enqueue_of_ne p _ hr, load']
  · intro doomed
    refine ⟨home, carrier, ?_⟩
    rw [State.closed_enqueue]
    rcases s''.doom_enqueue_drain home a p with same | shut
    · exact absurd (same.trans doom') doomed
    · exact shut

theorem post (h : Grows a l s s') (here : s.thread = some home) (b : ActorId) (m : Message) :
    Grows a l s (s'.post b home m) := by
  unfold State.post
  cases found : s'.actors.get? b with
  | none => exact h
  | some actor =>
    dsimp only
    by_cases hb : b = a
    · subst hb
      have mail : (s'.modifyActor b fun n =>
          { n with mailbox := n.mailbox ++ [m], scheduled := true }).mailbox b =
            s'.mailbox b ++ [m] := by
        simp [State.mailbox, State.modifyActor, Store.get?_modify_self, found]
      have due : (s'.modifyActor b fun n =>
          { n with mailbox := n.mailbox ++ [m], scheduled := true }).due b = true := by
        simp [State.due, State.modifyActor, Store.get?_modify_self, found]
      have was : s'.due b = actor.scheduled := by simp [State.due, found]
      split
      · rename_i scheduled
        exact h.accept here mail (was.trans scheduled) due rfl rfl
      · rename_i unscheduled
        exact h.found here mail (was.trans (by simpa using unscheduled)) due rfl rfl
    · have other : Alike a s' (s'.modifyActor b fun n =>
          { n with mailbox := n.mailbox ++ [m], scheduled := true }) := .modifyActor hb
      split
      · exact h.alike other
      · exact (h.alike other).alike (State.alike_enqueue _ (by simpa using hb))

end Grows

/-- A new task goes into a queue. -/
theorem Alike.launch (nodes : Store TaskId Node) (tasks : Store TaskId Task)
    (groups : Store TaskId Group) (trace : Array Event) (p : Priority) (t : TaskId) :
    Alike a s ({ s with nodes := nodes, tasks := tasks, groups := groups, trace := trace }.enqueue
      home p (.task t)) := by
  have same : Alike a s
      { s with nodes := nodes, tasks := tasks, groups := groups, trace := trace } :=
    .of_eq rfl rfl rfl
  exact same.trans (State.alike_enqueue p (by simp))

/-- A line only adds messages of its own thread. -/
theorem Grows.change (formed : Formed s') (hc : Change c s' hand s'' hand')
    (here : c.home = s.thread) (h : Grows a l s s') : Grows a l s s'' := by
  cases hc with
  | tell | shed | nameTask | adopt | share | refuse | learn | draw | fail | register | take =>
    exact h.alike (.of_eq rfl rfl rfl)
  | actor name priority init =>
    -- the new actor is none of those that were known
    have fresh := formed.actors.fresh (k := ⟨s'.actors.size⟩) rfl
    refine h.alike ⟨?_, ?_, fun _ => rfl, rfl, fun _ _ shut => shut⟩
    · by_cases ha : (⟨s'.actors.size⟩ : ActorId) = a
      · subst ha
        simp [State.mailbox, Store.get?_set_self, fresh]
      · simp [State.mailbox, Store.get?_set_of_ne ha]
    · by_cases ha : (⟨s'.actors.size⟩ : ActorId) = a
      · subst ha
        simp [State.due, Store.get?_set_self, fresh]
      · simp [State.due, Store.get?_set_of_ne ha]
  | @state b me xs =>
    refine h.alike ⟨?_, ?_, fun _ => rfl, rfl, fun _ _ shut => shut⟩
    · exact congrArg (Option.getD · []) (Store.map_get?_modify_same fun _ => rfl)
    · exact congrArg (Option.getD · false) (Store.map_get?_modify_same fun _ => rfl)
  | expect | listen =>
    refine h.alike (.doFirst ?_ ?_)
    · exact .of_eq rfl rfl rfl
    · simp [Action.dooms]
  | park =>
    refine h.alike (.doLast ?_ ?_)
    · exact .of_eq rfl rfl rfl
    · simp [Action.dooms]
  | record | release | cancel | wake =>
    exact h.alike ((Alike.refl s').doLast (by simp [Action.dooms]))
  | @spawn home parent priority body =>
    obtain ⟨nodes, trace, -, eq⟩ :=
      State.launch_addNode_eq formed.nodes priority parent home body false
    rw [eq]
    exact h.alike (.launch _ _ s'.groups _ _ _)
  | group =>
    obtain ⟨nodes, trace, priority, -, eq⟩ := State.makeGroup_eq formed.nodes c _
    rw [eq]
    exact h.alike (.of_eq rfl rfl rfl)
  | @add g group priority body =>
    obtain ⟨nodes, trace, p, -, eq⟩ :=
      State.addChild_eq formed.nodes formed.fresh_task g group priority body
    rw [eq]
    exact h.alike (.launch _ _ _ _ _ _)
  | @call b home handler idle mine =>
    have called : Grows a l s { s' with
        calls := s'.calls.set s'.nextCall { accepted := true } } := h.alike (.of_eq rfl rfl rfl)
    exact called.post (here.symm.trans mine) b _
  | send handler idle mine => exact h.post (here.symm.trans mine) _ _

/-- A sequence of changes on one thread only adds messages of that thread. -/
theorem Changes.grows (formed : Formed s) (h : Carried s a l) (here : c.home = s.thread)
    (hc : Changes c s hand s' hand') : Grows a l s s' :=
  (hc.invariant (I := fun x _ => Formed x ∧ Grows a l s x)
    (fun hc h => ⟨h.1.change hc, h.2.change h.1 hc here⟩) ⟨formed, .refl h⟩).2

/-! ### Work -/

/-- The first message of a mailbox is taken up by a worker, and the others still wait. -/
def TakesUp (s s' : State) (a : ActorId) : Prop :=
  ∃ m rest r handled, s.mailbox a = m :: rest ∧ s'.mailbox a = rest ∧
    s'.slice r = some (.drain a handled (.handling m.handler [] m.reply))

namespace Carried

theorem sliced (h : Carried s a l) {handled : Nat} {stage : HandlerStage}
    (during : s.slice home = some (.drain a handled stage)) :
    l.carrier = some home ∧ s.due a = true ∧ s.doom a = 0 ∧
      ∀ r, (s.setSlice home none).load r a = 0 := by
  obtain ⟨rt, found, slice⟩ := State.slice_eq during
  have load : s.load home a = rt.queue.toList.count (.drain a) + 1 := by
    rw [State.load_of_get? found, Runtime.load, slice]
    simp [sliceLoad]
  have carries : l.carrier = some home := by
    by_contra other
    have := h.elsewhere home other
    omega
  have one := h.here home carries
  refine ⟨carries, ?_, by omega, fun r => ?_⟩
  · by_contra free
    have nobody := (h.idle (by simpa using free)).1
    simp [nobody] at carries
  · by_cases hr : home = r
    · subst hr
      rw [State.setSlice, State.load_modifyRuntime_self found]
      simp only [Runtime.load, sliceLoad]
      omega
    · rw [State.setSlice, State.load_modifyRuntime_of_ne hr]
      exact h.elsewhere r (by simp [carries, hr])

end Carried

/-- Anything but the slice of the actor is taken from a queue. -/
theorem Alike.popped {entry : Entry} {queue : RunQueue Entry} (takes : s.Takes home entry queue)
    (other : entry ≠ .drain a) : Alike a s (s.popped home queue) where
  mailbox := rfl
  due := rfl
  load r := by
    obtain ⟨rt, found, -, -, pop⟩ := takes.found
    by_cases hr : home = r
    · subst hr
      rw [State.popped, State.load_modifyRuntime_self found, State.load_of_get? found]
      simp only [Runtime.load, RunQueue.toList_pop? pop]
      rw [List.count_cons_of_ne other]
    · exact State.load_modifyRuntime_of_ne hr
  doom := rfl
  closed _ r shut := by rwa [State.popped, State.closed_modifyRuntime fun _ => by rfl]

/-- The slice of an actor is taken from a queue and begins. -/
theorem Alike.beginDrain {queue : RunQueue Entry} (takes : s.Takes home (.drain b) queue) :
    Alike a s ((s.popped home queue).setSlice home (some (.drain b 0 .idle))) where
  mailbox := rfl
  due := rfl
  load r := by
    obtain ⟨rt, found, free, -, pop⟩ := takes.found
    by_cases hr : home = r
    · subst hr
      have popped : (s.popped home queue).runtimes.get? home = some { rt with queue := queue } := by
        simp [State.popped, State.modifyRuntime, Store.get?_modify_self, found]
      rw [State.setSlice, State.load_modifyRuntime_self popped, State.load_of_get? found]
      simp only [Runtime.load, RunQueue.toList_pop? pop, free, sliceLoad]
      by_cases hb : b = a
      · subst hb
        rw [if_pos rfl, List.count_cons_self]
      · rw [if_neg hb, List.count_cons_of_ne (by simpa using hb)]
    · exact (State.load_modifyRuntime_of_ne hr).trans (State.load_modifyRuntime_of_ne hr)
  doom := rfl
  closed _ r shut := by
    rw [State.setSlice, State.closed_modifyRuntime fun _ => by rfl, State.popped,
      State.closed_modifyRuntime fun _ => by rfl]
    exact shut

namespace Carried

theorem receive (h : Carried s a l) {handled : Nat} {actor : Actor} {m : Message}
    {rest : List Message} (during : s.slice home = some (.drain a handled .idle))
    (found : s.actors.get? a = some actor) (mail : actor.mailbox = m :: rest)
    (taken : s' = (s.modifyActor a fun n => { n with mailbox := rest }).setSlice home
      (some (.drain a handled (.handling m.handler [] m.reply)))) :
    TakesUp s s' a ∧ Carried s' a (l.next a s s') := by
  obtain ⟨rt, known, -⟩ := State.slice_eq during
  have before : s.mailbox a = m :: rest := by simp [State.mailbox, found, mail]
  have after : s'.mailbox a = rest := by
    rw [taken]
    simp [State.mailbox, State.setSlice, State.modifyRuntime, State.modifyActor,
      Store.get?_modify_self, found]
  have due : s'.due a = s.due a := by
    rw [taken]
    exact congrArg (Option.getD · false) (Store.map_get?_modify_same fun _ => rfl)
  have slice : s'.slice home = some (.drain a handled (.handling m.handler [] m.reply)) := by
    rw [taken]
    simp [State.slice, State.setSlice, State.modifyRuntime, State.modifyActor,
      Store.get?_modify_self, known]
  have load : ∀ r, s'.load r a = s.load r a := by
    rw [taken]
    exact State.load_setSlice (s := s.modifyActor a fun n => { n with mailbox := rest }) during rfl
  have doom : s'.doom a = s.doom a := by rw [taken]; rfl
  obtain ⟨carries, busy, calm, -⟩ := h.sliced during
  have carrier : (l.next a s s').carrier = l.carrier := by simp [Ledger.next, due, busy]
  refine ⟨⟨m, rest, home, handled, before, after, slice⟩, ?_, ?_, ?_, ?_, ?_⟩
  · have length := h.senders
    rw [before, List.length_cons] at length
    simp only [Ledger.next, before, after, List.length_append, List.length_drop,
      List.length_cons, length]
    cases s.thread <;> simp
  · simp [due, busy]
  · intro r carries'
    rw [load, doom]
    exact h.here r (carrier ▸ carries')
  · intro r other
    rw [load]
    exact h.elsewhere r (carrier ▸ other)
  · intro doomed
    exact absurd (doom.trans calm) doomed

theorem drained (h : Carried s a l) {handled : Nat} {actor : Actor}
    (during : s.slice home = some (.drain a handled .idle))
    (found : s.actors.get? a = some actor) (empty : actor.mailbox = [])
    (past : s' = ((s.setSlice home none).log (.drained a handled)).modifyActor a fun m =>
      { m with scheduled := false }) :
    s.mailbox a = [] ∧ Carried s' a (l.next a s s') := by
  obtain ⟨-, -, calm, load⟩ := h.sliced during
  refine ⟨by simp [State.mailbox, found, empty], h.free ?_ ?_ ?_ ?_⟩
  · rw [past]
    simp [State.mailbox, State.modifyActor, State.log, State.tell, State.setSlice,
      State.modifyRuntime, Store.get?_modify_self, found, empty]
  · rw [past]
    simp [State.due, State.modifyActor, State.log, State.tell, State.setSlice,
      State.modifyRuntime, Store.get?_modify_self, found]
  · rw [past]
    exact load
  · rw [past]
    exact calm

theorem drainAgain (h : Carried s a l) {handled : Nat} {p : Priority}
    (during : s.slice home = some (.drain a handled .idle))
    (again : s' = ((s.setSlice home none).log (.drained a handled)).enqueue home p (.drain a)) :
    s'.mailbox a = s.mailbox a ∧ Carried s' a (l.next a s s') := by
  obtain ⟨carries, busy, calm, load⟩ := h.sliced during
  generalize left : (s.setSlice home none).log (.drained a handled) = x at again
  subst again
  have load' : ∀ r, x.load r a = 0 := by rw [← left]; exact load
  have calm' : x.doom a = 0 := by rw [← left]; exact calm
  obtain ⟨runtimes, agenda, eq⟩ := x.enqueue_eq home p (.drain a)
  have actors : (x.enqueue home p (.drain a)).actors = s.actors := by rw [eq, ← left]; rfl
  have mailbox : (x.enqueue home p (.drain a)).mailbox a = s.mailbox a := by
    rw [State.mailbox, actors, State.mailbox]
  have due : (x.enqueue home p (.drain a)).due a = s.due a := by
    rw [State.due, actors, State.due]
  rw [h.next_eq mailbox due]
  refine ⟨mailbox, by rw [mailbox, h.senders], by simp [due, busy], ?_, ?_, ?_⟩
  · intro r carries'
    cases carries.symm.trans carries'
    rw [State.load_enqueue_drain, load', calm']
  · intro r other
    have hr : home ≠ r := by
      rintro rfl
      exact other carries
    rw [State.load_enqueue_of_ne p _ hr, load']
  · intro doomed
    refine ⟨home, carries, ?_⟩
    rw [State.closed_enqueue]
    rcases x.doom_enqueue_drain home a p with same | shut
    · exact absurd (same.trans calm') doomed
    · exact shut

end Carried

/-- A worker in a slice adds messages of its own thread to the mailboxes, takes up the first
message of one, or leaves them alone. -/
theorem Carried.work (formed : Formed s) (active : s.active = some (home, goal))
    (w : Work s home s') (h : Carried s a l) :
    (s.mailbox a <+: s'.mailbox a ∨ TakesUp s s' a) ∧ Carried s' a (l.next a s s') := by
  have here : some home = s.thread := by simp [State.thread, active]
  -- most of the time the mailbox only grows
  have grown : Grows a l s s' → (s.mailbox a <+: s'.mailbox a ∨ TakesUp s s' a) ∧
      Carried s' a (l.next a s s') := fun g => ⟨.inl g.kept, g.carried⟩
  have same : Alike a s s' → (s.mailbox a <+: s'.mailbox a ∨ TakesUp s s' a) ∧
      Carried s' a (l.next a s s') := fun same => grown ((Grows.refl h).alike same)
  have line : ∀ {c : Context} {hand hand' : List Resource} {s₁ : State}, c.home = some home →
      Changes c s hand s₁ hand' → Grows a l s s₁ ∧ s₁.slice home = s.slice home :=
    fun at_home hc => ⟨hc.grows formed h (at_home.trans here), (hc.keeps formed).slice home⟩
  cases w with
  | stop => exact same (.of_eq rfl rfl rfl)
  | lost during missing =>
    refine same ((Alike.refl s).setSlice during none ?_)
    rcases missing with ⟨t, rfl, -⟩ | ⟨b, handled, rfl, missing⟩
    · rfl
    · have hb : b ≠ a := by
        rintro rfl
        have busy := (h.sliced during).2.1
        simp [State.due, missing] at busy
      simp [sliceLoad, hb]
  | next _ _ changes => exact grown ((line rfl changes).1.alike (.of_eq rfl rfl rfl))
  | @suspend t _ _ f' s₁ _ _ polling changes =>
    obtain ⟨grows, slice⟩ := line rfl changes
    have stored : Alike a s₁ (s₁.modifyTask t fun m => { m with fiber := some f' }) :=
      .of_eq rfl rfl rfl
    exact grown (grows.alike (stored.setSlice (slice.trans polling) _ rfl))
  | @ends t _ _ s₁ _ ending _ _ runs changes =>
    obtain ⟨grows, slice⟩ := line rfl changes
    obtain ⟨stage, during⟩ : ∃ stage, s₁.slice home = some (.task t stage) := by
      rcases runs.slice with polling | suspending
      · exact ⟨_, slice.trans polling⟩
      · exact ⟨_, slice.trans suspending⟩
    have stored : Alike a s₁ (s₁.modifyTask t fun m => { m with fiber := none }) :=
      .of_eq rfl rfl rfl
    have past := stored.setSlice during (some (.task t (.ended ending))) rfl
    refine grown (grows.alike (past.trans (.doLast ?_ ?_)))
    · exact .of_eq rfl rfl rfl
    · simp [Action.dooms, or_imp, forall_and]
  | @pause t _ _ f' s₁ later _ _ changes =>
    have stored : Grows a l s (s₁.modifyTask t fun m => { m with fiber := some f' }) :=
      (line rfl changes).1.alike (.of_eq rfl rfl rfl)
    exact grown ((stored.alike (.setPaused home (some later))).alike (.of_eq rfl rfl rfl))
  | @rest t stage joining during =>
    refine same (((Alike.refl s).setSlice during none rfl).trans (.doFirst ?_ ?_))
    · exact .of_eq rfl rfl rfl
    · simp [Action.dooms]
  | @again t task stage joining during =>
    refine same (.trans (.trans ((Alike.refl s).setSlice during none rfl) (.doFirst ?_ ?_))
      (State.alike_enqueue _ (by simp)))
    · exact .of_eq rfl rfl rfl
    · simp [Action.dooms]
  | forgotten during =>
    exact same (((Alike.refl s).setSlice during none rfl).trans (.of_eq rfl rfl rfl))
  | @endBody t _ _ trace cancelled during =>
    refine same (((Alike.refl s).setSlice during (some (.task t .joining)) rfl).trans
      (.doFirst ?_ ?_))
    · exact .of_eq rfl rfl rfl
    · simp [Action.dooms]
  | @complete t stage p trace during =>
    have ended : Alike a s (s.modifyNode t fun m => { m with joining := false, phase := p }) :=
      .of_eq rfl rfl rfl
    refine same ((ended.setSlice during (some (.task t .leaving)) rfl).trans (.doFirst ?_ ?_))
    · exact .of_eq rfl rfl rfl
    · simp [Action.dooms]
  | leave during =>
    refine same (((Alike.refl s).setSlice during none rfl).trans (.doFirst (.refl _) ?_))
    simp [Action.dooms]
  | @receive b handled actor m rest during found mail =>
    by_cases hb : b = a
    · subst hb
      obtain ⟨taken, carried⟩ := h.receive during found mail rfl
      exact ⟨.inr taken, carried⟩
    · have left : Alike a s (s.modifyActor b fun n => { n with mailbox := rest }) := .modifyActor hb
      exact same (left.setSlice during _ rfl)
  | @drained b handled actor during found empty =>
    by_cases hb : b = a
    · subst hb
      obtain ⟨mailbox, carried⟩ := h.drained during found empty rfl
      exact ⟨.inl (by rw [mailbox]; exact List.nil_prefix), carried⟩
    · have past : Alike a s ((s.setSlice home none).log (.drained b handled)) :=
        ((Alike.refl s).setSlice during none (by simp [sliceLoad, hb])).trans (.of_eq rfl rfl rfl)
      exact same (past.trans (.modifyActor hb))
  | @drainAgain b handled actor during found mail =>
    by_cases hb : b = a
    · subst hb
      obtain ⟨mailbox, carried⟩ := h.drainAgain during rfl
      exact ⟨.inl (mailbox.symm ▸ List.prefix_rfl), carried⟩
    · have past : Alike a s ((s.setSlice home none).log (.drained b handled)) :=
        ((Alike.refl s).setSlice during none (by simp [sliceLoad, hb])).trans (.of_eq rfl rfl rfl)
      exact same (past.trans (State.alike_enqueue _ (by simpa using hb)))
  | handle during changes =>
    obtain ⟨grows, slice⟩ := line rfl changes
    exact grown (grows.alike ((Alike.refl _).setSlice (slice.trans during) _ rfl))
  | @hold b handled code code' frame frame' reply s₁ later during changes =>
    obtain ⟨grows, slice⟩ := line rfl changes
    have stored : Grows a l s
        (s₁.setSlice home (some (.drain b handled (.handling code' frame' reply)))) :=
      grows.alike ((Alike.refl _).setSlice (slice.trans during) _ rfl)
    exact grown ((stored.alike (.setPaused home (some later))).alike (.of_eq rfl rfl rfl))
  | @handled b handled code frame frame' reply s₁ result during changes =>
    obtain ⟨grows, slice⟩ := line rfl changes
    have stored :
        Grows a l s (s₁.setSlice home (some (.drain b handled (.replying reply result)))) :=
      grows.alike ((Alike.refl _).setSlice (slice.trans during) _ rfl)
    refine grown (stored.alike ((Alike.refl _).doLast ?_))
    simp [Action.dooms]
  | @reply b handled reply result trace outcome during =>
    have past : Alike a s (s.setSlice home (some (.drain b (handled + 1) .idle))) :=
      (Alike.refl s).setSlice during _ rfl
    refine same (past.trans (.doFirst ?_ ?_))
    · exact .of_eq rfl rfl rfl
    · simp [Action.dooms]
  | @begin t queue takes =>
    obtain ⟨rt, found, free, -, -⟩ := takes.found
    have popped : (s.popped home queue).slice home = s.slice home :=
      State.slice_modifyRuntime_same home fun _ => rfl
    have empty : s.slice home = none := by simp [State.slice, found, free]
    have taken : Alike a s (s.popped home queue) := .popped takes (by simp)
    have running : Alike a s ((s.popped home queue).setPhase t .running) :=
      taken.trans (.of_eq rfl rfl rfl)
    exact same (running.setSlice (popped.trans empty) _ rfl)
  | refuse takes =>
    refine same ((Alike.popped takes (by simp)).trans ((Alike.refl _).doFirst ?_))
    simp [Action.dooms]
  | beginDrain takes => exact same (.beginDrain takes)
  | markerStop takes =>
    exact same ((Alike.popped takes (by simp)).trans (.of_eq rfl rfl rfl))
  | markerAgain band goal takes =>
    exact same (((Alike.popped takes (by simp)).trans (State.alike_enqueue band (by simp))).trans
      (.of_eq rfl rfl rfl))
  | markerSkip takes => exact same (.popped takes (by simp))

/-! ### Moves -/

namespace State

theorem countP_discard (es : List Entry) :
    ((es.filter Entry.isWork).map Action.discard).countP (Action.dooms a) =
      es.count (.drain a) := by
  induction es with
  | nil => rfl
  | cons e es ih =>
    rw [List.filter_cons, List.count_cons, ← ih]
    cases e with
    | task t => simp [Entry.isWork, Action.dooms]
    | marker serial => simp [Entry.isWork]
    | drain b =>
      simp only [Entry.isWork, if_true, List.map_cons, List.countP_cons, Action.dooms,
        decide_eq_true_eq, beq_iff_eq, Entry.drain.injEq]

theorem doom_close {r : RuntimeId} {rt : Runtime} (found : s.runtimes.get? r = some rt)
    (a : ActorId) : (s.close r).doom a = rt.queue.toList.count (.drain a) + s.doom a := by
  rw [close, doom_doFirst, found, Option.map_some, Option.getD_some, countP_discard]
  rfl

theorem load_close (s : State) (r : RuntimeId) (a : ActorId) :
    (s.close r).load r a + (s.close r).doom a = s.load r a + s.doom a := by
  have same : (s.close r).load r a =
      (s.modifyRuntime r fun rt => { rt with closed := true, queue := {} }).load r a := rfl
  cases found : s.runtimes.get? r with
  | none =>
    have nothing : (s.close r).doom a = s.doom a := by simp [close, found, doom_doFirst]; rfl
    rw [same, nothing]
    simp [load, modifyRuntime, Store.get?_modify_self, found]
  | some rt =>
    rw [same, doom_close found, load_modifyRuntime_self found, load_of_get? found]
    simp only [Runtime.load, RunQueue.toList, List.append_nil, List.count_nil]
    omega

theorem load_close_of_ne {r r' : RuntimeId} (hr : r ≠ r') : (s.close r).load r' a = s.load r' a :=
  load_modifyRuntime_of_ne hr

theorem closed_close (s : State) (r : RuntimeId) : (s.close r).closed r = true := by
  have runtimes : (s.close r).runtimes =
      s.runtimes.modify r fun rt => { rt with closed := true, queue := {} } := rfl
  rw [closed, runtimes, Store.get?_modify_self]
  cases s.runtimes.get? r <;> rfl

end State

theorem Alike.start (r : RuntimeId) (goal : Goal) : Alike a s (s.start r goal) := by
  obtain ⟨trace, eq⟩ := s.start_eq r goal
  rw [eq]
  exact (Alike.setPaused r none).trans (.of_eq rfl rfl rfl)

/-- A new runtime carries nothing. -/
theorem Alike.install (formed : Formed s) (idle : s.agenda = []) (place : Nat)
    (settings : Settings) : Alike a s (s.install place settings) where
  mailbox := rfl
  due := rfl
  load r := by
    have fresh := formed.runtimes.fresh (k := ⟨s.runtimes.size⟩) rfl
    by_cases new : (⟨s.runtimes.size⟩ : RuntimeId) = r
    · subst new
      simp [State.load, State.install, Store.get?_set_self, fresh, Runtime.load, sliceLoad,
        RunQueue.toList]
    · simp [State.load, State.install, Store.get?_set_of_ne new]
  doom := rfl
  closed doomed := by simp [State.doom, idle] at doomed

namespace Carried

theorem close (h : Carried s a l) (idle : s.agenda = []) (r : RuntimeId) :
    Carried (s.close r) a l where
  senders := h.senders
  idle := h.idle
  here r' carries := by
    have one := h.here r' carries
    have moved := State.load_close s r a
    by_cases hr : r = r'
    · subst hr
      rw [moved, one]
    · have none := h.elsewhere r (by simp [carries, Ne.symm hr])
      have calm : s.doom a = 0 := by simp [State.doom, idle]
      rw [State.load_close_of_ne hr]
      omega
  elsewhere r' other := by
    have none := h.elsewhere r' other
    by_cases hr : r = r'
    · subst hr
      have moved := State.load_close s r a
      have calm : s.doom a = 0 := by simp [State.doom, idle]
      omega
    · rw [State.load_close_of_ne hr, none]
  closed doomed := by
    have moved := State.load_close s r a
    have calm : s.doom a = 0 := by simp [State.doom, idle]
    refine ⟨r, ?_, State.closed_close s r⟩
    by_contra other
    have none := h.elsewhere r other
    omega

theorem move (formed : Formed s) (idle : s.agenda = []) (still : s.active = none)
    (m : Move s d s' d') (h : Carried s a l) :
    s.mailbox a <+: s'.mailbox a ∧ Carried s' a (l.next a s s') := by
  have same : Alike a s s' → s.mailbox a <+: s'.mailbox a ∧ Carried s' a (l.next a s s') :=
    fun same => ⟨same.mailbox.symm ▸ List.prefix_rfl, h.next_alike same⟩
  have line : ∀ {hand hand' : List Resource}, Changes { who := .main } s hand s' hand' →
      s.mailbox a <+: s'.mailbox a ∧ Carried s' a (l.next a s s') := by
    intro hand hand' hc
    have grows := hc.grows formed h (by simp [State.thread, still])
    exact ⟨grows.kept, grows.carried⟩
  cases m with
  | build place batch stem =>
    rcases s.build_cases place batch stem with eq | ⟨-, settings, built⟩
    · exact same (by rw [eq]; exact .refl s)
    · exact same (by rw [built]; exact .install formed idle place settings)
  | start | block | join => exact same (.start _ _)
  | startRounds _ rounds band =>
    have marked : Alike a s { s with markers := s.markers + 1 } := .of_eq rfl rfl rfl
    exact same ((marked.trans (State.alike_enqueue _ (by simp))).trans (.start _ _))
  | @launchRoot _ r _ body =>
    obtain ⟨nodes, trace, -, eq⟩ := State.launch_addNode_eq formed.nodes .normal none r body true
    refine same ?_
    rw [State.launchRoot, eq]
    exact .launch _ _ s.groups _ _ _
  | leaveRoot =>
    refine same (.doFirst ?_ ?_)
    · exact .of_eq rfl rfl rfl
    · simp [Action.dooms]
  | @close place r =>
    have removed : Alike a s { s with places := s.places.erase place } := .of_eq rfl rfl rfl
    have stays : l.next a s ({ s with places := s.places.erase place }.close r) = l :=
      h.next_eq rfl rfl
    refine ⟨List.prefix_rfl, ?_⟩
    rw [stays]
    exact (h.alike removed).close idle r
  | line plain => exact line (State.plain?_fits idle plain)
  | @shelve f => exact line (State.shelve_changes f s [])

end Carried

/-- What happens to the messages that wait for an actor: they go on waiting, or the first is taken
up, or a closed runtime carried them and they are dropped. -/
theorem Carried.transition (sound : Sound s d) (h : Carried s a l) (t : Transition s d s' d') :
    (s.mailbox a <+: s'.mailbox a ∨ TakesUp s s' a ∨
      s'.mailbox a = [] ∧ ∃ r, l.carrier = some r ∧ s.closed r = true) ∧
    Carried s' a (l.next a s s') := by
  cases t with
  | step =>
    have next := State.step_cases sound.wakeful.waitsOnOwn
    generalize s.step = s' at next
    cases next with
    | @item e s₀ s' first effect =>
      subst first
      by_cases he : e = .abandon a
      · subst he
        refine ⟨.inr (.inr ⟨effect.abandoned.1, h.closed ?_⟩), h.abandon effect⟩
        simp [Action.dooms]
      · have same := effect.alike he
        exact ⟨.inl (same.mailbox.symm ▸ List.prefix_rfl), h.next_alike same⟩
    | work _ active w =>
      obtain ⟨fate, carried⟩ := h.work sound.formed active w
      exact ⟨fate.imp_right .inl, carried⟩
    | rest => exact ⟨.inl List.prefix_rfl, h.next_alike (.refl s)⟩
  | @stray u =>
    have same : Alike a s (s.doFirst [.wake (.task u)]) :=
      (Alike.refl s).doFirst (by simp [Action.dooms])
    exact ⟨.inl List.prefix_rfl, h.next_alike same⟩
  | move rests m =>
    have still := State.still_of_resting rests
    obtain ⟨kept, carried⟩ := h.move sound.formed (State.idle_of_resting rests) still m
    exact ⟨.inl kept, carried⟩

/-- **Along every run** the slice of an actor that is due is with its carrier. -/
theorem Kept.carried (h : Kept a s d l) : Reachable s d ∧ Carried s a l := by
  induction h with
  | init => exact ⟨.init, .init⟩
  | next _ t ih => exact ⟨ih.1.next t, (ih.2.transition ih.1.sound t).2⟩

end Nursery
