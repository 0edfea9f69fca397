import Nursery.Proofs.Invariant.Carried

/-!
# Which messages are lost

A message that was accepted waits until it is taken up, or it is dropped with the slice of its
actor, when the runtime that carries that slice is closed.  That runtime is the one whose thread
found the actor without a slice, so it need not be the one on whose thread the message was
accepted: a runtime that is closed drops the messages of others.

* `Drops` : messages are dropped.
* `Transition.dooms`, `Leads.dooms` : what is about to be dropped is never taken up.
* `lost_with_carrier` : messages are dropped with their carrier, and then all of them are.
* `lost_to_stranger` : the carrier may be another runtime than that of the message.
-/

namespace Nursery

variable {s s' : State} {d d' : Desk} {a : ActorId} {l : Ledger}

/-- Messages of a mailbox are dropped: they do not all go on waiting, and it is not that the first
was taken up. -/
def Drops (s s' : State) (a : ActorId) : Prop :=
  ¬ s.mailbox a <+: s'.mailbox a ∧ ¬ TakesUp s s' a

/-- Messages that are about to be dropped go on waiting until they are. -/
theorem Transition.dooms (h : Reachable s d) (t : Transition s d s' d') (doomed : s.doom a ≠ 0) :
    s'.doom a ≠ 0 ∧ s'.mailbox a = s.mailbox a ∨ s'.mailbox a = [] := by
  have busy : s.agenda ≠ [] := by
    intro idle
    simp [State.doom, idle] at doomed
  cases t with
  | step =>
    have next := State.step_cases h.sound.wakeful.waitsOnOwn
    generalize s.step = s' at next
    cases next with
    | @item e s₀ s' first effect =>
      subst first
      by_cases he : e = .abandon a
      · subst he
        exact .inr effect.abandoned.1
      · have same := effect.alike he
        exact .inl ⟨by rwa [same.doom], same.mailbox⟩
    | work idle => exact absurd idle busy
    | rest => exact .inl ⟨doomed, rfl⟩
  | stray idle => exact absurd idle busy
  | move rests => exact absurd (State.idle_of_resting rests) busy

/-- On every run from there they are dropped before anything else happens to them. -/
theorem Leads.dooms (h : Reachable s d) (hl : Leads s d s' d') (doomed : s.doom a ≠ 0) :
    s'.doom a ≠ 0 ∧ s'.mailbox a = s.mailbox a ∨
      ∃ s₁ d₁, Leads s d s₁ d₁ ∧ Leads s₁ d₁ s' d' ∧ s₁.mailbox a = [] := by
  induction hl with
  | refl => exact .inl ⟨doomed, rfl⟩
  | next hl ht ih =>
    rcases ih with ⟨doomed', same⟩ | ⟨s₁, d₁, before, after, empty⟩
    · rcases ht.dooms (h.leads hl) doomed' with ⟨still, same'⟩ | empty
      · exact .inl ⟨still, same'.trans same⟩
      · exact .inr ⟨_, _, hl.next ht, .refl, empty⟩
    · exact .inr ⟨s₁, d₁, before, after.next ht, empty⟩

/-- **Messages are lost with the runtime that carries them.**  Every message that waits has a
sender.  When messages are dropped, they all are, and their carrier is closed; so a message whose
own runtime is open is dropped only if another runtime carries it.  And whenever a runtime is
closed that has the slice of an actor in its queue, it is the carrier, and all the messages of that
actor wait until they are dropped, whoever sent them. -/
theorem lost_with_carrier (h : Kept a s d l) :
    l.senders.length = (s.mailbox a).length ∧
    (∀ s' d', Transition s d s' d' → Drops s s' a →
      s'.mailbox a = [] ∧ ∃ r, l.carrier = some r ∧ s.closed r = true) ∧
    (∀ s' d' r, Transition s d s' d' → Drops s s' a → s.closed r = false → l.carrier ≠ some r) ∧
    (∀ r rt s', s.resting = true → Move s d s' (.closing r) → s.runtimes.get? r = some rt →
      .drain a ∈ rt.queue.toList → l.carrier = some r ∧ s'.doom a ≠ 0) ∧
    (s.doom a ≠ 0 → ∀ s' d', Leads s d s' d' →
      s'.doom a ≠ 0 ∧ s'.mailbox a = s.mailbox a ∨
        ∃ s₁ d₁, Leads s d s₁ d₁ ∧ Leads s₁ d₁ s' d' ∧ s₁.mailbox a = []) := by
  obtain ⟨reachable, carried⟩ := h.carried
  have dropped : ∀ s' d', Transition s d s' d' → Drops s s' a →
      s'.mailbox a = [] ∧ ∃ r, l.carrier = some r ∧ s.closed r = true := by
    intro s' d' t drops
    exact ((carried.transition reachable.sound t).1.resolve_left drops.1).resolve_left drops.2
  refine ⟨carried.senders, dropped, fun s' d' r t drops running carries => ?_,
    fun r rt s' rests m found queued => ?_, fun doomed s' d' leads => leads.dooms reachable doomed⟩
  · obtain ⟨-, r', carries', shut⟩ := dropped s' d' t drops
    cases carries.symm.trans carries'
    simp [running] at shut
  · have count := List.count_pos_iff.2 queued
    constructor
    · by_contra other
      have none := carried.elsewhere r other
      rw [State.load_of_get? found, Runtime.load] at none
      omega
    · cases m with
      | @close place =>
        have known :
            ({ s with places := s.places.erase place } : State).runtimes.get? r = some rt :=
          found
        rw [State.doom_close known]
        omega

/-! ### A message that a stranger carries -/

/-- A number of steps of the machine, with the ledger that they keep. -/
def Ledger.follow (a : ActorId) : Nat → State → Ledger → State × Ledger
  | 0, s, l => (s, l)
  | steps + 1, s, l => Ledger.follow a steps s.step (l.next a s s.step)

theorem Kept.follow (steps : Nat) : ∀ {s : State} {l : Ledger}, Kept a s d l →
    Kept a (Ledger.follow a steps s l).1 d (Ledger.follow a steps s l).2 := by
  induction steps with
  | zero => exact fun h => h
  | succ steps ih => exact fun h => ih (h.next .step)

/-- The bodies of two tasks: the guest runs on a runtime that will be closed, sends a message first
and pauses; the host runs on another one and sends a message later. -/
def guestBody : List Line :=
  [.mk ⟨"send", some "mail", none, true⟩ (.send []), .mk ⟨"hold", none, none, true⟩ .hold]

def hostBody : List Line :=
  [.mk ⟨"send", some "mail", none, true⟩ (.send [])]

/-- The guest found the actor without a slice, so the message of the host is carried by the
runtime of the guest, which handles one message at a time and is closed before the second. -/
theorem kept_stranger : ∃ s l, Kept ⟨0⟩ s (.closing ⟨1⟩) l ∧ l.senders = [⟨0⟩] ∧
    Drops s s.step ⟨0⟩ ∧ s.step.closed ⟨0⟩ = false := by
  have host : Kept ⟨0⟩ _ .clear _ := Kept.init.next (.move rfl (.build 0 none none))
  have guest := host.next (.move (by decide) (.build 1 (some 1) none))
  -- the actor, then the two tasks: the guest first
  have made := guest.next (.move (by decide) (.line (show State.plain? _ { who := .main } []
    ⟨"actor", none, some "mail", true⟩ (.actor [] none) = some _ from rfl)))
  have spawning := (made.follow 1).next (.move (by decide) .shelve)
  have spawned := spawning.next (.move (by decide) (.line (show State.plain? _ { who := .main } []
    ⟨"rt_spawn", none, some "guest", true⟩ (.spawnOn 1 none guestBody) = some _ from rfl)))
  have starting := (spawned.follow 1).next (.move (by decide) .shelve)
  have held := (starting.next (.move (by decide)
    (.start (show Store.get? _ 1 = some ⟨1⟩ by decide)))).follow 20
  have spawned' := held.next (.move (by decide) (.line (show State.plain? _ { who := .main } []
    ⟨"rt_spawn", none, some "host", true⟩ (.spawnOn 0 none hostBody) = some _ from rfl)))
  have starting' := (spawned'.follow 1).next (.move (by decide) .shelve)
  have sent := (starting'.next (.move (by decide)
    (.start (show Store.get? _ 0 = some ⟨0⟩ by decide)))).follow 20
  -- the guest ends, and one message is handled
  have handled := (sent.next (.move (by decide)
    (.startRounds (show Store.get? _ 1 = some ⟨1⟩ by decide) 1 .normal))).follow 40
  have closed := (handled.next (.move (by decide +kernel)
    (.close (show Store.get? _ 1 = some ⟨1⟩ by decide +kernel)))).follow 1
  refine ⟨_, _, closed, by decide +kernel, ⟨?_, ?_⟩, by decide +kernel⟩
  · intro kept
    have shorter := kept.length_le
    revert shorter
    decide +kernel
  · rintro ⟨m, rest, r, handled, -, -, during⟩
    have due := ((closed.next .step).carried.2.sliced during).2.1
    revert due
    decide +kernel

/-- The host's message is lost with the runtime of the guest. -/
theorem lost_with_carrier_stranger : ∃ s l, Kept ⟨0⟩ s (.closing ⟨1⟩) l ∧ l.senders = [⟨0⟩] ∧
    s.step.mailbox ⟨0⟩ = [] ∧ ∃ r, l.carrier = some r ∧ s.closed r = true := by
  obtain ⟨s, l, kept, senders, drops, -⟩ := kept_stranger
  exact ⟨s, l, kept, senders, (lost_with_carrier kept).2.1 _ _ .step drops⟩

/-- **A closed runtime drops the messages of others.**  It is not so that a message is only dropped
when the runtime is closed on whose thread it was accepted. -/
theorem lost_to_stranger : ¬ ∀ a s d l, Kept a s d l → ∀ s' d', Transition s d s' d' →
    Drops s s' a → ∀ r ∈ l.senders, s'.closed r = true := by
  intro claim
  obtain ⟨s, l, kept, senders, drops, running⟩ := kept_stranger
  have shut := claim _ s _ l kept _ _ .step drops ⟨0⟩ (by simp [senders])
  simp [running] at shut

end Nursery
