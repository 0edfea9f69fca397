import Nursery.Proofs.Invariant.Carried
import Nursery.Proofs.Invariant.Ranked

/-!
# One slice at a time

An actor that is due has one slice, wherever that is: queued on one of the runtimes in the band of
the actor, or in progress there, also while its worker is held in the middle of a handler.  An
actor that is not due has none and no message waits for it.  So no two handlers of an actor are
ever in progress at once, and no message is stranded.

* `State.drains` : how many slices of an actor are queued or in progress.
* `Kept.borne` : whoever is due is carried by a runtime.
* `one_drain` : the slices of an actor in every reachable state.
* `one_drain_held` : a handler is held on one runtime while another one sends.
-/

namespace Nursery

/-- How many slices of an actor are queued or in progress, over all runtimes. -/
def State.drains (s : State) (a : ActorId) : Nat :=
  s.runtimes.tally fun _ rt => rt.load a

variable {s s' : State} {d d' : Desk} {a : ActorId} {l : Ledger} {c : Context}
  {hand hand' : List Resource}

/-! ### Every slice that is due is carried -/

/-- The main thread belongs to no runtime, so no line of it makes an actor due. -/
theorem Changes.undue (formed : Formed s) (outside : c.home = none)
    (hc : Changes c s hand s' hand') (free : s.due a = false) : s'.due a = false := by
  refine (hc.invariant (I := fun x _ => Formed x ∧ x.due a = false) (fun {x x' _ _} hc h => ?_)
    ⟨formed, free⟩).2
  refine ⟨h.1.change hc, ?_⟩
  have same : x'.actors = x.actors → x'.due a = false := fun same => by
    rw [State.due, same]
    exact h.2
  cases hc with
  | spawn priority body =>
    obtain ⟨nodes, trace, -, eq⟩ := State.launch_addNode_eq h.1.nodes priority _ _ body false
    obtain ⟨runtimes, agenda, queued⟩ := State.enqueue_eq _ _ priority _
    exact same (by rw [eq, queued])
  | group =>
    obtain ⟨nodes, trace, priority, -, eq⟩ := State.makeGroup_eq h.1.nodes c _
    exact same (by rw [eq])
  | @add g group priority body =>
    obtain ⟨nodes, trace, p, -, eq⟩ :=
      State.addChild_eq h.1.nodes h.1.fresh_task g group priority body
    obtain ⟨runtimes, agenda, queued⟩ := State.enqueue_eq _ _ p _
    exact same (by rw [eq, queued])
  | actor name priority init =>
    by_cases ha : (⟨x.actors.size⟩ : ActorId) = a
    · subst ha
      simp [State.due, Store.get?_set_self]
    · simpa only [State.due, Store.get?_set_of_ne ha] using h.2
  | call _ _ here | send _ _ here => cases outside.symm.trans here
  | state =>
    rw [← h.2]
    exact congrArg (Option.getD · false) (Store.map_get?_modify_same fun _ => rfl)
  | _ => exact same rfl

/-- A move of the main thread makes no actor due. -/
theorem Move.undue (formed : Formed s) (idle : s.agenda = []) (m : Move s d s' d')
    (free : s.due a = false) : s'.due a = false := by
  rcases m.actors formed.nodes idle with same | ⟨hand, hand', hc⟩
  · rw [State.due, same]
    exact free
  · exact hc.undue formed rfl free

/-- A worker without a runtime stops and does nothing else. -/
theorem Work.built {home : RuntimeId} (w : Work s home s') :
    s.Built home ∨ s'.actors = s.actors := by
  have queued : ∀ {e : Entry} {queue : RunQueue Entry}, s.Takes home e queue → s.Built home :=
    fun takes => takes.found.imp fun _ h => h.1
  have going : ∀ {slice : Slice}, s.slice home = some slice → s.Built home :=
    State.built_of_slice
  cases w with
  | stop => exact .inr rfl
  | next _ polling | suspend _ polling | pause _ _ polling => exact .inl (going polling)
  | ends _ runs => exact .inl (runs.slice.elim going going)
  | lost during | rest during | forgotten during | leave during | again during | endBody _ _ during
  | complete _ during | receive during | drained during | drainAgain during | handle during
  | hold _ during | handled _ during | reply _ _ during => exact .inl (going during)
  | begin takes | beginDrain takes | refuse takes | markerStop takes | markerSkip takes
  | markerAgain _ _ takes => exact .inl (queued takes)

/-- An actor becomes due on the thread of a runtime. -/
theorem Transition.found (sound : Sound s d) (t : Transition s d s' d') (free : s.due a = false)
    (due : s'.due a = true) : ∃ r, s.thread = some r ∧ s.Built r := by
  cases t with
  | step =>
    have next := State.step_cases sound.wakeful.waitsOnOwn
    generalize s.step = s' at next due
    cases next with
    | @item e s₀ s' first effect =>
      subst first
      by_cases he : e = .abandon a
      · subst he
        cases effect.abandoned.2.symm.trans due
      · cases free.symm.trans ((effect.alike he).due.symm.trans due)
    | @work home _ s' _ active w =>
      refine ⟨home, by simp [State.thread, active], w.built.resolve_right fun same => ?_⟩
      rw [State.due, same] at due
      cases free.symm.trans due
    | rest => cases free.symm.trans due
  | stray => cases free.symm.trans due
  | move rests m =>
    cases (m.undue sound.formed (State.idle_of_resting rests) free).symm.trans due

/-- Somebody carries the slice of an actor that is due. -/
theorem Kept.borne (h : Kept a s d l) (due : s.due a = true) : ∃ r, l.carrier = some r := by
  induction h with
  | init => cases due
  | @next s s' d d' l h t ih =>
    cases free : s.due a with
    | true =>
      obtain ⟨r, carries⟩ := ih free
      exact ⟨r, by simp [Ledger.next, due, free, carries]⟩
    | false =>
      obtain ⟨r, here, -⟩ := t.found h.carried.1.sound free due
      exact ⟨r, by simp [Ledger.next, due, free, here]⟩

/-- Every run keeps a ledger. -/
theorem Reachable.kept (h : Reachable s d) (a : ActorId) : ∃ l, Kept a s d l := by
  induction h with
  | init => exact ⟨{}, .init⟩
  | next _ t ih =>
    obtain ⟨l, kept⟩ := ih
    exact ⟨_, kept.next t⟩

/-! ### Counting the slices -/

theorem State.drains_eq (formed : Formed s) {r : RuntimeId}
    (elsewhere : ∀ r', r ≠ r' → s.load r' a = 0) : s.drains a = s.load r a := by
  refine Store.tally_eq_of_only formed.distinctRuntimes fun r' rt found other => ?_
  rw [← State.load_of_get? found]
  exact elsewhere r' (Ne.symm other)

namespace Carried

/-- An actor that is due has one slice that is queued, in progress or about to be dropped; any
other has none. -/
theorem drains (formed : Formed s) (h : Carried s a l)
    (borne : s.due a = true → ∃ r, l.carrier = some r) :
    s.drains a + s.doom a = if s.due a then 1 else 0 := by
  cases due : s.due a with
  | false =>
    obtain ⟨load, calm⟩ := h.unborne due
    rw [State.drains_eq formed (r := ⟨0⟩) fun r _ => load r, load, calm]
    rfl
  | true =>
    obtain ⟨r, carries⟩ := borne due
    have elsewhere : ∀ r', r ≠ r' → s.load r' a = 0 :=
      fun r' other => h.elsewhere r' (by simp [carries, other])
    rw [State.drains_eq formed elsewhere, h.here r carries]
    rfl

theorem not_queued (h : Carried s a l) {r : RuntimeId} {handled : Nat} {stage : HandlerStage}
    (during : s.slice r = some (.drain a handled stage)) (r' : RuntimeId) (p : Priority) :
    .drain a ∉ (s.queue r').band p := by
  intro queued
  have load := (h.sliced during).2.2.2 r'
  have mem := RunQueue.mem_toList.2 ⟨p, queued⟩
  have same : (s.setSlice r none).queue r' = s.queue r' :=
    congrArg (Option.getD · ({} : RunQueue Entry)) (Store.map_get?_modify_same fun _ => rfl)
  rw [← same] at mem
  cases found : (s.setSlice r none).runtimes.get? r' with
  | none => simp [State.queue, found, RunQueue.toList] at mem
  | some rt =>
    rw [State.load_of_get? found, Runtime.load] at load
    have none : rt.queue.toList.count (.drain a) = 0 := by omega
    simp only [State.queue, found, Option.map_some, Option.getD_some] at mem
    exact absurd mem (List.count_eq_zero.1 none)

end Carried

/-- A runtime that has a slice of the actor has it in its queue or is in the middle of it. -/
theorem State.somewhere (ranked : Ranked s) {r : RuntimeId} (load : s.load r a ≠ 0) :
    (∃ p, s.closed r = false ∧ .drain a ∈ (s.queue r).band p) ∨
      ∃ handled stage, s.slice r = some (.drain a handled stage) := by
  cases found : s.runtimes.get? r with
  | none => simp [State.load, found] at load
  | some rt =>
    have queue : s.queue r = rt.queue := by simp [State.queue, found]
    rw [State.load_of_get? found, Runtime.load] at load
    by_cases queued : .drain a ∈ rt.queue.toList
    · left
      obtain ⟨p, hp⟩ := RunQueue.mem_toList.1 queued
      refine ⟨p, ?_, queue ▸ hp⟩
      by_contra shut
      exact ranked.closed r _ (by simpa using shut) (queue ▸ queued)
    · right
      rw [List.count_eq_zero.2 queued, Nat.zero_add] at load
      cases slice : rt.slice with
      | none => simp [slice, sliceLoad] at load
      | some during =>
        cases during with
        | task => simp [slice, sliceLoad] at load
        | drain b handled stage =>
          by_cases hb : b = a
          · subst hb
            exact ⟨handled, stage, by simp [State.slice, found, slice]⟩
          · simp [slice, sliceLoad, hb] at load

/-- A message waits only for an actor that is due, and whose slice is in an open queue or in
progress. -/
theorem Reachable.expected (h : Reachable s d) (mail : s.mailbox a ≠ []) : s.due a = true ∧
    (s.agenda = [] → ∃ r, (∃ p, s.closed r = false ∧ .drain a ∈ (s.queue r).band p) ∨
      ∃ handled stage, s.slice r = some (.drain a handled stage)) := by
  obtain ⟨l, kept⟩ := h.kept a
  have carried := kept.carried.2
  have due : s.due a = true := by
    by_contra free
    exact mail (carried.idle (by simpa using free)).2
  refine ⟨due, fun idle => ?_⟩
  obtain ⟨r, carries⟩ := kept.borne due
  have one := carried.here r carries
  rw [show s.doom a = 0 by simp [State.doom, idle]] at one
  exact ⟨r, State.somewhere h.ranked (by omega)⟩

/-- An actor is in progress on one runtime at most. -/
theorem Reachable.alone (h : Reachable s d) {r r' : RuntimeId} {handled handled' : Nat}
    {stage stage' : HandlerStage} (during : s.slice r = some (.drain a handled stage))
    (during' : s.slice r' = some (.drain a handled' stage')) : r' = r := by
  obtain ⟨l, kept⟩ := h.kept a
  have carried := kept.carried.2
  cases (carried.sliced during).1.symm.trans (carried.sliced during').1
  rfl

/-- **An actor has one slice while it is due and none otherwise**, over all runtimes together.
That slice is queued or in progress, or, while the agenda is being worked off, it was refused by a
closed runtime and is about to be dropped.  Between two things that a worker does, also while a
handler is running or held, none is about to be dropped.  A message only waits for an actor that
is due, so its slice is in an open queue or in progress.  While one is in progress, none is queued
and none is in progress on another runtime.  What is queued is in the band of its actor. -/
theorem one_drain (h : Reachable s d) (a : ActorId) :
    s.drains a + s.doom a = (if s.due a then 1 else 0) ∧
    (s.agenda = [] → s.drains a = if s.due a then 1 else 0) ∧
    (s.mailbox a ≠ [] → s.due a = true) ∧
    (s.mailbox a ≠ [] → s.agenda = [] → ∃ r,
      (∃ p, s.closed r = false ∧ .drain a ∈ (s.queue r).band p) ∨
        ∃ handled stage, s.slice r = some (.drain a handled stage)) ∧
    (∀ r handled stage, s.slice r = some (.drain a handled stage) →
      s.due a = true ∧ (∀ r' p, .drain a ∉ (s.queue r').band p) ∧
        ∀ r' handled' stage', s.slice r' = some (.drain a handled' stage') → r' = r) ∧
    ∀ r p, .drain a ∈ (s.queue r).band p → s.rank a = some p := by
  obtain ⟨l, kept⟩ := h.kept a
  have carried := kept.carried.2
  have drains := carried.drains h.sound.formed kept.borne
  have calm : s.agenda = [] → s.doom a = 0 := fun idle => by simp [State.doom, idle]
  refine ⟨drains, fun idle => ?_, fun mail => (h.expected mail).1, fun mail => (h.expected mail).2,
    fun r handled stage during => ?_, fun r p queued => h.ranked.band r p _ queued a rfl⟩
  · rw [← drains, calm idle, Nat.add_zero]
  · exact ⟨(carried.sliced during).2.1, carried.not_queued during,
      fun r' handled' stage' other => h.alone during other⟩

/-! ### A handler that is held -/

/-- The bodies of two tasks: the first has the actor pause its worker, the second sends a message
that does nothing. -/
def holderBody : List Line :=
  [.mk ⟨"send", some "mail", none, true⟩ (.send [.mk ⟨"hold", none, none, true⟩ .hold])]

def senderBody : List Line :=
  [.mk ⟨"send", some "mail", none, true⟩ (.send [])]

theorem reachable_held : ∃ s, Reachable s .clear ∧ s.agenda = [] ∧ s.slice ⟨0⟩ =
    some (.drain ⟨0⟩ 0 (.handling [] [] none)) ∧ (s.mailbox ⟨0⟩).length = 1 := by
  have first : Reachable _ .clear := Reachable.init.next (.move rfl (.build 0 none none))
  have second := first.next (.move (by decide) (.build 1 none none))
  have made := second.next (.move (by decide) (.line (show State.plain? _ { who := .main } []
    ⟨"actor", none, some "mail", true⟩ (.actor [] (some .high)) = some _ from rfl)))
  have spawning := (reachable_run made 1).next (.move (by decide) .shelve)
  have spawned := spawning.next (.move (by decide) (.line (show State.plain? _ { who := .main } []
    ⟨"rt_spawn", none, some "holder", true⟩ (.spawnOn 0 none holderBody) = some _ from rfl)))
  have starting := (reachable_run spawned 1).next (.move (by decide) .shelve)
  have held := reachable_run (starting.next (.move (by decide)
    (.start (show Store.get? _ 0 = some ⟨0⟩ by decide)))) 30
  have spawned' := held.next (.move (by decide) (.line (show State.plain? _ { who := .main } []
    ⟨"rt_spawn", none, some "sender", true⟩ (.spawnOn 1 none senderBody) = some _ from rfl)))
  have starting' := (reachable_run spawned' 1).next (.move (by decide) .shelve)
  have sent := reachable_run (starting'.next (.move (by decide)
    (.start (show Store.get? _ 1 = some ⟨1⟩ by decide)))) 30
  exact ⟨_, sent, by decide +kernel, by rfl, by decide +kernel⟩

/-- The message waits for the held handler, and there is no second slice. -/
theorem one_drain_held : ∃ s, Reachable s .clear ∧ s.mailbox ⟨0⟩ ≠ [] ∧
    s.slice ⟨0⟩ = some (.drain ⟨0⟩ 0 (.handling [] [] none)) ∧ s.drains ⟨0⟩ = 1 ∧
    ∀ r p, .drain ⟨0⟩ ∉ (s.queue r).band p := by
  obtain ⟨s, h, idle, during, mail⟩ := reachable_held
  obtain ⟨-, count, due, -, alone, -⟩ := one_drain h ⟨0⟩
  have waits : s.mailbox ⟨0⟩ ≠ [] := by
    intro none
    simp [none] at mail
  have drains := count idle
  rw [due waits] at drains
  exact ⟨s, h, waits, during, drains, (alone _ _ _ during).2.1⟩

end Nursery
