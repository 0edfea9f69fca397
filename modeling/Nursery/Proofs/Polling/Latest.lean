import Nursery.Proofs.Polling.Vigil

/-!
# Who polled last

A call and a group keep the one task that polled them last, and keep it only as long as there is
nothing for it.  A task keeps everyone who has polled it in vain, as often as they did, until it
ends; then it wakes them all.

* `PollLog` : a run, with the polls that it has made; `Reachable.pollLog`, every run is one.
* `Waitlist`, `PollLog.waitlist` : the polls of a run, and who is registered after them.
* `Roster`, `polls_registered` : **who is registered, in every reachable state.**
* `poll_piles_up` : more than one task may be registered with a task.
-/

namespace Nursery

variable {s s' : State} {d d' : Desk} {t u : TaskId} {r : Resource} {f : Fiber}
  {home : RuntimeId} {ps : List Poll} {p : Poll}

/-! ### The polls of a run -/

/-- A run, with the polls that it has made, in their order. -/
inductive PollLog : List Poll → State → Desk → Prop where
  /-- Nothing has happened yet. -/
  | init : PollLog [] {} .clear
  /-- The machine does the next thing. -/
  | step {ps : List Poll} {s : State} {d : Desk} (h : PollLog ps s d) :
      PollLog (ps ++ s.polling) s.step d
  /-- A task is woken that somebody still refers to. -/
  | stray {ps : List Poll} {s : State} {d : Desk} {t : TaskId} {task : Task} (h : PollLog ps s d)
      (idle : s.agenda = []) (found : s.tasks.get? t = some task) :
      PollLog ps (s.doFirst [.wake (.task t)]) d
  /-- The main thread makes a move. -/
  | move {ps : List Poll} {s s' : State} {d d' : Desk} (h : PollLog ps s d)
      (rests : s.resting = true) (m : Move s d s' d') : PollLog ps s' d'

theorem PollLog.reachable (h : PollLog ps s d) : Reachable s d := by
  induction h with
  | init => exact .init
  | step _ ih => exact ih.next .step
  | stray _ idle found ih => exact ih.next (.stray idle found)
  | move _ rests m ih => exact ih.next (.move rests m)

theorem Reachable.pollLog (h : Reachable s d) : ∃ ps, PollLog ps s d := by
  induction h with
  | init => exact ⟨[], .init⟩
  | next _ tr ih =>
    obtain ⟨ps, log⟩ := ih
    cases tr with
    | step => exact ⟨_, log.step⟩
    | stray idle found => exact ⟨ps, log.stray idle found⟩
    | move rests m => exact ⟨ps, log.move rests m⟩

/-- The polls of a run, and who is registered after them. -/
structure Waitlist (ps : List Poll) (s : State) : Prop where
  /-- A task keeps who has polled it in vain, until it ends or goes. -/
  handle : ∀ u, s.registry (.handle u) = vainly (.handle u) ps ∨ s.registry (.handle u) = [] ∧
    ((s.phase u).isTerminal = true ∧ u ∉ s.rousing ∨
      s.nodes.get? u ≠ none ∧ s.tasks.get? u = none)
  /-- Nothing was found at a task that has not ended. -/
  pending : ∀ u, (s.phase u).isTerminal = false → ∀ p ∈ pollsOf (.handle u) ps, p.sight = .pending
  /-- Anything else keeps the last one who has polled it, if that was in vain. -/
  last : ∀ r, (∀ u, r ≠ .handle u) → s.registry r = [] ∨
    ∃ p, (pollsOf r ps).getLast? = some p ∧ p.sight.vain = true ∧ s.registry r = [p.poller]
  /-- Only at a group nothing can be found for good. -/
  drained : ∀ p ∈ ps, (∀ g, p.target ≠ .group g) → p.sight.vain = true → p.sight = .pending

theorem mem_pollsOf : p ∈ pollsOf r ps ↔ p ∈ ps ∧ p.target = r := by
  simp [pollsOf]

theorem pollsOf_append {qs : List Poll} : pollsOf r (ps ++ qs) = pollsOf r ps ++ pollsOf r qs :=
  List.filter_append ..

theorem vainly_eq_nil (finds : ∀ p ∈ ps, p.target = r → p.sight.vain = false) :
    vainly r ps = [] := by
  rw [vainly, List.map_eq_nil_iff, List.filter_eq_nil_iff]
  intro p mine
  obtain ⟨polled, target⟩ := mem_pollsOf.1 mine
  simp [finds p polled target]

theorem State.registry_handle_of_none (gone : s.tasks.get? u = none) :
    s.registry (.handle u) = [] := by
  rw [registry, gone]
  rfl

/-- A node that was made stays, and so does it that its task has gone. -/
theorem Transition.stays_gone (sound : Sound s d) (tr : Transition s d s' d')
    (gone : s.nodes.get? u ≠ none ∧ s.tasks.get? u = none) :
    s'.nodes.get? u ≠ none ∧ s'.tasks.get? u = none := by
  obtain ⟨known, missing⟩ := gone
  obtain ⟨m, found⟩ := Option.ne_none_iff_exists'.1 known
  obtain ⟨m', found', -⟩ := tr.lasts sound u m found
  refine ⟨by simp [found'], ?_⟩
  cases tr.disposes sound u with
  | absent gone => exact gone
  | made unmade => exact absurd unmade known
  | goes found => cases missing.symm.trans found
  | ends found => cases missing.symm.trans found

/-- Where one is kept, that is the last one. -/
theorem Resource.joined_of_last (other : ∀ u, r ≠ .handle u) {l : List TaskId} :
    r.joined l [t] = [t] := by
  cases r with
  | handle u => exact absurd rfl (other u)
  | group | call => simp [Resource.joined]

/-- Where a poll finds something nobody is registered: whoever is has found nothing, and nothing is
there since. -/
theorem Vigil.nobody (h : Vigil s) (other : ∀ u, p.target ≠ .handle u) (honest : p.Honest s)
    (finds : ¬ p.sight.vain = true) : s.registry p.target = [] := by
  cases target : p.target with
  | handle u => exact absurd target (other u)
  | group g =>
    cases signal : s.signals.get? g with
    | none => simp [State.registry, State.registered?, signal]
    | some m =>
      have free : m.waker = none := by
        by_contra waits
        have nothing := h.group g m signal waits
        refine finds (honest.group g target ?_)
        rw [State.completed, signal, Option.map_some, Option.getD_some, nothing]
      simp [State.registry, State.registered?, signal, free]
  | call k =>
    cases call : s.calls.get? k with
    | none => simp [State.registry, call]
    | some m =>
      have free : m.waker = none := by
        by_contra waits
        obtain ⟨unanswered, accepted⟩ := h.call k m call waits
        rw [honest.call k m target call unanswered accepted] at finds
        exact finds rfl
      simp [State.registry, call, free]

namespace Waitlist

theorem init : Waitlist [] {} where
  handle _ := .inl rfl
  pending _ _ p mine := absurd mine List.not_mem_nil
  last r other := by
    cases r with
    | handle u => exact absurd rfl (other u)
    | group | call => exact .inl rfl
  drained p mine := absurd mine List.not_mem_nil

theorem still (h : Waitlist ps s) (reachable : Reachable s d) (tr : Transition s d s' d')
    (kept : ∀ r, s'.registry r = s.registry r ∨ s'.registry r = [] ∧ ∀ u, r = .handle u →
      (s'.phase u).isTerminal = true ∧ u ∉ s'.rousing ∨ s'.tasks.get? u = none) :
    Waitlist ps s' := by
  have sound := reachable.sound
  refine ⟨fun u => ?_, fun u ongoing => ?_, fun r other => ?_, h.drained⟩
  · rcases h.handle u with before | ⟨nobody, ended | gone⟩
    · rcases kept (.handle u) with same | ⟨nobody, why⟩
      · exact .inl (same.trans before)
      · rcases why u rfl with ended | missing
        · exact .inr ⟨nobody, .inl ended⟩
        · cases found : s.tasks.get? u with
          | none =>
            -- with a task that was not made yet nobody was registered before either
            left
            rw [nobody, ← before, State.registry_handle_of_none found]
          | some m =>
            obtain ⟨node, known, -⟩ := Option.map_eq_some_iff.1 (sound.formed.tasks u m found)
            obtain ⟨node', known', -⟩ := tr.lasts sound u node known
            exact .inr ⟨nobody, .inr ⟨by simp [known'], missing⟩⟩
    · refine .inr ⟨?_, .inl (tr.not_rousing reachable ended)⟩
      exact (kept _).elim (fun same => same.trans nobody) And.left
    · have gone' := tr.stays_gone sound gone
      exact .inr ⟨State.registry_handle_of_none gone'.2, .inr gone'⟩
  · exact h.pending u ((tr.lasts sound).ongoing ongoing)
  · rcases kept r with same | nobody
    · rw [same]
      exact h.last r other
    · exact .inl nobody.1

theorem polls (h : Waitlist ps s) (reachable : Reachable s d)
    (registers : s.Registers s.polling s.step) : Waitlist (ps ++ s.polling) s.step := by
  obtain ⟨honest, single⟩ := s.honest_polling
  have sound := reachable.sound
  have vigil := reachable.vigil
  have tr : Transition s d s.step d := .step
  refine ⟨fun u => ?_, fun u ongoing p mine => ?_, fun r other => ?_, fun p mine => ?_⟩
  · rcases h.handle u with before | ⟨nobody, ended | gone⟩
    · left
      rw [registers.who, before, vainly_append]
      rfl
    · -- a task that has ended is not polled in vain
      refine .inr ⟨?_, .inl (tr.not_rousing reachable ended)⟩
      rw [registers.who, nobody, vainly_eq_nil fun p polled target =>
        ((honest p polled).handle u target).2 ended.1]
      rfl
    · have gone' := tr.stays_gone sound gone
      exact .inr ⟨State.registry_handle_of_none gone'.2, .inr gone'⟩
  · have before := (tr.lasts sound).ongoing ongoing
    rw [pollsOf_append, List.mem_append] at mine
    rcases mine with old | new
    · exact h.pending u before p old
    · obtain ⟨polled, target⟩ := mem_pollsOf.1 new
      exact ((honest p polled).handle u target).1 before
  · -- there is one poll at most, since it is not of a handle
    have few : (pollsOf r s.polling).length ≤ 1 := by
      rcases single with few | handles
      · exact (List.length_filter_le _ _).trans few
      · rw [List.length_eq_zero_iff.2 (List.eq_nil_iff_forall_not_mem.2 fun p mine => ?_)]
        · exact Nat.zero_le 1
        · obtain ⟨polled, target⟩ := mem_pollsOf.1 mine
          obtain ⟨u, aims⟩ := handles p polled
          exact other u (target.symm.trans aims)
    rw [registers.who, pollsOf_append]
    match polls : pollsOf r s.polling, few with
    | [], _ =>
      have nobody : vainly r s.polling = [] := by rw [vainly, polls]; rfl
      rw [nobody, State.joined_registry, List.append_nil]
      exact h.last r other
    | [p], _ =>
      obtain ⟨polled, rfl⟩ := mem_pollsOf.1 (polls ▸ List.mem_singleton_self p)
      have last : (pollsOf p.target ps ++ [p]).getLast? = some p := List.getLast?_concat ..
      -- the last look is registered if it was in vain, and else nobody is
      by_cases vain : p.sight.vain = true
      · have one : vainly p.target s.polling = [p.poller] := by simp [vainly, polls, vain]
        exact .inr ⟨p, last, vain, by rw [one, Resource.joined_of_last other]⟩
      · have nobody : vainly p.target s.polling = [] := by simp [vainly, polls, vain]
        rw [nobody, State.joined_registry]
        exact .inl (vigil.nobody other (honest p polled) vain)
  · rcases List.mem_append.1 mine with old | new
    · exact h.drained p old
    · exact (honest p new).pending

end Waitlist

/-- What a body can get at is there. -/
theorem Reachable.furnished {task : Task} (h : Reachable s d)
    (runs : s.Runs home t task f) :
    s.Furnished f ∧ ∀ w, f.waiting = some w → w.wait.OnOwn f.resources := by
  obtain ⟨past, trail⟩ := h.trail
  have sound := h.sound
  have frame : f.frame.resources ⊆ f.resources := by
    unfold Fiber.resources
    exact List.subset_append_right _ _
  refine ⟨{
    formed := sound.formed
    unmade := (trail.rolls.fresh s.nextNode (State.fresh_nextNode sound.formed.nodes)).2.2
    signals := fun g group found =>
      Option.isSome_iff_exists.1 (trail.rolls.roll g group found).signal
    owned := fun r mine => sound.has (.body runs) mine
    named := fun name r found => sound.has_of_find? (.body runs) frame found }, fun w waits => ?_⟩
  exact sound.wakeful.waitsOnOwn t task f w runs.found runs.fiber waits

theorem PollLog.waitlist (h : PollLog ps s d) : Waitlist ps s := by
  -- along the run; only a step with an empty agenda polls
  induction h with
  | init => exact .init
  | @step ps s d log ih =>
    have reachable := log.reachable
    have sound := reachable.sound
    cases agenda : s.agenda with
    | nil =>
      obtain ⟨past, trail⟩ := reachable.trail
      refine ih.polls reachable (State.step_registers agenda sound.formed ?_ ?_)
      · exact (trail.rolls.fresh s.nextNode (State.fresh_nextNode sound.formed.nodes)).2.2
      · exact fun home t task f runs => reachable.furnished runs
    | cons a rest =>
      -- an item of the agenda polls nobody, but it may wake all who wait
      have nothing : s.polling = [] := by rw [State.polling, agenda]
      rw [nothing, List.append_nil]
      refine ih.still reachable .step fun r => ?_
      refine ((State.step_item agenda).2.registry r).imp_right
        (And.imp_right fun why u target => ?_)
      refine (why u target).imp_left fun waking => ?_
      subst waking
      have rouses : s.rousing = u :: ({ s with agenda := rest } : State).rousing := by
        rw [State.rousing, agenda]
        rfl
      refine ⟨?_, fun again => ?_⟩
      · have ended := (sound.tether.leaving u (by rw [agenda]; exact List.mem_cons_self)).1
        exact (congrArg _ ((Transition.lasts sound .step).phase ended)).trans ended
      · -- it would have been there twice
        have once := reachable.rouses_one
        have behind := (State.step_item agenda).2.rousing.subset again
        rw [rouses, List.length_cons] at once
        have some_ := List.length_pos_of_mem behind
        omega
  | @stray ps s d t task log idle found ih =>
    exact ih.still log.reachable (.stray idle found) fun r => .inl (by cases r <;> rfl)
  | @move ps s s' d d' log rests m ih =>
    have sound := log.reachable.sound
    obtain ⟨past, trail⟩ := log.reachable.trail
    have unmade := (trail.rolls.fresh s.nextNode (State.fresh_nextNode sound.formed.nodes)).2.2
    exact ih.still log.reachable (.move rests m) fun r =>
      .inl ((m.registry sound.formed unmade).same r)

/-- Who is registered after the polls of a run. -/
structure Roster (ps : List Poll) (s : State) : Prop where
  /-- With a task that has not ended everyone who has polled it, in this order and as often as they
  did; nobody has found anything. -/
  ongoing : ∀ u m, s.tasks.get? u = some m → (s.phase u).isTerminal = false →
    s.registry (.handle u) = (pollsOf (.handle u) ps).map Poll.poller ∧
      ∀ p ∈ pollsOf (.handle u) ps, p.sight = .pending
  /-- At the end of the task it is going to wake them. -/
  ends : ∀ u, .wakeWaiters u ∈ s.agenda → s.registry (.handle u) = vainly (.handle u) ps
  /-- It wakes them all. -/
  wakes : ∀ u as, s.agenda = .wakeWaiters u :: as → ∃ ws : List Waker,
    s.step.agenda = ws.map .wake ++ as ∧ ws.filterMap Waker.task? = s.registry (.handle u)
  /-- Then nobody is registered with it any more. -/
  ended : ∀ u, (s.phase u).isTerminal = true → .wakeWaiters u ∉ s.agenda →
    s.registry (.handle u) = []
  /-- With a call at most the task that polled it last, which found nothing. -/
  call : ∀ k, s.registry (.call k) = [] ∨ ∃ p, (pollsOf (.call k) ps).getLast? = some p ∧
    p.sight = .pending ∧ s.registry (.call k) = [p.poller]
  /-- With a group at most the task that polled it last, which found nothing, or nothing more. -/
  group : ∀ g, s.registry (.group g) = [] ∨ ∃ p, (pollsOf (.group g) ps).getLast? = some p ∧
    (p.sight = .pending ∨ p.sight = .drained) ∧ s.registry (.group g) = [p.poller]

/-- **Who is registered, in every reachable state.**  A call and a group keep the task that polled
them last.  A task keeps all that polled it, and wakes them all at its end. -/
theorem polls_registered (h : PollLog ps s d) : Roster ps s where
  ongoing u m found ongoing := by
    have pending := h.waitlist.pending u ongoing
    refine ⟨?_, pending⟩
    have all : vainly (.handle u) ps = (pollsOf (.handle u) ps).map Poll.poller := by
      rw [vainly, List.filter_eq_self.2 fun p mine => by rw [pending p mine]; rfl]
    rcases h.waitlist.handle u with kept | ⟨-, ⟨ended, -⟩ | ⟨-, gone⟩⟩
    · rw [kept, all]
    · cases ended.symm.trans ongoing
    · cases gone.symm.trans found
  ends u asked := by
    rcases h.waitlist.handle u with kept | ⟨nobody, ⟨-, silent⟩ | ⟨-, gone⟩⟩
    · exact kept
    · exact absurd (mem_rousing.2 asked) silent
    · -- whose waiters are about to be woken is in its slice, so it is known
      obtain ⟨-, r, during⟩ := h.reachable.sound.tether.leaving u asked
      obtain ⟨m, found⟩ := h.reachable.sound.dispatch.known _ _ _ during
      cases gone.symm.trans found
  wakes u as agenda := by
    obtain ⟨-, r, during⟩ := h.reachable.sound.tether.leaving u (by rw [agenda]; exact .head _)
    obtain ⟨m, found⟩ := h.reachable.sound.dispatch.known _ _ _ during
    refine ⟨m.waiters, ?_, by rw [State.registry, found]; rfl⟩
    rw [State.step_of_agenda agenda, State.perform, State.wakeWaiters]
    simp [found, State.doFirst, State.modifyTask]
  ended u ended silent := by
    cases found : s.tasks.get? u with
    | none => exact State.registry_handle_of_none found
    | some m =>
      have nobody := (h.reachable.settled.waiters u m found ended).resolve_right silent
      rw [State.registry, found, Option.map_some, Option.getD_some, nobody]
      rfl
  call k := by
    refine (h.waitlist.last (.call k) (by simp)).imp_right ?_
    rintro ⟨p, last, vain, one⟩
    obtain ⟨polled, target⟩ := mem_pollsOf.1 (List.mem_of_getLast? last)
    exact ⟨p, last, h.waitlist.drained p polled (by simp [target]) vain, one⟩
  group g := by
    refine (h.waitlist.last (.group g) (by simp)).imp_right ?_
    rintro ⟨p, last, vain, one⟩
    refine ⟨p, last, ?_, one⟩
    cases sight : p.sight with
    | pending => exact .inl rfl
    | drained => exact .inr rfl
    | ready | panics =>
      rw [sight] at vain
      cases vain

/-! ### Two tasks poll one handle -/

/-- The polls of a number of steps of the machine. -/
def State.runPolls : Nat → State → List Poll
  | 0, _ => []
  | limit + 1, s => if s.resting then [] else s.polling ++ State.runPolls limit s.step

theorem PollLog.run (limit : Nat) : ∀ {ps : List Poll} {s : State}, PollLog ps s d →
    PollLog (ps ++ s.runPolls limit) (State.run limit s) d := by
  induction limit with
  | zero =>
    intro ps s h
    rwa [State.runPolls, List.append_nil]
  | succ limit ih =>
    intro ps s h
    rw [State.runPolls, State.run]
    split
    · rwa [List.append_nil]
    · rw [← List.append_assoc]
      exact ih h.step

/-- The main thread spawns a root task and polls nothing. -/
theorem PollLog.enlist (h : PollLog ps s .clear) (rests : s.resting = true) (name : String)
    (body : List Line) (idle : (State.begin
      (s.spawnOn [] ⟨"spawn", none, some name, true⟩ 0 none body)).resting = true) :
    PollLog ps (enlist s name body) .clear := by
  have line : s.plain? { who := .main } [] ⟨"spawn", none, some name, true⟩
      (.spawnOn 0 none body) = some _ := rfl
  exact (h.move rests (.line line)).move idle .shelve

/-- The body of a task that parks. -/
def sleeperBody : List Line :=
  [.mk ⟨"park", some "wait", none, true⟩ .park]

/-- The body of a task that polls the sleeper once, leaves the handle to others, and parks. -/
def pollerBody (name : String) : List Line :=
  [.mk ⟨"poll", some "child", none, true⟩ (.poll false .report),
    .mk ⟨"put", some "child", none, true⟩ .share,
    .mk ⟨"park", some name, none, true⟩ .park]

/-- A worker is let go on with a sleeper and two tasks that poll it. -/
def sleepover : State :=
  (enlist (enlist (enlist (({} : State).build 0 none none).1 "child" sleeperBody)
    "first" (pollerBody "first")) "second" (pollerBody "second")).start ⟨0⟩ .quiet

theorem pollLog_sleepover : PollLog (sleepover.runPolls 25) (State.run 25 sleepover) .clear := by
  have built : PollLog [] (({} : State).build 0 none none).1 .clear :=
    .move .init rfl (.build 0 none none)
  have asleep := built.enlist (by decide) "child" sleeperBody (by decide)
  have one := asleep.enlist (by decide) "first" (pollerBody "first") (by decide)
  have two := one.enlist (by decide) "second" (pollerBody "second") (by decide)
  exact (two.move (by decide) (.start (show Store.get? _ 0 = some ⟨0⟩ by decide))).run 25

/-- The machine has come to rest, and both are registered with the task that sleeps. -/
theorem polls_registered_sleepover : ∃ ps s, PollLog ps s .clear ∧ s.resting = true ∧
    (s.phase ⟨0⟩).isTerminal = false ∧
    s.registry (.handle ⟨0⟩) = (pollsOf (.handle ⟨0⟩) ps).map Poll.poller ∧
    pollsOf (.handle ⟨0⟩) ps = [⟨⟨1⟩, .handle ⟨0⟩, .pending⟩, ⟨⟨2⟩, .handle ⟨0⟩, .pending⟩] := by
  have sleeps : ((State.run 25 sleepover).phase ⟨0⟩).isTerminal = false := by decide +kernel
  have there : ((State.run 25 sleepover).tasks.get? ⟨0⟩).isSome = true := by decide +kernel
  obtain ⟨m, found⟩ := Option.isSome_iff_exists.1 there
  exact ⟨_, _, pollLog_sleepover, by decide +kernel, sleeps,
    ((polls_registered pollLog_sleepover).ongoing ⟨0⟩ m found sleeps).1, by decide +kernel⟩

/-- **More than one task may be registered with a task**: each poll leaves another waker, and none
takes the place of an earlier one. -/
theorem poll_piles_up : ¬ ∀ ps s d, PollLog ps s d →
    ∀ u, (s.registry (.handle u)).length ≤ 1 := by
  intro claim
  have few := claim _ _ _ pollLog_sleepover ⟨0⟩
  revert few
  decide +kernel

end Nursery
