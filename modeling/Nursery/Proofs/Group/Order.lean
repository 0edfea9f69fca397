import Nursery.Proofs.Group.Ledger

/-!
# Children in the order of their ends

The results of this part in one statement: at any point of any run, a group has its roll, what it
has handed on is what the collected children come to, and a look at it hands on just what comes
next.

* `Look.Fair` : what a look at a group finds, and where its line goes on from.
* `InOrder` : what holds of a group at any point of a run.
* `collected_in_order` : **every child is collected once, in the order of the ends.**
* `brood` : a run with a group of four children.
-/

namespace Nursery

/-- A look at a group, in a run: it goes on where its line has come to, and finds that nothing more
is to come just when every child that was added was collected. -/
structure Look.Fair (past : List State) (s : State) (l : Look) : Prop where
  /-- The step is the look, and the turn of the body that follows from it. -/
  step : s.LooksAt l
  /-- The line goes on with what those have come to that were collected since it began to wait. -/
  since : ∀ tally, l.tally = some tally →
    ∃ before s₀ mine, Tally.Sums l.group l.poller past s tally before s₀ mine
  /-- What is handed on in the step is what the look finds. -/
  results : State.results l.group s s.step = l.results
  /-- What the line comes to by it. -/
  comes : ∃ drained, l.ComesTo drained ∧ (drained = true ↔
    ∀ i < (s.members l.group).length, i ∈ gather (State.collected l.group) s.step (s :: past))

variable {s : State} {d : Desk} {g : TaskId} {l : Look} {past : List State}

theorem Trail.look_fair (h : Trail past s d) (look : s.look? = some l) : l.Fair past s := by
  have sound := h.reachable.sound
  have at_ := State.step_look sound look
  obtain ⟨xs, s₁, looked⟩ := at_.looked sound h.rolls
  obtain ⟨group, known⟩ := at_.known
  refine ⟨at_, fun tally => h.look_sums look, looked.results look, _,
    looked.comes, ?_⟩
  · obtain ⟨-, -, group₁, known₁, -⟩ := looked.collects.results
      (show l.state.groups.get? l.group = some group by rw [at_.before.groups, known])
    have known' : s.step.groups.get? l.group = some group₁ := by rw [looked.rest.groups, known₁]
    obtain ⟨group', there, same⟩ := looked.collects.children known₁
    rw [at_.before.groups, known, Option.some.injEq] at there
    have drained : s₁.drained l.group = true ↔ group₁.remaining = 0 := by
      simp [State.drained, known₁]
    rw [drained, ((h.next .step).rolls.roll l.group group₁ known').all_gone,
      State.members_of_get? known, same, there]

/-- What holds of a group at any point of a run, whatever is added, cancelled or moved. -/
structure InOrder (g : TaskId) (past : List State) (s : State) (d : Desk) : Prop where
  /-- Who has ended was collected, is listed or is just being told, in this order; what is
  outstanding is counted. -/
  roll : ∀ group, s.groups.get? g = some group →
    Roll s g group (gather (State.ends g) s past) (gather (State.collected g) s past) ∧
      (s.agenda = [] → s.announcing g = []) ∧ (s.completed g).length ≤ group.remaining
  /-- Whoever is collected is there with its outcome. -/
  there : ∀ group, s.groups.get? g = some group → ∀ x ∈ gather (State.takings g) s past,
    group.children[x.place]? = some x.child ∧ s.phase x.child = State.finalPhase (some x.outcome)
  /-- Whoever leaves the list is collected. -/
  places : gather (State.collected g) s past = (gather (State.takings g) s past).map Taking.place
  /-- What is handed on is what the collected children come to. -/
  results : gather (State.results g) s past = Taking.results false (gather (State.takings g) s past)
  /-- The values among it are theirs. -/
  values : (gather (State.results g) s past).filterMap Except.toOption =
    (gather (State.takings g) s past).filterMap Taking.value?
  /-- Each of them is got by a look, for the next result or for all of them, or withheld by a look
  for all results that gets a failure, or lost in the middle of waiting for all, or still kept by a
  line that waits. -/
  ledger : gather (fun s s' => State.handed g s s' ++ State.withheld g s s' ++
      (State.forfeited g s s').flatMap Tally.values) s past ++
        (s.tallied? g).toList.flatMap Tally.values =
      (gather (State.takings g) s past).filterMap Taking.value?
  /-- What a line keeps that waits for all results is what those have come to that were collected
  since it began to wait. -/
  kept : ∀ t task f w own values failure, s.tasks.get? t = some task → task.fiber = some f →
    f.waiting = some w → w.wait = .all g own values failure →
    s.tallied? g = some ⟨values, failure⟩ ∧
      ∃ before s₀ mine, Tally.Sums g t past s ⟨values, failure⟩ before s₀ mine
  /-- It gets lost only with the body of the line. -/
  lost : ∀ s' d', Transition s d s' d' → State.forfeited g s s' ≠ [] →
    ∃ t, s.awaits? t = some g ∧ (s'.tasks.get? t).bind Task.fiber = none
  /-- A look finds what comes next. -/
  looks : ∀ l, s.look? = some l → l.Fair past s
  /-- One child ends at a time. -/
  one : ∀ s' d', Transition s d s' d' → (State.ends g s s').length ≤ 1

/-- **A group collects every child once, in the order of the ends.** -/
theorem collected_in_order (h : Trail past s d) (g : TaskId) : InOrder g past s d := by
  have balanced := h.balanced g
  refine ⟨fun group found => ?_,
    fun group found x hx => ⟨balanced.children group found x hx, balanced.final x hx⟩,
    balanced.places, balanced.results, ?_, h.values_ledger g,
    fun t task f w own values failure found stored waits wait =>
      ⟨?_, h.waits_sums found stored waits wait⟩,
    fun s' d' tr loses => ?_, fun l look => h.look_fair look,
    fun s' d' tr => (tr.rolled h.reachable h.rolls).one g⟩
  · have roll := h.rolls.roll g group found
    have outstanding := roll.outstanding
    exact ⟨roll, State.announcing_of_idle, by omega⟩
  · rw [balanced.results, Taking.values_results]
  · have sound := h.reachable.sound
    have keeps : f.tallied? g = some ⟨values, failure⟩ :=
      Fiber.tallied?_eq_some.2 ⟨w, own, waits, wait⟩
    rw [sound.tallied_of_holder found stored (sound.tallied_mem found stored keeps), keeps]
  · exact h.forfeited_gone tr loses

/-! ### A group of four -/

/-- The body of a task that makes a group of four children, of which one returns a value, two fail
and one stops when it learns that it was cancelled; it asks for the next result and then for all
of them. -/
def broodBody : List Line :=
  let add (name : String) (act : Act) : Line :=
    .mk ⟨"add", some "g", some name, true⟩ (.add none [.mk ⟨"run", none, none, true⟩ act])
  [.mk ⟨"group", none, some "g", true⟩ .group, add "a" (.ret (some 7) none),
    add "b" (.fail "first" none), add "c" (.fail "second" none), add "d" .check,
    .mk ⟨"next", some "g", none, true⟩ (.next .report),
    .mk ⟨"all", some "g", none, true⟩ (.all .report)]

/-- The main thread has spawned such a task and lets the worker go on for a number of steps. -/
def brood (steps : Nat) : List State × State :=
  let built := (({} : State).build 0 none none).1
  let reaction := built.spawnOn [] ⟨"spawn", none, some "top", true⟩ 0 none broodBody
  let spawned := State.begin reaction
  let shelved := spawned.step.shelve reaction.frame
  follow steps [shelved, spawned.step, spawned, built, {}] (shelved.start ⟨0⟩ .quiet)

theorem trail_brood (steps : Nat) : Trail (brood steps).1 (brood steps).2 .clear := by
  have built : Trail _ _ .clear := Trail.init.next (.move rfl (.build 0 none none))
  have spawned := built.next (.move (by decide) (.line (show State.plain? _ { who := .main } []
    ⟨"spawn", none, some "top", true⟩ (.spawnOn 0 none broodBody) = some _ from rfl)))
  have shelved := (spawned.next .step).next (.move (by decide) .shelve)
  have started := shelved.next (.move (by decide)
    (.start (show Store.get? _ 0 = some ⟨0⟩ by decide)))
  exact started.follow steps

/-- After the first look three children are listed in the order of their ends, and the body has got
the value of the other one. -/
theorem collected_in_order_brood : ∃ past s, Trail past s .clear ∧
    s.completed ⟨1⟩ = [1, 2, 3] ∧ gather (State.ends ⟨1⟩) s past = [0, 1, 2, 3] ∧
    gather (State.handed ⟨1⟩) s past = [7] ∧
    (gather (State.takings ⟨1⟩) s past).filterMap Taking.value? = [7] := by
  have h := trail_brood 76
  have listed : (brood 76).2.completed ⟨1⟩ = [1, 2, 3] := by decide +kernel
  have collected : gather (State.collected ⟨1⟩) (brood 76).2 (brood 76).1 = [0] := by decide +kernel
  have handed : gather (State.handed ⟨1⟩) (brood 76).2 (brood 76).1 = [7] := by decide +kernel
  have values : (gather (State.results ⟨1⟩) (brood 76).2 (brood 76).1).filterMap Except.toOption =
    [7] := by decide +kernel
  have known : ((brood 76).2.groups.get? ⟨1⟩).isSome = true := by decide +kernel
  obtain ⟨group, found⟩ := Option.isSome_iff_exists.1 known
  have inOrder := collected_in_order h ⟨1⟩
  obtain ⟨roll, idle, -⟩ := inOrder.roll group found
  refine ⟨_, _, h, listed, ?_, handed, inOrder.values.symm.trans values⟩
  rw [roll.order, collected, listed, idle (by decide +kernel)]
  rfl

end Nursery
