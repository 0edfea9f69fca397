import Nursery.Proofs.Delivery.Balance
import Nursery.Proofs.Delivery.Conclusion
import Nursery.Proofs.Group.Drop
import Nursery.Proofs.Wakeup

/-!
# A body that leaves groups behind

When a body ends, what it owns is dropped in order.  A group among that with children outstanding
raises a panic, which takes the place of what the body returned; a body that panics already goes
on with its own panic.  Either way the drops go on, the groups are closed with everything below
them, and the task fails, after everything that was attached below it.

* `Ending.dismay` : what a task panics with whose body leaves such groups behind.
* `Doomed` : the frame of such a body is being dropped; `Transition.doomed`, so it goes on.
* `Leads.fails` : the task is given that panic, and nothing else.
* `undrained_fails` : **the task fails once, and so do all its groups.**
-/

namespace Nursery

/-- What a task panics with whose body leaves a group with children outstanding behind. -/
def Ending.dismay : Ending → String
  | .returned _ => groupComplaint
  | .panicked message => message

/-- The frame of a body is being dropped that leaves such a group behind, or that panics. -/
structure Doomed (s : State) (r : RuntimeId) (t : TaskId) (ending : Ending) : Prop where
  /-- The worker is about to keep the end of the body. -/
  slice : s.slice r = some (.task t (.ended ending))
  /-- It is the one that was let go on. -/
  active : ∃ goal, s.active = some (r, goal)
  /-- The body panics, or is about to. -/
  why : s.unwinding = some ending.dismay ∨ Complains s ∧ ending.dismay = groupComplaint

variable {s s' s₁ s₂ : State} {d d' d₁ d₂ : Desk} {home r : RuntimeId} {goal : Goal} {t : TaskId}
  {task : Task} {f : Fiber} {ending : Ending} {past : List State} {a : Action} {as : List Action}

/-! ### The end of a body -/

/-- A turn that ends its body leaves everything that the body owned to be dropped, last. -/
theorem Turn.takeEffect_ends {turn : Turn} (ends : turn.ending? = some ending) :
    ∃ (told : List Event) (unwinding : Option String), turn.takeEffect home t =
      ({ ((turn.state.doLast turn.after).modifyTask t fun m => { m with fiber := none }).setSlice
          home (some (.task t (.ended ending))) with unwinding := unwinding } : State).doLast
        (told.map .record ++ (turn.flow.owned ++ turn.fiber.resources).map .release) ∧
      (unwinding = turn.state.unwinding ∧ ending.dismay = groupComplaint ∨
        unwinding = some ending.dismay) := by
  obtain ⟨x, f, after, flow⟩ := turn
  cases flow with
  | next | suspend | pause => cases ends
  | finish result =>
    cases ends
    exact ⟨[.told (.task t) "end" (endReport result)], x.unwinding, rfl, .inl ⟨rfl, rfl⟩⟩
  | panic message owned =>
    cases ends
    exact ⟨[], some message, rfl, .inr rfl⟩

/-- **What the end of a body leaves.**  The worker drops what the body owned, and no complaint is
to come yet. -/
theorem Transition.leaves (h : Reachable s d) (tr : Transition s d s₁ d₁)
    (before : s.slice r ≠ some (.task t (.ended ending)))
    (after : s₁.slice r = some (.task t (.ended ending))) :
    (∃ (turn : Turn) (rest : List Action), s₁ = turn.takeEffect r t ∧
      turn.ending? = some ending ∧
      s₁.agenda = rest ++ (turn.flow.owned ++ turn.fiber.resources).map .release) ∧
    (∃ goal, s₁.active = some (r, goal)) ∧ (∀ m, .complain m ∉ s₁.agenda) ∧
    (s₁.unwinding = none ∧ ending.dismay = groupComplaint ∨
      s₁.unwinding = some ending.dismay) := by
  have sound := h.sound
  obtain ⟨rfl, idle, goal, task, f, active, runs⟩ := tr.atWork sound before after
  obtain ⟨turn, fits, takes, ends, how⟩ := sound.lastTurn idle active runs after
  obtain ⟨told, unwinding, eq, raised⟩ := @Turn.takeEffect_ends r t _ turn ends
  have keeps := fits.changes.keeps sound.formed
  have lines := fits.changes.ofLine sound.formed (.idle idle)
  have agenda : s.step.agenda = (turn.state.doLast turn.after).agenda ++
      (told.map .record ++ (turn.flow.owned ++ turn.fiber.resources).map .release) := by
    rw [takes, eq]
    rfl
  refine ⟨⟨turn, _, takes, ends, by rw [agenda, List.append_assoc]⟩, ⟨goal, ?_⟩,
    fun m complaint => ?_, ?_⟩
  · rw [takes, eq]
    exact keeps.active.trans active
  · rw [agenda] at complaint
    rcases List.mem_append.1 complaint with line | new
    · cases lines _ line
    · rcases List.mem_append.1 new with told | dropped
      · obtain ⟨e, -, other⟩ := List.mem_map.1 told
        cases other
      · obtain ⟨x, -, other⟩ := List.mem_map.1 dropped
        cases other
  · have same : s.step.unwinding = unwinding := by rw [takes, eq]; rfl
    rw [same]
    rcases raised with ⟨kept, dismay⟩ | raised
    · rcases how with ⟨calm, -⟩ | ⟨message, panics, rfl⟩
      · exact .inl ⟨kept.trans (keeps.unwinding.trans calm), dismay⟩
      · exact .inr (kept.trans (keeps.unwinding.trans panics))
    · exact .inr raised

/-! ### Until the end is kept -/

namespace Doomed

theorem inside_of_slice (slice : s.slice r = some (.task t (.ended ending)))
    (active : s.active = some (r, goal)) : s.inBody = true := by
  simp [State.inBody, active, slice]

theorem of_forsaken (h : Reachable s d) (tr : Transition s d s₁ d₁)
    (before : s.slice r ≠ some (.task t (.ended ending)))
    (after : s₁.slice r = some (.task t (.ended ending))) (left : ∃ g, s₁.Forsakes g) :
    Doomed s₁ r t ending := by
  obtain ⟨-, ⟨goal, active⟩, mute, how⟩ := tr.leaves h before after
  refine ⟨after, ⟨goal, active⟩, how.symm.imp id fun ⟨calm, dismay⟩ => ⟨?_, dismay⟩⟩
  exact ⟨inside_of_slice after active, fun m complaint => absurd complaint (mute m),
    .inr ⟨calm, .inr left⟩⟩

/-- While the agenda is worked off the frame goes on being dropped. -/
theorem step (h : Reachable s d) (busy : s.agenda = a :: as) (doomed : Doomed s r t ending) :
    Doomed s.step r t ending := by
  obtain ⟨same, e⟩ := State.step_item busy
  obtain ⟨goal, active⟩ := doomed.active
  refine ⟨(e.slice r).trans doomed.slice, ⟨goal, e.active.trans active⟩, ?_⟩
  rcases doomed.why with panics | ⟨c, dismay⟩
  · exact .inl ((@Unrolls.next [] s s a as .refl (by rw [busy, List.append_nil])).one_panic panics)
  · exact .inr ⟨c.step h busy, dismay⟩

theorem panics (idle : s.agenda = []) (doomed : Doomed s r t ending) :
    s.unwinding = some ending.dismay := by
  rcases doomed.why with panics | ⟨c, dismay⟩
  · exact panics
  · rw [c.panics idle, dismay]

theorem stray (idle : s.agenda = []) (u : TaskId) (doomed : Doomed s r t ending) :
    Doomed (s.doFirst [.wake (.task u)]) r t ending := by
  have panics := doomed.panics idle
  exact ⟨doomed.slice, doomed.active, .inl panics⟩

end Doomed

/-- **The frame goes on being dropped**, until the worker keeps that the body has panicked. -/
theorem Transition.doomed (h : Reachable s d) (tr : Transition s d s' d')
    (doomed : Doomed s r t ending) :
    Doomed s' r t ending ∧ State.endings t s s' = [] ∨
      State.endings t s s' = [.panicked ending.dismay] := by
  obtain ⟨goal, active⟩ := doomed.active
  cases agenda : s.agenda with
  | cons a as =>
    have next : s' = s.step := (tr.eq_perform agenda).trans (State.step_of_agenda agenda).symm
    obtain ⟨same, e⟩ := State.step_item agenda
    rw [next]
    exact .inl ⟨doomed.step h agenda, State.endings_of_slices e.slice⟩
  | nil =>
    cases tr with
    | step =>
      right
      rw [(State.endings_ended agenda active doomed.slice).2, doomed.panics agenda]
      cases ending <;> rfl
    | stray idle =>
      exact .inl ⟨doomed.stray idle _, State.endings_of_slices fun _ => rfl⟩
    | move rests => simp [State.resting, active] at rests

/-! ### The task fails -/

/-- A task was given nothing before the end of its body is kept. -/
theorem Trail.unended (h : Trail past s d) {m : Task} (found : s.tasks.get? t = some m)
    (ongoing : (s.phase t).isTerminal = false) (early : m.fiber ≠ none ∨ s.Keeping t) :
    gather (State.endings t) s past = [] := by
  have parcel := h.parcel t
  have nothing : gather (State.produced t) s past = [] := by
    rw [← parcel.kept m found, parcel.early ongoing, h.reachable.early t m found early]
    rfl
  refine List.length_eq_zero_iff.1 ?_
  rw [← State.length_produced, nothing, List.length_nil]

/-- A task has not ended, and was given nothing, while the end of its body is still to be kept. -/
theorem Trail.keeping (h : Trail past s d) (keeping : s.Keeping t) :
    (s.phase t).isTerminal = false ∧ gather (State.endings t) s past = [] := by
  have sound := h.reachable.sound
  have ⟨r, e, during⟩ := keeping
  obtain ⟨m, found⟩ := sound.dispatch.known r t _ during
  have ongoing : (s.phase t).isTerminal = false := by
    rcases (sound.dispatch.slice_fits during).2 with up | up <;> rw [up] <;> rfl
  exact ⟨ongoing, h.unended found ongoing (.inr keeping)⟩

/-- A task was given nothing while a worker is inside its body. -/
theorem Trail.within (h : Trail past s d) (within : s.Within r t) :
    gather (State.endings t) s past = [] := by
  obtain ⟨-, ⟨task, f, runs⟩ | ended⟩ := within
  · have ongoing : (s.phase t).isTerminal = false := by
      rcases (h.reachable.sound.dispatch.runs runs).2 with up | up <;> rw [up] <;> rfl
    exact h.unended runs.found ongoing (.inl (by rw [runs.fiber]; exact Option.some_ne_none f))
  · exact (h.keeping ⟨r, ended⟩).2

/-- **A task is given the panic** of a body that left groups behind, and nothing else. -/
theorem Leads.fails (h : Reachable s₁ d₁) (doomed : Doomed s₁ r t ending)
    (l : Leads s₁ d₁ s' d') : ∃ past, Trail past s' d' ∧ (Doomed s' r t ending ∨
      gather (State.endings t) s' past = [.panicked ending.dismay]) := by
  induction l with
  | refl =>
    obtain ⟨past, trail⟩ := h.trail
    exact ⟨past, trail, .inl doomed⟩
  | @next x x' e e' l tr ih =>
    obtain ⟨past, trail, before⟩ := ih
    have next := trail.next tr
    refine ⟨_, next, ?_⟩
    rcases before with doomed | given
    · refine (tr.doomed trail.reachable doomed).imp And.left fun seen => ?_
      rw [gather_cons, (trail.keeping ⟨r, ending, doomed.slice⟩).2, seen]
      rfl
    · -- a body ends once
      have once := (next.parcel t).once
      rw [gather_cons, given, List.length_append, List.length_singleton] at once
      have no_more : State.endings t x x' = [] := List.length_eq_zero_iff.1 (by omega)
      exact .inr (by rw [gather_cons, given, no_more, List.append_nil])

/-- A body that is over does not begin again. -/
theorem Leads.bodiless (h : Reachable s d) (l : Leads s d s' d') (known : s.Knows t)
    (bodiless : ∀ m, s.tasks.get? t = some m → m.fiber = none) :
    ∀ m, s'.tasks.get? t = some m → m.fiber = none := by
  induction l with
  | refl => exact bodiless
  | @next x x' e e' l tr ih =>
    obtain ⟨node, found⟩ := known
    obtain ⟨node', there, -⟩ := l.lasts h t node found
    intro m' found'
    cases tr.disposes (h.leads l).sound t with
    | absent gone => cases gone.symm.trans found'
    | made unmade => cases unmade.symm.trans there
    | goes before after keeps =>
      cases after.symm.trans found'
      exact keeps.fiber (ih _ before)
    | ends before after =>
      cases after.symm.trans found'
      rw [Ending.fiber_keep]
      exact ih _ before

/-- How a task ends whose body left groups behind: whoever asks for its outcome learns of the
panic, and if the task goes on it is because of its children. -/
theorem Doomed.failed (h : Reachable s₁ d₁) (doomed : Doomed s₁ r t ending)
    (l : Leads s₁ d₁ s' d') :
    (∀ m, s'.tasks.get? t = some m →
      m.outcome = none ∨ m.outcome = some (.error (.panicked ending.dismay))) ∧
    ((s'.phase t).isTerminal = true → s'.phase t = .failed) ∧
    (∀ s'' d'', Transition s' d' s'' d'' → (s'.phase t).isTerminal = false →
      (s''.phase t).isTerminal = true → s'.outcome? t = some (.error (.panicked ending.dismay))) ∧
    ∀ m, s'.tasks.get? t = some m → s'.agenda = [] → s'.Dormant t → s'.children t ≠ [] := by
  have sound := h.sound
  obtain ⟨m₁, there⟩ := sound.dispatch.known r t _ doomed.slice
  obtain ⟨node, known, -⟩ := Option.map_eq_some_iff.1 (sound.formed.tasks t m₁ there)
  have bodiless := l.bodiless h ⟨node, known⟩ fun m found =>
    (sound.wakeful t m found).past r _ doomed.slice rfl
  obtain ⟨past, trail, given⟩ := l.fails h doomed
  have reachable := trail.reachable
  have parcel := trail.parcel t
  -- the task goes on without an outcome, or it was given that one
  have cases : (s'.phase t).isTerminal = false ∧
        (∀ m, s'.tasks.get? t = some m → m.outcome = none) ∨
      gather (State.produced t) s' past = [.error (.panicked ending.dismay)] := by
    rcases given with still | given
    · have keeping : s'.Keeping t := ⟨r, ending, still.slice⟩
      exact .inl ⟨(trail.keeping keeping).1, fun m found =>
        reachable.early t m found (.inr keeping)⟩
    · obtain ⟨blocking, produced⟩ := State.produced_eq_map parcel.once
      right
      rw [produced, given]
      cases blocking <;> rfl
  have outcome : ∀ m, s'.tasks.get? t = some m →
      m.outcome = none ∨ m.outcome = some (.error (.panicked ending.dismay)) := by
    intro m found
    rcases cases with ⟨-, nothing⟩ | produced
    · exact .inl (nothing m found)
    · have kept := parcel.kept m found
      rw [produced] at kept
      cases outcome : m.outcome with
      | none => exact .inl rfl
      | some o =>
        have mine : o ∈ [Except.error (TaskError.panicked ending.dismay)] := by
          rw [← kept, outcome]
          simp
        rw [List.mem_singleton.1 mine]
        exact .inr rfl
  refine ⟨outcome, fun ended => ?_, fun s'' d'' tr ongoing ended => ?_,
    fun m found idle dormant => ?_⟩
  · rcases cases with ⟨ongoing, -⟩ | produced
    · cases ongoing.symm.trans ended
    · obtain ⟨o, same, final⟩ := parcel.final ended
      rw [produced] at same
      cases same
      exact final
  · obtain ⟨o, asked, -⟩ := tr.completes reachable ongoing ended
    obtain ⟨m, found, given⟩ := Option.bind_eq_some_iff.1 asked
    rw [asked, ← given]
    exact (outcome m found).resolve_left fun none => by cases none.symm.trans given
  · have unmet := reachable.sound.unmet_of_idle found dormant idle
    rwa [bodiless m found] at unmet

/-! ### The groups -/

/-- Whoever is below a node that is below another one is below that. -/
theorem State.Below.trans {p g u : TaskId} (above : s.Below p g) (below : s.Below g u) :
    s.Below p u := by
  induction below with
  | child found parent => exact .deeper above found parent
  | deeper _ found parent ih => exact .deeper ih found parent

/-- The log goes on saying once that a group was dropped. -/
theorem State.Disbanded.said_once {g : TaskId} (h : Reachable s d) (disbanded : s.Disbanded g)
    (l : Leads s d s' d') : (outcries s'.trace).count g = 1 := by
  have more := l.cries h g
  have once := (h.leads l).outcry.once g
  rw [disbanded.said] at more
  rw [State.cries] at once
  omega

/-- **A body that leaves groups behind fails its task once.**  When a body ends, what it owned is
to be dropped.  If there are groups with children outstanding among that, one panic goes through
the frame: that of the first such group if the body returned, its own if it panicked.  Every such
group is cancelled with everything below it and closed, and the log says so once.  Whoever asks
for the outcome of the task learns of that panic, the task can only fail, nothing but its children
keeps it from doing so, and no task that a group was made by ends before everything below the
group has.  Outside of a body the groups go in the same way, but nobody panics. -/
theorem undrained_fails (h : Reachable s d) :
    (∀ s₁ d₁ r t ending, Transition s d s₁ d₁ → s.slice r ≠ some (.task t (.ended ending)) →
      s₁.slice r = some (.task t (.ended ending)) →
      (∃ (turn : Turn) (rest : List Action), s₁ = turn.takeEffect r t ∧
        turn.ending? = some ending ∧
        s₁.agenda = rest ++ (turn.flow.owned ++ turn.fiber.resources).map .release) ∧
      ((∃ g, s₁.Forsakes g) →
        (∃ x, Unrolls [] s₁ x ∧ x.agenda = [] ∧ x.slice r = some (.task t (.ended ending)) ∧
          x.unwinding = some ending.dismay ∧
          (∀ y z m, Unrolls [] s₁ y → Unrolls [] y z → y.unwinding = some m →
            z.unwinding = some m) ∧
          ∀ g, s₁.Forsakes g → x.Disbanded g ∧
            ∀ s' d', Leads x d₁ s' d' → (outcries s'.trace).count g = 1) ∧
        ∀ s' d', Leads s₁ d₁ s' d' →
          (∀ m, s'.tasks.get? t = some m →
            m.outcome = none ∨ m.outcome = some (.error (.panicked ending.dismay))) ∧
          ((s'.phase t).isTerminal = true → s'.phase t = .failed) ∧
          (∀ s'' d'', Transition s' d' s'' d'' → (s'.phase t).isTerminal = false →
            (s''.phase t).isTerminal = true →
              s'.outcome? t = some (.error (.panicked ending.dismay))) ∧
          (∀ m, s'.tasks.get? t = some m → s'.agenda = [] → s'.Dormant t → s'.children t ≠ []) ∧
          ∀ g k p, s₁.Forsakes g → s₁.origin g = some (k, some p) →
            (s'.phase p).isTerminal = true → ∀ u, s'.Below g u → s'.kind? u = some .task →
              (s'.phase u).isTerminal = true)) ∧
    (s.inBody = false → ∃ x, Unrolls [] s x ∧ x.agenda = [] ∧
      (∀ y, Unrolls [] s y → y.unwinding = s.unwinding) ∧ (∀ r, x.slice r = s.slice r) ∧
      ∀ g, s.Forsakes g → x.Disbanded g ∧
        ∀ s' d', Leads x d s' d' → (outcries s'.trace).count g = 1) := by
  -- inside of a body and outside, the groups go in the same way
  have disbands : ∀ {s x : State} {d : Desk}, Reachable s d → Unrolls [] s x → x.agenda = [] →
      ∀ g, s.Forsakes g → x.Disbanded g ∧
        ∀ s' d', Leads x d s' d' → (outcries s'.trace).count g = 1 := by
    intro s x d h way idle g forsaken
    have disbanded := way.disbands h idle forsaken
    exact ⟨disbanded, fun s' d' l => disbanded.said_once (h.leads (way.leads d)) l⟩
  constructor
  · intro s₁ d₁ r t ending tr before after
    refine ⟨(tr.leaves h before after).1, fun left => ?_⟩
    have h₁ := h.next tr
    have doomed := Doomed.of_forsaken h tr before after left
    obtain ⟨x, way, idle⟩ := h₁.worked_off
    -- the body stays at its end until the agenda is worked off
    have still : Doomed x r t ending := by
      clear idle
      induction way with
      | refl => exact doomed
      | next way busy ih => exact ih.step (h₁.leads (way.leads d₁)) busy
    refine ⟨⟨x, way, idle, still.slice, still.panics idle,
      fun y z m _ on panics => on.one_panic panics, disbands h₁ way idle⟩, fun s' d' l => ?_⟩
    obtain ⟨outcome, failed, given, waits⟩ := doomed.failed h₁ l
    refine ⟨outcome, failed, given, waits, fun g k p _ made ended u below task => ?_⟩
    obtain ⟨node, found, eq⟩ := Option.map_eq_some_iff.1 made
    have above : s'.Below p g := (l.lasts h₁).below (.child found (Prod.mk.inj eq).2)
    exact (((h₁.leads l).sound.kinship.subtreeEnded ended).below u (above.trans below)).2 task
  · intro outside
    obtain ⟨x, way, idle⟩ := h.worked_off
    exact ⟨x, way, idle, fun y on => on.no_panic outside, way.still.1, disbands h way idle⟩

/-! ### Two groups left behind -/

/-- The lines that make a group with a child. -/
def litterLines (name : String) : List Line :=
  [.mk ⟨"group", none, some name, true⟩ .group, .mk ⟨"add", some name, none, true⟩ (.add none [])]

/-- The body of a root task that sends an actor such lines, and leaves two groups behind itself. -/
def leaverBody : List Line :=
  [.mk ⟨"actor", none, some "actor", true⟩ (.actor [] none),
    .mk ⟨"send", some "actor", none, true⟩ (.send (litterLines "third"))] ++
    litterLines "first" ++ litterLines "second"

/-- The main thread is blocked on that task, and the machine has made a number of steps. -/
def leaver (steps : Nat) : State :=
  State.run steps (((({} : State).build 0 none none).1.launchRoot ⟨0⟩ leaverBody).start ⟨0⟩
    .blocking)

theorem reachable_leaver (steps : Nat) : Reachable (leaver steps) (.blocked ⟨0⟩ ⟨0⟩) :=
  reachable_blocked leaverBody steps

/-- The worker is at the end of a body that returned. -/
def Slice.returned (t : TaskId) : Slice → Bool
  | .task u (.ended (.returned _)) => u = t
  | _ => false

theorem State.slice_returned (h : (s.slice r).any (Slice.returned t) = true) :
    ∃ result, s.slice r = some (.task t (.ended (.returned result))) := by
  obtain ⟨slice, during, returned⟩ := (Option.any_eq_true _ _).1 h
  unfold Slice.returned at returned
  split at returned
  · rename_i u result
    exact ⟨result, by rw [during, of_decide_eq_true returned]⟩
  · cases returned

/-- The body returns, its task panics and fails, and the handler that leaves the third group behind
does not panic. -/
theorem undrained_fails_leaver : ∃ s₁ x s₂ s₃ y d, Reachable s₁ d ∧
    s₁.Forsakes ⟨1⟩ ∧ s₁.Forsakes ⟨3⟩ ∧ Unrolls [] s₁ x ∧ x.unwinding = some groupComplaint ∧
    x.Disbanded ⟨1⟩ ∧ x.Disbanded ⟨3⟩ ∧ Leads s₁ d s₂ d ∧ (s₂.phase ⟨0⟩).isTerminal = true ∧
    s₂.phase ⟨0⟩ = .failed ∧
    Reachable s₃ d ∧ s₃.inBody = false ∧ s₃.Forsakes ⟨5⟩ ∧ Unrolls [] s₃ y ∧
    y.unwinding = none ∧ y.Disbanded ⟨5⟩ := by
  obtain ⟨result, ended⟩ := State.slice_returned (s := (leaver 8).step) (r := ⟨0⟩) (t := ⟨0⟩)
    (by decide +kernel)
  have polling : ((leaver 8).slice ⟨0⟩).any (Slice.returned ⟨0⟩) = false := by decide +kernel
  have first : (leaver 8).step.Forsakes ⟨1⟩ := by decide +kernel
  have second : (leaver 8).step.Forsakes ⟨3⟩ := by decide +kernel
  have third : (leaver 40).Forsakes ⟨5⟩ := by decide +kernel
  have outside : (leaver 40).inBody = false := by decide +kernel
  have calm : (leaver 40).unwinding = none := by decide +kernel
  have terminal : ((State.run 100 (leaver 8).step).phase ⟨0⟩).isTerminal = true := by decide +kernel
  have h := reachable_leaver 8
  obtain ⟨-, falls⟩ := (undrained_fails h).1 _ _ ⟨0⟩ ⟨0⟩ _ .step
    (fun now => by rw [now] at polling; simp [Slice.returned] at polling) ended
  obtain ⟨⟨x, way, -, -, panics, -, gone⟩, fails⟩ := falls ⟨_, first⟩
  obtain ⟨-, failed, -⟩ := fails _ _ (leads_run 100 _ _)
  obtain ⟨y, way', -, calmly, -, gone'⟩ := (undrained_fails (reachable_leaver 40)).2 outside
  exact ⟨_, x, _, _, y, _, h.next .step, first, second, way, panics, (gone _ first).1,
    (gone _ second).1, leads_run 100 _ _, terminal, failed terminal, reachable_leaver 40, outside,
      third,
    way', (calmly y way').trans calm, (gone' _ third).1⟩

end Nursery
