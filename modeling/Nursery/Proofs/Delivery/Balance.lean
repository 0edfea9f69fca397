import Nursery.Proofs.Delivery.Parcel

/-!
# What was given and what was taken

Along a run a task is given at most one outcome, and what was taken from it and what is still
there are that outcome.  Nothing is taken before the task has ended, and the task ends with the
outcome that it was given.

* `Early` : a task has no outcome before the end of its body is kept.
* `Transition.completes` : a task ends in one way only.
* `Parcel` : what was given, taken and kept along a run.
* `Trail.parcel` : **it balances**, for every task and every run.
-/

namespace Nursery

/-- A task has no outcome before the end of its body is kept. -/
def Early (s : State) : Prop :=
  ∀ t m, s.tasks.get? t = some m → m.fiber ≠ none ∨ s.Keeping t → m.outcome = none

/-- Nobody ends. -/
structure Unended (s s' : State) : Prop where
  /-- Who has ended had ended before. -/
  ended : ∀ t, (s'.phase t).isTerminal = true → (s.phase t).isTerminal = true

/-- What a task was given along a run, what was taken from it, and what is still there. -/
structure Parcel (t : TaskId) (past : List State) (s : State) : Prop where
  /-- What was taken and what is there are what the task was given. -/
  kept : ∀ m, s.tasks.get? t = some m →
    gather (State.taken t) s past ++ m.outcome.toList = gather (State.produced t) s past
  /-- The main thread is given the result of a task on which it is blocked. -/
  answer : ∀ m, s.tasks.get? t = some m →
    m.answer = (gather (State.endings t) s past).head?.bind (Ending.answer m.blocking)
  /-- What was given depends on how the body ended. -/
  given : ∀ m, s.tasks.get? t = some m →
    gather (State.produced t) s past =
      (gather (State.endings t) s past).map (Ending.given m.blocking)
  /-- Nothing is taken before the task has ended. -/
  early : (s.phase t).isTerminal = false → gather (State.taken t) s past = []
  /-- A task that has ended was given one outcome, and has ended accordingly. -/
  final : (s.phase t).isTerminal = true → ∃ outcome,
    gather (State.produced t) s past = [outcome] ∧ s.phase t = State.finalPhase (some outcome)
  /-- A body ends once. -/
  once : (gather (State.endings t) s past).length ≤ 1
  /-- What was taken was given before. -/
  taken : gather (State.taken t) s past <+: gather (State.produced t) s past
  /-- A task that was not made was given nothing. -/
  unmade : s.nodes.get? t = none →
    gather (State.endings t) s past = [] ∧ gather (State.produced t) s past = []

variable {s s' s'' : State} {d d' : Desk} {c : Context} {hand hand' : List Resource} {a : Action}
  {home : RuntimeId} {t : TaskId} {m m' : Task} {past : List State}

/-! ### Before the end -/

theorem Early.init : Early {} :=
  fun _ _ found => by cases found

theorem Early.disposes (h : Early s) (sound : Sound s d) (disposes : ∀ t, Disposes t s s') :
    Early s' := by
  intro t m' found' early
  cases disposes t with
  | absent gone => cases gone.symm.trans found'
  | made _ found fresh =>
    cases found.symm.trans found'
    exact fresh.outcome
  | goes found there keeps keeping =>
    cases there.symm.trans found'
    have before := h t _ found
      (early.elim (fun alive => .inl fun none => alive (keeps.fiber none)) fun later =>
        (keeping later).symm)
    exact keeps.outcome.elim (fun same => same.trans before) And.left
  | ends found there keeping free =>
    cases there.symm.trans found'
    obtain ⟨r, ending, during⟩ := keeping
    refine absurd early (not_or.2 ⟨fun alive => alive ?_, free⟩)
    rw [Ending.fiber_keep]
    exact (sound.wakeful t _ found).past r _ during rfl

theorem Reachable.early (h : Reachable s d) : Early s := by
  induction h with
  | init => exact .init
  | next reachable tr ih => exact ih.disposes reachable.sound (tr.disposes reachable.sound)

/-! ### Who ends -/

namespace Unended

theorem trans (h : Unended s s') (h' : Unended s' s'') : Unended s s'' :=
  ⟨fun t ended => h.ended t (h'.ended t ended)⟩

theorem of_nodes (same : s'.nodes = s.nodes) : Unended s s' :=
  ⟨fun t ended => by rwa [State.phase, same] at ended⟩

theorem refl (s : State) : Unended s s :=
  of_nodes rfl

theorem modifyNode {n : TaskId} {f : Node → Node} (nodes : s'.nodes = s.nodes.modify n f)
    (goes_on : ∀ m, (f m).phase = m.phase ∨ (f m).phase.isTerminal = false) : Unended s s' := by
  refine ⟨fun t ended => ?_⟩
  rw [State.phase, nodes, Store.get?_modify] at ended
  unfold State.phase
  split at ended
  · rename_i mine
    subst mine
    cases found : s.nodes.get? n with
    | none => simpa [found] using ended
    | some m =>
      have now : (f m).phase.isTerminal = true := by simpa [found] using ended
      rcases goes_on m with same | ongoing
      · simpa [same] using now
      · cases ongoing.symm.trans now
  · exact ended

theorem grow {kind : NodeKind} {priority : Priority} {parent : Option TaskId} {p : Phase}
    {nodes : Store TaskId Node} (formed : Formed s) (grown : Grown s kind priority parent p nodes)
    (ongoing : p.isTerminal = false) (same : s'.nodes = nodes) : Unended s s' := by
  refine ⟨fun t ended => ?_⟩
  have made := Undisturbed.grow (State.fresh_nextNode formed.nodes) grown ongoing s.trace
  rw [← made.phase]
  rwa [State.phase, same] at ended

end Unended

/-- An item of the agenda ends nobody. -/
theorem Effect.unended (e : Effect s a s') : Unended s s' := by
  cases e with
  | cancel | finish | orphan => exact .modifyNode rfl fun _ => .inl rfl
  | @reap n | @reapLast n =>
    have left : Unended s (s.modifyNode n fun m => { m with reaped := true }) :=
      .modifyNode rfl fun _ => .inl rfl
    exact left.trans (.modifyNode rfl fun _ => .inl rfl)
  | resume => exact .modifyNode (State.nodes_enqueue ..) fun _ => .inr rfl
  | notify => exact .modifyNode rfl fun _ => .inr rfl
  | _ => exact .of_nodes rfl

/-- A line ends nobody. -/
theorem Change.unended (formed : Formed s) (hc : Change c s hand s' hand') : Unended s s' := by
  cases hc with
  | @spawn home parent priority body =>
    obtain ⟨nodes, trace, grown, eq⟩ :=
      State.launch_addNode_eq formed.nodes priority parent home body false
    rw [eq]
    exact .grow formed grown rfl (State.nodes_enqueue ..)
  | @add g group priority body =>
    obtain ⟨nodes, trace, p, grown, eq⟩ :=
      State.addChild_eq formed.nodes formed.fresh_task g group priority body
    rw [eq]
    exact .grow formed grown rfl (State.nodes_enqueue ..)
  | @group home =>
    obtain ⟨nodes, trace, priority, grown, eq⟩ := State.makeGroup_eq formed.nodes c home
    rw [eq]
    exact .grow formed grown rfl rfl
  | call | send =>
    obtain ⟨actors, runtimes, agenda, eq⟩ := State.post_eq _ _ _ _
    rw [eq]
    exact .of_nodes rfl
  | _ => exact .of_nodes rfl

theorem Changes.unended (formed : Formed s) (hc : Changes c s hand s' hand') : Unended s s' :=
  (hc.invariant (I := fun x _ => Formed x ∧ Unended s x)
    (fun hc h => ⟨h.1.change hc, h.2.trans (hc.unended h.1)⟩) ⟨formed, .refl s⟩).2

/-- The main thread ends nobody. -/
theorem Move.unended (formed : Formed s) (idle : s.agenda = []) (m : Move s d s' d') :
    Unended s s' := by
  cases m with
  | build place batch stem =>
    rcases s.build_cases place batch stem with eq | ⟨-, settings, eq⟩ <;> rw [eq] <;>
      exact .of_nodes rfl
  | start | block | join => exact .of_nodes (State.nodes_start ..)
  | startRounds =>
    exact .of_nodes ((State.nodes_start ..).trans (State.nodes_enqueue ..))
  | @launchRoot _ r _ body =>
    obtain ⟨nodes, trace, grown, eq⟩ :=
      State.launch_addNode_eq formed.nodes .normal none r body true
    rw [State.launchRoot, eq]
    exact .grow formed grown rfl (State.nodes_enqueue ..)
  | leaveRoot | close => exact .of_nodes rfl
  | line plain => exact (State.plain?_fits idle plain).unended formed
  | @shelve f => exact (State.shelve_changes (c := ⟨.main, none⟩) f s []).unended formed

/-- A worker ends a task only when its body is over and its last child has left it. -/
theorem Work.completes (formed : Formed s) (w : Work s home s') : Unended s s' ∨
    ∃ u stage, s.slice home = some (.task u stage) ∧ s.Over u stage ∧
      (∀ v, v ≠ u → s'.phase v = s.phase v) ∧
        (.wakeWaiters u ∈ s'.agenda ∧ .reportFailure u ∈ s'.agenda) ∧
          ∀ o, s.outcome? u = some o → s'.phase u = State.finalPhase (some o) := by
  have line : ∀ {c : Context} {hand hand' : List Resource} {x : State},
      Changes c s hand x hand' → s'.nodes = x.nodes → Unended s s' := fun changes same =>
    (changes.unended formed).trans (.of_nodes same)
  cases w with
  | next _ _ changes | suspend _ _ changes | ends _ _ changes | pause _ _ _ changes
  | handle _ changes | hold _ _ changes | handled _ _ changes => exact .inl (line changes rfl)
  | rest | forgotten | begin => exact .inl (.modifyNode rfl fun _ => .inr rfl)
  | again => exact .inl (.modifyNode (State.nodes_enqueue ..) fun _ => .inr rfl)
  | @complete t stage p trace during past alone ended final =>
    refine .inr ⟨t, stage, during, past, fun v other => ?_, by simp [State.doFirst],
      fun o given => ?_⟩
    · exact State.phase_modifyNode_of_ne (Ne.symm other)
    · obtain ⟨m, found, -⟩ := Option.bind_eq_some_iff.1 given
      obtain ⟨node, there, -⟩ := Option.map_eq_some_iff.1 (formed.tasks t m found)
      rw [final, show (s.tasks.get? t).bind Task.outcome = some o from given]
      exact State.phase_modifyNode_self there
  | drainAgain | markerAgain => exact .inl (.of_nodes (State.nodes_enqueue ..))
  | _ => exact .inl (.of_nodes rfl)

/-- **A task ends with the outcome that it has then**; whoever waits is going to be woken, and the
task to be asked for a failure. -/
theorem Transition.completes (h : Reachable s d) (tr : Transition s d s' d')
    (ongoing : (s.phase t).isTerminal = false) (ended : (s'.phase t).isTerminal = true) :
    ∃ o, s.outcome? t = some o ∧ s'.phase t = State.finalPhase (some o) ∧
      .wakeWaiters t ∈ s'.agenda ∧ .reportFailure t ∈ s'.agenda := by
  have sound := h.sound
  have unended : ¬ Unended s s' := fun u => by
    cases ongoing.symm.trans (u.ended t ended)
  cases tr with
  | step =>
    have next := State.step_cases sound.wakeful.waitsOnOwn
    generalize s.step = s' at next ended unended
    cases next with
    | item first e =>
      subst first
      exact absurd ⟨e.unended.ended⟩ unended
    | @work home goal s' idle active w =>
      obtain ⟨u, stage, during, past, others, asked, final⟩ :=
        (w.completes sound.formed).resolve_left unended
      by_cases mine : u = t
      · subst mine
        obtain ⟨m, o, found, -, given⟩ := h.answerable.outcome sound idle during past
        have there : s.outcome? u = some o := by rw [State.outcome?, found, Option.bind_some, given]
        exact ⟨o, there, final o there, asked⟩
      · rw [others t (Ne.symm mine)] at ended
        cases ongoing.symm.trans ended
    | rest => exact absurd (.refl s) unended
  | stray => exact absurd (.of_nodes rfl) unended
  | move rests m => exact absurd (m.unended sound.formed (State.idle_of_resting rests)) unended

/-! ### Along a run -/

namespace State

theorem produced_of_calm (calm : endings t s s' = []) : produced t s s' = [] := by
  rw [produced, calm, List.map_nil]

theorem length_produced (s : State) (past : List State) :
    (gather (produced t) s past).length = (gather (endings t) s past).length := by
  induction past generalizing s with
  | nil => rfl
  | cons x past ih => simp [ih, produced]

theorem produced_eq_map (once : (gather (endings t) s past).length ≤ 1) :
    ∃ blocking, gather (produced t) s past =
      (gather (endings t) s past).map (Ending.given blocking) := by
  induction past generalizing s with
  | nil => exact ⟨false, rfl⟩
  | cons x past ih =>
    rw [gather_cons, List.length_append] at once
    cases ends : endings t x s with
    | nil =>
      obtain ⟨blocking, eq⟩ := ih (s := x) (by omega)
      exact ⟨blocking, by simp [eq, produced, ends]⟩
    | cons e es =>
      rw [ends, List.length_cons] at once
      have before : gather (endings t) x past = [] := List.length_eq_zero_iff.1 (by omega)
      have nothing : gather (produced t) x past = [] := by
        rw [← List.length_eq_zero_iff, length_produced, before, List.length_nil]
      exact ⟨x.blocks t, by rw [gather_cons, gather_cons, nothing, before]; rfl⟩

theorem taken_of_absent (gone : s.tasks.get? t = none ∨ s'.tasks.get? t = none) :
    taken t s s' = [] := by
  unfold taken
  split
  · rename_i m m' found found'
    rcases gone with gone | gone
    · cases gone.symm.trans found
    · cases gone.symm.trans found'
  · rfl

theorem taken_of_found (found : s.tasks.get? t = some m) (found' : s'.tasks.get? t = some m') :
    taken t s s' = if m'.outcome.isNone then m.outcome.toList else [] := by
  simp only [taken, found, found']

end State

/-- The outcome of a task that goes on is there, or it is taken. -/
theorem Task.Keeps.balance (keeps : m.Keeps s t m') (found : s.tasks.get? t = some m)
    (found' : s'.tasks.get? t = some m') :
    State.taken t s s' ++ m'.outcome.toList = m.outcome.toList := by
  rw [State.taken_of_found found found']
  rcases keeps.outcome with same | ⟨gone, -⟩
  · rw [same]
    cases m.outcome <;> rfl
  · simp [gone]

namespace Parcel

theorem init : Parcel t [] {} where
  kept _ found := by cases found
  answer _ found := by cases found
  given _ found := by cases found
  early _ := rfl
  final ended := by cases ended
  once := Nat.zero_le 1
  taken := List.prefix_refl _
  unmade _ := ⟨rfl, rfl⟩

theorem concludes (ih : Parcel t past s) (h : Reachable s d) (tr : Transition s d s' d')
    (calm : State.produced t s s' = []) (ended : (s'.phase t).isTerminal = true) :
    ∃ outcome, gather (State.produced t) s' (s :: past) = [outcome] ∧
      s'.phase t = State.finalPhase (some outcome) := by
  rw [gather_cons, calm, List.append_nil]
  cases before : (s.phase t).isTerminal with
  | true =>
    rw [(tr.lasts h.sound).phase before]
    exact ih.final before
  | false =>
    obtain ⟨o, there, final, -⟩ := tr.completes h before ended
    obtain ⟨m, found, given⟩ := Option.bind_eq_some_iff.1 there
    refine ⟨o, ?_, final⟩
    rw [← ih.kept m found, ih.early before, given]
    rfl

/-- **What a task was given** is what was taken from it and what is there, one transition later. -/
theorem next (ih : Parcel t past s) (h : Reachable s d) (tr : Transition s d s' d') :
    Parcel t (s :: past) s' := by
  have sound := h.sound
  have lasts := tr.lasts sound
  have before : (s'.phase t).isTerminal = false → (s.phase t).isTerminal = false := lasts.ongoing
  have made : s'.nodes.get? t = none → s.nodes.get? t = none := by
    intro unmade
    by_contra known
    obtain ⟨node, there⟩ := Option.ne_none_iff_exists'.1 known
    obtain ⟨node', there', -⟩ := lasts t node there
    cases unmade.symm.trans there'
  have unknown : s.nodes.get? t = none → s.tasks.get? t = none := by
    intro unmade
    cases found : s.tasks.get? t with
    | none => rfl
    | some m =>
      obtain ⟨node, there, -⟩ := Option.map_eq_some_iff.1 (sound.formed.tasks t m found)
      cases unmade.symm.trans there
  -- only the end of a body adds to what was given, and only a look to what was taken
  cases tr.disposes sound t with
  | absent gone calm =>
    have none_given := State.produced_of_calm calm
    have none_taken : State.taken t s s' = [] := State.taken_of_absent (.inr gone)
    refine ⟨fun m found => ?_, fun m found => ?_, fun m found => ?_, fun ongoing => ?_,
      ih.concludes h tr none_given, ?_, ?_, fun unmade => ?_⟩
    · cases gone.symm.trans found
    · cases gone.symm.trans found
    · cases gone.symm.trans found
    · rw [gather_cons, none_taken, List.append_nil, ih.early (before ongoing)]
    · rw [gather_cons, calm, List.append_nil]
      exact ih.once
    · simp only [gather_cons, none_taken, none_given, List.append_nil]
      exact ih.taken
    · simp only [gather_cons, calm, none_given, List.append_nil]
      exact ih.unmade (made unmade)
  | @made m' unmade found' fresh calm =>
    have none_given := State.produced_of_calm calm
    have none_taken : State.taken t s s' = [] := State.taken_of_absent (.inl (unknown unmade))
    obtain ⟨no_end, nothing⟩ := ih.unmade unmade
    have untouched : gather (State.taken t) s past = [] :=
      List.prefix_nil.1 (nothing ▸ ih.taken)
    refine ⟨fun m found => ?_, fun m found => ?_, fun m found => ?_, fun ongoing => ?_,
      ih.concludes h tr none_given, ?_, ?_, fun unmade' => ?_⟩
    · cases found'.symm.trans found
      simp [none_taken, none_given, untouched, nothing, fresh.outcome]
    · cases found'.symm.trans found
      simp [calm, no_end, fresh.answer]
    · simp [calm, none_given, no_end, nothing]
    · simp [none_taken, untouched]
    · simp [calm, no_end]
    · simp [none_taken, untouched]
    · simp [calm, none_given, no_end, nothing]
  | @goes m m' found found' keeps keeping calm =>
    have none_given := State.produced_of_calm calm
    have balance := keeps.balance found found'
    refine ⟨fun n there => ?_, fun n there => ?_, fun n there => ?_, fun ongoing => ?_,
      ih.concludes h tr none_given, ?_, ?_, fun unmade => ?_⟩
    · cases found'.symm.trans there
      rw [gather_cons, gather_cons, none_given, List.append_nil, List.append_assoc, balance,
        ih.kept m found]
    · cases found'.symm.trans there
      rw [gather_cons, calm, List.append_nil, keeps.answer, keeps.blocking, ih.answer m found]
    · cases found'.symm.trans there
      rw [gather_cons, gather_cons, none_given, calm, List.append_nil, List.append_nil,
        keeps.blocking, ih.given m found]
    · -- nobody takes the outcome of a task that has not ended
      have same : m'.outcome = m.outcome := keeps.outcome.resolve_right fun taken => by
        cases (before ongoing).symm.trans taken.2
      rw [same] at balance
      rw [gather_cons, ih.early (before ongoing), List.append_left_eq_self.1 balance]
      rfl
    · rw [gather_cons, calm, List.append_nil]
      exact ih.once
    · rw [gather_cons, gather_cons, none_given, List.append_nil, ← ih.kept m found, ← balance,
        ← List.append_assoc]
      exact List.prefix_append _ _
    · rw [unknown (made unmade)] at found
      cases found
  | @ends m ending found found' keeping free seen =>
    have early := h.early t m found (.inr keeping)
    obtain ⟨r, e, during⟩ := keeping
    have ongoing : (s.phase t).isTerminal = false := by
      rcases (sound.dispatch.slice_fits during).2 with up | up <;> rw [up] <;> rfl
    have untouched := ih.early ongoing
    have nothing : gather (State.produced t) s past = [] := by
      rw [← ih.kept m found, untouched, early]
      rfl
    have no_end : gather (State.endings t) s past = [] := by
      have given := ih.given m found
      rw [nothing] at given
      exact List.map_eq_nil_iff.1 given.symm
    have gives : State.produced t s s' = [ending.given m.blocking] := by
      rw [State.produced, seen, State.blocks, found]
      rfl
    have none_taken : State.taken t s s' = [] := by
      rw [State.taken_of_found found found']
      simp
    refine ⟨fun n there => ?_, fun n there => ?_, fun n there => ?_, fun _ => ?_,
      fun ended => ?_, ?_, ?_, fun unmade => ?_⟩
    · cases found'.symm.trans there
      simp [none_taken, untouched, nothing, gives]
    · cases found'.symm.trans there
      have silent : m.answer = none := by rw [ih.answer m found, no_end]; rfl
      simp [seen, no_end, silent]
    · cases found'.symm.trans there
      simp [gives, seen, no_end, nothing]
    · simp [none_taken, untouched]
    · obtain ⟨o, there, -⟩ := tr.completes h ongoing ended
      rw [State.outcome?, found, Option.bind_some, early] at there
      cases there
    · simp [seen, no_end]
    · simp [none_taken, untouched]
    · rw [unknown (made unmade)] at found
      cases found

end Parcel

/-- **What a task was given along a run** is what was taken from it and what is still there. -/
theorem Trail.parcel (h : Trail past s d) (t : TaskId) : Parcel t past s := by
  induction h with
  | init => exact .init
  | next h tr ih => exact ih.next h.reachable tr

/-! ### What was given is taken or not -/

namespace Parcel

variable {o : Except TaskError Int64}

theorem taken_cases (parcel : Parcel t past s) (given : gather (State.produced t) s past = [o]) :
    gather (State.taken t) s past = [] ∨ gather (State.taken t) s past = [o] := by
  have some_taken := parcel.taken
  rw [given] at some_taken
  cases taken : gather (State.taken t) s past with
  | nil => exact .inl rfl
  | cons o' os =>
    rw [taken, List.cons_prefix_cons] at some_taken
    rw [some_taken.1, List.prefix_nil.1 some_taken.2]
    exact .inr rfl

/-- What a task was given is still there, or it was taken. -/
theorem there_or_taken (parcel : Parcel t past s) (found : s.tasks.get? t = some m)
    (given : gather (State.produced t) s past = [o]) :
    gather (State.taken t) s past = [] ∧ m.outcome = some o ∨
      gather (State.taken t) s past = [o] ∧ m.outcome = none := by
  have kept := parcel.kept m found
  rcases parcel.taken_cases given with taken | taken <;> rw [taken, given] at kept
  · exact .inl ⟨taken, Option.toList_eq_singleton_iff.1 kept⟩
  · exact .inr ⟨taken, by simpa using kept⟩

theorem outcome_of_untaken (parcel : Parcel t past s) (known : s.tasks.get? t ≠ none)
    (given : gather (State.produced t) s past = [o])
    (untaken : gather (State.taken t) s past = []) : s.outcome? t = some o := by
  obtain ⟨m, found⟩ := Option.ne_none_iff_exists'.1 known
  rw [State.outcome?, found, Option.bind_some]
  rcases parcel.there_or_taken found given with ⟨-, there⟩ | ⟨taken, -⟩
  · exact there
  · cases untaken.symm.trans taken

/-- Whatever was taken was taken after the end, and is not there any more. -/
theorem gone_of_taken (parcel : Parcel t past s) (taken : gather (State.taken t) s past ≠ []) :
    (s.phase t).isTerminal = true ∧ s.outcome? t = none := by
  have ended : (s.phase t).isTerminal = true := by
    by_contra ongoing
    exact taken (parcel.early (Bool.not_eq_true _ ▸ ongoing))
  refine ⟨ended, ?_⟩
  obtain ⟨o, given, -⟩ := parcel.final ended
  cases found : s.tasks.get? t with
  | none => rw [State.outcome?, found, Option.bind_none]
  | some m =>
    rw [State.outcome?, found, Option.bind_some]
    rcases parcel.there_or_taken found given with ⟨untaken, -⟩ | ⟨-, gone⟩
    · exact absurd untaken taken
    · exact gone

end Parcel

end Nursery
