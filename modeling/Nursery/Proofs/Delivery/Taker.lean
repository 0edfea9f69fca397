import Nursery.Proofs.Delivery.Parcel
import Nursery.Proofs.Group.Line

/-!
# Who takes an outcome

Nobody takes the outcome of a task without its handle, or without the group that has it.  So nobody
takes it when the handle was dropped, nor when somebody else has it.

* `State.Taker` : somebody has the handle of a task in hand, or its group.
* `Changes.took`, `Work.took` : nobody else takes the outcome.
* `State.Taker.held`, `State.Taker.apart` : what follows.
-/

namespace Nursery

/-- Along a line there is somebody who has the handle of a task in hand, or its group; others keep
what they have. -/
structure State.Taker (s : State) (rest : List Resource) (t : TaskId) : Prop where
  /-- In some state of the line. -/
  line : ∃ (c : Context) (base hand : List Resource) (x : State), Formed x ∧ Keeps s x ∧
    Seated x c base ∧ Own x (hand ++ rest) base ∧ x.Offers hand t

variable {s s' : State} {d d' : Desk} {c : Context} {hand hand' rest base : List Resource}
  {home : RuntimeId} {t : TaskId} {m m' : Task}

namespace State.Taker

/-- Whoever takes an outcome has a handle that was not dropped. -/
theorem held (taker : s.Taker rest t) (found : s.tasks.get? t = some m) :
    m.handleDropped = false := by
  obtain ⟨c, base, hand, x, formed, keeps, -, own, offers⟩ := taker.line
  obtain ⟨ws, o, known⟩ := keeps.tasks t m found
  have has : x.Has (.handle t) := by
    rcases offers with handle | ⟨g, group, -, there, child⟩
    · refine own.there _ ?_
      have one := List.count_pos_iff.2 handle
      rw [List.count_append]
      omega
    · exact own.has_child formed.distinctGroups there child
  obtain ⟨m', found', kept⟩ := has
  cases known.symm.trans found'
  exact kept

/-- Nobody takes the outcome of a task whose handle somebody else has. -/
theorem apart (taker : s.Taker rest t) : .handle t ∉ rest := by
  intro mine
  obtain ⟨c, base, hand, x, formed, -, seat, own, offers⟩ := taker.line
  rcases offers with handle | ⟨g, group, -, known, child⟩
  · have once := own.once (.handle t)
    have stored := seat.count_le formed (.handle t)
    have one := List.count_pos_iff.2 mine
    have two := List.count_pos_iff.2 handle
    rw [List.count_append] at once
    omega
  · have swapped : Own x (rest ++ hand) base :=
      own.keep (fun r => by simp only [List.count_append]; omega) fun _ _ has => has
    exact Own.not_child formed seat swapped mine ⟨g, group, known, child⟩

end State.Taker

/-- A line takes the outcome of a task only where there is somebody who has it in hand. -/
theorem Changes.took (formed : Formed s) (seat : Seated s c base) (own : Own s (hand ++ rest) base)
    (hc : Changes c s hand s' hand') (found : s.tasks.get? t = some m) (there : m.outcome ≠ none)
    (found' : s'.tasks.get? t = some m') : m'.outcome ≠ none ∨ s.Taker rest t := by
  have key := hc.invariant (I := fun x hand => (Formed x ∧ Keeps s x) ∧ Own x (hand ++ rest) base ∧
    ((∀ m', x.tasks.get? t = some m' → m'.outcome ≠ none) ∨ s.Taker rest t))
    (fun {x x' hand hand'} hc h => ?_)
    ⟨⟨formed, .refl s⟩, own, .inl fun m' known => by cases found.symm.trans known; exact there⟩
  · exact key.2.2.imp_left fun stays => stays m' found'
  · obtain ⟨⟨formed', keeps⟩, own', before⟩ := h
    refine ⟨⟨formed'.change hc, keeps.trans (.change formed' hc)⟩, own'.change formed' hc, ?_⟩
    rcases before with stays | taker
    · obtain ⟨ws, o, known⟩ := keeps.tasks t m found
      by_cases offers : x.Offers hand t
      · exact .inr ⟨c, base, hand, x, formed', keeps, seat.keeps keeps, own', offers⟩
      · exact .inl fun m'' found'' taken =>
          offers (hc.outcome formed' known (stays _ known) found'' taken).2
    · exact .inr taker

/-- A worker takes the outcome of a task only where there is somebody who has it in hand. -/
theorem Work.took (sound : Sound s d) (w : Work s home s') (found : s.tasks.get? t = some m)
    (there : m.outcome ≠ none) (found' : s'.tasks.get? t = some m') :
    m'.outcome ≠ none ∨ s.Taker d.resources t := by
  have formed := sound.formed
  have line : ∀ {c : Context} {base hand' : List Resource} {x : State}, Seated s c base →
      Changes c s base x hand' → ∀ m', x.tasks.get? t = some m' →
        m'.outcome ≠ none ∨ s.Taker d.resources t :=
    fun seat changes _ found' =>
      Changes.took formed seat (sound.own.lift formed seat) changes found there found'
  have turn : ∀ {c : Context} {base hand' : List Resource} {x : State} {u : TaskId}
      {fiber : Option Fiber}, Seated s c base → Changes c s base x hand' →
      (x.modifyTask u fun m => { m with fiber := fiber }).tasks.get? t = some m' →
      m'.outcome ≠ none ∨ s.Taker d.resources t := by
    intro c base hand' x u fiber seat changes now
    obtain ⟨m₁, known, rfl⟩ := Store.get?_modify_eq_some.1 now
    have stays := line seat changes m₁ known
    split
    · exact stays
    · exact stays
  have same : s.tasks.get? t = some m' → m'.outcome ≠ none ∨ s.Taker d.resources t :=
    fun again => by
    cases found.symm.trans again
    exact .inl there
  cases w with
  | next runs _ changes | suspend runs _ changes | ends _ runs changes | pause _ runs _ changes =>
    exact turn (.body runs) changes found'
  | handle during changes | hold _ during changes | handled _ during changes =>
    exact line (.handler during) changes m' found'
  | endBody trace cancelled during only =>
    obtain ⟨m₁, known, rfl⟩ := Store.get?_modify_eq_some.1 found'
    cases found.symm.trans known
    split
    · obtain ⟨o, a, eq⟩ := only m
      rw [eq]
      exact .inl (by simp)
    · exact .inl there
  | again | drainAgain | markerAgain =>
    rw [State.tasks_enqueue] at found'
    exact same found'
  | _ => exact same found'

/-- **Nobody takes an outcome without the handle of its task**, or the group that has it; the main
thread takes that of the task on which it was blocked. -/
theorem Transition.took (sound : Sound s d) (tr : Transition s d s' d')
    (takes : State.taken t s s' ≠ []) : s.Taker d.resources t ∨
      (∃ f, d = .frame f ∧ s.Taker [] t) ∨ ∃ r, d = .blocked r t ∧ d' = .clear := by
  unfold State.taken at takes
  split at takes
  · rename_i m m' found found'
    split at takes
    · rename_i gone
      have taken : m'.outcome = none := Option.isNone_iff_eq_none.1 gone
      have there : m.outcome ≠ none := fun none => takes (by simp [none])
      have same : s.tasks.get? t = some m' → False := fun again => by
        cases found.symm.trans again
        exact there taken
      cases tr with
      | step =>
        have next := State.step_cases sound.wakeful.waitsOnOwn
        generalize s.step = s' at next found'
        cases next with
        | item first e =>
          subst first
          obtain ⟨m₁, known, outcome⟩ := e.outcome found'
          cases found.symm.trans known
          exact absurd (outcome.symm.trans taken) there
        | work idle active w =>
          exact .inl ((w.took sound found there found').resolve_left (not_not.2 taken))
        | rest => exact (same found').elim
      | stray => exact (same found').elim
      | move rests m =>
        have idle := State.idle_of_resting rests
        cases m with
        | build place batch stem =>
          rcases s.build_cases place batch stem with eq | ⟨-, settings, eq⟩ <;>
            rw [eq] at found' <;>
            exact (same found').elim
        | start | block | join =>
          rw [State.tasks_start] at found'
          exact (same found').elim
        | startRounds =>
          rw [State.startRounds, State.tasks_start, State.tasks_enqueue] at found'
          exact (same found').elim
        | @launchRoot _ r _ body =>
          obtain ⟨nodes, trace, -, eq⟩ :=
            State.launch_addNode_eq sound.formed.nodes .normal none r body true
          rw [State.launchRoot, eq, State.tasks_enqueue] at found'
          by_cases new : s.nextNode = t
          · subst new
            cases found.symm.trans sound.formed.fresh_task
          · exact (same ((Store.get?_set_of_ne new).symm.trans found')).elim
        | @leaveRoot r u ended =>
          by_cases mine : u = t
          · subst mine
            exact .inr (.inr ⟨r, rfl, rfl⟩)
          · exact (same ((Store.get?_modify_of_ne mine).symm.trans found')).elim
        | close => exact (same found').elim
        | line plain =>
          have own : Own s (Frame.resources [] ++ []) [] := sound.own
          exact .inl ((Changes.took sound.formed .main own (State.plain?_fits idle plain) found
            there found').resolve_left (not_not.2 taken))
        | @shelve f =>
          have own : Own s ((f.resources ++ []) ++ []) [] := by
            simpa [Desk.resources] using sound.own
          exact .inr (.inl ⟨f, rfl,
            (Changes.took sound.formed .main own (State.shelve_changes f s [])
            found there found').resolve_left (not_not.2 taken)⟩)
    · exact absurd rfl takes
  · exact absurd rfl takes

/-- The handle of a task whose outcome is taken was not dropped. -/
theorem Transition.handle_of_taken (sound : Sound s d) (tr : Transition s d s' d')
    (takes : State.taken t s s' ≠ []) (found : s.tasks.get? t = some m) :
    m.handleDropped = false := by
  rcases tr.took sound takes with taker | ⟨-, -, taker⟩ | ⟨r, rfl, -⟩
  · exact taker.held found
  · exact taker.held found
  · obtain ⟨m', found', kept⟩ := sound.own.there (.handle t) (by simp [Desk.resources])
    cases found.symm.trans found'
    exact kept

/-- Nobody takes the outcome of the task on which the main thread is blocked. -/
theorem Transition.reserved {r r' : RuntimeId} {t' : TaskId} (sound : Sound s (.blocked r t))
    (tr : Transition s (.blocked r t) s' (.blocked r' t')) : State.taken t s s' = [] := by
  by_contra takes
  rcases tr.took sound takes with taker | ⟨f, frame, -⟩ | ⟨r'', -, clear⟩
  · exact taker.apart (by simp [Desk.resources])
  · cases frame
  · cases clear

end Nursery
