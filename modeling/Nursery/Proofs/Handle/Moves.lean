import Nursery.Proofs.Handle.Slices
import Nursery.Proofs.Delivery.Report

/-!
# Twins along a run

The machine does the same in both runs and the main thread can make the same moves, until nobody
refers any more to the task whose handle was dropped.  So each of the runs can be followed by the
other one.

* `State.Forgets` : the last reference to a task is given up.
* `LeadsHolding` : a run on which that does not happen.
* `State.Unhandled.next` : on such a run the task stays, and its handle stays dropped.
* `Twin.follow`, `Twin.follow_back` : **each transition of one run can be made in the other one.**
-/

namespace Nursery

/-- The next item of the agenda gives up the last reference to a task. -/
def State.Forgets (s : State) (t : TaskId) : Prop :=
  ∃ as, s.agenda = .forget t :: as ∧ ({ s with agenda := as } : State).held t = false

/-- A task is there without its handle, and it is not about to go. -/
structure State.Unhandled (s : State) (t : TaskId) : Prop where
  /-- Its handle was dropped. -/
  dropped : ∃ m, s.tasks.get? t = some m ∧ m.handleDropped = true
  /-- It is not about to go. -/
  stays : .bury t ∉ s.agenda

/-- One state is reached from another, and on the way nobody gives up the last reference to a
task. -/
inductive LeadsHolding (t : TaskId) (s : State) (d : Desk) : State → Desk → Prop where
  /-- By nothing at all. -/
  | refl : LeadsHolding t s d s d
  /-- By one transition more. -/
  | next {s' s'' : State} {d' d'' : Desk} (h : LeadsHolding t s d s' d') (held : ¬ s'.Forgets t)
      (tr : Transition s' d' s'' d'') : LeadsHolding t s d s'' d''

variable {s s' k k' : State} {d d' : Desk} {t u : TaskId} {m : Task} {home : RuntimeId}
  {as : List Action}

theorem LeadsHolding.leads (h : LeadsHolding t s d s' d') : Leads s d s' d' := by
  induction h with
  | refl => exact .refl
  | next _ _ tr ih => exact ih.next tr

/-! ### The task stays -/

/-- A worker buries nobody. -/
theorem Work.unburied (formed : Formed s) (idle : s.agenda = []) (w : Work s home s') :
    .bury t ∉ s'.agenda := by
  have nothing : .bury t ∉ s.agenda := by simp [idle]
  have line : ∀ {c : Context} {x : State} {hand hand' : List Resource},
      Changes c s hand x hand' → .bury t ∉ x.agenda := fun changes hb => by
    cases changes.ofLine formed (.idle idle) _ hb
  cases w with
  | stop | lost | forgotten | receive | drained | begin | beginDrain | markerStop | markerSkip =>
    exact nothing
  | next _ _ changes | suspend _ _ changes | pause _ _ _ changes | handle _ changes
  | hold _ _ changes =>
    intro hb
    exact line changes hb
  | ends _ _ changes | handled _ _ changes =>
    intro hb
    rcases List.mem_append.1 hb with old | new
    · exact line changes old
    · simp at new
  | rest | leave | refuse | endBody | complete | reply =>
    intro hb
    rcases List.mem_append.1 hb with new | old
    · simp at new
    · exact nothing old
  | again =>
    intro hb
    rcases State.mem_agenda_enqueue hb with same | hb
    · cases same
    · rcases List.mem_append.1 hb with new | old
      · simp at new
      · exact nothing old
  | drainAgain | markerAgain =>
    intro hb
    rcases State.mem_agenda_enqueue hb with same | old
    · cases same
    · exact nothing old

/-- The main thread buries nobody. -/
theorem Move.unburied (formed : Formed s) (idle : s.agenda = []) (move : Move s d s' d') :
    .bury t ∉ s'.agenda := by
  have nothing : .bury t ∉ s.agenda := by simp [idle]
  have started : ∀ (x : State) (r : RuntimeId) (goal : Goal), .bury t ∉ x.agenda →
      .bury t ∉ (x.start r goal).agenda := by
    intro x r goal hx
    obtain ⟨trace, eq⟩ := x.start_eq r goal
    rwa [eq]
  have line : ∀ {x : State} {hand hand' : List Resource},
      Changes { who := .main } s hand x hand' → .bury t ∉ x.agenda := fun changes hb => by
    cases changes.ofLine formed (.idle idle) _ hb
  cases move with
  | build place batch stem =>
    rcases s.build_cases place batch stem with same | ⟨-, settings, built⟩
    · rwa [same]
    · rwa [built]
  | start | block | join => exact started _ _ _ nothing
  | startRounds =>
    refine started _ _ _ fun hb => ?_
    rcases State.mem_agenda_enqueue hb with same | old
    · cases same
    · exact nothing old
  | launchRoot =>
    obtain ⟨nodes, trace, -, eq⟩ :=
      State.launch_addNode_eq formed.nodes .normal none _ _ true
    rw [State.launchRoot, eq]
    intro hb
    rcases State.mem_agenda_enqueue hb with same | old
    · cases same
    · exact nothing old
  | leaveRoot | close =>
    intro hb
    rcases List.mem_append.1 hb with new | old
    · simp at new
    · exact nothing old
  | line plain => exact line (State.plain?_fits idle plain)
  | @shelve f => exact line (State.shelve_changes f s [])

/-- A task comes to be buried only when the last reference to it was given up. -/
theorem Transition.buries (sound : Sound s d) (tr : Transition s d s' d')
    (buried : .bury t ∈ s'.agenda) : .bury t ∈ s.agenda ∨ s.Forgets t := by
  cases tr with
  | step =>
    have next := State.step_cases sound.wakeful.waitsOnOwn
    generalize s.step = s' at next buried
    cases next with
    | item first e =>
      subst first
      rcases e.mem_agenda buried rfl with old | ⟨u, m, rfl, same, -, free, -⟩
      · exact .inl (List.mem_cons_of_mem _ old)
      · cases same
        exact .inr ⟨_, rfl, free⟩
    | work idle _ w => exact absurd buried (w.unburied sound.formed idle)
    | rest => exact .inl buried
  | stray idle => simp [State.doFirst, idle] at buried
  | move rests move =>
    exact absurd buried (move.unburied sound.formed (State.idle_of_resting rests))

/-- A task that somebody still refers to stays, and its handle stays dropped. -/
theorem State.Unhandled.next (sound : Sound s d) (h : s.Unhandled t) (held : ¬ s.Forgets t)
    (tr : Transition s d s' d') : s'.Unhandled t := by
  have stays : .bury t ∉ s'.agenda := fun buried => (tr.buries sound buried).elim h.stays held
  obtain ⟨m, found, dropped⟩ := h.dropped
  cases found' : s'.tasks.get? t with
  | none => exact absurd (tr.buried sound found found').1 h.stays
  | some m' =>
    refine ⟨⟨m', found', ?_⟩, stays⟩
    cases tr.marks sound found found' with
    | stay same => exact same.trans dropped
    | look dropped => exact dropped

/-! ### The main thread -/

namespace Twin

theorem resting (h : Twin t s k) : k.resting = s.resting := by
  rw [State.resting, State.resting, h.agenda, h.active]

theorem build (h : Twin t s k) (place : Nat) (batch : Option Nat) (stem : Option String) :
    Twin t (s.build place batch stem).1 (k.build place batch stem).1 := by
  unfold State.build
  rw [h.places]
  split
  · exact h
  · dsimp only
    split
    · exact h
    · exact h
    · unfold State.install
      dsimp only
      rw [h.runtimes, h.places]
      exact { h with runtimes := rfl, places := rfl }

theorem tellAll (h : Twin t s k) (es : List Event) :
    Twin t (es.foldl State.tell s) (es.foldl State.tell k) := by
  induction es generalizing s k with
  | nil => exact h
  | cons e es ih => exact ih (h.tell e)

theorem start (h : Twin t s k) (r : RuntimeId) (goal : Goal) :
    Twin t (s.start r goal) (k.start r goal) := by
  unfold State.start
  rw [h.runtimes]
  exact { (h.modifyRuntime r _).tellAll _ with active := rfl, stopped := rfl }

theorem withMarkers (h : Twin t s k) (markers : Nat) :
    Twin t { s with markers := markers } { k with markers := markers } :=
  { h with markers := rfl }

theorem startRounds (h : Twin t s k) (r : RuntimeId) (rounds : Nat) (band : Priority) :
    Twin t (s.startRounds r rounds band) (k.startRounds r rounds band) := by
  unfold State.startRounds
  rw [h.markers]
  exact ((h.withMarkers _).enqueue ..).start ..

theorem launchRoot (h : Twin t s k) (r : RuntimeId) (body : List Line) :
    Twin t (s.launchRoot r body) (k.launchRoot r body) := by
  unfold State.launchRoot
  rw [h.nextNode]
  exact (h.addNode ..).launch ..

theorem leaveRoot (h : Twin t s k) (u : TaskId) : Twin t (s.leaveRoot u) (k.leaveRoot u) := by
  unfold State.leaveRoot
  refine (h.takeOutcome u).elim fun h outcome => ?_
  exact h.doFirst _

theorem close (h : Twin t s k) (r : RuntimeId) : Twin t (s.close r) (k.close r) := by
  unfold State.close
  rw [h.runtimes]
  exact ((h.modifyRuntime r _).log _).doFirst _

theorem share (h : Twin t s k) (name : String) (r : Resource) :
    Twins t (s.share name r) (k.share name r) := by
  unfold State.share
  rw [h.shared]
  exact .both (h.withShared _) _

theorem shelve (h : Twin t s k) (frame : Frame) : Twin t (s.shelve frame) (k.shelve frame) := by
  induction frame generalizing s k with
  | nil => exact h
  | cons item rest ih =>
    have shared := h.share item.1 item.2
    rw [State.shelve, State.shelve, List.foldl_cons, List.foldl_cons]
    refine ih ?_
    refine shared.elim fun h dropped => ?_
    exact h.doLast dropped

theorem begin {x y : Reaction} (h : Reaction.Twins t x y) :
    Twin t (State.begin x) (State.begin y) := by
  obtain ⟨k, h, rfl⟩ := h
  exact h.doLast _

theorem leavePlace (h : Twin t s k) (place : Nat) :
    Twin t { s with places := s.places.erase place } { k with places := k.places.erase place } :=
  { h with places := congrArg (·.erase place) h.places }

theorem move (h : Twin t s k) (m : Move s d s' d') : ∃ k', Move k d k' d' ∧ Twin t s' k' := by
  cases m with
  | build place batch stem => exact ⟨_, .build place batch stem, h.build ..⟩
  | start found => exact ⟨_, .start (h.places ▸ found), h.start ..⟩
  | startRounds found rounds band =>
    exact ⟨_, .startRounds (h.places ▸ found) rounds band, h.startRounds ..⟩
  | launchRoot found body =>
    exact ⟨_, h.nextNode ▸ .launchRoot (h.places ▸ found) body, h.launchRoot ..⟩
  | block => exact ⟨_, .block, h.start ..⟩
  | leaveRoot ended => exact ⟨_, .leaveRoot ((h.phase _).symm ▸ ended), h.leaveRoot _⟩
  | close found => exact ⟨_, .close (h.places ▸ found), (h.leavePlace _).close _⟩
  | join => exact ⟨_, .join, h.start ..⟩
  | @line tag act reaction plain =>
    have same := h.plain? { who := .main } [] tag act
    rw [plain] at same
    generalize other : k.plain? _ _ _ _ = y at same
    cases same with
    | some twins =>
      have begun := begin twins
      obtain ⟨k', -, rfl⟩ := twins
      have made := Move.line other
      exact ⟨_, made, begun⟩
  | shelve => exact ⟨_, .shelve, h.shelve _⟩

theorem move_back (h : Twin t s k) (m : Move k d k' d') : ∃ s', Move s d s' d' ∧ Twin t s' k' := by
  cases m with
  | build place batch stem => exact ⟨_, .build place batch stem, h.build ..⟩
  | start found => exact ⟨_, .start (h.places ▸ found), h.start ..⟩
  | startRounds found rounds band =>
    exact ⟨_, .startRounds (h.places ▸ found) rounds band, h.startRounds ..⟩
  | launchRoot found body =>
    exact ⟨_, h.nextNode ▸ .launchRoot (h.places ▸ found) body, h.launchRoot ..⟩
  | block => exact ⟨_, .block, h.start ..⟩
  | leaveRoot ended => exact ⟨_, .leaveRoot ((h.phase _) ▸ ended), h.leaveRoot _⟩
  | close found => exact ⟨_, .close (h.places ▸ found), (h.leavePlace _).close _⟩
  | join => exact ⟨_, .join, h.start ..⟩
  | @line tag act reaction plain =>
    have same := h.plain? { who := .main } [] tag act
    rw [plain] at same
    generalize other : s.plain? _ _ _ _ = x at same
    cases same with
    | some twins =>
      have begun := begin twins
      obtain ⟨k', -, rfl⟩ := twins
      have made := Move.line other
      exact ⟨_, made, begun⟩
  | shelve => exact ⟨_, .shelve, h.shelve _⟩

/-! ### The machine -/

/-- The machine does the same, unless the last reference to the task is given up. -/
theorem step (h : Twin t s k) (own : Own s d.resources []) (unhandled : s.Unhandled t)
    (held : ¬ s.Forgets t) : Twin t s.step k.step := by
  cases agenda : s.agenda with
  | cons a as =>
    rw [State.step_of_agenda agenda, State.step_of_agenda (h.agenda.trans agenda)]
    refine perform { h with agenda := rfl } fun rids => ?_
    cases a with
    | forget u =>
      obtain ⟨rfl, free⟩ := rids
      exact held ⟨as, agenda, free⟩
    | release r =>
      cases r with
      | handle u =>
        -- no handle is dropped twice
        obtain ⟨m, found, dropped⟩ := unhandled.dropped
        obtain ⟨m', found', kept⟩ := own.has_of_agenda (r := .handle u)
          (agenda ▸ List.mem_cons_self) List.mem_cons_self
        cases (rids : u = t)
        cases found.symm.trans found'
        cases dropped.symm.trans kept
      | _ => exact rids
    | _ => exact rids
  | nil =>
    have idle := h.agenda.trans agenda
    cases active : s.active with
    | none =>
      have rest : s.step = s ∧ k.step = k := by
        simp [State.step, agenda, idle, active, h.active]
      rwa [rest.1, rest.2]
    | some work =>
      obtain ⟨home, goal⟩ := work
      have works : s.step = s.work home goal ∧ k.step = k.work home goal := by
        simp [State.step, agenda, idle, active, h.active]
      rw [works.1, works.2]
      exact h.work home goal

/-- **What happens in the run without the handle** can happen in the one with it. -/
theorem follow (h : Twin t s k) (sound : Sound s d) (unhandled : s.Unhandled t)
    (held : ¬ s.Forgets t) (tr : Transition s d s' d') :
    ∃ k', Transition k d k' d' ∧ Twin t s' k' := by
  cases tr with
  | step => exact ⟨_, .step, h.step sound.own unhandled held⟩
  | @stray u m idle found =>
    exact ⟨_, .stray (h.agenda.trans idle) (by rw [h.get?, found, Option.map_some]), h.doFirst _⟩
  | move rests m =>
    obtain ⟨k', m', h'⟩ := h.move m
    exact ⟨k', .move (h.resting.trans rests) m', h'⟩

/-- **What happens in the run with the handle** can happen in the one without it. -/
theorem follow_back (h : Twin t s k) (sound : Sound s d) (unhandled : s.Unhandled t)
    (held : ¬ s.Forgets t) (tr : Transition k d k' d') :
    ∃ s', Transition s d s' d' ∧ Twin t s' k' := by
  cases tr with
  | step => exact ⟨_, .step, h.step sound.own unhandled held⟩
  | @stray u m idle found =>
    rw [h.get?] at found
    obtain ⟨m', there, -⟩ := Option.map_eq_some_iff.1 found
    exact ⟨_, .stray (h.agenda.symm.trans idle) there, h.doFirst _⟩
  | move rests m =>
    obtain ⟨s', m', h'⟩ := h.move_back m
    exact ⟨s', .move (h.resting.symm.trans rests) m', h'⟩

end Twin

end Nursery
