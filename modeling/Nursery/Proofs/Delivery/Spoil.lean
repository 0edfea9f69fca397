import Nursery.Proofs.Group.Undrained

/-!
# What a body's end is spoiled by

What a body has come to is what its task is given, unless a group with children outstanding was
dropped inside the body before it panicked by itself.  Then the body panics about that group, in
the middle of a line or while its frame is dropped, and no other panic takes the place of that one.

* `State.Placid` : no complaint is to come; `Work.placid` and `Move.placid`, so it is whenever the
  agenda has been worked off.
* `Composed` : who panics in a state is inside a body, and about what.
* `State.Spoils` : the drop of such a group is next inside a body.
* `Spoiled` : a body panics about a group, or is about to; `Transition.spoiled`, so it goes on.
* `Unspoiled` : nothing but its own turn has brought a body to its end.
* `Trail.endings_spoiled`, `Trail.endings_unspoiled` : **what is kept of a body**.
-/

namespace Nursery

/-- No complaint is to come. -/
def State.Placid (s : State) : Prop :=
  ∀ m, .complain m ∉ s.agenda

variable {s s' : State} {d d' : Desk} {home r : RuntimeId} {goal : Goal} {t g : TaskId}
  {a : Action} {as : List Action} {past : List State} {e ending : Ending} {task : Task} {f : Fiber}

namespace State.Placid

theorem idle (h : s.agenda = []) : s.Placid := by
  intro m complaint
  simp [h] at complaint

theorem of_line (h : s.OfLine) : s.Placid := by
  intro m complaint
  cases h _ complaint

theorem doFirst (h : s.Placid) (new : ∀ m, .complain m ∉ as) : (s.doFirst as).Placid :=
  fun m complaint => (List.mem_append.1 complaint).elim (new m) (h m)

theorem doLast (h : s.Placid) (new : ∀ m, .complain m ∉ as) : (s.doLast as).Placid :=
  fun m complaint => (List.mem_append.1 complaint).elim (h m) (new m)

theorem enqueue (h : s.Placid) (home : RuntimeId) (p : Priority) (entry : Entry) :
    (s.enqueue home p entry).Placid := by
  intro m complaint
  rcases State.mem_agenda_enqueue complaint with other | old
  · cases other
  · exact h m old

end State.Placid

/-- A worker leaves no complaint on the agenda. -/
theorem Work.placid (formed : Formed s) (idle : s.agenda = []) (w : Work s home s') :
    s'.Placid := by
  have calm : s.Placid := .idle idle
  have lines : ∀ {c : Context} {x : State} {hand hand' : List Resource},
      Changes c s hand x hand' → x.Placid :=
    fun changes => .of_line (changes.ofLine formed (.idle idle))
  cases w with
  | stop | lost | forgotten | receive | drained | begin | beginDrain | markerStop | markerSkip =>
    exact calm
  | next _ _ changes | suspend _ _ changes | pause _ _ _ changes | handle _ changes
  | hold _ _ changes => exact (lines changes :)
  | ends told _ changes => exact (lines changes).doLast (by simp)
  | handled _ _ changes => exact (lines changes).doLast (by simp)
  | rest | endBody | complete | leave | reply | refuse =>
    refine State.Placid.doFirst ?_ (by simp)
    exact calm
  | again =>
    refine .enqueue (.doFirst ?_ (by simp)) _ _ _
    exact calm
  | drainAgain =>
    refine State.Placid.enqueue ?_ _ _ _
    exact calm
  | @markerAgain serial queue band =>
    have placid : ((s.popped home queue).enqueue home band (.marker serial)).Placid := by
      refine .enqueue ?_ _ _ _
      exact calm
    exact placid

/-- A worker panics only when it drops the frame of a body. -/
theorem Work.unwinding (formed : Formed s) (w : Work s home s') :
    s'.unwinding = s.unwinding ∨ s'.unwinding = none ∨
      s'.active = s.active ∧ ∃ t ending, s'.slice home = some (.task t (.ended ending)) := by
  have queued : ∀ (x : State) (h : RuntimeId) (p : Priority) (entry : Entry),
      (x.enqueue h p entry).unwinding = x.unwinding := fun _ h p entry =>
    (Keeps.enqueue h p entry).unwinding
  cases w with
  | stop | lost | rest | forgotten | complete | leave | receive | drained | reply | begin | refuse
  | beginDrain | markerStop | markerSkip => exact .inl rfl
  | next _ _ changes | suspend _ _ changes | pause _ _ _ changes | handle _ changes
  | handled _ _ changes | hold _ _ changes => exact .inl (changes.keeps formed).unwinding
  | again | drainAgain | markerAgain => exact .inl (queued _ _ _ _)
  | endBody => exact .inr (.inl rfl)
  | @ends t _ _ s₁ _ ending _ _ runs changes =>
    have keeps := changes.keeps formed
    obtain ⟨stage, during⟩ := runs.during
    exact .inr (.inr ⟨keeps.active, t, ending,
      State.slice_setSlice_self ((keeps.slice home).trans during)⟩)

/-- A move leaves no complaint on the agenda, and nobody panics in it. -/
theorem Move.placid (formed : Formed s) (idle : s.agenda = []) (m : Move s d s' d') :
    s'.Placid ∧ s'.unwinding = s.unwinding := by
  have calm : s.Placid := .idle idle
  have started : ∀ {x : State} (h : RuntimeId) (goal : Goal), x.Placid →
      (x.start h goal).Placid ∧ (x.start h goal).unwinding = x.unwinding := by
    intro x h goal placid
    obtain ⟨trace, eq⟩ := x.start_eq h goal
    rw [eq]
    exact ⟨placid, rfl⟩
  cases m with
  | build place batch stem =>
    rcases s.build_cases place batch stem with same | ⟨-, settings, built⟩
    · rw [same]
      exact ⟨calm, rfl⟩
    · rw [built]
      exact ⟨calm, rfl⟩
  | start | block | join => exact started _ _ calm
  | @startRounds _ r _ rounds band =>
    have queued : (({ s with markers := s.markers + 1 } : State).enqueue r band
        (.marker (s.markers + 1))).Placid := by
      refine .enqueue ?_ _ _ _
      exact calm
    obtain ⟨placid, same⟩ := started r (.rounds (s.markers + 1) rounds band) queued
    exact ⟨placid, same.trans (Keeps.enqueue ..).unwinding⟩
  | @launchRoot _ r _ body =>
    have keeps : Keeps s (s.launchRoot r body) := .launch formed _ _ _ _ _
    obtain ⟨nodes, trace, -, eq⟩ := State.launch_addNode_eq formed.nodes .normal none r body true
    refine ⟨?_, keeps.unwinding⟩
    rw [State.launchRoot, eq]
    refine .enqueue ?_ _ _ _
    exact calm
  | leaveRoot => exact ⟨calm.doFirst (by simp), rfl⟩
  | close => exact ⟨calm.doFirst (by simp), rfl⟩
  | line plain =>
    have changes := State.plain?_fits idle plain
    exact ⟨.of_line (changes.ofLine formed (.idle idle)), (changes.keeps formed).unwinding⟩
  | @shelve f =>
    have changes := State.shelve_changes (c := { who := .main }) f s []
    exact ⟨.of_line (changes.ofLine formed (.idle idle)), (changes.keeps formed).unwinding⟩

/-! ### Who panics, and about what -/

/-- Who panics is inside a body, and panics about a group unless by itself. -/
structure Composed (s : State) : Prop where
  /-- Nobody panics outside of a body. -/
  inside : s.unwinding ≠ none → s.inBody = true
  /-- Whatever complaint is to come is about a group. -/
  alike : ∀ m, .complain m ∈ s.agenda → m = groupComplaint
  /-- A body that has ended goes on with its own panic. -/
  ended : ∀ r t ending, s.slice r = some (.task t (.ended ending)) → s.unwinding = none →
    ending.dismay = groupComplaint

/-- When a worker has done something, somebody panics only if that was the end of a body. -/
theorem Composed.unwound (c : Composed s) (h : Reachable s d) (idle : s.agenda = [])
    (active : s.active = some (home, goal)) (panics : s.step.unwinding ≠ none) :
    s.step.active = s.active ∧ ∃ t ending, s.step.slice home = some (.task t (.ended ending)) := by
  have next := State.step_cases h.sound.wakeful.waitsOnOwn
  generalize stepped : s.step = s' at next panics ⊢
  cases next with
  | item first => simp [first, State.doFirst] at idle
  | rest rests => simp [State.resting, active] at rests
  | work _ at_home w =>
    cases active.symm.trans at_home
    rcases w.unwinding h.sound.formed with same | calm | ended
    · obtain ⟨message, raised⟩ := Option.ne_none_iff_exists'.1 (same ▸ panics)
      obtain ⟨r, t, ⟨goal', here⟩, ⟨task, f, runs⟩ | ⟨ending, during⟩⟩ :=
        State.inBody_iff.1 (c.inside (by simp [raised]))
      · cases active.symm.trans here
        have goes_on := State.step_unwound idle active runs raised
        obtain ⟨stage, during⟩ := runs.during
        rw [← stepped, goes_on]
        exact ⟨rfl, t, _, State.slice_setSlice_self during⟩
      · -- the worker keeps the end, and the panic is over
        cases active.symm.trans here
        obtain ⟨trace, cancelled, eq⟩ := s.endBody_eq home t (State.endingOf s.unwinding ending)
        rw [← State.step_ended idle active during, stepped] at eq
        exact absurd (by rw [eq]; rfl) panics
    · exact absurd calm panics
    · exact ended

namespace Composed

theorem init : Composed {} where
  inside panics := absurd rfl panics
  alike m complaint := by cases complaint
  ended r t ending during := by simp [State.slice, Store.get?, Store.lookup] at during

theorem item (c : Composed s) (sound : Sound s d) (busy : s.agenda = a :: as) :
    Composed s.step := by
  obtain ⟨same, e⟩ := State.step_item busy
  have stays : s.inBody = true → s.step.inBody = true := fun inside => by
    obtain ⟨r, t, within⟩ := State.inBody_iff.1 inside
    exact State.inBody_iff.2 ⟨r, t, within.step sound busy⟩
  refine ⟨fun panics => stays ?_, fun m next => ?_, fun r t ending during calm => ?_⟩
  · rcases e.panics with ⟨kept, -⟩ | ⟨inside, -⟩
    · exact c.inside (kept ▸ panics)
    · exact inside
  · rcases e.complaint next with old | ⟨new, -⟩
    · exact c.alike m (busy ▸ List.mem_cons_of_mem a old)
    · exact new
  · refine c.ended r t ending ((e.slice r).symm.trans during) ?_
    rcases e.panics with ⟨kept, -⟩ | ⟨-, -, m, -, raised⟩
    · exact kept.symm.trans calm
    · cases raised.symm.trans calm

end Composed

/-- A worker that was not let go on is not at the end of a body. -/
theorem Halted.not_ended (halted : Halted s) (still : ∀ goal, s.active ≠ some (r, goal)) :
    s.slice r ≠ some (.task t (.ended ending)) := by
  intro during
  cases halted r _ during still

/-- The end of a body was not to be kept before the worker has done something. -/
theorem Reachable.not_ended (h : Reachable s d) (idle : s.agenda = [])
    (after : s.step.slice r = some (.task t (.ended ending))) :
    s.slice r ≠ some (.task t (.ended ending)) := by
  intro during
  by_cases here : ∃ goal, s.active = some (r, goal)
  · obtain ⟨goal, active⟩ := here
    cases (State.endings_ended idle active during).1.symm.trans after
  · exact h.halted.not_ended (fun goal active => here ⟨goal, active⟩) during

theorem Composed.calm (c : Composed s) (still : s.active = none) : s.unwinding = none := by
  by_contra panics
  have inside := c.inside panics
  simp [State.inBody, still] at inside

/-- While the main thread is at work, no worker is at the end of a body. -/
theorem Move.not_ended (m : Move s d s' d') (h : Reachable s d) (rests : s.resting = true) :
    s'.slice r ≠ some (.task t (.ended ending)) := by
  intro during
  rw [m.slice h.sound.formed (State.idle_of_resting rests)] at during
  exact h.halted.not_ended (by simp [State.still_of_resting rests]) during

/-- What a worker has done leaves no complaint, and a panic only at the end of a body. -/
theorem Composed.work (c : Composed s) (h : Reachable s d) (idle : s.agenda = [])
    (active : s.active = some (home, goal)) (w : Work s home s.step) : Composed s.step := by
  refine ⟨fun panics => ?_, fun m complaint => absurd complaint
    (w.placid h.sound.formed idle m), fun r t ending after calm => ?_⟩
  · obtain ⟨same, t, ending, during⟩ := c.unwound h idle active panics
    exact State.inBody_iff.2 ⟨home, t, ⟨goal, same.trans active⟩, .inr ⟨ending, during⟩⟩
  · have before := h.not_ended idle after
    rcases (Transition.step.leaves h before after).2.2.2 with ⟨-, dismay⟩ | raised
    · exact dismay
    · cases raised.symm.trans calm

/-- **Nobody panics outside of a body**, and whoever does so inside of one, does it about a group
or by itself. -/
theorem Reachable.composed (h : Reachable s d) : Composed s := by
  induction h with
  | init => exact .init
  | @next s s' d d' h tr ih =>
    have sound := h.sound
    cases agenda : s.agenda with
    | cons a as =>
      rw [(tr.eq_perform agenda).trans (State.step_of_agenda agenda).symm]
      exact ih.item sound agenda
    | nil =>
      cases tr with
      | step =>
        have next := State.step_cases sound.wakeful.waitsOnOwn
        generalize stepped : s.step = s' at next
        cases next with
        | item first => simp [first, State.doFirst] at agenda
        | rest => exact ih
        | @work home goal _ _ active w =>
          subst stepped
          exact ih.work h agenda active w
      | stray idle =>
        refine ⟨ih.inside, fun m complaint => ?_, ih.ended⟩
        simp [State.doFirst, agenda] at complaint
      | move rests m =>
        obtain ⟨placid, same⟩ := m.placid sound.formed agenda
        have calm := ih.calm (State.still_of_resting rests)
        exact ⟨fun panics => absurd (same.trans calm) panics, fun m complaint =>
          absurd complaint (placid m), fun r t ending during =>
            absurd during (m.not_ended h rests)⟩

/-! ### A body is spoiled -/

/-- The drop of a group with children outstanding is next, inside a body in which nothing panics
yet. -/
def State.Spoils (s : State) (t g : TaskId) : Prop :=
  (∃ r, s.Within r t) ∧ s.unwinding = none ∧ (∃ as, s.agenda = .release (.group g) :: as) ∧
    ∃ group, s.groups.get? g = some group ∧ group.remaining ≠ 0

/-- A body panics about a group, or is about to. -/
structure Spoiled (s : State) (r : RuntimeId) (t : TaskId) : Prop where
  /-- A worker is inside of it. -/
  within : s.Within r t
  /-- What it panics about, or will. -/
  complains : Complains s
  /-- It has not panicked about anything else. -/
  ended : ∀ ending, s.slice r = some (.task t (.ended ending)) → ending.dismay = groupComplaint

/-- **The drop of such a group spoils the body.** -/
theorem State.Spoils.spoiled (h : Reachable s d) (spoils : s.Spoils t g)
    (tr : Transition s d s' d') : ∃ r, Spoiled s' r t := by
  obtain ⟨⟨r, within⟩, calm, ⟨as, busy⟩, group, found, outstanding⟩ := spoils
  have composed := h.composed
  have complains : Complains s := ⟨State.inBody_iff.2 ⟨r, t, within⟩, composed.alike,
    .inr ⟨calm, .inr ⟨g, by rw [busy]; exact List.mem_cons_self, group, found, outstanding⟩⟩⟩
  rw [(tr.eq_perform busy).trans (State.step_of_agenda busy).symm]
  refine ⟨r, within.step h.sound busy, complains.step h busy, fun ending during => ?_⟩
  obtain ⟨-, e⟩ := State.step_item busy
  exact composed.ended r t ending ((e.slice r).symm.trans during) calm

/-- **The panic about a group goes on** until the worker keeps it. -/
theorem Transition.spoiled (h : Reachable s d) (tr : Transition s d s' d')
    (spoiled : Spoiled s r t) :
    Spoiled s' r t ∨ State.endings t s s' = [.panicked groupComplaint] := by
  obtain ⟨within, complains, ended⟩ := spoiled
  cases agenda : s.agenda with
  | cons a as =>
    obtain ⟨-, e⟩ := State.step_item agenda
    rw [(tr.eq_perform agenda).trans (State.step_of_agenda agenda).symm]
    exact .inl ⟨within.step h.sound agenda, complains.step h agenda, fun ending during =>
      ended ending ((e.slice r).symm.trans during)⟩
  | nil =>
    have panics := complains.panics agenda
    obtain ⟨goal, active⟩ := within.1
    cases tr with
    | stray =>
      exact .inl ⟨within.of_stores rfl rfl rfl,
        ⟨complains.inside, by simp [State.doFirst, agenda], .inl panics⟩, ended⟩
    | move rests => simp [State.resting, active] at rests
    | step =>
      rcases within.2 with ⟨task, f, runs⟩ | ⟨ending, during⟩
      · left
        have panicking : s.step.unwinding ≠ none := by
          rw [State.step_unwound agenda active runs panics]
          exact Option.some_ne_none _
        have composed := (h.next .step).composed
        have goes_on := State.step_unwound agenda active runs panics
        obtain ⟨stage, at_work⟩ := runs.during
        have during : s.step.slice r = some (.task t (.ended (.panicked groupComplaint))) := by
          rw [goes_on]
          exact State.slice_setSlice_self at_work
        have within' : s.step.Within r t :=
          ⟨⟨goal, by rw [goes_on]; exact active⟩, .inr ⟨_, during⟩⟩
        refine ⟨within', ⟨State.inBody_iff.2 ⟨r, t, within'⟩, composed.alike,
          .inl (by rw [goes_on]; rfl)⟩, fun ending now => ?_⟩
        cases during.symm.trans now
        rfl
      · right
        rw [(State.endings_ended agenda active during).2, panics]
        cases ending with
        | returned result => rfl
        | panicked message => exact congrArg (fun m => [Ending.panicked m]) (ended _ during)

/-- **A body that was spoiled panics about that**, and its task is given nothing else. -/
theorem Trail.endings_spoiled (h : Trail past s d)
    (spoils : Happened (fun x _ => x.Spoils t g) s past) : (∃ r, Spoiled s r t) ∨
      gather (State.endings t) s past = [.panicked groupComplaint] := by
  induction h with
  | init => cases spoils
  | @next past s s' d d' h tr ih =>
    rcases spoils with before | now
    · rcases ih before with ⟨r, spoiled⟩ | given
      · refine (tr.spoiled h.reachable spoiled).imp (⟨r, ·⟩) fun seen => ?_
        rw [gather_cons, h.within spoiled.within, seen]
        rfl
      · -- a body ends once
        have once := ((h.next tr).parcel t).once
        rw [gather_cons, given, List.length_append, List.length_singleton] at once
        have no_more : State.endings t s s' = [] := List.length_eq_zero_iff.1 (by omega)
        exact .inr (by rw [gather_cons, given, no_more, List.append_nil])
    · exact .inl (now.spoiled h.reachable tr)

/-! ### A body is not spoiled -/

/-- A worker is inside a body, and nothing panics in it but that itself. -/
structure Unspoiled (past : List State) (s : State) (r : RuntimeId) (t : TaskId) : Prop where
  /-- No complaint is to come that would be heard. -/
  placid : s.unwinding = none → s.Placid
  /-- Nothing panics before its end. -/
  runs : ∀ task f, s.Runs r t task f → s.unwinding = none
  /-- Its own turn has ended it, and it panics only if that did. -/
  ended : ∀ ending, s.slice r = some (.task t (.ended ending)) →
    s.unwinding = ending.raised ∧ Happened (fun x x' => EndsBody t x x' ending) s past

/-- A body stays unspoiled until such a group is dropped. -/
theorem Unspoiled.item (u : Unspoiled past s r t) (within : s.Within r t)
    (busy : s.agenda = a :: as) (spares : ∀ g, ¬ s.Spoils t g) :
    Unspoiled (s :: past) s.step r t := by
  obtain ⟨same, e⟩ := State.step_item busy
  -- what is said is heard by nobody, and nothing else raises a panic
  have kept : s.step.unwinding = s.unwinding := by
    rcases e.panics with ⟨kept, -⟩ | ⟨-, calm, m, rfl, -⟩
    · exact kept
    · exact absurd (busy ▸ List.mem_cons_self) (u.placid calm m)
  refine ⟨fun calm m next => ?_, fun task' f runs => ?_, fun ending during => ?_⟩
  · have calm := kept.symm.trans calm
    rcases e.complaint next with old | ⟨-, g, group, rfl, found, outstanding⟩
    · exact u.placid calm m (busy ▸ List.mem_cons_of_mem a old)
    · exact spares g ⟨⟨r, within⟩, calm, ⟨as, busy⟩, group, found, outstanding⟩
  · obtain ⟨task, at_work⟩ := e.runs runs
    exact kept.trans (u.runs task f (at_work.of_stores rfl rfl))
  · obtain ⟨raised, happened⟩ := u.ended ending ((e.slice r).symm.trans during)
    exact ⟨kept.trans raised, .inl happened⟩

/-- Whoever panics after a worker has done something is not inside a body any more. -/
theorem Composed.runs_calm (c : Composed s) (h : Reachable s d) (idle : s.agenda = [])
    (active : s.active = some (home, goal)) (within : s.step.Within r t)
    (runs : s.step.Runs r t task f) : s.step.unwinding = none := by
  by_contra panics
  obtain ⟨same, u, ending, during⟩ := c.unwound h idle active panics
  obtain ⟨⟨goal', here⟩, -⟩ := within
  cases (same.trans active).symm.trans here
  rcases runs.slice with polling | suspending
  · cases during.symm.trans polling
  · cases during.symm.trans suspending

/-- A body stays unspoiled while a worker is at it. -/
theorem Unspoiled.work (h : Trail past s d) (idle : s.agenda = [])
    (active : s.active = some (home, goal)) (w : Work s home s.step) (within : s.step.Within r t)
    (before : s.Within r t → Unspoiled past s r t) : Unspoiled (s :: past) s.step r t := by
  have reachable := h.reachable
  have sound := reachable.sound
  refine ⟨fun _ => w.placid sound.formed idle,
    fun task f runs => reachable.composed.runs_calm reachable idle active within runs,
    fun ending after => ?_⟩
  have other := reachable.not_ended idle after
  obtain ⟨-, -, goal, task, f, here, runs⟩ := Transition.step.atWork (d := d) sound other after
  have calm := (before ⟨⟨goal, here⟩, .inl ⟨task, f, runs⟩⟩).runs task f runs
  obtain ⟨ends, raised⟩ := Transition.step.endsBody (d := d) sound other after calm
  exact ⟨raised, .inr ends⟩

/-- **A body that was not spoiled comes to its end by its own turn.** -/
theorem Trail.unspoiled (h : Trail past s d)
    (spared : ¬ ∃ g, Happened (fun x _ => x.Spoils t g) s past) (within : s.Within r t) :
    Unspoiled past s r t := by
  induction h generalizing r with
  | init =>
    obtain ⟨⟨goal, active⟩, -⟩ := within
    cases active
  | @next past s s' d d' h tr ih =>
    have before : ¬ ∃ g, Happened (fun x _ => x.Spoils t g) s past :=
      fun ⟨g, happened⟩ => spared ⟨g, .inl happened⟩
    have spares : ∀ g, ¬ s.Spoils t g := fun g now => spared ⟨g, .inr now⟩
    have reachable := h.reachable
    have sound := reachable.sound
    cases agenda : s.agenda with
    | cons a as =>
      have next := (tr.eq_perform agenda).trans (State.step_of_agenda agenda).symm
      obtain ⟨same, e⟩ := State.step_item agenda
      subst next
      have there : s.Within r t := (e.within within).of_stores rfl rfl rfl
      exact (ih before there).item there agenda spares
    | nil =>
      cases tr with
      | stray idle =>
        have u := ih before (r := r) (within.of_stores rfl rfl rfl)
        refine ⟨fun calm m complaint => ?_,
          fun task f runs => u.runs task f (runs.of_stores rfl rfl),
          fun ending during => (u.ended ending during).imp_right .inl⟩
        simp [State.doFirst, agenda] at complaint
      | move rests m =>
        obtain ⟨placid, same⟩ := m.placid sound.formed agenda
        have calm := reachable.composed.calm (State.still_of_resting rests)
        exact ⟨fun _ => placid, fun _ _ _ => same.trans calm,
          fun ending during => absurd during (m.not_ended reachable rests)⟩
      | step =>
        have next := State.step_cases sound.wakeful.waitsOnOwn
        generalize stepped : s.step = s' at next within ⊢
        cases next with
        | item first => simp [first, State.doFirst] at agenda
        | rest =>
          have u := ih before within
          exact ⟨u.placid, u.runs, fun ending during => (u.ended ending during).imp_right .inl⟩
        | work _ active w =>
          subst stepped
          exact .work h agenda active w within (ih before)

/-- **What is kept of a body that was not spoiled** is how its own turn has ended it. -/
theorem Trail.endings_unspoiled (h : Trail past s d)
    (spared : ¬ ∃ g, Happened (fun x _ => x.Spoils t g) s past) :
    ∀ e ∈ gather (State.endings t) s past, Happened (fun x x' => EndsBody t x x' e) s past := by
  induction h with
  | init => simp
  | @next past s s' d d' h tr ih =>
    have before : ¬ ∃ g, Happened (fun x _ => x.Spoils t g) s past :=
      fun ⟨g, happened⟩ => spared ⟨g, .inl happened⟩
    intro e kept
    rcases List.mem_append.1 kept with old | now
    · exact .inl (ih before e old)
    · obtain ⟨r, goal, ending, active, during, rfl⟩ := State.ends_of_mem_endings now
      have u := h.unspoiled before (r := r) ⟨⟨goal, active⟩, .inr ⟨ending, during⟩⟩
      obtain ⟨raised, happened⟩ := u.ended ending during
      have own : State.endingOf s.unwinding ending = ending := by
        rw [raised]
        cases ending <;> rfl
      rw [own]
      exact .inl happened

end Nursery
