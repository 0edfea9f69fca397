import Nursery.Proofs.Invariant.Seat

/-!
# A panic silences nobody

A panic in a destructor gives up every wake that is still to come.  It is raised only inside a
body, and there a wake never waits behind anything else: it is the first item of the agenda.  What
the end of a task brings is not on the agenda of a body at all.

* `State.Soft` : no wake waits behind another item.
* `Hushed` : the invariant.
* `Hushed.effect`, `Hushed.work`, `Hushed.move` : it is kept.
-/

namespace Nursery

/-- An item that uses up a waker. -/
def Action.wakes : Action → Bool
  | .wake _ => true
  | _ => false

/-- An item that only the end of a task brings. -/
def Action.tolls : Action → Bool
  | .wakeWaiters _ | .announce .. | .wake (.member ..) => true
  | _ => false

/-- No wake waits behind another item. -/
def State.Soft (s : State) : Prop :=
  ∀ a ∈ s.agenda.tail, a.wakes = false

/-- Inside a body a wake is the first item, and no task ends. -/
structure Hushed (s : State) : Prop where
  /-- No wake waits behind another item. -/
  soft : s.inBody = true → s.Soft
  /-- Nothing is there that the end of a task brings. -/
  calm : s.inBody = true → ∀ a ∈ s.agenda, a.tolls = false

variable {s s' : State} {c : Context} {hand hand' : List Resource} {a : Action}

namespace State.Soft

theorem idle (h : s.agenda = []) : s.Soft := by
  intro a ha
  rw [h] at ha
  cases ha

theorem doFirst_idle (h : s.agenda = []) {as : List Action} (new : ∀ a ∈ as.tail, a.wakes = false) :
    (s.doFirst as).Soft := by
  intro a ha
  rw [State.doFirst, h, List.append_nil] at ha
  exact new a ha

theorem doLast (h : s.Soft) {as : List Action} (new : ∀ a ∈ as, a.wakes = false) :
    (s.doLast as).Soft := by
  intro a ha
  rw [State.doLast] at ha
  cases hs : s.agenda with
  | nil =>
    rw [hs, List.nil_append] at ha
    exact new a (List.mem_of_mem_tail ha)
  | cons b rest =>
    rw [hs, List.cons_append, List.tail_cons] at ha
    rcases List.mem_append.1 ha with ha | ha
    · exact h a (by rwa [hs])
    · exact new a ha

theorem enqueue (h : s.agenda = []) (r : RuntimeId) (p : Priority) (e : Entry) :
    (s.enqueue r p e).Soft := by
  unfold State.enqueue
  split
  · exact doFirst_idle h (by simp)
  · exact idle h

theorem post (h : s.agenda = []) (a : ActorId) (home : RuntimeId) (message : Message) :
    (s.post a home message).Soft := by
  unfold State.post
  split
  · exact idle h
  · dsimp only
    split
    · exact idle h
    · refine enqueue ?_ _ _ _
      exact h

theorem change (formed : Formed s) (hc : Change c s hand s' hand') (h : s.Soft) : s'.Soft := by
  cases hc with
  | tell | shed | nameTask | adopt | share | actor | refuse | learn | state | register | take
  | draw | fail => exact h
  | @spawn home parent priority body idle =>
    obtain ⟨nodes, trace, -, eq⟩ :=
      State.launch_addNode_eq formed.nodes priority parent home body false
    rw [eq]
    refine enqueue ?_ _ _ _
    exact idle
  | @group home idle =>
    obtain ⟨nodes, trace, priority, -, eq⟩ := State.makeGroup_eq formed.nodes c home
    rw [eq]
    exact h
  | @add g group priority body idle =>
    obtain ⟨nodes, trace, p, -, eq⟩ :=
      State.addChild_eq formed.nodes formed.fresh_task g group priority body
    rw [eq]
    refine enqueue ?_ _ _ _
    exact idle
  | call _ idle =>
    refine post ?_ _ _ _
    exact idle
  | send _ idle => exact post idle _ _ _
  | expect idle | listen idle =>
    refine doFirst_idle idle fun b hb => ?_
    obtain ⟨t, -, rfl⟩ := List.mem_map.1 (List.mem_of_mem_tail hb)
    rfl
  | park =>
    refine doLast ?_ (by simp [Action.wakes])
    exact h
  | record | release | cancel => exact h.doLast (by simp [Action.wakes])
  | wake idle =>
    intro b hb
    rw [State.doLast, idle] at hb
    cases hb

end State.Soft

theorem Changes.soft (formed : Formed s) (hc : Changes c s hand s' hand') (h : s.Soft) :
    s'.Soft :=
  (hc.invariant (I := fun s _ => Formed s ∧ s.Soft)
    (fun hc h => ⟨h.1.change hc, h.2.change h.1 hc⟩) ⟨formed, h⟩).2

/-- The items that a line leaves. -/
theorem Changes.ofLine (formed : Formed s) (hc : Changes c s hand s' hand') (h : s.OfLine) :
    s'.OfLine :=
  (hc.invariant (I := fun s _ => Formed s ∧ s.OfLine)
    (fun hc h => ⟨h.1.change hc, h.2.change h.1 hc⟩) ⟨formed, h⟩).2

namespace Hushed

theorem init : Hushed {} where
  soft _ := State.Soft.idle rfl
  calm _ a ha := by cases ha

theorem tolls_of_ofLine (h : a.ofLine = true) : a.tolls = false := by
  cases a with
  | wake w => cases w <;> first | rfl | simp [Action.ofLine] at h
  | _ => first | rfl | simp [Action.ofLine] at h

theorem of_line (lines : s.OfLine) (soft : s.Soft) : Hushed s where
  soft _ := soft
  calm _ b hb := tolls_of_ofLine (lines b hb)

theorem of_idle (h : s.agenda = []) : Hushed s :=
  of_line (.idle h) (.idle h)

theorem of_outside (h : s.inBody = false) : Hushed s where
  soft inside := by
    rw [h] at inside
    cases inside
  calm inside := by
    rw [h] at inside
    cases inside

theorem doFirst_of {as rest : List Action} (soft : ∀ b ∈ as.tail, b.wakes = false)
    (calm : ∀ b ∈ as, b.tolls = false) (free : ∀ b ∈ rest, b.wakes = false)
    (quiet : ∀ b ∈ rest, b.tolls = false) (agenda : s'.agenda = as ++ rest) : Hushed s' where
  soft _ b hb := by
    rw [agenda] at hb
    cases as with
    | nil => exact free b (List.mem_of_mem_tail hb)
    | cons x xs =>
      rcases List.mem_append.1 hb with hb | hb
      · exact soft b hb
      · exact free b hb
  calm _ b hb := by
    rw [agenda] at hb
    exact (List.mem_append.1 hb).elim (calm b) (quiet b)

theorem calmly {as rest : List Action} (new : ∀ b ∈ as, b.wakes = false ∧ b.tolls = false)
    (free : ∀ b ∈ rest, b.wakes = false) (quiet : ∀ b ∈ rest, b.tolls = false)
    (agenda : s'.agenda = as ++ rest) : Hushed s' :=
  doFirst_of (fun b hb => (new b (List.mem_of_mem_tail hb)).1) (fun b hb => (new b hb).2) free quiet
    agenda

theorem wakes_forget (w : Waker) : w.forget.wakes = false := by
  cases w <;> rfl

theorem tolls_forget (w : Waker) : w.forget.tolls = false := by
  cases w <;> rfl

theorem afterPanic_hushed {b : Action} (h : a.afterPanic = some b) :
    b.wakes = false ∧ b.tolls = false := by
  cases a with
  | wake w =>
    cases h
    exact ⟨wakes_forget w, tolls_forget w⟩
  | _ => first | (cases h; exact ⟨rfl, rfl⟩) | cases h

theorem effect (e : Effect s a s') (h : Hushed (s.doFirst [a])) : Hushed s' := by
  by_cases inside : s.inBody = true
  case neg => exact of_outside (e.outside (Bool.not_eq_true _ ▸ inside))
  -- what is behind the item that was done
  have free : ∀ b ∈ s.agenda, b.wakes = false := h.soft inside
  have quiet : ∀ b ∈ s.agenda, b.tolls = false :=
    fun b hb => h.calm inside b (List.mem_cons_of_mem _ hb)
  have mild : a.tolls = false := h.calm inside a List.mem_cons_self
  have single : ∀ {w : Option TaskId} {f : TaskId → Action},
      ∀ b ∈ (w.toList.map f).tail, b.wakes = false := by
    intro w f b hb
    cases w <;> simp at hb
  have same : s'.agenda = s.agenda → Hushed s' := fun agenda =>
    { soft := fun _ b hb => free b (List.mem_of_mem_tail (agenda ▸ hb))
      calm := fun _ b hb => quiet b (agenda ▸ hb) }
  cases e with
  | spent | orphan | reap | record | reportFailure | dropPending => exact same rfl
  | announce | wakeWaiters | inform | trip => simp [Action.tolls] at mild
  | cancel | notify | awake | dropHandle | dropGroup | dropUndrained | discardTask | discardDrain =>
    exact calmly (by simp [Action.wakes, Action.tolls]) free quiet rfl
  | answer | dropAnswered | silence =>
    exact doFirst_of single (by simp [Action.tolls]) free quiet rfl
  | @finish n =>
    refine calmly ?_ free quiet rfl
    split <;> simp [Action.wakes, Action.tolls]
  | @reapLast n p node above =>
    refine doFirst_of ?_ ?_ free quiet rfl
    · split <;> split <;> simp [Action.wakes]
    · split <;> split <;> simp [Action.tolls]
  | resume =>
    unfold State.enqueue
    split
    · exact calmly (by simp [Action.wakes, Action.tolls]) free quiet rfl
    · exact ⟨fun _ b hb => free b (List.mem_of_mem_tail hb), fun _ b hb => quiet b hb⟩
  | panic =>
    have left : ∀ b ∈ s.agenda.filterMap Action.afterPanic, b.wakes = false ∧ b.tolls = false := by
      intro b hb
      obtain ⟨x, -, left⟩ := List.mem_filterMap.1 hb
      exact afterPanic_hushed left
    exact ⟨fun _ b hb => (left b (List.mem_of_mem_tail hb)).1, fun _ b hb => (left b hb).2⟩
  | dissolve =>
    refine calmly (fun b hb => ?_) free quiet rfl
    rcases List.mem_append.1 hb with hb | hb
    · obtain ⟨u, -, rfl⟩ := List.mem_map.1 hb
      exact ⟨rfl, rfl⟩
    · rw [List.mem_singleton.1 hb]
      exact ⟨rfl, rfl⟩
  | forget =>
    refine calmly (fun b hb => ?_) free quiet rfl
    rcases List.mem_append.1 hb with hb | hb
    · obtain ⟨r, -, rfl⟩ := List.mem_map.1 hb
      exact ⟨rfl, rfl⟩
    · rw [List.mem_singleton.1 hb]
      exact ⟨rfl, rfl⟩
  | bury =>
    refine calmly (fun b hb => ?_) free quiet rfl
    obtain ⟨w, -, rfl⟩ := List.mem_map.1 hb
    exact ⟨wakes_forget w, tolls_forget w⟩
  | abandon =>
    refine calmly (fun b hb => ?_) free quiet rfl
    obtain ⟨k, -, rfl⟩ := List.mem_map.1 hb
    exact ⟨rfl, rfl⟩

/-! ### Work and moves -/

theorem of_mute (mute : ∀ b ∈ s.agenda, b.wakes = false ∧ b.tolls = false) : Hushed s where
  soft _ b hb := (mute b (List.mem_of_mem_tail hb)).1
  calm _ b hb := (mute b hb).2

theorem work (formed : Formed s) (idle : s.agenda = []) {home : RuntimeId} {goal : Goal}
    (active : s.active = some (home, goal)) (w : Work s home s') : Hushed s' := by
  have body : ∀ {who : Speaker} {s₁ : State} {hand hand' : List Resource},
      Changes ⟨who, some home⟩ s hand s₁ hand' → s₁.OfLine ∧ s₁.Soft :=
    fun hc => ⟨hc.ofLine formed (.idle idle), hc.soft formed (.idle idle)⟩
  -- what a worker leaves by itself, where there was nothing
  have added : ∀ {as : List Action}, s'.agenda = as ++ s.agenda →
      (∀ b ∈ as, b.wakes = false ∧ b.tolls = false) → Hushed s' := by
    intro as agenda mute
    refine of_mute fun b hb => mute b ?_
    rwa [agenda, idle, List.append_nil] at hb
  cases w with
  | stop | lost | forgotten | receive | drained | begin | beginDrain | markerStop | markerSkip =>
    exact of_idle idle
  | next runs _ changes | suspend runs _ changes | pause later runs _ changes =>
    exact of_line (body changes).1 (body changes).2
  | handle during changes | hold later during changes =>
    exact of_line (body changes).1 (body changes).2
  | ends told runs changes =>
    obtain ⟨lines, soft⟩ := body changes
    refine of_line (lines.doLast fun b hb => ?_) (soft.doLast fun b hb => ?_)
    all_goals
      rcases List.mem_append.1 hb with hb | hb
      · obtain ⟨e, -, rfl⟩ := List.mem_map.1 hb
        rfl
      · obtain ⟨r, -, rfl⟩ := List.mem_map.1 hb
        rfl
  | handled result during changes =>
    obtain ⟨lines, soft⟩ := body changes
    refine of_line (lines.doLast fun b hb => ?_) (soft.doLast fun b hb => ?_)
    all_goals
      obtain ⟨r, -, rfl⟩ := List.mem_map.1 hb
      rfl
  | rest | leave | refuse | endBody => exact added rfl (by simp [Action.wakes, Action.tolls])
  | again =>
    refine of_mute fun b hb => ?_
    rcases State.mem_agenda_enqueue hb with rfl | hb
    · exact ⟨rfl, rfl⟩
    · rcases List.mem_append.1 hb with hb | hb
      · rw [List.mem_singleton.1 hb]
        exact ⟨rfl, rfl⟩
      · have hb' : b ∈ s.agenda := hb
        rw [idle] at hb'
        cases hb'
  | @complete t stage p trace during =>
    -- the worker is not inside the body any more
    refine of_outside ?_
    obtain ⟨rt, found, -⟩ := State.slice_eq during
    simp [State.inBody, State.doFirst, State.setSlice, State.modifyNode, State.modifyRuntime,
      State.slice, active, Store.get?_modify_self, found]
  | drainAgain =>
    refine of_mute fun b hb => ?_
    rcases State.mem_agenda_enqueue hb with rfl | hb
    · exact ⟨rfl, rfl⟩
    · have hb' : b ∈ s.agenda := hb
      rw [idle] at hb'
      cases hb'
  | reply =>
    refine added rfl fun b hb => ?_
    obtain ⟨k, -, rfl⟩ := List.mem_map.1 hb
    exact ⟨rfl, rfl⟩
  | markerAgain =>
    refine of_mute fun b hb => ?_
    rcases State.mem_agenda_enqueue hb with rfl | hb
    · exact ⟨rfl, rfl⟩
    · have hb' : b ∈ s.agenda := hb
      rw [idle] at hb'
      cases hb'

theorem move (formed : Formed s) (idle : s.agenda = []) {d d' : Desk} (m : Move s d s' d') :
    Hushed s' := by
  have main : ∀ {s₁ : State} {hand hand' : List Resource},
      Changes { who := .main } s hand s₁ hand' → s₁.OfLine ∧ s₁.Soft :=
    fun hc => ⟨hc.ofLine formed (.idle idle), hc.soft formed (.idle idle)⟩
  -- the agenda is empty, so whatever is on it afterwards is new
  have nothing : ∀ b, b ∈ s.agenda → b.wakes = false ∧ b.tolls = false := by
    intro b hb
    rw [idle] at hb
    cases hb
  cases m with
  | build place batch stem =>
    rcases s.build_cases place batch stem with same | ⟨-, settings, built⟩
    · rw [same]
      exact of_idle idle
    · rw [built]
      exact of_idle idle
  | @start _ r | @block r | @join r =>
    obtain ⟨trace, eq⟩ := s.start_eq r _
    rw [eq]
    exact of_idle idle
  | @startRounds _ r _ rounds band =>
    obtain ⟨trace, eq⟩ := ({ s with markers := s.markers + 1 }.enqueue r band
      (.marker (s.markers + 1))).start_eq r (.rounds (s.markers + 1) rounds band)
    rw [State.startRounds, eq]
    refine of_mute fun b hb => ?_
    rcases State.mem_agenda_enqueue hb with rfl | hb
    · exact ⟨rfl, rfl⟩
    · exact nothing b hb
  | @launchRoot _ r _ body =>
    obtain ⟨nodes, trace, -, eq⟩ :=
      State.launch_addNode_eq formed.nodes .normal none r body true
    rw [State.launchRoot, eq]
    refine of_mute fun b hb => ?_
    rcases State.mem_agenda_enqueue hb with rfl | hb
    · exact ⟨rfl, rfl⟩
    · exact nothing b hb
  | leaveRoot =>
    refine of_mute fun b hb => ?_
    rcases List.mem_append.1 hb with hb | hb
    · rw [List.mem_singleton.1 hb]
      exact ⟨rfl, rfl⟩
    · exact nothing b hb
  | close =>
    refine of_mute fun b hb => ?_
    rcases List.mem_append.1 hb with hb | hb
    · obtain ⟨e, -, rfl⟩ := List.mem_map.1 hb
      exact ⟨rfl, rfl⟩
    · exact nothing b hb
  | line plain =>
    obtain ⟨lines, soft⟩ := main (State.plain?_fits idle plain)
    exact of_line lines soft
  | @shelve f =>
    obtain ⟨lines, soft⟩ := main (State.shelve_changes f s [])
    exact of_line lines soft

end Hushed

end Nursery
