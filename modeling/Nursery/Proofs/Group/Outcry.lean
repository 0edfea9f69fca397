import Nursery.Proofs.Losses

/-!
# A group cries out once

The log says that a group was dropped with children outstanding when the drop of that group comes
up, and never otherwise: no line says so, and neither does a worker or the main thread.  The drop
takes the group with it, and no other group gets its name.

* `State.cries` : how often the log says so, or is about to.
* `State.Gone` : a group was made and dropped.
* `Effect.told`, `Work.outcries`, `Move.outcries` : what the log grows by.
* `Effect.dropped` : the steps in which a group with children outstanding is dropped.
* `Reachable.outcry` : **the log says so of every group once at most**, when it is dropped.
-/

namespace Nursery

/-- The group of which an item of the agenda tells that it was dropped with children outstanding. -/
def Action.outcry? : Action → Option TaskId
  | .record e => e.outcry?
  | _ => none

namespace State

/-- How often the log says that a group was dropped with children outstanding, or is about to. -/
def cries (s : State) (g : TaskId) : Nat :=
  (outcries s.trace).count g + (s.agenda.filterMap Action.outcry?).count g

/-- A group was made and dropped. -/
def Gone (s : State) (g : TaskId) : Prop :=
  s.Knows g ∧ (s.groups.get? g = none ∨ .dissolve g ∈ s.agenda)

end State

/-- Of every group the log says so once at most, and only if it was dropped. -/
structure Outcry (s : State) : Prop where
  /-- Once at most. -/
  once : ∀ g, s.cries g ≤ 1
  /-- Only of a group that was dropped. -/
  gone : ∀ g, 0 < s.cries g → s.Gone g
  /-- A paused worker does not say so when it goes on. -/
  later : ∀ r, ∀ e ∈ s.later r, e.outcry? = none

variable {s s' : State} {d d' : Desk} {a : Action} {as : List Action} {c : Context}
  {hand hand' : List Resource} {home : RuntimeId} {goal : Goal} {g : TaskId}

namespace Outcry

theorem init : Outcry {} where
  once _ := Nat.zero_le _
  gone _ some := by cases some
  later _ e he := by cases he

end Outcry

/-! ### Items of the agenda -/

namespace State

theorem cries_doFirst (as : List Action) :
    (s.doFirst as).cries g = s.cries g + (as.filterMap Action.outcry?).count g := by
  simp only [cries, doFirst, List.filterMap_append, List.count_append]
  omega

end State

/-- The log grows by what an item tells. -/
theorem Effect.told (e : Effect s a s') :
    outcries s'.trace = outcries s.trace ++ a.outcry?.toList := by
  have same : ∀ {x : Array Event} {e : Event}, e.outcry? = none →
      outcries (x.push e) = outcries x ++ [] := fun other => by
    rw [outcries_push_of_none _ other, List.append_nil]
  cases e with
  | record e => exact outcries_push ..
  | cancel | reap | reapLast | trip => exact same rfl
  | reportFailure _ _ _ _ _ _ hush | dropHandle _ _ _ _ hush | abandon _ _ _ hush =>
    exact hush.trans (List.append_nil _).symm
  | resume =>
    unfold State.enqueue
    split <;> exact (List.append_nil _).symm
  | @spent a why =>
    cases a with
    | record e => exact absurd why id
    | _ => exact (List.append_nil _).symm
  | _ => exact (List.append_nil _).symm

/-- A paused worker tells what it told. -/
theorem Effect.later (e : Effect s a s') (r : RuntimeId) : s'.later r = s.later r := by
  cases e with
  | resume => exact State.later_enqueue ..
  | _ => rfl

theorem outcry_afterPanic {b : Action} (left : a.afterPanic = some b) : b.outcry? = none := by
  cases a with
  | wake w => cases w <;> cases left <;> rfl
  | _ => cases left <;> rfl

/-- A group with children outstanding is dropped in these steps. -/
theorem Effect.dropped {group : Group} (e : Effect s (.release (.group g)) s')
    (found : s.groups.get? g = some group) (outstanding : group.remaining ≠ 0) :
    s' = s.doFirst [.cancel g, .record (.logged (.groupDropped g group.remaining)), .finish g,
      .complain groupComplaint, .dissolve g] := by
  cases e with
  | spent missing => cases found.symm.trans missing
  | dropGroup there drained =>
    cases found.symm.trans there
    exact absurd drained outstanding
  | dropUndrained there =>
    cases found.symm.trans there
    rfl

/-- What an item is about to tell it tells, and no item brings more to tell, unless it drops a group
with children outstanding. -/
theorem Effect.cries_le (e : Effect s a s') (other : ∀ group, a = .release (.group g) →
    s.groups.get? g = some group → group.remaining = 0) :
    s'.cries g ≤ (s.doFirst [a]).cries g := by
  -- where no more is to be told, nothing has changed but that the item has told
  have keep : (s'.agenda.filterMap Action.outcry?).count g ≤
      (s.agenda.filterMap Action.outcry?).count g → s'.cries g ≤ (s.doFirst [a]).cries g := by
    intro fewer
    have told := congrArg (List.count g) e.told
    rw [List.count_append] at told
    rw [State.cries_doFirst, State.cries, State.cries, told]
    cases cry : a.outcry? <;> simp [cry] <;> omega
  have mute : ∀ as : List Action, s'.agenda = as ++ s.agenda → (∀ b ∈ as, b.outcry? = none) →
      s'.cries g ≤ (s.doFirst [a]).cries g := by
    intro as agenda silent
    refine keep (Nat.le_of_eq ?_)
    rw [agenda, List.filterMap_append, List.filterMap_eq_nil_iff.2 silent, List.nil_append]
  have maps : ∀ {α : Type} {f : α → Action} {xs : List α}, (∀ x, (f x).outcry? = none) →
      ∀ b ∈ xs.map f, b.outcry? = none := by
    intro α f xs each b hb
    obtain ⟨x, -, rfl⟩ := List.mem_map.1 hb
    exact each x
  cases e with
  | spent | orphan | reap | reportFailure | record | dropPending => exact mute [] rfl (by simp)
  | panic =>
    refine keep ?_
    have none : (s.agenda.filterMap Action.afterPanic).filterMap Action.outcry? = [] :=
      List.filterMap_eq_nil_iff.2 fun b hb =>
        outcry_afterPanic (List.mem_filterMap.1 hb).choose_spec.2
    exact Nat.le_trans (Nat.le_of_eq (congrArg (List.count g) none)) (Nat.zero_le _)
  | @dropUndrained h group found outstanding =>
    refine keep (Nat.le_of_eq ?_)
    have apart : h ≠ g := fun mine => outstanding (other group (by rw [mine]) (mine ▸ found))
    exact List.count_cons_of_ne apart
  | resume =>
    refine keep (Nat.le_of_eq ?_)
    unfold State.enqueue
    split <;> rfl
  | finish => exact mute _ rfl (by split <;> simp [Action.outcry?])
  | reapLast => exact mute _ rfl (by split <;> split <;> simp [Action.outcry?])
  | bury => exact mute _ rfl (maps fun w => by cases w <;> rfl)
  | dissolve =>
    refine mute _ rfl fun b hb => ?_
    rcases List.mem_append.1 hb with hb | hb
    · exact maps (fun _ => rfl) b hb
    · rw [List.mem_singleton.1 hb]
      rfl
  | forget =>
    refine mute _ rfl fun b hb => ?_
    rcases List.mem_append.1 hb with hb | hb
    · exact maps (fun _ => rfl) b hb
    · rw [List.mem_singleton.1 hb]
      rfl
  | cancel | announce | wakeWaiters | answer | dropAnswered | silence | abandon =>
    exact mute _ rfl (maps fun _ => rfl)
  | _ => exact mute _ rfl (by simp [Action.outcry?])

/-- No item of the agenda but the drop itself makes up for a group that was dropped. -/
theorem Effect.gone (formed : Formed (s.doFirst [a])) (e : Effect s a s')
    (h : (s.doFirst [a]).Gone g) : s'.Gone g := by
  obtain ⟨⟨node, found⟩, gone⟩ := h
  obtain ⟨node', found', -⟩ := Lasts.effect e g node found
  refine ⟨⟨node', found'⟩, ?_⟩
  rcases gone with gone | going
  · left
    cases there : s'.groups.get? g with
    | none => rfl
    | some m =>
      rcases e.enrols g m there with ⟨unmade, -⟩ | ⟨m, known, -⟩
      · cases unmade.symm.trans found
      · cases gone.symm.trans known
  · rcases List.mem_cons.1 going with now | later
    · subst now
      left
      cases e with
      | spent missing => exact missing
      | dissolve => rw [State.doFirst, Store.get?_erase, if_pos rfl]
    · right
      rcases e.agenda with more | ⟨-, left⟩
      · exact more later
      · rw [left]
        exact List.mem_filterMap.2 ⟨_, later, rfl⟩

/-- What the first item of the agenda drops no other item drops. -/
theorem Own.alone (own : Own (s.doFirst [a]) hand []) {r : Resource} (mine : r ∈ a.resources)
    {b : Action} (behind : b ∈ s.agenda) : r ∉ b.resources := by
  intro twice
  have once := own.once r
  have first : 0 < ([a].flatMap Action.resources).count r :=
    List.count_pos_iff.2 (by simpa using mine)
  have again : 0 < (s.agenda.flatMap Action.resources).count r :=
    List.count_pos_iff.2 (List.mem_flatMap.2 ⟨b, behind, twice⟩)
  rw [State.owners_doFirst] at once
  simp only [State.owners, List.count_nil] at once
  omega

namespace Outcry

theorem unsaid (own : Own (s.doFirst [.release (.group g)]) hand [])
    (h : Outcry (s.doFirst [.release (.group g)])) :
    (s.doFirst [.release (.group g)]).cries g = 0 := by
  by_contra said
  obtain ⟨-, gone | going⟩ := h.gone g (Nat.pos_of_ne_zero said)
  · obtain ⟨group, found⟩ := own.has_of_agenda (r := .group g) List.mem_cons_self List.mem_cons_self
    cases gone.symm.trans found
  · have behind : .dissolve g ∈ s.agenda :=
      (List.mem_cons.1 going).resolve_left fun same => by cases same
    exact own.alone (r := .group g) List.mem_cons_self behind List.mem_cons_self

theorem effect (formed : Formed (s.doFirst [a])) (own : Own (s.doFirst [a]) hand [])
    (e : Effect s a s') (h : Outcry (s.doFirst [a])) : Outcry s' := by
  have later : ∀ r, ∀ e' ∈ s'.later r, e'.outcry? = none := fun r e' he =>
    h.later r e' (by rwa [e.later] at he)
  by_cases drop : ∃ x group, a = .release (.group x) ∧ s.groups.get? x = some group ∧
      group.remaining ≠ 0
  · obtain ⟨x, group, rfl, found, outstanding⟩ := drop
    have unsaid := unsaid own h
    obtain rfl := e.dropped found outstanding
    have more : ∀ g, (s.doFirst [.release (.group x)]).cries g + (if x = g then 1 else 0) =
        (s.doFirst [.cancel x, .record (.logged (.groupDropped x group.remaining)), .finish x,
          .complain groupComplaint, .dissolve x]).cries g := by
      intro g
      rw [State.cries_doFirst, State.cries_doFirst]
      change s.cries g + List.count g [] + _ = s.cries g + List.count g [x]
      simp [List.count_singleton]
    refine ⟨fun g => ?_, fun g said => ?_, later⟩
    · rw [← more]
      split
      · rename_i mine
        subst mine
        exact Nat.le_of_eq (congrArg (· + 1) unsaid)
      · exact h.once g
    · by_cases mine : x = g
      · subst mine
        obtain ⟨node, there, -⟩ := Option.map_eq_some_iff.1 (formed.groups x group found)
        exact ⟨⟨node, there⟩, .inr (by simp [State.doFirst])⟩
      · rw [← more, if_neg mine] at said
        exact e.gone formed (h.gone g said)
  · have other : ∀ g group, a = .release (.group g) → s.groups.get? g = some group →
        group.remaining = 0 := fun g group drops found => by
      by_contra outstanding
      exact drop ⟨g, group, drops, found, outstanding⟩
    refine ⟨fun g => ?_, fun g some_said => ?_, later⟩
    · exact Nat.le_trans (e.cries_le (other g)) (h.once g)
    · exact e.gone formed (h.gone g (Nat.lt_of_lt_of_le some_said (e.cries_le (other g))))

end Outcry

/-! ### Lines, workers and moves -/

namespace State

theorem outcries_enqueue (s : State) (r : RuntimeId) (p : Priority) (e : Entry) :
    outcries (s.enqueue r p e).trace = outcries s.trace := by
  obtain ⟨runtimes, agenda, eq⟩ := enqueue_eq s r p e
  rw [eq]

theorem outcries_addNode (s : State) (kind : NodeKind) (priority : Priority)
    (parent : Option TaskId) :
    outcries (s.addNode kind priority parent).trace = outcries s.trace := by
  unfold addNode
  cases parent with
  | none => rfl
  | some p =>
    dsimp only
    split
    · exact outcries_push_of_none _ rfl
    · rfl

theorem outcries_launch (s : State) (n : TaskId) (home : RuntimeId) (body : List Line)
    (blocking : Bool) : outcries (s.launch n home body blocking).trace = outcries s.trace := by
  unfold launch
  exact (outcries_enqueue ..).trans (outcries_push_of_none _ rfl)

theorem outcries_post (s : State) (a : ActorId) (home : RuntimeId) (message : Message) :
    outcries (s.post a home message).trace = outcries s.trace := by
  obtain ⟨actors, runtimes, agenda, eq⟩ := post_eq s a home message
  rw [eq]

theorem outcries_foldl_tell (es : List Event) (mild : ∀ e ∈ es, e.outcry? = none) :
    ∀ s : State, outcries (es.foldl State.tell s).trace = outcries s.trace := by
  induction es with
  | nil => exact fun _ => rfl
  | cons e es ih =>
    intro s
    rw [List.foldl_cons, ih fun e he => mild e (List.mem_cons_of_mem _ he)]
    exact outcries_push_of_none _ (mild e List.mem_cons_self)

end State

/-- No line says that a group was dropped. -/
theorem Change.outcries (hc : Change c s hand s' hand') :
    Nursery.outcries s'.trace = Nursery.outcries s.trace := by
  cases hc with
  | tell e fair mild => exact outcries_push_of_none _ mild
  | spawn => exact (State.outcries_launch ..).trans (State.outcries_addNode ..)
  | group => exact State.outcries_addNode ..
  | add => exact (State.outcries_launch ..).trans (State.outcries_addNode ..)
  | call => exact State.outcries_post ..
  | send => exact State.outcries_post ..
  | _ => rfl

theorem Changes.outcries (hc : Changes c s hand s' hand') :
    Nursery.outcries s'.trace = Nursery.outcries s.trace :=
  hc.invariant (I := fun x _ => Nursery.outcries x.trace = Nursery.outcries s.trace)
    (fun hc h => hc.outcries.trans h) rfl

/-- Nor does a worker. -/
theorem Work.outcries (w : Work s home s') :
    Nursery.outcries s'.trace = Nursery.outcries s.trace := by
  cases w with
  | next _ _ changes | suspend _ _ changes | ends _ _ changes | pause _ _ _ changes
  | handle _ changes | hold _ _ changes | handled _ _ changes =>
    have line := changes.outcries
    exact line
  | endBody _ _ _ _ _ hush | complete _ _ _ _ _ _ _ hush | reply _ _ _ _ _ hush => exact hush
  | again | markerAgain => exact State.outcries_enqueue ..
  | drained => exact outcries_push_of_none _ rfl
  | drainAgain => exact (State.outcries_enqueue ..).trans (outcries_push_of_none _ rfl)
  | _ => rfl

/-- Nor does the main thread. -/
theorem Move.outcries (idle : s.agenda = []) (later : ∀ r, ∀ e ∈ s.later r, e.outcry? = none)
    (m : Move s d s' d') : Nursery.outcries s'.trace = Nursery.outcries s.trace := by
  cases m with
  | build place batch stem =>
    rcases s.build_cases place batch stem with same | ⟨-, settings, built⟩
    · rw [same]
    · rw [built]
      rfl
  | start | block | join => exact State.outcries_foldl_tell _ (later _) _
  | @startRounds _ r _ rounds band =>
    refine (State.outcries_foldl_tell _ (fun e he => later r e ?_) _).trans
      (State.outcries_enqueue ..)
    exact State.later_enqueue (s := { s with markers := s.markers + 1 }) .. ▸ he
  | launchRoot => exact (State.outcries_launch ..).trans (State.outcries_addNode ..)
  | leaveRoot => rfl
  | close => exact outcries_push_of_none _ rfl
  | line plain => exact (State.plain?_fits idle plain).outcries
  | @shelve f => exact (State.shelve_changes (c := ⟨.main, none⟩) f s []).outcries

/-! ### Along a run -/

/-- Where nothing was to be done, nothing is said, nor is it said later. -/
theorem Outcry.idle (h : Outcry s) (idle : s.agenda = [])
    (same : outcries s'.trace = outcries s.trace) (quiet : Quiet Event.Fair s s')
    (lasts : Lasts s s')
    (groups : ∀ g m', s'.groups.get? g = some m' →
      s.nodes.get? g = none ∨ ∃ m, s.groups.get? g = some m) : Outcry s' := by
  have mild : ∀ e, s'.Untold e → e.outcry? = none := by
    intro e untold
    rcases quiet.untold e untold with (now | ⟨r, later⟩) | fair
    · rw [idle] at now
      cases now
    · exact h.later r e later
    · exact fair.2
  have silent : s'.agenda.filterMap Action.outcry? = [] := by
    refine List.filterMap_eq_nil_iff.2 fun b hb => ?_
    cases b with
    | record e => exact mild e (.inl hb)
    | _ => rfl
  have cries : ∀ g, s'.cries g = s.cries g := fun g => by
    rw [State.cries, State.cries, same, silent, idle]
    rfl
  refine ⟨fun g => by rw [cries]; exact h.once g, fun g said => ?_,
    fun r e he => mild e (.inr ⟨r, he⟩)⟩
  obtain ⟨⟨node, found⟩, gone⟩ := h.gone g (by rwa [← cries])
  obtain ⟨node', found', -⟩ := lasts g node found
  refine ⟨⟨node', found'⟩, .inl ?_⟩
  cases there : s'.groups.get? g with
  | none => rfl
  | some m =>
    rcases groups g m there with unmade | ⟨m, known⟩
    · cases unmade.symm.trans found
    · rcases gone with gone | going
      · cases gone.symm.trans known
      · rw [idle] at going
        cases going

theorem Outcry.next (h : Outcry s) (reachable : Reachable s d) (tr : Transition s d s' d') :
    Outcry s' := by
  have sound := reachable.sound
  obtain ⟨past, trail⟩ := reachable.trail
  have lasts := tr.lasts sound
  have groups : ∀ g m', s'.groups.get? g = some m' →
      s.nodes.get? g = none ∨ ∃ m, s.groups.get? g = some m := fun g m' found =>
    (tr.children reachable trail.rolls found).imp_right fun ⟨m, known, _⟩ => ⟨m, known⟩
  cases tr with
  | step =>
    have next := State.step_cases sound.wakeful.waitsOnOwn
    generalize s.step = s' at next lasts groups
    cases next with
    | item first e =>
      subst first
      exact h.effect sound.formed sound.own e
    | work idle active w => exact h.idle idle w.outcries w.quiet lasts groups
    | rest => exact h
  | stray idle => exact h.idle idle rfl (.doFirst fun e he => by simp at he) lasts groups
  | move rests m =>
    have idle := State.idle_of_resting rests
    exact h.idle idle (m.outcries idle h.later) (m.quiet sound.formed idle) lasts groups

/-- **Of every group the log says once at most** that it was dropped with children outstanding. -/
theorem Reachable.outcry (h : Reachable s d) : Outcry s := by
  induction h with
  | init => exact .init
  | next h tr ih => exact ih.next h tr

/-- What the log has said of dropped groups it goes on saying. -/
theorem Transition.outcries (h : Reachable s d) (tr : Transition s d s' d') :
    ∃ more, Nursery.outcries s'.trace = Nursery.outcries s.trace ++ more := by
  have same : Nursery.outcries s'.trace = Nursery.outcries s.trace →
      ∃ more, Nursery.outcries s'.trace = Nursery.outcries s.trace ++ more := fun same =>
    ⟨[], by rw [same, List.append_nil]⟩
  cases tr with
  | step =>
    have next := State.step_cases h.sound.wakeful.waitsOnOwn
    generalize s.step = s' at next same
    cases next with
    | item first e =>
      subst first
      exact ⟨_, e.told⟩
    | work idle active w => exact same w.outcries
    | rest => exact same rfl
  | stray => exact same rfl
  | move rests m => exact same (m.outcries (State.idle_of_resting rests) h.outcry.later)

theorem Leads.cries (h : Reachable s d) (l : Leads s d s' d') (g : TaskId) :
    (outcries s.trace).count g ≤ (outcries s'.trace).count g := by
  induction l with
  | refl => exact Nat.le_refl _
  | next l tr ih =>
    obtain ⟨more, eq⟩ := tr.outcries (h.leads l)
    rw [eq, List.count_append]
    exact Nat.le_add_right_of_le ih

end Nursery
