import Nursery.Proofs.Aftermath
import Nursery.Proofs.Group.Failure
import Nursery.Proofs.Group.Outcry

/-!
# A group that is dropped

A group with children outstanding goes in steps, each an item of the agenda: the walk over
everything below it, the line in the log, the end of its node, the complaint, and what it owned.
Other drops may come before these steps or after them, and one of those may raise a panic; the
steps themselves follow upon each other, so none of them is given up but the complaint.

* `State.Forsakes` : a group is about to be dropped with children outstanding.
* `Dropping` : how far the drop has come; `Dropping.step`, it goes on.
* `State.Disbanded` : what it has come to when the agenda is worked off.
* `Complains` : the running body panics, or is about to; `Complains.step`, so it stays.
* `Unrolls.disbands`, `Complains.panics`, `Unrolls.no_panic` : **what comes of the drops.**
-/

namespace Nursery

/-- The item of the agenda drops a group. -/
def Action.drops (g : TaskId) : Action → Bool
  | .release (.group h) => h = g
  | _ => false

namespace State

/-- A group is about to be dropped while it has children outstanding. -/
def Forsakes (s : State) (g : TaskId) : Prop :=
  .release (.group g) ∈ s.agenda ∧ ∃ group, s.groups.get? g = some group ∧ group.remaining ≠ 0

instance (s : State) (g : TaskId) : Decidable (s.Forsakes g) :=
  decidable_of_iff (s.agenda.any (Action.drops g) = true ∧
      (s.groups.get? g).any (fun group => group.remaining ≠ 0) = true) <| by
    refine and_congr ⟨fun due => ?_, fun due => ?_⟩ (by simp [Option.any_eq_true])
    · obtain ⟨a, ha, drops⟩ := List.any_eq_true.1 due
      unfold Action.drops at drops
      split at drops
      · rwa [← of_decide_eq_true drops]
      · cases drops
    · exact List.any_eq_true.2 ⟨_, due, by simp [Action.drops]⟩

/-- The owner of a node is done with its own work. -/
def finished (s : State) (n : TaskId) : Bool :=
  (s.nodes.get? n).any Node.finished

end State

/-- How far the drop of a group with children outstanding has come. -/
inductive Dropping (s : State) (g : TaskId) : Prop where
  /-- It is still to come. -/
  | due (forsaken : s.Forsakes g)
  /-- Everything below the group is being flagged. -/
  | walks {ns : List TaskId} {n : Nat} {rest : List Action}
      (agenda : s.agenda =
        ns.map .cancel ++ .record (.logged (.groupDropped g n)) :: .finish g :: rest)
      (left : .dissolve g ∈ rest) (reached : g ∈ ns ∨ s.flagged g = true)
  /-- The log says so. -/
  | told {rest : List Action} (agenda : s.agenda = .finish g :: rest) (left : .dissolve g ∈ rest)
      (flagged : s.flagged g = true) (said : g ∈ outcries s.trace)
  /-- The node of the group is finished. -/
  | closed (flagged : s.flagged g = true) (said : g ∈ outcries s.trace)
      (finished : s.finished g = true) (gone : s.Gone g)

namespace State

/-- A group was dropped with children outstanding: it and everything that is attached below it is
flagged, its node is finished, nothing is left of it, and the log says so once. -/
structure Disbanded (s : State) (g : TaskId) : Prop where
  /-- The group is flagged. -/
  flagged : s.flagged g = true
  /-- So is everything that is attached below it. -/
  below : ∀ n, s.Under g n → s.flagged n = true
  /-- So is every child of the group that has not ended. -/
  children : ∀ u, s.ChildOf g u → (s.phase u).isTerminal = false → s.flagged u = true
  /-- Its owner is done with it. -/
  finished : s.finished g = true
  /-- Nothing is left of it. -/
  gone : s.groups.get? g = none
  /-- The log says so. -/
  said : (outcries s.trace).count g = 1

end State

variable {s s' : State} {d : Desk} {a : Action} {as rest : List Action} {g n : TaskId}

/-! ### What an item of the agenda does not undo -/

/-- Nobody takes up again what was finished. -/
theorem Effect.finished (e : Effect s a s') (before : s.finished n = true) :
    s'.finished n = true := by
  have kept : ∀ {x : State} {m : TaskId} {f : Node → Node},
      (∀ node : Node, node.finished = true → (f node).finished = true) → x.finished n = true →
        (x.modifyNode m f).finished n = true := by
    intro x m f keeps past
    obtain ⟨node, found, done⟩ := (Option.any_eq_true _ _).1 past
    refine (Option.any_eq_true _ _).2 ⟨_, Store.get?_modify_eq_some.2 ⟨node, found, rfl⟩, ?_⟩
    split
    · exact keeps node done
    · exact done
  cases e with
  | cancel | finish | orphan | notify =>
    exact kept (by exact fun _ h => by first | exact h | rfl) before
  | reap | reapLast => exact kept (by exact fun _ h => h) (kept (by exact fun _ h => h) before)
  | resume =>
    rw [State.finished, State.nodes_enqueue]
    exact kept (by exact fun _ h => h) before
  | _ => exact before

theorem Effect.finishes (e : Effect s (.finish n) s') (known : s.Knows n) :
    s'.finished n = true := by
  obtain ⟨node, found⟩ := known
  cases e with
  | spent why => exact absurd why id
  | finish =>
    refine (Option.any_eq_true _ _).2 ⟨_, Store.get?_modify_eq_some.2 ⟨node, found, rfl⟩, ?_⟩
    rw [if_pos rfl]

/-- A group stays as it is until what it owns is dropped. -/
theorem Effect.group (e : Effect s a s') (other : a ≠ .dissolve g) :
    s'.groups.get? g = s.groups.get? g := by
  cases e with
  | @dissolve h group found =>
    exact (Store.get?_erase ..).trans (if_neg fun same => other (by rw [same]))
  | resume =>
    obtain ⟨runtimes, agenda, eq⟩ := State.enqueue_eq (s.setPhase _ .ready) _ _ _
    rw [eq]
    rfl
  | _ => rfl

/-- What is to be dropped later is dropped even if a body panics. -/
theorem Effect.keeps (e : Effect s a s') {b : Action} (behind : b ∈ s.agenda)
    (dropped : b.afterPanic = some b) : b ∈ s'.agenda := by
  rcases e.agenda with more | ⟨-, left⟩
  · exact more behind
  · rw [left]
    exact List.mem_filterMap.2 ⟨b, behind, dropped⟩

/-- What is dropped by an item behind the first one is not dropped by that. -/
theorem Own.behind {hand : List Resource} (own : Own s hand []) (first : s.agenda = a :: as)
    {b : Action} (behind : b ∈ as) {r : Resource} (mine : r ∈ a.resources) : r ∉ b.resources := by
  have same : s = ({ s with agenda := as } : State).doFirst [a] := (State.step_item first).1
  rw [same] at own
  exact own.alone mine behind

/-- A group is known until what it owns is dropped. -/
theorem Sound.knows_dissolved (sound : Sound s d) (left : .dissolve g ∈ s.agenda) : s.Knows g :=
  sound.knows_group (sound.own.has_of_agenda left List.mem_cons_self)

/-! ### The drop goes on -/

/-- The drop is still to come behind the first item, or that is the drop. -/
theorem State.Forsakes.step (h : Reachable s d) (busy : s.agenda = a :: as)
    (forsaken : s.Forsakes g) : s.step.Forsakes g ∨
      ∃ n, s.step = ({ s with agenda := as } : State).doFirst
        [.cancel g, .record (.logged (.groupDropped g n)), .finish g, .complain groupComplaint,
          .dissolve g] := by
  obtain ⟨same, e⟩ := State.step_item busy
  obtain ⟨due, group, found, outstanding⟩ := forsaken
  rw [busy] at due
  rcases List.mem_cons.1 due with now | later
  · subst now
    exact .inr ⟨_, e.dropped found outstanding⟩
  · refine .inl ⟨e.keeps later rfl, group, ?_, outstanding⟩
    rw [e.group, found]
    rintro rfl
    exact h.sound.own.behind busy later (r := .group g) List.mem_cons_self List.mem_cons_self

namespace Dropping

theorem step_walks (h : Reachable s d) {ns : List TaskId} {n : Nat}
    (agenda : s.agenda =
      ns.map .cancel ++ .record (.logged (.groupDropped g n)) :: .finish g :: rest)
    (left : .dissolve g ∈ rest) (reached : g ∈ ns ∨ s.flagged g = true) : Dropping s.step g := by
  have known : s.Knows g := h.sound.knows_dissolved (by simp [agenda, left])
  cases ns with
  | nil =>
    have flagged := reached.resolve_left (by simp)
    have step : s.step = ({ s with agenda := .finish g :: rest } : State).tell
        (.logged (.groupDropped g n)) := State.step_of_agenda agenda
    rw [step]
    refine .told rfl left flagged ?_
    rw [State.tell, outcries_push]
    exact List.mem_append_right _ (by simp [Event.outcry?])
  | cons m ns =>
    have step : s.step = s.walk m (ns.map .cancel ++
        .record (.logged (.groupDropped g n)) :: .finish g :: rest) := State.step_of_agenda agenda
    rw [step]
    refine @walks _ _ ((if s.flagged m = true then [] else s.children m) ++ ns) n _ ?_ left ?_
    · rw [State.agenda_walk]
      split <;> simp
    · rw [State.flagged_walk]
      rcases reached with ahead | flagged
      · rcases List.mem_cons.1 ahead with rfl | later
        · exact .inr (.inr ⟨rfl, known⟩)
        · exact .inl (List.mem_append_right _ later)
      · exact .inr (.inl flagged)

theorem step_told (h : Reachable s d) (agenda : s.agenda = .finish g :: rest)
    (left : .dissolve g ∈ rest) (flagged : s.flagged g = true) (said : g ∈ outcries s.trace) :
    Dropping s.step g := by
  obtain ⟨node, found⟩ := h.sound.knows_dissolved (g := g) (by simp [agenda, left])
  obtain ⟨same, e⟩ := State.step_item agenda
  have finished : s.step.finished g = true := e.finishes ⟨node, found⟩
  have kept := (h.spread (d := d) .step).flagged flagged
  refine .closed kept ?_ finished ?_
  · rw [e.told]
    exact List.mem_append_left _ said
  · exact ⟨(h.spread (d := d) .step).knows ⟨node, found⟩, .inr (e.keeps left rfl)⟩

theorem step_closed (h : Reachable s d) (busy : s.agenda = a :: as) (flagged : s.flagged g = true)
    (said : g ∈ outcries s.trace) (finished : s.finished g = true) (gone : s.Gone g) :
    Dropping s.step g := by
  obtain ⟨same, e⟩ := State.step_item busy
  refine .closed ((h.spread (d := d) .step).flagged flagged) ?_ (e.finished finished) ?_
  · rw [e.told]
    exact List.mem_append_left _ said
  · exact e.gone (by rw [← same]; exact h.sound.formed) (by rwa [← same])

/-- **The drop goes on**, whatever the first item of the agenda is. -/
theorem step (h : Reachable s d) (busy : s.agenda = a :: as) (drop : Dropping s g) :
    Dropping s.step g := by
  cases drop with
  | due forsaken =>
    rcases forsaken.step h busy with still | ⟨n, steps⟩
    · exact .due still
    · exact @walks _ _ [g] _ _ (by rw [steps]; rfl) (by simp) (.inl (by simp))
  | walks agenda left reached => exact step_walks h agenda left reached
  | told agenda left flagged said => exact step_told h agenda left flagged said
  | closed flagged said finished gone => exact step_closed h busy flagged said finished gone

theorem disbanded (h : Reachable s d) (idle : s.agenda = []) (drop : Dropping s g) :
    s.Disbanded g := by
  have calm : s.Calm := .idle idle
  have kinship := h.sound.kinship
  cases drop with
  | due forsaken => simp [State.Forsakes, idle] at forsaken
  | walks agenda => simp [idle] at agenda
  | told agenda => simp [idle] at agenda
  | closed flagged said finished gone =>
    have below : ∀ n, s.Under g n → s.flagged n = true := fun n under =>
      calm.flagged_of_reaches (h.closed.reaches flagged under)
    refine ⟨flagged, below, fun u child ongoing => ?_, finished, ?_, ?_⟩
    · obtain ⟨node, found, made⟩ := Option.map_eq_some_iff.1 child.task
      obtain ⟨kind, parent⟩ := Prod.mk.inj made
      refine below u (.single
        ((kinship.linked u node g found parent).resolve_left fun reaped => ?_))
      rcases kinship.finished u node found (kinship.reaped u node found reaped).1 with
        ended | ⟨group, -⟩
      · cases ongoing.symm.trans ended
      · rw [State.kind?, found, Option.map_some, kind] at group
        cases group
    · exact gone.2.resolve_right (by simp [idle])
    · have once := h.outcry.once g
      have some_said := List.count_pos_iff.2 said
      rw [State.cries] at once
      omega

end Dropping

/-- A group that was about to be dropped is disbanded when the agenda is worked off. -/
theorem Unrolls.disbands (h : Reachable s d) (way : Unrolls [] s s') (idle : s'.agenda = [])
    (forsaken : s.Forsakes g) : s'.Disbanded g := by
  have drop : Dropping s' g := by
    clear idle
    induction way with
    | refl => exact .due forsaken
    | next way busy ih => exact ih.step (h.leads (way.leads d)) busy
  exact drop.disbanded (h.leads (way.leads d)) idle

/-! ### The panic -/

/-- Only a complaint raises a panic, inside a body that does not panic yet, and only a panic gives
up what is to come. -/
theorem Effect.panics (e : Effect s a s') :
    s'.unwinding = s.unwinding ∧ s.agenda ⊆ s'.agenda ∨
      s.inBody = true ∧ s.unwinding = none ∧ ∃ m, a = .complain m ∧ s'.unwinding = some m := by
  cases e with
  | panic m inside calm => exact .inr ⟨inside, Option.isNone_iff_eq_none.1 calm, m, rfl, rfl⟩
  | resume =>
    refine .inl ⟨?_, State.subset_agenda_enqueue (State.setPhase _ _ _) _ _ _⟩
    obtain ⟨runtimes, agenda, eq⟩ := State.enqueue_eq (s.setPhase _ .ready) _ _ _
    rw [eq]
    rfl
  | spent | orphan | reap | reportFailure | record | dropPending =>
    exact .inl ⟨rfl, List.Subset.refl _⟩
  | _ => exact .inl ⟨rfl, List.subset_append_right _ _⟩

theorem Effect.heard {m : String} (e : Effect s (.complain m) s') (inside : s.inBody = true)
    (calm : s.unwinding = none) : s'.unwinding = some m := by
  cases e with
  | spent deaf => exact absurd ⟨inside, by rw [calm]; rfl⟩ deaf
  | panic => rfl

/-- Only a group that is dropped with children outstanding brings a complaint. -/
theorem Effect.complaint (e : Effect s a s') {m : String} (next : .complain m ∈ s'.agenda) :
    .complain m ∈ s.agenda ∨ m = groupComplaint ∧ ∃ g group, a = .release (.group g) ∧
      s.groups.get? g = some group ∧ group.remaining ≠ 0 := by
  have old : ∀ {as : List Action}, s'.agenda = as ++ s.agenda → .complain m ∉ as →
      .complain m ∈ s.agenda ∨ m = groupComplaint ∧ ∃ g group, a = .release (.group g) ∧
        s.groups.get? g = some group ∧ group.remaining ≠ 0 := by
    intro as agenda none
    rw [agenda] at next
    exact .inl ((List.mem_append.1 next).resolve_left none)
  cases e with
  | spent | orphan | reap | reportFailure | record | dropPending => exact .inl next
  | resume => exact (State.mem_agenda_enqueue next).elim (fun same => by cases same) .inl
  | panic =>
    obtain ⟨b, -, left⟩ := List.mem_filterMap.1 next
    cases b with
    | wake w => cases w <;> cases left
    | _ => cases left
  | dropUndrained found outstanding =>
    rcases List.mem_append.1 next with new | before
    · simp only [List.mem_cons, reduceCtorEq, Action.complain.injEq, List.not_mem_nil, or_false,
        false_or] at new
      exact .inr ⟨new, _, _, rfl, found, outstanding⟩
    · exact .inl before
  | finish => exact old rfl (by split <;> simp)
  | reapLast => exact old rfl (by split <;> split <;> simp)
  | wakeWaiters | bury =>
    refine old rfl fun new => ?_
    obtain ⟨w, -, same⟩ := List.mem_map.1 new
    cases w <;> cases same
  | _ => exact old rfl (by simp)

/-- A worker stays inside a body while the agenda is worked off. -/
theorem State.Within.step {r : RuntimeId} {t : TaskId} (within : s.Within r t) (sound : Sound s d)
    (busy : s.agenda = a :: as) : s.step.Within r t := by
  obtain ⟨same, e⟩ := State.step_item busy
  obtain ⟨⟨goal, active⟩, at_work⟩ := within
  refine ⟨⟨goal, e.active.trans active⟩, at_work.imp ?_ fun ⟨ending, ended⟩ =>
    ⟨ending, (e.slice r).trans ended⟩⟩
  rintro ⟨task, f, runs⟩
  obtain ⟨stage, during⟩ := runs.during
  have held : ({ s with agenda := as } : State).held t = true := State.held_of_slice during
  have kept : a ≠ .bury t := by
    rintro rfl
    exact (sound.tether.buried t (by rw [busy]; exact List.mem_cons_self)).slice_ne r stage during
  obtain ⟨task', found, fiber⟩ := e.keeps_fiber held kept runs.found
  exact ⟨task', f, by rw [e.slice]; exact runs.slice, found, fiber.trans runs.fiber⟩

/-- The running body panics because of a group that was dropped, or is about to. -/
structure Complains (s : State) : Prop where
  /-- A body is running. -/
  inside : s.inBody = true
  /-- Whatever complaint is to come is about a group. -/
  alike : ∀ m, .complain m ∈ s.agenda → m = groupComplaint
  /-- It panics already, or a complaint is to come. -/
  why : s.unwinding = some groupComplaint ∨ s.unwinding = none ∧
    (.complain groupComplaint ∈ s.agenda ∨ ∃ g, s.Forsakes g)

/-- It stays so, whatever the first item of the agenda is. -/
theorem Complains.step (h : Reachable s d) (busy : s.agenda = a :: as) (c : Complains s) :
    Complains s.step := by
  obtain ⟨same, e⟩ := State.step_item busy
  have alike : ∀ m, .complain m ∈ as → m = groupComplaint := fun m later =>
    c.alike m (busy ▸ List.mem_cons_of_mem a later)
  obtain ⟨r, t, within⟩ := State.inBody_iff.1 c.inside
  refine ⟨State.inBody_iff.2 ⟨r, t, within.step h.sound busy⟩,
    fun m next => (e.complaint next).elim (alike m) And.left, ?_⟩
  rcases e.panics with ⟨kept, more⟩ | ⟨-, -, m, rfl, raised⟩
  · rcases c.why with panics | ⟨calm, complaint | ⟨g, forsaken⟩⟩
    · exact .inl (kept.trans panics)
    · refine .inr ⟨kept.trans calm, .inl ?_⟩
      rw [busy] at complaint
      refine more ((List.mem_cons.1 complaint).resolve_left ?_)
      rintro rfl
      cases (e.heard c.inside calm).symm.trans (kept.trans calm)
    · refine .inr ⟨kept.trans calm, ?_⟩
      rcases forsaken.step h busy with still | ⟨n, steps⟩
      · exact .inr ⟨g, still⟩
      · exact .inl (by rw [steps]; simp [State.doFirst])
  · rw [raised, c.alike m (busy ▸ List.mem_cons_self)]
    exact .inl rfl

/-- When nothing is left to be done, the body panics. -/
theorem Complains.panics (idle : s.agenda = []) (c : Complains s) :
    s.unwinding = some groupComplaint := by
  rcases c.why with panics | ⟨-, complaint | ⟨g, due, -⟩⟩
  · exact panics
  · simp [idle] at complaint
  · simp [idle] at due

namespace Unrolls

theorem still (way : Unrolls rest s s') :
    (∀ r, s'.slice r = s.slice r) ∧ s'.active = s.active :=
  way.invariant (I := fun x => (∀ r, x.slice r = s.slice r) ∧ x.active = s.active)
    ⟨fun _ => rfl, rfl⟩ fun _ _ e ⟨slices, active⟩ =>
      ⟨fun r => (e.slice r).trans (slices r), e.active.trans active⟩

/-- **A panic goes on**: while the agenda is worked off there is no second one. -/
theorem one_panic {m : String} (way : Unrolls rest s s') (panics : s.unwinding = some m) :
    s'.unwinding = some m :=
  way.invariant (I := fun x => x.unwinding = some m) panics fun _ _ e before => by
    rcases e.panics with ⟨kept, -⟩ | ⟨-, calm, -⟩
    · exact kept.trans before
    · cases calm.symm.trans before

/-- **Outside of a body nobody panics.** -/
theorem no_panic (way : Unrolls rest s s') (outside : s.inBody = false) :
    s'.unwinding = s.unwinding := by
  have kept := way.invariant (I := fun x => x.inBody = false ∧ x.unwinding = s.unwinding)
    ⟨outside, rfl⟩ fun _ _ e ⟨outside, before⟩ => by
      refine ⟨e.outside outside, ?_⟩
      rcases e.panics with ⟨kept, -⟩ | ⟨inside, -⟩
      · exact kept.trans before
      · cases inside.symm.trans outside
  exact kept.2

end Unrolls

end Nursery
