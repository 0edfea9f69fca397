import Nursery.Proofs.Invariant.Sound

/-!
# Whoever is due leaves

A node whose owner is done is finished at once, and a finished node that lists nobody leaves its
parent at once.  What stands on the agenda before that was put there by the same drop of a group,
and it raises no panic; so no panic can give up the end of a node.

* `Prompt` : the end of a node is not kept waiting.
* `Node.Tidy`, `Tidy` : the invariant, for one node and for all.
* `Tidy.effect`, `Tidy.change`, `Tidy.work`, `Tidy.move` : it is kept.
* `Reachable.tidy` : every reachable state is tidy.
-/

namespace Nursery

/-- An item that may come before the end of a node: the drop of a group puts it there. -/
def Action.mild : Action → Bool
  | .cancel _ | .record _ => true
  | _ => false

/-- An item by which a node is finished or leaves its parent, or by which its group goes. -/
def Action.closes : Action → Bool
  | .finish _ | .detach _ | .dissolve _ => true
  | _ => false

/-- Only mild items stand before one by which a node is finished or leaves its parent, so there is
one of these at most. -/
def Prompt : List Action → Prop
  | [] => True
  | a :: rest => if a.mild then Prompt rest else ∀ b ∈ rest, b.ends = false

/-- A node is in order. -/
structure Node.Tidy (s : State) (n : TaskId) (m : Node) : Prop where
  /-- It lists its children in the order in which they were made. -/
  rising : m.children.Pairwise (·.index < ·.index)
  /-- Who waits for the children is a task that has not ended, and there are some. -/
  joins : m.joining = true →
    m.children ≠ [] ∧ m.phase.isTerminal = false ∧ m.kind = .task ∧ s.tasks.get? n ≠ none
  /-- It does not stay when its owner is done and the last child has left. -/
  due : m.finished = true → m.children = [] → m.reaped = true ∨ .detach n ∈ s.agenda
  /-- It is finished when its task has ended. -/
  ended : m.phase.isTerminal = true → m.finished = true ∨ .finish n ∈ s.agenda
  /-- It is finished when its group has gone, -/
  dropped : m.kind = .group → s.groups.get? n = none → m.finished = true
  /-- or before the group goes. -/
  going : .dissolve n ∈ s.agenda → m.finished = true ∨ .finish n ∈ s.agenda

/-- Every node is in order, and the end of a node is not kept waiting. -/
structure Tidy (s : State) : Prop where
  /-- Every node is in order. -/
  nodes : ∀ n m, s.nodes.get? n = some m → m.Tidy s n
  /-- The end of a node is not kept waiting. -/
  prompt : Prompt s.agenda

variable {s s' : State} {c : Context} {hand hand' : List Resource} {a : Action}
  {as rest : List Action} {n : TaskId} {m m' : Node}

theorem Action.ends_of_closes (h : a.closes = false) : a.ends = false := by
  cases a <;> first | rfl | cases h

theorem Action.dissolve_of_afterPanic (h : a.afterPanic = some (.dissolve n)) :
    a = .dissolve n := by
  cases a with
  | dissolve g =>
    cases h
    rfl
  | wake w => cases w <;> cases h
  | _ => cases h

theorem Waker.closes_forget (w : Waker) : w.forget.closes = false := by
  cases w <;> rfl

theorem State.mem_agenda_of_ne {b : Action} (h : b ∈ (s.doFirst [a]).agenda) (other : b ≠ a) :
    b ∈ s.agenda :=
  (List.mem_cons.1 h).resolve_left other

/-- A task that is changed stays known. -/
theorem State.known_modifyTask {t u : TaskId} {f : Task → Task} (known : s.tasks.get? u ≠ none) :
    (s.modifyTask t f).tasks.get? u ≠ none := fun none =>
  known (Store.get?_modify_eq_none.1 none)

namespace Prompt

theorem of_free (free : ∀ a ∈ as, a.ends = false) : Prompt as := by
  induction as with
  | nil => trivial
  | cons a as ih =>
    have later : ∀ b ∈ as, b.ends = false := fun b hb => free b (List.mem_cons_of_mem a hb)
    unfold Prompt
    split
    · exact ih later
    · exact later

theorem behind (h : Prompt (a :: rest)) (other : a.mild = false) : ∀ b ∈ rest, b.ends = false := by
  unfold Prompt at h
  rwa [if_neg (by simp [other])] at h

theorem tail (h : Prompt (a :: rest)) : Prompt rest := by
  by_cases mild : a.mild = true
  · unfold Prompt at h
    rwa [if_pos mild] at h
  · exact .of_free (h.behind (Bool.not_eq_true _ ▸ mild))

theorem cons (h : Prompt rest) (mild : a.mild = true) : Prompt (a :: rest) := by
  unfold Prompt
  rwa [if_pos mild]

theorem append (h : Prompt as) (free : ∀ b ∈ rest, b.ends = false) : Prompt (as ++ rest) := by
  induction as with
  | nil => exact .of_free free
  | cons a as ih =>
    by_cases mild : a.mild = true
    · exact .cons (ih h.tail) mild
    · have later := h.behind (Bool.not_eq_true _ ▸ mild)
      rw [List.cons_append]
      unfold Prompt
      rw [if_neg mild]
      exact fun b hb => (List.mem_append.1 hb).elim (later b) (free b)

theorem prepend (h : Prompt rest) (mild : ∀ a ∈ as, a.mild = true) : Prompt (as ++ rest) := by
  induction as with
  | nil => exact h
  | cons a as ih =>
    obtain ⟨first, later⟩ := List.forall_mem_cons.1 mild
    exact .cons (ih later) first

end Prompt

/-! ### Changes that no node sees -/

theorem Node.Tidy.moved (h : m.Tidy s n)
    (tasks : m.joining = true → s.tasks.get? n ≠ none → s'.tasks.get? n ≠ none)
    (groups : s'.groups.get? n = none → s.groups.get? n = none ∨ m.finished = true)
    (leaves : .detach n ∈ s.agenda → m.reaped = true ∨ .detach n ∈ s'.agenda)
    (ends : .finish n ∈ s.agenda → m.finished = true ∨ .finish n ∈ s'.agenda)
    (goes : .dissolve n ∈ s'.agenda → .dissolve n ∈ s.agenda ∨ .finish n ∈ s'.agenda) :
    m.Tidy s' n where
  rising := h.rising
  joins waits := by
    obtain ⟨some_left, ongoing, task, known⟩ := h.joins waits
    exact ⟨some_left, ongoing, task, tasks waits known⟩
  due past alone := (h.due past alone).elim .inl leaves
  ended past := (h.ended past).elim .inl ends
  dropped group gone := (groups gone).elim (h.dropped group) id
  going ahead := (goes ahead).elim (fun ahead => (h.going ahead).elim .inl ends) .inr

namespace Tidy

theorem init : Tidy {} where
  nodes n m found := by simp [Store.get?, Store.lookup] at found
  prompt := trivial

/-- Where no node changes, tasks and groups stay and the agenda only grows, the tree stays tidy. -/
theorem keep (h : Tidy s) (nodes : s'.nodes = s.nodes)
    (tasks : ∀ t, s.tasks.get? t ≠ none → s'.tasks.get? t ≠ none)
    (groups : ∀ g, s'.groups.get? g = none → s.groups.get? g = none)
    (agenda : ∀ b ∈ s.agenda, b ∈ s'.agenda)
    (goes : ∀ n, .dissolve n ∈ s'.agenda → .dissolve n ∈ s.agenda ∨ .finish n ∈ s'.agenda)
    (prompt : Prompt s'.agenda) : Tidy s' where
  nodes n m found := (h.nodes n m (nodes ▸ found)).moved (fun _ => tasks n)
    (fun none => .inl (groups n none)) (fun ahead => .inr (agenda _ ahead))
    (fun ahead => .inr (agenda _ ahead)) (goes n)
  prompt := prompt

theorem same (h : Tidy s) (nodes : s'.nodes = s.nodes)
    (tasks : ∀ t, s.tasks.get? t ≠ none → s'.tasks.get? t ≠ none) (groups : s'.groups = s.groups)
    (agenda : s'.agenda = s.agenda) : Tidy s' :=
  h.keep nodes tasks (fun _ none => groups ▸ none) (fun _ ahead => agenda ▸ ahead)
    (fun _ ahead => .inl (agenda ▸ ahead)) (agenda ▸ h.prompt)

theorem pop (h : Tidy (s.doFirst [a])) (other : a.ends = false) : Tidy s where
  nodes n m found := by
    have kept : ∀ b : Action, b.ends = true → b ∈ (s.doFirst [a]).agenda → b ∈ s.agenda :=
      fun b ends ahead => State.mem_agenda_of_ne ahead fun same => by simp [same, other] at ends
    exact (h.nodes n m found).moved (fun _ => id) .inl (fun ahead => .inr (kept _ rfl ahead))
      (fun ahead => .inr (kept _ rfl ahead)) (fun ahead => .inl (List.mem_cons_of_mem _ ahead))
  prompt := h.prompt.tail

theorem quietly (h : Tidy s) (free : ∀ b ∈ s.agenda, b.ends = false) (nodes : s'.nodes = s.nodes)
    (tasks : ∀ t, s.tasks.get? t ≠ none → s'.tasks.get? t ≠ none)
    (groups : ∀ g, s'.groups.get? g = none → s.groups.get? g = none)
    (agenda : s'.agenda = as ++ s.agenda) (new : ∀ b ∈ as, b.closes = false) : Tidy s' := by
  refine h.keep nodes tasks groups (fun b hb => by rw [agenda]; exact List.mem_append_right _ hb)
    (fun n ahead => ?_) ?_
  · rw [agenda] at ahead
    refine .inl ((List.mem_append.1 ahead).resolve_left fun now => ?_)
    cases new _ now
  · rw [agenda]
    exact .of_free fun b hb =>
      (List.mem_append.1 hb).elim (fun hb => Action.ends_of_closes (new b hb)) (free b)

theorem enqueue (h : Tidy s) (free : ∀ b ∈ s.agenda, b.ends = false) (r : RuntimeId)
    (p : Priority) (e : Entry) : Tidy (s.enqueue r p e) := by
  unfold State.enqueue
  split
  · exact h.quietly free rfl (fun _ => id) (fun _ => id) rfl (by simp [Action.closes])
  · exact h.same rfl (fun _ => id) rfl rfl

theorem doLast (h : Tidy s) (new : ∀ b ∈ as, b.closes = false) : Tidy (s.doLast as) := by
  refine h.keep rfl (fun _ => id) (fun _ => id) (fun b => List.mem_append_left _)
    (fun n ahead => ?_) (h.prompt.append fun b hb => Action.ends_of_closes (new b hb))
  refine .inl ((List.mem_append.1 ahead).resolve_right fun now => ?_)
  cases new _ now

theorem modifyNode (h : Tidy s) {f : Node → Node}
    (ages : ∀ m, s.nodes.get? n = some m → m.Tidy s n → (f m).Tidy s n) :
    Tidy (s.modifyNode n f) where
  nodes k m' found := by
    obtain ⟨m, old, rfl⟩ := Store.get?_modify_eq_some.1 found
    have before := h.nodes k m old
    have now : (if n = k then f m else m).Tidy s k := by
      split
      · rename_i same
        subst same
        exact ages m old before
      · exact before
    exact now.moved (fun _ => id) .inl .inr .inr .inl
  prompt := h.prompt

theorem rephase (h : Tidy s) {f : Node → Node} {p : Phase}
    (same : ∀ m, f m = { m with joining := (f m).joining, phase := p })
    (joins : ∀ m, s.nodes.get? n = some m → (f m).joining = true → m.joining = true ∨
      m.children ≠ [] ∧ m.kind = .task ∧ s.tasks.get? n ≠ none)
    (ongoing : p.isTerminal = false) : Tidy (s.modifyNode n f) := by
  refine h.modifyNode fun m found old => ?_
  have waits := joins m found
  rw [same]
  exact { old with
    joins := fun now => by
      rcases waits now with before | ⟨some_left, task, known⟩
      · obtain ⟨some_left, -, task, known⟩ := old.joins before
        exact ⟨some_left, ongoing, task, known⟩
      · exact ⟨some_left, ongoing, task, known⟩
    ended := fun past => by
      rw [ongoing] at past
      cases past }

/-! ### Items of the agenda -/

theorem unfinished (h : Tidy s) (kinship : Kinship s) (found : s.nodes.get? n = some m)
    (joins : m.joining = true) : m.finished = false := by
  obtain ⟨-, ongoing, task, -⟩ := (h.nodes n m found).joins joins
  refine Bool.eq_false_iff.2 fun finished => ?_
  rcases kinship.finished n m found finished with past | ⟨group, -⟩
  · rw [State.phase_of_get? found, ongoing] at past
    cases past
  · rw [State.kind?, found, Option.map_some, task] at group
    cases group

theorem finish (pre : Tidy (s.doFirst [.finish n])) :
    Tidy ((s.modifyNode n fun m => { m with finished := true }).doFirst
      (if s.children n = [] then [.detach n] else [])) where
  nodes k m' found := by
    obtain ⟨m, old, rfl⟩ := Store.get?_modify_eq_some.1 found
    have before := pre.nodes k m old
    have kept : ∀ b, b ∈ s.agenda → b ∈ (if s.children n = [] then [Action.detach n] else []) ++
        s.agenda := fun b => List.mem_append_right _
    have goes : .dissolve k ∈ (if s.children n = [] then [Action.detach n] else []) ++ s.agenda →
        .dissolve k ∈ s.agenda := fun ahead =>
      (List.mem_append.1 ahead).resolve_left fun now => by
        split at now <;> simp at now
    by_cases same : n = k
    · subst same
      rw [if_pos rfl]
      exact {
        rising := before.rising
        joins := before.joins
        due := fun _ alone => by
          have none : s.children n = [] := (State.children_of_get? old).trans alone
          exact .inr (by simp [State.doFirst, none])
        ended := fun _ => .inl rfl
        dropped := fun _ _ => rfl
        going := fun _ => .inl rfl }
    · rw [if_neg same]
      exact before.moved (fun _ => id) .inl
        (fun ahead => .inr (kept _ (State.mem_agenda_of_ne ahead (by simp))))
        (fun ahead => .inr (kept _ (State.mem_agenda_of_ne ahead (by simpa using Ne.symm same))))
        (fun ahead => .inl (List.mem_cons_of_mem _ (goes ahead)))
  prompt := by
    refine Prompt.append ?_ (pre.prompt.behind rfl)
    split <;> simp [Prompt, Action.mild]

theorem leave (pre : Tidy (s.doFirst [.detach n])) :
    Tidy (s.modifyNode n fun m => { m with reaped := true }) where
  nodes k m' found := by
    obtain ⟨m, old, rfl⟩ := Store.get?_modify_eq_some.1 found
    have before := pre.nodes k m old
    have finishes : .finish k ∈ (s.doFirst [.detach n]).agenda → .finish k ∈ s.agenda :=
      fun ahead => State.mem_agenda_of_ne ahead (by simp)
    by_cases same : n = k
    · subst same
      rw [if_pos rfl]
      exact {
        rising := before.rising
        joins := before.joins
        due := fun _ _ => .inl rfl
        ended := fun past => (before.ended past).imp id finishes
        dropped := before.dropped
        going := fun ahead => (before.going (List.mem_cons_of_mem _ ahead)).imp id finishes }
    · rw [if_neg same]
      exact before.moved (fun _ => id) .inl
        (fun ahead => .inr (State.mem_agenda_of_ne ahead (by simpa using Ne.symm same)))
        (fun ahead => .inr (finishes ahead)) (fun ahead => .inl (List.mem_cons_of_mem _ ahead))
  prompt := pre.prompt.tail

/-- The last child of a node leaves it: whoever waits for that is woken, and a node whose owner is
done leaves its own parent. -/
theorem clear (h : Tidy s) (kinship : Kinship s) (free : ∀ b ∈ s.agenda, b.ends = false)
    (listed : s.nodes.get? n = some m) :
    Tidy ((s.modifyNode n fun m => { m with children := [], joining := false }).doFirst
      ((if m.joining then [.wake (.task n)] else []) ++
        (if m.finished then [.detach n] else []))) where
  nodes k m' found := by
    obtain ⟨m₀, old, rfl⟩ := Store.get?_modify_eq_some.1 found
    have before := h.nodes k m₀ old
    have goes : .dissolve k ∈ ((if m.joining then [.wake (.task n)] else []) ++
        (if m.finished then [.detach n] else [])) ++ s.agenda → .dissolve k ∈ s.agenda :=
      fun ahead => (List.mem_append.1 ahead).resolve_left fun now => by
        rcases List.mem_append.1 now with now | now <;> split at now <;> simp at now
    by_cases same : n = k
    · subst same
      cases listed.symm.trans old
      rw [if_pos rfl]
      exact {
        rising := .nil
        joins := nofun
        due := fun finished _ => by
          have finished : m.finished = true := finished
          exact .inr (by simp [State.doFirst, finished])
        ended := fun past => (before.ended past).imp id (List.mem_append_right _)
        dropped := before.dropped
        going := fun ahead => (before.going (goes ahead)).imp id (List.mem_append_right _) }
    · rw [if_neg same]
      exact before.moved (fun _ => id) .inl (fun ahead => .inr (List.mem_append_right _ ahead))
        (fun ahead => .inr (List.mem_append_right _ ahead)) (fun ahead => .inl (goes ahead))
  prompt := by
    refine Prompt.append ?_ free
    by_cases joins : m.joining = true
    · simp [Prompt, Action.mild, joins, h.unfinished kinship listed joins]
    · rw [if_neg joins]
      split <;> simp [Prompt, Action.mild]

theorem spend (pre : Tidy (s.doFirst [.detach n]))
    (reaped : ∀ m, s.nodes.get? n = some m → m.reaped = true) : Tidy s where
  nodes k m found := by
    refine (pre.nodes k m found).moved (fun _ => id) .inl (fun ahead => ?_)
      (fun ahead => .inr (State.mem_agenda_of_ne ahead (by simp)))
      (fun ahead => .inl (List.mem_cons_of_mem _ ahead))
    by_cases same : k = n
    · exact .inl (reaped m (same ▸ found))
    · exact .inr (State.mem_agenda_of_ne ahead (by simpa using same))
  prompt := pre.prompt.tail

theorem panic {message : String} (pre : Tidy (s.doFirst [.complain message])) :
    Tidy { s with unwinding := some message
                  agenda := s.agenda.filterMap Action.afterPanic } where
  nodes k m found := by
    have past : ∀ b : Action, b.ends = true →
        b ∈ (s.doFirst [.complain message]).agenda → False := by
      intro b ends hb
      rcases List.mem_cons.1 hb with rfl | hb
      · cases ends
      · rw [pre.prompt.behind rfl b hb] at ends
        cases ends
    refine (pre.nodes k m found).moved (fun _ => id) .inl (fun ahead => (past _ rfl ahead).elim)
      (fun ahead => (past _ rfl ahead).elim) fun ahead => .inl ?_
    obtain ⟨b, hb, left⟩ := List.mem_filterMap.1 ahead
    rw [← Action.dissolve_of_afterPanic left]
    exact List.mem_cons_of_mem _ hb
  prompt := .of_free fun b hb => by
    obtain ⟨b', -, left⟩ := List.mem_filterMap.1 hb
    exact Kinship.ends_afterPanic left

theorem dissolve {g : TaskId} (pre : Tidy (s.doFirst [.dissolve g])) :
    Tidy { s with groups := s.groups.erase g } where
  nodes k m found := by
    have free := pre.prompt.behind rfl
    have h := pre.pop rfl
    refine (h.nodes k m found).moved (fun _ => id) (fun none => ?_) .inr .inr .inl
    by_cases same : k = g
    · subst same
      refine .inr (((pre.nodes k m found).going List.mem_cons_self).resolve_right fun ahead => ?_)
      have later := (List.mem_cons.1 ahead).resolve_left (by simp)
      cases free _ later
    · rw [Store.get?_erase, if_neg (Ne.symm same)] at none
      exact .inl none
  prompt := .of_free (pre.prompt.behind rfl)

theorem bury {t : TaskId} (tether : Tether (s.doFirst [.bury t]))
    (pre : Tidy (s.doFirst [.bury t])) : Tidy { s with tasks := s.tasks.erase t } where
  nodes k m found := by
    have h := pre.pop rfl
    refine (h.nodes k m found).moved (fun waits known => ?_) .inl .inr .inr .inl
    have other : t ≠ k := by
      rintro rfl
      cases ((tether.buried t List.mem_cons_self).joining m found).symm.trans waits
    rwa [Store.get?_erase, if_neg other]
  prompt := pre.prompt.tail

theorem effect (tether : Tether (s.doFirst [a])) (kinship : Kinship (s.doFirst [a]))
    (e : Effect s a s') (pre : Tidy (s.doFirst [a])) : Tidy s' := by
  -- what stays behind an item that is not mild
  have free : a.mild = false → ∀ b ∈ s.agenda, b.ends = false := pre.prompt.behind
  cases e with
  | @spent a why =>
    cases a with
    | finish n => cases why
    | detach n => exact pre.spend why
    | _ => exact pre.pop rfl
  | @cancel n node =>
    have h := pre.pop rfl
    have flagged : Tidy (s.modifyNode n fun m => { m with flagged := true }) :=
      h.modifyNode fun m _ old => { old with }
    refine flagged.keep rfl (fun _ => id) (fun _ => id) (fun b => List.mem_append_right _)
      (fun k ahead => .inl ((List.mem_append.1 ahead).resolve_left (by simp))) ?_
    exact h.prompt.prepend (by simp [Action.mild])
  | finish => exact pre.finish
  | orphan => exact pre.leave
  | @reap n p node above found attached parent listed more =>
    have left := pre.leave.modifyNode (n := p)
      (f := fun m => { m with children := above.children.filter (· ≠ n) }) fun m here old => by
        cases listed.symm.trans here
        exact { old with
          rising := old.rising.filter _
          joins := fun waits => ⟨more, (old.joins waits).2⟩
          due := fun _ none => absurd none more }
    exact left.same rfl (fun _ => id) rfl rfl
  | @reapLast n p node above found attached parent listed last =>
    have due := kinship.ripe _ List.mem_cons_self
    have cleared := pre.leave.clear ((kinship.pop (by simp)).reap due) (free rfl) listed
    exact cleared.same rfl (fun _ => id) rfl rfl
  | @resume t task suspended =>
    have next : Tidy (s.setPhase t .ready) :=
      (pre.pop rfl).rephase (fun _ => rfl) (fun _ _ => .inl) rfl
    exact next.enqueue (free rfl) _ _ _
  | @notify t running =>
    have next : Tidy (s.setPhase t .notified) :=
      (pre.pop rfl).rephase (fun _ => rfl) (fun _ _ => .inl) rfl
    exact next.quietly (free rfl) rfl (fun _ => id) (fun _ => id) rfl (by simp [Action.closes])
  | awake | inform | trip | announce | answer | dropAnswered | silence | discardTask
  | discardDrain =>
    exact (pre.pop rfl).quietly (free rfl) rfl (fun _ => id) (fun _ => id) rfl
      (by simp [Action.closes])
  | wakeWaiters | dropHandle =>
    exact (pre.pop rfl).quietly (free rfl) rfl (fun _ => State.known_modifyTask) (fun _ => id) rfl
      (by simp [Action.closes])
  | forget =>
    refine (pre.pop rfl).quietly (free rfl) rfl (fun _ => State.known_modifyTask) (fun _ => id) rfl
      fun b hb => ?_
    rcases List.mem_append.1 hb with hb | hb
    · obtain ⟨r, -, rfl⟩ := List.mem_map.1 hb
      rfl
    · rw [List.mem_singleton.1 hb]
      rfl
  | abandon =>
    refine (pre.pop rfl).quietly (free rfl) rfl (fun _ => id) (fun _ => id) rfl fun b hb => ?_
    obtain ⟨k, -, rfl⟩ := List.mem_map.1 hb
    rfl
  | reportFailure =>
    have h := pre.pop rfl
    exact h.keep rfl (fun _ => State.known_modifyTask) (fun _ => id) (fun _ => id) (fun _ => .inl)
      h.prompt
  | record | dropPending =>
    have h := pre.pop rfl
    exact h.same rfl (fun _ => id) rfl rfl
  | panic => exact pre.panic
  | dropGroup | dropUndrained =>
    have h := pre.pop rfl
    refine h.keep rfl (fun _ => id) (fun _ => id) (fun b => List.mem_append_right _)
      (fun k ahead => ?_) (.append (by simp [Prompt, Action.mild, Action.ends]) (free rfl))
    exact (List.mem_append.1 ahead).symm.imp id fun now => by
      simp_all [State.doFirst]
  | dissolve =>
    refine pre.dissolve.quietly (free rfl) rfl (fun _ => id) (fun _ => id) rfl fun b hb => ?_
    rcases List.mem_append.1 hb with hb | hb
    · obtain ⟨u, -, rfl⟩ := List.mem_map.1 hb
      rfl
    · rw [List.mem_singleton.1 hb]
      rfl
  | bury =>
    refine (pre.bury tether).quietly (free rfl) rfl (fun _ => id) (fun _ => id) rfl fun b hb => ?_
    obtain ⟨w, -, rfl⟩ := List.mem_map.1 hb
    exact w.closes_forget

/-! ### Lines -/

theorem grow (h : Tidy s) (numbered : s.nodes.Numbered TaskId.index)
    (known : ∀ p n, n ∈ s.children p → ∃ node, s.nodes.get? n = some node ∧ node.parent = some p)
    (idle : s.agenda = []) {kind : NodeKind} {priority : Priority} {parent : Option TaskId}
    {p : Phase} {nodes : Store TaskId Node} (grown : Grown s kind priority parent p nodes)
    (ongoing : p.isTerminal = false)
    (noted : kind = .group → s.groups.get? s.nextNode ≠ none) (trace : Array Event) :
    Tidy { s with nodes := nodes, trace := trace } := by
  have same : ∀ {k : TaskId} {m : Node}, m.Tidy s k →
      m.Tidy { s with nodes := nodes, trace := trace } k :=
    fun old => old.moved (fun _ => id) .inl .inr .inr .inl
  refine ⟨fun k m found => same ?_, h.prompt⟩
  rcases grown.origin numbered found with ⟨b, rfl, rfl⟩ | ⟨m₀, old, rfl⟩
  · exact {
      rising := .nil
      joins := nofun
      due := nofun
      ended := fun past => by
        cases ongoing.symm.trans past
      dropped := fun group none => absurd none (noted group)
      going := fun ahead => by simp [idle] at ahead }
  · have before := h.nodes k m₀ old
    split
    · exact { before with
        rising := by
          refine List.pairwise_append.2 ⟨before.rising, List.pairwise_singleton _ _, ?_⟩
          intro c hc d hd
          rw [List.mem_singleton.1 hd]
          obtain ⟨node, listed, -⟩ := known k c (by rwa [State.children_of_get? old])
          exact numbered c node listed
        joins := fun waits => ⟨by simp, (before.joins waits).2⟩
        due := fun _ none => by simp at none }
    · rwa [List.append_nil]

theorem post (h : Tidy s) (free : ∀ b ∈ s.agenda, b.ends = false) (a : ActorId)
    (home : RuntimeId) (message : Message) : Tidy (s.post a home message) := by
  unfold State.post
  split
  · exact h
  · have left : ∀ f, Tidy (s.modifyActor a f) := fun f =>
      h.same rfl (fun _ => id) rfl rfl
    dsimp only
    split
    · exact left _
    · exact (left _).enqueue free _ _ _

theorem change (formed : Formed s) (kinship : Kinship s) (hc : Change c s hand s' hand')
    (h : Tidy s) : Tidy s' := by
  have free : s.agenda = [] → ∀ b ∈ s.agenda, b.ends = false := fun idle b hb => by
    simp [idle] at hb
  cases hc with
  | tell | shed | nameTask | adopt | share | actor | refuse | learn | state =>
    exact h.same rfl (fun _ => id) rfl rfl
  | register | take =>
    exact h.keep rfl (fun _ => State.known_modifyTask) (fun _ => id) (fun _ => id) (fun _ => .inl)
      h.prompt
  | draw | fail =>
    exact h.keep rfl (fun _ => id) (fun _ none => Store.get?_modify_eq_none.1 none) (fun _ => id)
      (fun _ => .inl) h.prompt
  | @spawn home parent priority body idle =>
    obtain ⟨nodes, trace, grown, eq⟩ :=
      State.launch_addNode_eq formed.nodes priority parent home body false
    rw [eq]
    have grew := h.grow formed.nodes kinship.listed idle grown rfl (by simp) trace
    refine enqueue ?_ (by exact free idle) _ _ _
    exact grew.same rfl (fun _ => Store.get?_set_ne_none) rfl rfl
  | @group home idle here =>
    obtain ⟨nodes, trace, priority, grown, eq⟩ := State.makeGroup_eq formed.nodes c home
    -- the group is noted before its node is made
    have groups : ∀ g, (s.groups.set s.nextNode { home := home }).get? g = none →
        s.groups.get? g = none := fun g none => by
      by_contra known
      exact Store.get?_set_ne_none known none
    have noted : Tidy { s with
        groups := s.groups.set s.nextNode { home := home }
        signals := s.signals.set s.nextNode {} } :=
      h.keep rfl (fun _ => id) groups (fun _ => id) (fun _ => .inl) h.prompt
    rw [eq]
    exact noted.grow formed.nodes kinship.listed idle
      ⟨grown.new, grown.old, grown.numbered, grown.inherits⟩ rfl
      (fun _ none => by cases Store.get?_set_self.symm.trans none) trace
  | @add g group priority body idle mine found =>
    obtain ⟨nodes, trace, p, grown, eq⟩ :=
      State.addChild_eq formed.nodes formed.fresh_task g group priority body
    rw [eq]
    have grew := h.grow formed.nodes kinship.listed idle grown rfl (by simp) trace
    refine enqueue ?_ (by exact free idle) _ _ _
    exact grew.keep rfl (fun _ => Store.get?_set_ne_none)
      (fun _ none => Store.get?_modify_eq_none.1 none) (fun _ => id) (fun _ => .inl) grew.prompt
  | call handler idle =>
    refine post ?_ (by exact free idle) _ _ _
    exact h.same rfl (fun _ => id) rfl rfl
  | send handler idle => exact h.post (free idle) _ _ _
  | expect idle | listen idle =>
    exact h.quietly (free idle) rfl (fun _ => id) (fun _ => id) rfl (by simp [Action.closes])
  | @park t name =>
    have named : ∀ parked, Tidy { s with parked := parked } := fun _ =>
      h.same rfl (fun _ => id) rfl rfl
    exact (named _).doLast (by simp [Action.closes])
  | record | release | cancel | wake => exact h.doLast (by simp [Action.closes])

theorem changes (formed : Formed s) (work : Kinship.AtWork c s) (kinship : Kinship s)
    (hc : Changes c s hand s' hand') (h : Tidy s) : Tidy s' := by
  have := hc.invariant (I := fun s _ => Formed s ∧ Kinship.AtWork c s ∧ Kinship s ∧ Tidy s)
    (fun hc h => ⟨h.1.change hc, Kinship.atWork_keeps h.2.1 (.change h.1 hc),
      h.2.2.1.change h.1 h.2.1 hc, h.2.2.2.change h.1 h.2.2.1 hc⟩) ⟨formed, work, kinship, h⟩
  exact this.2.2.2

/-! ### Work and moves -/

theorem work (formed : Formed s) (dispatch : Dispatch s) (kinship : Kinship s)
    (idle : s.agenda = []) {home : RuntimeId} (w : Work s home s') (h : Tidy s) : Tidy s' := by
  have free : ∀ b ∈ s.agenda, b.ends = false := fun b hb => by simp [idle] at hb
  have body : ∀ {t : TaskId} {task : Task} {f : Fiber} {s₁ : State} {hand : List Resource},
      s.Runs home t task f → Changes ⟨.task t, some home⟩ s f.resources s₁ hand → Tidy s₁ :=
    fun runs hc => h.changes formed (Kinship.atWork_of_runs formed dispatch runs) kinship hc
  have handler : ∀ {a : ActorId} {s₁ : State} {hand hand' : List Resource},
      Changes ⟨.actor a, some home⟩ s hand s₁ hand' → Tidy s₁ :=
    fun hc => h.changes formed (fun u me => by cases me) kinship hc
  -- a task that begins to wait for its children has some
  have waiting : ∀ {t : TaskId} {stage : Stage} {joining : Node → Bool},
      s.slice home = some (.task t stage) → s.Waits t stage joining → ∀ m,
        s.nodes.get? t = some m → joining m = true → m.joining = true ∨
          m.children ≠ [] ∧ m.kind = .task ∧ s.tasks.get? t ≠ none := by
    intro t stage joining during why m found now
    rcases why with ⟨-, rfl⟩ | ⟨-, busy, -⟩
    · exact .inl now
    · obtain ⟨task, known⟩ := dispatch.known _ _ _ during
      have kind := formed.tasks t task known
      rw [State.kind?, found, Option.map_some] at kind
      exact .inr ⟨by rwa [State.children_of_get? found] at busy, Option.some.inj kind,
        by simp [known]⟩
  cases w with
  | stop | lost | receive | drained | beginDrain | markerStop | markerSkip =>
    exact h.same rfl (fun _ => id) rfl rfl
  | next runs _ changes | suspend runs _ changes | pause later runs _ changes =>
    exact (body runs changes).same rfl (fun _ => State.known_modifyTask) rfl rfl
  | ends told runs changes =>
    have left := body runs changes
    refine doLast ?_ fun b hb => ?_
    · exact left.same rfl (fun _ => State.known_modifyTask) rfl rfl
    · rcases List.mem_append.1 hb with hb | hb
      · obtain ⟨e, -, rfl⟩ := List.mem_map.1 hb
        rfl
      · obtain ⟨r, -, rfl⟩ := List.mem_map.1 hb
        rfl
  | @rest t stage joining during why running =>
    have rested := h.rephase (n := t)
      (f := fun m => { m with joining := joining m, phase := .suspended }) (fun _ => rfl)
      (waiting during why) rfl
    exact rested.quietly free rfl (fun _ => id) (fun _ => id) rfl (by simp [Action.closes])
  | @again t task stage joining during why =>
    have back := h.rephase (n := t)
      (f := fun m => { m with joining := joining m, phase := .ready }) (fun _ => rfl)
      (waiting during why) rfl
    have behind : ∀ b ∈ Action.forget t :: s.agenda, b.ends = false :=
      List.forall_mem_cons.2 ⟨rfl, free⟩
    refine enqueue ?_ (by exact behind) _ _ _
    exact back.quietly free rfl (fun _ => id) (fun _ => id) rfl (by simp [Action.closes])
  | forgotten during why missing =>
    obtain ⟨task, found⟩ := dispatch.known _ _ _ during
    exact absurd (missing.symm.trans found) (by simp)
  | endBody =>
    exact h.quietly free rfl (fun _ => State.known_modifyTask) (fun _ => id) rfl
      (by simp [Action.closes])
  | @complete t stage p trace during past alone ended =>
    refine ⟨fun k m' found => ?_, Prompt.append (by simp [Prompt, Action.mild, Action.ends]) free⟩
    obtain ⟨m, old, rfl⟩ := Store.get?_modify_eq_some.1 found
    have before := h.nodes k m old
    have nothing : ∀ {b : Action}, b ∉ s.agenda := fun ahead => by simp [idle] at ahead
    by_cases here : t = k
    · subst here
      rw [if_pos rfl]
      exact {
        rising := before.rising
        joins := fun waits => by cases waits
        due := fun finished alone => .inl ((before.due finished alone).resolve_right nothing)
        ended := fun _ => .inr List.mem_cons_self
        dropped := before.dropped
        going := fun _ => .inr List.mem_cons_self }
    · rw [if_neg here]
      refine before.moved (fun _ => id) .inl (fun ahead => (nothing ahead).elim)
        (fun ahead => (nothing ahead).elim) fun ahead => .inl ?_
      exact (List.mem_append.1 ahead).resolve_left (by simp)
  | leave | refuse =>
    exact h.quietly free rfl (fun _ => id) (fun _ => id) rfl (by simp [Action.closes])
  | drainAgain =>
    refine enqueue ?_ (by exact free) _ _ _
    exact h.same rfl (fun _ => id) rfl rfl
  | handle during changes | hold later during changes =>
    exact (handler changes).same rfl (fun _ => id) rfl rfl
  | handled result during changes =>
    have left := handler changes
    refine doLast ?_ fun b hb => ?_
    · exact left.same rfl (fun _ => id) rfl rfl
    · obtain ⟨r, -, rfl⟩ := List.mem_map.1 hb
      rfl
  | reply =>
    exact h.quietly free rfl (fun _ => id) (fun _ => id) rfl (by simp [Action.closes])
  | @begin t =>
    have begun := h.rephase (n := t) (f := fun m => { m with phase := .running }) (fun _ => rfl)
      (fun _ _ => .inl) rfl
    exact begun.same rfl (fun _ => id) rfl rfl
  | @markerAgain serial queue band goal =>
    have popped : Tidy (s.popped home queue) := h.same rfl (fun _ => id) rfl rfl
    exact (popped.enqueue free home band (.marker serial)).same rfl (fun _ => id) rfl rfl

theorem start (h : Tidy s) (r : RuntimeId) (goal : Goal) : Tidy (s.start r goal) := by
  obtain ⟨trace, eq⟩ := s.start_eq r goal
  rw [eq]
  exact h.same rfl (fun _ => id) rfl rfl

theorem move (formed : Formed s) (kinship : Kinship s) (idle : s.agenda = []) {d d' : Desk}
    (m : Move s d s' d') (h : Tidy s) : Tidy s' := by
  have free : ∀ b ∈ s.agenda, b.ends = false := fun b hb => by simp [idle] at hb
  cases m with
  | build place batch stem =>
    rcases s.build_cases place batch stem with same | ⟨-, settings, built⟩
    · rwa [same]
    · rw [built]
      exact h.same rfl (fun _ => id) rfl rfl
  | start | block | join => exact h.start _ _
  | startRounds _ rounds band =>
    have marked : Tidy { s with markers := s.markers + 1 } := h.same rfl (fun _ => id) rfl rfl
    exact (marked.enqueue free _ _ _).start _ _
  | @launchRoot _ r _ body =>
    obtain ⟨nodes, trace, grown, eq⟩ :=
      State.launch_addNode_eq formed.nodes .normal none r body true
    rw [State.launchRoot, eq]
    have grew := h.grow formed.nodes kinship.listed idle grown rfl (by simp) trace
    refine enqueue ?_ (by exact free) _ _ _
    exact grew.same rfl (fun _ => Store.get?_set_ne_none) rfl rfl
  | leaveRoot =>
    exact h.quietly free rfl (fun _ => State.known_modifyTask) (fun _ => id) rfl
      (by simp [Action.closes])
  | close => exact h.quietly free rfl (fun _ => id) (fun _ => id) rfl (by simp [Action.closes])
  | line plain =>
    exact h.changes formed (fun u me => by cases me) kinship (State.plain?_fits idle plain)
  | @shelve f =>
    exact h.changes (c := { who := .main }) formed (fun u me => by cases me) kinship
      (State.shelve_changes f s [])

end Tidy

/-- **Every reachable state is tidy.** -/
theorem Reachable.tidy {d : Desk} (h : Reachable s d) : Tidy s := by
  induction h with
  | init => exact .init
  | @next s s' d d' before t ih =>
    have sound := before.sound
    cases t with
    | step =>
      have next := State.step_cases sound.wakeful.waitsOnOwn
      generalize s.step = s' at next
      cases next with
      | item first e =>
        subst first
        exact ih.effect sound.tether sound.kinship e
      | work idle _ w => exact ih.work sound.formed sound.dispatch sound.kinship idle w
      | rest => exact ih
    | stray idle =>
      exact ih.quietly (fun b hb => by simp [idle] at hb) rfl (fun _ => id) (fun _ => id) rfl
        (by simp [Action.closes])
    | move rests m => exact ih.move sound.formed sound.kinship (State.idle_of_resting rests) m

end Nursery
