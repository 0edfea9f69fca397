import Nursery.Proofs.Group.Line

/-!
# What is collected

The owner of a group collects the children in the order of the list, and each of them comes to
something: a value, the failure of the group, or nothing at all.  What that is depends on the
outcome of the child and on whether a failure was reported before.

* `Taking`, `Taking.result?` : a child that is collected, and what it comes to.
* `Draws` : one child is collected; `collect_draws`, what the code does is that.
* `Rolls.draws` : it goes from the list to those that were collected.
* `Collects` : some children are collected one after the other.
* `nextAmong_collects`, `allAmong_collects` : what a look at a group collects.
-/

namespace Nursery

/-- A child that is collected. -/
structure Taking where
  /-- Its place in the group. -/
  place : Nat
  /-- The child. -/
  child : TaskId
  /-- How it ended. -/
  outcome : Except TaskError Int64

namespace Taking

/-- The value of the child. -/
def value? (x : Taking) : Option Int64 :=
  match x.outcome with
  | .ok value => some value
  | .error _ => none

/-- The failure of the child; to be cancelled is none. -/
def failure? (x : Taking) : Option GroupError :=
  match x.outcome with
  | .ok _ => none
  | .error e => if e.isCancelled then none else some ⟨x.child, e⟩

/-- What the child comes to, in a group that has reported a failure or not. -/
def result? (failed : Bool) (x : Taking) : Option (Except GroupError Int64) :=
  match x.value?, x.failure? with
  | some value, _ => some (.ok value)
  | none, some e => if failed then none else some (.error e)
  | none, none => none

/-- What the log keeps of the child. -/
def suppressed (g : TaskId) (failed : Bool) (x : Taking) : List Loss :=
  if failed then x.failure?.toList.map fun e => .suppressed g e.child e.source else []

/-- One of some children failed. -/
def anyFailed (xs : List Taking) : Bool :=
  xs.any fun x => x.failure?.isSome

/-- What children come to that are collected one after the other, in a group that has reported a
failure or not. -/
def results : Bool → List Taking → List (Except GroupError Int64)
  | _, [] => []
  | failed, x :: xs => (x.result? failed).toList ++ results (failed || x.failure?.isSome) xs

/-- What the log keeps of them. -/
def losses (g : TaskId) : Bool → List Taking → List Loss
  | _, [] => []
  | failed, x :: xs => x.suppressed g failed ++ losses g (failed || x.failure?.isSome) xs

end Taking

/-- A child at the front of the list of a group is collected. -/
structure Draws (g : TaskId) (group : Group) (x : Taking) (s s' : State) : Prop where
  /-- The group is known. -/
  found : s.groups.get? g = some group
  /-- The child is at its place. -/
  child : group.children[x.place]? = some x.child
  /-- It has ended as its outcome says. -/
  final : s.phase x.child = State.finalPhase (some x.outcome)
  /-- Its outcome is there. -/
  outcome : s.outcome? x.child = some x.outcome
  /-- It was at the front of the list. -/
  ready : s.completed g = x.place :: s'.completed g
  /-- The other lists stay as they are, and so do the other groups. -/
  others : ∀ h, h ≠ g → s'.completed h = s.completed h ∧ s'.groups.get? h = s.groups.get? h
  /-- The same groups have a list. -/
  signals : ∀ h, (s'.signals.get? h).isSome = (s.signals.get? h).isSome
  /-- No node changes. -/
  nodes : s'.nodes = s.nodes
  /-- The outcome was taken. -/
  tasks : s'.tasks = s.tasks.modify x.child fun m => { m with outcome := none }
  /-- One child less is outstanding, and a failure is known. -/
  collected : s'.groups.get? g = some { group with
    remaining := group.remaining - 1
    failed := group.failed || x.failure?.isSome }
  /-- Nothing more is to be done. -/
  agenda : s'.agenda = s.agenda
  /-- A failure that comes too late is logged. -/
  logged : losses s'.trace = losses s.trace ++ x.suppressed g group.failed

/-- Some children of a group are collected one after the other. -/
inductive Collects (g : TaskId) : State → List Taking → List (Except GroupError Int64) → State →
    Prop where
  /-- Nobody. -/
  | nil {s : State} : Collects g s [] [] s
  /-- One child, and then the others. -/
  | cons {s s₁ s' : State} {group : Group} {x : Taking} {xs : List Taking}
      {rs : List (Except GroupError Int64)} (first : Draws g group x s s₁)
      (rest : Collects g s₁ xs rs s') :
      Collects g s (x :: xs) ((x.result? group.failed).toList ++ rs) s'

variable {s s' s₁ : State} {g : TaskId} {group : Group} {x : Taking} {xs : List Taking}
  {rs : List (Except GroupError Int64)} {E C : TaskId → List Nat}

/-! ### What children come to -/

/-- A failure that a group does not report, as the log keeps it. -/
def GroupError.suppressed (g : TaskId) (e : GroupError) : Loss :=
  .suppressed g e.child e.source

/-- The failure that a result reports. -/
def errorOf : Except GroupError Int64 → Option GroupError
  | .ok _ => none
  | .error e => some e

/-- How many of the next failures are reported: the first one, or none any more. -/
def toReport (failed : Bool) : Nat :=
  if failed then 0 else 1

namespace Taking

theorem anyFailed_cons (x : Taking) (xs : List Taking) :
    anyFailed (x :: xs) = (x.failure?.isSome || anyFailed xs) :=
  List.any_cons

theorem anyFailed_append (xs ys : List Taking) :
    anyFailed (xs ++ ys) = (anyFailed xs || anyFailed ys) := by
  simp [anyFailed]

theorem results_append (xs ys : List Taking) : ∀ failed : Bool,
    results failed (xs ++ ys) = results failed xs ++ results (failed || anyFailed xs) ys := by
  induction xs with
  | nil => intro failed; simp [results, anyFailed]
  | cons x xs ih =>
    intro failed
    rw [List.cons_append, results, results, ih, List.append_assoc, anyFailed_cons,
      Bool.or_assoc]

theorem losses_append (g : TaskId) (xs ys : List Taking) : ∀ failed : Bool,
    losses g failed (xs ++ ys) = losses g failed xs ++ losses g (failed || anyFailed xs) ys := by
  induction xs with
  | nil => intro failed; simp [losses, anyFailed]
  | cons x xs ih =>
    intro failed
    rw [List.cons_append, losses, losses, ih, List.append_assoc, anyFailed_cons,
      Bool.or_assoc]

theorem value?_of_failure? {x : Taking} {e : GroupError} (failure : x.failure? = some e) :
    x.value? = none := by
  cases how : x.outcome with
  | ok value => simp [failure?, how] at failure
  | error e => simp [value?, how]

/-- **Every value is handed on**, once and in the order of the ends. -/
theorem values_results (xs : List Taking) : ∀ failed : Bool,
    (results failed xs).filterMap Except.toOption = xs.filterMap value? := by
  induction xs with
  | nil => exact fun _ => rfl
  | cons x xs ih =>
    intro failed
    rw [results, List.filterMap_append, ih, List.filterMap_cons]
    cases value : x.value? with
    | some value => simp [result?, value, Except.toOption]
    | none =>
      cases failure : x.failure? with
      | none => simp [result?, value, failure]
      | some e => cases failed <;> simp [result?, value, failure, Except.toOption]

/-- **One failure is reported**: the first one, unless one was reported before. -/
theorem errors_results (xs : List Taking) : ∀ failed : Bool,
    (results failed xs).filterMap errorOf = (xs.filterMap failure?).take (toReport failed) := by
  induction xs with
  | nil => intro failed; simp [results]
  | cons x xs ih =>
    intro failed
    rw [results, List.filterMap_append, ih, List.filterMap_cons]
    cases failure : x.failure? with
    | none =>
      have none_reported : (x.result? failed).toList.filterMap errorOf = [] := by
        cases value : x.value? <;> simp [result?, value, failure, errorOf]
      simp [none_reported]
    | some e =>
      cases failed <;> simp [result?, value?_of_failure? failure, failure, errorOf, toReport]

/-- **Every other failure is logged.** -/
theorem losses_eq (g : TaskId) (xs : List Taking) : ∀ failed : Bool, losses g failed xs =
    ((xs.filterMap failure?).drop (toReport failed)).map (GroupError.suppressed g) := by
  induction xs with
  | nil => intro failed; simp [losses]
  | cons x xs ih =>
    intro failed
    rw [losses, ih, List.filterMap_cons]
    cases failure : x.failure? with
    | none => simp [suppressed, failure]
    | some e => cases failed <;> simp [suppressed, failure, toReport, GroupError.suppressed]

end Taking

/-- What the code does with the child at the front of the list. -/
theorem State.collect_draws {rest : List Nat} (found : s.groups.get? g = some group)
    (child : group.children[x.place]? = some x.child)
    (final : s.phase x.child = State.finalPhase (some x.outcome))
    (outcome : s.outcome? x.child = some x.outcome) (ready : s.completed g = x.place :: rest) :
    Draws g group x s
        ((s.modifySignal g fun m => { m with completed := rest }).collect g x.place).1 ∧
      ((s.modifySignal g fun m => { m with completed := rest }).collect g x.place).2 =
        x.result? group.failed := by
  have signal : ∃ m, s.signals.get? g = some m := by
    cases known : s.signals.get? g with
    | none => simp [State.completed, known] at ready
    | some m => exact ⟨m, rfl⟩
  obtain ⟨m, known⟩ := signal
  have draws : ∀ {s' : State},
      s'.signals = s.signals.modify g (fun m => { m with completed := rest }) →
      s'.nodes = s.nodes → s'.tasks = s.tasks.modify x.child (fun m => { m with outcome := none }) →
      s'.groups.get? g = some { group with
        remaining := group.remaining - 1, failed := group.failed || x.failure?.isSome } →
      (∀ h, h ≠ g → s'.groups.get? h = s.groups.get? h) → s'.agenda = s.agenda →
      losses s'.trace = losses s.trace ++ x.suppressed g group.failed →
      Draws g group x s s' := by
    intro s' signals nodes tasks collected others agenda logged
    refine ⟨found, child, final, outcome, ?_, fun h hh => ⟨?_, others h hh⟩, fun h => ?_, nodes,
      tasks, collected, agenda, logged⟩
    · rw [ready, State.completed, signals]
      simp [Store.get?_modify_self, known]
    · rw [State.completed, State.completed, signals, Store.get?_modify_of_ne (Ne.symm hh)]
    · rw [signals, Store.get?_modify]
      split <;> simp
  have there :
      (s.modifySignal g fun m => { m with completed := rest }).groups.get? g = some group :=
    found
  unfold State.collect
  simp only [there, child]
  -- what has been done before the outcome is looked at
  generalize counted : ((s.modifySignal g fun m => { m with completed := rest }).modifyGroup g
    fun m => { m with remaining := m.remaining - 1 }) = s₁
  have ended : (s₁.phase x.child).isTerminal = true := by
    rw [← counted]
    exact (congrArg Phase.isTerminal final).trans (State.isTerminal_finalPhase _)
  have taken : s₁.takeOutcome x.child =
      (s₁.modifyTask x.child fun m => { m with outcome := none }, some x.outcome) := by
    refine Prod.ext rfl ?_
    rw [← counted]
    exact outcome
  have mine : s₁.groups.get? g = some { group with remaining := group.remaining - 1 } := by
    rw [← counted]
    simp [State.modifyGroup, State.modifySignal, Store.get?_modify_self, found]
  have theirs : ∀ h, h ≠ g → s₁.groups.get? h = s.groups.get? h := by
    intro h hh
    rw [← counted]
    exact Store.get?_modify_of_ne (Ne.symm hh)
  rw [if_pos ended, taken]
  subst counted
  cases how : x.outcome with
  | ok value =>
    have fine : x.failure? = none := by simp [Taking.failure?, how]
    refine ⟨draws rfl rfl rfl ?_ theirs rfl ?_, by simp [Taking.result?, Taking.value?, how]⟩
    · rw [fine, Option.isSome_none, Bool.or_false]
      exact mine
    · simp [Taking.suppressed, fine]
      rfl
  | error e =>
    dsimp only
    cases stopped : e.isCancelled with
    | true =>
      have fine : x.failure? = none := by simp [Taking.failure?, how, stopped]
      rw [if_pos rfl]
      refine ⟨draws rfl rfl rfl ?_ theirs rfl ?_,
        by simp [Taking.result?, Taking.value?, how, fine]⟩
      · rw [fine, Option.isSome_none, Bool.or_false]
        exact mine
      · simp [Taking.suppressed, fine]
        rfl
    | false =>
      have fails : x.failure? = some ⟨x.child, e⟩ := by simp [Taking.failure?, how, stopped]
      rw [if_neg Bool.false_ne_true]
      cases late : group.failed with
      | true =>
        rw [if_pos rfl]
        refine ⟨draws rfl rfl rfl ?_ theirs rfl ?_,
          by simp [Taking.result?, Taking.value?, how, fails]⟩
        · rw [late, Bool.true_or, ← late]
          exact mine
        · rw [State.log, State.tell, losses_push]
          simp [Taking.suppressed, fails, late, Event.loss?]
          rfl
      | false =>
        rw [if_neg Bool.false_ne_true]
        refine ⟨draws rfl rfl rfl ?_ (fun h hh => ?_) rfl ?_,
          by simp [Taking.result?, Taking.value?, how, fails]⟩
        · refine Store.get?_modify_eq_some.2 ⟨_, mine, ?_⟩
          rw [if_pos rfl, fails]
          simp
        · exact (Store.get?_modify_of_ne (Ne.symm hh)).trans (theirs h hh)
        · simp [Taking.suppressed, late]
          rfl

/-! ### The rolls -/

/-- Every child is in one group, and there once. -/
structure State.Parted (s : State) : Prop where
  /-- No child is in a group twice. -/
  nodup : ∀ g group, s.groups.get? g = some group → group.children.Nodup
  /-- No child is in two groups. -/
  one : ∀ g h group group' t, s.groups.get? g = some group → s.groups.get? h = some group' →
    t ∈ group.children → t ∈ group'.children → g = h

theorem Sound.parted {d : Desk} (sound : Sound s d) : s.Parted where
  nodup _ _ found := sound.own.nodup_children sound.formed.distinctGroups found
  one _ _ _ _ _ found found' child child' :=
    sound.own.one_group sound.formed.distinctGroups found found' child child'

/-- A group knows of as many children outstanding as are listed, at least. -/
theorem Roll.outstanding {ended gone : List Nat} (roll : Roll s g group ended gone) :
    (s.completed g).length + (s.announcing g).length ≤ group.remaining := by
  have few : ended.length ≤ group.children.length := by
    have sub : ended.Subperm (List.range group.children.length) :=
      List.subperm_of_subset roll.once fun i hi => List.mem_range.2 (roll.range i hi)
    simpa using sub.length_le
  have count := roll.count
  rw [roll.order, List.length_append, List.length_append] at few
  omega

namespace Draws

theorem children (draws : Draws g group x s s') {h : TaskId} {m' : Group}
    (found : s'.groups.get? h = some m') :
    ∃ m, s.groups.get? h = some m ∧ m'.children = m.children := by
  by_cases mine : h = g
  · subst mine
    cases draws.collected.symm.trans found
    exact ⟨group, draws.found, rfl⟩
  · exact ⟨m', by rwa [(draws.others h mine).2] at found, rfl⟩

theorem parted (draws : Draws g group x s s') (parted : s.Parted) : s'.Parted where
  nodup h m' found := by
    obtain ⟨m, known, same⟩ := draws.children found
    rw [same]
    exact parted.nodup h m known
  one h k m' n' t found found' child child' := by
    obtain ⟨m, known, same⟩ := draws.children found
    obtain ⟨n, known', same'⟩ := draws.children found'
    rw [same] at child
    rw [same'] at child'
    exact parted.one h k m n t known known' child child'

theorem phase (draws : Draws g group x s s') (t : TaskId) : s'.phase t = s.phase t := by
  rw [State.phase, State.phase, draws.nodes]

theorem notices (draws : Draws g group x s s') (t : TaskId) : s'.notices t = s.notices t := by
  rw [State.notices, State.notices, draws.tasks, Store.map_get?_modify_same]
  exact fun _ => rfl

theorem outcome_of_ne (draws : Draws g group x s s') {t : TaskId} (other : t ≠ x.child) :
    s'.outcome? t = s.outcome? t := by
  refine State.outcome?_of_get? ?_
  rw [draws.tasks, Store.get?_modify_of_ne (Ne.symm other)]

theorem announcing (draws : Draws g group x s s') (h : TaskId) :
    s'.announcing h = s.announcing h := by
  rw [State.announcing, State.announcing, draws.agenda, funext draws.notices]

end Draws

namespace Rolls

theorem front (rolls : Rolls s E C) (found : s.groups.get? g = some group) {i : Nat}
    {rest : List Nat} (ready : s.completed g = i :: rest) :
    ∃ x : Taking, x.place = i ∧ group.children[i]? = some x.child ∧
      s.phase x.child = State.finalPhase (some x.outcome) ∧
        s.outcome? x.child = some x.outcome := by
  have roll := rolls.roll g group found
  have listed : i ∈ E g := by
    rw [roll.order, ready]
    simp
  have inside := roll.range i listed
  have child : group.children[i]? = some group.children[i] := List.getElem?_eq_getElem inside
  have ended := (roll.mem i _ child).1 listed
  have waiting : i ∉ C g := by
    have once := roll.once
    rw [roll.order, ready, List.append_assoc] at once
    exact fun before => (List.nodup_append.1 once).2.2 i before i (by simp) rfl
  obtain ⟨outcome, there, final⟩ := roll.left i _ child ended waiting
  exact ⟨⟨i, group.children[i], outcome⟩, rfl, child, final, there⟩

/-- **Whoever is collected leaves the list**, and comes behind those that were collected before. -/
theorem draws {D : TaskId → List Nat} (rolls : Rolls s E C) (parted : s.Parted)
    (draws : Draws g group x s s') (mine : D g = C g ++ [x.place])
    (others : ∀ h, h ≠ g → D h = C h) : Rolls s' E D := by
  have child := List.mem_of_getElem? draws.child
  refine ⟨fun h m' found => ?_, fun h unmade => ?_, fun u n hn => ?_⟩
  · -- the group that has collected, and the others
    by_cases hg : h = g
    · subst hg
      have roll := rolls.roll h group draws.found
      have few := roll.outstanding
      cases draws.collected.symm.trans found
      rw [mine]
      exact {
        order := by
          rw [roll.order, draws.ready, draws.announcing]
          simp
        once := roll.once
        range := roll.range
        mem := fun i t place => by
          rw [draws.phase]
          exact roll.mem i t place
        count := by
          have count := roll.count
          rw [draws.ready, List.length_cons] at few
          simp only [List.length_append, List.length_singleton]
          omega
        left := fun i t place ended waiting => by
          rw [draws.phase] at ended ⊢
          rw [List.mem_append, List.mem_singleton, not_or] at waiting
          have other : t ≠ x.child := by
            rintro rfl
            have inside := (List.getElem?_eq_some_iff.1 place).1
            exact waiting.2 ((List.getElem?_inj inside (parted.nodup h group draws.found)).1
              (place.trans draws.child.symm))
          rw [draws.outcome_of_ne other]
          exact roll.left i t place ended waiting.1
        waits := fun i t place ongoing => by
          rw [draws.phase] at ongoing
          rw [draws.notices]
          exact roll.waits i t place ongoing
        told := fun u n hn => by
          rw [draws.notices] at hn
          exact roll.told u n hn
        signal := by rw [draws.signals, roll.signal] }
    · rw [others h hg]
      rw [(draws.others h hg).2] at found
      refine (rolls.roll h m' found).keep ?_ (draws.signals h) (fun t _ => by rw [draws.phase])
        (fun t child' _ => ⟨draws.phase t, draws.outcome_of_ne ?_⟩) (fun t _ _ => draws.notices t)
        fun u n hn _ => by rwa [draws.notices] at hn
      · rw [(draws.others h hg).1, draws.announcing]
      · rintro rfl
        exact hg (parted.one h g m' group _ found draws.found child' child)
  · rw [draws.nodes] at unmade
    obtain ⟨none_ended, none_gone, unlisted⟩ := rolls.fresh h unmade
    have same := draws.signals h
    rw [unlisted, Option.isSome_none, Option.isSome_eq_false_iff, Option.isNone_iff_eq_none] at same
    have apart : h ≠ g := by
      rintro rfl
      have there := (rolls.roll h group draws.found).signal
      rw [unlisted] at there
      cases there
    exact ⟨none_ended, by rw [others h apart, none_gone], same⟩
  · rw [draws.notices] at hn
    rw [draws.nodes]
    exact rolls.known u n hn

end Rolls

/-! ### One child after the other -/

namespace Collects

theorem completed (c : Collects g s xs rs s') :
    s.completed g = xs.map Taking.place ++ s'.completed g := by
  induction c with
  | nil => rfl
  | cons first _ ih => rw [first.ready, ih, List.map_cons, List.cons_append]

theorem completed_of_ne (c : Collects g s xs rs s') {h : TaskId} (other : h ≠ g) :
    s'.completed h = s.completed h := by
  induction c with
  | nil => rfl
  | cons first _ ih => rw [ih, (first.others h other).1]

theorem groups_of_ne (c : Collects g s xs rs s') {h : TaskId} (other : h ≠ g) :
    s'.groups.get? h = s.groups.get? h := by
  induction c with
  | nil => rfl
  | cons first _ ih => rw [ih, (first.others h other).2]

theorem nodes (c : Collects g s xs rs s') : s'.nodes = s.nodes := by
  induction c with
  | nil => rfl
  | cons first _ ih => rw [ih, first.nodes]

theorem agenda (c : Collects g s xs rs s') : s'.agenda = s.agenda := by
  induction c with
  | nil => rfl
  | cons first _ ih => rw [ih, first.agenda]

theorem children (c : Collects g s xs rs s') {h : TaskId} {m' : Group}
    (found : s'.groups.get? h = some m') :
    ∃ m, s.groups.get? h = some m ∧ m'.children = m.children := by
  induction c with
  | nil => exact ⟨m', found, rfl⟩
  | cons first _ ih =>
    obtain ⟨m₁, known, same⟩ := ih found
    obtain ⟨m, known', same'⟩ := first.children known
    exact ⟨m, known', same.trans same'⟩

theorem taken (c : Collects g s xs rs s') : ∀ x ∈ xs, (s.members g)[x.place]? = some x.child ∧
    s.phase x.child = State.finalPhase (some x.outcome) ∧
      s.outcome? x.child = some x.outcome := by
  induction c with
  | nil => simp
  | @cons s s₁ s' group x xs rs first _ ih =>
    rintro y hy
    rcases List.mem_cons.1 hy with rfl | later
    · rw [State.members_of_get? first.found]
      exact ⟨first.child, first.final, first.outcome⟩
    · obtain ⟨child, final, outcome⟩ := ih y later
      rw [State.members_of_get? first.collected] at child
      rw [State.members_of_get? first.found]
      refine ⟨child, by rwa [first.phase] at final, ?_⟩
      -- its outcome is still there afterwards, so it is not the one that was collected first
      have other : y.child ≠ x.child := by
        intro same
        rw [same, State.outcome?, first.tasks, Store.get?_modify_self] at outcome
        cases found : s.tasks.get? x.child <;> simp [found] at outcome
      rwa [first.outcome_of_ne other] at outcome

theorem rolls {D : TaskId → List Nat} (c : Collects g s xs rs s') (rolls : Rolls s E C)
    (parted : s.Parted) (mine : D g = C g ++ xs.map Taking.place)
    (others : ∀ h, h ≠ g → D h = C h) : Rolls s' E D := by
  induction c generalizing C with
  | nil =>
    have same : D = C := funext fun h => by
      by_cases hg : h = g
      · subst hg
        rw [mine, List.map_nil, List.append_nil]
      · exact others h hg
    rwa [same]
  | @cons s s₁ s' group x xs rs first _ ih =>
    refine ih (rolls.draws parted first (D := fun h => if h = g then C g ++ [x.place] else C h)
      (if_pos rfl) fun h hg => if_neg hg) (first.parted parted) ?_ fun h hg => ?_
    · rw [mine, if_pos rfl, List.map_cons, List.append_assoc, List.singleton_append]
    · rw [others h hg, if_neg hg]

/-- **Every child comes to what it should**, one after the other: a value, the first failure of the
group, or nothing but a line in the log. -/
theorem results (c : Collects g s xs rs s') (found : s.groups.get? g = some group) :
    rs = Taking.results group.failed xs ∧
      losses s'.trace = losses s.trace ++ Taking.losses g group.failed xs ∧
        ∃ group', s'.groups.get? g = some group' ∧
          group'.failed = (group.failed || Taking.anyFailed xs) := by
  induction c generalizing group with
  | nil => exact ⟨rfl, by simp [Taking.losses], group, found, by simp [Taking.anyFailed]⟩
  | @cons s s₁ s' before x xs rs first _ ih =>
    cases first.found.symm.trans found
    obtain ⟨results, logged, group', known, failed⟩ := ih first.collected
    refine ⟨?_, ?_, group', known, ?_⟩
    · rw [results, Taking.results]
    · rw [logged, first.logged, Taking.losses, List.append_assoc]
    · rw [failed, Taking.anyFailed_cons, ← Bool.or_assoc]

end Collects

/-! ### Looks at a group -/

/-- What waiting for all children comes to when all of them were collected. -/
def Tally.result (tally : Tally) : Except GroupError (List Int64) :=
  match tally.failure with
  | some e => .error e
  | none => .ok tally.values

/-- The results among the children at some places, as the owner collects them. -/
def State.resultsAmong (g : TaskId) : List Nat → State → List (Except GroupError Int64)
  | [], _ => []
  | index :: rest, s =>
    match (s.modifySignal g fun m => { m with completed := rest }).collect g index with
    | (s, some result) => result :: resultsAmong g rest s
    | (s, none) => resultsAmong g rest s

namespace State

/-- A look for the next result collects children up to the first one that comes to something. -/
theorem nextAmong_collects (poller : TaskId) (l : List Nat) : ∀ {s : State} {group : Group}
    {E C : TaskId → List Nat}, Rolls s E C → s.Parted → s.groups.get? g = some group →
    s.completed g = l → ∃ xs rs s₁, Collects g s xs rs s₁ ∧
      ((∃ r, rs = [r] ∧ nextAmong g poller l s = (s₁, .ready (some r))) ∨
        rs = [] ∧ s₁.completed g = [] ∧ nextAmong g poller l s =
          (s₁.awaitSignal g poller, if s₁.drained g then .ready none else .pending)) := by
  induction l with
  | nil => exact fun _ _ _ ready => ⟨[], [], _, .nil, .inr ⟨rfl, ready, rfl⟩⟩
  | cons i rest ih =>
    intro s group E C rolls parted found ready
    obtain ⟨x, rfl, child, final, outcome⟩ := rolls.front found ready
    obtain ⟨first, result⟩ := State.collect_draws found child final outcome ready
    rw [nextAmong]
    generalize (s.modifySignal g fun m => { m with completed := rest }).collect g x.place = p
      at first result ⊢
    obtain ⟨s₁, r⟩ := p
    dsimp only at first result
    subst result
    cases result : x.result? group.failed with
    | some r =>
      refine ⟨[x], [r], s₁, ?_, .inl ⟨r, rfl, rfl⟩⟩
      have one := Collects.cons first .nil
      rwa [result] at one
    | none =>
      have rolls₁ := rolls.draws parted first
        (D := fun h => if h = g then C g ++ [x.place] else C h) (if_pos rfl) fun h hg => if_neg hg
      have ready₁ : s₁.completed g = rest := by
        have tail := first.ready
        rw [ready] at tail
        exact (List.cons.inj tail).2.symm
      obtain ⟨xs, rs, s₂, more, how⟩ := ih rolls₁ (first.parted parted) first.collected ready₁
      refine ⟨x :: xs, rs, s₂, ?_, how⟩
      have all := Collects.cons first more
      rwa [result] at all

/-- A look for all results collects every child on the list. -/
theorem allAmong_collects (poller : TaskId) (l : List Nat) : ∀ {s : State} {group : Group}
    {E C : TaskId → List Nat} (tally : Tally), Rolls s E C → s.Parted →
    s.groups.get? g = some group → s.completed g = l → ∃ xs s₁,
      Collects g s xs (resultsAmong g l s) s₁ ∧ s₁.completed g = [] ∧
        allAmong g poller l tally s =
          (s₁.awaitSignal g poller, (resultsAmong g l s).foldl Tally.add tally,
            if s₁.drained g then .ready ((resultsAmong g l s).foldl Tally.add tally).result
            else .pending) := by
  induction l with
  | nil => exact fun _ _ _ _ ready => ⟨[], _, .nil, ready, rfl⟩
  | cons i rest ih =>
    intro s group E C tally rolls parted found ready
    obtain ⟨x, rfl, child, final, outcome⟩ := rolls.front found ready
    obtain ⟨first, result⟩ := State.collect_draws found child final outcome ready
    rw [allAmong, resultsAmong]
    generalize (s.modifySignal g fun m => { m with completed := rest }).collect g x.place = p
      at first result ⊢
    obtain ⟨s₁, r⟩ := p
    dsimp only at first result
    subst result
    have rolls₁ := rolls.draws parted first
      (D := fun h => if h = g then C g ++ [x.place] else C h) (if_pos rfl) fun h hg => if_neg hg
    have ready₁ : s₁.completed g = rest := by
      have tail := first.ready
      rw [ready] at tail
      exact (List.cons.inj tail).2.symm
    cases result : x.result? group.failed with
    | some r =>
      obtain ⟨xs, s₂, more, done, how⟩ :=
        ih (tally.add r) rolls₁ (first.parted parted) first.collected ready₁
      refine ⟨x :: xs, s₂, ?_, done, how⟩
      have all := Collects.cons first more
      rwa [result] at all
    | none =>
      obtain ⟨xs, s₂, more, done, how⟩ :=
        ih tally rolls₁ (first.parted parted) first.collected ready₁
      refine ⟨x :: xs, s₂, ?_, done, how⟩
      have all := Collects.cons first more
      rwa [result] at all

end State

end Nursery
