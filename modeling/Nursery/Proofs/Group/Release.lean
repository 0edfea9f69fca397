import Nursery.Proofs.Delivery.Settled
import Nursery.Proofs.Group.Drop

/-!
# A group without children outstanding is dropped

The drop of such a group ends its node and gives up what the group still has: the handles of the
children and the waker of the task that waited last.  By itself that cancels nobody, raises no
panic, and the log says no more than that nodes have left their parents.  But if the waker is the
last reference to a task, the body of that goes, with everything it owns.

* `State.Expires` : a body is about to be dropped because nobody refers to its task.
* `Gently` : nobody was cancelled, nobody has panicked and nothing of importance was logged.
* `Action.Gentle` : an item by which a group without children outstanding goes.
* `Effect.gently`, `Unrolls.gently` : **it is gentle, unless a body goes.**
* `Action.Moored`, `Unrolls.moored` : no body goes if the tasks concerned are in their slices.
-/

namespace Nursery

/-- The next item of the agenda drops the body of a task that nobody refers to any more. -/
structure State.Expires (s : State) (t : TaskId) : Prop where
  /-- The last reference is given up. -/
  last : ∃ as, s.agenda = .forget t :: as ∧ ({ s with agenda := as } : State).held t = false
  /-- There is a body. -/
  body : ∃ m f, s.tasks.get? t = some m ∧ m.fiber = some f

/-- Since an earlier state nobody was cancelled and nobody has panicked, and what was logged is only
for those who want to know everything. -/
structure Gently (s s' : State) : Prop where
  /-- No flag was set. -/
  flagged : ∀ n, s'.flagged n = s.flagged n
  /-- No panic was raised. -/
  panics : s'.unwinding = s.unwinding
  /-- Nothing was logged above the lowest level. -/
  logged : ∃ es, s'.trace.toList = s.trace.toList ++ es ∧ ∀ e ∈ es, e.shownAt (some .debug) = false

/-- All children of a group were collected, and nothing of their failures is left to be logged. -/
structure State.Collected (s : State) (group : Group) : Prop where
  /-- None is outstanding. -/
  drained : group.remaining = 0
  /-- Their failures were seen. -/
  seen : ∀ u ∈ group.children, s.unseen u = []

/-- An item that comes of the drop of a group without children outstanding. -/
def Action.Gentle (s : State) : Action → Prop
  | .release (.group g) | .dissolve g => ∀ group, s.groups.get? g = some group → s.Collected group
  | .release (.handle u) => s.unseen u = []
  | .finish _ | .detach _ | .wake (.task _) | .forget _ | .bury _ | .forgetSignal _
  | .discard (.task _) => True
  | _ => False

variable {s s' : State} {d : Desk} {a : Action} {rest : List Action} {g t u n : TaskId}
  {group : Group} {m m' : Task}

namespace Gently

theorem refl (s : State) : Gently s s :=
  ⟨fun _ => rfl, rfl, [], by simp, by simp⟩

theorem trans {s'' : State} (h : Gently s s') (h' : Gently s' s'') : Gently s s'' := by
  obtain ⟨es, first, quiet⟩ := h.logged
  obtain ⟨es', later, quiet'⟩ := h'.logged
  exact ⟨fun n => (h'.flagged n).trans (h.flagged n), h'.panics.trans h.panics, es ++ es',
    by rw [later, first, List.append_assoc],
    fun e he => (List.mem_append.1 he).elim (quiet e) (quiet' e)⟩

theorem of_same (nodes : s'.nodes = s.nodes) (panics : s'.unwinding = s.unwinding)
    (trace : s'.trace = s.trace) : Gently s s' :=
  ⟨fun n => by rw [State.flagged, State.flagged, nodes], panics, [], by simp [trace], by simp⟩

theorem modifyNode {f : Node → Node} (same : ∀ m, (f m).flagged = m.flagged) :
    Gently s (s.modifyNode n f) := by
  refine ⟨fun k => ?_, rfl, [], by simp [State.modifyNode], by simp⟩
  have kept := Store.map_get?_modify_same (s := s.nodes) (k := n) (j := k) (f := f)
    (g := Node.flagged) same
  have flag : ∀ x : State, x.flagged k = ((x.nodes.get? k).map Node.flagged).getD false := by
    intro x
    rw [State.flagged]
    cases x.nodes.get? k <;> rfl
  rw [flag, flag]
  exact congrArg (Option.getD · false) kept

theorem reaped (s : State) (p n : TaskId) : Gently s (s.log (.reaped p n)) :=
  ⟨fun _ => rfl, rfl, [.logged (.reaped p n)], by simp [State.log, State.tell], by
    simp [Event.shownAt, LogEntry.level, Level.detail]⟩

theorem doFirst (as : List Action) : Gently s (s.doFirst as) :=
  of_same rfl rfl rfl

theorem enqueue (r : RuntimeId) (p : Priority) (e : Entry) : Gently s (s.enqueue r p e) := by
  obtain ⟨runtimes, agenda, eq⟩ := State.enqueue_eq s r p e
  rw [eq]
  exact of_same rfl rfl rfl

end Gently

/-! ### Failures that were seen -/

theorem Task.unseen_of_reported (reported : m.reported = true) : m.unseen t = [] := by
  unfold Task.unseen
  rw [reported]

namespace State

theorem unseen_eq_nil : s.unseen t = [] ↔ ∀ m, s.tasks.get? t = some m → m.unseen t = [] := by
  rw [unseen]
  cases s.tasks.get? t with
  | none => simp
  | some m => simp

theorem trace_dropHandle (seen : s.unseen t = []) : (s.dropHandle t).trace = s.trace := by
  unfold dropHandle
  dsimp only [doFirst]
  split
  · unfold reportUnobserved
    split
    · rfl
    · rename_i m' found'
      obtain ⟨m, found, rfl⟩ := Store.get?_modify_eq_some.1 found'
      have nothing := unseen_eq_nil.1 seen m found
      unfold Task.unseen at nothing
      simp only [if_true]
      split
      · rfl
      · rename_i unreported
        rw [Bool.not_eq_true] at unreported
        rw [unreported] at nothing
        split
        · rename_i e outcome
          rw [outcome] at nothing
          split
          · rfl
          · rename_i failed
            simp [failed] at nothing
        · rfl
  · rfl

end State

/-- A failure that was seen stays so. -/
theorem Effect.seen (e : Effect s a s') (seen : s.unseen u = []) : s'.unseen u = [] := by
  rw [State.unseen_eq_nil] at seen ⊢
  intro m' found'
  cases e with
  | resume =>
    rw [State.tasks_enqueue] at found'
    exact seen m' found'
  | wakeWaiters | forget =>
    obtain ⟨m, found, rfl⟩ := Store.get?_modify_eq_some.1 found'
    split <;> exact seen m found
  | reportFailure trace only failed dropped looked =>
    obtain ⟨m, found, rfl⟩ := Store.get?_modify_eq_some.1 found'
    split
    · rename_i mine
      subst mine
      exact Task.unseen_of_reported (looked m found)
    · exact seen m found
  | dropHandle trace only looked =>
    obtain ⟨m, found, rfl⟩ := Store.get?_modify_eq_some.1 found'
    split
    · rename_i mine
      subst mine
      have reported := looked m found
      obtain ⟨b, eq⟩ := only m
      rw [eq] at reported ⊢
      -- whoever drops the handle of a failure reports it, and then it is seen
      cases before : m.reported with
      | true => exact Task.unseen_of_reported (by rw [reported, before]; rfl)
      | false =>
        have nothing := seen m found
        cases b with
        | true => exact Task.unseen_of_reported rfl
        | false =>
          unfold Task.unseen at nothing ⊢
          rw [before] at nothing
          exact nothing
    · exact seen m found
  | bury =>
    rw [State.doFirst, Store.get?_erase] at found'
    split at found'
    · cases found'
    · exact seen m' found'
  | _ => exact seen m' found'

/-- A group that is known was known before. -/
theorem Effect.group_known (e : Effect s a s') (found' : s'.groups.get? g = some group) :
    s.groups.get? g = some group := by
  by_cases mine : a = .dissolve g
  · subst mine
    cases e with
    | spent missing => cases missing.symm.trans found'
    | dissolve =>
      rw [State.doFirst, Store.get?_erase, if_pos rfl] at found'
      cases found'
  · rwa [e.group mine] at found'

/-- An item stays gentle where no failure comes to be unseen and no group is new. -/
theorem Action.Gentle.mono (gentle : a.Gentle s) (seen : ∀ u, s.unseen u = [] → s'.unseen u = [])
    (known : ∀ g group, s'.groups.get? g = some group → s.groups.get? g = some group) :
    a.Gentle s' := by
  have group : ∀ g, (∀ group, s.groups.get? g = some group → s.Collected group) →
      ∀ group, s'.groups.get? g = some group → s'.Collected group := fun g all group found' =>
    have before := all group (known g group found')
    ⟨before.drained, fun u child => seen u (before.seen u child)⟩
  cases a with
  | release r =>
    cases r with
    | handle u => exact seen u gentle
    | group g => exact group g gentle
    | call => exact gentle
  | dissolve g => exact group g gentle
  | wake w => cases w <;> exact gentle
  | discard e => cases e <;> exact gentle
  | _ => exact gentle

/-! ### What comes of the drop -/

/-- An item is gentle: nobody is cancelled, nobody panics, and what comes of it is gentle again. -/
theorem Effect.gently (e : Effect s a s') (gentle : a.Gentle s)
    (hush : ∀ u, a = .release (.handle u) → s'.trace = s.trace)
    (lives : ∀ t, a = .forget t → ∀ m, s.tasks.get? t = some m → m.fiber ≠ none →
      s.held t = true) :
    Gently s s' ∧ ∃ new, s'.agenda = new ++ s.agenda ∧ ∀ b ∈ new, b.Gentle s' := by
  -- where new items come first
  have first : ∀ {as : List Action} {x : State}, Gently s x → x.agenda = s.agenda →
      (∀ b ∈ as, b.Gentle (x.doFirst as)) → Gently s (x.doFirst as) ∧
        ∃ new, (x.doFirst as).agenda = new ++ s.agenda ∧ ∀ b ∈ new, b.Gentle (x.doFirst as) :=
    fun gently agenda new => ⟨gently.trans (.doFirst _), _, by rw [State.doFirst, agenda], new⟩
  have nothing : Gently s s' → s'.agenda = s.agenda → Gently s s' ∧
      ∃ new, s'.agenda = new ++ s.agenda ∧ ∀ b ∈ new, b.Gentle s' :=
    fun gently agenda => ⟨gently, [], agenda, by simp⟩
  cases e with
  | spent => exact nothing (.refl s) rfl
  | finish n =>
    refine first (.modifyNode fun _ => rfl) rfl fun b hb => ?_
    split at hb
    · rw [List.mem_singleton.1 hb]
      trivial
    · cases hb
  | orphan => exact nothing (.modifyNode fun _ => rfl) rfl
  | reap =>
    exact nothing (.trans (.trans (.modifyNode fun _ => by rfl) (.modifyNode fun _ => by rfl))
      (.reaped _ _ _)) rfl
  | @reapLast n p node above =>
    refine first (.trans (.trans (.modifyNode fun _ => by rfl) (.modifyNode fun _ => by rfl))
      (.reaped _ _ _)) rfl fun b hb => ?_
    rcases List.mem_append.1 hb with hb | hb <;> split at hb <;>
      first | (rw [List.mem_singleton.1 hb]; trivial) | cases hb
  | @resume t task =>
    have queued : Gently s ((s.setPhase t .ready).enqueue task.home (s.priority t) (.task t)) :=
      .trans (.modifyNode fun _ => by rfl) (.enqueue _ _ _)
    refine ⟨queued, ?_⟩
    unfold State.enqueue
    split
    · exact ⟨[.discard (.task t)], rfl, by simp [Action.Gentle]⟩
    · exact ⟨[], rfl, by simp⟩
  | notify => exact first (.modifyNode fun _ => rfl) rfl (by simp [Action.Gentle])
  | awake => exact first (.refl s) rfl (by simp [Action.Gentle])
  | dropHandle trace =>
    have same := hush _ rfl
    exact first (.of_same rfl rfl same) rfl (by simp [Action.Gentle])
  | @dropGroup g group found drained =>
    exact first (.refl s) rfl fun b hb => by
      rcases List.mem_pair.1 hb with rfl | rfl
      · trivial
      · exact Action.Gentle.mono (a := .dissolve g) gentle (fun _ h => h) fun _ _ h => h
  | @dropUndrained g group found outstanding =>
    exact absurd (gentle group found).drained outstanding
  | @dissolve g group found =>
    refine first (.of_same rfl rfl rfl) rfl fun b hb => ?_
    rcases List.mem_append.1 hb with hb | hb
    · obtain ⟨u, child, rfl⟩ := List.mem_map.1 hb
      exact (gentle group found).seen u child
    · rw [List.mem_singleton.1 hb]
      trivial
  | @forget t task found loose =>
    have gone : task.fiber = none := by
      by_contra body
      cases loose.symm.trans (lives t rfl task found body)
    rw [gone]
    exact first (.of_same rfl rfl rfl) rfl (by simp [Action.Gentle])
  | bury =>
    refine first (.of_same rfl rfl rfl) rfl fun b hb => ?_
    obtain ⟨w, -, rfl⟩ := List.mem_map.1 hb
    cases w <;> trivial
  | silence =>
    refine first (.of_same rfl rfl rfl) rfl fun b hb => ?_
    obtain ⟨u, -, rfl⟩ := List.mem_map.1 hb
    trivial
  | discardTask => exact first (.refl s) rfl (by simp [Action.Gentle])
  | _ => exact gentle.elim

/-- What stands before the rest of the agenda is gentle. -/
def State.Calms (s : State) (rest : List Action) : Prop :=
  ∃ new, s.agenda = new ++ rest ∧ ∀ b ∈ new, b.Gentle s

/-- A gentle item that drops no body leaves only gentle ones before the rest. -/
theorem State.Calms.step {more : List Action} (calms : s.Calms rest)
    (busy : s.agenda = a :: (more ++ rest)) (lives : ∀ t, ¬ s.Expires t) :
    Gently s s.step ∧ s.step.Calms rest := by
  obtain ⟨new, agenda, gentle⟩ := calms
  have same : new = a :: more :=
    List.append_cancel_right (agenda.symm.trans (by rw [busy, List.cons_append]))
  subst same
  have popped : ∀ b ∈ a :: more, b.Gentle { s with agenda := more ++ rest } :=
    fun b hb => (gentle b hb).mono (fun _ h => h) fun _ _ h => h
  obtain ⟨eq, e⟩ := State.step_item busy
  have step : s.step = ({ s with agenda := more ++ rest } : State).perform a := by
    rw [State.step, busy]
  obtain ⟨gently, new, agenda', fresh⟩ := e.gently (popped a List.mem_cons_self)
    (fun u drops => by
      subst drops
      rw [step]
      exact State.trace_dropHandle (popped _ List.mem_cons_self))
    (fun t gives m found body => by
      by_contra loose
      obtain ⟨f, fiber⟩ := Option.ne_none_iff_exists'.1 body
      exact lives t ⟨⟨_, by rw [busy, gives], Bool.not_eq_true _ ▸ loose⟩, m, f, found, fiber⟩)
  refine ⟨{ gently with }, new ++ more, by rw [agenda', List.append_assoc], fun b hb => ?_⟩
  rcases List.mem_append.1 hb with hb | hb
  · exact fresh b hb
  · exact (popped b (List.mem_cons_of_mem _ hb)).mono (fun _ => e.seen) fun _ _ => e.group_known

/-- On the way between two states somebody's body goes because nobody refers to its task. -/
def Bereft (rest : List Action) (s s' : State) : Prop :=
  ∃ x t more, Unrolls rest s x ∧ x.agenda = .forget t :: (more ++ rest) ∧ x.Expires t ∧
    Unrolls rest x.step s'

/-- **What is gentle comes to nothing of importance**, unless somebody's body goes on the way. -/
theorem Unrolls.gently (way : Unrolls rest s s') (calms : s.Calms rest) :
    Gently s s' ∧ s'.Calms rest ∨ Bereft rest s s' := by
  induction way with
  | refl => exact .inl ⟨.refl s, calms⟩
  | @next s₁ a more way busy ih =>
    rcases ih with ⟨gently, calms⟩ | ⟨x, t, before, went, gone, expires, after⟩
    · by_cases lives : ∃ t, s₁.Expires t
      · obtain ⟨t, expires⟩ := lives
        obtain ⟨as, gives, -⟩ := expires.last
        obtain ⟨rfl, -⟩ := List.cons.inj (busy.symm.trans gives)
        exact .inr ⟨s₁, t, more, way, busy, expires, .refl⟩
      · obtain ⟨on, calms'⟩ := calms.step busy fun t expires => lives ⟨t, expires⟩
        exact .inl ⟨gently.trans on, calms'⟩
    · exact .inr ⟨x, t, before, went, gone, expires, after.next busy⟩

/-! ### Where no body goes -/

namespace State

/-- A worker is in a slice of a task that has not ended. -/
structure Underway (s : State) (t : TaskId) : Prop where
  /-- The slice. -/
  slice : ∃ r stage, s.slice r = some (.task t stage)
  /-- The task goes on. -/
  ongoing : (s.phase t).isTerminal = false

/-- A task has ended, and nobody waits for it. -/
structure Lone (s : State) (t : TaskId) : Prop where
  /-- It has ended. -/
  ended : (s.phase t).isTerminal = true
  /-- Its body is over, and nobody is registered. -/
  bare : ∀ m, s.tasks.get? t = some m → m.fiber = none ∧ m.waiters = []

/-- Whoever waits for a group is in a slice. -/
def Watched (s : State) (g : TaskId) : Prop :=
  ∀ signal u, s.signals.get? g = some signal → signal.waker = some u → s.Underway u

/-- What a node was attached to is in a slice. -/
def Based (s : State) (n : TaskId) : Prop :=
  ∀ k p, s.origin n = some (k, some p) → s.Underway p

/-- All children of a group were collected and have ended. -/
def Emptied (s : State) (g : TaskId) : Prop :=
  ∀ group, s.groups.get? g = some group → group.remaining = 0 ∧ ∀ u ∈ group.children, s.Lone u

theorem Underway.held (h : s.Underway t) : s.held t = true :=
  h.slice.elim fun _ ⟨_, during⟩ => held_of_slice during

end State

/-- An item of the drop of a group by which no body goes. -/
def Action.Moored (s : State) : Action → Prop
  | .release (.group g) => s.Emptied g ∧ s.Based g ∧ s.Watched g
  | .dissolve g => s.Emptied g ∧ s.Watched g
  | .finish n | .detach n => s.Based n
  | .wake (.task t) | .discard (.task t) => s.Underway t
  | .forget t => s.Underway t ∨ s.Lone t
  | .release (.handle u) | .bury u => s.Lone u
  | .forgetSignal g => s.Watched g
  | _ => False

namespace Effect

theorem underway (e : Effect s a s') (h : s.Underway t) : s'.Underway t := by
  obtain ⟨r, stage, during⟩ := h.slice
  refine ⟨⟨r, stage, (e.slice r).trans during⟩, ?_⟩
  rw [← Bool.not_eq_true]
  intro ended
  cases h.ongoing.symm.trans (e.unended.ended t ended)

theorem lone (e : Effect s a s') (h : s.Lone t) : s'.Lone t := by
  refine ⟨(congrArg _ (e.terminal h.ended)).trans h.ended, fun m' found' => ?_⟩
  obtain ⟨m, found, keeps⟩ := e.disposes found'
  obtain ⟨fiber, waiters⟩ := h.bare m found
  exact ⟨keeps.fiber fiber, List.subset_nil.1 (waiters ▸ keeps.waiters h.ended)⟩

end Effect

/-- An item by which no body goes stays one where whoever is in a slice goes on and whoever has
ended is left alone. -/
theorem Action.Moored.mono (h : a.Moored s) (underway : ∀ t, s.Underway t → s'.Underway t)
    (lone : ∀ t, s.Lone t → s'.Lone t) (origin : ∀ n, s'.origin n = s.origin n)
    (known : ∀ g group, s'.groups.get? g = some group → s.groups.get? g = some group)
    (waits : ∀ g signal u, s'.signals.get? g = some signal → signal.waker = some u →
      ∃ signal₀, s.signals.get? g = some signal₀ ∧ signal₀.waker = some u) : a.Moored s' := by
  have watched : ∀ g, s.Watched g → s'.Watched g := fun g h signal u found waiting =>
    have ⟨signal₀, found₀, waiting₀⟩ := waits g signal u found waiting
    underway u (h signal₀ u found₀ waiting₀)
  have based : ∀ n, s.Based n → s'.Based n := fun n h k p made =>
    underway p (h k p (by rwa [origin] at made))
  have emptied : ∀ g, s.Emptied g → s'.Emptied g := fun g h group found =>
    have before := h group (known g group found)
    ⟨before.1, fun u child => lone u (before.2 u child)⟩
  cases a with
  | release r =>
    cases r with
    | handle u => exact lone u h
    | group g => exact ⟨emptied g h.1, based g h.2.1, watched g h.2.2⟩
    | call => exact h
  | dissolve g => exact ⟨emptied g h.1, watched g h.2⟩
  | finish n | detach n => exact based n h
  | wake w =>
    cases w with
    | task t => exact underway t h
    | member => exact h
  | discard x =>
    cases x with
    | task t => exact underway t h
    | drain | marker => exact h
  | forget t => exact h.imp (underway t) (lone t)
  | bury t => exact lone t h
  | forgetSignal g => exact watched g h
  | _ => exact h

namespace Effect

theorem moored (e : Effect s a s') {b : Action} (h : b.Moored s) : b.Moored s' :=
  h.mono (fun _ => e.underway) (fun _ => e.lone) e.origin (fun _ _ => e.group_known)
    fun _ _ _ => Tether.waits_effect e

theorem moors (sound : Sound (s.doFirst [a]) d) (e : Effect s a s') (moored : a.Moored s) :
    ∃ new, s'.agenda = new ++ s.agenda ∧ ∀ b ∈ new, b.Moored s' := by
  -- whatever is new has its reasons in the state before
  have first : ∀ {as : List Action}, s'.agenda = as ++ s.agenda → (∀ b ∈ as, b.Moored s) →
      ∃ new, s'.agenda = new ++ s.agenda ∧ ∀ b ∈ new, b.Moored s' :=
    fun agenda new => ⟨_, agenda, fun b hb => e.moored (new b hb)⟩
  have nothing : s'.agenda = s.agenda →
      ∃ new, s'.agenda = new ++ s.agenda ∧ ∀ b ∈ new, b.Moored s' :=
    fun agenda => ⟨[], agenda, by simp⟩
  cases e with
  | spent | orphan | reap => exact nothing rfl
  | finish n =>
    refine first rfl fun b hb => ?_
    split at hb
    · rw [List.mem_singleton.1 hb]
      exact moored
    · cases hb
  | @reapLast n p node above found attached parent listed =>
    have up : s.Underway p :=
      moored node.kind p (by rw [State.origin, found, Option.map_some, parent])
    obtain ⟨m, known, rfl⟩ := Store.get?_modify_eq_some.1 listed
    -- whoever is in a slice is not finished
    have goes_on : (if n = p then { m with reaped := true } else m).finished = false := by
      have same : (if n = p then { m with reaped := true } else m).finished = m.finished := by
        split <;> rfl
      rw [same, ← Bool.not_eq_true]
      intro finished
      obtain ⟨r, stage, during⟩ := up.slice
      obtain ⟨task, there⟩ := sound.dispatch.known r p stage during
      rcases sound.kinship.finished p m known finished with ended | ⟨group, -⟩
      · cases up.ongoing.symm.trans ended
      · exact sound.formed.not_group_of_task there group
    refine first rfl fun b hb => ?_
    rw [goes_on] at hb
    simp only [Bool.false_eq_true, if_false, List.append_nil, List.mem_ite_nil_right,
      List.mem_singleton] at hb
    rw [hb.2]
    exact up
  | @resume t task suspended found =>
    have later := (Effect.resume suspended found).moored (b := .discard (.task t)) moored
    unfold State.enqueue at later ⊢
    by_cases shut : (s.setPhase t .ready).closed task.home = true
    · rw [if_pos shut] at later ⊢
      exact ⟨[.discard (.task t)], rfl, by simpa using later⟩
    · rw [if_neg shut]
      exact ⟨[], rfl, by simp⟩
  | notify | awake => exact first rfl (by simpa [Action.Moored] using Or.inl moored)
  | dropHandle => exact first rfl (by simpa [Action.Moored] using Or.inr moored)
  | @dropGroup g group found drained =>
    refine first rfl fun b hb => ?_
    rcases List.mem_pair.1 hb with rfl | rfl
    · exact moored.2.1
    · exact ⟨moored.1, moored.2.2⟩
  | @dropUndrained g group found outstanding =>
    exact absurd (moored.1 group found).1 outstanding
  | @dissolve g group found =>
    refine first rfl fun b hb => ?_
    rcases List.mem_append.1 hb with hb | hb
    · obtain ⟨u, child, rfl⟩ := List.mem_map.1 hb
      exact (moored.1 group found).2 u child
    · rw [List.mem_singleton.1 hb]
      exact moored.2
  | @forget t task found loose =>
    have lone : s.Lone t := moored.resolve_left fun up => by cases loose.symm.trans up.held
    refine @first [.bury t] ?_ (by simpa [Action.Moored] using lone)
    rw [(lone.bare task found).1]
    rfl
  | @bury t task found =>
    refine nothing ?_
    rw [(moored.bare task found).2]
    rfl
  | @silence g signal dead found =>
    refine first rfl fun b hb => ?_
    obtain ⟨u, waits, rfl⟩ := List.mem_map.1 hb
    exact .inl (moored signal u found (Option.mem_toList.1 waits))
  | discardTask => exact first rfl (by simpa [Action.Moored] using Or.inl moored)
  | _ => exact moored.elim

end Effect

/-- What stands before the rest of the agenda takes no body with it. -/
theorem Unrolls.moored (h : Reachable s d) (way : Unrolls rest s s')
    (start : ∃ new, s.agenda = new ++ rest ∧ ∀ b ∈ new, b.Moored s) :
    ∃ new, s'.agenda = new ++ rest ∧ ∀ b ∈ new, b.Moored s' := by
  induction way with
  | refl => exact start
  | @next s₁ a more way busy ih =>
    obtain ⟨new, agenda, moored⟩ := ih
    have same : new = a :: more :=
      List.append_cancel_right (agenda.symm.trans (by rw [busy, List.cons_append]))
    subst same
    obtain ⟨eq, e⟩ := State.step_item busy
    have popped : ∀ b ∈ a :: more, b.Moored { s₁ with agenda := more ++ rest } := fun b hb =>
      (moored b hb).mono (fun _ up => ⟨up.slice, up.ongoing⟩)
        (fun _ lone => ⟨lone.ended, lone.bare⟩)
        (fun _ => rfl) (fun _ _ found => found) fun _ signal _ found waits => ⟨signal, found, waits⟩
    obtain ⟨new, agenda', fresh⟩ := e.moors (eq ▸ (h.leads (way.leads d)).sound)
      (popped a List.mem_cons_self)
    refine ⟨new ++ more, by rw [agenda', List.append_assoc], fun b hb => ?_⟩
    rcases List.mem_append.1 hb with hb | hb
    · exact fresh b hb
    · exact e.moored (popped b (List.mem_cons_of_mem _ hb))

/-- **Where the tasks concerned are in their slices no body goes.** -/
theorem Unrolls.bodies_stay (h : Reachable s d)
    (start : ∃ new, s.agenda = new ++ rest ∧ ∀ b ∈ new, b.Moored s) : ¬ Bereft rest s s' := by
  rintro ⟨x, t, more, way, busy, expires, -⟩
  obtain ⟨new, agenda, moored⟩ := way.moored h start
  have same : new = .forget t :: more :=
    List.append_cancel_right (agenda.symm.trans (by rw [busy, List.cons_append]))
  subst same
  obtain ⟨as, gives, loose⟩ := expires.last
  obtain ⟨m, f, found, fiber⟩ := expires.body
  rcases moored _ List.mem_cons_self with up | lone
  · have held : ({ x with agenda := as } : State).held t = true :=
      State.Underway.held ⟨up.slice, up.ongoing⟩
    cases loose.symm.trans held
  · cases (lone.bare m found).1.symm.trans fiber

end Nursery
