import Nursery.Proofs.Invariant.Carried

/-!
# What is seen along a run

Some facts are not about a state but about the run that leads to it: which handlers were begun and
ended, and which replies were given.  A trail is a run with all its states, and what is seen at
each transition is gathered along it, the oldest first.

* `Trail` : the states of a run; every reachable state has one.
* `gather`, `Happened` : what is seen along a trail.
* `Trail.leads` : a run goes on, and its trail gets longer.
* `Path` : a run from one state to another, with the states in between.
* `State.pickups`, `State.verdicts`, `State.replies` : handlers begin, handlers end, and replies
  are given.
-/

namespace Nursery

/-- A state that some run gets to, with all states before it, the latest first. -/
inductive Trail : List State → State → Desk → Prop where
  /-- Nothing has happened yet. -/
  | init : Trail [] {} .clear
  /-- One transition later. -/
  | next {past : List State} {s s' : State} {d d' : Desk} (h : Trail past s d)
      (t : Transition s d s' d') : Trail (s :: past) s' d'

variable {s s' s'' : State} {d d' d'' : Desk} {past more : List State} {home : RuntimeId}
  {goal : Goal}
  {a : Action} {α : Type}

theorem Trail.reachable (h : Trail past s d) : Reachable s d := by
  induction h with
  | init => exact .init
  | next _ t ih => exact ih.next t

theorem Reachable.trail (h : Reachable s d) : ∃ past, Trail past s d := by
  induction h with
  | init => exact ⟨[], .init⟩
  | next _ t ih =>
    obtain ⟨past, trail⟩ := ih
    exact ⟨_, trail.next t⟩

/-- A number of steps of the machine, with the states before them. -/
def follow : Nat → List State → State → List State × State
  | 0, past, s => (past, s)
  | steps + 1, past, s => follow steps (s :: past) s.step

theorem Trail.follow (steps : Nat) : ∀ {past : List State} {s : State}, Trail past s d →
    Trail (follow steps past s).1 (follow steps past s).2 d := by
  induction steps with
  | zero => exact fun h => h
  | succ steps ih => exact fun h => ih (h.next .step)

/-- What is seen at the transitions of a trail, the oldest first. -/
def gather (see : State → State → List α) : State → List State → List α
  | _, [] => []
  | s', s :: past => gather see s past ++ see s s'

@[simp]
theorem gather_nil (see : State → State → List α) (s : State) : gather see s [] = [] :=
  rfl

@[simp]
theorem gather_cons (see : State → State → List α) (s s' : State) (past : List State) :
    gather see s' (s :: past) = gather see s past ++ see s s' :=
  rfl

/-- Something has happened at some transition of a trail. -/
def Happened (P : State → State → Prop) : State → List State → Prop
  | _, [] => False
  | s', s :: past => Happened P s past ∨ P s s'

theorem gather_subset {see see' : State → State → List α} (sub : ∀ s s', see s s' ⊆ see' s s')
    (s : State) (past : List State) : gather see s past ⊆ gather see' s past := by
  induction past generalizing s with
  | nil => exact List.Subset.refl _
  | cons x past ih =>
    exact List.append_subset.2 ⟨fun e he => List.mem_append_left _ (ih x he),
      fun e he => List.mem_append_right _ (sub x s he)⟩

theorem gather_of_append (see : State → State → List α) {later past' : List State} :
    ∀ {s' : State}, s' :: past' = later ++ s :: past →
      ∃ more, gather see s' past' = gather see s past ++ more := by
  induction later generalizing past' with
  | nil =>
    intro s' same
    cases same
    exact ⟨[], (List.append_nil _).symm⟩
  | cons x later ih =>
    intro s' same
    obtain ⟨rfl, before⟩ := List.cons.inj same
    cases past' with
    | nil => simp at before
    | cons x' past' =>
      obtain ⟨more, eq⟩ := ih before
      exact ⟨more ++ see x' s', by rw [gather_cons, eq, List.append_assoc]⟩

/-- A run goes on: its trail gets longer. -/
theorem Trail.leads (h : Trail past s d) (l : Leads s d s' d') :
    ∃ past' later, Trail past' s' d' ∧ s' :: past' = later ++ s :: past := by
  induction l with
  | refl => exact ⟨past, [], h, rfl⟩
  | next _ t ih =>
    obtain ⟨past', later, trail, same⟩ := ih
    exact ⟨_, _ :: later, trail.next t, by rw [same]; rfl⟩

/-- Every state of a trail has its own. -/
theorem Trail.before {later before : List State} {s₀ : State} (h : Trail past s d)
    (same : s :: past = later ++ s₀ :: before) : ∃ d₀, Trail before s₀ d₀ := by
  induction later generalizing past s d with
  | nil =>
    cases same
    exact ⟨d, h⟩
  | cons x later ih =>
    obtain ⟨rfl, tail⟩ := List.cons.inj same
    cases h with
    | init => simp at tail
    | next h t => exact ih h tail

/-! ### Parts of a run -/

/-- A run from one state to another, with the states before the last one, the latest first. -/
inductive Path (s : State) (d : Desk) : List State → State → Desk → Prop where
  /-- Nothing happens. -/
  | refl : Path s d [] s d
  /-- One transition later. -/
  | next {past : List State} {s' s'' : State} {d' d'' : Desk} (h : Path s d past s' d')
      (t : Transition s' d' s'' d'') : Path s d (s' :: past) s'' d''

theorem Path.leads (h : Path s d past s' d') : Leads s d s' d' := by
  induction h with
  | refl => exact .refl
  | next _ t ih => exact ih.next t

theorem Trail.path (h : Trail past s d) (p : Path s d more s' d') : Trail (more ++ past) s' d' := by
  induction p with
  | refl => exact h
  | next _ t ih => exact ih.next t

/-- A run begins with its first transition. -/
theorem Path.head (t : Transition s d s' d') (p : Path s' d' more s'' d'') :
    Path s d (more ++ [s]) s'' d'' := by
  induction p with
  | refl => exact .next .refl t
  | next _ t' ih => exact ih.next t'

theorem gather_path (see : State → State → List α) (past : List State)
    (path : Path s d more s' d') :
    ∃ rest, gather see s' (more ++ past) = gather see s past ++ rest := by
  induction path with
  | refl => exact ⟨[], (List.append_nil _).symm⟩
  | @next between x y dx dy path tr ih =>
    obtain ⟨rest, eq⟩ := ih
    exact ⟨rest ++ see x y, by rw [List.cons_append, gather_cons, eq, List.append_assoc]⟩

theorem Path.follow (steps : Nat) : ∀ {past : List State} {s' : State}, Path s d past s' d' →
    Path s d (follow steps past s').1 (Nursery.follow steps past s').2 d' := by
  induction steps with
  | zero => exact fun h => h
  | succ steps ih => exact fun h => ih (h.next .step)

/-! ### Handlers and replies -/

/-- An actor takes up a message. -/
structure Pickup where
  /-- The actor. -/
  actor : ActorId
  /-- The message. -/
  message : Message

/-- A handler of an actor ends. -/
structure Verdict where
  /-- The actor. -/
  actor : ActorId
  /-- The call that waits for the reply. -/
  reply : Option CallId
  /-- The value it returned, or the message it panicked with. -/
  result : Except String Int64

/-- A reply is written. -/
structure Reply where
  /-- The call. -/
  call : CallId
  /-- What its caller can learn from now on. -/
  outcome : Except ActorError Int64

/-- The message that is taken up between two points of a slice. -/
def Slice.pickups : Option Slice → Option Slice → List Pickup
  | some (.drain a _ .idle), some (.drain _ _ (.handling code _ reply)) => [⟨a, ⟨code, reply⟩⟩]
  | _, _ => []

/-- The handler that ends between two points of a slice. -/
def Slice.verdicts : Option Slice → Option Slice → List Verdict
  | some (.drain a _ (.handling ..)), some (.drain _ _ (.replying reply result)) =>
    [⟨a, reply, result⟩]
  | _, _ => []

/-- A worker that stays where it is takes nothing up. -/
theorem Slice.pickups_self (x : Option Slice) : pickups x x = [] := by
  rcases x with _ | _ | ⟨a, handled, stage⟩
  · rfl
  · rfl
  · cases stage <;> rfl

/-- A worker that stays where it is ends no handler. -/
theorem Slice.verdicts_self (x : Option Slice) : verdicts x x = [] := by
  rcases x with _ | _ | ⟨a, handled, stage⟩
  · rfl
  · rfl
  · cases stage <;> rfl

namespace State

/-- The handlers that begin in a transition, on the thread that is at work. -/
def pickups (s s' : State) : List Pickup :=
  match s.thread with
  | some r => Slice.pickups (s.slice r) (s'.slice r)
  | none => []

/-- The handlers that end in a transition, on the thread that is at work. -/
def verdicts (s s' : State) : List Verdict :=
  match s.thread with
  | some r => Slice.verdicts (s.slice r) (s'.slice r)
  | none => []

/-- The replies that are written in a transition: the item of the agenda that is done next. -/
def replies (s _ : State) : List Reply :=
  match s.agenda with
  | .answer k outcome :: _ => [⟨k, outcome⟩]
  | _ => []

/-- No handler begins or ends. -/
structure Still (s s' : State) : Prop where
  /-- No handler begins. -/
  pickups : s.pickups s' = []
  /-- No handler ends. -/
  verdicts : s.verdicts s' = []

theorem pickups_eq (active : s.active = some (home, goal)) :
    s.pickups s' = Slice.pickups (s.slice home) (s'.slice home) := by
  simp [pickups, thread, active]

theorem verdicts_eq (active : s.active = some (home, goal)) :
    s.verdicts s' = Slice.verdicts (s.slice home) (s'.slice home) := by
  simp [verdicts, thread, active]

/-- A worker goes from one point of its slice to another one, between which nothing is seen. -/
theorem Still.of_slices {x y : Option Slice} (active : s.active = some (home, goal))
    (before : s.slice home = x) (after : s'.slice home = y) (pickups : Slice.pickups x y = [])
    (verdicts : Slice.verdicts x y = []) : s.Still s' where
  pickups := by rw [pickups_eq active, before, after, pickups]
  verdicts := by rw [verdicts_eq active, before, after, verdicts]

/-- Where every worker stays where it is, nothing is seen. -/
theorem Still.of_same (same : ∀ r, s'.slice r = s.slice r) : s.Still s' := by
  cases active : s.active with
  | none =>
    exact ⟨by simp [State.pickups, thread, active], by simp [State.verdicts, thread, active]⟩
  | some work =>
    obtain ⟨r, goal⟩ := work
    exact .of_slices active rfl (same r) (Slice.pickups_self _) (Slice.verdicts_self _)

theorem Still.of_main (still : s.active = none) : s.Still s' where
  pickups := by simp [State.pickups, thread, still]
  verdicts := by simp [State.verdicts, thread, still]

theorem slice_setSlice_popped {e : Entry} {queue : RunQueue Entry} {y : Option Slice}
    (takes : s.Takes home e queue) : ((s.popped home queue).setSlice home y).slice home = y := by
  obtain ⟨rt, found, -⟩ := takes.found
  simp [slice, setSlice, popped, modifyRuntime, Store.get?_modify_self, found]

end State

end Nursery
