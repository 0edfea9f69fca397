import Nursery.Proofs.Invariant.Spares
import Nursery.Proofs.Line.Request

/-!
# How a flag goes down the tree

All cancellations that are to be done stand at the front of the agenda.  They are asked for by one
line, by one body that fails or by one group, and until the last of them is done nothing else
happens: no node is made and none leaves its parent.  So a walk goes down a tree that stands
still, and behind it every child of a flagged node is flagged.

* `State.Condemns`, `Cancels` : why a node itself is cancelled.
* `Spread` : a transition goes on with a walk, or flags nobody that was there and may begin a walk.
* `Transition.spread` : every transition does one of the two.
* `State.Closed` : every child of a flagged node is flagged, or the walk is on its way to it.
-/

namespace Nursery

/-- An item of the agenda by which a group is cancelled: its first child has failed, or it is
dropped while children are outstanding. -/
inductive State.Condemns (s : State) (g : TaskId) : Action → Prop where
  /-- The first child fails. -/
  | failure {index : Nat} {child : TaskId} (failed : s.phase child = .failed)
      (first : (s.signals.get? g).any Signal.tripped = false) :
      Condemns s g (.wake (.member g index child))
  /-- The group is dropped. -/
  | drop {group : Group} (found : s.groups.get? g = some group)
      (outstanding : group.remaining ≠ 0) : Condemns s g (.release (.group g))

/-- Why a node itself is cancelled in a transition. -/
inductive Cancels (s : State) (n : TaskId) : State → Prop where
  /-- A line of a body or of a handler asks for it, with a handle or with a group. -/
  | line (asked : n ∈ s.asked) : Cancels s n s.step
  /-- A line of the main thread asks for it. -/
  | main {tag : Tag} {act : Act} {reaction : Reaction} (rests : s.resting = true)
      (plain : s.plain? { who := .main } [] tag act = some reaction)
      (asked : n ∈ s.requests [] tag act) : Cancels s n (State.begin reaction)
  /-- It is a group, and its first child fails or it is dropped while children are
  outstanding. -/
  | group {a : Action} {rest : List Action} (first : s.agenda = a :: rest)
      (condemned : s.Condemns n a) : Cancels s n s.step

/-- Why the cancellation of a node is on the agenda after a transition: the node itself is
cancelled, or it is a child of a task whose body fails. -/
inductive Wanted (s : State) (n : TaskId) (s' : State) : Prop where
  /-- It is cancelled itself. -/
  | itself (why : Cancels s n s')
  /-- The body of its parent fails. -/
  | child {p : TaskId} (failing : s.failing = some p) (next : s' = s.step)
      (listed : n ∈ s.children p)

/-- A walk has come to a node, with the rest of the agenda still to be done. -/
def State.walk (s : State) (n : TaskId) (rest : List Action) : State :=
  State.cancelNode { s with agenda := rest } n

/-- What a transition does about the flags. -/
inductive Spread (s s' : State) : Prop where
  /-- It goes on with a walk. -/
  | walk {n : TaskId} {rest : List Action} (first : s.agenda = .cancel n :: rest)
      (next : s' = s.walk n rest)
  /-- It flags nobody that was there, and may begin a walk. -/
  | calm {ns : List TaskId} (calm : s.Calm) (spares : Spares s s') (orders : Orders s'.agenda ns)
      (why : ∀ n ∈ ns, Wanted s n s')
      (known : ∀ n ∈ ns, s'.Knows n → s.Knows n)

/-- Every child of a flagged node is flagged, or the walk is on its way to it. -/
def State.Closed (s : State) : Prop :=
  ∀ p n, s.flagged p = true → n ∈ s.children p → s.flagged n = true ∨ .cancel n ∈ s.agenda

/-- A child is younger than its parent. -/
def State.Descends (s : State) : Prop :=
  ∀ n node p, s.nodes.get? n = some node → node.parent = some p → p.index < n.index

variable {s s' : State} {d d' : Desk} {a : Action} {as : List Action} {n m p : TaskId}
  {ns : List TaskId} {home : RuntimeId} {t : TaskId} {f : Fiber} {frame : Frame} {tag : Tag}
  {act : Act}

/-! ### The front of the agenda -/

namespace Orders

theorem tail_of_ne (h : Orders (a :: as) ns) (other : ∀ n, a ≠ .cancel n) : Orders as [] := by
  obtain ⟨rest, eq, calm⟩ := h
  cases ns with
  | nil =>
    refine of_calm fun n hn => calm n ?_
    rw [List.map_nil, List.nil_append] at eq
    exact eq ▸ List.mem_cons_of_mem a hn
  | cons n ns =>
    rw [List.map_cons, List.cons_append, List.cons.injEq] at eq
    exact absurd eq.1 (other n)

theorem of_ne (h : Orders (a :: as) ns) (other : ∀ n, a ≠ .cancel n) : Orders (a :: as) [] := by
  have front : ∀ n, .cancel n ∉ [a] := fun n hn => other n (List.mem_singleton.1 hn).symm
  exact (h.tail_of_ne other).prepend front

theorem tail (h : Orders (.cancel n :: as) ns) : ∃ ns', Orders as ns' := by
  obtain ⟨rest, eq, calm⟩ := h
  cases ns with
  | nil =>
    rw [List.map_nil, List.nil_append] at eq
    exact absurd (eq ▸ List.mem_cons_self) (calm n)
  | cons m ns =>
    rw [List.map_cons, List.cons_append, List.cons.injEq] at eq
    exact ⟨ns, rest, eq.2, calm⟩

theorem ahead (h : Orders as ns) (new : List TaskId) :
    Orders (new.map .cancel ++ as) (new ++ ns) := by
  obtain ⟨rest, rfl, calm⟩ := h
  exact ⟨rest, by simp, calm⟩

end Orders

/-! ### One node is flagged -/

namespace State

theorem agenda_walk : (s.walk n as).agenda =
    (if s.flagged n = true then [] else (s.children n).map .cancel) ++ as := by
  unfold walk cancelNode
  cases found : s.nodes.get? n with
  | none => simp [children, flagged, found]
  | some node =>
    cases flag : node.flagged with
    | true => simp [flagged, found, flag]
    | false => simp [children, flagged, found, flag, doFirst, log, tell, modifyNode]

theorem field_walk {α : Type} {g : Node → α}
    (same : ∀ node b, g { node with flagged := b } = g node) :
    ((s.walk n as).nodes.get? m).map g = (s.nodes.get? m).map g := by
  unfold walk cancelNode
  split
  · rfl
  · split
    · rfl
    · exact Store.map_get?_modify_same fun node => same node true

@[simp]
theorem children_walk : (s.walk n as).children m = s.children m :=
  congrArg (Option.getD · []) (field_walk fun _ _ => rfl)

@[simp]
theorem knows_walk : (s.walk n as).Knows m ↔ s.Knows m := by
  unfold Knows
  have : ((s.walk n as).nodes.get? m).map (fun _ => ()) = (s.nodes.get? m).map fun _ => () :=
    field_walk fun _ _ => rfl
  cases before : s.nodes.get? m <;> cases after : (s.walk n as).nodes.get? m <;> simp_all

theorem flagged_walk :
    (s.walk n as).flagged m = true ↔ s.flagged m = true ∨ m = n ∧ s.Knows n := by
  unfold walk cancelNode Knows
  cases found : s.nodes.get? n with
  | none => simp [flagged]
  | some node =>
    dsimp only
    split
    · rename_i already
      refine ⟨.inl, fun h => h.elim id ?_⟩
      rintro ⟨rfl, -⟩
      simp [flagged, found, already]
    · change (s.modifyNode n fun m => { m with flagged := true }).flagged m = true ↔ _
      by_cases same : m = n
      · subst same
        simp [flagged, modifyNode, Store.get?_modify_self, found]
      · simp [flagged, modifyNode, Store.get?_modify_of_ne (Ne.symm same), same]

end State

/-! ### What asks for a walk -/

/-- A group that trips or is dropped is cancelled, and no other item of the agenda begins a
walk. -/
theorem Effect.orders (e : Effect s a s') (calm : s.Calm) (other : ∀ n, a ≠ .cancel n) :
    s'.Calm ∨ ∃ g, s.Condemns g a ∧ s'.nodes = s.nodes ∧ Orders s'.agenda [g] := by
  have first : ∀ {x : State} {new : List Action}, x.agenda = s.agenda →
      (∀ n, .cancel n ∉ new) → (x.doFirst new).Calm := by
    intro x new same free
    have there : x.Calm := by rwa [State.Calm, same]
    exact there.doFirst free
  have dooms : ∀ g {new : List Action}, (∀ n, .cancel n ∉ new) →
      Orders (.cancel g :: new ++ s.agenda) [g] :=
    fun g _ free => (calm.prepend free).ahead [g]
  have told : ∀ (ws : List Waker) n, .cancel n ∉ ws.map Waker.forget := by
    intro ws n hn
    obtain ⟨w, -, eq⟩ := List.mem_map.1 hn
    cases w <;> cases eq
  cases e with
  | cancel => exact absurd rfl (other _)
  | trip index failed unheard =>
    exact .inr ⟨_, .failure failed unheard, rfl, dooms _ (by simp)⟩
  | dropUndrained found outstanding =>
    exact .inr ⟨_, .drop found outstanding, rfl, dooms _ (by simp)⟩
  | spent | orphan | reap | reportFailure | record | dropPending => exact .inl calm
  | resume =>
    left
    refine State.Calm.enqueue ?_ _ _ _
    exact calm
  | panic =>
    refine .inl (.of_calm fun n hn => ?_)
    obtain ⟨b, -, left⟩ := List.mem_filterMap.1 hn
    cases b with
    | wake w => cases w <;> cases left
    | _ => cases left
  | finish | reapLast => exact .inl (first rfl fun n => by split <;> simp)
  | bury => exact .inl (first rfl (told _))
  | dissolve | forget | silence | dropAnswered | answer | abandon | announce | wakeWaiters | notify
  | awake | inform | dropHandle | dropGroup | discardTask | discardDrain =>
    exact .inl (first rfl (by simp))

theorem State.Condemns.congr (h : s.Condemns n a) (nodes : s'.nodes = s.nodes)
    (groups : s'.groups = s.groups) (signals : s'.signals = s.signals) : s'.Condemns n a := by
  cases h with
  | failure failed first =>
    exact .failure (by rwa [State.phase, nodes]) (by rwa [signals])
  | drop found outstanding => exact .drop (by rwa [groups]) outstanding

theorem State.Condemns.pending (h : s.Condemns n a) : .cancel n ∈ (s.perform a).agenda := by
  cases h with
  | failure failed first =>
    change .cancel n ∈ (s.inform n _ _).agenda
    unfold inform
    rw [if_pos ⟨failed, first⟩]
    exact List.mem_cons_self
  | drop found outstanding =>
    change .cancel n ∈ (s.dropGroup n).agenda
    simp only [dropGroup, found, if_neg outstanding]
    exact List.mem_cons_self

/-- Shelving what a line has left drops what was under its names. -/
theorem State.Calm.shelve (frame : Frame) : ∀ {s : State}, s.Calm → (s.shelve frame).Calm := by
  induction frame with
  | nil => exact fun h => h
  | cons item rest ih =>
    intro s h
    refine ih (s := { (s.share item.1 item.2).1 with
      agenda := s.agenda ++ (s.share item.1 item.2).2 }) ?_
    exact h.append (by simp [share])

/-- Only a line of the main thread begins a walk. -/
theorem Move.orders (rests : s.resting = true) (m : Move s d s' d') :
    s'.Calm ∨ ∃ tag act reaction, s.plain? { who := .main } [] tag act = some reaction ∧
      s' = State.begin reaction ∧ Orders s'.agenda (s.requests [] tag act) := by
  have idle := State.idle_of_resting rests
  have calm : s.Calm := .idle idle
  have started : ∀ {x : State} (r : RuntimeId) (goal : Goal), x.Calm → (x.start r goal).Calm := by
    intro x r goal h
    obtain ⟨trace, eq⟩ := x.start_eq r goal
    rw [eq]
    exact h
  cases m with
  | build place batch stem =>
    left
    rcases s.build_cases place batch stem with same | ⟨-, settings, built⟩
    · rwa [same]
    · rw [built]
      exact calm
  | start | block | join => exact .inl (started _ _ calm)
  | startRounds =>
    refine .inl (started _ _ (State.Calm.enqueue ?_ _ _ _))
    exact calm
  | launchRoot => exact .inl ((calm.addNode _ _ _).launch _ _ _ _)
  | leaveRoot | close =>
    left
    refine State.Calm.doFirst ?_ (by simp)
    exact calm
  | line plain => exact .inr ⟨_, _, _, plain, rfl, State.plain?_asks idle plain⟩
  | shelve => exact .inl (calm.shelve _)

/-! ### Whoever is asked for is there -/

theorem Kinship.knows (h : Kinship s) (listed : n ∈ s.children p) : s.Knows p ∧ s.Knows n := by
  obtain ⟨node, found, -⟩ := h.listed p n listed
  refine ⟨?_, node, found⟩
  cases above : s.nodes.get? p with
  | none => simp [State.children, above] at listed
  | some node => exact ⟨node, above⟩

namespace Sound

theorem has (h : Sound s d) {c : Context} {base : List Resource} (seat : Seated s c base)
    {r : Resource} (mine : r ∈ base) : s.Has r := by
  refine h.own.there r ?_
  have := seat.count_le h.formed r
  have := List.count_pos_iff.2 mine
  omega

theorem has_of_find? (h : Sound s d) {c : Context} {base : List Resource} (seat : Seated s c base)
    (sub : frame.resources ⊆ base) {name : String} {r : Resource}
    (found : s.find? frame name = some r) : s.Has r := by
  unfold State.find? at found
  cases own : frame.find? name with
  | some r' =>
    rw [own] at found
    cases found
    exact h.has seat (sub (Frame.mem_resources_of_find? own))
  | none =>
    rw [own] at found
    have shared := List.count_pos_iff.2 (Frame.mem_resources_of_find? found)
    refine h.own.there r ?_
    simp only [State.owners]
    omega

theorem knows_task (h : Sound s d) (has : s.Has (.handle n)) : s.Knows n := by
  obtain ⟨task, found, -⟩ := has
  obtain ⟨node, known, -⟩ := Option.map_eq_some_iff.1 (h.formed.tasks n task found)
  exact ⟨node, known⟩

theorem knows_group (h : Sound s d) (has : s.Has (.group n)) : s.Knows n := by
  obtain ⟨group, found⟩ := has
  obtain ⟨node, known, -⟩ := Option.map_eq_some_iff.1 (h.formed.groups n group found)
  exact ⟨node, known⟩

theorem knows_request (h : Sound s d) {c : Context} {base : List Resource}
    (seat : Seated s c base) (sub : frame.resources ⊆ base) (asked : n ∈ s.requests frame tag act) :
    s.Knows n := by
  cases act with
  | cancel =>
    have found := Option.mem_toList.1 asked
    simp only [State.findHandle?] at found
    split at found
    · rename_i t held
      cases found
      exact h.knows_task (h.has_of_find? seat sub held)
    · cases found
  | cancelGroup =>
    have found := Option.mem_toList.1 asked
    simp only [State.findGroup?] at found
    split at found
    · rename_i g held
      cases found
      exact h.knows_group (h.has_of_find? seat sub held)
    · cases found
  | _ => cases asked

theorem knows_bodyRequest (h : Sound s d) {task : Task} (runs : s.Runs home t task f)
    (asked : n ∈ s.bodyRequests f) : s.Knows n := by
  have sub : f.frame.resources ⊆ f.resources := fun r hr => List.mem_append_right _ hr
  unfold State.bodyRequests at asked
  split at asked
  · cases asked
  · split at asked
    · rename_i w waits
      have own := h.wakeful.waitsOnOwn t task f w runs.found runs.fiber waits
      obtain ⟨wtag, attempt, wait⟩ := w
      cases wait with
      | filling g plan =>
        cases plan with
        | nil => cases asked
        | cons item rest =>
          cases item with
          | cancelAll =>
            rw [List.mem_singleton.1 asked]
            exact h.knows_group (h.has (.body runs) own)
          | _ => cases asked
      | _ => cases asked
    · exact h.knows_request (.body runs) sub asked
    · cases asked

/-- **Whoever is asked for is there.** -/
theorem knows_asked (h : Sound s d) (asked : n ∈ s.asked) : s.Knows n := by
  unfold State.asked at asked
  split at asked
  · rename_i home goal idle active
    unfold State.sliceRequests at asked
    split at asked
    · rename_i t during
      split at asked
      · rename_i f fiber calm
        obtain ⟨task, found, fiber'⟩ := Option.bind_eq_some_iff.1 fiber
        exact h.knows_bodyRequest ⟨.inl during, found, fiber'⟩ asked
      · cases asked
    · rename_i a handled code frame reply during
      cases code with
      | nil => cases asked
      | cons line rest =>
        obtain ⟨tag, act⟩ := line
        exact h.knows_request (.handler during) (List.Subset.refl _) asked
    · cases asked
  · cases asked

end Sound

/-! ### Every transition spreads flags or spares them -/

theorem State.step_of_agenda (first : s.agenda = a :: as) :
    s.step = State.perform { s with agenda := as } a := by
  unfold step
  rw [first]

/-- The cancellation of a node that is asked for is on the agenda afterwards. -/
theorem Cancels.pending (h : Cancels s n s') : .cancel n ∈ s'.agenda := by
  cases h with
  | line asked =>
    have idle : s.agenda = [] := by
      unfold State.asked at asked
      split at asked
      · assumption
      · cases asked
    exact (State.step_orders idle).mem_iff.2 (List.mem_append_left _ asked)
  | main rests plain asked =>
    exact (State.plain?_asks (State.idle_of_resting rests) plain).mem_iff.2 asked
  | group first condemned =>
    rw [State.step_of_agenda first]
    refine State.Condemns.pending ?_
    exact condemned.congr rfl rfl rfl

/-- While something is on the agenda, the first item is done and nothing else. -/
theorem Transition.eq_perform (t : Transition s d s' d') (first : s.agenda = a :: as) :
    s' = State.perform { s with agenda := as } a := by
  have busy : s.agenda ≠ [] := by simp [first]
  cases t with
  | step => exact State.step_of_agenda first
  | stray idle => exact absurd idle busy
  | move rests => exact absurd (State.idle_of_resting rests) busy

namespace Sound

theorem spread_step (h : Sound s d) (idle : s.agenda = []) : Spread s s.step := by
  have spares : Spares s s.step := by
    have next := State.step_cases h.wakeful.waitsOnOwn
    generalize s.step = s' at next
    cases next with
    | item first =>
      rw [first] at idle
      cases idle
    | work _ _ w => exact w.spares h.formed h.dispatch
    | rest => exact .refl s
  have why : ∀ n ∈ s.orders, n ∈ s.asked ∨ ∃ p, s.failing = some p ∧ n ∈ s.children p := by
    intro n hn
    refine (List.mem_append.1 hn).imp id fun below => ?_
    obtain ⟨p, failing, listed⟩ := List.mem_flatMap.1 below
    exact ⟨p, Option.mem_toList.1 failing, listed⟩
  refine .calm (.idle idle) spares (State.step_orders idle) (fun n hn => ?_) fun n hn _ => ?_
  · rcases why n hn with asked | ⟨p, failing, listed⟩
    · exact .itself (.line asked)
    · exact .child failing rfl listed
  · rcases why n hn with asked | ⟨p, -, listed⟩
    · exact h.knows_asked asked
    · exact (h.kinship.knows listed).2

theorem spread_move (h : Sound s d) (rests : s.resting = true) (m : Move s d s' d') :
    Spread s s' := by
  have idle := State.idle_of_resting rests
  have spares := m.spares h.formed idle
  rcases m.orders rests with calm | ⟨tag, act, reaction, plain, begun, orders⟩
  · exact .calm (.idle idle) spares calm (by simp) (by simp)
  · refine .calm (.idle idle) spares orders (fun n hn => ?_) fun n hn _ => ?_
    · rw [begun]
      exact .itself (.main rests plain hn)
    · exact h.knows_request .main (List.Subset.refl _) hn

end Sound

/-- An item of the agenda begins a walk only if it is one by which a group is cancelled. -/
theorem Spread.of_item (orders : Orders s.agenda ns) (first : s.agenda = a :: as)
    (other : ∀ n, a ≠ .cancel n) : Spread s (State.perform { s with agenda := as } a) := by
  have calm : State.Calm { s with agenda := as } := (first ▸ orders).tail_of_ne other
  have before : s.Calm := by
    refine .of_calm fun n hn => ?_
    rw [first] at hn
    rcases List.mem_cons.1 hn with now | later
    · exact other n now.symm
    · exact calm.free later
  have e : Effect { s with agenda := as } a (State.perform { s with agenda := as } a) :=
    State.perform_effect a
  have popped : Spares s { s with agenda := as } := .of_nodes rfl
  have spares := popped.trans (e.spares other)
  rcases e.orders calm other with quiet | ⟨g, condemned, same, begins⟩
  · exact .calm before spares quiet (by simp) (by simp)
  · refine .calm before spares begins (fun n hn => ?_) fun n hn known => ?_
    · rw [List.mem_singleton.1 hn, ← State.step_of_agenda first]
      exact .itself (.group first (condemned.congr rfl rfl rfl))
    · rwa [State.Knows, same] at known

/-- **Every transition goes on with a walk, or flags nobody that was there.** -/
theorem Transition.spread (h : Sound s d) (orders : Orders s.agenda ns)
    (t : Transition s d s' d') : Spread s s' := by
  cases first : s.agenda with
  | nil =>
    cases t with
    | step => exact h.spread_step first
    | stray _ found =>
      exact .calm (.idle first) (.of_nodes rfl) ((State.Calm.idle first).doFirst (by simp))
        (by simp) (by simp)
    | move rests m => exact h.spread_move rests m
  | cons a rest =>
    have next := t.eq_perform first
    subst next
    by_cases walk : ∃ n, a = .cancel n
    · obtain ⟨n, rfl⟩ := walk
      exact .walk first rfl
    · exact .of_item orders first fun n eq => walk ⟨n, eq⟩

/-! ### Along a run -/

/-- The cancellations that are to be done stand at the front of the agenda. -/
theorem Reachable.orders (h : Reachable s d) : ∃ ns, Orders s.agenda ns := by
  induction h with
  | init => exact ⟨[], .of_calm (by simp)⟩
  | next h t ih =>
    obtain ⟨ns, orders⟩ := ih
    cases t.spread h.sound orders with
    | walk first next =>
      rw [first] at orders
      obtain ⟨ns', rest⟩ := orders.tail
      subst next
      rw [State.agenda_walk]
      split
      · exact ⟨ns', rest⟩
      · exact ⟨_, rest.ahead _⟩
    | calm _ _ begins => exact ⟨_, begins⟩

/-- Every transition of a run goes on with a walk, or flags nobody that was there. -/
theorem Reachable.spread (h : Reachable s d) (t : Transition s d s' d') : Spread s s' := by
  obtain ⟨ns, orders⟩ := h.orders
  exact t.spread h.sound orders

/-- **Behind a walk every child of a flagged node is flagged.** -/
theorem Reachable.closed (h : Reachable s d) : s.Closed := by
  induction h with
  | init =>
    intro p n flagged
    simp [State.flagged, Store.get?, Store.lookup] at flagged
  | @next s s' d d' h t closed =>
    intro p n flagged listed
    cases h.spread t with
    | @walk k rest first next =>
      subst next
      rw [State.children_walk] at listed
      rw [State.flagged_walk] at flagged ⊢
      rw [State.agenda_walk, List.mem_append]
      have old : s.flagged p = true →
          (s.flagged n = true ∨ n = k ∧ s.Knows k) ∨ .cancel n ∈ rest := by
        intro above
        rcases closed p n above listed with done | ahead
        · exact .inl (.inl done)
        · rw [first] at ahead
          rcases List.mem_cons.1 ahead with now | later
          · cases now
            exact .inl (.inr ⟨rfl, (h.sound.kinship.knows listed).2⟩)
          · exact .inr later
      -- a node that was flagged before, or the one that the walk has come to
      rcases flagged with above | ⟨rfl, -⟩
      · exact (old above).imp id .inr
      · -- the walk goes on to all children of a node that was not flagged
        by_cases above : s.flagged p = true
        · exact (old above).imp id .inr
        · refine .inr (.inl ?_)
          rw [if_neg above]
          exact List.mem_map_of_mem listed
    | calm calm spares =>
      -- a child that was there before, or one that is new and inherits the flag
      rcases spares.listed p n listed with old | new
      · obtain ⟨⟨above, known⟩, node, found⟩ := h.sound.kinship.knows old
        rw [spares.flagged known] at flagged
        rcases closed p n flagged old with done | ahead
        · exact .inl (by rwa [spares.flagged found])
        · exact absurd ahead calm.free
      · obtain ⟨node, found, parent⟩ := (h.next t).sound.kinship.listed p n listed
        left
        have inherits := (spares.born n node new found).inherits
        rw [parent, Option.any_some, flagged] at inherits
        simp [State.flagged, found, inherits]

/-- **A child is younger than its parent.** -/
theorem Reachable.descends (h : Reachable s d) : s.Descends := by
  induction h with
  | init =>
    intro n node p found
    simp [Store.get?, Store.lookup] at found
  | @next s s' d d' h t descends =>
    intro n node p found parent
    cases h.spread t with
    | @walk k rest first next =>
      subst next
      have same : ((s.walk k rest).nodes.get? n).map Node.parent =
        (s.nodes.get? n).map Node.parent := State.field_walk fun _ _ => rfl
      rw [found, Option.map_some, parent] at same
      obtain ⟨node', found', parent'⟩ := Option.map_eq_some_iff.1 same.symm
      exact descends n node' p found' parent'
    | calm _ spares =>
      cases before : s.nodes.get? n with
      | none => exact ((spares.born n node before found).below p parent).1
      | some old =>
        obtain ⟨node', found', -, same⟩ := spares.kept n old before
        cases found.symm.trans found'
        exact descends n old p before (same ▸ parent)

/-- A flag is never cleared. -/
theorem Spread.flagged (h : Spread s s') (flagged : s.flagged n = true) : s'.flagged n = true := by
  cases h with
  | walk first next =>
    subst next
    exact State.flagged_walk.2 (.inl flagged)
  | calm _ spares =>
    cases found : s.nodes.get? n with
    | none => simp [State.flagged, found] at flagged
    | some node => rwa [spares.flagged found]

theorem Spread.knows (h : Spread s s') (known : s.Knows n) : s'.Knows n := by
  cases h with
  | walk first next =>
    subst next
    exact State.knows_walk.2 known
  | calm _ spares =>
    obtain ⟨node, found⟩ := known
    obtain ⟨node', found', -⟩ := spares.kept n node found
    exact ⟨node', found'⟩

end Nursery
