import Nursery.Machine.Body
import Nursery.Proofs.Line.Plain

/-!
# Lines that wait, as changes

A line that waits either finds what it looks for or leaves the waker of its task where the event
it waits for will find it: the wait is *armed*.  Both are changes, and what the line owned beside
the frame is part of the hand.

* `Wait.Armed` : what a wait is for is not there, and the waker is where it should be.
* `Wait.OnOwn` : a wait is for something that the body owns.
* `Turn.Fits` : a turn is a sequence of changes and leaves an armed wait when it suspends.
* `State.poll_fits` : another look of a suspended line.
-/

namespace Nursery

namespace State

/-- A task that has not ended will wake another one. -/
def Awaits (s : State) (t u : TaskId) : Prop :=
  (s.phase u).isTerminal = false ∧
    ∀ task, s.tasks.get? u = some task → .task t ∈ task.waiters

/-- A call without a reply will wake a task. -/
def Expects (s : State) (t : TaskId) (k : CallId) : Prop :=
  ∀ call, s.calls.get? k = some call →
    call.accepted = true ∧ call.outcome = none ∧ call.waker = some t

/-- A group of which nothing can be collected now will wake a task. -/
def Listens (s : State) (t g : TaskId) : Prop :=
  s.completed g = [] ∧ (∀ group, s.groups.get? g = some group → 0 < group.remaining) ∧
    ∀ signal, s.signals.get? g = some signal → signal.waker = some t

end State

namespace Wait

/-- What the wait is for is not there, and the waker is where it should be.  A body that gives way
or fills a group waits for nothing. -/
def Armed (s : State) (t : TaskId) : Wait → Prop
  | .yielding _ | .spinning .. | .filling .. => False
  | .parked => True
  | .awaiting (.handle u) _ => s.Awaits t u
  | .awaiting (.call k) _ => s.Expects t k
  | .awaiting (.group _) _ => False
  | .selecting handles => ∀ h ∈ handles, s.Awaits t h.2
  | .next g | .all g .. => s.Listens t g

/-- What the wait is for is among the resources given. -/
def OnOwn (rs : List Resource) : Wait → Prop
  | .yielding _ | .spinning .. | .parked => True
  | .awaiting (.group _) _ => False
  | .awaiting r _ => r ∈ rs
  | .selecting handles => ∀ h ∈ handles, .handle h.2 ∈ rs
  | .next g | .all g .. | .filling g _ => .group g ∈ rs

end Wait

/-- What a flow takes from the line beside its fiber. -/
def Flow.owned : Flow → List Resource
  | .panic _ owned => owned
  | _ => []

/-- A turn is a sequence of changes, and it leaves an armed wait, or the task woken, when it
suspends the body. -/
structure Turn.Fits (c : Context) (s : State) (hand : List Resource) (t : TaskId)
    (turn : Turn) : Prop where
  /-- What the turn has done and leaves to be done. -/
  changes : Changes c s hand (turn.state.doLast turn.after)
    (turn.flow.owned ++ turn.fiber.resources)
  /-- A wait is for something that the body owns. -/
  own : ∀ w, turn.fiber.waiting = some w → w.wait.OnOwn turn.fiber.resources
  /-- A suspended body will be woken. -/
  armed : turn.flow = .suspend → ∃ w, turn.fiber.waiting = some w ∧
    (w.wait.Armed turn.state t ∨ .wake (.task t) ∈ turn.after)

namespace State

variable {c : Context} {s s' : State} {hand : List Resource} {t : TaskId} {f : Fiber} {tag : Tag}
  {attempt : Attempt}

theorem resources_of_waiting (h : f.waiting = none) : f.resources = f.frame.resources := by
  simp [Fiber.resources, h]

/-! ### How a line ends -/

theorem settled_fits {after : List Action} {flow : Flow}
    (h : Changes c s hand (s'.doLast after) (flow.owned ++ f.frame.resources))
    (hf : f.waiting = none) (goes : flow ≠ .suspend) :
    Turn.Fits c s hand t { state := s', fiber := f, after := after, flow := flow } where
  changes := by rwa [resources_of_waiting hf]
  own w hw := by simp [hf] at hw
  armed hs := absurd hs goes

theorem tells_fits {report : Report} (h : Changes c s hand s' f.frame.resources)
    (hf : f.waiting = none) : (s'.tells t f tag report).Fits c s hand t :=
  settled_fits (h.trans (Changes.tells ..)) hf (by simp)

theorem harvest_fits {after : List Action} {harvest : Harvest}
    (h : Changes c s hand (s'.doLast after) f.frame.resources) (hf : f.waiting = none) :
    (s'.harvest t f tag attempt after harvest).Fits c s hand t := by
  have told : ∀ report, Changes c s hand (s'.doLast (after ++ tag.tells (.task t) report))
      f.frame.resources := by
    intro report
    rw [doLast_append]
    exact h.trans (Changes.tells ..)
  cases harvest with
  | values report xs =>
    exact settled_fits (f := { f with sum := xs.foldl (· + ·) f.sum }) (told report) hf (by simp)
  | failure report fault error =>
    cases attempt <;> exact settled_fits (told report) hf (by simp)

theorem suspends_fits {wait : Wait} {after : List Action}
    (h : Changes c s hand (s'.doLast after) (wait.resources ++ f.frame.resources))
    (own : wait.OnOwn (wait.resources ++ f.frame.resources))
    (armed : wait.Armed s' t ∨ .wake (.task t) ∈ after) :
    (s'.suspends f tag attempt wait after).Fits c s hand t where
  changes := h
  own w hw := by
    cases hw
    exact own
  armed _ := ⟨_, rfl, armed⟩

/-! ### Handles and calls -/

theorem pollHandle_fits (me : c.task = some t) {u : TaskId} (mine : .handle u ∈ hand) :
    Changes c s hand (s.pollHandle u t).1 hand ∧
      ((s.pollHandle u t).2 = .pending → (s.pollHandle u t).1.Awaits t u) := by
  unfold pollHandle takeOutcome
  split
  · rename_i ended
    cases ho : (s.tasks.get? u).bind Task.outcome <;>
      exact ⟨.single (.take ended (.inl mine) (.inl mine)), fun h => by simp at h⟩
  · rename_i ongoing
    simp only [Bool.not_eq_true] at ongoing
    refine ⟨.single (.register me mine ongoing), fun _ => ⟨ongoing, fun task ht => ?_⟩⟩
    obtain ⟨a, _, rfl⟩ := Store.get?_modify_eq_some.1 ht
    simp

/-- A look at another handle leaves a task registered where it is. -/
theorem Awaits.pollHandle {v : TaskId} (h : s.Awaits t v) (u poller : TaskId) :
    (s.pollHandle u poller).1.Awaits t v := by
  have key : ∀ f : Task → Task, (∀ m, ∀ w ∈ m.waiters, w ∈ (f m).waiters) →
      (s.modifyTask u f).Awaits t v := by
    intro f hf
    refine ⟨h.1, fun task ht => ?_⟩
    obtain ⟨a, ha, rfl⟩ := Store.get?_modify_eq_some.1 ht
    split
    · exact hf _ _ (h.2 a ha)
    · exact h.2 a ha
  unfold State.pollHandle takeOutcome
  split
  · cases ho : (s.tasks.get? u).bind Task.outcome <;> exact key _ fun _ _ hw => hw
  · exact key _ fun _ _ hw => List.mem_append_left _ hw

theorem pollCall_fits (idle : s.agenda = []) (me : c.task = some t) {k : CallId}
    (mine : .call k ∈ hand) :
    Changes c s hand (s.pollCall k t).1 hand ∧
      ((s.pollCall k t).2 = .pending → (s.pollCall k t).1.Expects t k) := by
  unfold pollCall
  split
  · rename_i missing
    exact ⟨.refl, fun _ call hc => by simp [missing] at hc⟩
  · rename_i call found
    split
    · exact ⟨.single (.learn mine), fun h => by simp at h⟩
    · rename_i open_
      split
      · rename_i accepted
        refine ⟨.single (.expect idle me mine found open_ accepted), fun _ call' hc => ?_⟩
        obtain ⟨a, ha, rfl⟩ := Store.get?_modify_eq_some.1 hc
        cases found.symm.trans ha
        simp [accepted, open_]
      · exact ⟨.refl, fun h => by simp at h⟩

theorem pollResource_fits (idle : s.agenda = []) (me : c.task = some t) {r : Resource}
    (mine : r ∈ hand) (single : ∀ g, r ≠ .group g) (taken : Bool) :
    Changes c s hand (s.pollResource t r).1 hand ∧
      ((s.pollResource t r).2 = .pending →
        (Wait.awaiting r taken).Armed (s.pollResource t r).1 t) := by
  cases r with
  | handle u =>
    have key := pollHandle_fits (s := s) me mine
    simp only [pollResource]
    generalize s.pollHandle u t = p at key ⊢
    obtain ⟨s', polled⟩ := p
    cases polled with
    | ready outcome => exact ⟨key.1, fun h => by simp at h⟩
    | pending => exact ⟨key.1, fun _ => key.2 rfl⟩
    | panics message => exact ⟨key.1, fun h => by simp at h⟩
  | group g => exact absurd rfl (single g)
  | call k =>
    have key := pollCall_fits idle me mine
    simp only [pollResource]
    generalize s.pollCall k t = p at key ⊢
    obtain ⟨s', polled⟩ := p
    cases polled with
    | ready outcome => exact ⟨key.1, fun h => by simp at h⟩
    | pending => exact ⟨key.1, fun _ => key.2 rfl⟩
    | panics message => exact ⟨key.1, fun h => by simp at h⟩

theorem awaitResource_fits (idle : s'.agenda = []) (me : c.task = some t) {r : Resource}
    {taken : Bool} (single : ∀ g, r ≠ .group g) (hf : f.waiting = none)
    (h : Changes c s hand s' ((if taken then [r] else []) ++ f.frame.resources))
    (mine : r ∈ (if taken then [r] else []) ++ f.frame.resources) :
    (s'.awaitResource t f tag attempt r taken).Fits c s hand t := by
  have key := pollResource_fits idle me mine single taken
  have owned : (Wait.awaiting r taken).resources = if taken then [r] else [] := by
    cases taken <;> rfl
  unfold awaitResource
  generalize s'.pollResource t r = p at key ⊢
  obtain ⟨s'', polled⟩ := p
  have looked := h.trans key.1
  cases polled with
  | ready harvest =>
    apply harvest_fits _ hf
    cases taken with
    | true => exact looked.tail (.release rfl)
    | false => simpa using looked
  | pending =>
    apply suspends_fits
    · rw [owned, doLast_nil]
      exact looked
    · rw [owned]
      cases r with
      | handle u => exact mine
      | group g => exact absurd rfl (single g)
      | call k => exact mine
    · exact .inl (key.2 rfl)
  | panics message => exact settled_fits (by rwa [doLast_nil]) hf (by simp)

/-- A look at the handles of which a line waits for the first: if none is ready, the task is
registered with all of them. -/
theorem pollFirst_fits (me : c.task = some t) (handles : List (String × TaskId)) :
    ∀ (seen : List (String × TaskId)) (s : State), (∀ h ∈ handles, .handle h.2 ∈ hand) →
      (∀ h ∈ seen, s.Awaits t h.2) →
      Changes c s hand (pollFirst t seen handles s).1 hand ∧
        ((pollFirst t seen handles s).2 = .pending →
          ∀ h ∈ seen ++ handles, (pollFirst t seen handles s).1.Awaits t h.2) ∧
        ∀ name u outcome others,
          (pollFirst t seen handles s).2 = .ready (name, u, outcome, others) →
            ((name, u) :: others).Perm (seen ++ handles) := by
  -- along the handles; `seen` are those with which the task is registered already
  induction handles with
  | nil =>
    intro seen s _ registered
    exact ⟨.refl, fun _ h hm => registered h (by simpa using hm), fun _ _ _ _ h => by
      simp [pollFirst] at h⟩
  | cons item rest ih =>
    obtain ⟨name, u⟩ := item
    intro seen s mine registered
    have key := pollHandle_fits (s := s) me (mine _ List.mem_cons_self)
    have kept : ∀ h ∈ seen, (s.pollHandle u t).1.Awaits t h.2 :=
      fun h hm => (registered h hm).pollHandle u t
    simp only [pollFirst]
    generalize s.pollHandle u t = p at key kept ⊢
    obtain ⟨s', polled⟩ := p
    cases polled with
    | ready outcome =>
      refine ⟨key.1, fun h => by simp at h, fun name' u' outcome' others h => ?_⟩
      cases h
      exact List.perm_middle.symm
    | pending =>
      have more : ∀ h ∈ seen ++ [(name, u)], s'.Awaits t h.2 := by
        intro h hm
        rcases List.mem_append.1 hm with hm | hm
        · exact kept h hm
        · rw [List.mem_singleton.1 hm]
          exact key.2 rfl
      have next := ih (seen ++ [(name, u)]) s' (fun h hm => mine h (List.mem_cons_of_mem _ hm)) more
      rw [List.append_assoc, List.singleton_append] at next
      exact ⟨key.1.trans next.1, next.2⟩
    | panics message =>
      exact ⟨key.1, fun h => by simp at h, fun _ _ _ _ h => by simp at h⟩

theorem count_foldl_bind (others : List (String × TaskId)) (r : Resource) :
    ∀ frame : Frame,
      (others.foldl (fun frame h => frame.bind h.1 (.handle h.2)) frame).resources.count r ≤
        ((others.map fun h => Resource.handle h.2) ++ frame.resources).count r := by
  induction others with
  | nil => intro frame; simp
  | cons h rest ih =>
    intro frame
    have := ih (frame.bind h.1 (.handle h.2))
    have := Frame.count_bind frame h.1 (.handle h.2) r
    simp only [List.foldl_cons, List.map_cons, List.cons_append, List.count_append,
      List.count_cons] at *
    omega

theorem awaitFirst_fits (me : c.task = some t) {handles : List (String × TaskId)}
    (hf : f.waiting = none)
    (h : Changes c s hand s' ((handles.map fun h => Resource.handle h.2) ++ f.frame.resources)) :
    (s'.awaitFirst t f tag attempt handles).Fits c s hand t := by
  have mine : ∀ h ∈ handles, Resource.handle h.2 ∈
      (handles.map fun h => Resource.handle h.2) ++ f.frame.resources :=
    fun h hm => List.mem_append_left _ (List.mem_map.2 ⟨h, hm, rfl⟩)
  have key := pollFirst_fits me handles [] s' mine (by simp)
  unfold awaitFirst
  generalize pollFirst t [] handles s' = p at key ⊢
  obtain ⟨s'', polled⟩ := p
  have looked := h.trans key.1
  cases polled with
  | ready found =>
    obtain ⟨name, u, outcome, others⟩ := found
    have perm : ((name, u) :: others).Perm handles := key.2.2 name u outcome others rfl
    have put : Changes c s hand s'' (.handle u ::
        (others.foldl (fun frame h => frame.bind h.1 (.handle h.2)) f.frame).resources) := by
      refine looked.tail (.shed fun r => ?_)
      have first := (perm.map fun h => Resource.handle h.2).count_eq r
      have back := count_foldl_bind others r f.frame
      simp only [List.map_cons, List.count_cons, List.count_append] at first back ⊢
      omega
    refine harvest_fits ?_ hf
    rw [doLast_cons]
    exact (put.tail (.release rfl)).tail (.record _ ⟨rfl, rfl⟩)
  | pending =>
    apply suspends_fits
    · rw [doLast_nil]
      exact looked
    · exact mine
    · exact .inl (key.2.1 rfl)
  | panics message => exact settled_fits (by rwa [doLast_nil]) hf (by simp)

/-! ### Groups -/

theorem collect_fits {g : TaskId} {index : Nat} {rest : List Nat} (looks : s.Looks c)
    (mine : .group g ∈ hand) (ready : s.completed g = index :: rest) :
    let looked := ((s.modifySignal g fun m => { m with completed := rest }).collect g index).1
    Changes c s hand looked hand ∧ looked.completed g = rest ∧ looked.agenda = s.agenda ∧
      looked.Looks c := by
  have drawn := Changes.single (Change.draw (c := c) mine ready looks)
  have left : (s.modifySignal g fun m => { m with completed := rest }).completed g = rest := by
    cases hs : s.signals.get? g with
    | none => simp [completed, hs] at ready
    | some signal => simp [completed, modifySignal, Store.get?_modify_self, hs]
  have quiet : (s.modifySignal g fun m => { m with completed := rest }).agenda = s.agenda := rfl
  have still : (s.modifySignal g fun m => { m with completed := rest }).Looks c :=
    ⟨looks.body, looks.calm⟩
  generalize s.modifySignal g (fun m => { m with completed := rest }) = s₁
    at drawn left quiet still ⊢
  unfold collect
  -- a place without a group or a child draws nothing more
  cases hg : s₁.groups.get? g with
  | none =>
    have same : s₁.modifyGroup g (fun m => { m with remaining := m.remaining - 1 }) = s₁ := by
      simp only [modifyGroup, Store.modify_of_none hg]
    rw [same] at drawn
    exact ⟨drawn, left, quiet, still⟩
  | some group =>
    dsimp only
    have owner : (s₁.modifyGroup g fun m => { m with remaining := m.remaining - 1 }).groups.get? g
        = some { group with remaining := group.remaining - 1 } := by
      simp [modifyGroup, Store.get?_modify_self, hg]
    have still : (s₁.modifyGroup g fun m => { m with remaining := m.remaining - 1 }).Looks c :=
      ⟨still.body, still.calm⟩
    split
    · exact ⟨drawn, left, quiet, still⟩
    · rename_i u hc
      have child : u ∈ group.children := List.mem_of_getElem? hc
      split
      · rename_i ended
        have taken := drawn.tail (.take ended (.inr ⟨g, _, mine, owner, child⟩) (.inr still))
        have left' : ((s₁.modifyGroup g fun m =>
            { m with remaining := m.remaining - 1 }).takeOutcome u).1.completed g = rest := left
        have quiet' : ((s₁.modifyGroup g fun m =>
            { m with remaining := m.remaining - 1 }).takeOutcome u).1.agenda = s.agenda := quiet
        have still' : ((s₁.modifyGroup g fun m =>
            { m with remaining := m.remaining - 1 }).takeOutcome u).1.Looks c :=
          still.modifyTask fun _ => rfl
        change Changes c s hand ((s₁.modifyGroup g fun m =>
          { m with remaining := m.remaining - 1 }).takeOutcome u).1 hand at taken
        generalize (s₁.modifyGroup g fun m =>
          { m with remaining := m.remaining - 1 }).takeOutcome u = p at taken left' quiet' still' ⊢
        obtain ⟨s₂, outcome⟩ := p
        rcases outcome with _ | e | value
        · exact ⟨taken, left', quiet', still'⟩
        · dsimp only
          split
          · exact ⟨taken, left', quiet', still'⟩
          · split
            · exact ⟨taken.tail (.tell _ (.inr still') rfl), left', quiet',
                ⟨still'.body, still'.calm⟩⟩
            · exact ⟨taken.tail (.fail mine still'), left', quiet', ⟨still'.body, still'.calm⟩⟩
        · exact ⟨taken, left', quiet', still'⟩
      · exact ⟨drawn, left, quiet, still⟩

theorem awaitSignal_fits (looks : s.Looks c) (idle : s.agenda = []) (me : c.task = some t)
    {g : TaskId} (mine : .group g ∈ hand) (none_ready : s.completed g = []) :
    Changes c s hand (s.awaitSignal g t) hand ∧
      (s.drained g = false → (s.awaitSignal g t).Listens t g) := by
  refine ⟨.single (.listen idle me mine none_ready looks), fun more => ⟨?_, fun group hg => ?_, ?_⟩⟩
  · cases hs : s.signals.get? g with
    | none => simp [completed, awaitSignal, modifySignal, doFirst, Store.get?_modify_self, hs]
    | some signal =>
      have : signal.completed = [] := by simpa [completed, hs] using none_ready
      simp [completed, awaitSignal, modifySignal, doFirst, Store.get?_modify_self, hs, this]
  · have found : s.groups.get? g = some group := hg
    have : group.remaining ≠ 0 := by simpa [drained, found] using more
    exact Nat.pos_of_ne_zero this
  · intro signal hs
    obtain ⟨a, _, rfl⟩ := Store.get?_modify_eq_some.1 hs
    simp

theorem nextAmong_fits (me : c.task = some t) {g : TaskId} (mine : .group g ∈ hand)
    (l : List Nat) : ∀ s : State, s.Looks c → s.agenda = [] → s.completed g = l →
      Changes c s hand (nextAmong g t l s).1 hand ∧
        ((nextAmong g t l s).2 = .pending → (nextAmong g t l s).1.Listens t g) := by
  induction l with
  | nil =>
    intro s looks idle none_ready
    have key := awaitSignal_fits looks idle me mine none_ready
    refine ⟨key.1, fun h => key.2 ?_⟩
    simp only [nextAmong] at h
    split at h
    · simp at h
    · rename_i more
      simpa using more
  | cons index rest ih =>
    intro s looks idle ready
    have key := collect_fits looks mine ready
    simp only [nextAmong]
    generalize (s.modifySignal g fun m => { m with completed := rest }).collect g index = p
      at key ⊢
    obtain ⟨s', result⟩ := p
    cases result with
    | none =>
      have next := ih s' key.2.2.2 (key.2.2.1.trans idle) key.2.1
      exact ⟨key.1.trans next.1, next.2⟩
    | some result => exact ⟨key.1, fun h => by simp at h⟩

theorem allAmong_fits (me : c.task = some t) {g : TaskId} (mine : .group g ∈ hand)
    (l : List Nat) : ∀ (s : State) (tally : Tally), s.Looks c → s.agenda = [] →
      s.completed g = l →
      Changes c s hand (allAmong g t l tally s).1 hand ∧
        ((allAmong g t l tally s).2.2 = .pending → (allAmong g t l tally s).1.Listens t g) := by
  induction l with
  | nil =>
    intro s tally looks idle none_ready
    have key := awaitSignal_fits looks idle me mine none_ready
    refine ⟨key.1, fun h => key.2 ?_⟩
    simp only [allAmong] at h
    split at h
    · simp at h
    · rename_i more
      simpa using more
  | cons index rest ih =>
    intro s tally looks idle ready
    have key := collect_fits looks mine ready
    simp only [allAmong]
    generalize (s.modifySignal g fun m => { m with completed := rest }).collect g index = p
      at key ⊢
    obtain ⟨s', result⟩ := p
    cases result with
    | none =>
      have next := ih s' tally key.2.2.2 (key.2.2.1.trans idle) key.2.1
      exact ⟨key.1.trans next.1, next.2⟩
    | some result =>
      have next := ih s' (tally.add result) key.2.2.2 (key.2.2.1.trans idle) key.2.1
      exact ⟨key.1.trans next.1, next.2⟩

theorem awaitNext_fits (looks : s'.Looks c) (idle : s'.agenda = []) (me : c.task = some t)
    {g : TaskId}
    (hf : f.waiting = none) (h : Changes c s hand s' f.frame.resources)
    (mine : .group g ∈ f.frame.resources) :
    (s'.awaitNext t f tag attempt g).Fits c s hand t := by
  have key := nextAmong_fits me mine _ s' looks idle rfl
  unfold awaitNext pollNext
  generalize nextAmong g t (s'.completed g) s' = p at key ⊢
  obtain ⟨s'', polled⟩ := p
  have looked := h.trans key.1
  cases polled with
  | ready result => exact harvest_fits (by rwa [doLast_nil]) hf
  | pending =>
    refine suspends_fits ?_ mine (.inl (key.2 rfl))
    rw [doLast_nil]
    exact looked
  | panics message => exact settled_fits (by rwa [doLast_nil]) hf (by simp)

theorem awaitAll_fits (looks : s'.Looks c) (idle : s'.agenda = []) (me : c.task = some t)
    {g : TaskId} {own : Bool}
    {tally : Tally} (hf : f.waiting = none)
    (h : Changes c s hand s' ((if own then [.group g] else []) ++ f.frame.resources))
    (mine : .group g ∈ (if own then [.group g] else []) ++ f.frame.resources) :
    (s'.awaitAll t f tag attempt g own tally).Fits c s hand t := by
  have key := allAmong_fits me mine _ s' tally looks idle rfl
  have owned : ∀ values failure, (Wait.all g own values failure).resources =
      if own then [.group g] else [] := by
    cases own <;> exact fun _ _ => rfl
  unfold awaitAll pollAll
  generalize allAmong g t (s'.completed g) tally s' = p at key ⊢
  obtain ⟨s'', tally', polled⟩ := p
  have looked := h.trans key.1
  cases polled with
  | ready result => exact harvest_fits (looked.trans (Changes.releases _)) hf
  | pending =>
    apply suspends_fits
    · rw [owned, doLast_nil]
      exact looked
    · rw [owned]
      exact mine
    · exact .inl (key.2 rfl)
  | panics message => exact settled_fits (by rwa [doLast_nil]) hf (by simp)

/-! ### Lines that give way, and lines that fill a group -/

theorem giveWay_fits (idle : s.agenda = []) (me : c.task = some t) {left : Nat}
    (hf : f.waiting = none) :
    (s.giveWay t f tag left).Fits c s f.frame.resources t := by
  unfold giveWay
  split
  · exact tells_fits .refl hf
  · exact suspends_fits (.single (.wake idle (.inl me))) trivial (.inr List.mem_cons_self)

theorem spin_fits (idle : s.agenda = []) (me : c.task = some t) {turns limit : Nat}
    (hf : f.waiting = none) :
    (s.spin t f tag turns limit).Fits c s f.frame.resources t := by
  unfold spin
  split
  · exact suspends_fits (.single (.wake idle (.inl me))) trivial (.inr List.mem_cons_self)
  · exact tells_fits .refl hf

theorem fill_fits (idle : s.agenda = []) (me : c.task = some t) {g : TaskId}
    {plan : List PlanItem} (looks : (Wait.filling g plan).looks = true → s.Looks c)
    (hf : f.waiting = none) :
    (s.fill t f tag attempt g plan).Fits c s (.group g :: f.frame.resources) t := by
  have filling : ∀ (rest : List PlanItem) (s' : State) (after : List Action),
      Changes c s (.group g :: f.frame.resources) (s'.doLast after)
        (.group g :: f.frame.resources) →
      Turn.Fits c s (.group g :: f.frame.resources) t
        { state := s', after := after,
          fiber := { f with waiting := some ⟨tag, attempt, .filling g rest⟩ } } := by
    intro rest s' after h
    refine ⟨h, fun w hw => ?_, fun hs => by simp at hs⟩
    cases hw
    exact List.mem_cons_self
  cases plan with
  | nil => exact awaitAll_fits (looks rfl) idle me hf .refl List.mem_cons_self
  | cons item rest =>
    unfold fill
    dsimp only
    split
    · rename_i priority body group found
      refine filling rest _ _ ?_
      exact (Changes.single (.add priority body idle List.mem_cons_self found)).tail
        (.record _ ⟨rfl, rfl⟩)
    · exact filling rest _ _ (.single (.cancel g))
    · rename_i payload _
      refine ⟨?_, fun w hw => by simp at hw, fun hs => by simp at hs⟩
      rw [doLast_nil]
      exact .refl
    · exact filling rest _ _ (.single (.record _ ⟨rfl, rfl⟩))
    · refine filling rest _ _ ?_
      rw [doLast_nil]
      exact .refl

/-- **Another look of a suspended line is a turn that fits**, if the line waits for something that
its body owns. -/
theorem poll_fits (idle : s.agenda = []) (me : c.task = some t) {w : Waiting}
    (looks : w.wait.looks = true → s.Looks c) (hw : f.waiting = some w)
    (own : w.wait.OnOwn f.resources) :
    (s.poll t f w).Fits c s f.resources t := by
  obtain ⟨tag, attempt, wait⟩ := w
  have split_ : f.resources = wait.resources ++ f.frame.resources := by
    simp [Fiber.resources, hw]
  rw [split_] at own ⊢
  cases wait with
  | yielding left => exact giveWay_fits (f := { f with waiting := none }) idle me rfl
  | spinning turns limit => exact spin_fits (f := { f with waiting := none }) idle me rfl
  | parked => exact tells_fits .refl rfl
  | awaiting r taken =>
    have owned : (Wait.awaiting r taken).resources = if taken then [r] else [] := by
      cases taken <;> rfl
    rw [owned] at own ⊢
    cases r with
    | handle u => exact awaitResource_fits idle me (by simp) rfl .refl own
    | group g => exact own.elim
    | call k => exact awaitResource_fits idle me (by simp) rfl .refl own
  | selecting handles => exact awaitFirst_fits me rfl .refl
  | next g => exact awaitNext_fits (looks rfl) idle me rfl .refl own
  | all g owns values failure =>
    have owned : (Wait.all g owns values failure).resources =
        if owns then [.group g] else [] := by
      cases owns <;> rfl
    rw [owned] at own ⊢
    exact awaitAll_fits (looks rfl) idle me rfl .refl own
  | filling g plan => exact fill_fits (f := { f with waiting := none }) idle me looks rfl

/-! ### No line that waits pauses its worker -/

end State

/-- The body pauses its worker. -/
def Flow.pauses : Flow → Bool
  | .pause _ => true
  | _ => false

namespace State

variable {s : State} {t : TaskId} {f : Fiber} {tag : Tag} {attempt : Attempt}

theorem harvest_goes_on {after : List Action} {h : Harvest} :
    (s.harvest t f tag attempt after h).flow.pauses = false := by
  unfold harvest
  split
  · rfl
  · cases attempt <;> rfl

theorem awaitResource_goes_on {r : Resource} {taken : Bool} :
    (s.awaitResource t f tag attempt r taken).flow.pauses = false := by
  unfold awaitResource
  split
  · exact harvest_goes_on
  · rfl
  · rfl

theorem awaitFirst_goes_on {handles : List (String × TaskId)} :
    (s.awaitFirst t f tag attempt handles).flow.pauses = false := by
  unfold awaitFirst
  split
  · exact harvest_goes_on
  · rfl
  · rfl

theorem awaitNext_goes_on {g : TaskId} :
    (s.awaitNext t f tag attempt g).flow.pauses = false := by
  unfold awaitNext
  split
  · exact harvest_goes_on
  · rfl
  · rfl

theorem awaitAll_goes_on {g : TaskId} {own : Bool} {tally : Tally} :
    (s.awaitAll t f tag attempt g own tally).flow.pauses = false := by
  unfold awaitAll
  dsimp only
  split
  · exact harvest_goes_on
  · rfl
  · rfl

theorem giveWay_goes_on {left : Nat} : (s.giveWay t f tag left).flow.pauses = false := by
  unfold giveWay
  split <;> rfl

theorem spin_goes_on {turns limit : Nat} : (s.spin t f tag turns limit).flow.pauses = false := by
  unfold spin
  split <;> rfl

theorem fill_goes_on {g : TaskId} {plan : List PlanItem} :
    (s.fill t f tag attempt g plan).flow.pauses = false := by
  unfold fill
  split
  · exact awaitAll_goes_on
  · dsimp only
    split <;> rfl

theorem poll_goes_on {w : Waiting} : (s.poll t f w).flow.pauses = false := by
  unfold poll
  dsimp only
  split
  · exact giveWay_goes_on
  · exact spin_goes_on
  · rfl
  · exact awaitResource_goes_on
  · exact awaitFirst_goes_on
  · exact awaitNext_goes_on
  · exact awaitAll_goes_on
  · exact fill_goes_on

end State

end Nursery
