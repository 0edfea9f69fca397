import Nursery.Proofs.Fold
import Nursery.Proofs.Letter.Line

/-!
# Which letters are refused

A call that a handler makes to its own actor is refused, and so is everything that the main thread
hands to an actor, since it belongs to no runtime.  Everything else is accepted.  Which of these it
is can be read off the thread, whatever has panicked before.  A refused letter leaves no trace; an
accepted one gets its turn behind all that were in the mailbox before it, and while the handler that
has handed it over is in progress its worker takes nothing up.

* `Refused`, `Accepted` : what a letter comes to.
* `InTurn`, `Trail.inTurn` : a message gets its turn.
* `Posts.judged` : the thread decides what a letter comes to.
* `letter_judged` : **which letters are refused, and what becomes of the others.**
* `letter_judged_selfish` : an actor calls itself after one of its handlers has panicked.
-/

namespace Nursery

/-- What becomes of a message that was the next one to enter a mailbox, at some later point of the
run: it leaves the mailbox behind all that were there before, and not before the handlers of those
have ended. -/
structure InTurn (a : ActorId) (m : Message) (before : Nat) (past : List State) (s : State) :
    Prop where
  /-- As long as not all of those have left the mailbox, it waits behind the rest. -/
  waits : (fates a past s).length ≤ before →
    (s.mailbox a)[before - (fates a past s).length]? = some m
  /-- It is not forgotten there: a slice of the actor is queued or in progress. -/
  expected : (fates a past s).length ≤ before → s.agenda = [] → ∃ r,
    (∃ p, s.closed r = false ∧ .drain a ∈ (s.queue r).band p) ∨
      ∃ handled stage, s.slice r = some (.drain a handled stage)
  /-- After that it was taken up, or it was dropped, and a runtime was closed. -/
  leaves : before < (fates a past s).length → (fates a past s)[before]? = some (.handled m) ∨
    (fates a past s)[before]? = some (.dropped m) ∧ ∃ x ∈ past, x.Shut
  /-- When it is taken up, the handlers of those that were taken up before it have ended. -/
  after : (fates a past s)[before]? = some (.handled m) →
    (((fates a past s).take before).filterMap Fate.handled?).length ≤ (concluded a past s).length

/-- A letter is refused, and leaves no trace. -/
structure Refused (l : Letter) (report : Report) (e : ActorError) (past : List State) (s s' : State)
    (d' : Desk) : Prop where
  /-- Who calls can learn why. -/
  learns : s'.calls = if l.calls then
    s.calls.set s.nextCall { accepted := false, outcome := some (.error e) } else s.calls
  /-- Who sends is told why. -/
  reports : l.calls = false → report = .actorError e
  /-- The actor stays as it is: its mailbox, its state, and whether a slice of it is due. -/
  actors : s'.actors = s.actors
  /-- So do the queues. -/
  queues : ∀ r, s'.queue r = s.queue r
  /-- Nothing arrives. -/
  arrives : ∀ a, arrivals a (s :: past) s' = arrivals a past s
  /-- The handler of a call never runs, and never waits. -/
  never : l.calls = true → ∀ more s'' d'', Path s' d' more s'' d'' →
    begun s.nextCall (more ++ s :: past) s'' = [] ∧ s''.waiting s.nextCall = 0

/-- A letter is accepted. -/
structure Accepted (l : Letter) (report : Report) (past : List State) (s s' : State) (d' : Desk) :
    Prop where
  /-- Who calls waits for a reply. -/
  learns : s'.calls = if l.calls then s.calls.set s.nextCall { accepted := true } else s.calls
  /-- Who sends is told so. -/
  reports : l.calls = false → report = .text "sent"
  /-- The message goes to the back of the mailbox. -/
  mailbox : s'.mailbox l.actor = s.mailbox l.actor ++ [l.message s]
  /-- The other mailboxes stay as they are. -/
  others : ∀ b, b ≠ l.actor → s'.mailbox b = s.mailbox b
  /-- A slice of the actor is due. -/
  due : s'.due l.actor = true
  /-- The message gets its turn. -/
  turn : ∀ more s'' d'', Path s' d' more s'' d'' →
    InTurn l.actor (l.message s) (arrivals l.actor past s).length (more ++ s :: past) s''

variable {s s' s'' : State} {d d' d'' : Desk} {past more : List State} {l : Letter}
  {report : Report} {a b : ActorId} {k : CallId} {r : RuntimeId} {e e' : ActorError}

/-! ### What a letter comes to -/

theorem State.actors_post {actor : Actor} (found : s.actors.get? a = some actor)
    (home : RuntimeId) (m : Message) : (s.post a home m).actors =
      s.actors.modify a fun x => { x with mailbox := x.mailbox ++ [m], scheduled := true } := by
  unfold post
  rw [found]
  dsimp only
  split
  · rfl
  · exact actors_enqueue ..

/-- A message goes to the back of one mailbox. -/
theorem State.mailbox_post {actor : Actor} (found : s.actors.get? a = some actor)
    (home : RuntimeId) (m : Message) (b : ActorId) :
    (s.post a home m).mailbox b = s.mailbox b ++ if a = b then [m] else [] := by
  rw [mailbox, actors_post found]
  by_cases same : a = b
  · subst same
    simp [mailbox, Store.get?_modify_self, found]
  · simp [mailbox, Store.get?_modify_of_ne same, same]

theorem State.due_post {actor : Actor} (found : s.actors.get? a = some actor) (home : RuntimeId)
    (m : Message) : (s.post a home m).due a = true := by
  rw [due, actors_post found, Store.get?_modify_self, found]
  rfl

namespace Letter

/-- Why a letter is refused: nobody calls itself, and only a worker reaches an actor. -/
def refusal (l : Letter) : Option ActorError :=
  if l.calls = true ∧ l.context.actor = some l.actor then some .reentrant
  else if l.context.home = none then some .noRuntime
  else none

theorem refusal_cases (l : Letter) :
    (l.calls = true ∧ l.context.actor = some l.actor) ∧ l.refusal = some .reentrant ∨
    ¬ (l.calls = true ∧ l.context.actor = some l.actor) ∧
      (l.context.home = none ∧ l.refusal = some .noRuntime ∨
        l.context.home ≠ none ∧ l.refusal = none) := by
  unfold refusal
  by_cases own : l.calls = true ∧ l.context.actor = some l.actor
  · exact .inl ⟨own, if_pos own⟩
  · refine .inr ⟨own, ?_⟩
    rw [if_neg own]
    by_cases homeless : l.context.home = none
    · exact .inl ⟨homeless, if_pos homeless⟩
    · exact .inr ⟨homeless, if_neg homeless⟩

theorem reaction_refused (found : s.findActor? l.tag.target = some l.actor)
    (why : l.refusal = some e) (told : (l.reaction s).result = .ok report) :
    (l.reaction s).state.actors = s.actors ∧ (l.reaction s).state.runtimes = s.runtimes ∧
    (l.reaction s).state.calls = (if l.calls then
      s.calls.set s.nextCall { accepted := false, outcome := some (.error e) } else s.calls) ∧
    (l.calls = false → report = .actorError e) := by
  obtain ⟨c, frame, tag, a, handler, calls⟩ := l
  dsimp only at found
  unfold refusal at why
  unfold reaction at told ⊢
  dsimp only at why told ⊢
  cases calls with
  | true =>
    simp only [State.bindCall, found, State.binds, State.callActor, true_and] at why told ⊢
    split at why
    · rename_i own
      cases why
      rw [if_pos own]
      exact ⟨rfl, rfl, rfl, by simp⟩
    · rename_i other
      rw [if_neg other]
      split at why
      · rename_i homeless
        cases why
        rw [homeless]
        exact ⟨rfl, rfl, rfl, by simp⟩
      · cases why
  | false =>
    simp only [State.send, found, State.sendActor] at why told ⊢
    split at why
    · rename_i own
      cases own.1
    · split at why
      · rename_i homeless
        cases why
        simp only [homeless, State.reports] at told ⊢
        cases told
        exact ⟨rfl, rfl, rfl, fun _ => rfl⟩
      · cases why

theorem reaction_accepted (found : s.findActor? l.tag.target = some l.actor)
    (welcome : l.refusal = none) (told : (l.reaction s).result = .ok report) :
    ∃ (home : RuntimeId) (x : State), x.actors = s.actors ∧
      (l.reaction s).state = x.post l.actor home (l.message s) ∧
      x.calls = (if l.calls then s.calls.set s.nextCall { accepted := true } else s.calls) ∧
      (l.calls = false → report = .text "sent") := by
  obtain ⟨c, frame, tag, a, handler, calls⟩ := l
  dsimp only at found
  unfold refusal at welcome
  unfold reaction at told ⊢
  dsimp only at welcome told ⊢
  split at welcome
  · cases welcome
  · rename_i other
    split at welcome
    · cases welcome
    · rename_i housed
      obtain ⟨home, here⟩ := Option.ne_none_iff_exists'.1 housed
      cases calls with
      | true =>
        simp only [true_and] at other
        simp only [State.bindCall, found, State.binds, State.callActor, if_neg other, here]
          at told ⊢
        exact ⟨home, { s with calls := s.calls.set s.nextCall { accepted := true } }, rfl, rfl, rfl,
          by simp⟩
      | false =>
        simp only [State.send, found, State.sendActor, here, State.reports] at told ⊢
        cases told
        exact ⟨home, s, rfl, rfl, rfl, fun _ => rfl⟩

end Letter

/-! ### Along the run -/

/-- A call that was refused stays refused, and one that was accepted stays accepted. -/
theorem Transition.keeps_call (sound : Sound s d) (tr : Transition s d s' d') {call : Call}
    (found : s.calls.get? k = some call) :
    ∃ call', s'.calls.get? k = some call' ∧ call'.accepted = call.accepted := by
  obtain ⟨n, m, p, passes⟩ : ∃ n m p, Passes k (fun _ => false) n m p s s' := tr.passes sound rfl k
  by_cases replied : ∀ e ∈ s.replies s', e.call ≠ k
  · have stays := passes.stays replied
    rw [found] at stays
    obtain ⟨call', found', same, -⟩ := stays
    exact ⟨call', found', same⟩
  · obtain ⟨e, written, mine⟩ : ∃ e, e ∈ s.replies s' ∧ e.call = k := by simpa using replied
    obtain ⟨call', found', same, -⟩ := passes.learns e written mine call found
    exact ⟨call', found', same⟩

theorem Path.keeps_call (reachable : Reachable s d) (path : Path s d more s' d') {call : Call}
    (found : s.calls.get? k = some call) :
    ∃ call', s'.calls.get? k = some call' ∧ call'.accepted = call.accepted := by
  induction path with
  | refl => exact ⟨call, found, rfl⟩
  | next path tr ih =>
    obtain ⟨call', found', same⟩ := ih
    obtain ⟨call'', found'', same'⟩ := tr.keeps_call (reachable.leads path.leads).sound found'
    exact ⟨call'', found'', same'.trans same⟩

/-- A call that was refused is in no mailbox and was never taken up. -/
theorem Trail.unplaced (h : Trail past s d) {call : Call} (found : s.calls.get? k = some call)
    (refused : call.accepted = false) : begun k past s = [] ∧ s.waiting k = 0 := by
  have balance := (h.balance (P := fun _ => false) rfl k).placed
  have nowhere : s.placed k = 0 := by simp [State.placed, found, refused]
  rw [nowhere] at balance
  exact ⟨List.length_eq_zero_iff.1 (by omega), by omega⟩

theorem taken_le (h : Trail past s d) (a : ActorId) :
    (taken a past s).length ≤ (concluded a past s).length + 1 := by
  have along := h.along a
  unfold Along at along
  split at along
  · rw [along.2.2]
    exact Nat.zero_le _
  · obtain ⟨start, done, zs, course⟩ := along
    rw [course.verdicts, List.length_map]
    rcases course.now with ⟨all, -⟩ | ⟨m, r, code, xs, all, -⟩ <;> rw [all] <;> simp

theorem taken_handling (h : Trail past s d) {code : List Line} {reply : Option CallId}
    (busy : s.Handling r a code reply) :
    (taken a past s).length = (concluded a past s).length + 1 := by
  have along := h.along a
  obtain ⟨handled, frame, during⟩ := busy
  unfold Along at along
  split at along
  · rename_i unmade
    exact (h.reachable.known during unmade).elim
  · obtain ⟨start, done, zs, course⟩ := along
    rw [course.verdicts, List.length_map]
    rcases course.now with ⟨-, -, rests⟩ | ⟨m, r, code, xs, all, -⟩
    · exact (rests r code reply ⟨handled, frame, during⟩).elim
    · rw [all]
      simp

/-- **A message gets its turn** when all that were in the mailbox before it have left. -/
theorem Trail.inTurn (h : Trail past s d) {m : Message} {before : Nat}
    (there : (arrivals a past s)[before]? = some m) : InTurn a m before past s := by
  have order := h.order a
  rw [order] at there
  have waits : (fates a past s).length ≤ before →
      (s.mailbox a)[before - (fates a past s).length]? = some m := by
    intro few
    rwa [List.getElem?_append_right (by simpa using few), List.length_map] at there
  refine ⟨waits, fun few idle => ?_, fun gone => ?_, fun up => ?_⟩
  · refine (h.reachable.expected fun empty => ?_).2 idle
    have waiting := waits few
    rw [empty] at waiting
    cases waiting
  · rw [List.getElem?_append_left (by simpa using gone), List.getElem?_map,
      Option.map_eq_some_iff] at there
    obtain ⟨fate, found, rfl⟩ := there
    cases fate with
    | handled m => exact .inl found
    | dropped m => exact .inr ⟨found, h.dropped (List.mem_of_getElem? found)⟩
  · -- it was taken up itself, and at most one that was taken up is in progress
    have taken_ : taken a past s = ((fates a past s).take before).filterMap Fate.handled? ++
        ((fates a past s).drop before).filterMap Fate.handled? := by
      rw [taken_eq, ← List.filterMap_append, List.take_append_drop]
    have mine : 0 < (((fates a past s).drop before).filterMap Fate.handled?).length := by
      refine List.length_pos_of_mem (a := m) (List.mem_filterMap.2 ⟨.handled m, ?_, rfl⟩)
      refine List.mem_of_getElem? (i := 0) ?_
      rw [List.getElem?_drop, Nat.add_zero, up]
    have all := congrArg List.length taken_
    have few := taken_le h a
    rw [List.length_append] at all
    omega

theorem still_handling (h : Trail past s d) {code : List Line} {reply : Option CallId}
    (busy : s.Handling r a code reply) (path : Path s d more s' d') :
    (concluded a (more ++ past) s').length = (concluded a past s).length →
      ∃ code', s'.Handling r a code' reply := by
  induction path with
  | refl => exact fun _ => ⟨code, busy⟩
  | @next between x y dx dy path tr ih =>
    intro same
    have reachable := (h.path path).reachable
    obtain ⟨rest, longer⟩ := gather_path (State.closes a) past path
    replace longer := congrArg List.length longer
    change (concluded a (between ++ past) x).length = _ at longer
    rw [List.length_append] at longer
    change _ = (concluded a past s).length + _ at longer
    rw [List.cons_append, concluded_cons, List.length_append] at same
    obtain ⟨code', busy'⟩ := ih (by omega)
    have calm : x.closes a y = [] := List.length_eq_zero_iff.1 (by omega)
    cases tr.progress reachable a with
    | calm _ _ stays => exact ⟨code', (stays _ _ _).2 busy'⟩
    | takesUp idle => exact (reachable.not_handling idle (by simp) busy').elim
    | @goesOn home before after reply' busy'' _ _ _ goes =>
      obtain ⟨rfl, rfl⟩ := reachable.same_handling busy' busy''
      obtain ⟨n, frame, slice⟩ := busy'
      obtain ⟨n', frame', slice'⟩ := busy''
      cases reachable.alone slice slice'
      exact ⟨after, goes⟩
    | ends _ _ _ _ _ _ closes => cases calm.symm.trans closes

/-! ### Which letters are refused -/

/-- What becomes of a letter that a line hands over. -/
structure Judged (l : Letter) (report : Report) (past : List State) (s s' : State) (d' : Desk) :
    Prop where
  /-- A call is refused as reentrant exactly when a handler of that actor makes it. -/
  reentrant : Refused l report .reentrant past s s' d' ↔ l.calls = true ∧ s.InHandler l.actor
  /-- Otherwise a letter is refused exactly when the thread belongs to no runtime. -/
  noRuntime : Refused l report .noRuntime past s s' d' ↔
    ¬ (l.calls = true ∧ s.InHandler l.actor) ∧ s.thread = none
  /-- Otherwise it is accepted. -/
  accepted : Accepted l report past s s' d' ↔
    ¬ (l.calls = true ∧ s.InHandler l.actor) ∧ s.thread ≠ none
  /-- What a handler sends to its own actor is accepted, and taken up when that handler has
  ended. -/
  own : s.InHandler l.actor → l.calls = false → Accepted l report past s s' d' ∧
    ∀ more s'' d'', Path s' d' more s'' d'' →
      (fates l.actor (more ++ s :: past) s'')[(arrivals l.actor past s).length]? =
        some (.handled (l.message s)) →
      (concluded l.actor past s).length < (concluded l.actor (more ++ s :: past) s'').length
  /-- What a handler hands to another actor is accepted. -/
  other : ∀ b, s.InHandler b → b ≠ l.actor → Accepted l report past s s' d'
  /-- Until the handler that has handed it over has ended its worker stays in it, and takes no
  message up. -/
  nested : ∀ b r code reply, s.thread = some r → s.Handling r b code reply →
    ∀ more s'' d'', Path s' d' more s'' d'' →
      (concluded b (more ++ s :: past) s'').length = (concluded b past s).length →
      (∃ code', s''.Handling r b code' reply) ∧ (s''.thread = some r → ∀ y, s''.pickups y = [])

namespace Posts

theorem refused (h : Trail past s d) (p : Posts l report s d s' d') (why : l.refusal = some e) :
    Refused l report e past s s' d' := by
  obtain ⟨actors, runtimes, calls, reports⟩ := Letter.reaction_refused p.found why p.told
  have leaves := p.leaves
  have same : s'.actors = s.actors := leaves.actors.trans actors
  refine ⟨leaves.calls.trans calls, reports, same, fun r => ?_, fun a => ?_, fun call => ?_⟩
  · rw [leaves.queue r, State.queue, State.queue, runtimes]
  · have nothing : s.arrived a s' = [] := by
      rw [State.arrived, State.mailbox, State.mailbox, same]
      exact List.drop_length
    rw [arrivals_cons, nothing, List.append_nil]
  · intro more s'' d'' path
    have trail := h.next p.transition
    have made : s'.calls.get? s.nextCall =
        some { accepted := false, outcome := some (.error e) } := by
      rw [leaves.calls, calls, if_pos call, Store.get?_set_self]
    obtain ⟨call', found, same⟩ := path.keeps_call trail.reachable made
    exact (trail.path path).unplaced found same

theorem accepted (h : Trail past s d) (p : Posts l report s d s' d') (welcome : l.refusal = none) :
    Accepted l report past s s' d' := by
  obtain ⟨home, x, actors, eq, calls, reports⟩ := Letter.reaction_accepted p.found welcome p.told
  have leaves := p.leaves
  rw [eq] at leaves
  obtain ⟨actor, found⟩ := h.reachable.sound.formed.named _ _ p.found
  have found' : x.actors.get? l.actor = some actor := by rw [actors, found]
  have mailbox : ∀ b, s'.mailbox b = s.mailbox b ++ if l.actor = b then [l.message s] else [] := by
    intro b
    have posted := State.mailbox_post found' home (l.message s) b
    have before : x.mailbox b = s.mailbox b := by rw [State.mailbox, State.mailbox, actors]
    rw [State.mailbox, leaves.actors, ← before]
    exact posted
  refine ⟨?_, reports, by simp [mailbox], fun b other => by simp [mailbox, Ne.symm other], ?_,
    fun more s'' d'' path => ?_⟩
  · obtain ⟨actors', runtimes, agenda, eq'⟩ := State.post_eq x l.actor home (l.message s)
    rw [leaves.calls, eq']
    exact calls
  · rw [State.due, leaves.actors]
    exact State.due_post found' home _
  · refine (Trail.path (h.next p.transition) path).inTurn ?_
    obtain ⟨rest, more_⟩ := gather_path (State.arrived l.actor) (s :: past) path
    have arrived : s.arrived l.actor s' = [l.message s] := by
      rw [State.arrived, mailbox, if_pos rfl, List.drop_left]
    change (arrivals l.actor (more ++ s :: past) s'') =
      arrivals l.actor (s :: past) s' ++ rest at more_
    rw [more_, arrivals_cons, arrived, List.append_assoc,
      List.getElem?_append_right (Nat.le_refl _),
      Nat.sub_self]
    rfl

end Posts

/-- A letter is refused for one reason. -/
theorem Refused.unique (h : Refused l report e past s s' d')
    (h' : Refused l report e' past s s' d') :
    e = e' := by
  cases calls : l.calls with
  | true =>
    have same := h.learns.symm.trans h'.learns
    rw [if_pos calls, if_pos calls] at same
    have found := congrArg (Store.get? · s.nextCall) same
    simpa [Store.get?_set_self] using found
  | false => exact Report.actorError.inj ((h.reports calls).symm.trans (h'.reports calls))

/-- No letter is both refused and accepted. -/
theorem Refused.not_accepted (h : Refused l report e past s s' d')
    (accepted : Accepted l report past s s' d') : False := by
  have mailbox := congrArg List.length accepted.mailbox
  rw [State.mailbox, h.actors] at mailbox
  rw [List.length_append] at mailbox
  change (s.mailbox l.actor).length = _ at mailbox
  simp at mailbox

/-- The line that runs next belongs to the handler of one actor at most. -/
theorem State.InHandler.unique (h : s.InHandler a) (h' : s.InHandler b) : a = b := by
  obtain ⟨r, code, reply, here, handled, frame, during⟩ := h
  obtain ⟨r', code', reply', here', handled', frame', during'⟩ := h'
  cases here.symm.trans here'
  cases during.symm.trans during'
  rfl

/-- There are three things that a letter may come to, and the thread decides which. -/
theorem Posts.judged (h : Trail past s d) (p : Posts l report s d s' d') :
    (l.calls = true ∧ s.InHandler l.actor) ∧ Refused l report .reentrant past s s' d' ∨
    ¬ (l.calls = true ∧ s.InHandler l.actor) ∧
      (s.thread = none ∧ Refused l report .noRuntime past s s' d' ∨
        s.thread ≠ none ∧ Accepted l report past s s' d') := by
  rw [← p.handles, ← p.thread]
  rcases l.refusal_cases with ⟨own, why⟩ | ⟨other, ⟨homeless, why⟩ | ⟨housed, welcome⟩⟩
  · exact .inl ⟨own, p.refused h why⟩
  · exact .inr ⟨other, .inl ⟨homeless, p.refused h why⟩⟩
  · exact .inr ⟨other, .inr ⟨housed, p.accepted h welcome⟩⟩

/-- **Which letters are refused**, on every run and whatever panicked on it before.  A refused one
leaves no trace.  An accepted one gets its turn behind all that were there before it, and what a
handler hands over runs when that handler has ended. -/
theorem letter_judged (h : Trail past s d) (p : Posts l report s d s' d') :
    Judged l report past s s' d' := by
  have judged := p.judged h
  -- what a handler of some actor hands over is not refused for want of a runtime
  have accepted : ∀ b, s.InHandler b → ¬ (l.calls = true ∧ s.InHandler l.actor) →
      Accepted l report past s s' d' := by
    rintro b ⟨r, code, reply, here, -⟩ other
    rcases judged with ⟨own, -⟩ | ⟨-, ⟨homeless, -⟩ | ⟨-, accepted⟩⟩
    · exact (other own).elim
    · cases here.symm.trans homeless
    · exact accepted
  refine ⟨⟨fun taken => ?_, fun own => ?_⟩, ⟨fun taken => ?_, fun lone => ?_⟩,
    ⟨fun taken => ?_, fun free => ?_⟩, fun inside send => ⟨?_, fun more s'' d'' path up => ?_⟩,
    fun b inside apart => ?_, fun b r code reply here busy more s'' d'' path same => ?_⟩
  · rcases judged with ⟨own, -⟩ | ⟨-, ⟨-, refused⟩ | ⟨-, accepted⟩⟩
    · exact own
    · cases taken.unique refused
    · exact (taken.not_accepted accepted).elim
  · exact (judged.resolve_right fun other => other.1 own).2
  · rcases judged with ⟨-, refused⟩ | ⟨other, ⟨homeless, -⟩ | ⟨-, accepted⟩⟩
    · cases taken.unique refused
    · exact ⟨other, homeless⟩
    · exact (taken.not_accepted accepted).elim
  · rcases judged with ⟨own, -⟩ | ⟨-, ⟨-, refused⟩ | ⟨housed, -⟩⟩
    · exact (lone.1 own).elim
    · exact refused
    · exact (housed lone.2).elim
  · rcases judged with ⟨-, refused⟩ | ⟨other, ⟨-, refused⟩ | ⟨housed, -⟩⟩
    · exact (refused.not_accepted taken).elim
    · exact (refused.not_accepted taken).elim
    · exact ⟨other, housed⟩
  · rcases judged with ⟨own, -⟩ | ⟨-, ⟨homeless, -⟩ | ⟨-, accepted⟩⟩
    · exact (free.1 own).elim
    · exact (free.2 homeless).elim
    · exact accepted
  · exact accepted _ inside (by simp [send])
  · have ended := ((accepted _ inside (by simp [send])).turn more s'' d'' path).after up
    obtain ⟨r, code, reply, -, busy⟩ := inside
    -- the message in progress is among those that were taken up before
    have progress := taken_handling h busy
    obtain ⟨rest, longer⟩ := gather_path (State.departed l.actor) past (path.head p.transition)
    rw [List.append_assoc, List.singleton_append] at longer
    change fates l.actor (more ++ s :: past) s'' = fates l.actor past s ++ rest at longer
    have arrived := congrArg List.length (h.order l.actor)
    rw [List.length_append, List.length_map] at arrived
    rw [longer, List.take_append, List.take_of_length_le (by omega), List.filterMap_append,
      List.length_append, ← taken_eq] at ended
    omega
  · exact accepted b inside fun both => apart (inside.unique both.2)
  · obtain ⟨code', busy'⟩ := still_handling h busy (path.head p.transition) (by simpa using same)
    refine ⟨⟨code', busy'⟩, fun there y => ?_⟩
    obtain ⟨n, frame, during⟩ := busy'
    simp only [State.pickups, there, during, Slice.pickups]

/-! ### An actor that calls itself -/

/-- The body of a task that sends two messages to an actor.  The handler of the first panics, that
of the second calls its own actor and sends to it. -/
def selfishBody : List Line :=
  [.mk ⟨"send", some "mail", none, true⟩
      (.send [.mk ⟨"panic", none, none, true⟩ (.panic .fixed)]),
    .mk ⟨"send", some "mail", none, true⟩
      (.send [.mk ⟨"call", some "mail", some "reply", true⟩
          (.call [.mk ⟨"push", none, none, true⟩ (.push 1)]),
        .mk ⟨"send", some "mail", none, true⟩
          (.send [.mk ⟨"push", none, none, true⟩ (.push 2)])])]

/-- The call of the second handler. -/
def selfishCall : Letter where
  context := ⟨.actor ⟨0⟩, some ⟨0⟩⟩
  frame := []
  tag := ⟨"call", some "mail", some "reply", true⟩
  actor := ⟨0⟩
  handler := [.mk ⟨"push", none, none, true⟩ (.push 1)]
  calls := true

theorem trail_selfish : ∃ past s, Trail past s .clear ∧ s.letter? = some selfishCall ∧
    (concluded ⟨0⟩ past s).map Verdict.reply = [none] := by
  have built : Trail _ _ .clear := Trail.init.next (.move rfl (.build 0 none none))
  have made := built.next (.move (by decide) (.line (show State.plain? _ { who := .main } []
    ⟨"actor", none, some "mail", true⟩ (.actor [] none) = some _ from rfl)))
  have shelved := (made.follow 1).next (.move (by decide) .shelve)
  have spawned := shelved.next (.move (by decide) (.line (show State.plain? _ { who := .main } []
    ⟨"spawn", none, some "selfish", true⟩ (.spawnOn 0 none selfishBody) = some _ from rfl)))
  have spawning := (spawned.follow 1).next (.move (by decide) .shelve)
  have run := (spawning.next (.move (by decide)
    (.start (show Store.get? _ 0 = some ⟨0⟩ by decide)))).follow 19
  exact ⟨_, _, run, by rfl, by decide +kernel⟩

/-- The call is refused, though the actor has gone on after the panic. -/
theorem letter_judged_selfish : ∃ past s report, Trail past s .clear ∧
    Posts selfishCall report s .clear s.step .clear ∧ s.InHandler ⟨0⟩ ∧
    Refused selfishCall report .reentrant past s s.step .clear := by
  obtain ⟨past, s, trail, next, -⟩ := trail_selfish
  obtain ⟨report, posts⟩ := State.posts next .clear
  have inside : s.InHandler ⟨0⟩ := (posts.handles ⟨0⟩).1 rfl
  exact ⟨past, s, report, trail, posts, inside,
    (letter_judged trail posts).reentrant.2 ⟨rfl, inside⟩⟩

end Nursery
