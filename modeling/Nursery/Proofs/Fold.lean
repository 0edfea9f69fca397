import Nursery.Proofs.Course

/-!
# An actor folds its messages

An actor takes its messages up in the order in which they arrived, one after the other, and each
handler gets the state that the last one left, whether that returned or panicked.  Nothing of this
depends on how many messages a slice handles before it gives way.

* `arrivals`, `fates`, `taken`, `concluded` : what is seen of an actor along a run.
* `Folds` : one handler after the other.
* `Course` : how far an actor has got.
* `Trail.course` : along every run.
* `folded_in_order` : what an actor has made of its messages.
-/

namespace Nursery

/-- The messages that have entered a mailbox, in the order in which they arrived. -/
def arrivals (a : ActorId) (past : List State) (s : State) : List Message :=
  gather (State.arrived a) s past

/-- What became of the messages that have left it, in that order. -/
def fates (a : ActorId) (past : List State) (s : State) : List Fate :=
  gather (State.departed a) s past

/-- The messages that an actor has taken up. -/
def taken (a : ActorId) (past : List State) (s : State) : List Message :=
  gather (State.takes a) s past

/-- The handlers of an actor that have ended. -/
def concluded (a : ActorId) (past : List State) (s : State) : List Verdict :=
  gather (State.closes a) s past

/-- The states that an actor was made with. -/
def births (a : ActorId) (past : List State) (s : State) : List (List Int64) :=
  gather (State.born a) s past

/-- Messages are handled one after the other, each with the state that the last one left. -/
inductive Folds (start : List Int64) : List (Message × Except String Int64) → List Int64 →
    Prop where
  /-- No message was handled. -/
  | start : Folds start [] start
  /-- One message more. -/
  | next {done : List (Message × Except String Int64)} {xs ys : List Int64} {m : Message}
      {result : Except String Int64} (before : Folds start done xs)
      (handles : Handles m.handler xs ys result) : Folds start (done ++ [(m, result)]) ys

/-- How far an actor has got: the messages that it has handled, with what came of them, and the
state that they have left. -/
structure Course (a : ActorId) (past : List State) (s : State) (start : List Int64)
    (done : List (Message × Except String Int64)) (zs : List Int64) : Prop where
  /-- It was made once. -/
  birth : births a past s = [start]
  /-- These handlers have ended. -/
  verdicts : concluded a past s = done.map fun e => ⟨a, e.1.reply, e.2⟩
  /-- They were handled one after the other. -/
  folds : Folds start done zs
  /-- No message is in progress, or one is: what remains of its handler comes to what the handler
  comes to with the state that the last one left. -/
  now : taken a past s = done.map Prod.fst ∧ s.memory a = some zs ∧
      (∀ r code reply, ¬ s.Handling r a code reply) ∨
    ∃ m r code xs, taken a past s = done.map Prod.fst ++ [m] ∧ s.memory a = some xs ∧
      s.Handling r a code m.reply ∧
        ∀ ys result, Handles code xs ys result → Handles m.handler zs ys result

/-- The state after a number of handlers. -/
def foldHandlers (start : List Int64) (handlers : List (List Line)) : List Int64 :=
  handlers.foldl (fun xs code => (evaluate code xs).1) start

/-- What came of them. -/
def foldResults (start : List Int64) : List (List Line) → List (Except String Int64)
  | [] => []
  | code :: rest => (evaluate code start).2 :: foldResults (evaluate code start).1 rest

variable {s s' : State} {d d' : Desk} {past : List State} {a : ActorId} {r : RuntimeId}
  {start xs zs : List Int64} {done : List (Message × Except String Int64)} {l : Ledger}

/-! ### From one transition to the next -/

theorem arrivals_cons : arrivals a (s :: past) s' = arrivals a past s ++ s.arrived a s' :=
  rfl

theorem fates_cons : fates a (s :: past) s' = fates a past s ++ s.departed a s' :=
  rfl

theorem taken_cons : taken a (s :: past) s' = taken a past s ++ s.takes a s' :=
  rfl

theorem concluded_cons : concluded a (s :: past) s' = concluded a past s ++ s.closes a s' :=
  rfl

theorem births_cons : births a (s :: past) s' = births a past s ++ s.born a s' :=
  rfl

/-! ### The order of the messages -/

/-- What enters a mailbox gets behind what waits there, and what leaves it was the first. -/
theorem Progress.order (h : Progress a s s') :
    s.mailbox a ++ s.arrived a s' = (s.departed a s').map Fate.message ++ s'.mailbox a := by
  have waits : s.takes a s' = [] → s.dropped a s' = [] → s.mailbox a <+: s'.mailbox a →
      s.mailbox a ++ s.arrived a s' = (s.departed a s').map Fate.message ++ s'.mailbox a := by
    rintro takes dropped ⟨more, grown⟩
    simp [State.departed, takes, dropped, State.arrived, ← grown]
  cases h with
  | calm mail _ _ takes =>
    rcases mail with ⟨kept, dropped⟩ | ⟨empty, dropped⟩
    · exact waits takes dropped kept
    · simp [State.departed, takes, dropped, State.arrived, empty, Function.comp_def, Fate.message]
  | takesUp _ mail free _ _ takes =>
    simp [State.departed, takes, State.dropped, free, State.arrived, mail, Fate.message]
  | goesOn _ mail free _ _ takes => exact waits takes (by simp [State.dropped, free]) mail
  | ends _ mail free _ _ takes => exact waits takes (by simp [State.dropped, free]) mail

/-- **The messages leave a mailbox in the order in which they entered it.** -/
theorem Trail.order (h : Trail past s d) (a : ActorId) :
    arrivals a past s = (fates a past s).map Fate.message ++ s.mailbox a := by
  induction h with
  | init => rfl
  | next h t ih =>
    rw [arrivals_cons, ih, List.append_assoc, (t.progress h.reachable a).order, fates_cons,
      List.map_append, List.append_assoc]

theorem taken_eq (a : ActorId) (past : List State) (s : State) :
    taken a past s = (fates a past s).filterMap Fate.handled? := by
  induction past generalizing s with
  | nil => rfl
  | cons x past ih =>
    have step : x.takes a s = (x.departed a s).filterMap Fate.handled? := by
      simp [State.departed, List.filterMap_map, Function.comp_def, Fate.handled?]
    rw [taken_cons, ih, step, fates_cons, List.filterMap_append]

/-! ### One handler after the other -/

theorem foldHandlers_append (start : List Int64) (handlers more : List (List Line)) :
    foldHandlers start (handlers ++ more) = foldHandlers (foldHandlers start handlers) more :=
  List.foldl_append

theorem foldResults_append (start : List Int64) (handlers more : List (List Line)) :
    foldResults start (handlers ++ more) =
      foldResults start handlers ++ foldResults (foldHandlers start handlers) more := by
  induction handlers generalizing start with
  | nil => rfl
  | cons code handlers ih => exact congrArg (_ :: ·) (ih _)

/-- Handlers that ask nobody but the state of their actor are folded over the first state. -/
theorem Folds.steady (h : Folds start done zs)
    (steady : ∀ m ∈ done.map Prod.fst, linesSteady m.handler = true) :
    zs = foldHandlers start (done.map fun e => e.1.handler) ∧
      done.map Prod.snd = foldResults start (done.map fun e => e.1.handler) := by
  induction h with
  | start => exact ⟨rfl, rfl⟩
  | @next done xs ys m result _ handles ih =>
    simp only [List.map_append, List.map_cons, List.map_nil] at steady ⊢
    obtain ⟨state, results⟩ := ih fun n hn => steady n (List.mem_append_left _ hn)
    have last := handles.evaluate (steady m (List.mem_append_right _ List.mem_cons_self))
    rw [foldHandlers_append, foldResults_append, ← state, ← results]
    simp [foldHandlers, foldResults, last]

/-! ### How far an actor has got -/

/-- Whoever is in progress was made. -/
theorem Reachable.known (h : Reachable s d) {handled : Nat} {stage : HandlerStage}
    (during : s.slice r = some (.drain a handled stage)) : s.memory a ≠ none := by
  obtain ⟨l, kept⟩ := h.kept a
  have due := (kept.carried.2.sliced during).2.1
  intro none
  rw [State.memory, Option.map_eq_none_iff] at none
  simp [State.due, none] at due

/-- Two handlers of an actor in progress are the same one. -/
theorem Reachable.same_handling (h : Reachable s d) {r' : RuntimeId} {code code' : List Line}
    {reply reply' : Option CallId} (during : s.Handling r a code reply)
    (during' : s.Handling r' a code' reply') : code' = code ∧ reply' = reply := by
  obtain ⟨n, frame, slice⟩ := during
  obtain ⟨n', frame', slice'⟩ := during'
  cases h.alone slice slice'
  cases slice.symm.trans slice'
  exact ⟨rfl, rfl⟩

/-- An actor that is at another point of its slice is in no handler. -/
theorem Reachable.not_handling (h : Reachable s d) {handled : Nat} {stage : HandlerStage}
    (during : s.slice r = some (.drain a handled stage))
    (other : ∀ code frame reply, stage ≠ .handling code frame reply) {r' : RuntimeId}
    {code : List Line} {reply : Option CallId} : ¬ s.Handling r' a code reply := by
  rintro ⟨n, frame, slice⟩
  cases h.alone during slice
  cases during.symm.trans slice
  exact other _ _ _ rfl

/-- An actor that was not made has done nothing. -/
def Unborn (a : ActorId) (past : List State) (s : State) : Prop :=
  births a past s = [] ∧ concluded a past s = [] ∧ taken a past s = []

/-- How far an actor has got, or that it was not made. -/
def Along (a : ActorId) (past : List State) (s : State) : Prop :=
  match s.memory a with
  | none => Unborn a past s
  | some _ => ∃ start done zs, Course a past s start done zs

/-- An actor is made, or nothing happens to it. -/
theorem Unborn.next (h : Unborn a past s) (reachable : Reachable s d) (unmade : s.memory a = none)
    (progress : Progress a s s') : Along a (s :: past) s' := by
  obtain ⟨birth, verdicts, none⟩ := h
  cases progress with
  | calm _ _ same takes closes =>
    have concluded' : concluded a (s :: past) s' = [] := by
      rw [concluded_cons, verdicts, closes, List.append_nil]
    have taken' : taken a (s :: past) s' = [] := by
      rw [taken_cons, none, takes, List.append_nil]
    have births' : births a (s :: past) s' = (s'.memory a).toList := by
      rw [births_cons, birth, List.nil_append, State.born, unmade]
    unfold Along
    split
    · rename_i unmade'
      exact ⟨by rw [births', unmade']; rfl, concluded', taken'⟩
    · rename_i xs made
      refine ⟨xs, [], xs, by rw [births', made]; rfl, concluded', .start, .inl ⟨taken', made, ?_⟩⟩
      intro r code reply handling
      obtain ⟨n, frame, during⟩ := (same r code reply).1 handling
      exact reachable.known during unmade
  | takesUp idle => exact (reachable.known idle unmade).elim
  | goesOn before | ends before =>
    obtain ⟨n, frame, during⟩ := before
    exact (reachable.known during unmade).elim

/-- An actor gets on by what a transition does to it. -/
theorem Course.next (h : Course a past s start done zs) (reachable : Reachable s d)
    (reachable' : Reachable s' d') (progress : Progress a s s') :
    ∃ done' zs', Course a (s :: past) s' start done' zs' := by
  obtain ⟨birth, verdicts, folds, now⟩ := h
  obtain ⟨xs, made⟩ : ∃ xs, s.memory a = some xs := by
    rcases now with ⟨-, made, -⟩ | ⟨-, -, -, xs, -, made, -⟩
    · exact ⟨_, made⟩
    · exact ⟨xs, made⟩
  have births' : births a (s :: past) s' = [start] := by
    rw [births_cons, birth, State.born, made]
    rfl
  have concluded' : concluded a (s :: past) s' =
      done.map (fun e => ⟨a, e.1.reply, e.2⟩) ++ s.closes a s' := by
    rw [concluded_cons, verdicts]
  have taken' : taken a (s :: past) s' = taken a past s ++ s.takes a s' :=
    taken_cons
  have numbered := reachable.sound.formed.actors
  cases progress with
  | calm _ remembers same takes closes =>
    rw [takes, List.append_nil] at taken'
    rw [closes, List.append_nil] at concluded'
    refine ⟨done, zs, births', concluded', folds, ?_⟩
    rcases now with ⟨all, made, rests⟩ | ⟨m, r, code, xs, all, made, handling, means⟩
    · exact .inl ⟨taken'.trans all, remembers _ made,
        fun r code reply handling => rests r code reply ((same _ _ _).1 handling)⟩
    · exact .inr ⟨m, r, code, xs, taken'.trans all, remembers _ made,
        (same _ _ _).2 handling, means⟩
  | @takesUp home handled m idle _ _ remembers handling takes closes =>
    rw [takes] at taken'
    rw [closes, List.append_nil] at concluded'
    refine ⟨done, zs, births', concluded', folds, .inr ?_⟩
    rcases now with ⟨all, made, -⟩ | ⟨m', r, code, xs, -, -, busy, -⟩
    · exact ⟨m, home, m.handler, zs, by rw [taken', all], remembers _ made, handling,
        fun _ _ handles => handles⟩
    · exact (reachable.not_handling idle (by simp) busy).elim
  | @goesOn home code code' reply before _ _ stretches after takes closes =>
    rw [takes, List.append_nil] at taken'
    rw [closes, List.append_nil] at concluded'
    refine ⟨done, zs, births', concluded', folds, .inr ?_⟩
    rcases now with ⟨-, -, rests⟩ | ⟨m, r, code₀, xs, all, made, handling, means⟩
    · exact (rests _ _ _ before).elim
    · obtain ⟨rfl, rfl⟩ := reachable.same_handling handling before
      obtain ⟨ys, made', goes⟩ := stretches numbered xs made
      exact ⟨m, home, code', ys, taken'.trans all, made', after,
        fun _ _ handles => means _ _ (goes _ _ handles)⟩
  | @ends home handled code reply result before _ _ concludes after takes closes =>
    rw [takes, List.append_nil] at taken'
    rcases now with ⟨-, -, rests⟩ | ⟨m, r, code₀, xs, all, made, handling, means⟩
    · exact (rests _ _ _ before).elim
    · obtain ⟨rfl, rfl⟩ := reachable.same_handling handling before
      obtain ⟨ys, made', handles⟩ := concludes numbered xs made
      refine ⟨done ++ [(m, result)], ys, births', ?_, folds.next (means _ _ handles),
        .inl ⟨?_, made', ?_⟩⟩
      · rw [concluded', closes, List.map_append]
        rfl
      · rw [taken', all, List.map_append]
        rfl
      · exact fun _ _ _ => reachable'.not_handling after (by simp)

/-- **Along every run** an actor has handled its messages one after the other. -/
theorem Trail.along (h : Trail past s d) (a : ActorId) : Along a past s := by
  induction h with
  | init => exact ⟨rfl, rfl, rfl⟩
  | @next past s s' d d' h t ih =>
    have progress := t.progress h.reachable a
    unfold Along at ih
    split at ih
    · rename_i unmade
      exact ih.next h.reachable unmade progress
    · obtain ⟨start, done, zs, course⟩ := ih
      obtain ⟨done', zs', course'⟩ := course.next h.reachable (h.reachable.next t) progress
      unfold Along
      split
      · rename_i lost
        rcases course'.now with ⟨-, made, -⟩ | ⟨-, -, -, xs, -, made, -⟩
        · cases lost.symm.trans made
        · cases lost.symm.trans made
      · exact ⟨start, done', zs', course'⟩

theorem Trail.course (h : Trail past s d) (made : s.memory a = some xs) :
    ∃ start done zs, Course a past s start done zs := by
  have along := h.along a
  rwa [Along, made] at along

/-! ### What is dropped -/

/-- Whoever carries the slice of an actor was built. -/
theorem Kept.built (h : Kept a s d l) (carries : l.carrier = some r) : s.Built r := by
  induction h with
  | init => cases carries
  | @next s s' d d' l h t ih =>
    have sound := h.carried.1.sound
    by_cases due' : s'.due a = true
    · cases due : s.due a with
      | true => exact t.built sound (ih (by simpa [Ledger.next, due, due'] using carries))
      | false =>
        obtain ⟨r', here, there⟩ := t.found sound due due'
        have same : r' = r := by simpa [Ledger.next, due, due', here] using carries
        exact t.built sound (same ▸ there)
    · simp [Ledger.next, due'] at carries

/-- **A message is dropped only after a runtime was closed.** -/
theorem Trail.dropped (h : Trail past s d) {m : Message} (lost : .dropped m ∈ fates a past s) :
    ∃ x ∈ past, ∃ r rt, x.runtimes.get? r = some rt ∧ rt.closed = true := by
  induction h with
  | init => cases lost
  | @next past s s' d d' h t ih =>
    rw [fates_cons, List.mem_append] at lost
    rcases lost with before | now
    · obtain ⟨x, hx, shut⟩ := ih before
      exact ⟨x, List.mem_cons_of_mem _ hx, shut⟩
    · obtain ⟨l, kept⟩ := h.reachable.kept a
      have doomed : s.doom a ≠ 0 := by
        simp only [State.departed, List.mem_append, List.mem_map, reduceCtorEq, and_false,
          exists_false, false_or] at now
        obtain ⟨m', waits, -⟩ := now
        unfold State.dropped at waits
        split at waits
        · rename_i b rest agenda
          split at waits
          · rename_i same
            simp [State.doom, agenda, Action.dooms, same]
          · cases waits
        · cases waits
      obtain ⟨r, carries, shut⟩ := kept.carried.2.closed doomed
      obtain ⟨rt, found⟩ := kept.built carries
      refine ⟨s, List.mem_cons_self, r, rt, found, ?_⟩
      simpa [State.closed, found] using shut

/-! ### What the callers can learn -/

/-- The reply to a message tells what its handler came to. -/
theorem Course.replied (h : Course a past s start done zs) (trail : Trail past s d)
    {e : Message × Except String Int64} (he : e ∈ done) {k : CallId} (reply : e.1.reply = some k)
    {w : Reply} (hw : w ∈ written k past s) : w.outcome = learnt e.2 := by
  have ends : ⟨a, some k, e.2⟩ ∈ concluded a past s := by
    rw [h.verdicts, ← reply]
    exact List.mem_map_of_mem he
  have seen : ⟨a, some k, e.2⟩ ∈ ended k past s := by
    rw [ended, List.mem_filter]
    refine ⟨gather_subset (fun _ _ _ he => List.mem_of_mem_filter he) s past ends, ?_⟩
    simp
  rcases (trail.tells hw).2 with ⟨-, -, none⟩ | ⟨p, v, -, one, outcome⟩
  · rw [none] at seen
    exact (List.not_mem_nil seen).elim
  · rw [one, List.mem_singleton] at seen
    rw [outcome, ← seen]

/-- No message of an actor waits and none is in progress. -/
def State.Settled (s : State) (a : ActorId) : Prop :=
  s.mailbox a = [] ∧ ∀ r code reply, ¬ s.Handling r a code reply

/-- A runtime was closed. -/
def State.Shut (s : State) : Prop :=
  ∃ r rt, s.runtimes.get? r = some rt ∧ rt.closed = true

/-- Where no message was dropped, those that arrived were taken up or wait. -/
theorem Trail.kept_all (h : Trail past s d) (a : ActorId) (open_ : ∀ x ∈ past, ¬ x.Shut) :
    arrivals a past s = taken a past s ++ s.mailbox a := by
  rw [h.order a, taken_eq]
  congr 1
  have none : ∀ f ∈ fates a past s, Fate.handled? f = some f.message := by
    intro f hf
    cases f with
    | handled m => rfl
    | dropped m =>
      obtain ⟨x, hx, shut⟩ := h.dropped hf
      exact (open_ x hx shut).elim
  rw [← List.filterMap_eq_map]
  exact (List.filterMap_congr none).symm

/-- **An actor that has settled has folded all messages that arrived**, in the order of their
arrival and whatever the slices were, if no runtime was closed and the handlers ask nobody but its
state.  The replies are what the fold gives. -/
theorem Course.settled (h : Course a past s start done zs) (trail : Trail past s d)
    (made : s.memory a = some xs) (settled : s.Settled a) (open_ : ∀ x ∈ past, ¬ x.Shut)
    (steady : ∀ m ∈ arrivals a past s, linesSteady m.handler = true) :
    xs = foldHandlers start ((arrivals a past s).map Message.handler) ∧
      (concluded a past s).map Verdict.result =
        foldResults start ((arrivals a past s).map Message.handler) ∧
      ∀ (i : Nat) (m : Message) (k : CallId) (w : Reply), (arrivals a past s)[i]? = some m →
        m.reply = some k → w ∈ written k past s →
        ∃ result, (foldResults start ((arrivals a past s).map Message.handler))[i]? = some result ∧
          w.outcome = learnt result := by
  rcases h.now with ⟨all, state, -⟩ | ⟨m, r, code, -, -, -, busy, -⟩
  · have same : arrivals a past s = done.map Prod.fst := by
      rw [trail.kept_all a open_, settled.1, List.append_nil, all]
    rw [same] at steady ⊢
    obtain ⟨folded, results⟩ := h.folds.steady steady
    have handlers : (done.map Prod.fst).map Message.handler = done.map fun e => e.1.handler :=
      List.map_map
    rw [handlers, ← results]
    refine ⟨?_, ?_, fun i m k w found reply hw => ?_⟩
    · rw [← folded]
      exact Option.some.inj (made.symm.trans state)
    · rw [h.verdicts, List.map_map]
      rfl
    · rw [List.getElem?_map, Option.map_eq_some_iff] at found
      obtain ⟨e, there, rfl⟩ := found
      refine ⟨e.2, ?_, h.replied trail (List.mem_of_getElem? there) reply hw⟩
      rw [List.getElem?_map, there, Option.map_some]
  · exact (settled.2 _ _ _ busy).elim

/-- **An actor folds its messages in the order in which they arrived**, whatever the slices were
in which it did so.

* The messages leave the mailbox in that order, and those that were taken up are those that were
  not dropped.  None is dropped before some runtime is closed, and none is stranded.
* The handlers that have ended are those of the messages that were taken up, except for the last
  one if it is still in progress.  Each got the state that the one before had left, also if that
  one panicked, and the state of the actor is what the last one has left or is making of it.
* A reply tells what the handler of its message came to.
* If the handlers ask nobody but the state of the actor, that state and what they came to are the
  fold over the state that the actor was made with.
* So if no runtime is closed, two runs in which the same handlers arrived for two such actors in
  the same order, and which have settled, end with the same state and give the same replies. -/
theorem folded_in_order (h : Trail past s d) (made : s.memory a = some xs) :
    arrivals a past s = (fates a past s).map Fate.message ++ s.mailbox a ∧
    taken a past s = (fates a past s).filterMap Fate.handled? ∧
    (∀ m, .dropped m ∈ fates a past s → ∃ x ∈ past, x.Shut) ∧
    (s.mailbox a ≠ [] → s.agenda = [] → ∃ r,
      (∃ p, s.closed r = false ∧ .drain a ∈ (s.queue r).band p) ∨
        ∃ handled stage, s.slice r = some (.drain a handled stage)) ∧
    ∃ start done zs, Course a past s start done zs ∧
      (∀ e ∈ done, ∀ k, e.1.reply = some k → ∀ w ∈ written k past s, w.outcome = learnt e.2) ∧
      ((∀ m ∈ taken a past s, linesSteady m.handler = true) →
        zs = foldHandlers start (done.map fun e => e.1.handler) ∧
          done.map Prod.snd = foldResults start (done.map fun e => e.1.handler)) ∧
      ∀ past' s' d' a' xs', Trail past' s' d' → s'.memory a' = some xs' →
        births a' past' s' = [start] →
        (arrivals a' past' s').map Message.handler = (arrivals a past s).map Message.handler →
        (∀ m ∈ arrivals a past s, linesSteady m.handler = true) →
        (∀ x ∈ past, ¬ x.Shut) → (∀ x ∈ past', ¬ x.Shut) → s.Settled a → s'.Settled a' →
        xs' = xs ∧
        (concluded a' past' s').map Verdict.result = (concluded a past s).map Verdict.result ∧
        ∀ (i : Nat) (m m' : Message) (k k' : CallId) (w w' : Reply),
          (arrivals a past s)[i]? = some m → (arrivals a' past' s')[i]? = some m' →
          m.reply = some k → m'.reply = some k' → w ∈ written k past s → w' ∈ written k' past' s' →
          w'.outcome = w.outcome := by
  obtain ⟨start, done, zs, course⟩ := h.course made
  refine ⟨h.order a, taken_eq a past s, fun m => h.dropped,
    fun mail => (h.reachable.expected mail).2,
    start, done, zs, course, fun e he k reply w => course.replied h he reply, fun steady => ?_, ?_⟩
  · refine course.folds.steady fun m hm => steady m ?_
    rcases course.now with ⟨all, -⟩ | ⟨_, _, _, _, all, -⟩
    · rwa [all]
    · exact all ▸ List.mem_append_left _ hm
  · intro past' s' d' a' xs' h' made' birth' same steady open_ open' settled settled'
    obtain ⟨start', done', zs', course'⟩ := h'.course made'
    cases List.singleton_inj.1 (course'.birth.symm.trans birth')
    have steady' : ∀ m ∈ arrivals a' past' s', linesSteady m.handler = true := by
      intro m hm
      obtain ⟨m', hm', handler⟩ := List.mem_map.1 (same ▸ List.mem_map_of_mem hm)
      rw [← handler]
      exact steady m' hm'
    obtain ⟨state, results, replies⟩ := course.settled h made settled open_ steady
    obtain ⟨state', results', replies'⟩ := course'.settled h' made' settled' open' steady'
    rw [same] at state' results' replies'
    refine ⟨state'.trans state.symm, results'.trans results.symm, ?_⟩
    intro i m m' k k' w w' found found' reply reply' hw hw'
    obtain ⟨result, there, outcome⟩ := replies i m k w found reply hw
    obtain ⟨result', there', outcome'⟩ := replies' i m' k' w' found' reply' hw'
    cases there.symm.trans there'
    exact outcome'.trans outcome.symm

/-! ### Slices of different length -/

/-- Three handlers: the second one panics after it has changed the state. -/
def threeHandlers : List (List Line) :=
  [[.mk ⟨"push", none, none, true⟩ (.push 1)],
    [.mk ⟨"push", none, none, true⟩ (.push 2), .mk ⟨"panic", none, none, true⟩ (.panic .fixed)],
    [.mk ⟨"double", none, none, true⟩ .double,
      .mk ⟨"ret", none, none, true⟩ (.ret none (some .sum))]]

theorem State.not_shut_of_all {past : List State}
    (all : (past.all fun x => !x.runtimes.any fun _ rt => rt.closed) = true) :
    ∀ x ∈ past, ¬ x.Shut := by
  rintro x hx ⟨r, rt, found, shut⟩
  have calm := Store.of_any_eq_false (by simpa using List.all_eq_true.1 all x hx) found
  cases calm.symm.trans shut

theorem State.settled_of_empty {s : State} {a : ActorId} (empty : (s.mailbox a).isEmpty = true)
    (free : (s.runtimes.any fun _ rt => rt.slice.isSome) = false) : s.Settled a := by
  refine ⟨List.isEmpty_iff.1 empty, ?_⟩
  rintro r code reply ⟨handled, frame, during⟩
  obtain ⟨rt, found, slice⟩ := State.slice_eq during
  have calm := Store.of_any_eq_false free found
  simp [slice] at calm

-- the arrivals are compared by running the machine, which goes deeper than the default allows
set_option maxRecDepth 20000 in
/-- On each of two runtimes a task sends three messages to an actor.  A slice of the first handles
one of them, a slice of the second all three. -/
theorem trail_three : ∃ past s, Trail past s .clear ∧ s.batch ⟨0⟩ = 1 ∧ s.batch ⟨1⟩ = 3 ∧
    s.memory ⟨0⟩ = some [1, 4] ∧ (s.memory ⟨1⟩).isSome = true ∧
    births ⟨0⟩ past s = [[]] ∧ births ⟨1⟩ past s = [[]] ∧
    (arrivals ⟨0⟩ past s).map Message.handler = threeHandlers ∧
    (arrivals ⟨1⟩ past s).map Message.handler = threeHandlers ∧
    (∀ x ∈ past, ¬ x.Shut) ∧ s.Settled ⟨0⟩ ∧ s.Settled ⟨1⟩ := by
  have first : Trail _ _ .clear := Trail.init.next (.move rfl (.build 0 (some 1) none))
  have second := first.next (.move (by decide) (.build 1 (some 3) none))
  have made := second.next (.move (by decide) (.line (show State.plain? _ { who := .main } []
    ⟨"actor", none, some "one", true⟩ (.actor [] none) = some _ from rfl)))
  have shelved := (made.follow 1).next (.move (by decide) .shelve)
  have made' := shelved.next (.move (by decide) (.line (show State.plain? _ { who := .main } []
    ⟨"actor", none, some "three", true⟩ (.actor [] none) = some _ from rfl)))
  have shelved' := (made'.follow 1).next (.move (by decide) .shelve)
  have spawned := shelved'.next (.move (by decide) (.line (show State.plain? _ { who := .main } []
    ⟨"rt_spawn", none, some "t", true⟩ (.spawnOn 0 none (threeHandlers.map fun handler =>
      .mk ⟨"send", some "one", none, true⟩ (.send handler))) = some _ from rfl)))
  have spawning := (spawned.follow 1).next (.move (by decide) .shelve)
  have spawned' := spawning.next (.move (by decide) (.line (show State.plain? _ { who := .main } []
    ⟨"rt_spawn", none, some "u", true⟩ (.spawnOn 1 none (threeHandlers.map fun handler =>
      .mk ⟨"send", some "three", none, true⟩ (.send handler))) = some _ from rfl)))
  have spawning' := (spawned'.follow 1).next (.move (by decide) .shelve)
  have run := (spawning'.next (.move (by decide)
    (.start (show Store.get? _ 0 = some ⟨0⟩ by decide)))).follow 60
  have run' := (run.next (.move (by decide +kernel)
    (.start (show Store.get? _ 1 = some ⟨1⟩ by decide +kernel)))).follow 60
  exact ⟨_, _, run', by decide +kernel, by decide +kernel, by decide +kernel, by decide +kernel,
    by decide +kernel, by decide +kernel, by rfl, by rfl,
    State.not_shut_of_all (by decide +kernel),
    State.settled_of_empty (by decide +kernel) (by decide +kernel),
    State.settled_of_empty (by decide +kernel) (by decide +kernel)⟩

/-- Both actors end with the same state and give the same replies. -/
theorem folded_in_order_slices : ∃ past s, Trail past s .clear ∧ s.batch ⟨0⟩ = 1 ∧
    s.batch ⟨1⟩ = 3 ∧ s.memory ⟨0⟩ = some [1, 4] ∧ s.memory ⟨1⟩ = some [1, 4] ∧
    (concluded ⟨1⟩ past s).map Verdict.result = (concluded ⟨0⟩ past s).map Verdict.result := by
  obtain ⟨past, s, h, one, three, made, made', birth, birth', arrived, arrived', open_, settled,
    settled'⟩ := trail_three
  obtain ⟨xs, known⟩ := Option.isSome_iff_exists.1 made'
  obtain ⟨-, -, -, -, start, done, zs, course, -, -, agree⟩ := folded_in_order h made
  cases List.singleton_inj.1 (birth.symm.trans course.birth)
  have steady : ∀ m ∈ arrivals ⟨0⟩ past s, linesSteady m.handler = true := by
    intro m hm
    have mem : m.handler ∈ threeHandlers := arrived ▸ List.mem_map_of_mem hm
    exact List.all_eq_true.1 (show threeHandlers.all linesSteady = true by decide) _ mem
  obtain ⟨same, results, -⟩ := agree past s .clear ⟨1⟩ xs h known birth'
    (arrived'.trans arrived.symm) steady open_ open_ settled settled'
  exact ⟨past, s, h, one, three, made, same ▸ known, results⟩

end Nursery
