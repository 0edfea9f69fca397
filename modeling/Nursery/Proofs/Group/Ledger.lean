import Nursery.Proofs.Group.Waiting

/-!
# What becomes of what a group hands on

A look for the next result gets what is handed on at once.  A look for all results keeps it, over
any number of slices, and gets it in the end, if its body is not destroyed before: the values if no
failure is among it, and otherwise the failure, and then the values are of no use to anybody.

* `Tally.of_results` : what children come to together.
* `Trail.waits_sums` : **what a line has come to**, from those who were collected since it began.
* `State.tallied?` : what the line has come to that waits for all results of a group.
* `Look.answer?` : what a look gets.
* `Books`, `Trail.books` : what happens to it in one transition.
* `Trail.values_ledger`, `Trail.failures_ledger` : **what becomes of everything that is handed on**.
* `Trail.forfeited_gone` : it gets lost only with the body that has kept it.
-/

namespace Nursery

variable {s s' : State} {d d' : Desk} {g t u : TaskId} {l : Look} {f f' : Fiber} {w : Waiting}
  {past before : List State} {s₀ : State} {task task' : Task} {tally : Tally}
  {mine : List Taking} {result : Except GroupError (List Int64)}

/-! ### What children come to together -/

theorem Tally.foldl_add (rs : List (Except GroupError Int64)) : ∀ tally : Tally,
    rs.foldl Tally.add tally = ⟨tally.values ++ rs.filterMap Except.toOption,
      (rs.filterMap errorOf).getLast?.or tally.failure⟩ := by
  induction rs with
  | nil => simp
  | cons r rs ih =>
    intro tally
    rw [List.foldl_cons, ih]
    cases r with
    | ok value => simp [Tally.add, Except.toOption, errorOf]
    | error e =>
      refine congrArg₂ Tally.mk rfl ?_
      rw [List.filterMap_cons_some (show errorOf (.error e) = some e from rfl), List.getLast?_cons]
      cases (rs.filterMap errorOf).getLast? <;> rfl

/-- **What children come to together** that are collected one after the other: their values, and
the first of their failures if none was reported before. -/
theorem Tally.of_results (failed : Bool) (xs : List Taking) :
    Tally.of (Taking.results failed xs) = ⟨xs.filterMap Taking.value?,
      if failed then none else (xs.filterMap Taking.failure?).head?⟩ := by
  rw [Tally.of, Tally.foldl_add, Taking.values_results, Taking.errors_results]
  cases failed with
  | true => simp [toReport]
  | false => cases xs.filterMap Taking.failure? <;> simp [toReport]

/-- What a line has come to that waits for all results of a group, when some children were
collected since it began to wait. -/
structure Tally.Sums (g t : TaskId) (past : List State) (s : State) (tally : Tally)
    (before : List State) (s₀ : State) (mine : List Taking) : Prop where
  /-- Where it began to wait. -/
  begun : Begun g t before s₀ past s
  /-- Who was collected since then. -/
  takings : gather (State.takings g) s past = gather (State.takings g) s₀ before ++ mine
  /-- It has the values of these, in the order of their ends. -/
  values : tally.values = mine.filterMap Taking.value?
  /-- It has the first of their failures, unless a child has failed that was collected before. -/
  failure : tally.failure =
    if (gather (State.takings g) s₀ before).any fun x => x.failure?.isSome then none
    else (mine.filterMap Taking.failure?).head?

theorem Tally.Since.sums (h : Trail past s d) (since : Tally.Since g t past s tally) :
    ∃ before s₀ mine, Tally.Sums g t past s tally before s₀ mine := by
  obtain ⟨before, s₀, rs, begun, handed, rfl⟩ := since
  obtain ⟨later, goes_on, -⟩ := begun.since
  obtain ⟨d₀, h₀⟩ := h.before goes_on
  obtain ⟨mine, takings⟩ := gather_of_append (State.takings g) goes_on
  have results := (h.balanced g).results
  rw [handed, takings, Taking.results_append, (h₀.balanced g).results, Bool.false_or] at results
  rw [List.append_cancel_left results, Tally.of_results]
  exact ⟨before, s₀, mine, begun, takings, rfl, rfl⟩

/-- **What a line has come to** that waits for all results of a group is what those have come to
that were collected since it began to wait. -/
theorem Trail.waits_sums (h : Trail past s d) (found : s.tasks.get? t = some task)
    (stored : task.fiber = some f) (waits : f.waiting = some w) {own : Bool} {values : List Int64}
    {failure : Option GroupError} (wait : w.wait = .all g own values failure) :
    ∃ before s₀ mine, Tally.Sums g t past s ⟨values, failure⟩ before s₀ mine :=
  (h.waits_since t task f w g own values failure found stored waits wait).sums h

theorem Trail.look_sums (h : Trail past s d) (look : s.look? = some l)
    (all : l.tally = some tally) :
    ∃ before s₀ mine, Tally.Sums l.group l.poller past s tally before s₀ mine :=
  (h.look_since look all).sums h

/-! ### Who waits for a group -/

/-- What a body has come to that waits for all results of a group. -/
def Fiber.tallied? (g : TaskId) (f : Fiber) : Option Tally :=
  f.waiting.bind fun w =>
    match w.wait with
    | .all g' _ values failure => if g' = g then some ⟨values, failure⟩ else none
    | _ => none

/-- What the line has come to that waits for all results of a group, if there is one. -/
def State.tallied? (s : State) (g : TaskId) : Option Tally :=
  s.tasks.findSome? fun m => m.fiber.bind (Fiber.tallied? g)

theorem Fiber.tallied?_eq_some : f.tallied? g = some tally ↔
    ∃ w own, f.waiting = some w ∧ w.wait = .all g own tally.values tally.failure := by
  rw [tallied?, Option.bind_eq_some_iff]
  constructor
  · rintro ⟨w, waits, come⟩
    split at come
    · rename_i g' own values failure wait
      split at come <;> cases come
      rename_i same
      exact ⟨w, own, waits, same ▸ wait⟩
    · cases come
  · rintro ⟨w, own, waits, wait⟩
    exact ⟨w, waits, by simp [wait]⟩

theorem Fiber.tallied?_of_settled (settled : f.gathers = false) : f.tallied? g = none := by
  by_contra waits
  obtain ⟨tally, come⟩ := Option.ne_none_iff_exists'.1 waits
  obtain ⟨w, own, waits, wait⟩ := tallied?_eq_some.1 come
  rw [gathers, waits, Option.any_some, wait] at settled
  cases settled

/-- Whoever waits for a group has it. -/
theorem Sound.tallied_mem (sound : Sound s d) (found : s.tasks.get? t = some task)
    (stored : task.fiber = some f) (waits : f.tallied? g = some tally) :
    .group g ∈ f.resources := by
  obtain ⟨w, own, waits, wait⟩ := Fiber.tallied?_eq_some.1 waits
  have mine := (sound.wakeful t task found).own f w stored waits
  rwa [wait] at mine

theorem Sound.tallied_of_holder (sound : Sound s d) (found : s.tasks.get? t = some task)
    (stored : task.fiber = some f) (mine : .group g ∈ f.resources) :
    s.tallied? g = f.tallied? g := by
  rw [State.tallied?, Store.findSome?_eq_bind sound.formed.distinctTasks t, found, Option.bind_some,
    stored, Option.bind_some]
  intro u task' found' other
  by_contra waits
  obtain ⟨tally, come⟩ := Option.ne_none_iff_exists'.1 waits
  obtain ⟨f', stored', waits'⟩ := Option.bind_eq_some_iff.1 come
  exact other (sound.one_holder found' stored' (sound.tallied_mem found' stored' waits')
    found stored mine)

theorem State.tallied?_eq_some (formed : Formed s) (come : s.tallied? g = some tally) :
    ∃ t task f, s.tasks.get? t = some task ∧ task.fiber = some f ∧ f.tallied? g = some tally := by
  obtain ⟨⟨t, task⟩, mem, waits⟩ := List.exists_of_findSome?_eq_some come
  obtain ⟨f, stored, waits⟩ := Option.bind_eq_some_iff.1 waits
  exact ⟨t, task, f, Store.lookup_of_mem formed.distinctTasks mem, stored, waits⟩

theorem Sound.tallied_of_look (sound : Sound s d) (look : s.look? = some l)
    (found : s.tasks.get? l.poller = some task) (stored : task.fiber = some f) :
    s.tallied? l.group = f.tallied? l.group := by
  rw [State.tallied?, Store.findSome?_eq_bind sound.formed.distinctTasks l.poller, found,
    Option.bind_some, stored, Option.bind_some]
  intro u task' found' other
  by_contra waits
  obtain ⟨tally, come⟩ := Option.ne_none_iff_exists'.1 waits
  obtain ⟨f', stored', waits'⟩ := Option.bind_eq_some_iff.1 come
  exact sound.look_apart look found' stored' (sound.tallied_mem found' stored' waits')
    other.symm rfl

/-- A look goes on with what its line has come to, or begins with nothing. -/
theorem Sound.look_tallied (sound : Sound s d) (look : s.look? = some l) :
    s.tallied? l.group = l.tally ∨
      s.tallied? l.group = none ∧ l.tally = some ⟨[], none⟩ := by
  obtain ⟨task, f, found, stored, line⟩ := State.look_line look
  rw [sound.tallied_of_look look found stored]
  rcases line with ⟨w, own, tally, waits, goes_on, wait⟩ | ⟨settled, begins⟩
  · exact .inl ((Fiber.tallied?_eq_some.2 ⟨w, own, waits, wait⟩).trans goes_on.symm)
  · have nothing := Fiber.tallied?_of_settled (g := l.group) settled
    exact begins.imp (fun next => nothing.trans next.symm) fun first => ⟨nothing, first⟩

/-! ### After a look -/

theorem Collects.bodies {xs : List Taking} {rs : List (Except GroupError Int64)} {x x' : State}
    (c : Collects g x xs rs x') (t : TaskId) :
    (x'.tasks.get? t).map Task.fiber = (x.tasks.get? t).map Task.fiber := by
  induction c with
  | nil => rfl
  | cons first _ ih =>
    rw [ih, first.tasks, Store.map_get?_modify_same]
    exact fun _ => rfl

/-- A line that waits for all results is suspended if some are outstanding. -/
theorem Look.ComesTo.stays (comes : l.ComesTo false) (all : l.tally = some tally) (tag : Tag)
    (attempt : Attempt) (own : Bool) : (l.turn f tag attempt own).flow = .suspend ∧
      (l.turn f tag attempt own).fiber.tallied? l.group =
        some (l.results.foldl Tally.add tally) := by
  have found := comes.all tally all
  simp only [Look.turn, all, State.awaitAll]
  generalize l.state.pollAll l.group l.poller tally = p at found ⊢
  obtain ⟨x, tally', polled⟩ := p
  cases found
  exact ⟨rfl, by simp [State.suspends, Fiber.tallied?]⟩

/-- The body of a line that is suspended after a look is stored as its turn leaves it. -/
theorem State.LooksAt.suspended {home : RuntimeId} {tag : Tag} {attempt : Attempt} {own : Bool}
    (at_ : s.LooksAt l) (h : Trail past s d) (look : s.look? = some l)
    (step : s.step = (l.turn f tag attempt own).takeEffect home l.poller)
    (flow : (l.turn f tag attempt own).flow = .suspend) :
    ∃ m : Task, s.step.tasks.get? l.poller =
      some { m with fiber := some (l.turn f tag attempt own).fiber } := by
  obtain ⟨task, f₀, found, -⟩ := State.look_line look
  obtain ⟨shared, eq⟩ := at_.state
  obtain ⟨group, known⟩ := at_.known
  obtain ⟨xs, x, collects, left, -⟩ := Look.collects
    (show l.state.groups.get? l.group = some group by rw [at_.before.groups, known])
    (at_.rolls h.rolls) (at_.parted h.reachable.sound)
  -- collecting changes no body
  have same := collects.bodies l.poller
  rw [eq, found, Option.map_some] at same
  obtain ⟨m, there, -⟩ := Option.map_eq_some_iff.1 same
  have known : l.found.tasks.get? l.poller = some m := by
    rcases left with left | left <;> rw [left] <;> exact there
  refine ⟨m, ?_⟩
  rw [step, Turn.takeEffect, flow]
  refine Store.get?_modify_eq_some.2 ⟨m, ?_, (if_pos rfl).symm⟩
  rw [(l.turn_state f tag attempt own).1, known]

/-- Nobody waits for all results any more after a look that has found the last one, or that was
for the next one only. -/
theorem Looked.nobody_waits {xs : List Taking} {s₁ : State} (h : Trail past s d)
    (look : s.look? = some l) (looked : Looked s l xs s₁)
    (settled : s₁.drained l.group = true ∨ l.tally = none) : s.step.tallied? l.group = none := by
  have sound := h.reachable.sound
  have stepped : Transition s d s.step d := .step
  by_contra waits
  obtain ⟨tally', come⟩ := Option.ne_none_iff_exists'.1 waits
  obtain ⟨t, task', f', found', stored', waits'⟩ :=
    State.tallied?_eq_some (h.reachable.next stepped).sound.formed come
  obtain ⟨w, own', waits, wait⟩ := Fiber.tallied?_eq_some.1 waits'
  by_cases mine : t = l.poller
  · subst mine
    obtain ⟨more, -, tally, all, -⟩ :=
      looked.suspends (State.step_look sound look) found' stored' waits wait
    rcases settled with last | next
    · cases more.symm.trans last
    · cases next.symm.trans all
  · rcases stepped.gathering h.reachable found' stored' waits (by rw [wait]; rfl) with
      ⟨task, f₀, found, stored, waits⟩ | ⟨l', look', -, me⟩
    · exact sound.look_apart look found stored (sound.tallied_mem found stored
        (Fiber.tallied?_eq_some.2 ⟨w, own', waits, wait⟩)) (Ne.symm mine) rfl
    · cases look.symm.trans look'
      exact mine me.symm

/-- **What a line comes to by a look**: it keeps what was handed on while some are outstanding, and
waits no more when all were collected. -/
theorem Looked.tallied {xs : List Taking} {s₁ : State} (h : Trail past s d)
    (look : s.look? = some l) (looked : Looked s l xs s₁) : s.step.tallied? l.group =
      if s₁.drained l.group then none else l.tally.map (l.results.foldl Tally.add ·) := by
  cases all : l.tally with
  | none => rw [looked.nobody_waits h look (.inr all), Option.map_none, ite_self]
  | some tally =>
    cases more : s₁.drained l.group with
    | true => rw [looked.nobody_waits h look (.inl more), if_pos rfl]
    | false =>
      have comes := looked.comes
      rw [more] at comes
      have at_ := State.step_look h.reachable.sound look
      obtain ⟨home, f, tag, attempt, own, -, -, -, step⟩ := at_.step
      obtain ⟨flow, keeps⟩ := comes.stays (f := f) all tag attempt own
      obtain ⟨m, stored⟩ := at_.suspended h look step flow
      have sound' := (h.next .step).reachable.sound
      rw [sound'.tallied_of_holder stored rfl (sound'.tallied_mem stored rfl keeps), keeps]
      rfl

/-! ### What a look gets -/

/-- The failure that a line has come to. -/
def Tally.errors (tally : Tally) : List GroupError :=
  tally.failure.toList

/-- What a look for all results of a group gets, if they are there. -/
def Look.result? (l : Look) : Option (Except GroupError (List Int64)) :=
  l.tally.bind fun tally =>
    match (l.state.pollAll l.group l.poller tally).2.2 with
    | .ready result => some result
    | _ => none

/-- What a look gets, if it does not have to wait: the next result, if there is one, or all. -/
def Look.answer? (l : Look) : Option (Except GroupError (List Int64)) :=
  match l.tally with
  | none =>
    match (l.state.pollNext l.group l.poller).2 with
    | .ready (some result) => some (result.map fun value => [value])
    | .ready none => some (.ok [])
    | _ => none
  | some _ => l.result?

/-- The values that a look gets. -/
def Look.values (l : Look) : List Int64 :=
  match l.answer? with
  | some (.ok values) => values
  | _ => []

/-- The failure that a look gets. -/
def Look.errors (l : Look) : List GroupError :=
  match l.answer? with
  | some (.error e) => [e]
  | _ => []

/-- The values that a look for all results has come to when it gets a failure. -/
def Look.withheld (l : Look) : List Int64 :=
  l.tally.toList.flatMap fun tally =>
    match (l.state.pollAll l.group l.poller tally).2 with
    | (tally, .ready (.error _)) => tally.values
    | _ => []

namespace State

/-- The look at a group that a transition is. -/
def looking? (g : TaskId) (s s' : State) : Option Look :=
  s.look?.filter fun l => l.group = g && !s'.roused

/-- The values that somebody gets from a group in a transition. -/
def handed (g : TaskId) (s s' : State) : List Int64 :=
  (looking? g s s').toList.flatMap Look.values

/-- The failure that somebody gets from a group in a transition. -/
def raised (g : TaskId) (s s' : State) : List GroupError :=
  (looking? g s s').toList.flatMap Look.errors

/-- The values that a line has come to that gets a failure in a transition. -/
def withheld (g : TaskId) (s s' : State) : List Int64 :=
  (looking? g s s').toList.flatMap Look.withheld

/-- What a line has come to that waits no more after a transition, and has not looked. -/
def forfeited (g : TaskId) (s s' : State) : List Tally :=
  if (looking? g s s').isNone && (s'.tallied? g).isNone then (s.tallied? g).toList else []

end State

/-! ### One transition -/

/-- A failure that is the only one is kept. -/
theorem Tally.foldl_errors (rs : List (Except GroupError Int64))
    (one : (tally.errors ++ rs.filterMap errorOf).length ≤ 1) :
    (rs.foldl Tally.add tally).errors = tally.errors ++ rs.filterMap errorOf := by
  unfold errors at one ⊢
  rw [Tally.foldl_add]
  generalize rs.filterMap errorOf = errors at one
  match kept : tally.failure, errors with
  | _, [] => simp
  | none, [e] => rfl
  | some _, _ :: _ | none, _ :: _ :: _ =>
    rw [kept] at one
    simp at one

/-- The values that a look has handed on are those that are got, withheld or kept. -/
theorem Look.ComesTo.values {drained : Bool} (comes : l.ComesTo drained) : l.values ++ l.withheld ++
    (if drained then none else l.tally.map (l.results.foldl Tally.add ·)).toList.flatMap
      Tally.values =
        l.tally.toList.flatMap Tally.values ++ l.results.filterMap Except.toOption := by
  cases all : l.tally with
  | none =>
    have withheld : l.withheld = [] := by simp [Look.withheld, all]
    rw [withheld, List.append_nil, Option.map_none, ite_self]
    rcases comes.next all with ⟨result, results, ready⟩ | ⟨results, ready⟩
    · cases result <;>
        simp [Look.values, Look.answer?, all, ready, results, Except.toOption, Except.map]
    · cases drained <;> simp [Look.values, Look.answer?, all, ready, results]
  | some tally =>
    have found := comes.all tally all
    have sum : (l.results.foldl Tally.add tally).values =
        tally.values ++ l.results.filterMap Except.toOption := by rw [Tally.foldl_add]
    rw [Option.map_some]
    generalize l.results.foldl Tally.add tally = total at found sum ⊢
    cases drained with
    | false => simp [Look.values, Look.answer?, Look.result?, Look.withheld, all, found, sum]
    | true =>
      cases failure : total.failure <;>
        simp [Look.values, Look.answer?, Look.result?, Look.withheld, all, found, sum, Tally.result,
          failure]

/-- The failure that a look has handed on is got or kept, if it is the only one. -/
theorem Look.ComesTo.errors {drained : Bool} (comes : l.ComesTo drained)
    (one : (l.tally.toList.flatMap Tally.errors ++
      l.results.filterMap errorOf).length ≤ 1) :
    l.errors ++ ((if drained then none else
      l.tally.map (l.results.foldl Tally.add ·)).toList.flatMap Tally.errors) =
        l.tally.toList.flatMap Tally.errors ++
          l.results.filterMap errorOf := by
  cases all : l.tally with
  | none =>
    rw [Option.map_none, ite_self]
    rcases comes.next all with ⟨result, results, ready⟩ | ⟨results, ready⟩
    · cases result <;> simp [Look.errors, Look.answer?, all, ready, results, errorOf, Except.map]
    · cases drained <;> simp [Look.errors, Look.answer?, all, ready, results]
  | some tally =>
    have found := comes.all tally all
    rw [all, Option.toList_some, List.flatMap_singleton] at one
    have sum := Tally.foldl_errors l.results one
    rw [Option.map_some]
    generalize l.results.foldl Tally.add tally = total at found sum ⊢
    cases drained with
    | false => simp [Look.errors, Look.answer?, Look.result?, all, found, sum]
    | true =>
      cases failure : total.failure <;> rw [Tally.errors, failure] at sum <;>
        simp [Look.errors, Look.answer?, Look.result?, all, found, Tally.result, failure, ← sum]

/-- What happens in a transition to what a group hands on. -/
inductive Books (g : TaskId) (s s' : State) : Prop where
  /-- Somebody looks, and gets it or keeps it. -/
  | looks {l : Look} {drained : Bool} (look : State.looking? g s s' = some l)
      (comes : l.ComesTo drained) (results : State.results g s s' = l.results)
      (goes_on : (s.tallied? g = l.tally) ∨ s.tallied? g = none ∧ l.tally = some ⟨[], none⟩)
      (after : s'.tallied? g =
        if drained then none else l.tally.map (l.results.foldl Tally.add ·)) : Books g s s'
  /-- Nobody looks, and what was kept stays so. -/
  | stays (blind : State.looking? g s s' = none) (results : State.results g s s' = [])
      (same : s'.tallied? g = s.tallied? g) : Books g s s'
  /-- Nobody looks, and a body is gone that has kept something. -/
  | goes {t : TaskId} (blind : State.looking? g s s' = none) (results : State.results g s s' = [])
      (waits : s.awaits? t = some g) (gone : (s'.tasks.get? t).bind Task.fiber = none)
      (after : s'.tallied? g = none) : Books g s s'

theorem State.forfeited_of_same (same : s'.tallied? g = s.tallied? g) :
    State.forfeited g s s' = [] := by
  unfold State.forfeited
  rw [same]
  cases s.tallied? g <;> simp

theorem State.looking?_eq_some : State.looking? g s s' = some l ↔
    s.look? = some l ∧ l.group = g ∧ s'.roused = false := by
  simp [State.looking?, Option.filter_eq_some_iff]

/-- Whoever waits for a group did so before, unless somebody has just looked at it. -/
theorem Trail.tallied_before (h : Trail past s d) (tr : Transition s d s' d')
    (come : s'.tallied? g = some tally) : (∃ t task f, s.tasks.get? t = some task ∧
      task.fiber = some f ∧ f.tallied? g = some tally ∧ (s'.tasks.get? t).bind Task.fiber ≠ none) ∨
        ∃ l, s.look? = some l ∧ s' = s.step ∧ l.group = g := by
  have sound' := (h.next tr).reachable.sound
  obtain ⟨t, task', f', found', stored', waits'⟩ := State.tallied?_eq_some sound'.formed come
  obtain ⟨w, own, waits, wait⟩ := Fiber.tallied?_eq_some.1 waits'
  rcases tr.gathering h.reachable found' stored' waits (by rw [wait]; rfl) with
    ⟨task, f, found, stored, waits⟩ | ⟨l, look, rfl, rfl⟩
  · refine .inl ⟨t, task, f, found, stored, Fiber.tallied?_eq_some.2 ⟨w, own, waits, wait⟩, ?_⟩
    rw [found', Option.bind_some, stored']
    exact Option.some_ne_none f'
  · have at_ := State.step_look h.reachable.sound look
    obtain ⟨xs, s₁, looked⟩ := at_.looked h.reachable.sound h.rolls
    exact .inr ⟨l, look, rfl, (looked.suspends at_ found' stored' waits wait).2.1⟩

/-- **What happens in one transition** to what a group hands on. -/
theorem Trail.books (h : Trail past s d) (tr : Transition s d s' d') (g : TaskId) :
    Books g s s' := by
  have sound := h.reachable.sound
  have sound' := (h.next tr).reachable.sound
  by_cases looks : ∃ l, s.look? = some l ∧ s' = s.step ∧ l.group = g
  · obtain ⟨l, look, rfl, rfl⟩ := looks
    obtain ⟨xs, s₁, looked⟩ := (State.step_look sound look).looked sound h.rolls
    exact .looks (State.looking?_eq_some.2 ⟨look, rfl, looked.not_roused⟩) looked.comes
      (looked.results look) (sound.look_tallied look) (looked.tallied h look)
  · obtain ⟨blind, nothing⟩ : State.looking? g s s' = none ∧ State.results g s s' = [] := by
      rcases tr.look_or_uncollected h.reachable h.rolls with ⟨l, look, rfl⟩ | ⟨blind, -⟩
      · have other : l.group ≠ g := fun same => looks ⟨l, look, rfl, same⟩
        refine ⟨?_, Looked.results_of_ne look other⟩
        simp [State.looking?, look, other]
      · refine ⟨?_, State.results_of_blind blind⟩
        rcases blind with blind | roused
        · simp [State.looking?, blind]
        · simp [State.looking?, roused]
    cases before : s.tallied? g with
    | none =>
      refine .stays blind nothing (before.symm ▸ ?_)
      by_contra waits
      obtain ⟨tally, come⟩ := Option.ne_none_iff_exists'.1 waits
      obtain ⟨t, task, f, found, stored, kept, -⟩ := (h.tallied_before tr come).resolve_right looks
      rw [sound.tallied_of_holder found stored (sound.tallied_mem found stored kept), kept]
        at before
      cases before
    | some tally =>
      obtain ⟨t, task, f, found, stored, kept⟩ := State.tallied?_eq_some sound.formed before
      obtain ⟨w, own, waits, wait⟩ := Fiber.tallied?_eq_some.1 kept
      have mine := sound.tallied_mem found stored kept
      rcases tr.goes_on h.reachable found stored waits wait with
        gone | ⟨task', f', found', stored', waits'⟩ | ⟨l, look, rfl, -, rfl⟩
      · refine .goes (t := t) blind nothing ?_ gone ?_
        · rw [State.awaits?, found, Option.bind_some, stored, Option.bind_some, waits,
            Option.bind_some, wait]
          rfl
        · by_contra waits
          obtain ⟨tally, come⟩ := Option.ne_none_iff_exists'.1 waits
          obtain ⟨u, task₁, f₁, found₁, stored₁, kept₁, there⟩ :=
            (h.tallied_before tr come).resolve_right looks
          obtain rfl := sound.one_holder found stored mine found₁ stored₁
            (sound.tallied_mem found₁ stored₁ kept₁)
          exact there gone
      · have kept' : f'.tallied? g = some tally :=
          Fiber.tallied?_eq_some.2 ⟨w, own, waits', wait⟩
        refine .stays blind nothing ?_
        rw [before, ← kept']
        exact sound'.tallied_of_holder found' stored' (sound'.tallied_mem found' stored' kept')
      · exact absurd ⟨l, look, rfl, rfl⟩ looks

/-- What a look begins with is what was kept, also where that is nothing. -/
theorem Look.goes_on {α : Type} {kept : Option Tally}
    (goes_on : kept = l.tally ∨ kept = none ∧ l.tally = some ⟨[], none⟩) (read : Tally → List α)
    (nothing : read ⟨[], none⟩ = []) : kept.toList.flatMap read = l.tally.toList.flatMap read := by
  rcases goes_on with same | ⟨none_kept, first⟩
  · rw [same]
  · rw [none_kept, first]
    simp [nothing]

namespace Books

theorem values (books : Books g s s') : State.handed g s s' ++ State.withheld g s s' ++
    (State.forfeited g s s').flatMap Tally.values ++ (s'.tallied? g).toList.flatMap Tally.values =
      (s.tallied? g).toList.flatMap Tally.values ++
        (State.results g s s').filterMap Except.toOption := by
  cases books with
  | @looks l drained look comes results goes_on after =>
    rw [Look.goes_on goes_on Tally.values rfl, results, ← comes.values, after]
    simp [State.handed, State.withheld, State.forfeited, look]
  | stays blind results same =>
    simp [State.handed, State.withheld, blind, results, State.forfeited_of_same same, same]
  | goes blind results waits gone after =>
    simp [State.handed, State.withheld, State.forfeited, blind, results, after]

theorem errors (books : Books g s s')
    (one : ((s.tallied? g).toList.flatMap Tally.errors ++
      (State.results g s s').filterMap errorOf).length ≤ 1) : State.raised g s s' ++
    (State.forfeited g s s').flatMap Tally.errors ++
      (s'.tallied? g).toList.flatMap Tally.errors =
        (s.tallied? g).toList.flatMap Tally.errors ++
          (State.results g s s').filterMap errorOf := by
  cases books with
  | @looks l drained look comes results goes_on after =>
    rw [Look.goes_on goes_on Tally.errors rfl, results] at one ⊢
    rw [← comes.errors one, after]
    simp [State.raised, State.forfeited, look]
  | stays blind results same =>
    simp [State.raised, blind, results, State.forfeited_of_same same, same]
  | goes blind results waits gone after =>
    simp [State.raised, State.forfeited, blind, results, after]

end Books

/-! ### A run -/

/-- **The values of the children that were collected**, in the order of their ends: somebody got
them, a line withheld them that got a failure, they were lost with the body that has kept them, or a
line still keeps them. -/
theorem Trail.values_ledger (h : Trail past s d) (g : TaskId) :
    gather (fun s s' => State.handed g s s' ++ State.withheld g s s' ++
      (State.forfeited g s s').flatMap Tally.values) s past ++
        (s.tallied? g).toList.flatMap Tally.values =
      (gather (State.takings g) s past).filterMap Taking.value? := by
  rw [← Taking.values_results (gather (State.takings g) s past) false, ← (h.balanced g).results]
  induction h with
  | init => rfl
  | @next past s s' d d' h tr ih =>
    rw [gather_cons, gather_cons, List.append_assoc, (h.books tr g).values, ← List.append_assoc, ih,
      List.filterMap_append]

/-- **The failure of the first child that has failed**: somebody got it, it was lost with the body
that has kept it, or a line still keeps it. -/
theorem Trail.failures_ledger (h : Trail past s d) (g : TaskId) :
    gather (fun s s' => State.raised g s s' ++
      (State.forfeited g s s').flatMap Tally.errors) s past ++
        (s.tallied? g).toList.flatMap Tally.errors =
      ((gather (State.takings g) s past).filterMap Taking.failure?).take 1 := by
  refine Eq.trans ?_ (Taking.errors_results (gather (State.takings g) s past) false)
  rw [← (h.balanced g).results]
  induction h with
  | init => rfl
  | @next past s s' d d' h tr ih =>
    have few := congrArg List.length (Taking.errors_results
      (gather (State.takings g) s' (s :: past)) false)
    rw [← ((h.next tr).balanced g).results, gather_cons, List.filterMap_append, ← ih,
      List.length_append, List.length_append, List.length_take] at few
    have one := (h.books tr g).errors (by
      rw [List.length_append]
      have := Nat.min_le_left (toReport false)
        ((gather (State.takings g) s' (s :: past)).filterMap Taking.failure?).length
      have := show toReport false = 1 from rfl
      omega)
    rw [gather_cons, gather_cons, List.append_assoc, one, ← List.append_assoc, ih,
      List.filterMap_append]

/-- What a line has come to gets lost only with its body. -/
theorem Trail.forfeited_gone (h : Trail past s d) (tr : Transition s d s' d')
    (loses : State.forfeited g s s' ≠ []) :
    ∃ t, s.awaits? t = some g ∧ (s'.tasks.get? t).bind Task.fiber = none := by
  cases h.books tr g with
  | looks look => simp [State.forfeited, look] at loses
  | stays blind _ same => exact absurd (State.forfeited_of_same same) loses
  | goes _ _ waits gone => exact ⟨_, waits, gone⟩

end Nursery
