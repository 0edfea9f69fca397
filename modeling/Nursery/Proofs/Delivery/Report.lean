import Nursery.Proofs.Delivery.Balance
import Nursery.Proofs.Delivery.Taker
import Nursery.Proofs.Losses

/-!
# When a failure is reported

The failure of a task is looked into when the task ends and when its handle is dropped, and whoever
comes second says of it that nobody looked at it.

* `State.said` : what a transition says of the failure of a task.
* `Task.Marks`, `Transition.marks` : what a transition does with the marks of a task.
* `Reports`, `Reachable.reports` : **whoever comes second is still to come, or has come.**
-/

namespace Nursery

/-- A loss tells of the failure of a task that nobody looked at. -/
def Loss.isOf (t : TaskId) : Loss → Bool
  | .unobserved u _ => u = t
  | .suppressed .. => false

/-- What there is to say of an outcome that nobody looked at. -/
def Loss.ofOutcome (t : TaskId) : Except TaskError Int64 → List Loss
  | .ok _ => []
  | .error e => if e.isCancelled then [] else [.unobserved t e]

/-- What a transition says of the failure of a task that nobody looked at. -/
def State.said (t : TaskId) (s s' : State) : List Loss :=
  (s.loses s').filter (Loss.isOf t)

/-- What happens to the marks of a task, and what is said of its failure. -/
inductive Task.Marks (t : TaskId) (failed : Bool) (said : List Loss) (m m' : Task) : Prop where
  /-- They stay, and nothing is said. -/
  | stay (dropped : m'.handleDropped = m.handleDropped) (reported : m'.reported = m.reported)
      (silent : said = [])
  /-- The handle is gone, and the failure is looked into. -/
  | look (dropped : m'.handleDropped = true) (reported : m'.reported = (m.reported || failed))
      (outcome : m'.outcome = m.outcome) (told : said = if failed then m.unseen t else [])

/-- Every failure whose handle is gone was reported, or is just about to be. -/
structure Reports (s : State) : Prop where
  /-- Nothing is reported of a task that has not failed, or that has a handle. -/
  fair : ∀ t m, s.tasks.get? t = some m → m.reported = true →
    m.handleDropped = true ∧ s.phase t = .failed
  /-- A failure whose handle is gone was reported, or the worker is about to do so. -/
  due : ∀ t m, s.tasks.get? t = some m → s.phase t = .failed → m.handleDropped = true →
    m.reported = true ∨ .reportFailure t ∈ s.agenda

variable {s s' : State} {d d' : Desk} {c : Context} {hand hand' : List Resource} {a : Action}
  {home : RuntimeId} {t u : TaskId} {m m' : Task}

/-! ### What is said -/

theorem Task.unseen_eq (t : TaskId) (m : Task) : m.unseen t =
    if m.reported then [] else m.outcome.toList.flatMap (Loss.ofOutcome t) := by
  unfold Task.unseen
  cases m.reported <;> rcases m.outcome with _ | _ | _ <;> simp [Loss.ofOutcome]

theorem Loss.filter_ofOutcome (u : TaskId) (o : Except TaskError Int64) :
    (ofOutcome u o).filter (isOf t) = if u = t then ofOutcome t o else [] := by
  cases o with
  | ok value => simp [ofOutcome]
  | error e =>
    unfold ofOutcome
    split
    · simp
    · by_cases mine : u = t
      · simp [isOf, mine]
      · simp [isOf, mine]

namespace State

theorem unseen_of_get? (found : s.tasks.get? t = some m) : s.unseen t = m.unseen t := by
  simp [unseen, found]

theorem filter_unseen (s : State) (u : TaskId) :
    (s.unseen u).filter (Loss.isOf t) = if u = t then s.unseen t else [] := by
  unfold unseen
  cases found : s.tasks.get? u with
  | none => by_cases mine : u = t <;> simp_all
  | some m =>
    have one : ∀ os : List (Except TaskError Int64), (os.flatMap (Loss.ofOutcome u)).filter
        (Loss.isOf t) = if u = t then os.flatMap (Loss.ofOutcome t) else [] := by
      intro os
      induction os with
      | nil => simp
      | cons o os ih =>
        rw [List.flatMap_cons, List.filter_append, ih, Loss.filter_ofOutcome]
        split <;> simp
    by_cases mine : u = t
    · subst mine
      simp only [found, Option.toList_some, List.flatMap_cons, List.flatMap_nil, List.append_nil,
        Task.unseen_eq, if_true]
      split
      · rfl
      · rw [one, if_pos rfl]
    · simp only [Option.toList_some, List.flatMap_cons, List.flatMap_nil, List.append_nil,
        Task.unseen_eq, if_neg mine]
      split
      · rfl
      · rw [one, if_neg mine]

theorem said_of_idle (idle : s.agenda = []) : said t s s' = [] := by
  have groups : ∀ (g : TaskId) (xs : List Taking) (failed : Bool),
      (Taking.losses g failed xs).filter (Loss.isOf t) = [] := by
    intro g xs
    induction xs with
    | nil => exact fun _ => rfl
    | cons x xs ih =>
      intro failed
      rw [Taking.losses, List.filter_append, ih, List.append_nil, Taking.suppressed]
      split
      · cases x.failure? <;> simp [Loss.isOf]
      · rfl
  unfold said loses
  rw [idle]
  cases s.look? with
  | none => rfl
  | some l =>
    dsimp only
    split
    · rfl
    · exact groups ..

end State

theorem State.said_of_unknown (gone : s.tasks.get? t = none) : State.said t s s' = [] := by
  cases agenda : s.agenda with
  | nil => exact State.said_of_idle agenda
  | cons a rest =>
    have nothing : ∀ u, (State.unseen { s with agenda := rest } u).filter (Loss.isOf t) = [] := by
      intro u
      rw [State.filter_unseen]
      split
      · simp [State.unseen, gone]
      · rfl
    rw [State.said, State.loses, agenda]
    dsimp only
    unfold State.lost
    split
    · split
      · exact nothing _
      · rfl
    · split
      · exact nothing _
      · rfl
    · rfl

/-! ### Marks -/

/-- What an item of the agenda does with the marks of a task. -/
theorem Effect.marks (e : Effect s a s') (found : s.tasks.get? t = some m)
    (found' : s'.tasks.get? t = some m') :
    m.Marks t (decide (s.phase t = .failed)) ((s.lost a).filter (Loss.isOf t)) m' := by
  have same : s.tasks.get? t = some m' → (s.lost a).filter (Loss.isOf t) = [] →
      m.Marks t (decide (s.phase t = .failed)) ((s.lost a).filter (Loss.isOf t)) m' := by
    intro again silent
    cases found.symm.trans again
    exact .stay rfl rfl silent
  cases e with
  | spent why =>
    refine same found' ?_
    cases a with
    | reportFailure u =>
      rw [State.lost]
      split
      · rename_i looks
        rw [State.filter_unseen]
        split
        · rename_i mine
          subst mine
          have dropped : m.handleDropped = true := by simpa [found] using looks.2
          rw [State.unseen_of_get? found, Task.unseen_eq, why looks.1 m found dropped, if_pos rfl]
        · rfl
      · rfl
    | release r =>
      cases r with
      | handle => exact why.elim
      | _ => rfl
    | _ => rfl
  | @reportFailure u f trace only failed dropped looked =>
    obtain ⟨m₁, known, rfl⟩ := Store.get?_modify_eq_some.1 found'
    cases found.symm.trans known
    have said : (s.lost (.reportFailure u)).filter (Loss.isOf t) =
        if u = t then s.unseen t else [] := by
      rw [State.lost, if_pos ⟨failed, dropped⟩, State.filter_unseen]
    rw [said]
    split
    · rename_i mine
      subst mine
      obtain ⟨b, eq⟩ := only m
      have there : m.handleDropped = true := by simpa [found] using dropped
      have reported := looked m found
      refine .look ?_ ?_ ?_ ?_
      · rw [eq]
        exact there
      · rw [reported, failed]
        simp
      · rw [eq]
      · rw [State.unseen_of_get? found, failed]
        rfl
    · exact .stay rfl rfl rfl
  | @dropHandle u f trace only looked =>
    obtain ⟨m₁, known, rfl⟩ := Store.get?_modify_eq_some.1 found'
    cases found.symm.trans known
    have said : (s.lost (.release (.handle u))).filter (Loss.isOf t) =
        if u = t then if s.phase t = .failed then s.unseen t else [] else [] := by
      rw [State.lost]
      by_cases mine : u = t
      · subst mine
        rw [if_pos rfl]
        split
        · rw [State.filter_unseen, if_pos rfl]
        · rfl
      · rw [if_neg mine]
        split
        · rw [State.filter_unseen, if_neg mine]
        · rfl
    rw [said]
    split
    · rename_i mine
      subst mine
      obtain ⟨b, eq⟩ := only m
      refine .look ?_ (looked m found) ?_ ?_
      · rw [eq]
      · rw [eq]
      · rw [State.unseen_of_get? found]
        simp
    · exact .stay rfl rfl rfl
  | wakeWaiters | forget =>
    obtain ⟨m₁, known, rfl⟩ := Store.get?_modify_eq_some.1 found'
    cases found.symm.trans known
    refine .stay ?_ ?_ rfl <;> split <;> rfl
  | bury =>
    rw [State.doFirst, Store.get?_erase] at found'
    split at found'
    · cases found'
    · exact same found' rfl
  | resume =>
    rw [State.tasks_enqueue] at found'
    exact same found' rfl
  | _ => exact same found' rfl

/-- A worker leaves a task there, and its marks alone. -/
theorem Work.marks (formed : Formed s) (w : Work s home s') (found : s.tasks.get? t = some m) :
    ∃ m', s'.tasks.get? t = some m' ∧ m'.handleDropped = m.handleDropped ∧
      m'.reported = m.reported := by
  have line : ∀ {c : Context} {hand hand' : List Resource} {x : State}, Changes c s hand x hand' →
      ∃ m', x.tasks.get? t = some m' ∧ m'.handleDropped = m.handleDropped ∧
        m'.reported = m.reported := by
    intro c hand hand' x changes
    obtain ⟨ws, o, kept⟩ := (changes.keeps formed).tasks t m found
    exact ⟨_, kept, rfl, rfl⟩
  cases w with
  | next _ _ changes | suspend _ _ changes | ends _ _ changes | pause _ _ _ changes =>
    obtain ⟨m₁, known, stays⟩ := line changes
    refine ⟨_, Store.get?_modify_eq_some.2 ⟨m₁, known, rfl⟩, ?_⟩
    split <;> exact stays
  | handle _ changes | hold _ _ changes | handled _ _ changes =>
    have stays := line changes
    exact stays
  | endBody trace cancelled during only =>
    refine ⟨_, Store.get?_modify_eq_some.2 ⟨m, found, rfl⟩, ?_⟩
    split
    · obtain ⟨o, a, eq⟩ := only m
      rw [eq]
      exact ⟨rfl, rfl⟩
    · exact ⟨rfl, rfl⟩
  | again | drainAgain | markerAgain =>
    exact ⟨m, (congrArg (Store.get? · t) (State.tasks_enqueue ..)).trans found, rfl, rfl⟩
  | _ => exact ⟨m, found, rfl, rfl⟩

/-- The main thread leaves a task there, and its marks alone. -/
theorem Move.marks (formed : Formed s) (idle : s.agenda = []) (move : Move s d s' d')
    (found : s.tasks.get? t = some m) :
    ∃ m', s'.tasks.get? t = some m' ∧ m'.handleDropped = m.handleDropped ∧
      m'.reported = m.reported := by
  have same : s'.tasks = s.tasks → ∃ m', s'.tasks.get? t = some m' ∧
      m'.handleDropped = m.handleDropped ∧ m'.reported = m.reported :=
    fun same => ⟨m, by rw [same, found], rfl, rfl⟩
  have line : ∀ {c : Context} {hand hand' : List Resource}, Changes c s hand s' hand' →
      ∃ m', s'.tasks.get? t = some m' ∧ m'.handleDropped = m.handleDropped ∧
        m'.reported = m.reported := by
    intro c hand hand' changes
    obtain ⟨ws, o, kept⟩ := (changes.keeps formed).tasks t m found
    exact ⟨_, kept, rfl, rfl⟩
  cases move with
  | build place batch stem =>
    rcases s.build_cases place batch stem with eq | ⟨-, settings, eq⟩ <;> rw [eq] at same ⊢ <;>
      exact same rfl
  | start | block | join => exact same (State.tasks_start ..)
  | startRounds =>
    exact same ((State.tasks_start ..).trans (State.tasks_enqueue ..))
  | @launchRoot _ r _ body =>
    obtain ⟨nodes, trace, -, eq⟩ :=
      State.launch_addNode_eq formed.nodes .normal none r body true
    rw [State.launchRoot, eq, State.tasks_enqueue]
    refine ⟨m, (Store.get?_set_of_ne ?_).trans found, rfl, rfl⟩
    rintro rfl
    cases found.symm.trans formed.fresh_task
  | leaveRoot =>
    refine ⟨_, Store.get?_modify_eq_some.2 ⟨m, found, rfl⟩, ?_⟩
    split <;> exact ⟨rfl, rfl⟩
  | close => exact same rfl
  | line plain => exact line (State.plain?_fits idle plain)
  | @shelve f => exact line (State.shelve_changes (c := ⟨.main, none⟩) f s [])

/-- **What a transition does with the marks of a task**, and what it says of its failure. -/
theorem Transition.marks (sound : Sound s d) (tr : Transition s d s' d')
    (found : s.tasks.get? t = some m) (found' : s'.tasks.get? t = some m') :
    m.Marks t (decide (s.phase t = .failed)) (State.said t s s') m' := by
  have stay : s.agenda = [] → (∃ m', s'.tasks.get? t = some m' ∧
      m'.handleDropped = m.handleDropped ∧ m'.reported = m.reported) →
      m.Marks t (decide (s.phase t = .failed)) (State.said t s s') m' := by
    rintro idle ⟨m₁, known, dropped, reported⟩
    cases known.symm.trans found'
    exact .stay dropped reported (State.said_of_idle idle)
  cases tr with
  | step =>
    have next := State.step_cases sound.wakeful.waitsOnOwn
    generalize s.step = s' at next found' stay
    cases next with
    | item first e =>
      subst first
      exact e.marks found found'
    | work idle active w => exact stay idle (w.marks sound.formed found)
    | rest rests => exact stay (State.idle_of_resting rests) ⟨m, found, rfl, rfl⟩
  | stray idle => exact stay idle ⟨m, found, rfl, rfl⟩
  | move rests move =>
    have idle := State.idle_of_resting rests
    exact stay idle (move.marks sound.formed idle found)

/-- A task goes when it is buried, and not otherwise. -/
theorem Transition.buried (sound : Sound s d) (tr : Transition s d s' d')
    (found : s.tasks.get? t = some m) (gone : s'.tasks.get? t = none) :
    .bury t ∈ s.agenda ∧ State.said t s s' = [] := by
  have stays : (∃ m', s'.tasks.get? t = some m' ∧ m'.handleDropped = m.handleDropped ∧
      m'.reported = m.reported) → .bury t ∈ s.agenda ∧ State.said t s s' = [] := by
    rintro ⟨m', found', -⟩
    cases gone.symm.trans found'
  cases tr with
  | step =>
    have next := State.step_cases sound.wakeful.waitsOnOwn
    generalize s.step = s' at next gone stays
    cases next with
    | @item a x _ first e =>
      subst first
      have same : s'.tasks.get? t = x.tasks.get? t →
          .bury t ∈ (x.doFirst [a]).agenda ∧ State.said t (x.doFirst [a]) s' = [] := fun same => by
        cases (same.symm.trans gone).symm.trans found
      cases e with
      | @bury u =>
        rw [State.doFirst, Store.get?_erase] at gone
        split at gone
        · rename_i mine
          subst mine
          exact ⟨List.mem_cons_self, rfl⟩
        · cases gone.symm.trans found
      | reportFailure | dropHandle | wakeWaiters | forget =>
        cases (Store.get?_modify_eq_none.1 gone).symm.trans found
      | resume =>
        rw [State.tasks_enqueue] at gone
        cases gone.symm.trans found
      | _ => exact same rfl
    | work idle active w => exact stays (w.marks sound.formed found)
    | rest => cases gone.symm.trans found
  | stray => cases gone.symm.trans found
  | move rests move =>
    exact stays (move.marks sound.formed (State.idle_of_resting rests) found)

/-! ### Reports -/

namespace Reports

theorem init : Reports {} where
  fair t m found := by cases found
  due t m found := by cases found

theorem not_inBody {r : RuntimeId} (halted : Halted s)
    (during : s.slice r = some (.task t .leaving)) : s.inBody = false := by
  have active : ∃ goal, s.active = some (r, goal) := by
    by_contra none
    cases halted r _ during fun goal now => none ⟨goal, now⟩
  obtain ⟨goal, active⟩ := active
  simp only [State.inBody, active, during]

theorem later (sound : Sound s d) (halted : Halted s) (tr : Transition s d s' d')
    (failed : s.phase t = .failed) (found : s.tasks.get? t = some m)
    (found' : s'.tasks.get? t = some m') (dropped : m.handleDropped = true)
    (asked : .reportFailure t ∈ s.agenda) : m'.reported = true ∨ .reportFailure t ∈ s'.agenda := by
  have busy : s.agenda ≠ [] := List.ne_nil_of_mem asked
  cases tr with
  | step =>
    have next := State.step_cases sound.wakeful.waitsOnOwn
    generalize s.step = s' at next found'
    cases next with
    | @item a x _ first e =>
      subst first
      obtain ⟨r, during⟩ := sound.tether.reporting t asked
      rcases List.mem_cons.1 asked with mine | behind
      · subst mine
        cases e with
        | spent why =>
          cases found.symm.trans found'
          exact .inl (why failed m found dropped)
        | reportFailure trace only _ _ looked =>
          obtain ⟨m₁, known, rfl⟩ := Store.get?_modify_eq_some.1 found'
          cases found.symm.trans known
          rw [if_pos rfl]
          exact .inl (looked m found)
      · rcases e.agenda with more | ⟨inside, -⟩
        · exact .inr (more behind)
        · cases (not_inBody halted during).symm.trans inside
    | work idle => exact absurd idle busy
    | rest rests => exact absurd (State.idle_of_resting rests) busy
  | stray idle => exact absurd idle busy
  | move rests => exact absurd (State.idle_of_resting rests) busy

/-- **Whoever comes second reports a failure**, and nobody comes before the task has failed. -/
theorem next (ih : Reports s) (h : Reachable s d) (tr : Transition s d s' d') : Reports s' := by
  have sound := h.sound
  have lasts := tr.lasts sound
  have fails : ∀ t, s.phase t = .failed → s'.phase t = .failed := fun t failed => by
    rw [lasts.phase (by rw [failed]; rfl), failed]
  refine ⟨fun t m' found' reported => ?_, fun t m' found' failed dropped => ?_⟩
  · -- the marks of a task that was known before
    have known : ∀ m, s.tasks.get? t = some m → m'.handleDropped = true ∧ s'.phase t = .failed := by
      intro m found
      cases tr.marks sound found found' with
      | stay dropped same =>
        obtain ⟨gone, failed⟩ := ih.fair t m found (same ▸ reported)
        exact ⟨dropped.trans gone, fails t failed⟩
      | look dropped looked =>
        refine ⟨dropped, fails t ?_⟩
        rw [looked, Bool.or_eq_true] at reported
        exact reported.elim (fun before => (ih.fair t m found before).2) of_decide_eq_true
    cases tr.disposes sound t with
    | absent gone => cases gone.symm.trans found'
    | made _ there fresh =>
      cases there.symm.trans found'
      cases fresh.reported.symm.trans reported
    | goes found => exact known _ found
    | ends found => exact known _ found
  · have known : ∀ m, s.tasks.get? t = some m →
        m'.reported = true ∨ .reportFailure t ∈ s'.agenda := by
      intro m found
      -- the handle was gone when the task failed, or goes after that
      by_cases before : s.phase t = .failed
      · cases tr.marks sound found found' with
        | stay same reported =>
          have gone := same.symm.trans dropped
          rcases ih.due t m found before gone with told | asked
          · exact .inl (reported.trans told)
          · exact later sound h.halted tr before found found' gone asked
        | look _ looked => exact .inl (by simp [looked, before])
      · cases ended : (s.phase t).isTerminal with
        | true => exact absurd ((lasts.phase ended).symm.trans failed) before
        | false =>
          obtain ⟨-, -, -, -, asked⟩ := tr.completes h ended (by rw [failed]; rfl)
          exact .inr asked
    cases tr.disposes sound t with
    | absent gone => cases gone.symm.trans found'
    | made _ there fresh =>
      cases there.symm.trans found'
      cases fresh.handle.symm.trans dropped
    | goes found => exact known _ found
    | ends found => exact known _ found

end Reports

/-- **In every reachable state** a failure whose handle is gone was reported, or is just about to
be. -/
theorem Reachable.reports (h : Reachable s d) : Reports s := by
  induction h with
  | init => exact .init
  | next h tr ih => exact ih.next h tr

end Nursery
