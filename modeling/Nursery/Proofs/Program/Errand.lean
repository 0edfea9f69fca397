import Nursery.Pool
import Nursery.Proofs.Program.Outcome
import Nursery.Unchecked

/-!
# Errands

Programs that send tasks for a value and wait for them in turn, with what comes of them on a
runtime with any settings.

* `Pool.evaluate_awaitAll` : tasks that were spawned under names of their own give their values.
* `Pool.collatz_total` : the root of the Collatz walks comes to the steps of all of them.
* `Unchecked.handOver_sum` : a number that is handed over to a task comes back as the sum.
-/

namespace Nursery

variable {place : Nat} {batch : Option Nat} {stem : Option String} {home : RuntimeId}
  {scope : Scope} {sum : Int64} {rest : List Line}

namespace Pool

theorem taskName_inj {m n : Nat} (same : taskName m = taskName n) : m = n := by
  have lists := congrArg String.toList same
  simpa [taskName] using congrArg List.length lists

theorem isolated_spawnAll (values : List Int64) : ∀ place,
    linesIsolated (spawnAll place values) = true := by
  induction values with
  | nil => exact fun _ => rfl
  | cons value values ih =>
    simp [spawnAll, giving, quietly, linesIsolated, Line.isolated, Act.isolated, ih]

theorem isolated_awaitAll (left : Nat) : ∀ place, linesIsolated (awaitAll place left) = true := by
  induction left with
  | zero => exact fun _ => rfl
  | succ left ih => simp [awaitAll, linesIsolated, Line.isolated, Act.isolated, ih]

theorem evaluate_giving (value : Int64) :
    evaluateInline (giving value) [] 0 = .returned (.ok value) := by
  simp [giving, quietly, evaluateInline]

theorem evaluate_spawnAll (values : List Int64) : ∀ place (scope : Scope), ∃ scope',
    evaluateInline (spawnAll place values ++ rest) scope sum = evaluateInline rest scope' sum ∧
      (∀ i value, values[i]? = some value →
        Store.lookup (taskName (place + i)) scope' = some (some (giving value))) ∧
      ∀ n < place, Store.lookup (taskName n) scope' = Store.lookup (taskName n) scope := by
  induction values with
  | nil => exact fun place scope => ⟨scope, rfl, by simp, fun _ _ => rfl⟩
  | cons value values ih =>
    intro place scope
    obtain ⟨scope', same, known, others⟩ :=
      ih (place + 1) (Store.put (taskName place) (some (giving value)) scope)
    refine ⟨scope', ?_, fun i v there => ?_, fun n before => ?_⟩
    · rw [spawnAll, List.cons_append, quietly, evaluateInline]
      exact same
    · cases i with
      | zero =>
        cases there
        rw [Nat.add_zero, others place (Nat.lt_succ_self place), Store.lookup_put, if_pos rfl]
      | succ i =>
        rw [← Nat.succ_add_eq_add_succ]
        exact known i v there
    · rw [others n (Nat.lt_succ_of_lt before), Store.lookup_put,
        if_neg fun same => absurd (taskName_inj same) (Nat.ne_of_gt before)]

/-- **Tasks that are waited for one after the other** give their values, and the sum goes up by
them. -/
theorem evaluate_awaitAll (values : List Int64) : ∀ place (scope : Scope) sum,
    (∀ i value, values[i]? = some value →
      Store.lookup (taskName (place + i)) scope = some (some (giving value))) →
    ∃ scope', evaluateInline (awaitAll place values.length ++ rest) scope sum =
      evaluateInline rest scope' (values.foldl (· + ·) sum) := by
  induction values with
  | nil => exact fun place scope sum _ => ⟨scope, rfl⟩
  | cons value values ih =>
    intro place scope sum known
    have first : Store.lookup (taskName place) scope = some (some (giving value)) :=
      known 0 value rfl
    obtain ⟨scope', same⟩ := ih (place + 1) (scope.after (taskName place) false) (sum + value)
      fun i v there => by
        have later := known (i + 1) v there
        rw [Scope.after, if_neg Bool.false_ne_true, Store.lookup_remove,
          if_neg fun same => by have := taskName_inj same; omega, Nat.succ_add_eq_add_succ]
        exact later
    refine ⟨scope', ?_⟩
    have target : ({ word := "task", target? := some (taskName place) } : Tag).target =
        taskName place := rfl
    rw [List.length_cons, awaitAll, List.cons_append, evaluateInline, target]
    split
    · rename_i none
      cases none.symm.trans first
    · rename_i none
      cases none.symm.trans first
    · rename_i body found
      cases found.symm.trans first
      rw [evaluate_giving]
      exact same

/-- **The root of the Collatz walks** comes to the steps of all of them, whatever the settings of
the runtime are. -/
theorem collatz_total (xs : List UInt64)
    (placed : (({} : State).build place batch stem).1.places.get? place = some home) :
    ∃ enough, ∀ limit ≥ enough,
      (State.blockOn limit (({} : State).build place batch stem).1 place
          (Job.collatz xs).body).2 =
        .value ((xs.map fun x => .ofNat (collatzSteps x)).foldl (· + ·) 0) := by
  have isolated : linesIsolated (Job.collatz xs).body = true := by
    simp [Job.body, linesIsolated_append, isolated_spawnAll, isolated_awaitAll, quietly,
      linesIsolated, Line.isolated, Act.isolated]
  obtain ⟨enough, s, blocks, -⟩ := (Idle.of_build placed).evaluates placed isolated
  refine ⟨enough, fun limit more => ?_⟩
  rw [blocks limit more, Job.body]
  dsimp only
  obtain ⟨scope, spawned, known, -⟩ := evaluate_spawnAll _ 0 []
  obtain ⟨scope', awaited⟩ := evaluate_awaitAll _ 0 scope 0 known
  rw [spawned, awaited, quietly, evaluateInline]
  rfl

end Pool

namespace Unchecked

/-- **A number that is handed over comes back as the sum**, if the machine goes on for long
enough. -/
theorem handOver_sum (u : Unchecked Int64) (n : Int64) :
    ∃ enough, ∀ limit ≥ enough, (u.handOverWithin limit n).value = u.value + 1 + n := by
  have placed : (({} : State).build 0 none none).1.places.get? 0 = some ⟨0⟩ := by decide
  have isolated : linesIsolated ((u.modify (· + 1)).carrier n) = true := by
    simp [carrier, linesIsolated, Line.isolated, Act.isolated]
  obtain ⟨enough, s, blocks, -⟩ := (Idle.of_build placed).evaluates placed isolated
  have comes : (evaluateInline ((u.modify (· + 1)).carrier n) [] 0).report =
      .value (u.value + 1 + n) := by
    simp [carrier, modify, evaluateInline, Store.lookup, Store.put, Tag.target, Tag.binding,
      Attempt.resume, Ending.outcome, Ending.report]
  refine ⟨enough, fun limit more => ?_⟩
  rw [handOverWithin, blocks limit more, comes]

end Unchecked

end Nursery
