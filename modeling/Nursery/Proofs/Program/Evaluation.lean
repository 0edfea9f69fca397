import Nursery.Proofs.Step.Ending
import Nursery.Proofs.Store

/-!
# Programs and what they come to

A program is a body that computes, gives way, spawns tasks with programs of their own, and waits
for them.  It asks nobody else, so what it comes to can be said without the machine: one body is
evaluated from its first line to its last, and a child is evaluated in place where its parent
waits for it.  When the children are spawned, in which band they run and how often anybody gives
way does not come into it.

* `linesIsolated` : the lines of a program.
* `Scope` : the children that a body has spawned, by name.
* `evaluateInline` : what a program comes to.
-/

namespace Nursery

mutual

/-- A line asks nobody but the tasks that its own body has spawned. -/
def Line.isolated : Line → Bool
  | .mk _ act => act.isolated

/-- An act asks nobody but the tasks that its own body has spawned. -/
def Act.isolated : Act → Bool
  | .note _ | .ret .. | .fail .. | .panic _ | .yieldTimes _ | .await .. => true
  | .loop _ body => linesIsolated body
  | .spawn _ _ body => linesIsolated body
  | _ => false

/-- Lines ask nobody but the tasks that their own body has spawned. -/
def linesIsolated : List Line → Bool
  | [] => true
  | line :: rest => line.isolated && linesIsolated rest

end

theorem linesIsolated_append (code rest : List Line) :
    linesIsolated (code ++ rest) = (linesIsolated code && linesIsolated rest) := by
  induction code with
  | nil => rfl
  | cons line code ih => rw [List.cons_append, linesIsolated, linesIsolated, ih, Bool.and_assoc]

theorem linesWeight_append (code rest : List Line) :
    linesWeight (code ++ rest) = linesWeight code + linesWeight rest := by
  induction code with
  | nil => simp [linesWeight]
  | cons line code ih => rw [List.cons_append, linesWeight, linesWeight, ih, Nat.add_assoc]

theorem Act.weight_pos (act : Act) : 0 < act.weight := by
  cases act <;> simp only [Act.weight] <;> omega

/-! ### Children by name -/

/-- What a body has spawned under each name: the body of the child, or nothing if it has waited
for the child and kept its handle. -/
abbrev Scope := List (String × Option (List Line))

/-- How much the children still to be waited for can give to do. -/
def Scope.weight : Scope → Nat
  | [] => 0
  | (_, child) :: rest => (child.map linesWeight).getD 0 + weight rest

theorem Scope.weight_put (scope : Scope) (name : String) (child : Option (List Line)) :
    Scope.weight (Store.put name child scope) ≤
      scope.weight + (child.map linesWeight).getD 0 := by
  induction scope with
  | nil => simp [Store.put, weight]
  | cons e rest ih =>
    obtain ⟨j, old⟩ := e
    unfold Store.put
    split
    · simp only [weight]
      omega
    · simp only [weight]
      omega

/-- A child whose handle is kept is not waited for any more. -/
theorem Scope.weight_keep {scope : Scope} {name : String} {body : List Line}
    (found : Store.lookup name scope = some (some body)) :
    Scope.weight (Store.put name none scope) + linesWeight body = scope.weight := by
  induction scope with
  | nil => cases found
  | cons e rest ih =>
    obtain ⟨j, old⟩ := e
    unfold Store.lookup at found
    unfold Store.put
    split at found
    · rename_i same
      cases found
      rw [if_pos same]
      simp only [weight, Option.map_none, Option.getD_none, Option.map_some, Option.getD_some]
      omega
    · rename_i other
      rw [if_neg other]
      have := ih found
      simp only [weight]
      omega

/-- Neither is one that goes. -/
theorem Scope.weight_remove (scope : Scope) (name : String) :
    Scope.weight (Store.remove name scope) +
      (((Store.lookup name scope).getD none).map linesWeight).getD 0 ≤ scope.weight := by
  induction scope with
  | nil => simp [Store.remove, Store.lookup, weight]
  | cons e rest ih =>
    obtain ⟨j, old⟩ := e
    unfold Store.remove Store.lookup
    by_cases same : j = name
    · have := Nat.le_of_add_right_le ih
      rw [if_pos same, if_pos same]
      show _ + (old.map linesWeight).getD 0 ≤ (old.map linesWeight).getD 0 + weight rest
      omega
    · rw [if_neg same, if_neg same]
      show (old.map linesWeight).getD 0 + weight (Store.remove name rest) + _ ≤
        (old.map linesWeight).getD 0 + weight rest
      omega

/-- The children after one of them was waited for. -/
def Scope.after (scope : Scope) (name : String) (keep : Bool) : Scope :=
  if keep then Store.put name none scope else Store.remove name scope

theorem Scope.weight_after {scope : Scope} {name : String} {body : List Line}
    (found : Store.lookup name scope = some (some body)) (keep : Bool) :
    (scope.after name keep).weight + linesWeight body ≤ scope.weight := by
  unfold after
  split
  · exact Nat.le_of_eq (weight_keep found)
  · have := weight_remove scope name
    rwa [found] at this

/-! ### Evaluation -/

/-- What an outcome leads to that was waited for: a value is added to the sum, and an error is
reported, or ends the body. -/
def Attempt.resume (attempt : Attempt) (sum : Int64) (next : Int64 → Ending) :
    Except TaskError Int64 → Ending
  | .ok value => next (sum + value)
  | .error e =>
    match attempt with
    | .report => next sum
    | .wrap => .returned (.error (.failed e.toFault))
    | .raise => .returned (.error e)

/-- What the lines of a program come to, with the children it has spawned and the sum of what it
has waited for.  A child is evaluated where it is waited for. -/
def evaluateInline (code : List Line) (scope : Scope) (sum : Int64) : Ending :=
  match code with
  | [] => .returned (.ok 0)
  | .mk tag act :: rest =>
    match act with
    | .ret value _ => .returned (.ok (value.getD sum))
    | .fail message cause => .returned (.error (.failed ⟨message, cause.toList⟩))
    | .panic payload => .panicked payload.message
    | .loop 0 _ => evaluateInline rest scope sum
    | .loop (left + 1) body =>
      evaluateInline (body ++ .mk tag (.loop left body) :: rest) scope sum
    | .spawn _ _ body => evaluateInline rest (Store.put tag.binding (some body) scope) sum
    | .await keep attempt =>
      match _h : Store.lookup tag.target scope with
      | none => evaluateInline rest scope sum
      | some none => .panicked "task handle polled after completion"
      | some (some body) =>
        attempt.resume sum (fun sum => evaluateInline rest (scope.after tag.target keep) sum)
          (evaluateInline body [] 0).outcome
    | _ => evaluateInline rest scope sum
termination_by linesWeight code + scope.weight
decreasing_by
  all_goals simp only [linesWeight, Line.weight, Act.weight, Scope.weight, linesWeight_append]
  any_goals omega
  · have := Nat.succ_mul left (1 + linesWeight body)
    omega
  · have := scope.weight_put tag.binding (some body)
    simp only [Option.map_some, Option.getD_some] at this
    omega
  · have := Scope.weight_after _h keep
    omega
  · have := Scope.weight_after _h keep
    omega
  · have := Act.weight_pos ‹Act›
    omega

end Nursery
