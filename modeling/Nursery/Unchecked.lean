import Nursery.Machine.Session

/-!
# Values that were declared safe to hand over

A value that the checker would not let pass between threads can be wrapped by an author who
answers for it.  The wrapper gives access to the value and says nothing about it.

* `Unchecked` : the wrapper, `Unchecked.modify` changes the value inside.
* `Unchecked.handOver` : a value goes to a task, which adds to it, and comes back.
-/

namespace Nursery

/-- A value whose author answers for handing it over. -/
structure Unchecked (α : Type) where
  /-- The value inside. -/
  value : α

namespace Unchecked

variable {α : Type}

/-- The wrapper around the changed value. -/
def modify (f : α → α) (u : Unchecked α) : Unchecked α :=
  ⟨f u.value⟩

/-- The written form of a wrapper, which does not show the value. -/
def describe (_ : Unchecked α) : String :=
  "UncheckedSendable \x7b .. \x7d"

/-- A root task that hands a wrapped number to another task, which adds `n` to it, and gives back
what comes of that. -/
def carrier (u : Unchecked Int64) (n : Int64) : List Line :=
  [.mk { word := "spawn", binding? := some "task" }
      (.spawn none false [.mk { word := "ret" } (.ret (some (u.modify (· + n)).value) none)]),
    .mk { word := "await", target? := some "task" } (.await false .raise),
    .mk { word := "ret" } (.ret none none)]

/-- The wrapped number is raised by one, goes to a task that adds `n`, and comes back, if a number
of steps is enough for that; sums wrap around. -/
def handOverWithin (limit : Nat) (u : Unchecked Int64) (n : Int64) : Unchecked Int64 :=
  let raised := u.modify (· + 1)
  match (State.blockOn limit (({} : State).build 0 none none).1 0 (raised.carrier n)).2 with
  | .value value => ⟨value⟩
  | _ => raised

/-- That takes fewer than a thousand steps. -/
def handOver (u : Unchecked Int64) (n : Int64) : Unchecked Int64 :=
  u.handOverWithin 1000 n

end Unchecked

end Nursery
