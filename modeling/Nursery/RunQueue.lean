import Nursery.Priority

/-!
# The run queue

Work that is ready waits in three bands, one for each priority.  Within a band the oldest entry
comes first, and the highest band that is not empty is served first.

* `RunQueue` : the three bands.
* `RunQueue.toList` : the entries in the order in which they would be taken.
* `pop?_eq` : taking an entry removes the first one of that list.
* `toList_push` : a new entry goes behind all entries of its band and of the bands above.
-/

namespace Nursery

/-- Ready work in three bands, the oldest entry of each first. -/
structure RunQueue (α : Type) where
  /-- What is served before all else. -/
  high : List α := []
  /-- What is served when nothing is in the high band. -/
  normal : List α := []
  /-- What is served last. -/
  low : List α := []

namespace RunQueue

variable {α : Type}

instance : Inhabited (RunQueue α) := ⟨{}⟩

/-- The entries of one band, the oldest first. -/
def band (q : RunQueue α) : Priority → List α
  | .high => q.high
  | .normal => q.normal
  | .low => q.low

/-- The queue with an entry at the back of a band. -/
def push (q : RunQueue α) (p : Priority) (a : α) : RunQueue α :=
  match p with
  | .high => { q with high := q.high ++ [a] }
  | .normal => { q with normal := q.normal ++ [a] }
  | .low => { q with low := q.low ++ [a] }

/-- The entry to be served next, and the queue without it. -/
def pop? (q : RunQueue α) : Option (α × RunQueue α) :=
  match q.high, q.normal, q.low with
  | a :: rest, _, _ => some (a, { q with high := rest })
  | [], a :: rest, _ => some (a, { q with normal := rest })
  | [], [], a :: rest => some (a, { q with low := rest })
  | [], [], [] => none

/-- The entries in the order in which they would be served. -/
def toList (q : RunQueue α) : List α :=
  q.high ++ q.normal ++ q.low

/-- Some entry passes a test. -/
def any (q : RunQueue α) (p : α → Bool) : Bool :=
  q.toList.any p

/-- Serving an entry removes the first one of the list view, whichever band it is in. -/
theorem pop?_eq (q : RunQueue α) :
    q.pop?.map (fun r => (r.1, r.2.toList)) =
      (match q.toList with
        | [] => none
        | a :: rest => some (a, rest)) := by
  obtain ⟨h, n, l⟩ := q
  rcases h with _ | ⟨a, h⟩ <;> rcases n with _ | ⟨b, n⟩ <;> rcases l with _ | ⟨c, l⟩ <;>
    simp [pop?, toList]

/-- A new entry goes behind the entries of its own band and of the bands above. -/
theorem toList_push (q : RunQueue α) (p : Priority) (a : α) :
    (q.push p a).toList =
      match p with
      | .high => q.high ++ [a] ++ q.normal ++ q.low
      | .normal => q.high ++ q.normal ++ [a] ++ q.low
      | .low => q.high ++ q.normal ++ q.low ++ [a] := by
  cases p <;> simp [push, toList]

end RunQueue

end Nursery
