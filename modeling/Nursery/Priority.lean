/-!
# Priorities

Work is queued in one of three bands.  The bands are ordered, and a worker always takes from the
highest band that is not empty.

* `Priority` : the three bands, from the lowest to the highest.
* `Priority.cmp` : how one band compares with another.
-/

namespace Nursery

/-- The band in which work waits for its turn. -/
inductive Priority where
  /-- Background work. -/
  | low
  /-- The band of all work that asks for no other. -/
  | normal
  /-- Work that somebody is waiting for. -/
  | high
deriving DecidableEq, Repr

namespace Priority

instance : Inhabited Priority := ⟨normal⟩

/-- The place of a band in the order, counted from the lowest. -/
def rank : Priority → Nat
  | low => 0
  | normal => 1
  | high => 2

/-- How one band compares with another. -/
def cmp (p q : Priority) : Ordering :=
  compare p.rank q.rank

/-- The name of a band in descriptions and logs. -/
def name : Priority → String
  | low => "Low"
  | normal => "Normal"
  | high => "High"

theorem rank_inj {p q : Priority} : p.rank = q.rank ↔ p = q := by
  cases p <;> cases q <;> simp [rank]

end Priority

/-- The name of the outcome of a comparison. -/
def orderingName : Ordering → String
  | .lt => "Less"
  | .eq => "Equal"
  | .gt => "Greater"

end Nursery
