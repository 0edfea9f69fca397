/-!
# Finite maps

What the machine knows about its tasks, groups, actors and calls is kept in finite maps from names
to records.  A map lists its entries in the order in which their names were first used, so a walk
over all entries has a fixed order; a name occurs at most once.

* `Store` : a finite map.
* `get?_set`, `get?_erase`, `get?_modify` : what a look-up finds after each operation.
-/

namespace Nursery

/-- A finite map, as the list of its entries. -/
structure Store (κ α : Type) where
  /-- The entries, in the order in which their names were first used. -/
  entries : List (κ × α) := []

namespace Store

variable {κ α : Type} [DecidableEq κ]

/-- The value of the first entry with a given name. -/
def lookup (k : κ) : List (κ × α) → Option α
  | [] => none
  | (j, a) :: rest => if j = k then some a else lookup k rest

/-- The entries with the value of a name replaced, or with a new entry at the end. -/
def put (k : κ) (a : α) : List (κ × α) → List (κ × α)
  | [] => [(k, a)]
  | (j, b) :: rest => if j = k then (k, a) :: rest else (j, b) :: put k a rest

/-- The entries without those of a name. -/
def remove (k : κ) : List (κ × α) → List (κ × α)
  | [] => []
  | (j, b) :: rest => if j = k then remove k rest else (j, b) :: remove k rest

/-- The entries with the values of a name changed. -/
def change (k : κ) (f : α → α) : List (κ × α) → List (κ × α)
  | [] => []
  | (j, b) :: rest => if j = k then (j, f b) :: change k f rest else (j, b) :: change k f rest

/-- The value of a name. -/
def get? (s : Store κ α) (k : κ) : Option α :=
  lookup k s.entries

/-- The name has a value. -/
def contains (s : Store κ α) (k : κ) : Bool :=
  (s.get? k).isSome

/-- The map with a name set to a value. -/
def set (s : Store κ α) (k : κ) (a : α) : Store κ α :=
  ⟨put k a s.entries⟩

/-- The map without a name. -/
def erase (s : Store κ α) (k : κ) : Store κ α :=
  ⟨remove k s.entries⟩

/-- The map with the value of a name changed, if it has one. -/
def modify (s : Store κ α) (k : κ) (f : α → α) : Store κ α :=
  ⟨change k f s.entries⟩

/-- The number of names that have a value. -/
def size (s : Store κ α) : Nat :=
  s.entries.length

/-- Some entry passes a test. -/
def any (s : Store κ α) (p : κ → α → Bool) : Bool :=
  s.entries.any fun e => p e.1 e.2

instance : Inhabited (Store κ α) := ⟨{}⟩

theorem lookup_put (k j : κ) (a : α) (es : List (κ × α)) :
    lookup j (put k a es) = if k = j then some a else lookup j es := by
  induction es with
  | nil => simp [put, lookup]
  | cons e rest ih =>
    obtain ⟨i, b⟩ := e
    by_cases h : i = k
    · subst h
      by_cases hj : i = j <;> simp [put, lookup, hj]
    · by_cases hj : i = j
      · subst hj
        simp [put, lookup, h, Ne.symm h]
      · simp [put, lookup, h, hj, ih]

theorem lookup_remove (k j : κ) (es : List (κ × α)) :
    lookup j (remove k es) = if k = j then none else lookup j es := by
  induction es with
  | nil => simp [remove, lookup]
  | cons e rest ih =>
    obtain ⟨i, b⟩ := e
    by_cases h : i = k
    · subst h
      by_cases hj : i = j <;> simp_all [remove, lookup]
    · by_cases hj : i = j
      · subst hj
        simp [remove, lookup, h, Ne.symm h]
      · simp [remove, lookup, h, hj, ih]

theorem lookup_change (k j : κ) (f : α → α) (es : List (κ × α)) :
    lookup j (change k f es) = if k = j then (lookup j es).map f else lookup j es := by
  induction es with
  | nil => simp [change, lookup]
  | cons e rest ih =>
    obtain ⟨i, b⟩ := e
    by_cases h : i = k
    · subst h
      by_cases hj : i = j <;> simp [change, lookup, hj, ih]
    · by_cases hj : i = j
      · subst hj
        simp [change, lookup, h, Ne.symm h]
      · simp [change, lookup, h, hj, ih]

theorem get?_set (s : Store κ α) (k j : κ) (a : α) :
    (s.set k a).get? j = if k = j then some a else s.get? j :=
  lookup_put k j a s.entries

theorem get?_erase (s : Store κ α) (k j : κ) :
    (s.erase k).get? j = if k = j then none else s.get? j :=
  lookup_remove k j s.entries

theorem get?_modify (s : Store κ α) (k j : κ) (f : α → α) :
    (s.modify k f).get? j = if k = j then (s.get? j).map f else s.get? j :=
  lookup_change k j f s.entries

end Store

end Nursery
