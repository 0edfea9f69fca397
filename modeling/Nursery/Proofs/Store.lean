import Nursery.Store
import Mathlib.Algebra.GroupWithZero.Nat
import Mathlib.Data.List.Nodup
import Mathlib.Tactic.Common

/-!
# Finite maps, summed up

The invariants of the machine count what its records hold.  For that a map must list every name
once (`Store.Distinct`), and a sum over the entries (`Store.tally`) must follow the operations.

* `Store.Distinct` : every name is listed once; kept by every operation.
* `Store.any_iff` : a test over the entries is a statement about look-ups.
* `Store.findSome?_eq_bind` : so is a search that one name only can end.
* `Store.tally_modify`, `Store.tally_modify_add_le`, `Store.tally_erase`,
  `Store.tally_set_fresh` : how a sum changes.
* `Store.Numbered` : the names are numbers below the size, so the size is a fresh name.
* `Store.map` : every value is changed; the operations follow.
-/

namespace Nursery

namespace Store

variable {κ α : Type} [DecidableEq κ]

/-! ### Look-ups -/

theorem get?_modify_eq_some {s : Store κ α} {k j : κ} {f : α → α} {b : α} :
    (s.modify k f).get? j = some b ↔
      ∃ a, s.get? j = some a ∧ b = if k = j then f a else a := by
  rw [get?_modify]
  by_cases h : k = j
  · simp [h, @eq_comm _ b]
  · simp [h]

theorem get?_modify_self {s : Store κ α} {k : κ} {f : α → α} :
    (s.modify k f).get? k = (s.get? k).map f := by
  simp [get?_modify]

theorem get?_modify_of_ne {s : Store κ α} {k j : κ} {f : α → α} (h : k ≠ j) :
    (s.modify k f).get? j = s.get? j := by
  simp [get?_modify, h]

theorem get?_modify_of_get? {s : Store κ α} {k j : κ} {f : α → α} {a : α} (h : s.get? j = some a) :
    (s.modify k f).get? j = some (if k = j then f a else a) := by
  rw [get?_modify, h]
  split <;> rfl

theorem get?_modify_eq_none {s : Store κ α} {k j : κ} {f : α → α} :
    (s.modify k f).get? j = none ↔ s.get? j = none := by
  rw [get?_modify]
  by_cases h : k = j <;> simp [h]

theorem map_get?_modify_same {β : Type} {s : Store κ α} {k j : κ} {f : α → α} {g : α → β}
    (same : ∀ a, g (f a) = g a) : ((s.modify k f).get? j).map g = (s.get? j).map g := by
  rw [get?_modify]
  by_cases h : k = j
  · cases s.get? j <;> simp [h, same]
  · simp [h]

theorem get?_set_self {s : Store κ α} {k : κ} {a : α} : (s.set k a).get? k = some a := by
  simp [get?_set]

theorem get?_set_of_ne {s : Store κ α} {k j : κ} {a : α} (h : k ≠ j) :
    (s.set k a).get? j = s.get? j := by
  simp [get?_set, h]

theorem get?_set_ne_none {s : Store κ α} {k j : κ} {a : α} (h : s.get? j ≠ none) :
    (s.set k a).get? j ≠ none := by
  rw [get?_set]
  split
  · exact Option.some_ne_none a
  · exact h

theorem modify_of_none {s : Store κ α} {k : κ} {f : α → α} (h : s.get? k = none) :
    s.modify k f = s := by
  have key : ∀ es : List (κ × α), lookup k es = none → change k f es = es := by
    intro es
    induction es with
    | nil => intro _; rfl
    | cons e rest ih =>
      obtain ⟨j, b⟩ := e
      intro he
      by_cases hj : j = k
      · simp [lookup, hj] at he
      · simp only [lookup, hj, if_false] at he
        simp [change, hj, ih he]
  exact congrArg Store.mk (key s.entries h)

theorem modify_self {s : Store κ α} {k : κ} : s.modify k (fun a => a) = s := by
  have key : ∀ es : List (κ × α), change k (fun a => a) es = es := by
    intro es
    induction es with
    | nil => rfl
    | cons e rest ih =>
      obtain ⟨j, b⟩ := e
      by_cases hj : j = k <;> simp [change, hj, ih]
  exact congrArg Store.mk (key s.entries)

theorem modify_modify {s : Store κ α} {k : κ} {f g : α → α} :
    (s.modify k f).modify k g = s.modify k fun a => g (f a) := by
  have key : ∀ es : List (κ × α), change k g (change k f es) = change k (fun a => g (f a)) es := by
    intro es
    induction es with
    | nil => rfl
    | cons e rest ih =>
      obtain ⟨j, b⟩ := e
      by_cases hj : j = k <;> simp [change, hj, ih]
  exact congrArg Store.mk (key s.entries)

theorem erase_modify {s : Store κ α} {k : κ} {f : α → α} : (s.modify k f).erase k = s.erase k := by
  obtain ⟨es⟩ := s
  simp only [modify, erase, mk.injEq]
  induction es with
  | nil => rfl
  | cons e rest ih =>
    obtain ⟨j, b⟩ := e
    by_cases same : j = k
    · simp [change, remove, same, ih]
    · simp [change, remove, same, ih]

theorem contains_iff {s : Store κ α} {k : κ} : s.contains k = true ↔ ∃ a, s.get? k = some a := by
  simp [contains, Option.isSome_iff_exists]

theorem lookup_mem {k : κ} {a : α} {es : List (κ × α)} (h : lookup k es = some a) :
    (k, a) ∈ es := by
  induction es with
  | nil => simp [lookup] at h
  | cons e rest ih =>
    obtain ⟨j, b⟩ := e
    by_cases hj : j = k
    · subst hj
      simp only [lookup, if_true, Option.some.injEq] at h
      simp [h]
    · simp only [lookup, hj, if_false] at h
      exact List.mem_cons_of_mem _ (ih h)

theorem lookup_eq_none {k : κ} {es : List (κ × α)} :
    lookup k es = none ↔ k ∉ es.map Prod.fst := by
  induction es with
  | nil => simp [lookup]
  | cons e rest ih =>
    obtain ⟨j, b⟩ := e
    by_cases hj : j = k
    · simp [lookup, hj]
    · simp [lookup, hj, ih, Ne.symm hj]

theorem lookup_of_mem {k : κ} {a : α} {es : List (κ × α)} (hn : (es.map Prod.fst).Nodup)
    (h : (k, a) ∈ es) : lookup k es = some a := by
  induction es with
  | nil => simp at h
  | cons e rest ih =>
    obtain ⟨j, b⟩ := e
    simp only [List.map_cons, List.nodup_cons] at hn
    rcases List.mem_cons.1 h with h | h
    · cases h
      simp [lookup]
    · have hj : j ≠ k := by
        rintro rfl
        exact hn.1 (List.mem_map.2 ⟨_, h, rfl⟩)
      simp only [lookup, hj, if_false]
      exact ih hn.2 h

/-! ### Every name is listed once -/

theorem put_of_fresh {k : κ} {a : α} {es : List (κ × α)} (h : lookup k es = none) :
    put k a es = es ++ [(k, a)] := by
  induction es with
  | nil => rfl
  | cons e rest ih =>
    obtain ⟨j, b⟩ := e
    by_cases hj : j = k
    · simp [lookup, hj] at h
    · simp only [lookup, hj, if_false] at h
      simp [put, hj, ih h]

theorem modify_set_fresh {s : Store κ α} {k : κ} {a : α} {f : α → α} (h : s.get? k = none) :
    (s.set k a).modify k f = s.set k (f a) := by
  have key : ∀ es : List (κ × α), lookup k es = none →
      change k f (put k a es) = put k (f a) es := by
    intro es
    induction es with
    | nil => intro _; simp [put, change]
    | cons e rest ih =>
      obtain ⟨j, b⟩ := e
      intro he
      by_cases hj : j = k
      · simp [lookup, hj] at he
      · simp only [lookup, hj, if_false] at he
        simp [put, change, hj, ih he]
  exact congrArg Store.mk (key s.entries h)

theorem map_fst_put {k : κ} {a : α} {es : List (κ × α)} :
    (put k a es).map Prod.fst =
      if lookup k es = none then es.map Prod.fst ++ [k] else es.map Prod.fst := by
  induction es with
  | nil => simp [put, lookup]
  | cons e rest ih =>
    obtain ⟨j, b⟩ := e
    by_cases hj : j = k
    · simp [put, lookup, hj]
    · simp only [put, lookup, hj, if_false, List.map_cons, ih]
      split <;> simp

theorem map_fst_change {k : κ} {f : α → α} {es : List (κ × α)} :
    (change k f es).map Prod.fst = es.map Prod.fst := by
  induction es with
  | nil => rfl
  | cons e rest ih =>
    obtain ⟨j, b⟩ := e
    by_cases hj : j = k <;> simp [change, hj, ih]

theorem remove_sublist (k : κ) (es : List (κ × α)) : (remove k es).Sublist es := by
  induction es with
  | nil => exact List.Sublist.refl _
  | cons e rest ih =>
    obtain ⟨j, b⟩ := e
    by_cases hj : j = k
    · simpa [remove, hj] using ih.cons (j, b)
    · simpa [remove, hj] using ih.cons_cons (j, b)

/-- Every name is listed once. -/
def Distinct (s : Store κ α) : Prop :=
  (s.entries.map Prod.fst).Nodup

omit [DecidableEq κ] in
theorem distinct_empty : (({} : Store κ α)).Distinct :=
  List.nodup_nil

theorem Distinct.set {s : Store κ α} (h : s.Distinct) (k : κ) (a : α) : (s.set k a).Distinct := by
  change ((put k a s.entries).map Prod.fst).Nodup
  rw [map_fst_put]
  split
  · rename_i hk
    exact List.Nodup.append h (List.nodup_singleton k) (by simpa using lookup_eq_none.1 hk)
  · exact h

theorem Distinct.modify {s : Store κ α} (h : s.Distinct) (k : κ) (f : α → α) :
    (s.modify k f).Distinct := by
  change ((change k f s.entries).map Prod.fst).Nodup
  rwa [map_fst_change]

theorem Distinct.erase {s : Store κ α} (h : s.Distinct) (k : κ) : (s.erase k).Distinct :=
  h.sublist ((remove_sublist k s.entries).map Prod.fst)

theorem any_of_get? {s : Store κ α} {p : κ → α → Bool} {k : κ} {a : α} (h : s.get? k = some a)
    (hp : p k a = true) : s.any p = true :=
  List.any_eq_true.2 ⟨(k, a), lookup_mem h, hp⟩

theorem of_any_eq_false {s : Store κ α} {p : κ → α → Bool} (h : s.any p = false) {k : κ} {a : α}
    (hk : s.get? k = some a) : p k a = false := by
  by_contra hp
  rw [Bool.not_eq_false] at hp
  rw [any_of_get? hk hp] at h
  cases h

theorem any_iff {s : Store κ α} (hs : s.Distinct) {p : κ → α → Bool} :
    s.any p = true ↔ ∃ k a, s.get? k = some a ∧ p k a = true := by
  refine ⟨fun h => ?_, fun ⟨k, a, h, hp⟩ => any_of_get? h hp⟩
  obtain ⟨⟨k, a⟩, hmem, hp⟩ := List.any_eq_true.1 h
  exact ⟨k, a, lookup_of_mem hs hmem, hp⟩

/-- The first thing that is found in an entry. -/
def findSome? {β : Type} (s : Store κ α) (p : α → Option β) : Option β :=
  s.entries.findSome? fun e => p e.2

/-- Where something is found under one name only, that is what is found. -/
theorem findSome?_eq_bind {β : Type} {s : Store κ α} {p : α → Option β} (hs : s.Distinct) (k : κ)
    (only : ∀ j a, s.get? j = some a → j ≠ k → p a = none) :
    s.findSome? p = (s.get? k).bind p := by
  cases found : s.findSome? p with
  | some b =>
    obtain ⟨⟨j, a⟩, mem, here⟩ := List.exists_of_findSome?_eq_some found
    have known := lookup_of_mem hs mem
    by_cases same : j = k
    · rw [← same, get?, known, Option.bind_some, here]
    · cases (only j a known same).symm.trans here
  | none =>
    cases known : s.get? k with
    | none => rfl
    | some a => exact (List.findSome?_eq_none_iff.1 found _ (lookup_mem known)).symm

/-! ### Sums over the entries -/

/-- The sum of a weight over the entries. -/
def tally (w : κ → α → Nat) (s : Store κ α) : Nat :=
  (s.entries.map fun e => w e.1 e.2).sum

variable {w : κ → α → Nat}

theorem tally_set_fresh {s : Store κ α} {k : κ} {a : α} (h : s.get? k = none) :
    tally w (s.set k a) = tally w s + w k a := by
  change ((put k a s.entries).map fun e => w e.1 e.2).sum = _
  rw [put_of_fresh h]
  simp [tally]

theorem tally_modify_of_none {s : Store κ α} {k : κ} {f : α → α} (h : s.get? k = none) :
    tally w (s.modify k f) = tally w s := by
  rw [modify_of_none h]

theorem tally_modify {s : Store κ α} (hs : s.Distinct) {k : κ} {f : α → α} {a : α}
    (h : s.get? k = some a) : tally w (s.modify k f) + w k a = tally w s + w k (f a) := by
  have key : ∀ es : List (κ × α), (es.map Prod.fst).Nodup → lookup k es = some a →
      ((change k f es).map fun e => w e.1 e.2).sum + w k a =
        (es.map fun e => w e.1 e.2).sum + w k (f a) := by
    intro es
    induction es with
    | nil => intro _ he; simp [lookup] at he
    | cons e rest ih =>
      obtain ⟨j, b⟩ := e
      intro hn he
      simp only [List.map_cons, List.nodup_cons] at hn
      by_cases hj : j = k
      · subst hj
        simp only [lookup, if_true, Option.some.injEq] at he
        subst he
        have hr : tally w ((⟨rest⟩ : Store κ α).modify j f) = tally w ⟨rest⟩ :=
          tally_modify_of_none (lookup_eq_none.2 hn.1)
        simp only [tally, modify] at hr
        simp only [change, if_true, List.map_cons, List.sum_cons, hr]
        omega
      · simp only [lookup, hj, if_false] at he
        have := ih hn.2 he
        simp only [change, hj, if_false, List.map_cons, List.sum_cons]
        omega
  exact key s.entries hs h

theorem tally_modify_same {s : Store κ α} {k : κ} {f : α → α}
    (h : ∀ a, s.get? k = some a → w k (f a) = w k a) (hs : s.Distinct) :
    tally w (s.modify k f) = tally w s := by
  cases hk : s.get? k with
  | none => exact tally_modify_of_none hk
  | some a =>
    have := tally_modify (w := w) (f := f) hs hk
    have := h a hk
    omega

/-- A change that only takes weight away takes at least as much as it takes from the first entry,
even if the key were listed again. -/
theorem tally_modify_add_le {s : Store κ α} {k : κ} {f : α → α} {a : α}
    (less : ∀ b, w k (f b) ≤ w k b) (h : s.get? k = some a) :
    tally w (s.modify k f) + w k a ≤ tally w s + w k (f a) := by
  have never_more : ∀ es : List (κ × α), ((change k f es).map fun e => w e.1 e.2).sum ≤
      (es.map fun e => w e.1 e.2).sum := by
    intro es
    induction es with
    | nil => exact Nat.le_refl _
    | cons e rest ih =>
      obtain ⟨j, b⟩ := e
      by_cases hj : j = k
      · subst hj
        have := less b
        simp only [change, if_true, List.map_cons, List.sum_cons]
        omega
      · simp only [change, hj, if_false, List.map_cons, List.sum_cons]
        omega
  have key : ∀ es : List (κ × α), lookup k es = some a →
      ((change k f es).map fun e => w e.1 e.2).sum + w k a ≤
        (es.map fun e => w e.1 e.2).sum + w k (f a) := by
    intro es
    induction es with
    | nil => intro he; simp [lookup] at he
    | cons e rest ih =>
      obtain ⟨j, b⟩ := e
      intro he
      by_cases hj : j = k
      · subst hj
        simp only [lookup, if_true, Option.some.injEq] at he
        subst he
        have := never_more rest
        simp only [change, if_true, List.map_cons, List.sum_cons]
        omega
      · simp only [lookup, hj, if_false] at he
        have := ih he
        simp only [change, hj, if_false, List.map_cons, List.sum_cons]
        omega
  exact key s.entries h

theorem tally_modify_le {s : Store κ α} {k : κ} {f : α → α} (less : ∀ b, w k (f b) ≤ w k b) :
    tally w (s.modify k f) ≤ tally w s := by
  cases h : s.get? k with
  | none => exact Nat.le_of_eq (tally_modify_of_none h)
  | some a =>
    have := tally_modify_add_le less h
    have := less a
    omega

theorem tally_erase {s : Store κ α} (hs : s.Distinct) {k : κ} {a : α} (h : s.get? k = some a) :
    tally w (s.erase k) + w k a = tally w s := by
  have gone : ∀ es : List (κ × α), lookup k es = none → remove k es = es := by
    intro es
    induction es with
    | nil => intro _; rfl
    | cons e rest ih =>
      obtain ⟨j, b⟩ := e
      intro he
      by_cases hj : j = k
      · simp [lookup, hj] at he
      · simp only [lookup, hj, if_false] at he
        simp [remove, hj, ih he]
  have key : ∀ es : List (κ × α), (es.map Prod.fst).Nodup → lookup k es = some a →
      ((remove k es).map fun e => w e.1 e.2).sum + w k a = (es.map fun e => w e.1 e.2).sum := by
    intro es
    induction es with
    | nil => intro _ he; simp [lookup] at he
    | cons e rest ih =>
      obtain ⟨j, b⟩ := e
      intro hn he
      simp only [List.map_cons, List.nodup_cons] at hn
      by_cases hj : j = k
      · subst hj
        simp only [lookup, if_true, Option.some.injEq] at he
        subst he
        simp only [remove, if_true, List.map_cons, List.sum_cons,
          gone rest (lookup_eq_none.2 hn.1)]
        omega
      · simp only [lookup, hj, if_false] at he
        have := ih hn.2 he
        simp only [remove, hj, if_false, List.map_cons, List.sum_cons]
        omega
  exact key s.entries hs h

theorem le_tally {s : Store κ α} (hs : s.Distinct) {k : κ} {a : α} (h : s.get? k = some a) :
    w k a ≤ tally w s := by
  have := tally_erase (w := w) hs h
  omega

theorem add_le_tally {s : Store κ α} (hs : s.Distinct) {j k : κ} {a b : α} (hjk : j ≠ k)
    (hj : s.get? j = some a) (hk : s.get? k = some b) : w j a + w k b ≤ tally w s := by
  have h1 := tally_erase (w := w) hs hj
  have h2 : w k b ≤ tally w (s.erase j) :=
    le_tally (hs.erase j) (by rw [get?_erase, if_neg hjk, hk])
  omega

theorem exists_of_tally_pos {s : Store κ α} (hs : s.Distinct) (h : 0 < tally w s) :
    ∃ k a, s.get? k = some a ∧ 0 < w k a := by
  obtain ⟨x, hx, hpos⟩ := List.sum_pos_iff_exists_pos_nat.1 h
  obtain ⟨⟨k, a⟩, hmem, rfl⟩ := List.mem_map.1 hx
  exact ⟨k, a, lookup_of_mem hs hmem, hpos⟩

theorem tally_eq_zero {s : Store κ α} (hs : s.Distinct) (h : ∀ k a, s.get? k = some a → w k a = 0) :
    tally w s = 0 := by
  by_contra pos
  obtain ⟨k, a, found, weighs⟩ := exists_of_tally_pos hs (Nat.pos_of_ne_zero pos)
  have := h k a found
  omega

theorem tally_eq_of_only {s : Store κ α} (hs : s.Distinct) {k : κ}
    (only : ∀ j b, s.get? j = some b → j ≠ k → w j b = 0) :
    tally w s = ((s.get? k).map (w k)).getD 0 := by
  cases found : s.get? k with
  | none =>
    refine tally_eq_zero hs fun j b hj => only j b hj ?_
    rintro rfl
    cases found.symm.trans hj
  | some a =>
    rw [← tally_erase hs found, tally_eq_zero (hs.erase k) fun j b hj => ?_, Nat.zero_add]
    · rfl
    · rw [get?_erase] at hj
      by_cases hk : k = j
      · simp [hk] at hj
      · rw [if_neg hk] at hj
        exact only j b hj (Ne.symm hk)

/-! ### Names that are numbers -/

theorem size_modify {s : Store κ α} {k : κ} {f : α → α} : (s.modify k f).size = s.size := by
  have : ((change k f s.entries).map Prod.fst).length = (s.entries.map Prod.fst).length :=
    congrArg List.length map_fst_change
  simpa [size, modify] using this

theorem size_set_fresh {s : Store κ α} {k : κ} {a : α} (h : s.get? k = none) :
    (s.set k a).size = s.size + 1 := by
  change (put k a s.entries).length = _
  rw [put_of_fresh h]
  simp [size]

/-- The names are numbers below the size of the map. -/
def Numbered (index : κ → Nat) (s : Store κ α) : Prop :=
  ∀ k a, s.get? k = some a → index k < s.size

variable {index : κ → Nat}

theorem numbered_empty : Numbered index ({} : Store κ α) := by
  intro k a h
  simp [get?, lookup] at h

theorem Numbered.fresh {s : Store κ α} (h : s.Numbered index) {k : κ} (hk : index k = s.size) :
    s.get? k = none := by
  cases hg : s.get? k with
  | none => rfl
  | some a => exact absurd (h k a hg) (by omega)

theorem Numbered.modify {s : Store κ α} (h : s.Numbered index) (k : κ) (f : α → α) :
    (s.modify k f).Numbered index := by
  intro j b hj
  obtain ⟨a, ha, -⟩ := get?_modify_eq_some.1 hj
  rw [size_modify]
  exact h j a ha

theorem Numbered.set {s : Store κ α} (h : s.Numbered index) {k : κ} (hk : index k = s.size)
    (a : α) : (s.set k a).Numbered index := by
  intro j b hj
  rw [size_set_fresh (h.fresh hk)]
  by_cases hkj : k = j
  · subst hkj
    omega
  · rw [get?_set_of_ne hkj] at hj
    have := h j b hj
    omega

/-! ### All values changed -/

section Map

variable {s : Store κ α} {f : κ → α → α} {k : κ}

/-- The map with every value changed. -/
def map (f : κ → α → α) (s : Store κ α) : Store κ α :=
  ⟨s.entries.map fun e => (e.1, f e.1 e.2)⟩

omit [DecidableEq κ] in
theorem any_map (p : κ → α → Bool) : (s.map f).any p = s.any fun k a => p k (f k a) := by
  rw [any, map, List.any_map]
  rfl

theorem get?_map : (s.map f).get? k = (s.get? k).map (f k) := by
  obtain ⟨es⟩ := s
  simp only [get?, map]
  induction es with
  | nil => rfl
  | cons e rest ih =>
    obtain ⟨j, b⟩ := e
    by_cases same : j = k
    · subst same
      simp [lookup]
    · simpa [lookup, same] using ih

theorem contains_map : (s.map f).contains k = s.contains k := by
  rw [contains, contains, get?_map, Option.isSome_map]

theorem modify_map {g : α → α} (comm : ∀ a, g (f k a) = f k (g a)) :
    (s.map f).modify k g = (s.modify k g).map f := by
  obtain ⟨es⟩ := s
  simp only [modify, map, mk.injEq]
  induction es with
  | nil => rfl
  | cons e rest ih =>
    obtain ⟨j, b⟩ := e
    by_cases same : j = k
    · subst same
      simp [change, comm, ih]
    · simp [change, same, ih]

theorem map_modify {g : α → α} (blind : ∀ a, f k (g a) = f k a) :
    (s.modify k g).map f = s.map f := by
  obtain ⟨es⟩ := s
  simp only [modify, map, mk.injEq]
  induction es with
  | nil => rfl
  | cons e rest ih =>
    obtain ⟨j, b⟩ := e
    by_cases same : j = k
    · subst same
      simp [change, blind, ih]
    · simp [change, same, ih]

theorem set_map {a : α} (same : f k a = a) : (s.map f).set k a = (s.set k a).map f := by
  obtain ⟨es⟩ := s
  simp only [set, map, mk.injEq]
  induction es with
  | nil => simp [put, same]
  | cons e rest ih =>
    obtain ⟨j, b⟩ := e
    by_cases here : j = k
    · subst here
      simp [put, same]
    · simp [put, here, ih]

theorem erase_map : (s.map f).erase k = (s.erase k).map f := by
  obtain ⟨es⟩ := s
  simp only [erase, map, mk.injEq]
  induction es with
  | nil => rfl
  | cons e rest ih =>
    obtain ⟨j, b⟩ := e
    by_cases same : j = k
    · simp [remove, same, ih]
    · simp [remove, same, ih]

theorem map_eq_self (distinct : s.Distinct) (same : ∀ k a, s.get? k = some a → f k a = a) :
    s.map f = s := by
  have each : ∀ e ∈ s.entries, (e.1, f e.1 e.2) = id e := fun e he => by
    rw [same e.1 e.2 (lookup_of_mem distinct he)]
    rfl
  rw [map, List.map_congr_left each, List.map_id]

end Map

end Store

end Nursery
