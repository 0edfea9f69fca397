import Nursery.RunQueue
import Mathlib.Data.List.Count
import Mathlib.Tactic.Common

/-!
# What a run queue holds

An entry that is pushed is held once more, in its band; the entry that is popped is held once less,
and everything else stays in its band.

* `RunQueue.mem_toList` : what is held is held in some band.
* `RunQueue.mem_band_push`, `RunQueue.count_push` : after a push.
* `RunQueue.toList_pop?`, `RunQueue.mem_band_of_pop?` : after a pop.
-/

namespace Nursery

namespace RunQueue

variable {α : Type} {q q' : RunQueue α} {a b : α} {p : Priority}

theorem mem_toList : a ∈ q.toList ↔ ∃ p, a ∈ q.band p := by
  simp only [toList, List.mem_append]
  constructor
  · rintro ((h | h) | h)
    · exact ⟨.high, h⟩
    · exact ⟨.normal, h⟩
    · exact ⟨.low, h⟩
  · rintro ⟨p, h⟩
    cases p
    · exact .inr h
    · exact .inl (.inr h)
    · exact .inl (.inl h)

theorem mem_band_push {r : Priority} :
    b ∈ (q.push p a).band r ↔ b ∈ q.band r ∨ r = p ∧ b = a := by
  cases p <;> cases r <;> simp [push, band]

theorem mem_push : b ∈ (q.push p a).toList ↔ b ∈ q.toList ∨ b = a := by
  simp only [mem_toList, mem_band_push]
  constructor
  · rintro ⟨r, h | ⟨-, rfl⟩⟩
    · exact .inl ⟨r, h⟩
    · exact .inr rfl
  · rintro (⟨r, h⟩ | rfl)
    · exact ⟨r, .inl h⟩
    · exact ⟨p, .inr ⟨rfl, rfl⟩⟩

theorem count_push [BEq α] [LawfulBEq α] :
    (q.push p a).toList.count b = (a :: q.toList).count b := by
  cases p <;> simp only [push, toList, List.count_append, List.count_cons, List.count_nil] <;> omega

/-- A pop takes the first entry. -/
theorem toList_pop? (h : q.pop? = some (a, q')) : q.toList = a :: q'.toList := by
  have := pop?_eq q
  rw [h] at this
  cases hq : q.toList with
  | nil => simp [hq] at this
  | cons b rest =>
    simp only [hq, Option.map_some, Option.some.injEq, Prod.mk.injEq] at this
    rw [this.1, this.2]

/-- A pop leaves the other entries in their bands. -/
theorem mem_band_of_pop? (h : q.pop? = some (a, q')) {r : Priority} (hb : b ∈ q'.band r) :
    b ∈ q.band r := by
  obtain ⟨high, normal, low⟩ := q
  rcases high with _ | ⟨x, high⟩ <;> rcases normal with _ | ⟨y, normal⟩ <;>
    rcases low with _ | ⟨z, low⟩ <;> simp only [pop?, Option.some.injEq, Prod.mk.injEq,
      reduceCtorEq] at h
  all_goals
    obtain ⟨rfl, rfl⟩ := h
    cases r <;> simp only [band] at hb ⊢ <;> first | exact hb | exact List.mem_cons_of_mem _ hb

theorem mem_of_pop? (h : q.pop? = some (a, q')) : a ∈ q.toList := by
  rw [toList_pop? h]
  exact List.mem_cons_self

end RunQueue

end Nursery
