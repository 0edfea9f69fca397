import Nursery.Proofs.Aftermath
import Nursery.Proofs.Lineage
import Nursery.Proofs.Tree.Tidy

/-!
# The walks through the tree come to an end

A child is younger than its parent, so no walk through the tree comes back to where it was: a
cancellation goes from a node to its children, the end of a node goes on to its parent if that was
only waiting for it, and whoever asks whether a node is cancelled looks at its parents.

* `Reachable.down`, `Reachable.up` : there is no endless way down or up.
* `State.cancel_ends` : a cancellation ends, by induction on the way down.
* `Reachable.detach_ends` : the end of a node goes up no further than there are older nodes.
* `State.cancelledWithin_eq` : a look at all parents needs no more steps than there are older nodes.
-/

namespace Nursery

variable {s s' : State} {d : Desk} {n : TaskId} {as rest : List Action}

/-! ### No endless way -/

theorem Reachable.younger (h : Reachable s d) {c p : TaskId} (listed : c ∈ s.children p) :
    p.index < c.index ∧ c.index < s.nodes.size := by
  obtain ⟨m, found, parent⟩ := h.sound.kinship.listed p c listed
  exact ⟨h.descends c m p found parent, h.sound.formed.nodes c m found⟩

/-- There is no endless way from a node to one that it lists. -/
theorem Reachable.down (h : Reachable s d) : WellFounded fun c p => c ∈ s.children p := by
  refine Subrelation.wf (fun {c p} listed => ?_)
    (measure fun n : TaskId => s.nodes.size - n.index).wf
  have := h.younger listed
  change s.nodes.size - c.index < s.nodes.size - p.index
  omega

/-- There is no endless way from a node to its parent. -/
theorem Reachable.up (h : Reachable s d) :
    WellFounded fun p n => (s.nodes.get? n).bind Node.parent = some p := by
  refine Subrelation.wf (fun {p n} above => ?_) (measure TaskId.index).wf
  obtain ⟨m, found, parent⟩ := Option.bind_eq_some_iff.1 above
  exact h.descends n m p found parent

/-! ### Down -/

/-- What is worked off before more of the agenda is worked off before less of it. -/
theorem Unrolls.before (h : Unrolls (as ++ rest) s s') : Unrolls rest s s' := by
  induction h with
  | refl => exact .refl
  | @next x a more _ busy ih => exact ih.next (busy.trans (by rw [← List.append_assoc]))

/-- An item is done. -/
theorem Unrolls.once {a : Action} (first : s.agenda = a :: rest) : Unrolls rest s s.step :=
  Unrolls.refl.next (first.trans (congrArg (a :: ·) (List.nil_append rest).symm))

/-- **A cancellation ends.**  It goes from a node to the children, so it ends if there is no
endless way down. -/
theorem State.cancel_ends (down : WellFounded fun c p => c ∈ s.children p) (n : TaskId) :
    ∀ {x : State} {rest : List Action}, (∀ p, x.children p = s.children p) →
      x.agenda = .cancel n :: rest →
        ∃ y, Unrolls rest x y ∧ y.agenda = rest ∧ ∀ p, y.children p = s.children p := by
  induction n using down.induction with
  | _ n ih =>
    intro x rest lists first
    -- the walk goes on to the children one after the other
    have siblings : ∀ (cs : List TaskId), (∀ c ∈ cs, c ∈ s.children n) → ∀ {x : State},
        (∀ p, x.children p = s.children p) → x.agenda = cs.map .cancel ++ rest →
          ∃ y, Unrolls rest x y ∧ y.agenda = rest ∧ ∀ p, y.children p = s.children p := by
      intro cs
      induction cs with
      | nil => exact fun _ {x} lists agenda => ⟨x, .refl, agenda, lists⟩
      | cons c cs more =>
        intro listed x lists agenda
        obtain ⟨y, way, agenda, lists⟩ := ih c (listed c List.mem_cons_self) lists agenda
        obtain ⟨z, way', done⟩ :=
          more (fun k hk => listed k (List.mem_cons_of_mem c hk)) lists agenda
        exact ⟨z, way.before.trans way', done⟩
    have next : x.step = x.walk n rest := State.step_of_agenda first
    have lists' : ∀ p, x.step.children p = s.children p := fun p => by
      rw [next, State.children_walk, lists]
    have step : Unrolls rest x x.step := .once first
    obtain ⟨cs, agenda, listed⟩ : ∃ cs : List TaskId,
        x.step.agenda = cs.map .cancel ++ rest ∧ ∀ c ∈ cs, c ∈ s.children n := by
      rw [next, State.agenda_walk]
      split
      · exact ⟨[], rfl, by simp⟩
      · exact ⟨x.children n, rfl, fun c hc => lists n ▸ hc⟩
    obtain ⟨y, way, done⟩ := siblings cs listed lists' agenda
    exact ⟨y, step.trans way, done⟩

/-! ### Up -/

/-- **The end of a node goes up no further than there are older nodes.**  On the way every node
leaves its parent, and the way ends where a parent stays, or where the task of the parent was
waiting for it and is woken. -/
theorem Reachable.detach_ends (h : Reachable s d) (first : s.agenda = .detach n :: rest) :
    ∃ k ≤ n.index + 1, Unrolls rest s (State.step^[k] s) ∧
      ((State.step^[k] s).agenda = rest ∨
        ∃ p, (State.step^[k] s).agenda = .wake (.task p) :: rest) := by
  induction old : n.index using Nat.strong_induction_on generalizing n s with
  | _ index ih =>
    subst old
    have step : Unrolls rest s s.step := .once first
    have stays : s.step.agenda = rest ∨ (∃ p, s.step.agenda = .wake (.task p) :: rest) ∨
        ∃ p, p.index < n.index ∧ s.step.agenda = .detach p :: rest := by
      obtain ⟨eq, e⟩ := State.step_item first
      generalize s.step = s' at e
      cases e with
      | spent | orphan | reap => exact .inl rfl
      | @reapLast _ p m above found attached parent listed =>
        obtain ⟨above₀, before, same⟩ := Store.get?_modify_eq_some.1 listed
        have agree : above.joining = above₀.joining ∧ above.finished = above₀.finished := by
          rw [same]
          split <;> exact ⟨rfl, rfl⟩
        -- who waits is not done, so either the parent is woken or it leaves its own parent
        have unfinished : above.joining = true → above.finished = false := fun joins =>
          agree.2.trans (h.tidy.unfinished h.sound.kinship before (agree.1.symm.trans joins))
        have older : p.index < n.index := h.descends n m p found parent
        have agenda : ∀ x : State, x.agenda = rest → ∀ as, (x.doFirst as).agenda = as ++ rest :=
          fun x left as => by rw [State.doFirst, left]
        rw [agenda _ rfl]
        by_cases joins : above.joining = true
        · exact .inr (.inl ⟨p, by simp [joins, unfinished joins]⟩)
        by_cases finished : above.finished = true
        · exact .inr (.inr ⟨p, older, by simp [joins, finished]⟩)
        · exact .inl (by simp [joins, finished])
    rcases stays with done | woken | ⟨p, older, next⟩
    · exact ⟨1, by omega, step, .inl done⟩
    · exact ⟨1, by omega, step, .inr woken⟩
    · obtain ⟨k, bound, way, ends⟩ := ih p.index older (h.next .step) next rfl
      exact ⟨k + 1, by omega, step.trans way, ends⟩

/-! ### Looking up -/

/-- **A look at all parents needs no more steps than there are older nodes.** -/
theorem State.cancelledWithin_eq (descends : s.Descends) {steps : Nat} (enough : n.index ≤ steps) :
    s.cancelledWithin steps n = s.isCancelled n := by
  refine Bool.eq_iff_iff.2 (Iff.trans ⟨?_, ?_⟩ (State.isCancelled_iff descends).symm)
  · exact State.sees_of_cancelledWithin steps
  · rintro ⟨m, sees, flagged⟩
    exact State.cancelledWithin_of_sees descends flagged sees steps enough

end Nursery
