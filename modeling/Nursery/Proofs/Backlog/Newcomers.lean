import Nursery.Proofs.Backlog.Traffic

/-!
# New tasks

A task is made ready and on the runtime where it stays.  So a task that is found on a runtime was
there before, or it was made by the last transition and waits for its first slice.

* `Hosts` : every task was there before, or is new and ready.
* `Transition.hosts` : this is so of every transition.
-/

namespace Nursery

variable {s s' s'' : State} {d d' : Desk} {c : Context} {hand hand' : List Resource} {a : Action}
  {home : RuntimeId} {t : TaskId}

/-- Every task was on its runtime before, or is new and ready. -/
def Hosts (s s' : State) : Prop :=
  ∀ t r, s'.home? t = some r →
    s.home? t = some r ∨ s.nodes.size ≤ t.index ∧ s'.phase t = .ready

theorem State.home?_of_tasks (same : s'.tasks = s.tasks) : s'.home? t = s.home? t := by
  simp only [State.home?, same]

namespace Hosts

theorem of_tasks (same : s'.tasks = s.tasks) : Hosts s s' :=
  fun _ _ here => .inl ((State.home?_of_tasks same).symm.trans here)

theorem of_modify {u : TaskId} {f : Task → Task} (tasks : s'.tasks = s.tasks.modify u f)
    (same : ∀ m, (f m).home = m.home) : Hosts s s' := by
  intro t r here
  rw [State.home?, tasks, Store.map_get?_modify_same same] at here
  exact .inl here

theorem of_erase {u : TaskId} (tasks : s'.tasks = s.tasks.erase u) : Hosts s s' := by
  intro t r here
  obtain ⟨m, found, at_home⟩ := Option.map_eq_some_iff.1 here
  rw [tasks, Store.get?_erase] at found
  split at found
  · cases found
  · exact .inl (Option.map_eq_some_iff.2 ⟨m, found, at_home⟩)

theorem then_same (h : Hosts s s') (homes : ∀ t, s''.home? t = s'.home? t)
    (phases : ∀ t, s''.phase t = s'.phase t) : Hosts s s'' := by
  intro t r here
  rw [phases]
  exact h t r ((homes t).symm.trans here)

theorem launch {kind : NodeKind} {q : Priority} {parent : Option TaskId}
    {nodes : Store TaskId Node} {x : State} {m : Task} {p : Priority} {e : Entry}
    (grown : Grown s kind q parent .ready nodes) (same : x.nodes = nodes)
    (tasks : x.tasks = s.tasks.set s.nextNode m) : Hosts s (x.enqueue home p e) := by
  intro t r here
  rw [State.home?, State.tasks_enqueue, tasks] at here
  by_cases new : s.nextNode = t
  · subst new
    obtain ⟨b, made⟩ := grown.new
    refine .inr ⟨Nat.le_refl _, ?_⟩
    rw [State.phase_enqueue]
    exact State.phase_of_get? (by rw [same, made])
  · rw [Store.get?_set_of_ne new] at here
    exact .inl here

theorem change (formed : Formed s) (hc : Change c s hand s' hand') : Hosts s s' := by
  cases hc with
  | spawn priority body =>
    obtain ⟨nodes, trace, grown, eq⟩ := State.launch_addNode_eq formed.nodes priority _ _ body false
    rw [eq]
    exact launch grown (by rfl) (by rfl)
  | group =>
    obtain ⟨nodes, trace, priority, -, eq⟩ := State.makeGroup_eq formed.nodes c _
    rw [eq]
    exact of_tasks rfl
  | @add g group priority body =>
    obtain ⟨nodes, trace, p, grown, eq⟩ :=
      State.addChild_eq formed.nodes formed.fresh_task g group priority body
    rw [eq]
    exact launch grown (by rfl) (by rfl)
  | call | send =>
    obtain ⟨actors, runtimes, agenda, eq⟩ := State.post_eq _ _ _ _
    rw [eq]
    exact of_tasks rfl
  | register | take =>
    exact of_modify (by rfl) fun _ => by rfl
  | _ => exact of_tasks rfl

theorem changes (formed : Formed s) (hc : Changes c s hand s' hand') : Hosts s s' := by
  have key := hc.invariant (I := fun x _ => (Formed x ∧ s.nodes.size ≤ x.nodes.size) ∧ Hosts s x)
    (fun {x x' hand hand'} hc h => ?_) ⟨⟨formed, Nat.le_refl _⟩, of_tasks rfl⟩
  · exact key.2
  · obtain ⟨⟨formed', grows⟩, hosts⟩ := h
    have later := (Supplies.change (r := ⟨0⟩) formed' hc).grows
    refine ⟨⟨formed'.change hc, grows.trans later⟩, fun t r here => ?_⟩
    rcases change formed' hc t r here with old | ⟨new, ready⟩
    · refine (hosts t r old).imp_right fun made => ⟨made.1, ?_⟩
      obtain ⟨m, found, -⟩ := Option.map_eq_some_iff.1 old
      obtain ⟨node, known, -⟩ := Option.map_eq_some_iff.1 (formed'.tasks t m found)
      rw [(Keeps.change formed' hc).phase known, made.2]
    · exact .inr ⟨grows.trans new, ready⟩

theorem effect (e : Effect s a s') : Hosts s s' := by
  cases e with
  | resume =>
    exact of_tasks (State.tasks_enqueue _ _ _ _)
  | wakeWaiters | forget =>
    exact of_modify (by rfl) fun _ => by rfl
  | reportFailure trace only | dropHandle trace only =>
    refine of_modify (by rfl) fun m => ?_
    obtain ⟨b, eq⟩ := only m
    rw [eq]
  | bury => exact of_erase (by rfl)
  | _ => exact of_tasks rfl

theorem work (formed : Formed s) (w : Work s home s') : Hosts s s' := by
  have stored : ∀ {x : State} {u : TaskId} {fiber : Option Fiber} (t : TaskId),
      (x.modifyTask u fun m => { m with fiber := fiber }).home? t = x.home? t :=
    fun t => State.home?_modifyTask fun _ => rfl
  cases w with
  | next _ _ changes | suspend _ _ changes | ends _ _ changes | pause _ _ _ changes =>
    exact (Hosts.changes formed changes).then_same stored fun _ => by rfl
  | handle _ changes | hold _ _ changes | handled _ _ changes =>
    exact (Hosts.changes formed changes).then_same (fun _ => by rfl) fun _ => by rfl
  | again | drainAgain | markerAgain =>
    exact of_tasks (State.tasks_enqueue _ _ _ _)
  | @endBody u ending f trace cancelled during only =>
    refine of_modify (by rfl) fun m => ?_
    obtain ⟨o, answer, eq⟩ := only m
    rw [eq]
  | _ => exact of_tasks rfl

theorem move (formed : Formed s) (idle : s.agenda = []) (m : Move s d s' d') : Hosts s s' := by
  cases m with
  | build place batch stem =>
    rcases s.build_cases place batch stem with same | ⟨-, settings, built⟩
    · rw [same]
      exact of_tasks rfl
    · rw [built]
      exact of_tasks rfl
  | start | block | join =>
    exact of_tasks (State.tasks_start _ _ _)
  | startRounds =>
    exact of_tasks ((State.tasks_start _ _ _).trans (State.tasks_enqueue _ _ _ _))
  | @launchRoot _ r _ body =>
    obtain ⟨nodes, trace, grown, eq⟩ :=
      State.launch_addNode_eq formed.nodes .normal none r body true
    rw [State.launchRoot, eq]
    exact launch grown (by rfl) (by rfl)
  | leaveRoot => exact of_modify (by rfl) fun _ => by rfl
  | close => exact of_tasks rfl
  | @line _ _ _ plain => exact .changes formed (State.plain?_fits idle plain)
  | @shelve f =>
    exact .changes formed (State.shelve_changes (c := { who := .main }) f s [])

end Hosts

/-- Every task was on its runtime before a transition, or is new and ready. -/
theorem Transition.hosts (h : Sound s d) (t : Transition s d s' d') : Hosts s s' := by
  cases t with
  | step =>
    have next := State.step_cases h.wakeful.waitsOnOwn
    generalize s.step = s' at next
    cases next with
    | item first e =>
      subst first
      exact fun t r => Hosts.effect e t r
    | work _ _ w => exact .work h.formed w
    | rest => exact .of_tasks rfl
  | stray => exact .of_tasks rfl
  | move rests m => exact .move h.formed (State.idle_of_resting rests) m

end Nursery
