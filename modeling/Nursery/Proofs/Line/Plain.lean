import Nursery.Machine.Plain
import Nursery.Proofs.Line.Change

/-!
# Lines that do not wait, as changes

A line that means the same everywhere starts with the resources of its frame in hand and, when
what it leaves to be done is counted in, ends with those of the frame it leaves.

* `Frame.count_bind`, `Frame.count_without` : a name takes at most what it gives.
* `State.plain?_fits` : every such line is a sequence of changes.
-/

namespace Nursery

namespace Frame

theorem count_without (f : Frame) (name : String) (r : Resource) :
    (f.without name).resources.count r + (f.find? name).toList.count r ≤ f.resources.count r := by
  simp only [without, find?, resources]
  induction f with
  | nil => simp [Store.remove, Store.lookup]
  | cons e rest ih =>
    obtain ⟨j, x⟩ := e
    by_cases hj : j = name
    · simp only [Store.remove, Store.lookup, hj, if_true, Option.toList_some, List.map_cons,
        List.count_cons, List.count_nil]
      omega
    · simp only [Store.remove, Store.lookup, hj, if_false, List.map_cons, List.count_cons]
      omega

theorem count_bind (f : Frame) (name : String) (x r : Resource) :
    (f.bind name x).resources.count r + (f.find? name).toList.count r ≤
      (x :: f.resources).count r := by
  have := count_without f name r
  simp only [bind, resources, List.map_append, List.count_append, List.map_cons, List.map_nil,
    List.count_cons, List.count_nil] at this ⊢
  omega

theorem mem_resources_of_find? {f : Frame} {name : String} {r : Resource}
    (h : f.find? name = some r) : r ∈ f.resources :=
  List.mem_map.2 ⟨_, Store.lookup_mem h, rfl⟩

theorem find?_bind_self {f : Frame} {name : String} {r : Resource} :
    (f.bind name r).find? name = some r := by
  simp only [bind, without, find?]
  induction f with
  | nil => simp [Store.remove, Store.lookup]
  | cons e rest ih =>
    obtain ⟨j, x⟩ := e
    by_cases hj : j = name
    · simpa [Store.remove, hj] using ih
    · simpa [Store.remove, Store.lookup, hj] using ih

end Frame

/-- What a plain line has done is a sequence of changes. -/
def Reaction.Fits (c : Context) (s : State) (frame : Frame) (reaction : Reaction) : Prop :=
  Changes c s frame.resources (reaction.state.doLast reaction.after) reaction.frame.resources

namespace State

variable {c : Context} {s s' : State} {frame frame' : Frame} {hand : List Resource}

theorem adopt_changes (s : State) (frame : Frame) (name : String) :
    Changes c s frame.resources (s.adopt frame name).1 (s.adopt frame name).2.resources := by
  unfold adopt
  split
  · rename_i r hf hs
    refine (Changes.single (.adopt hs)).tail (.shed fun x => ?_)
    have := Frame.count_bind frame name r x
    simp only
    omega
  · exact .refl

theorem adopt_eq (s : State) (frame : Frame) (name : String) :
    ∃ shared, (s.adopt frame name).1 = { s with shared := shared } := by
  unfold adopt
  split
  · exact ⟨_, rfl⟩
  · exact ⟨s.shared, rfl⟩

theorem agenda_adopt (s : State) (frame : Frame) (name : String) :
    (s.adopt frame name).1.agenda = s.agenda := by
  unfold adopt
  split <;> rfl

theorem reports_fits {report : Report} (h : Changes c s frame.resources s' frame'.resources) :
    (s'.reports frame' report).Fits c s frame := by
  change Changes _ _ _ (s'.doLast []) _
  rwa [doLast_nil]

theorem reportsOn_fits {α : Type} {found : Option α} {report : α → Report} :
    (s.reportsOn frame found report).Fits c s frame :=
  reports_fits .refl

theorem panics_fits {message : String} (h : Changes c s frame.resources s' frame.resources) :
    (s'.panics frame message).Fits c s frame := by
  change Changes _ _ _ (s'.doLast []) _
  rwa [doLast_nil]

theorem binds_fits {name : String} {r : Resource} {report : Report}
    (h : Changes c s frame.resources s' (r :: frame.resources)) :
    (s'.binds frame name r report).Fits c s frame := by
  have dropped : ∀ x, ((frame.find? name).toList ++ (frame.bind name r).resources).count x ≤
      (r :: frame.resources).count x := by
    intro x
    have := Frame.count_bind frame name r x
    rw [List.count_append]
    omega
  exact h.trans ((Changes.shed dropped).trans (Changes.releases _))

theorem spawn_fits (idle : s.agenda = []) {tag : Tag} {priority : Option Priority}
    {detached : Bool} {body : List Line} :
    (s.spawn c frame tag priority detached body).Fits c s frame := by
  unfold spawn
  split
  · exact panics_fits .refl
  · rename_i home here
    cases detached with
    | true =>
      exact binds_fits ((Changes.single
        (.spawn _ body idle (.inl here) (.inl rfl))).tail (.nameTask _))
    | false =>
      exact binds_fits ((Changes.single
        (.spawn _ body idle (.inl here) (.inr rfl))).tail (.nameTask _))

theorem spawnOn_fits (idle : s.agenda = []) {tag : Tag} {place : Nat}
    {priority : Option Priority} {body : List Line} :
    (s.spawnOn frame tag place priority body).Fits c s frame := by
  unfold spawnOn
  split
  · exact reports_fits .refl
  · rename_i home found
    exact binds_fits ((Changes.single
      (.spawn _ body idle (.inr ⟨rfl, place, found⟩) (.inl rfl))).tail (.nameTask _))

theorem bindGroup_fits (idle : s.agenda = []) {tag : Tag} :
    (s.bindGroup c frame tag).Fits c s frame := by
  unfold bindGroup
  split
  · exact panics_fits .refl
  · rename_i home here
    exact binds_fits (.single (.group idle here))

theorem add_fits (idle : s.agenda = []) {tag : Tag} {priority : Option Priority}
    {body : List Line} : (s.add frame tag priority body).Fits c s frame := by
  unfold add
  have adopted := adopt_changes (c := c) s frame tag.target
  have idle' := (agenda_adopt s frame tag.target).trans idle
  generalize s.adopt frame tag.target = p at adopted idle' ⊢
  obtain ⟨s', frame'⟩ := p
  dsimp only at adopted idle' ⊢
  split
  · rename_i g hg
    split
    · rename_i group found
      exact reports_fits ((adopted.tail (.add priority body idle'
        (Frame.mem_resources_of_find? hg) found)).tail (.nameTask _))
    · exact reports_fits adopted
  · exact reports_fits adopted

theorem take_changes {name : String} {r : Resource} (found : frame.find? name = some r) :
    Changes c s frame.resources s (r :: (frame.without name).resources) := by
  refine Changes.shed fun x => ?_
  have := Frame.count_without frame name x
  rw [found] at this
  simp only [Option.toList_some, List.count_cons, List.count_nil] at this ⊢
  omega

theorem dropNamed_fits {name : String} : (s.dropNamed frame name).Fits c s frame := by
  unfold dropNamed
  split
  · rename_i r hf
    exact (take_changes hf).tail (.release rfl)
  · rename_i r _ hs
    exact (Changes.single (.adopt hs)).tail (.release rfl)
  · exact reports_fits .refl

theorem shareNamed_fits {name : String} : (s.shareNamed frame name).Fits c s frame := by
  unfold shareNamed
  split
  · rename_i r hf
    exact (take_changes hf).trans ((Changes.single (.share name rfl)).trans (Changes.releases _))
  · exact reports_fits .refl

theorem bindActor_fits {tag : Tag} {init : List Int64} {priority : Option Priority} :
    (s.bindActor frame tag init priority).Fits c s frame :=
  reports_fits ((Changes.single (.actor tag.binding _ init)).tail (.tell _ (.inl rfl) rfl))

theorem bindCall_fits (idle : s.agenda = []) {tag : Tag} {handler : List Line} :
    (s.bindCall c frame tag handler).Fits c s frame := by
  unfold bindCall
  split
  · exact reports_fits .refl
  · rename_i a named
    apply binds_fits
    unfold callActor
    split
    · exact (Changes.single (.tell _ (.inl rfl) rfl)).tail (.refuse _)
    · rename_i other
      split
      · exact .single (.refuse _)
      · rename_i home here
        exact .single (.call handler idle here other ⟨_, named⟩)

theorem send_fits (idle : s.agenda = []) {tag : Tag} {handler : List Line} :
    (s.send c frame tag handler).Fits c s frame := by
  unfold send sendActor
  split
  · exact reports_fits .refl
  · cases here : c.home with
    | none => exact reports_fits .refl
    | some home => exact reports_fits (.single (.send handler idle here))

theorem cancels_fits {found : Option TaskId} :
    (match found with
      | some n =>
        { state := s, frame := frame, after := [.cancel n], result := .ok (.flag true) : Reaction }
      | none => s.reports frame .missing).Fits c s frame := by
  split
  · exact .single (.cancel _)
  · exact reports_fits .refl

/-- **Every plain line is a sequence of changes**, from the resources of the frame that it gets to
those of the frame that it leaves. -/
theorem plain?_fits (idle : s.agenda = []) {tag : Tag} {act : Act} {reaction : Reaction}
    (h : s.plain? c frame tag act = some reaction) : reaction.Fits c s frame := by
  cases act <;> simp only [plain?, Option.some.injEq, reduceCtorEq] at h <;> subst h
  case note | currentTask | isCancelled | thread => exact reports_fits .refl
  case panic => exact panics_fits (.single (.tell _ (.inl rfl) rfl))
  case spawn => exact spawn_fits idle
  case spawnOn => exact spawnOn_fits idle
  case phase | isTerminal | isFinished | handleCancelled | handleTask => exact reportsOn_fits
  case cancel | cancelGroup => exact cancels_fits
  case describe => split <;> exact reports_fits .refl
  case drop => exact dropNamed_fits
  case share => exact shareNamed_fits
  case group => exact bindGroup_fits idle
  case add => exact add_fits idle
  case groupSize | groupCancelled | describeActor | pending => exact reportsOn_fits
  case childPhase => exact reports_fits .refl
  case actor => exact bindActor_fits
  case call => exact bindCall_fits idle
  case send => exact send_fits idle
  case wake =>
    split
    · rename_i t found
      exact .single (.wake idle (.inr ⟨_, found⟩))
    · exact reports_fits .refl

end State

end Nursery
