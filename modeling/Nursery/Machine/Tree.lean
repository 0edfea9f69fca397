import Nursery.Machine.Ownership

/-!
# The task tree

Nodes are attached to a parent when they are made and leave it when their owner is done and their
own children have left them.  A flag travels down the tree only: a flagged node has flagged all
nodes below it, and a node made below a flagged one is flagged at once.

* `State.addNode` : a new node below a parent, or a new root.
* `State.cancelNode` : the flag is set and goes on to the children.
* `State.finishNode`, `State.detachNode`, `State.reap` : the end of a node.
-/

namespace Nursery

namespace State

/-- The node made next. -/
def nextNode (s : State) : TaskId :=
  ⟨s.nodes.size⟩

/-- A new node, listed by its parent, and flagged if the parent is. -/
def addNode (s : State) (kind : NodeKind) (priority : Priority) (parent : Option TaskId) :
    State :=
  let n := s.nextNode
  let node : Node := { kind := kind, priority := priority, parent := parent }
  match parent with
  | none => { s with nodes := s.nodes.set n node }
  | some p =>
    let listed := s.modifyNode p fun m => { m with children := m.children ++ [n] }
    -- the parent lists the node before the node is flagged
    if s.flagged p then
      { listed with nodes := listed.nodes.set n { node with flagged := true } }.log
        (.cancelled n kind)
    else
      { listed with nodes := listed.nodes.set n node }

/-- A node is flagged, and after it every child it has now; a flagged node has seen to that. -/
def cancelNode (s : State) (n : TaskId) : State :=
  match s.nodes.get? n with
  | none => s
  | some node =>
    if node.flagged then s
    else
      ((s.modifyNode n fun m => { m with flagged := true }).log (.cancelled n node.kind)).doFirst
        (node.children.map .cancel)

/-- The owner of a node is done; without children the node leaves its parent. -/
def finishNode (s : State) (n : TaskId) : State :=
  let s := s.modifyNode n fun m => { m with finished := true }
  if (s.children n).isEmpty then s.doFirst [.detach n] else s

/-- A child leaves the list of its parent.  When the list becomes empty, the task that waits for
that is woken, and a parent whose owner is done leaves its own parent. -/
def reap (s : State) (parent child : TaskId) : State :=
  match s.nodes.get? parent with
  | none => s
  | some p =>
    let rest := p.children.filter (· ≠ child)
    if rest.isEmpty then
      ((s.modifyNode parent fun m => { m with children := rest, joining := false }).log
        (.reaped parent child)).doFirst
          ((if p.joining then [.wake (.task parent)] else []) ++
            (if p.finished then [.detach parent] else []))
    else
      (s.modifyNode parent fun m => { m with children := rest }).log (.reaped parent child)

/-- A node leaves its parent, once, if the parent is still alive. -/
def detachNode (s : State) (n : TaskId) : State :=
  match s.nodes.get? n with
  | none => s
  | some node =>
    if node.reaped then s
    else
      let left := s.modifyNode n fun m => { m with reaped := true }
      match s.livingParent n with
      | some p => left.reap p n
      | none => left

end State

end Nursery
