import EventRelay.Hierarchy.Node
import EventRelay.Notice

/-!
# The index of listener lists

An index owns one node for each event kind that has been asked for, together with
nodes for all of the kind's ancestors. Nodes are numbered in the order in which they
are made, so a parent always has a smaller number than its children.

Asking for the node of a kind fails only where an abstract parent has a concrete
ancestor. Changing a node makes its cache and those of all its descendants stale.
-/

namespace EventRelay

/-- The listener lists of all kinds seen so far. -/
structure Index (β : Type) where
  /-- Nodes also keep the dispatched entries of single priorities. -/
  tracksPhases : Bool
  /-- The node of each kind, by the identity of the kind. -/
  slots : List (String × Nat)
  /-- All nodes, in the order in which they were made. -/
  nodes : List (Node β)

namespace Index

variable {β : Type}

/-- An index without nodes. -/
def empty (tracksPhases : Bool) : Index β := ⟨tracksPhases, [], []⟩

/-- Number of nodes. -/
def size (index : Index β) : Nat := index.nodes.length

/-- The node with a number. -/
def node? (index : Index β) (id : Nat) : Option (Node β) := index.nodes[id]?

/-- Number of the node of a kind that already has one. -/
def lookup? (index : Index β) (kindId : String) : Option Nat :=
  index.slots.lookup kindId

/-- Changes one node. -/
def update (index : Index β) (id : Nat) (change : Node β → Node β) : Index β :=
  { index with nodes := index.nodes.modify id change }

/-- Kinds that have a node, in the order in which the nodes were made. -/
def kinds (index : Index β) : List Kind := index.nodes.map Node.kind

/-! ## Making nodes -/

/-- Makes the next node. The parent learns of its new child. -/
def insert (index : Index β) (kind : Kind) (parent? : Option Nat) : Index β × Nat :=
  let id := index.size
  let info := KindInfo.below kind ((parent?.bind index.node?).map Node.info)
  let linked := match parent? with
    | some parent => index.update parent fun node => node.addChild id
    | none => index
  ({ linked with
      slots := linked.slots ++ [(kind.id, id)]
      nodes := linked.nodes ++ [Node.create id kind parent? info] }, id)

/-- The concrete ancestor that no kind directly below an abstract parent may have. -/
def brokenAncestor? (parent : Kind) : Option Kind :=
  if parent.isAbstract then parent.firstConcrete? else none

/-- The node of a kind. Missing nodes are made, those of ancestors first; when the
hierarchy is broken, none is made. An ancestor of the same identity leaves its node to the
kind. -/
def nodeFor (index : Index β) : Kind → Except BusError (Index β × Nat)
  | .root own =>
      match index.lookup? own.id with
      | some id => .ok (index, id)
      | none => .ok (index.insert (.root own) none)
  | .child own parent =>
      match index.lookup? own.id with
      | some id => .ok (index, id)
      | none =>
          match brokenAncestor? parent with
          | some ancestor =>
              .error (.brokenAbstractChain own.name parent.name ancestor.name)
          | none =>
              match index.nodeFor parent with
              | .error error => .error error
              | .ok (grown, parentId) =>
                  match grown.lookup? own.id with
                  | some id => .ok (grown, id)
                  | none => .ok (grown.insert (.child own parent) (some parentId))

/-- Tells of the nodes that a later index has and an earlier one has not. -/
def createdSince (earlier later : Index β) : List Notice :=
  (later.nodes.drop earlier.size).map fun node =>
    .created node.kind.name node.id node.info.depth node.info.cancellable

/-! ## Invalidation -/

/-- A node and everything below it, each node before its descendants. -/
def subtree (index : Index β) (id : Nat) : List Nat :=
  match index.node? id with
  | none => []
  | some node =>
      id :: node.children.flatMap fun child =>
        if _ : id < child ∧ child < index.size then index.subtree child else []
termination_by index.size - id
decreasing_by omega

/-- Makes the caches of a node and of everything below it stale. -/
def invalidate (index : Index β) (id : Nat) : Index β :=
  (index.subtree id).foldl (fun current stale => current.update stale Node.invalidate) index

/-! ## Changing listeners -/

/-- Appends a listener to a node at a priority. -/
def register (index : Index β) (id : Nat) (priority : Priority) (listener : Listener β) :
    Index β :=
  (index.update id fun node => node.add priority listener).invalidate id

/-- Whether a node directly holds one of the listeners. -/
def holdsAny (index : Index β) (id : Nat) (listeners : List ListenerId) : Bool :=
  (index.node? id).any fun node => node.containsAny listeners

/-- Removes a listener from a node; nothing becomes stale if the node does not hold it. -/
def unregister (index : Index β) (id : Nat) (listener : ListenerId) : Index β :=
  if index.holdsAny id [listener] then
    (index.update id fun node => node.remove listener).invalidate id
  else index

/-- Removes some listeners from a node; nothing becomes stale if it holds none of them. -/
def unregisterAll (index : Index β) (id : Nat) (listeners : List ListenerId) : Index β :=
  if index.holdsAny id listeners then
    (index.update id fun node => node.removeAll listeners).invalidate id
  else index

/-- Removes some listeners from every node. -/
def purge (index : Index β) (listeners : List ListenerId) : Index β :=
  (List.range index.size).foldl (fun current id => current.unregisterAll id listeners) index

/-- The index as a structured text. -/
def text (index : Index β) : String :=
  Text.record "TypeHierarchyIndex" [
    Text.field "nodes" (toString index.size),
    Text.field "track_phases" (Text.flag index.tracksPhases)]

@[simp] theorem size_empty (tracksPhases : Bool) : (empty tracksPhases : Index β).size = 0 := rfl

@[simp] theorem size_update (index : Index β) (id : Nat) (change : Node β → Node β) :
    (index.update id change).size = index.size := by
  simp [size, update]

theorem node?_update (index : Index β) (id other : Nat) (change : Node β → Node β) :
    (index.update id change).node? other =
      if id = other then (index.node? other).map change else index.node? other := by
  by_cases same : id = other <;> simp [node?, update, same]

@[simp] theorem lookup?_update (index : Index β) (id : Nat) (change : Node β → Node β)
    (kindId : String) : (index.update id change).lookup? kindId = index.lookup? kindId := rfl

end Index
end EventRelay
