import EventRelay.Listener

/-!
# Listener lists of single kinds

A node holds the listeners registered directly for one kind, in a bucket for each
priority, and a cache: the flattened array of these listeners and of everything
inherited from the ancestors. A counter, the generation, grows with each change to
the node or to an ancestor; the cache is stale while it was built at an older
generation.
-/

namespace EventRelay

/-- Facts about a kind that are fixed when its node is made. -/
structure KindInfo where
  /-- The kind or an ancestor declares cancellability. -/
  cancellable : Bool
  /-- Number of ancestors above the kind. -/
  depth : Nat
  deriving DecidableEq

/-- The facts about a kind follow from its own declaration and those about its parent. -/
def KindInfo.below (kind : Kind) : Option KindInfo → KindInfo
  | none => ⟨kind.own.cancellable, 0⟩
  | some parent => ⟨kind.own.cancellable || parent.cancellable, parent.depth + 1⟩

/-- All listeners that an event of one kind meets, as of one generation. -/
structure Flattened (β : Type) where
  /-- Generation of the node when this was built. -/
  generation : Nat
  /-- For each priority the registered entries, own ones before inherited ones. -/
  merged : PerPriority (List (Listener β))
  /-- The entries as they are dispatched, in order. -/
  listeners : List (Listener β)
  /-- The dispatched entries of each priority, where these are kept. -/
  phases : Option (PerPriority (List (Listener β)))
  deriving DecidableEq

/-- The flattened array of a node that was never read. -/
def Flattened.empty {β : Type} : Flattened β :=
  ⟨0, .ofFn fun _ => [], [], none⟩

/-- The listener list of one kind. -/
structure Node (β : Type) where
  /-- Position of the node in its index. -/
  id : Nat
  /-- Kind whose listeners these are. -/
  kind : Kind
  /-- Node of the parent kind. -/
  parent? : Option Nat
  info : KindInfo
  /-- Listeners registered directly for the kind. -/
  buckets : PerPriority (Bucket β)
  /-- Grows with each change to the node or to an ancestor. -/
  generation : Nat
  /-- The array built by the last read. -/
  cache : Flattened β
  /-- Nodes of the child kinds made so far. -/
  children : List Nat

namespace Node

variable {β : Type}

/-- A node without listeners; its first read builds the cache. -/
def create (id : Nat) (kind : Kind) (parent? : Option Nat) (info : KindInfo) : Node β where
  id := id
  kind := kind
  parent? := parent?
  info := info
  buckets := .ofFn fun _ => .empty
  generation := 1
  cache := .empty
  children := []

/-- The listeners registered directly for the kind, in running order. -/
def ownListeners (node : Node β) : List (Listener β) :=
  node.buckets.toList.flatMap Bucket.listeners

/-- Number of listeners registered directly for the kind. -/
def listenerCount (node : Node β) : Nat := node.ownListeners.length

/-- The cache is out of date. -/
def isStale (node : Node β) : Bool :=
  node.cache.generation != node.generation

/-- Records that a change made the cache stale. -/
def invalidate (node : Node β) : Node β :=
  { node with generation := node.generation + 1 }

/-- Links the node of a child kind. -/
def addChild (node : Node β) (child : Nat) : Node β :=
  { node with children := node.children ++ [child] }

/-- Appends a listener at a priority. -/
def add (node : Node β) (priority : Priority) (listener : Listener β) : Node β :=
  { node with
    buckets := node.buckets.set priority ((node.buckets.get priority).add listener) }

/-- The first priority whose bucket holds a listener. -/
def priorityOf? (node : Node β) (id : ListenerId) : Option Priority :=
  Priority.all.find? fun priority => (node.buckets.get priority).contains id

/-- Removes a listener from the first bucket that holds it. -/
def remove (node : Node β) (id : ListenerId) : Node β :=
  match node.priorityOf? id with
  | some priority =>
      { node with
        buckets := node.buckets.set priority ((node.buckets.get priority).remove id) }
  | none => node

/-- A listener with one of the identities is registered directly for the kind. -/
def containsAny (node : Node β) (ids : List ListenerId) : Bool :=
  Priority.all.any fun priority => (node.buckets.get priority).containsAny ids

/-- Removes every listener with one of the identities. -/
def removeAll (node : Node β) (ids : List ListenerId) : Node β :=
  { node with buckets := node.buckets.map fun bucket => bucket.removeAll ids }

/-- Registered entries in the form in which this kind dispatches them: the check for
cancellation is dropped where no event can be canceled. -/
def finish (node : Node β) (entries : List (Listener β)) : List (Listener β) :=
  if node.info.cancellable then entries else entries.map Listener.unchecked

/-- The entries of one priority: own ones, then those merged for the parent. -/
def mergedWith (node : Node β) (inherited : Option (Flattened β)) (priority : Priority) :
    List (Listener β) :=
  (node.buckets.get priority).listeners ++
    match inherited with
    | some parent => parent.merged.get priority
    | none => []

/-- Builds the flattened array from the buckets and the parent's flattened array. -/
def flatten (node : Node β) (tracksPhases : Bool) (inherited : Option (Flattened β)) :
    Flattened β :=
  let merged := PerPriority.ofFn (node.mergedWith inherited)
  { generation := node.generation
    merged := merged
    listeners := node.finish merged.toList.flatten
    phases := if tracksPhases then some (merged.map node.finish) else none }

/-- Replaces the cache by a newly built array. -/
def rebuild (node : Node β) (tracksPhases : Bool) (inherited : Option (Flattened β)) : Node β :=
  { node with cache := node.flatten tracksPhases inherited }

/-- The dispatched entries of one priority, from the cache. -/
def phaseListeners (node : Node β) (priority : Priority) : List (Listener β) :=
  match node.cache.phases with
  | some phases => phases.get priority
  | none => node.finish (node.cache.merged.get priority)

/-- The node as a structured text. -/
def text (node : Node β) : String :=
  Text.record "ListenerListNode" [
    Text.field "id" (Text.wrapped "NodeId" (toString node.id)),
    Text.field "kind" (Text.Quoted.encode node.kind.name),
    Text.field "parent" (Text.optional (node.parent?.map fun parent =>
      Text.wrapped "NodeId" (toString parent))),
    Text.field "info" (Text.record "KindInfo" [
      Text.field "cancellable" (Text.flag node.info.cancellable),
      Text.field "depth" (toString node.info.depth)]),
    Text.field "generation" (toString node.generation)]

@[simp] theorem generation_invalidate (node : Node β) :
    node.invalidate.generation = node.generation + 1 := rfl

@[simp] theorem buckets_invalidate (node : Node β) : node.invalidate.buckets = node.buckets := rfl

@[simp] theorem isStale_rebuild (node : Node β) (tracksPhases : Bool)
    (inherited : Option (Flattened β)) :
    (node.rebuild tracksPhases inherited).isStale = false := by
  simp [isStale, rebuild, flatten]

end Node
end EventRelay
