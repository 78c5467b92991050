import EventRelay.Hierarchy.Index

/-!
# Reading listener lists

What an event of a kind meets is read from the cache of the kind's node. A stale
cache is first built anew from the buckets of its node and the cache of the node
above, which is brought up to date before it.
-/

namespace EventRelay
namespace Index

variable {β : Type}

/-- The stale nodes to rebuild before a node can be read, the outermost first. An
ancestor of a fresh node is not looked at. -/
def staleChain (index : Index β) (id : Nat) : List Nat :=
  match index.node? id with
  | none => []
  | some node =>
      if node.isStale then
        (match node.parent? with
          | some parent => if _ : parent < id then index.staleChain parent else []
          | none => []) ++ [id]
      else []
termination_by id

/-- What a node inherits: the cache of its parent's node. -/
def inherited (index : Index β) (node : Node β) : Option (Flattened β) :=
  (node.parent?.bind index.node?).map Node.cache

/-- Rebuilds the cache of one node from its parent's cache. -/
def rebuild (index : Index β) (id : Nat) : Index β :=
  match index.node? id with
  | some node => index.update id fun _ => node.rebuild index.tracksPhases (index.inherited node)
  | none => index

/-- Brings the cache of a node up to date. -/
def refresh (index : Index β) (id : Nat) : Index β :=
  (index.staleChain id).foldl rebuild index

/-- The cache of a node as it stands. -/
def cacheOf (index : Index β) (id : Nat) : Flattened β :=
  match index.node? id with
  | some node => node.cache
  | none => .empty

/-- The entries of one priority, from the cache of a node as it stands. -/
def phaseOf (index : Index β) (id : Nat) (priority : Priority) : List (Listener β) :=
  match index.node? id with
  | some node => node.phaseListeners priority
  | none => []

/-- All listeners that an event of a node's kind meets, in the order of dispatch. -/
def flattened (index : Index β) (id : Nat) : Index β × Flattened β :=
  let fresh := index.refresh id
  (fresh, fresh.cacheOf id)

/-- Those of one priority. -/
def phaseListeners (index : Index β) (id : Nat) (priority : Priority) :
    Index β × List (Listener β) :=
  let fresh := index.refresh id
  (fresh, fresh.phaseOf id priority)

/-- Tells of the caches that reading a node rebuilds. -/
def rebuiltBy (index : Index β) (id : Nat) : List Notice :=
  let fresh := index.refresh id
  (index.staleChain id).filterMap fun stale =>
    (fresh.node? stale).map fun node =>
      .rebuilt node.kind.name node.cache.generation node.cache.listeners.length

end Index
end EventRelay
