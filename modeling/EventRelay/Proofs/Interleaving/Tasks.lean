import EventRelay.Hierarchy.Cache
import Mathlib.Control.Monad.Basic
import Mathlib.Logic.Relation

/-!
# Tasks at work on the listener lists

Adding and removing listeners, asking for nodes and reading arrays happen at the same time, each
as a task of many single steps. A step is one access to what tasks share: a bucket changed under
its lock, a generation counted up or read, a list of children read, the published nodes looked
up, a child linked, a node published, a cache read or stored.

Nodes are made one at a time under a lock of their own. Whoever rebuilds an array holds the lock
of its node from reading the generation again until the new array is stored.
-/

namespace EventRelay

variable {β : Type}

/-- The listener lists with the locks that tasks hold. -/
structure Site (β : Type) where
  index : Index β
  /-- A node is being made. -/
  finalizing : Bool
  /-- Nodes whose arrays are being rebuilt. -/
  rebuilding : List Nat

/-- The published nodes, as far as making another one depends on them. -/
structure Snapshot where
  slots : List (String × Nat)
  size : Nat
  deriving DecidableEq

namespace Index

/-- The published nodes at this moment. -/
def snapshot (index : Index β) : Snapshot := ⟨index.slots, index.size⟩

/-- The entries with one of the identities that a node holds. -/
def entriesWith (index : Index β) (id : Nat) (listeners : List ListenerId) :
    List (Listener β) :=
  match index.node? id with
  | some node => node.ownListeners.filter fun entry => listeners.contains entry.id
  | none => []

/-- The children that a node lists. -/
def childrenOf (index : Index β) (id : Nat) : List Nat :=
  match index.node? id with
  | some node => node.children
  | none => []

/-- Tells the parent of a kind that is about to get its node. -/
def link (index : Index β) (parent? : Option Nat) (child : Nat) : Index β :=
  match parent? with
  | some parent => index.update parent fun node => node.addChild child
  | none => index

/-- Publishes the nodes of a snapshot together with a new one. -/
def publish (index : Index β) (seen : Snapshot) (kind : Kind) (parent? : Option Nat) : Index β :=
  { index with
    slots := seen.slots ++ [(kind.id, seen.size)]
    nodes := index.nodes.take seen.size ++
      [Node.create seen.size kind parent?
        (KindInfo.below kind ((parent?.bind index.node?).map Node.info))] }

end Index

namespace Site

/-- Changes one node. -/
def update (site : Site β) (id : Nat) (change : Node β → Node β) : Site β :=
  { site with index := site.index.update id change }

/-- Takes the lock under which a node's array is rebuilt. -/
def lock (site : Site β) (id : Nat) : Site β :=
  { site with rebuilding := id :: site.rebuilding }

/-- Gives it back. -/
def unlock (site : Site β) (id : Nat) : Site β :=
  { site with rebuilding := site.rebuilding.erase id }

end Site

/-- What a task is asked to do. -/
inductive Request (β : Type) where
  /-- Adds a listener to a node. -/
  | register (id : Nat) (priority : Priority) (listener : Listener β)
  /-- Removes listeners from a node. -/
  | unregisterAll (id : Nat) (listeners : List ListenerId)
  /-- Finds or makes the node of a kind. -/
  | nodeFor (kind : Kind)
  /-- Reads the array of a node. -/
  | flattened (id : Nat)
  deriving DecidableEq

/-- What is left to do of telling a node and everything below it that their arrays are stale. -/
inductive Errand where
  /-- Counts the generation of a node up. -/
  | bump (id : Nat)
  /-- Reads the children of a node. -/
  | spread (id : Nat)
  /-- Looks whether a child is published. -/
  | visit (id : Nat)
  deriving DecidableEq

/-- A node that is being made for a kind, with the kinds below it that wait for theirs. -/
structure Making where
  kind : Kind
  parent? : Option Nat
  waiting : List Kind
  deriving DecidableEq

/-- Where a task is in reading one node. -/
inductive Reading (β : Type) where
  | start
  /-- It has read the cache. -/
  | loaded (cache : Flattened β)
  /-- The generation has shown the cache to be stale. -/
  | stale
  /-- It holds the lock. -/
  | locked
  /-- It has read the generation again. -/
  | captured (generation : Nat)
  /-- The cache is still stale, and the parent is to be read. -/
  | climbing (generation : Nat)
  /-- It has what the node inherits. -/
  | inheriting (generation : Nat) (inherited? : Option (Flattened β))
  /-- It has built the array. -/
  | storing (array : Flattened β)
  deriving DecidableEq

/-- Where a task is. -/
inductive Stage (β : Type) where
  /-- The bucket is to be changed. -/
  | changing
  /-- The bucket has been changed, and some entries have been taken out of it. When no errand is
  left, the task has returned. -/
  | marking (taken : List (Listener β)) (errands : List Errand)
  /-- The node of a kind is looked for, on behalf of kinds below it. -/
  | seeking (kind : Kind) (waiting : List Kind)
  /-- It waits until it may make a node. -/
  | queuing (making : Making)
  /-- It may make the node, unless somebody has made it. -/
  | checking (making : Making)
  /-- The parent is to be told. -/
  | linking (making : Making) (seen : Snapshot)
  | publishing (making : Making) (seen : Snapshot)
  /-- A request for a node has returned. -/
  | answered (result : Except BusError Nat)
  /-- A node is read, on behalf of nodes below it that rebuild their arrays for these
  generations. -/
  | reading (id : Nat) (reading : Reading β) (below : List (Nat × Nat))
  /-- A reading has returned. -/
  | read (array : Flattened β)
  deriving DecidableEq

namespace Stage

/-- The node of a kind has been found; the next kind below it gets its own. -/
def handOver (id : Nat) : List Kind → Stage β
  | [] => .answered (.ok id)
  | kind :: waiting => .queuing ⟨kind, some id, waiting⟩

/-- The array of a node has been found; the node below inherits it. -/
def deliver (array : Flattened β) : List (Nat × Nat) → Stage β
  | [] => .read array
  | (id, generation) :: below => .reading id (.inheriting generation (some array)) below

end Stage

/-- A request and how far it has come. -/
structure Task (β : Type) where
  request : Request β
  stage : Stage β
  deriving DecidableEq

namespace Request

/-- Where a task begins. -/
def firstStage : Request β → Stage β
  | .register .. => .changing
  | .unregisterAll .. => .changing
  | .nodeFor kind => .seeking kind []
  | .flattened id => .reading id .start []

/-- Whoever asks for a change or a reading has the node. -/
def IsFor (index : Index β) : Request β → Prop
  | .register id _ _ => id < index.size
  | .unregisterAll id _ => id < index.size
  | .nodeFor _ => True
  | .flattened id => id < index.size

instance (request : Request β) (index : Index β) : Decidable (request.IsFor index) :=
  match request with
  | .register id _ _ => inferInstanceAs (Decidable (id < index.size))
  | .unregisterAll id _ => inferInstanceAs (Decidable (id < index.size))
  | .nodeFor _ => inferInstanceAs (Decidable True)
  | .flattened id => inferInstanceAs (Decidable (id < index.size))

end Request

/-! ## Single steps -/

/-- The step that a bucket change takes. -/
def Request.change (site : Site β) : Request β → Option (Site β × Stage β)
  | .register id priority listener =>
      some (site.update id fun node => node.add priority listener, .marking [] [.bump id])
  | .unregisterAll id listeners =>
      some (site.update id fun node => node.removeAll listeners,
        .marking (site.index.entriesWith id listeners)
          (if (site.index.entriesWith id listeners).isEmpty then [] else [.bump id]))
  | _ => none

/-- The step that an errand takes, and the errands that it leads to. -/
def Errand.perform (site : Site β) : Errand → Site β × List Errand
  | .bump id => (site.update id Node.invalidate, [.spread id])
  | .spread id => (site, (site.index.childrenOf id).map .visit)
  | .visit id => (site, if id < site.index.size then [.bump id] else [])

/-- The step that looking for the node of a kind takes. -/
def seek (site : Site β) (waiting : List Kind) (kind : Kind) : Stage β :=
  match site.index.lookup? kind.id with
  | some id => .handOver id waiting
  | none =>
      match kind with
      | .root _ => .queuing ⟨kind, none, waiting⟩
      | .child own parent =>
          match Index.brokenAncestor? parent with
          | some ancestor =>
              .answered (.error (.brokenAbstractChain own.name parent.name ancestor.name))
          | none => .seeking parent (kind :: waiting)

/-- The step that looks once more whether somebody has made the node. -/
def Making.check (site : Site β) (making : Making) : Site β × Stage β :=
  match site.index.lookup? making.kind.id with
  | some id => ({ site with finalizing := false }, .handOver id making.waiting)
  | none => (site, .linking making site.index.snapshot)

/-- The step that reading a node takes. -/
def Reading.advance (site : Site β) (id : Nat) (node : Node β) (below : List (Nat × Nat)) :
    Reading β → Option (Site β × Stage β)
  | .start => some (site, .reading id (.loaded node.cache) below)
  | .loaded cache =>
      some (site, if cache.generation = node.generation then .deliver cache below
        else .reading id .stale below)
  | .stale =>
      if id ∈ site.rebuilding then none else some (site.lock id, .reading id .locked below)
  | .locked => some (site, .reading id (.captured node.generation) below)
  | .captured generation =>
      some (if node.cache.generation = generation then
          (site.unlock id, .deliver node.cache below)
        else (site, .reading id (.climbing generation) below))
  | .climbing generation =>
      some (site, match node.parent?.filter (· < site.index.size) with
        | some parent => .reading parent .start ((id, generation) :: below)
        | none => .reading id (.inheriting generation none) below)
  | .inheriting generation inherited? =>
      some (site, .reading id
        (.storing ({ node with generation := generation }.flatten site.index.tracksPhases
          inherited?)) below)
  | .storing array =>
      some ((site.update id fun node => { node with cache := array }).unlock id,
        .deliver array below)

/-- The next step of a task, unless it has returned or waits for a lock. -/
def Task.advance (site : Site β) (task : Task β) : Option (Site β × Stage β) :=
  match task.stage with
  | .changing => task.request.change site
  | .marking _ [] => none
  | .marking taken (errand :: rest) =>
      some ((errand.perform site).1, .marking taken ((errand.perform site).2 ++ rest))
  | .seeking kind waiting => some (site, seek site waiting kind)
  | .queuing making =>
      if site.finalizing then none else some ({ site with finalizing := true }, .checking making)
  | .checking making => some (making.check site)
  | .linking making seen =>
      some ({ site with index := site.index.link making.parent? seen.size },
        .publishing making seen)
  | .publishing making seen =>
      some ({ site with
          index := site.index.publish seen making.kind making.parent?
          finalizing := false },
        .handOver seen.size making.waiting)
  | .answered _ => none
  | .reading id reading below =>
      match site.index.node? id with
      | some node => reading.advance site id node below
      | none => none
  | .read _ => none

/-! ## Many tasks -/

/-- The listener lists with the tasks that are at work on them. -/
structure Crowd (β : Type) where
  site : Site β
  /-- All tasks so far, in the order in which they began. -/
  tasks : List (Task β)

namespace Crowd

/-- Nobody has done anything yet. -/
def empty (tracksPhases : Bool) : Crowd β := ⟨⟨.empty tracksPhases, false, []⟩, []⟩

/-- A task begins, or one of the tasks takes its next step. -/
inductive Step : Crowd β → Crowd β → Prop
  | begin (crowd : Crowd β) {request : Request β} :
      request.IsFor crowd.site.index →
      Step crowd ⟨crowd.site, crowd.tasks ++ [⟨request, request.firstStage⟩]⟩
  | advance {crowd : Crowd β} {number : Nat} {task : Task β} {later : Site β} {next : Stage β} :
      crowd.tasks[number]? = some task →
      task.advance crowd.site = some (later, next) →
      Step crowd ⟨later, crowd.tasks.set number ⟨task.request, next⟩⟩

/-- Steps one after the other, of whichever tasks. -/
abbrev Run : Crowd β → Crowd β → Prop := Relation.ReflTransGen Step

/-- What some tasks, begun and interleaved in any way, have come to. -/
def Reachable (crowd : Crowd β) : Prop := ∃ tracksPhases, Run (.empty tracksPhases) crowd

end Crowd
end EventRelay
