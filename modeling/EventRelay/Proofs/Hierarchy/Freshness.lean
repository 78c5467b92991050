import EventRelay.Proofs.Hierarchy.Buckets
import EventRelay.Proofs.Hierarchy.Reachable

/-!
# Exact invalidation

A change of the listeners of a node makes the node and everything below it one generation later,
and no other node. In return a read rebuilds exactly what is stale on the way from the root to
the node that is read: each of these nodes once, and each after those above it.

Both directions rest on one fact that holds in all reachable indices: what stands below a stale
node is stale. So a read may stop going up at the first node that is not stale.
-/

namespace EventRelay
namespace Index

variable {β : Type}

/-- Generation of the node with a number. -/
def generation? (index : Index β) (id : Nat) : Option Nat :=
  (index.node? id).map Node.generation

/-- The cache of the node with a number is out of date. -/
def isStaleAt (index : Index β) (id : Nat) : Bool := (index.node? id).any Node.isStale

/-- A node and all nodes below it are one generation later than before, and no others are. -/
def Bumps (index later : Index β) (id : Nat) : Prop :=
  ∀ other, later.generation? other =
    if id ∈ index.lineage other then (index.generation? other).map (· + 1)
    else index.generation? other

/-- A bucket of the node has an entry with one of the identities. -/
def Holds (index : Index β) (id : Nat) (listeners : List ListenerId) : Prop :=
  ∃ priority, ∃ entry ∈ index.ownAt id priority, entry.id ∈ listeners

/-- The stale nodes on the way from the root to a node, the outermost first. -/
def stalePath (index : Index β) (id : Nat) : List Nat :=
  (index.lineage id).reverse.filter index.isStaleAt

/-- Reads a node step by step: a stale one is rebuilt after its parent has been read in the same
way. The nodes that are rebuilt are recorded in the order in which this happens. -/
def read (index : Index β) (id : Nat) : Index β × List Nat :=
  match index.node? id with
  | none => (index, [])
  | some node =>
      if node.isStale then
        let above := match node.parent? with
          | some parent => if _ : parent < id then index.read parent else (index, [])
          | none => (index, [])
        (above.1.rebuild id, above.2 ++ [id])
      else (index, [])
termination_by id

/-! ## Changes -/

theorem holdsAny_iff
    {index : Index β}
    {id : Nat}
    {listeners : List ListenerId} :
    index.holdsAny id listeners = true ↔ index.Holds id listeners := by
  unfold holdsAny Holds ownAt
  cases index.node? id with
  | none => simp
  | some node =>
      simp [Node.containsAny, Bucket.containsAny, List.any_eq_true, Priority.mem_all]

theorem isStaleAt_of_node?
    {index : Index β}
    {id : Nat}
    {node : Node β}
    (present : index.node? id = some node) :
    index.isStaleAt id = node.isStale := by
  rw [isStaleAt, present, Option.any_some]

/-- A change of one node that does not count as one, followed by the invalidation of that node,
is counted once at the node and below it. -/
theorem Arena.bumps
    {index : Index β}
    (arena : index.Arena)
    (change : Node β → Node β)
    (keepsFrame : ∀ node, (change node).frame = node.frame)
    (keepsGeneration : ∀ node, (change node).generation = node.generation)
    (id : Nat) :
    index.Bumps ((index.update id change).invalidate id) id := by
  intro other
  have changedFrame := frame_update keepsFrame index id
  have sameGeneration : ((index.update id change).node? other).map Node.generation =
      (index.node? other).map Node.generation := by
    rw [node?_update]
    split
    · cases index.node? other with
      | none => rfl
      | some node => exact congrArg some (keepsGeneration node)
    · rfl
  rw [generation?, generation?, (arena.of_frame_eq changedFrame).node?_invalidate,
    lineage_of_frame_eq changedFrame, ← sameGeneration]
  split
  · rw [Option.map_map, Option.map_map]
    rfl
  · rfl

namespace Coherent

variable {index : Index β}

theorem bumps_register
    (coherent : index.Coherent)
    (id : Nat)
    (priority : Priority)
    (listener : Listener β) :
    index.Bumps (index.register id priority listener) id :=
  coherent.arena.bumps (fun node => node.add priority listener) (fun _ => rfl) (fun _ => rfl) id

theorem bumps_unregister
    (coherent : index.Coherent)
    {id : Nat}
    {listener : ListenerId}
    (holds : index.Holds id [listener]) :
    index.Bumps (index.unregister id listener) id := by
  rw [Index.unregister, if_pos (holdsAny_iff.mpr holds)]
  refine coherent.arena.bumps _ (fun node => node.frame_remove listener) (fun node => ?_) id
  unfold Node.remove
  split <;> rfl

theorem bumps_unregisterAll
    (coherent : index.Coherent)
    {id : Nat}
    {listeners : List ListenerId}
    (holds : index.Holds id listeners) :
    index.Bumps (index.unregisterAll id listeners) id := by
  rw [Index.unregisterAll, if_pos (holdsAny_iff.mpr holds)]
  exact coherent.arena.bumps (fun node => node.removeAll listeners) (fun _ => rfl) (fun _ => rfl) id

end Coherent

theorem unregister_of_not_holds
    {index : Index β}
    {id : Nat}
    {listener : ListenerId}
    (free : ¬ index.Holds id [listener]) :
    index.unregister id listener = index := by
  rw [unregister, if_neg (mt holdsAny_iff.mp free)]

theorem unregisterAll_of_not_holds
    {index : Index β}
    {id : Nat}
    {listeners : List ListenerId}
    (free : ¬ index.Holds id listeners) :
    index.unregisterAll id listeners = index := by
  rw [unregisterAll, if_neg (mt holdsAny_iff.mp free)]

/-! ## What is stale -/

namespace Coherent

variable {index : Index β}

/-- What stands below a stale node is stale. -/
theorem isStaleAt_of_mem_lineage
    (coherent : index.Coherent)
    {id ancestor : Nat}
    (above : ancestor ∈ index.lineage id)
    (stale : index.isStaleAt ancestor = true) :
    index.isStaleAt id = true := by
  refine coherent.arena.lineage_induction ?_ ?_ above
  · intro node _
    exact stale
  · intro id node parent present link _ parentStale
    obtain ⟨parentNode, parentPresent⟩ := coherent.arena.exists_parent present link
    rw [isStaleAt_of_node? parentPresent] at parentStale
    rw [isStaleAt_of_node? present, ← Bool.not_eq_false]
    intro fresh
    rw [coherent.parent_fresh present fresh link parentPresent] at parentStale
    cases parentStale

/-- Going up only as long as nodes are stale misses no stale node. -/
theorem staleChain_eq_stalePath
    (coherent : index.Coherent)
    (id : Nat) :
    index.staleChain id = index.stalePath id := by
  induction id using Nat.strongRecOn with
  | ind id inductionHypothesis =>
      cases present : index.node? id with
      | none =>
          rw [staleChain, stalePath, lineage, present]
          rfl
      | some node =>
          cases stale : node.isStale with
          | false =>
              have nothing : index.stalePath id = [] := by
                refine List.filter_eq_nil_iff.mpr fun ancestor above isStale => ?_
                have below := coherent.isStaleAt_of_mem_lineage (List.mem_reverse.mp above) isStale
                rw [isStaleAt_of_node? present, stale] at below
                cases below
              rw [nothing, staleChain, present]
              simp [stale]
          | true =>
              have staleHere : index.isStaleAt id = true := by
                rw [isStaleAt_of_node? present, stale]
              rw [staleChain, present, stalePath]
              cases link : node.parent? with
              | none => simp [stale, link, lineage_eq_singleton present link, staleHere]
              | some parent =>
                  have below := coherent.arena.parent_lt present link
                  have higher := inductionHypothesis parent below
                  rw [stalePath] at higher
                  simp [stale, link, below, higher, coherent.arena.lineage_eq_cons present link,
                    staleHere]

end Coherent

/-! ## Reading -/

/-- What is rebuilt step by step is what a read rebuilds. -/
theorem read_eq
    (index : Index β)
    (id : Nat) :
    index.read id = (index.refresh id, index.staleChain id) := by
  induction id using Nat.strongRecOn with
  | ind id inductionHypothesis =>
      rw [read, refresh, staleChain]
      cases present : index.node? id with
      | none => rfl
      | some node =>
          cases stale : node.isStale with
          | false => simp [stale]
          | true =>
              cases link : node.parent? with
              | none => simp [stale, link]
              | some parent =>
                  by_cases below : parent < id
                  · simp [stale, link, below, inductionHypothesis parent below, refresh]
                  · simp [stale, link, below]

theorem node?_foldl_rebuild
    (ids : List Nat)
    (index : Index β)
    {other : Nat}
    (apart : other ∉ ids) :
    (ids.foldl rebuild index).node? other = index.node? other := by
  induction ids generalizing index with
  | nil => rfl
  | cons first rest inductionHypothesis =>
      rw [List.mem_cons, not_or] at apart
      rw [List.foldl_cons, inductionHypothesis _ apart.2, rebuild_eq_update, node?_update,
        if_neg (Ne.symm apart.1)]

/-- Only nodes with smaller numbers are rebuilt before a node. -/
theorem le_of_mem_staleChain
    {index : Index β}
    {id other : Nat}
    (isStale : other ∈ index.staleChain id) :
    other ≤ id := by
  induction id using Nat.strongRecOn with
  | ind id inductionHypothesis =>
      rw [staleChain] at isStale
      split at isStale
      case h_1 => cases isStale
      case h_2 node present =>
        split at isStale
        case isFalse => cases isStale
        case isTrue =>
          rcases List.mem_append.mp isStale with higher | here
          · split at higher
            case h_1 parent link =>
              split at higher
              case isTrue lower =>
                exact Nat.le_trans (inductionHypothesis parent lower higher) (Nat.le_of_lt lower)
              case isFalse => cases higher
            case h_2 => cases higher
          · exact Nat.le_of_eq (List.mem_singleton.mp here)

/-- Reading a node leaves those with greater numbers as they are. -/
theorem node?_refresh_of_lt
    (index : Index β)
    {id other : Nat}
    (greater : id < other) :
    (index.refresh id).node? other = index.node? other :=
  node?_foldl_rebuild _ index fun isStale => Nat.not_lt.mpr (le_of_mem_staleChain isStale) greater

/-- On the way up from a node, everything stands above what comes before it. -/
theorem Arena.pairwise_lineage
    {index : Index β}
    (arena : index.Arena)
    (id : Nat) :
    (index.lineage id).Pairwise fun below above =>
      above < below ∧ above ∈ index.lineage below := by
  induction id using Nat.strongRecOn with
  | ind id inductionHypothesis =>
      cases present : index.node? id with
      | none =>
          rw [lineage, present]
          exact List.Pairwise.nil
      | some node =>
          cases link : node.parent? with
          | none => simp [lineage_eq_singleton present link]
          | some parent =>
              have below := arena.parent_lt present link
              rw [arena.lineage_eq_cons present link]
              refine List.pairwise_cons.mpr ⟨fun above higher => ⟨?_, ?_⟩,
                inductionHypothesis parent below⟩
              · exact Nat.lt_of_le_of_lt (arena.le_of_mem_lineage higher) below
              · exact arena.mem_lineage_of_parent present link higher

/-- Reading a node rebuilds what is stale on the way to it and does nothing else. -/
structure ReadsExactly (index : Index β) (id : Nat) : Prop where
  /-- The stale nodes on the way are rebuilt, in order, and this is all that happens. -/
  read_eq : index.read id = ((index.flattened id).1, index.stalePath id)
  /-- None of them is rebuilt twice. -/
  once : (index.stalePath id).Nodup
  /-- Each of them is rebuilt after those that stand above it. -/
  ordered : (index.stalePath id).Pairwise fun first second => first ∈ index.lineage second
  /-- Nothing on the way is stale any more. -/
  fresh : ∀ ancestor ∈ index.lineage id, (index.flattened id).1.isStaleAt ancestor = false
  /-- All other nodes are left alone. -/
  others : ∀ other, other ∉ index.stalePath id →
    (index.flattened id).1.node? other = index.node? other
  /-- If the node is not stale, its cache is handed out and nothing is rebuilt. -/
  cached : index.isStaleAt id = false →
    index.stalePath id = [] ∧ index.flattened id = (index, index.cacheOf id)

namespace Coherent

variable {index : Index β}

theorem fresh_refresh
    (coherent : index.Coherent)
    {id ancestor : Nat}
    (above : ancestor ∈ index.lineage id) :
    (index.refresh id).isStaleAt ancestor = false := by
  obtain ⟨freshCoherent, isFresh⟩ := coherent.refresh id
  rw [← lineage_of_frame_eq (frame_refresh index id)] at above
  rw [← Bool.not_eq_true]
  intro stale
  have staleBelow := freshCoherent.isStaleAt_of_mem_lineage above stale
  rw [isStaleAt, Option.any_eq_true] at staleBelow
  obtain ⟨node, present, isStale⟩ := staleBelow
  rw [isFresh node present] at isStale
  cases isStale

theorem readsExactly
    (coherent : index.Coherent)
    (id : Nat) :
    index.ReadsExactly id := by
  have chain := coherent.staleChain_eq_stalePath id
  have descending := (List.pairwise_reverse.mpr (coherent.arena.pairwise_lineage id)).filter
    index.isStaleAt
  constructor
  case read_eq => rw [Index.read_eq, chain, flattened]
  case once => exact descending.imp fun step => Nat.ne_of_lt step.1
  case ordered => exact descending.imp And.right
  case fresh => exact fun ancestor above => coherent.fresh_refresh above
  case others =>
    intro other apart
    rw [← chain] at apart
    exact node?_foldl_rebuild _ index apart
  case cached =>
    intro fresh
    have nothing : index.staleChain id = [] := by
      rw [staleChain]
      cases present : index.node? id with
      | none => rfl
      | some node =>
          rw [isStaleAt_of_node? present] at fresh
          simp [fresh]
    have unchanged : index.refresh id = index := by
      rw [Index.refresh, nothing, List.foldl_nil]
    rw [← chain, flattened, unchanged]
    exact ⟨nothing, rfl⟩

end Coherent

namespace Reachable

variable {index : Index β}

/-- In a reachable index, adding a listener to a node, and removing any that it holds, makes
the node and everything below it one generation later and no other node; removing what the node
does not hold changes nothing at all. Whatever stands below a stale node is stale. Reading a
node rebuilds exactly the stale nodes on the way to it. -/
theorem invalidates_exactly (reachable : index.Reachable) :
    (∀ id priority listener, index.Bumps (index.register id priority listener) id) ∧
      (∀ id listener,
        (index.Holds id [listener] → index.Bumps (index.unregister id listener) id) ∧
          (¬ index.Holds id [listener] → index.unregister id listener = index)) ∧
      (∀ id listeners,
        (index.Holds id listeners → index.Bumps (index.unregisterAll id listeners) id) ∧
          (¬ index.Holds id listeners → index.unregisterAll id listeners = index)) ∧
      (∀ id ancestor, ancestor ∈ index.lineage id → index.isStaleAt ancestor = true →
        index.isStaleAt id = true) ∧
      ∀ id, index.ReadsExactly id := by
  have coherent := reachable.coherent
  exact ⟨coherent.bumps_register,
    fun _ _ => ⟨coherent.bumps_unregister, unregister_of_not_holds⟩,
    fun _ _ => ⟨coherent.bumps_unregisterAll, unregisterAll_of_not_holds⟩,
    fun _ _ => coherent.isStaleAt_of_mem_lineage, coherent.readsExactly⟩

/-- The second listener for alarms has made both caches stale. One more listener for drills
leaves the alarms' generation as it is, and a read of the drills' node rebuilds both nodes. -/
theorem invalidates_exactly_lateDrill :
    lateDrill.Reachable ∧
      (∀ listener, (lateDrill.register 1 .low listener).generation? 0 = lateDrill.generation? 0 ∧
        (lateDrill.register 1 .low listener).generation? 1 =
          (lateDrill.generation? 1).map (· + 1)) ∧
      lateDrill.read 1 = ((lateDrill.flattened 1).1, [0, 1]) ∧
      (lateDrill.flattened 1).1.isStaleAt 0 = false := by
  obtain ⟨registers, -, -, -, reads⟩ := invalidates_exactly reachable_lateDrill
  have ofAlarms : lateDrill.lineage 0 = [0] := by decide +kernel
  have ofDrills : lateDrill.lineage 1 = [1, 0] := by decide +kernel
  have path : lateDrill.stalePath 1 = [0, 1] := by decide +kernel
  refine ⟨reachable_lateDrill, fun listener => ⟨?_, ?_⟩, ?_, ?_⟩
  · simpa [ofAlarms] using registers 1 .low listener 0
  · simpa [ofDrills] using registers 1 .low listener 1
  · rw [(reads 1).read_eq, path]
  · exact (reads 1).fresh 0 (by simp [ofDrills])

end Reachable
end Index
end EventRelay
