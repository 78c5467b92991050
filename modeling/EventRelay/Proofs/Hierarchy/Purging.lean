import EventRelay.Proofs.Hierarchy.Freshness

/-!
# Exact removal

Purging goes over all nodes. What it comes to can be said of each node without the others: the
node keeps its entries but for the purged ones, and it becomes later by one generation for each
node on the way up from it, itself included, that has lost something. A node on whose way up
nothing has been lost is left alone altogether.
-/

namespace EventRelay

variable {β : Type}

namespace Node

/-- The node some generations later. -/
def raised (node : Node β) (generations : Nat) : Node β :=
  { node with generation := node.generation + generations }

@[simp] theorem raised_zero (node : Node β) : node.raised 0 = node := rfl

@[simp] theorem raised_raised
    (node : Node β)
    (first second : Nat) :
    (node.raised first).raised second = node.raised (first + second) := by
  simp only [raised, Nat.add_assoc]

@[simp] theorem removeAll_raised
    (node : Node β)
    (generations : Nat)
    (listeners : List ListenerId) :
    (node.raised generations).removeAll listeners =
      (node.removeAll listeners).raised generations := rfl

/-- Removing what is not there changes nothing. -/
theorem removeAll_of_not_containsAny
    {node : Node β}
    {listeners : List ListenerId}
    (free : node.containsAny listeners = false) :
    node.removeAll listeners = node := by
  rw [containsAny, List.any_eq_false] at free
  have sameBuckets : (node.buckets.map fun bucket => bucket.removeAll listeners) =
      node.buckets := by
    refine PerPriority.ext_get fun priority => ?_
    have absent := free priority (Priority.mem_all priority)
    rw [Bucket.containsAny, List.any_eq_true] at absent
    rw [PerPriority.get_map, Bucket.removeAll, List.filter_eq_self.mpr fun entry isEntry => ?_]
    simpa using fun isListed => absent ⟨entry, isEntry, by simpa using isListed⟩
  rw [removeAll, sameBuckets]

end Node

namespace Index

/-- The nodes on the way up from a node that hold one of the listeners. -/
def losers (index : Index β) (listeners : List ListenerId) (id : Nat) : List Nat :=
  (index.lineage id).filter fun above => index.holdsAny above listeners

variable {index : Index β} {listeners : List ListenerId} {id first above : Nat}

theorem mem_losers_iff :
    above ∈ index.losers listeners id ↔ above ∈ index.lineage id ∧ index.Holds above listeners := by
  rw [losers, List.mem_filter, holdsAny_iff]

theorem removeAll_of_not_holds
    {node : Node β}
    (present : index.node? id = some node)
    (free : ¬ index.Holds id listeners) :
    node.removeAll listeners = node := by
  refine Node.removeAll_of_not_containsAny ?_
  rw [← holdsAny_iff, holdsAny, present, Option.any_some] at free
  exact Bool.eq_false_iff.mpr free

/-- What one node loses does not matter for what the others hold. -/
theorem mem_losers_unregisterAll
    (apart : first ≠ above) :
    above ∈ (index.unregisterAll first listeners).losers listeners id ↔
      above ∈ index.losers listeners id := by
  have sameHolds : (index.unregisterAll first listeners).Holds above listeners ↔
      index.Holds above listeners := by
    simp only [Holds, ownAt_unregisterAll, if_neg apart]
  rw [mem_losers_iff, mem_losers_iff, sameHolds,
    lineage_of_frame_eq (frame_unregisterAll index first listeners)]

namespace Arena

/-- Removing listeners from a node makes what stands below it one generation later, if there are
any to remove. -/
theorem node?_unregisterAll
    (arena : index.Arena)
    (first : Nat)
    (listeners : List ListenerId)
    (id : Nat) :
    (index.unregisterAll first listeners).node? id = (index.node? id).map fun node =>
      (if first = id then node.removeAll listeners else node).raised
        (if first ∈ index.losers listeners id then 1 else 0) := by
  by_cases holds : index.Holds first listeners
  case pos =>
    have changed (node : Node β) := node.frame_removeAll listeners
    have sameFrame := frame_update changed index first
    have lost : first ∈ index.losers listeners id ↔ first ∈ index.lineage id := by
      rw [mem_losers_iff, and_iff_left holds]
    rw [unregisterAll, if_pos (holdsAny_iff.mpr holds),
      (arena.of_frame_eq sameFrame).node?_invalidate, lineage_of_frame_eq sameFrame, node?_update]
    simp only [lost]
    cases index.node? id with
    | none => simp
    | some node => split <;> split <;> rfl
  case neg =>
    have nothing : first ∉ index.losers listeners id :=
      fun isLoser => holds (mem_losers_iff.mp isLoser).2
    rw [unregisterAll_of_not_holds holds]
    cases present : index.node? id with
    | none => rfl
    | some node =>
        simp only [Option.map_some, nothing, if_false, Node.raised_zero]
        split
        case isTrue same =>
          subst same
          rw [removeAll_of_not_holds present holds]
        case isFalse => rfl

/-- Each node of a list counts once for what stands below it, if it holds one of the listeners. -/
theorem node?_foldl_unregisterAll
    (arena : index.Arena)
    (listeners : List ListenerId)
    (ids : List Nat)
    (distinct : ids.Nodup)
    (id : Nat) :
    (ids.foldl (fun current other => current.unregisterAll other listeners) index).node? id =
      (index.node? id).map fun node =>
        (if id ∈ ids then node.removeAll listeners else node).raised
          (ids.filter (· ∈ index.losers listeners id)).length := by
  induction ids generalizing index with
  | nil => simp
  | cons first rest inductionHypothesis =>
      obtain ⟨firstFresh, restDistinct⟩ := List.nodup_cons.mp distinct
      have sameFrame := frame_unregisterAll index first listeners
      have sameLosers : rest.filter
            (· ∈ (index.unregisterAll first listeners).losers listeners id) =
          rest.filter (· ∈ index.losers listeners id) := by
        refine List.filter_congr fun above isLater => ?_
        have apart : first ≠ above := fun same => firstFresh (same ▸ isLater)
        rw [decide_eq_decide, mem_losers_unregisterAll apart]
      rw [List.foldl_cons, inductionHypothesis (arena.of_frame_eq sameFrame) restDistinct,
        sameLosers, arena.node?_unregisterAll, Option.map_map]
      refine congrArg (fun change => (index.node? id).map change) (funext fun node => ?_)
      rw [List.filter_cons]
      by_cases isFirst : first = id
      · subst isFirst
        by_cases loses : first ∈ index.losers listeners first <;>
          simp [firstFresh, loses, Nat.add_comm]
      · by_cases loses : first ∈ index.losers listeners id <;>
          by_cases isLater : id ∈ rest <;>
          simp [isFirst, Ne.symm isFirst, loses, isLater, Nat.add_comm]

/-- On the way up from a node each node is passed once, and is one of those that there are. -/
theorem perm_losers
    (arena : index.Arena)
    (listeners : List ListenerId)
    (id : Nat) :
    ((List.range index.size).filter (· ∈ index.losers listeners id)).Perm
      (index.losers listeners id) := by
  have apart : (index.losers listeners id).Nodup :=
    ((arena.pairwise_lineage id).imp fun step => Nat.ne_of_gt step.1).filter _
  refine (List.perm_ext_iff_of_nodup (List.nodup_range.filter _) apart).mpr fun above => ?_
  rw [List.mem_filter, decide_eq_true_iff, and_iff_right_iff_imp, List.mem_range]
  intro isLoser
  obtain ⟨_, isPresent⟩ := arena.exists_of_mem_lineage (mem_losers_iff.mp isLoser).1
  exact node?_lt_size isPresent

/-- Purging removes the listeners from each node and makes it later by one generation for each
node on the way up from it that holds any. -/
theorem node?_purge
    (arena : index.Arena)
    (listeners : List ListenerId)
    (id : Nat) :
    (index.purge listeners).node? id = (index.node? id).map fun node =>
      (node.removeAll listeners).raised (index.losers listeners id).length := by
  rw [purge, arena.node?_foldl_unregisterAll listeners _ List.nodup_range]
  cases present : index.node? id with
  | none => rfl
  | some node =>
      rw [Option.map_some, Option.map_some, if_pos (List.mem_range.mpr (node?_lt_size present)),
        (arena.perm_losers listeners id).length_eq]

/-- A node is left alone if nothing is lost on the way up from it. -/
theorem node?_purge_of_losers_eq_nil
    (arena : index.Arena)
    (nothing : index.losers listeners id = []) :
    (index.purge listeners).node? id = index.node? id := by
  rw [arena.node?_purge, nothing]
  cases present : index.node? id with
  | none => rfl
  | some node =>
      have free : ¬ index.Holds id listeners := by
        intro holds
        have isLoser := mem_losers_iff.mpr ⟨self_mem_lineage present, holds⟩
        rw [nothing] at isLoser
        cases isLoser
      rw [Option.map_some, removeAll_of_not_holds present free]
      rfl

end Arena
end Index
end EventRelay
