import EventRelay.Proofs.Hierarchy.Tree
import EventRelay.Proofs.Interleaving.Nodes

/-!
# The tree in the midst of an operation

While an operation is under way, some listeners have been changed already, some generations have
been counted up and some caches rebuilt, and a parent may list a child that is not published yet.
None of this changes which nodes stand above and below which others, how deep they lie, and how
high the tree below them is.
-/

namespace EventRelay
namespace Index

variable {β : Type}

/-- Number of nodes above a node, as the node itself has kept it. -/
def depthOf (index : Index β) (id : Nat) : Nat :=
  ((index.node? id).map fun node => node.info.depth).getD 0

/-- How much deeper than a node the deepest node below it lies. -/
def height (index : Index β) (id : Nat) : Nat :=
  (((List.range index.size).filter (id ∈ index.lineage ·)).map fun low =>
    index.depthOf low - index.depthOf id).max?.getD 0

/-- An operation is under way on an index: listeners, generations and caches may be any, and a
node may list the next child before this is published. Tasks at work on the listener lists bring
about nothing else (`Crowd.Reachable.exists_underWay`). -/
def UnderWay (settled current : Index β) : Prop :=
  ∃ parent?, current.frame = (settled.link parent? settled.size).frame

theorem depthOf_of_node?
    {index : Index β}
    {id : Nat}
    {node : Node β}
    (present : index.node? id = some node) :
    index.depthOf id = node.info.depth := by
  rw [depthOf, present, Option.map_some, Option.getD_some]

theorem lineage_of_node?_eq_none
    {index : Index β}
    {id : Nat}
    (absent : index.node? id = none) :
    index.lineage id = [] := by
  rw [lineage, absent]

theorem lineage_eq_cons_tail
    {index : Index β}
    {id : Nat}
    {node : Node β}
    (present : index.node? id = some node) :
    index.lineage id = id :: (index.lineage id).tail := by
  rw [lineage_of_node? present, List.tail_cons]

theorem subtree_of_node?_eq_none
    {index : Index β}
    {id : Nat}
    (absent : index.node? id = none) :
    index.subtree id = [] := by
  rw [subtree, absent]

/-- A node below another one lies at most as much deeper as the tree is high. -/
theorem depthOf_le
    {index : Index β}
    {id low : Nat}
    (above : id ∈ index.lineage low) :
    index.depthOf low ≤ index.depthOf id + index.height id := by
  have published : low < index.size := by
    cases present : index.node? low with
    | none =>
        rw [lineage_of_node?_eq_none present] at above
        cases above
    | some node => exact node?_lt_size present
  have isBelow : low ∈ (List.range index.size).filter (id ∈ index.lineage ·) :=
    List.mem_filter.mpr ⟨List.mem_range.mpr published, decide_eq_true above⟩
  exact Nat.sub_le_iff_le_add'.mp (List.le_max?_getD_of_mem (List.mem_map_of_mem isBelow))

namespace Arena

variable {index : Index β}

/-- What a node has kept as its depth is right. -/
theorem length_lineage
    (arena : index.Arena)
    {id : Nat}
    {node : Node β}
    (present : index.node? id = some node) :
    (index.lineage id).length = index.depthOf id + 1 := by
  induction id using Nat.strongRecOn generalizing node with
  | ind id inductionHypothesis =>
      rw [depthOf_of_node? present, arena.info_eq present]
      cases link : node.parent? with
      | none =>
          rw [lineage_eq_singleton present link]
          rfl
      | some parent =>
          obtain ⟨above, abovePresent⟩ := arena.exists_parent present link
          rw [arena.lineage_eq_cons present link, List.length_cons,
            inductionHypothesis parent (arena.parent_lt present link) abovePresent,
            depthOf_of_node? abovePresent, Option.bind_some, abovePresent]
          rfl

theorem depthOf_of_parent
    (arena : index.Arena)
    {id parent : Nat}
    {node : Node β}
    (present : index.node? id = some node)
    (link : node.parent? = some parent) :
    index.depthOf id = index.depthOf parent + 1 := by
  obtain ⟨above, abovePresent⟩ := arena.exists_parent present link
  have length := arena.length_lineage present
  rw [arena.lineage_eq_cons present link, List.length_cons,
    arena.length_lineage abovePresent] at length
  exact (Nat.succ.inj length).symm

/-- What stands above a node on the way up from another one is all that stands above it. -/
theorem lineage_of_append
    (arena : index.Arena)
    {id ancestor : Nat}
    {below above : List Nat}
    (way : index.lineage id = below ++ ancestor :: above) :
    index.lineage ancestor = ancestor :: above := by
  induction below generalizing id with
  | nil =>
      cases present : index.node? id with
      | none =>
          rw [lineage_of_node?_eq_none present] at way
          cases way
      | some node =>
          obtain rfl : id = ancestor :=
            (List.cons.inj ((lineage_eq_cons_tail present).symm.trans way)).1
          exact way
  | cons low below inductionHypothesis =>
      cases present : index.node? id with
      | none =>
          rw [lineage_of_node?_eq_none present] at way
          cases way
      | some node =>
          cases link : node.parent? with
          | none =>
              rw [lineage_eq_singleton present link] at way
              exact absurd (List.cons.inj way).2.symm (List.append_ne_nil_of_right_ne_nil _ nofun)
          | some parent =>
              rw [arena.lineage_eq_cons present link] at way
              exact inductionHypothesis (List.cons.inj way).2

end Arena

namespace UnderWay

variable {settled current : Index β}

theorem refl (index : Index β) : index.UnderWay index := ⟨none, rfl⟩

theorem of_frame_eq
    (underWay : settled.UnderWay current)
    {later : Index β}
    (sameFrame : later.frame = current.frame) :
    settled.UnderWay later := by
  obtain ⟨parent?, linked⟩ := underWay
  exact ⟨parent?, sameFrame.trans linked⟩

theorem size_eq (underWay : settled.UnderWay current) : current.size = settled.size := by
  obtain ⟨parent?, linked⟩ := underWay
  rw [size_of_frame_eq linked]
  exact congrArg Snapshot.size (snapshot_link ..)

/-- A node has its parent and its facts, and its children up to the next one. -/
theorem exists_settled
    (underWay : settled.UnderWay current)
    {id : Nat}
    {node : Node β}
    (present : current.node? id = some node) :
    ∃ before, settled.node? id = some before ∧ node.parent? = before.parent? ∧
      node.info = before.info ∧ ∃ unpublished, node.children = before.children ++ unpublished ∧
        ∀ child ∈ unpublished, child = settled.size := by
  obtain ⟨parent?, linked⟩ := underWay
  obtain ⟨between, isBetween, sameFrame⟩ := exists_of_frame_eq linked present
  have sameParent : between.parent? = node.parent? :=
    congrArg (fun frame => frame.2.2.1) sameFrame
  have sameInfo : between.info = node.info := congrArg (fun frame => frame.2.2.2.1) sameFrame
  have sameChildren : between.children = node.children :=
    congrArg (fun frame => frame.2.2.2.2) sameFrame
  rw [← sameParent, ← sameInfo, ← sameChildren]
  rw [node?_link] at isBetween
  split at isBetween
  case isTrue =>
    obtain ⟨before, wasPresent, rfl⟩ := Option.map_eq_some_iff.mp isBetween
    exact ⟨before, wasPresent, rfl, rfl, [settled.size], rfl, fun _ => List.mem_singleton.mp⟩
  case isFalse => exact ⟨between, isBetween, rfl, rfl, [], (List.append_nil _).symm, nofun⟩

theorem node?_eq_none_iff
    (underWay : settled.UnderWay current)
    {id : Nat} :
    current.node? id = none ↔ settled.node? id = none := by
  rw [node?, node?, List.getElem?_eq_none_iff, List.getElem?_eq_none_iff]
  exact iff_of_eq (congrArg (· ≤ id) underWay.size_eq)

theorem depthOf
    (underWay : settled.UnderWay current)
    (id : Nat) :
    current.depthOf id = settled.depthOf id := by
  cases present : current.node? id with
  | none => rw [Index.depthOf, Index.depthOf, present, underWay.node?_eq_none_iff.mp present]
  | some node =>
      obtain ⟨before, wasPresent, -, sameInfo, -⟩ := underWay.exists_settled present
      rw [depthOf_of_node? present, depthOf_of_node? wasPresent, sameInfo]

theorem lineage
    (arena : settled.Arena)
    (underWay : settled.UnderWay current)
    (id : Nat) :
    current.lineage id = settled.lineage id := by
  cases present : settled.node? id with
  | none =>
      rw [lineage_of_node?_eq_none present,
        lineage_of_node?_eq_none (underWay.node?_eq_none_iff.mpr present)]
  | some node =>
      obtain ⟨parent?, linked⟩ := underWay
      rw [lineage_of_frame_eq linked]
      exact (Ages.link settled parent? settled.size).lineage
        (fun isPresent link =>
          ⟨arena.parent_lt isPresent link, arena.parent_lt_size isPresent link⟩)
        (node?_lt_size present)

theorem height
    (arena : settled.Arena)
    (underWay : settled.UnderWay current)
    (id : Nat) :
    current.height id = settled.height id := by
  simp only [Index.height, underWay.size_eq, underWay.lineage arena, underWay.depthOf]

/-- The parent of a node is an older one, and the node lies one deeper. -/
theorem parent
    (arena : settled.Arena)
    (underWay : settled.UnderWay current)
    {id parent : Nat}
    {node : Node β}
    (present : current.node? id = some node)
    (link : node.parent? = some parent) :
    parent < id ∧ parent < current.size ∧ current.depthOf id = current.depthOf parent + 1 := by
  obtain ⟨before, wasPresent, sameParent, -⟩ := underWay.exists_settled present
  have wasLink : before.parent? = some parent := sameParent.symm.trans link
  rw [underWay.size_eq, underWay.depthOf, underWay.depthOf]
  exact ⟨arena.parent_lt wasPresent wasLink, arena.parent_lt_size wasPresent wasLink,
    arena.depthOf_of_parent wasPresent wasLink⟩

/-- A published child is one that the node always had. -/
theorem mem_children_of_lt
    (underWay : settled.UnderWay current)
    {id child : Nat}
    {node before : Node β}
    (present : current.node? id = some node)
    (wasPresent : settled.node? id = some before)
    (isChild : child ∈ node.children)
    (published : child < settled.size) :
    child ∈ before.children := by
  obtain ⟨same, isSame, -, -, unpublished, children, isNext⟩ := underWay.exists_settled present
  rw [wasPresent] at isSame
  cases isSame
  rw [children, List.mem_append] at isChild
  exact isChild.resolve_right fun isNew => Nat.ne_of_lt published (isNext child isNew)

/-- A child that is not published yet has nothing below it. -/
theorem flatMap_subtree
    (underWay : settled.UnderWay current)
    {id : Nat}
    {node before : Node β}
    (present : current.node? id = some node)
    (wasPresent : settled.node? id = some before) :
    node.children.flatMap settled.subtree = before.children.flatMap settled.subtree := by
  obtain ⟨same, isSame, -, -, unpublished, children, isNext⟩ := underWay.exists_settled present
  rw [wasPresent] at isSame
  cases isSame
  have nothing : unpublished.flatMap settled.subtree = [] := by
    refine List.flatMap_eq_nil_iff.mpr fun child isUnpublished => ?_
    rw [isNext child isUnpublished]
    exact subtree_of_node?_eq_none (node?_size settled)
  rw [children, List.flatMap_append, nothing, List.append_nil]

theorem subtree
    (arena : settled.Arena)
    (underWay : settled.UnderWay current)
    (id : Nat) :
    current.subtree id = settled.subtree id := by
  induction id using arena.induction_on_children with
  | step id inductionHypothesis =>
      cases present : current.node? id with
      | none =>
          rw [subtree_of_node?_eq_none present,
            subtree_of_node?_eq_none (underWay.node?_eq_none_iff.mp present)]
      | some node =>
          obtain ⟨before, wasPresent, -⟩ := underWay.exists_settled present
          rw [arena.subtree_eq wasPresent, ← underWay.flatMap_subtree present wasPresent,
            Index.subtree, present]
          refine congrArg (id :: ·) (List.flatMap_congr fun child isChild => ?_)
          by_cases published : child < settled.size
          · have isOld := underWay.mem_children_of_lt present wasPresent isChild published
            rw [dif_pos ⟨arena.lt_child wasPresent isOld, underWay.size_eq.symm ▸ published⟩]
            exact inductionHypothesis wasPresent isOld
          · rw [dif_neg fun inside => published (underWay.size_eq ▸ inside.2),
              subtree_of_node?_eq_none (List.getElem?_eq_none (Nat.le_of_not_lt published))]

end UnderWay
end Index
end EventRelay
