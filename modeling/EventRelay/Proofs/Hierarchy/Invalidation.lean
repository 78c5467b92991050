import EventRelay.Proofs.Hierarchy.Arena
import Mathlib.Data.List.Nodup

/-!
# Invalidation

Invalidating a node reaches exactly the nodes whose lineage contains it, and each of them
once: the generation of the node and of all of its descendants grows by one, and nothing
else changes.
-/

namespace EventRelay
namespace Index

variable {β : Type}

/-- Changing distinct nodes one after the other changes each of them once. -/
theorem node?_foldl_update
    (change : Node β → Node β)
    (ids : List Nat)
    (distinct : ids.Nodup)
    (index : Index β)
    (id : Nat) :
    (ids.foldl (fun current other => current.update other change) index).node? id =
      if id ∈ ids then (index.node? id).map change else index.node? id := by
  induction ids generalizing index with
  | nil => rfl
  | cons first rest inductionHypothesis =>
      obtain ⟨firstFresh, restDistinct⟩ := List.nodup_cons.mp distinct
      rw [List.foldl_cons, inductionHypothesis restDistinct, node?_update]
      by_cases isFirst : id = first
      · subst isFirst
        simp [firstFresh]
      · simp [isFirst, Ne.symm isFirst]

theorem frame_foldl_update
    {change : Node β → Node β}
    (keeps : ∀ node, (change node).frame = node.frame)
    (ids : List Nat)
    (index : Index β) :
    (ids.foldl (fun current id => current.update id change) index).frame = index.frame := by
  induction ids generalizing index with
  | nil => rfl
  | cons first rest inductionHypothesis =>
      rw [List.foldl_cons, inductionHypothesis, frame_update keeps]

theorem self_mem_lineage
    {index : Index β}
    {id : Nat}
    {node : Node β}
    (present : index.node? id = some node) :
    id ∈ index.lineage id := by
  rw [lineage_of_node? present]
  exact List.mem_cons_self

namespace Arena

variable {index : Index β}

/-- What stands above a node is the node itself or stands above its parent. -/
theorem mem_lineage_iff
    (arena : index.Arena)
    {id ancestor : Nat}
    {node : Node β}
    (present : index.node? id = some node) :
    ancestor ∈ index.lineage id ↔
      ancestor = id ∨ ∃ parent, node.parent? = some parent ∧ ancestor ∈ index.lineage parent := by
  cases link : node.parent? with
  | none => simp [lineage_eq_singleton present link]
  | some parent => simp [arena.lineage_eq_cons present link]

theorem mem_lineage_of_parent
    (arena : index.Arena)
    {id parent ancestor : Nat}
    {node : Node β}
    (present : index.node? id = some node)
    (link : node.parent? = some parent)
    (above : ancestor ∈ index.lineage parent) :
    ancestor ∈ index.lineage id := by
  rw [arena.lineage_eq_cons present link]
  exact List.mem_cons_of_mem id above

/-- What holds of a node, and of each further one if it holds of its parent, holds of all nodes
that have the first one in their lineage. -/
@[elab_as_elim] theorem lineage_induction
    (arena : index.Arena)
    {ancestor : Nat}
    {motive : Nat → Prop}
    (self : ∀ {node}, index.node? ancestor = some node → motive ancestor)
    (step : ∀ {id node parent}, index.node? id = some node → node.parent? = some parent →
      ancestor ∈ index.lineage parent → motive parent → motive id)
    {id : Nat}
    (above : ancestor ∈ index.lineage id) :
    motive id := by
  induction id using Nat.strongRecOn with
  | ind id inductionHypothesis =>
      cases present : index.node? id with
      | none => simp [lineage, present] at above
      | some node =>
          rcases (arena.mem_lineage_iff present).mp above with rfl | ⟨parent, link, higher⟩
          · exact self present
          · exact step present link higher
              (inductionHypothesis parent (arena.parent_lt present link) higher)

theorem exists_of_mem_lineage
    (arena : index.Arena)
    {id ancestor : Nat}
    (above : ancestor ∈ index.lineage id) :
    ∃ node, index.node? ancestor = some node := by
  refine arena.lineage_induction ?_ ?_ above
  · intro node present
    exact ⟨node, present⟩
  · intro id node parent _ _ _ isPresent
    exact isPresent

/-- A lineage runs through smaller and smaller numbers. -/
theorem le_of_mem_lineage
    (arena : index.Arena)
    {id ancestor : Nat}
    (above : ancestor ∈ index.lineage id) :
    ancestor ≤ id := by
  refine arena.lineage_induction ?_ ?_ above
  · intro node _
    exact Nat.le_refl _
  · intro id node parent present link _ bound
    have order := arena.parent_lt present link
    omega

theorem mem_lineage_trans
    (arena : index.Arena)
    {low middle high : Nat}
    (lower : middle ∈ index.lineage low)
    (upper : high ∈ index.lineage middle) :
    high ∈ index.lineage low := by
  refine arena.lineage_induction ?_ ?_ lower
  · intro node _
    exact upper
  · intro id node parent present link _ higher
    exact arena.mem_lineage_of_parent present link higher

/-- Of two nodes above a third one, one stands above the other. -/
theorem lineage_chain
    (arena : index.Arena)
    {low first second : Nat}
    (aboveFirst : first ∈ index.lineage low)
    (aboveSecond : second ∈ index.lineage low) :
    first ∈ index.lineage second ∨ second ∈ index.lineage first := by
  revert aboveSecond
  refine arena.lineage_induction ?_ ?_ aboveFirst
  · intro node _ aboveSecond
    exact .inr aboveSecond
  · intro low node parent present link higherFirst inductionHypothesis aboveSecond
    rcases (arena.mem_lineage_iff present).mp aboveSecond with
      rfl | ⟨parent', link', higherSecond⟩
    · exact .inl (arena.mem_lineage_of_parent present link higherFirst)
    · rw [link] at link'
      cases link'
      exact inductionHypothesis higherSecond

/-- All children are followed, as they have greater numbers and are in the index. -/
theorem subtree_eq
    (arena : index.Arena)
    {id : Nat}
    {node : Node β}
    (present : index.node? id = some node) :
    index.subtree id = id :: node.children.flatMap index.subtree := by
  rw [subtree, present]
  refine congrArg (id :: ·) (List.flatMap_congr fun child isChild => ?_)
  exact dif_pos ⟨arena.lt_child present isChild, arena.child_lt_size present isChild⟩

/-- What holds of a node whenever it holds of its children holds of every node. -/
theorem induction_on_children
    (arena : index.Arena)
    {motive : Nat → Prop}
    (step : ∀ id, (∀ {node child}, index.node? id = some node → child ∈ node.children →
      motive child) → motive id)
    (id : Nat) :
    motive id := by
  -- Children have greater numbers, so the induction is on the number of nodes after the given one.
  induction distance : index.size - id using Nat.strongRecOn generalizing id with
  | ind distance inductionHypothesis =>
      apply step
      intro node child present isChild
      have order := arena.lt_child present isChild
      have inRange := arena.child_lt_size present isChild
      exact inductionHypothesis (index.size - child) (by omega) child rfl

/-- The way up from a node to another one above it enters that one from one of its children. -/
theorem exists_child_of_mem_lineage
    (arena : index.Arena)
    {id descendant : Nat}
    {node : Node β}
    (present : index.node? id = some node)
    (above : id ∈ index.lineage descendant) :
    id = descendant ∨ ∃ child ∈ node.children, child ∈ index.lineage descendant := by
  refine arena.lineage_induction ?_ ?_ above
  · intro node _
    exact .inl rfl
  · intro descendant lowest parent lowestPresent link _ higher
    right
    rcases higher with isParent | ⟨child, isChild, between⟩
    · subst isParent
      refine ⟨descendant, ?_, self_mem_lineage lowestPresent⟩
      exact (arena.mem_children present descendant).mpr
        (Option.bind_eq_some_iff.mpr ⟨lowest, lowestPresent, link⟩)
    · exact ⟨child, isChild, arena.mem_lineage_of_parent lowestPresent link between⟩

/-- A node is among those below another one exactly if that one is in its lineage. -/
theorem mem_subtree_iff
    (arena : index.Arena)
    {id descendant : Nat} :
    descendant ∈ index.subtree id ↔ id ∈ index.lineage descendant := by
  induction id using arena.induction_on_children with
  | step id inductionHypothesis =>
      cases present : index.node? id with
      | none =>
          refine iff_of_false (by simp [subtree, present]) fun above => ?_
          obtain ⟨node, isPresent⟩ := arena.exists_of_mem_lineage above
          rw [present] at isPresent
          cases isPresent
      | some node =>
          rw [arena.subtree_eq present, List.mem_cons, List.mem_flatMap]
          constructor
          · rintro (same | ⟨child, isChild, below⟩)
            · subst same
              exact self_mem_lineage present
            · obtain ⟨childNode, childPresent, link⟩ := arena.exists_child present isChild
              exact arena.mem_lineage_trans ((inductionHypothesis present isChild).mp below)
                (arena.mem_lineage_of_parent childPresent link (self_mem_lineage present))
          · intro above
            rcases arena.exists_child_of_mem_lineage present above with
              same | ⟨child, isChild, between⟩
            · exact .inl same.symm
            · exact .inr ⟨child, isChild, (inductionHypothesis present isChild).mpr between⟩

/-- Different children of a node have nothing below them in common. -/
theorem disjoint_subtrees
    (arena : index.Arena)
    {id first second : Nat}
    {node : Node β}
    (present : index.node? id = some node)
    (isFirst : first ∈ node.children)
    (isSecond : second ∈ node.children)
    (different : first ≠ second) :
    (index.subtree first).Disjoint (index.subtree second) := by
  -- A lineage is a chain, and it would hold one child above the other one.
  have notAbove {low high : Nat} {lowNode highNode : Node β}
      (lowPresent : index.node? low = some lowNode) (lowLink : lowNode.parent? = some id)
      (highPresent : index.node? high = some highNode) (highLink : highNode.parent? = some id)
      (apart : high ≠ low) : high ∉ index.lineage low := by
    intro above
    rcases (arena.mem_lineage_iff lowPresent).mp above with same | ⟨parent, link, higher⟩
    · exact apart same
    · rw [lowLink] at link
      have tooSmall := arena.le_of_mem_lineage (Option.some.inj link ▸ higher)
      have order := arena.parent_lt highPresent highLink
      omega
  intro descendant belowFirst belowSecond
  obtain ⟨firstNode, firstPresent, firstLink⟩ := arena.exists_child present isFirst
  obtain ⟨secondNode, secondPresent, secondLink⟩ := arena.exists_child present isSecond
  rcases arena.lineage_chain (arena.mem_subtree_iff.mp belowFirst)
    (arena.mem_subtree_iff.mp belowSecond) with above | above
  · exact notAbove secondPresent secondLink firstPresent firstLink different above
  · exact notAbove firstPresent firstLink secondPresent secondLink (Ne.symm different) above

/-- Every node is met once. -/
theorem nodup_subtree
    (arena : index.Arena)
    (id : Nat) :
    (index.subtree id).Nodup := by
  induction id using arena.induction_on_children with
  | step id inductionHypothesis =>
      cases present : index.node? id with
      | none => simp [subtree, present]
      | some node =>
          rw [arena.subtree_eq present, List.nodup_cons, List.nodup_flatMap]
          refine ⟨?_, ?_, ?_⟩
          · intro below
            obtain ⟨child, isChild, belowChild⟩ := List.mem_flatMap.mp below
            have notAbove := arena.le_of_mem_lineage (arena.mem_subtree_iff.mp belowChild)
            have order := arena.lt_child present isChild
            omega
          · intro child isChild
            exact inductionHypothesis present isChild
          · refine List.Pairwise.imp_of_mem ?_ (arena.children_sorted present)
            intro first second isFirst isSecond before
            exact arena.disjoint_subtrees present isFirst isSecond (Nat.ne_of_lt before)

/-- Invalidation reaches the nodes whose lineage contains the given one, each of them once. -/
theorem node?_invalidate
    (arena : index.Arena)
    (id other : Nat) :
    (index.invalidate id).node? other =
      if id ∈ index.lineage other then (index.node? other).map Node.invalidate
      else index.node? other := by
  rw [invalidate, node?_foldl_update Node.invalidate _ (arena.nodup_subtree id)]
  simp only [arena.mem_subtree_iff]

end Arena

@[simp] theorem frame_invalidate
    (index : Index β)
    (id : Nat) :
    (index.invalidate id).frame = index.frame :=
  frame_foldl_update Node.frame_invalidate _ index

end Index
end EventRelay
