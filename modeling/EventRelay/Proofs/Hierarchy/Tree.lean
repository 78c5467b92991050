import EventRelay.Proofs.Hierarchy.Reachable
import Mathlib.Data.List.Sort

/-!
# The tree of kinds

Every node of a reachable index has its right place. It stands in the slot of its number and
the table of slots leads from its kind to it. Its parent is an older node, that of the parent
kind, its children are exactly the nodes of which it is the parent, and what it keeps about its
kind follows from the kinds of the nodes above it.

As long as no two kinds share an identity, the nodes above it are those of the ancestors that
its kind itself names, so what it keeps agrees with its descriptor.
-/

namespace EventRelay

variable {β : Type}

/-- The facts that follow from a chain of kinds, the most specific first. -/
def KindInfo.ofChain (chain : List Kind) : KindInfo :=
  ⟨chain.any fun kind => kind.own.cancellable, chain.length - 1⟩

theorem KindInfo.ofChain_singleton (kind : Kind) :
    KindInfo.ofChain [kind] = KindInfo.below kind none := by
  simp [ofChain, below]

theorem KindInfo.ofChain_cons
    (kind : Kind)
    {chain : List Kind}
    (nonempty : chain ≠ []) :
    KindInfo.ofChain (kind :: chain) = KindInfo.below kind (some (KindInfo.ofChain chain)) := by
  have positive := List.length_pos_iff.mpr nonempty
  simp only [ofChain, below, List.any_cons, List.length_cons, KindInfo.mk.injEq, true_and]
  omega

/-- The facts about a kind follow from the chain of its ancestors. -/
theorem KindInfo.ofChain_ancestors (kind : Kind) :
    KindInfo.ofChain kind.ancestors = ⟨kind.isCancellable, kind.ancestors.tail.length⟩ := by
  rw [ofChain, Kind.isCancellable, List.length_tail]

namespace Index

/-- A node has its right place in the tree of kinds. -/
structure Placed (index : Index β) (id : Nat) (node : Node β) : Prop where
  /-- The node knows its own number. -/
  id_eq : node.id = id
  /-- The table of slots leads from its kind to it. -/
  lookup?_kind : index.lookup? node.kind.id = some id
  /-- It has a parent exactly if its kind has one. -/
  isSome_parent? : node.parent?.isSome = node.kind.parent?.isSome
  /-- Its parent is an older node, and the one of the parent kind. -/
  parent : ∀ parent, node.parent? = some parent →
    parent < id ∧ ∃ above, node.kind.parent? = some above ∧ index.lookup? above.id = some parent
  /-- Its children are the nodes of which it is the parent, each once, the oldest first. -/
  children_eq : node.children = (List.range index.size).filter fun child =>
    (index.node? child).bind Node.parent? = some id
  /-- What it keeps about its kind follows from the kinds of the nodes up to the root. -/
  info_eq : node.info = KindInfo.ofChain (index.lineageKinds id)

namespace Arena

variable {index : Index β}

theorem lineageKinds_of_root
    {id : Nat}
    {node : Node β}
    (present : index.node? id = some node)
    (isRoot : node.parent? = none) :
    index.lineageKinds id = [node.kind] := by
  rw [lineageKinds, lineage_eq_singleton present isRoot]
  simp [present]

theorem lineageKinds_of_parent
    (arena : index.Arena)
    {id parent : Nat}
    {node : Node β}
    (present : index.node? id = some node)
    (link : node.parent? = some parent) :
    index.lineageKinds id = node.kind :: index.lineageKinds parent := by
  rw [lineageKinds, arena.lineage_eq_cons present link, lineageKinds]
  simp [present]

theorem lineageKinds_ne_nil
    (arena : index.Arena)
    {id : Nat}
    {node : Node β}
    (present : index.node? id = some node) :
    index.lineageKinds id ≠ [] := by
  cases link : node.parent? with
  | none => simp [lineageKinds_of_root present link]
  | some parent => simp [arena.lineageKinds_of_parent present link]

/-- Made from the facts about the parent one after the other, the facts about a kind follow
from all kinds up to the root. -/
theorem info_eq_ofChain
    (arena : index.Arena)
    {id : Nat}
    {node : Node β}
    (present : index.node? id = some node) :
    node.info = KindInfo.ofChain (index.lineageKinds id) := by
  induction id using Nat.strongRecOn generalizing node with
  | ind id inductionHypothesis =>
      have info := arena.info_eq present
      cases link : node.parent? with
      | none =>
          rw [info, link, lineageKinds_of_root present link, KindInfo.ofChain_singleton]
          rfl
      | some parent =>
          obtain ⟨above, abovePresent⟩ := arena.exists_parent present link
          rw [info, link, arena.lineageKinds_of_parent present link,
            KindInfo.ofChain_cons _ (arena.lineageKinds_ne_nil abovePresent),
            ← inductionHypothesis parent (arena.parent_lt present link) abovePresent,
            Option.bind_some, abovePresent, Option.map_some]

/-- Two ascending lists of the same numbers are equal. -/
theorem children_eq_filter
    (arena : index.Arena)
    {id : Nat}
    {node : Node β}
    (present : index.node? id = some node) :
    node.children = (List.range index.size).filter fun child =>
      (index.node? child).bind Node.parent? = some id := by
  refine (arena.children_sorted present).eq_of_mem_iff (List.pairwise_lt_range.filter _) ?_
  intro child
  rw [arena.mem_children present, List.mem_filter, List.mem_range, decide_eq_true_eq]
  refine ⟨fun link => ⟨?_, link⟩, And.right⟩
  obtain ⟨childNode, childPresent, -⟩ := Option.bind_eq_some_iff.mp link
  exact node?_lt_size childPresent

theorem lookup?_kind
    (arena : index.Arena)
    {id : Nat}
    {node : Node β}
    (present : index.node? id = some node) :
    index.lookup? node.kind.id = some id := by
  rw [arena.lookup?_iff, present]
  rfl

theorem lookup?_parent
    (arena : index.Arena)
    {id parent : Nat}
    {node : Node β}
    (present : index.node? id = some node)
    (link : node.parent? = some parent) :
    ∃ above, node.kind.parent? = some above ∧ index.lookup? above.id = some parent := by
  have sameKind := arena.parent_kind present
  obtain ⟨parentNode, parentPresent⟩ := arena.exists_parent present link
  rw [link, Option.bind_some, parentPresent, Option.map_some] at sameKind
  obtain ⟨above, isAbove, sameId⟩ := Option.map_eq_some_iff.mp sameKind.symm
  exact ⟨above, isAbove, sameId ▸ arena.lookup?_kind parentPresent⟩

theorem placed
    (arena : index.Arena)
    {id : Nat}
    {node : Node β}
    (present : index.node? id = some node) :
    index.Placed id node where
  id_eq := arena.id_eq present
  lookup?_kind := arena.lookup?_kind present
  isSome_parent? := by
    have root := arena.parent?_eq_none_iff present
    cases own : node.parent? <;> cases above : node.kind.parent? <;> simp_all
  parent _ link := ⟨arena.parent_lt present link, arena.lookup?_parent present link⟩
  children_eq := arena.children_eq_filter present
  info_eq := arena.info_eq_ofChain present

/-- No two nodes are of the same kind. -/
theorem nodup_kindIds (arena : index.Arena) : (index.kinds.map Kind.id).Nodup := by
  rw [kinds, List.map_map, List.nodup_iff_getElem?_ne_getElem?]
  intro first second before inRange same
  obtain ⟨node, present⟩ := exists_node? (by simpa [size] using inRange : second < index.size)
  rw [List.getElem?_map, List.getElem?_map] at same
  have foundFirst : index.lookup? node.kind.id = some first := by
    rw [arena.lookup?_iff, ← Function.comp_def Kind.id, node?, same, ← node?, present]
    rfl
  rw [arena.lookup?_kind present] at foundFirst
  exact Nat.ne_of_gt before (Option.some.inj foundFirst)

/-- Where kinds are told apart by their identities, the parent is the node of the kind that the
kind itself names as its parent. -/
theorem kind_parent
    (arena : index.Arena)
    (consistent : Kind.Consistent (· ∈ index.kinds))
    {id : Nat}
    {node : Node β}
    (present : index.node? id = some node) :
    (node.parent?.bind index.node?).map Node.kind = node.kind.parent? := by
  have sameId := arena.parent_kind present
  cases link : node.parent?.bind index.node? with
  | none =>
      rw [link] at sameId
      exact (Option.map_eq_none_iff.mp sameId.symm).symm
  | some parentNode =>
      obtain ⟨parent, -, parentPresent⟩ := Option.bind_eq_some_iff.mp link
      rw [link] at sameId
      obtain ⟨above, isAbove, sameParent⟩ := Option.map_eq_some_iff.mp sameId.symm
      have isAncestor : above ∈ node.kind.ancestors := by
        cases kindCase : node.kind with
        | root own =>
            rw [kindCase] at isAbove
            cases isAbove
        | child own parent =>
            rw [kindCase] at isAbove
            cases isAbove
            exact List.mem_cons_of_mem _ (Kind.self_mem_ancestors above)
      rw [isAbove, Option.map_some, consistent.eq_of_id_eq (.self (kind_mem_kinds parentPresent))
        (.of_mem_ancestors (kind_mem_kinds present) isAncestor) sameParent.symm]

end Arena

namespace Reachable

variable {index : Index β}

/-- In a reachable index the table of slots leads from each identity to the only node of that
kind, and to every node, and every node has its right place. As long as no two kinds share an
identity, the parent of a node is the node of the kind that the kind itself names, and the facts
that a node keeps agree with what its kind says about all of its ancestors. -/
theorem places_nodes (reachable : index.Reachable) :
    (∀ kindId id, index.lookup? kindId = some id ↔
      ∃ node, index.node? id = some node ∧ node.kind.id = kindId) ∧
      (index.kinds.map Kind.id).Nodup ∧
      ∀ id node, index.node? id = some node → index.Placed id node ∧
        (Kind.Consistent (· ∈ index.kinds) →
          (node.parent?.bind index.node?).map Node.kind = node.kind.parent? ∧
            node.info.cancellable = node.kind.isCancellable ∧
            node.info.depth = node.kind.ancestors.tail.length) := by
  have arena := reachable.coherent.arena
  refine ⟨fun kindId id => ?_, arena.nodup_kindIds, fun id node present =>
    ⟨arena.placed present, fun consistent => ⟨arena.kind_parent consistent present, ?_⟩⟩⟩
  · rw [arena.lookup?_iff, Option.map_eq_some_iff]
  · rw [arena.info_eq_ofChain present, arena.lineageKinds_eq consistent present,
      KindInfo.ofChain_ancestors]
    exact ⟨rfl, rfl⟩

/-! ### Two kinds that share an identity -/

/-- A kind with the identity of alarms that can be canceled and stands below signals. -/
def signaledAlarm : Kind :=
  .child ⟨"Alarm", "Alarm", false, true, []⟩ (.root ⟨"Signal", "Signal", false, false, []⟩)

/-- A kind below that one. -/
def warning : Kind := .child ⟨"Warning", "Warning", false, false, []⟩ signaledAlarm

/-- Alarms have their node when warnings are asked for. -/
def withWarning : Index Unit := (((empty true).insert alarm none).1.insert warning (some 0)).1

/-- The node for one of two kinds that share an identity serves as the parent of a kind that
names the other one. Then neither the parent nor what the node keeps agrees with what its kind
says. -/
theorem exists_disagreement :
    withWarning.Reachable ∧ ∃ node ∈ withWarning.nodes, node.kind = warning ∧
      (node.parent?.bind withWarning.node?).map Node.kind = some alarm ∧
      warning.parent? = some signaledAlarm ∧ signaledAlarm ≠ alarm ∧
      node.info = ⟨false, 1⟩ ∧
      warning.isCancellable = true ∧ warning.ancestors.tail.length = 2 := by
  have root : (empty true : Index Unit).nodeFor alarm = .ok ((empty true).insert alarm none) := rfl
  have reachable : withWarning.Reachable :=
    .nodeFor (.nodeFor (.new true) root)
      (nodeFor_child (by decide +kernel) rfl (by decide +kernel))
  exact ⟨reachable, by decide +kernel⟩

/-! ### Sirens and fire drills -/

/-- A second kind below alarms. -/
def siren : Kind := .child ⟨"Siren", "Siren", false, false, []⟩ alarm

/-- A kind below drills. -/
def fireDrill : Kind := .child ⟨"FireDrill", "FireDrill", false, false, []⟩ drill

/-- After listeners were added and arrays read, sirens and then fire drills are asked for. -/
def withSirens : Index Unit :=
  ((lateDrill.insert siren (some 0)).1.insert fireDrill (some 1)).1

theorem reachable_withSirens : withSirens.Reachable := by
  have sirens : Reachable (lateDrill.insert siren (some 0)).1 :=
    .nodeFor reachable_lateDrill (nodeFor_child (by decide +kernel) rfl (by decide +kernel))
  exact .nodeFor sirens (nodeFor_child (by decide +kernel) rfl (by decide +kernel))

theorem consistent_withSirens : Kind.Consistent (· ∈ withSirens.kinds) := by
  have kinds : withSirens.kinds = [alarm, drill, siren, fireDrill] := by decide +kernel
  rw [kinds]
  simp only [List.mem_cons, List.not_mem_nil, or_false]
  rintro first second (rfl | rfl | rfl | rfl) (rfl | rfl | rfl | rfl) <;> decide

/-- Fire drills can be canceled because drills can, two kinds stand above them, and drills are
their parent. -/
theorem places_nodes_withSirens :
    withSirens.Reachable ∧ Kind.Consistent (· ∈ withSirens.kinds) ∧
      ∃ node, withSirens.node? 3 = some node ∧ node.kind = fireDrill ∧
        withSirens.Placed 3 node ∧
        (node.parent?.bind withSirens.node?).map Node.kind = some drill ∧
        node.info = ⟨true, 2⟩ := by
  have isFireDrill : (withSirens.node? 3).map Node.kind = some fireDrill := by decide +kernel
  obtain ⟨node, present, sameKind⟩ := Option.map_eq_some_iff.mp isFireDrill
  obtain ⟨-, -, placed⟩ := places_nodes reachable_withSirens
  obtain ⟨isPlaced, agrees⟩ := placed 3 node present
  obtain ⟨parent, cancellable, depth⟩ := agrees consistent_withSirens
  refine ⟨reachable_withSirens, consistent_withSirens, node, present, sameKind, isPlaced, ?_, ?_⟩
  · rw [parent, sameKind]
    rfl
  · have facts : node.info = ⟨node.info.cancellable, node.info.depth⟩ := rfl
    rw [facts, cancellable, depth, sameKind]
    decide

end Reachable
end Index
end EventRelay
