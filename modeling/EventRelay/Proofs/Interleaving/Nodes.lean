import EventRelay.Proofs.Interleaving.Steps

/-!
# One node for each kind

However tasks are interleaved, every kind gets at most one node, and whoever asks for the node of
the kind is given this one. For only one task at a time makes a node, and it looks for the kind
once more after its turn has come.

Between the linking of a child and its publication its parent lists a child that is no node yet.
-/

namespace EventRelay

variable {β : Type}

namespace Index

@[simp] theorem lookup?_link (index : Index β) (parent? : Option Nat) (child : Nat)
    (kindId : String) :
    (index.link parent? child).lookup? kindId = index.lookup? kindId := by
  cases parent? <;> rfl

@[simp] theorem snapshot_link (index : Index β) (parent? : Option Nat) (child : Nat) :
    (index.link parent? child).snapshot = index.snapshot := by
  cases parent? with
  | none => rfl
  | some parent => simp [link, snapshot, update, size]

theorem snapshot_of_frame_eq
    {earlier later : Index β}
    (sameFrame : later.frame = earlier.frame) :
    later.snapshot = earlier.snapshot := by
  have sameSlots : later.slots = earlier.slots := congrArg (fun frame => frame.2.1) sameFrame
  rw [snapshot, snapshot, sameSlots, size_of_frame_eq sameFrame]

theorem node?_link
    (index : Index β)
    (parent? : Option Nat)
    (child id : Nat) :
    (index.link parent? child).node? id =
      if parent? = some id then (index.node? id).map fun node => node.addChild child
      else index.node? id := by
  cases parent? with
  | none => rfl
  | some parent =>
      rw [link, node?_update]
      simp only [Option.some.injEq]

theorem node?_publish
    (index : Index β)
    (kind : Kind)
    (parent? : Option Nat)
    (id : Nat) :
    (index.publish index.snapshot kind parent?).node? id =
      if id = index.size then some (index.newNode kind parent?) else index.node? id := by
  have appended (nodes : List (Node β)) (node : Node β) :
      (nodes ++ [node])[id]? = if id = nodes.length then some node else nodes[id]? := by
    grind
  have whole : index.nodes.take index.snapshot.size = index.nodes := List.take_length
  rw [publish, node?, whole]
  exact appended index.nodes (index.newNode kind parent?)

theorem size_publish
    (index : Index β)
    (kind : Kind)
    (parent? : Option Nat) :
    (index.publish index.snapshot kind parent?).size = index.size + 1 := by
  simp [publish, snapshot, size]

theorem lookup?_publish
    (index : Index β)
    (kind : Kind)
    (parent? : Option Nat)
    (kindId : String) :
    (index.publish index.snapshot kind parent?).lookup? kindId =
      (index.lookup? kindId).or (if kindId = kind.id then some index.size else none) := by
  change (index.slots ++ [(kind.id, index.size)]).lookup kindId = _
  rw [List.lookup_append, lookup?]
  by_cases same : kindId = kind.id
  · simp [same]
  · have unequal : (kindId == kind.id) = false := by simp [same]
    simp [List.lookup_cons, same, unequal]

theorem lookup?_publish_self
    {index : Index β}
    {kind : Kind}
    (absent : index.lookup? kind.id = none)
    (parent? : Option Nat) :
    (index.publish index.snapshot kind parent?).lookup? kind.id = some index.size := by
  rw [lookup?_publish, absent, Option.none_or, if_pos rfl]

/-- Linking a node and publishing it afterwards makes it. -/
theorem publish_link
    (index : Index β)
    (kind : Kind)
    (parent? : Option Nat) :
    (index.link parent? index.size).publish index.snapshot kind parent? =
      (index.insert kind parent?).1 := by
  cases parent? with
  | none => simp [publish, link, insert, snapshot, size]
  | some parent =>
      have sameInfo :
          ((index.update parent fun node => node.addChild index.size).node? parent).map Node.info =
            (index.node? parent).map Node.info := by
        rw [node?_update, if_pos rfl, Option.map_map]
        rfl
      have whole : (index.update parent fun node => node.addChild index.size).nodes.take
          index.size = (index.update parent fun node => node.addChild index.size).nodes :=
        List.take_of_length_le (Nat.le_of_eq (size_update ..))
      simp only [publish, link, insert, snapshot, Option.bind_some, sameInfo, whole]
      rfl

/-! ## Aging -/

/-- Steps leave a node its kind and its parent; its generation and its children only grow. -/
structure NodeAges (node later : Node β) : Prop where
  kind : later.kind = node.kind
  parent : later.parent? = node.parent?
  generation : node.generation ≤ later.generation
  children : node.children ⊆ later.children

/-- Steps leave nodes in their places. -/
structure Ages (index later : Index β) : Prop where
  lookup : ∀ {kindId id}, index.lookup? kindId = some id → later.lookup? kindId = some id
  node : ∀ {id node}, index.node? id = some node →
    ∃ after, later.node? id = some after ∧ NodeAges node after

theorem NodeAges.refl (node : Node β) : NodeAges node node :=
  ⟨rfl, rfl, Nat.le_refl _, List.Subset.refl _⟩

namespace Ages

theorem refl (index : Index β) : index.Ages index :=
  ⟨fun known => known, fun present => ⟨_, present, .refl _⟩⟩

theorem trans
    {index middle later : Index β}
    (first : index.Ages middle)
    (second : middle.Ages later) :
    index.Ages later where
  lookup known := second.lookup (first.lookup known)
  node := by
    intro id node present
    obtain ⟨between, isBetween, ages⟩ := first.node present
    obtain ⟨after, isAfter, agesMore⟩ := second.node isBetween
    exact ⟨after, isAfter, agesMore.kind.trans ages.kind, agesMore.parent.trans ages.parent,
      Nat.le_trans ages.generation agesMore.generation,
      List.Subset.trans ages.children agesMore.children⟩

theorem update
    (index : Index β)
    (id : Nat)
    {change : Node β → Node β}
    (ages : ∀ node, NodeAges node (change node)) :
    index.Ages (index.update id change) where
  lookup known := known
  node := by
    intro other node present
    rw [node?_update, present]
    split
    case isTrue => exact ⟨change node, rfl, ages node⟩
    case isFalse => exact ⟨node, rfl, .refl node⟩

theorem link
    (index : Index β)
    (parent? : Option Nat)
    (child : Nat) :
    index.Ages (index.link parent? child) := by
  cases parent? with
  | none => exact .refl index
  | some parent =>
      exact .update index parent fun node =>
        ⟨rfl, rfl, Nat.le_refl _, List.subset_append_left _ _⟩

theorem publish
    (index : Index β)
    (kind : Kind)
    (parent? : Option Nat) :
    index.Ages (index.publish index.snapshot kind parent?) where
  lookup known := by
    rw [lookup?_publish, known]
    rfl
  node := by
    intro id node present
    rw [node?_publish, if_neg (Nat.ne_of_lt (node?_lt_size present))]
    exact ⟨node, present, .refl node⟩

theorem size_le
    {index later : Index β}
    (ages : index.Ages later) :
    index.size ≤ later.size := by
  refine Nat.le_of_not_lt fun smaller => ?_
  obtain ⟨node, present⟩ := exists_node? smaller
  obtain ⟨after, isAfter, -⟩ := ages.node present
  exact Nat.lt_irrefl _ (node?_lt_size isAfter)

/-- A node keeps the nodes above it. -/
theorem lineage
    {index later : Index β}
    (ages : index.Ages later)
    (parent_lt : ∀ {id node parent}, index.node? id = some node → node.parent? = some parent →
      parent < id ∧ parent < index.size)
    {id : Nat}
    (old : id < index.size) :
    later.lineage id = index.lineage id := by
  induction id using Nat.strongRecOn with
  | ind id inductionHypothesis =>
      obtain ⟨node, present⟩ := exists_node? old
      obtain ⟨after, isAfter, agesNode⟩ := ages.node present
      rw [lineage_of_node? present, lineage_of_node? isAfter, agesNode.parent]
      cases isAbove : node.parent? with
      | none => rfl
      | some parent =>
          obtain ⟨below, published⟩ := parent_lt present isAbove
          simp only [if_pos below, inductionHypothesis parent below published]

theorem parent
    {index later : Index β}
    (ages : index.Ages later)
    {id : Nat}
    {node : Node β}
    (present : index.node? id = some node) :
    (later.node? id).bind Node.parent? = node.parent? := by
  obtain ⟨after, isAfter, aged⟩ := ages.node present
  rw [isAfter]
  exact aged.parent

end Ages

/-! ## The shape of the tree while a node is being made -/

/-- The nodes form a tree. Its links go both ways, except that the next node may already be listed
as a child where it is announced. -/
structure Shaped (index : Index β) (announced : Nat → Prop) : Prop where
  /-- The table of slots leads to the node of each kind. -/
  lookup?_iff : ∀ {kindId id}, index.lookup? kindId = some id ↔
    (index.node? id).map (fun node => node.kind.id) = some kindId
  parent_lt : ∀ {id node parent}, index.node? id = some node → node.parent? = some parent →
    parent < id
  /-- A parent lists its children. -/
  listed : ∀ {id node parent}, index.node? id = some node → node.parent? = some parent →
    ∃ above, index.node? parent = some above ∧ id ∈ above.children
  children : ∀ {id node child}, index.node? id = some node → child ∈ node.children →
    (index.node? child).bind Node.parent? = some id ∨ child = index.size ∧ announced id

namespace Shaped

variable {index later : Index β} {announced : Nat → Prop}

theorem empty (tracksPhases : Bool) : (Index.empty tracksPhases : Index β).Shaped announced := by
  constructor <;> simp

theorem mono
    (shaped : index.Shaped announced)
    {more : Nat → Prop}
    (implies : ∀ id, announced id → more id) :
    index.Shaped more :=
  { shaped with
    children := fun present isChild =>
      (shaped.children present isChild).imp_right fun next => ⟨next.1, implies _ next.2⟩ }

theorem parent_lt_size
    (shaped : index.Shaped announced)
    {id parent : Nat}
    {node : Node β}
    (present : index.node? id = some node)
    (isAbove : node.parent? = some parent) :
    parent < index.size := by
  obtain ⟨above, isPresent, -⟩ := shaped.listed present isAbove
  exact node?_lt_size isPresent

theorem lt_size_of_lookup?
    (shaped : index.Shaped announced)
    {kindId : String}
    {id : Nat}
    (known : index.lookup? kindId = some id) :
    id < index.size := by
  obtain ⟨node, present, -⟩ := Option.map_eq_some_iff.mp (shaped.lookup?_iff.mp known)
  exact node?_lt_size present

/-- What stands above a node is the node itself or stands above its parent. -/
theorem mem_lineage_iff
    (shaped : index.Shaped announced)
    {id ancestor : Nat}
    {node : Node β}
    (present : index.node? id = some node) :
    ancestor ∈ index.lineage id ↔
      ancestor = id ∨ ∃ parent, node.parent? = some parent ∧ ancestor ∈ index.lineage parent := by
  rw [lineage_of_node? present, List.mem_cons]
  cases link : node.parent? with
  | none => simp
  | some parent => simp [shaped.parent_lt present link]

theorem le_of_mem_lineage
    (shaped : index.Shaped announced)
    {id ancestor : Nat}
    (above : ancestor ∈ index.lineage id) :
    ancestor ≤ id := by
  induction id using Nat.strongRecOn with
  | ind id inductionHypothesis =>
      cases present : index.node? id with
      | none =>
          rw [lineage, present] at above
          cases above
      | some node =>
          rcases (shaped.mem_lineage_iff present).mp above with rfl | ⟨parent, link, higher⟩
          · exact Nat.le_refl _
          · have lower := shaped.parent_lt present link
            have bound := inductionHypothesis parent lower higher
            omega

theorem of_frame_eq
    (shaped : index.Shaped announced)
    (sameFrame : later.frame = index.frame) :
    later.Shaped announced := by
  have samePart {α : Type} (part : Nat × Kind × Option Nat × KindInfo × List Nat → α)
      (id : Nat) :
      (later.node? id).map (fun node => part node.frame) =
        (index.node? id).map (fun node => part node.frame) := by
    simpa only [Option.map_map, Function.comp_def] using
      congrArg (Option.map part) (frame_node? sameFrame id)
  have sameLinks (child : Nat) :
      (later.node? child).bind Node.parent? = (index.node? child).bind Node.parent? := by
    have sameLink := samePart (fun frame => frame.2.2.1) child
    cases first : later.node? child <;> cases second : index.node? child <;>
      simp_all [Node.frame]
  constructor
  case lookup?_iff =>
    intro kindId id
    rw [lookup?_of_frame_eq sameFrame, shaped.lookup?_iff]
    exact iff_of_eq (congrArg (· = some kindId) (samePart (fun frame => frame.2.1.id) id)).symm
  case parent_lt =>
    intro id node parent present isAbove
    obtain ⟨before, wasPresent, sameNode⟩ := exists_of_frame_eq sameFrame present
    exact shaped.parent_lt wasPresent
      ((congrArg (fun frame => frame.2.2.1) sameNode).trans isAbove)
  case listed =>
    intro id node parent present isAbove
    obtain ⟨before, wasPresent, sameNode⟩ := exists_of_frame_eq sameFrame present
    obtain ⟨above, wasAbove, isChild⟩ := shaped.listed wasPresent
      ((congrArg (fun frame => frame.2.2.1) sameNode).trans isAbove)
    obtain ⟨after, isAfter, sameAbove⟩ := exists_of_frame_eq sameFrame.symm wasAbove
    refine ⟨after, isAfter, ?_⟩
    rwa [show after.children = above.children from congrArg (fun frame => frame.2.2.2.2) sameAbove]
  case children =>
    intro id node child present isChild
    obtain ⟨before, wasPresent, sameNode⟩ := exists_of_frame_eq sameFrame present
    rw [sameLinks, size_of_frame_eq sameFrame]
    refine shaped.children wasPresent ?_
    rwa [show before.children = node.children from congrArg (fun frame => frame.2.2.2.2) sameNode]

/-- The parent lists the next node. -/
theorem link
    (shaped : index.Shaped announced)
    (parent? : Option Nat) :
    (index.link parent? index.size).Shaped fun id => announced id ∨ parent? = some id := by
  have back {id : Nat} {node : Node β}
      (present : (index.link parent? index.size).node? id = some node) :
      ∃ before, index.node? id = some before ∧ node.kind = before.kind ∧
        node.parent? = before.parent? ∧ ∀ child ∈ node.children, child ∈ before.children ∨
          child = index.size ∧ parent? = some id := by
    rw [node?_link] at present
    split at present
    case isTrue isParent =>
      obtain ⟨before, wasPresent, rfl⟩ := Option.map_eq_some_iff.mp present
      refine ⟨before, wasPresent, rfl, rfl, fun child isChild => ?_⟩
      exact (List.mem_append.mp isChild).imp_right fun isNew =>
        ⟨List.mem_singleton.mp isNew, isParent⟩
    case isFalse => exact ⟨node, present, rfl, rfl, fun _ => .inl⟩
  have sameSize : (index.link parent? index.size).size = index.size :=
    congrArg Snapshot.size (snapshot_link ..)
  have samePart {α : Type} (part : Node β → α)
      (ignoresChildren : ∀ node child, part (node.addChild child) = part node) (id : Nat) :
      ((index.link parent? index.size).node? id).map part = (index.node? id).map part := by
    rw [node?_link]
    split
    case isTrue =>
      rw [Option.map_map]
      exact congrArg (Option.map · _) (funext fun node => ignoresChildren node _)
    case isFalse => rfl
  constructor
  case lookup?_iff =>
    intro kindId id
    rw [lookup?_link, samePart _ fun _ _ => rfl]
    exact shaped.lookup?_iff
  case parent_lt =>
    intro id node parent present isAbove
    obtain ⟨before, wasPresent, -, sameParent, -⟩ := back present
    exact shaped.parent_lt wasPresent (sameParent ▸ isAbove)
  case listed =>
    intro id node parent present isAbove
    obtain ⟨before, wasPresent, -, sameParent, -⟩ := back present
    obtain ⟨above, wasAbove, isChild⟩ := shaped.listed wasPresent (sameParent ▸ isAbove)
    obtain ⟨after, isAfter, ages⟩ := (Ages.link index parent? index.size).node wasAbove
    exact ⟨after, isAfter, ages.children isChild⟩
  case children =>
    intro id node child present isChild
    obtain ⟨before, wasPresent, -, -, children⟩ := back present
    have sameLink : ((index.link parent? index.size).node? child).bind Node.parent? =
        (index.node? child).bind Node.parent? := by
      rw [node?_link]
      split
      case isTrue => cases index.node? child <;> rfl
      case isFalse => rfl
    rw [sameLink, sameSize]
    rcases children child isChild with old | ⟨isNext, isParent⟩
    · exact (shaped.children wasPresent old).imp_right fun next => ⟨next.1, .inl next.2⟩
    · exact .inr ⟨isNext, .inr isParent⟩

/-- The announced node is published. -/
theorem publish
    {kind : Kind}
    {parent? : Option Nat}
    (shaped : index.Shaped announced)
    (announces : ∀ id, announced id → parent? = some id)
    (absent : index.lookup? kind.id = none)
    (listed : ∀ parent, parent? = some parent →
      ∃ above, index.node? parent = some above ∧ index.size ∈ above.children)
    (nowhere : Nat → Prop) :
    (index.publish index.snapshot kind parent?).Shaped nowhere where
  lookup?_iff := by
    intro kindId id
    rw [lookup?_publish, node?_publish]
    by_cases new : id = index.size
    · subst new
      rw [if_pos rfl, Option.map_some, Option.some.injEq]
      constructor
      · intro found
        cases known : index.lookup? kindId with
        | some other =>
            rw [known] at found
            cases found
            exact absurd (shaped.lt_size_of_lookup? known) (Nat.lt_irrefl _)
        | none =>
            rw [known, Option.none_or] at found
            split at found
            case isTrue same => exact same.symm
            case isFalse => cases found
      · rintro rfl
        change ((index.lookup? kind.id).or _) = _
        rw [absent, Option.none_or]
        exact if_pos rfl
    · rw [if_neg new, ← shaped.lookup?_iff]
      cases known : index.lookup? kindId with
      | some other => rfl
      | none =>
          rw [Option.none_or]
          split
          case isTrue =>
            exact iff_of_false (fun same => new (Option.some.inj same).symm) nofun
          case isFalse => rfl
  parent_lt := by
    intro id node parent present isAbove
    rw [node?_publish] at present
    split at present
    case isTrue new =>
      cases present
      obtain ⟨above, isPresent, -⟩ := listed parent isAbove
      rw [new]
      exact node?_lt_size isPresent
    case isFalse => exact shaped.parent_lt present isAbove
  listed := by
    intro id node parent present isAbove
    rw [node?_publish] at present
    have there : ∃ above, index.node? parent = some above ∧ id ∈ above.children := by
      split at present
      case isTrue new =>
        cases present
        rw [new]
        exact listed parent isAbove
      case isFalse => exact shaped.listed present isAbove
    obtain ⟨above, isPresent, isChild⟩ := there
    refine ⟨above, ?_, isChild⟩
    rw [node?_publish, if_neg (Nat.ne_of_lt (node?_lt_size isPresent)), isPresent]
  children := by
    intro id node child present isChild
    refine .inl ?_
    rw [node?_publish] at present ⊢
    split at present
    case isTrue =>
      cases present
      cases isChild
    case isFalse =>
      rcases shaped.children present isChild with isLinked | ⟨rfl, isAnnounced⟩
      · have old : child ≠ index.size := by
          rintro rfl
          rw [node?_size] at isLinked
          cases isLinked
        rwa [if_neg old]
      · rw [if_pos rfl]
        exact announces id isAnnounced

end Shaped
end Index
end EventRelay
