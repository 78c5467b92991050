import EventRelay.Hierarchy.Cache

/-!
# The shape of an index

An index describes one tree of kinds in four ways: by the parent of each node, by the
children of each node, by the table of slots, and by the facts that each node keeps about
its kind. `Arena` says that these descriptions agree. It speaks only of what changes of
listeners, generations and caches leave alone, the *frame* of the index, and making nodes
keeps it.

The *lineage* of a node is the way from it to the root of its tree.
-/

namespace EventRelay

variable {β : Type}

/-- What changes of listeners and caches leave alone in a node. -/
def Node.frame (node : Node β) : Nat × Kind × Option Nat × KindInfo × List Nat :=
  (node.id, node.kind, node.parent?, node.info, node.children)

namespace Node

@[simp] theorem frame_invalidate (node : Node β) : node.invalidate.frame = node.frame := rfl

@[simp] theorem frame_add
    (node : Node β)
    (priority : Priority)
    (listener : Listener β) :
    (node.add priority listener).frame = node.frame := rfl

@[simp] theorem frame_removeAll
    (node : Node β)
    (ids : List ListenerId) :
    (node.removeAll ids).frame = node.frame := rfl

@[simp] theorem frame_rebuild
    (node : Node β)
    (tracksPhases : Bool)
    (inherited : Option (Flattened β)) :
    (node.rebuild tracksPhases inherited).frame = node.frame := rfl

@[simp] theorem frame_remove
    (node : Node β)
    (id : ListenerId) :
    (node.remove id).frame = node.frame := by
  unfold remove
  split <;> rfl

end Node

namespace Index

/-- What changes of listeners and caches leave alone in an index. -/
def frame (index : Index β) :
    Bool × List (String × Nat) × List (Nat × Kind × Option Nat × KindInfo × List Nat) :=
  (index.tracksPhases, index.slots, index.nodes.map Node.frame)

/-- A change of one node that keeps its frame keeps the frame of the index. -/
theorem frame_update
    {change : Node β → Node β}
    (keeps : ∀ node, (change node).frame = node.frame)
    (index : Index β)
    (id : Nat) :
    (index.update id change).frame = index.frame := by
  have sameNodes : (index.nodes.modify id change).map Node.frame = index.nodes.map Node.frame := by
    apply List.ext_getElem?
    intro other
    rw [List.getElem?_map, List.getElem?_map, List.getElem?_modify]
    cases index.nodes[other]? with
    | none => rfl
    | some node => by_cases same : id = other <;> simp [same, keeps]
  simp only [frame, update, sameNodes]

/-- Nodes of an index with the same frame stand at the same places. -/
theorem frame_node?
    {earlier later : Index β}
    (sameFrame : later.frame = earlier.frame)
    (id : Nat) :
    (later.node? id).map Node.frame = (earlier.node? id).map Node.frame := by
  have sameNodes : later.nodes.map Node.frame = earlier.nodes.map Node.frame :=
    congrArg (fun frame => frame.2.2) sameFrame
  have sameEntry := congrArg (fun frames => frames[id]?) sameNodes
  simpa only [List.getElem?_map, node?] using sameEntry

theorem exists_of_frame_eq
    {earlier later : Index β}
    (sameFrame : later.frame = earlier.frame)
    {id : Nat}
    {node : Node β}
    (present : later.node? id = some node) :
    ∃ before, earlier.node? id = some before ∧ before.frame = node.frame := by
  have sameNode := frame_node? sameFrame id
  rw [present, Option.map_some] at sameNode
  exact Option.map_eq_some_iff.mp sameNode.symm

theorem size_of_frame_eq
    {earlier later : Index β}
    (sameFrame : later.frame = earlier.frame) :
    later.size = earlier.size := by
  have sameNodes : later.nodes.map Node.frame = earlier.nodes.map Node.frame :=
    congrArg (fun frame => frame.2.2) sameFrame
  simpa [size] using congrArg List.length sameNodes

theorem lookup?_of_frame_eq
    {earlier later : Index β}
    (sameFrame : later.frame = earlier.frame)
    (kindId : String) :
    later.lookup? kindId = earlier.lookup? kindId := by
  have sameSlots : later.slots = earlier.slots := congrArg (fun frame => frame.2.1) sameFrame
  rw [lookup?, lookup?, sameSlots]

theorem tracksPhases_of_frame_eq
    {earlier later : Index β}
    (sameFrame : later.frame = earlier.frame) :
    later.tracksPhases = earlier.tracksPhases :=
  congrArg (fun frame => frame.1) sameFrame

@[simp] theorem node?_empty
    (tracksPhases : Bool)
    (id : Nat) :
    (empty tracksPhases : Index β).node? id = none := rfl

@[simp] theorem lookup?_empty
    (tracksPhases : Bool)
    (kindId : String) :
    (empty tracksPhases : Index β).lookup? kindId = none := rfl

theorem node?_lt_size
    {index : Index β}
    {id : Nat}
    {node : Node β}
    (present : index.node? id = some node) :
    id < index.size :=
  (List.getElem?_eq_some_iff.mp present).1

@[simp] theorem node?_size (index : Index β) : index.node? index.size = none :=
  List.getElem?_eq_none (Nat.le_refl _)

theorem exists_node?
    {index : Index β}
    {id : Nat}
    (inRange : id < index.size) :
    ∃ node, index.node? id = some node :=
  ⟨index.nodes[id], List.getElem?_eq_getElem inRange⟩

/-! ## The lineage of a node -/

/-- The numbers of a node and of all nodes above it, the node itself first. -/
def lineage (index : Index β) (id : Nat) : List Nat :=
  match index.node? id with
  | none => []
  | some node =>
      id :: match node.parent? with
        | some parent => if _ : parent < id then index.lineage parent else []
        | none => []
termination_by id

theorem lineage_of_node?
    {index : Index β}
    {id : Nat}
    {node : Node β}
    (present : index.node? id = some node) :
    index.lineage id =
      id :: match node.parent? with
        | some parent => if parent < id then index.lineage parent else []
        | none => [] := by
  rw [lineage, present]
  cases link : node.parent? with
  | none => simp only [link]
  | some parent => by_cases below : parent < id <;> simp only [link, below, dite_true, if_true,
      dite_false, if_false]

theorem lineage_eq_singleton
    {index : Index β}
    {id : Nat}
    {node : Node β}
    (present : index.node? id = some node)
    (isRoot : node.parent? = none) :
    index.lineage id = [id] := by
  rw [lineage_of_node? present, isRoot]

theorem lineage_of_frame_eq
    {earlier later : Index β}
    (sameFrame : later.frame = earlier.frame)
    (id : Nat) :
    later.lineage id = earlier.lineage id := by
  induction id using Nat.strongRecOn with
  | ind id inductionHypothesis =>
      cases present : later.node? id with
      | none =>
          have absent : earlier.node? id = none := by
            simpa [present] using (frame_node? sameFrame id).symm
          rw [lineage, lineage, present, absent]
      | some node =>
          obtain ⟨before, wasPresent, sameNode⟩ := exists_of_frame_eq sameFrame present
          have sameParent : before.parent? = node.parent? :=
            congrArg (fun frame => frame.2.2.1) sameNode
          rw [lineage_of_node? present, lineage_of_node? wasPresent, sameParent]
          cases node.parent? with
          | none => rfl
          | some parent =>
              by_cases below : parent < id
              · simp only [below, if_true, inductionHypothesis parent below]
              · simp only [below, if_false]

/-! ## The arena -/

/-- All descriptions of the tree of kinds agree: nodes are numbered by their places, parents
before children; parents, children, slots and facts follow the kinds. -/
structure Arena (index : Index β) : Prop where
  /-- A node knows its own number. -/
  id_eq : ∀ {id node}, index.node? id = some node → node.id = id
  /-- A parent has a smaller number than its child. -/
  parent_lt : ∀ {id node parent}, index.node? id = some node → node.parent? = some parent →
    parent < id
  /-- The parent's node is that of the parent kind. -/
  parent_kind : ∀ {id node}, index.node? id = some node →
    (node.parent?.bind index.node?).map (fun parent => parent.kind.id) =
      node.kind.parent?.map Kind.id
  /-- The facts about a kind follow from those about the parent's node. -/
  info_eq : ∀ {id node}, index.node? id = some node →
    node.info = KindInfo.below node.kind ((node.parent?.bind index.node?).map Node.info)
  /-- The children of a node are the nodes of which it is the parent. -/
  mem_children : ∀ {id node}, index.node? id = some node → ∀ child,
    child ∈ node.children ↔ (index.node? child).bind Node.parent? = some id
  /-- Children are listed in the order in which they were made. -/
  children_sorted : ∀ {id node}, index.node? id = some node → node.children.Pairwise (· < ·)
  /-- The table of slots leads to the node of each kind. -/
  lookup?_iff : ∀ {kindId id}, index.lookup? kindId = some id ↔
    (index.node? id).map (fun node => node.kind.id) = some kindId

namespace Arena

variable {index : Index β}

theorem empty (tracksPhases : Bool) : (Index.empty tracksPhases : Index β).Arena := by
  constructor <;> simp

/-- An index with the same frame has the same shape. -/
theorem of_frame_eq
    {later : Index β}
    (arena : index.Arena)
    (sameFrame : later.frame = index.frame) :
    later.Arena := by
  have samePart {α : Type} (part : Nat × Kind × Option Nat × KindInfo × List Nat → α)
      (id : Nat) :
      (later.node? id).map (fun node => part node.frame) =
        (index.node? id).map (fun node => part node.frame) := by
    simpa only [Option.map_map, Function.comp_def] using
      congrArg (Option.map part) (frame_node? sameFrame id)
  have sameParents (parent? : Option Nat) :
      (parent?.bind later.node?).map Node.frame = (parent?.bind index.node?).map Node.frame := by
    cases parent? with
    | none => rfl
    | some parent => exact frame_node? sameFrame parent
  have sameLinks (child : Nat) :
      (later.node? child).bind Node.parent? = (index.node? child).bind Node.parent? := by
    have sameLink := samePart (fun frame => frame.2.2.1) child
    cases first : later.node? child <;> cases second : index.node? child <;>
      simp_all [Node.frame]
  constructor
  case id_eq =>
    intro id node present
    obtain ⟨before, wasPresent, sameNode⟩ := exists_of_frame_eq sameFrame present
    rw [← arena.id_eq wasPresent]
    exact (congrArg Prod.fst sameNode).symm
  case parent_lt =>
    intro id node parent present link
    obtain ⟨before, wasPresent, sameNode⟩ := exists_of_frame_eq sameFrame present
    exact arena.parent_lt wasPresent ((congrArg (fun frame => frame.2.2.1) sameNode).trans link)
  case parent_kind =>
    intro id node present
    obtain ⟨before, wasPresent, sameNode⟩ := exists_of_frame_eq sameFrame present
    have sameKind : before.kind = node.kind := congrArg (fun frame => frame.2.1) sameNode
    have sameParent : before.parent? = node.parent? :=
      congrArg (fun frame => frame.2.2.1) sameNode
    have sameKinds := congrArg (Option.map fun frame => frame.2.1.id) (sameParents node.parent?)
    simp only [Option.map_map, Function.comp_def, Node.frame] at sameKinds
    rw [sameKinds, ← sameParent, arena.parent_kind wasPresent, sameKind]
  case info_eq =>
    intro id node present
    obtain ⟨before, wasPresent, sameNode⟩ := exists_of_frame_eq sameFrame present
    have sameKind : before.kind = node.kind := congrArg (fun frame => frame.2.1) sameNode
    have sameParent : before.parent? = node.parent? :=
      congrArg (fun frame => frame.2.2.1) sameNode
    have sameInfo : before.info = node.info := congrArg (fun frame => frame.2.2.2.1) sameNode
    have sameInfos := congrArg (Option.map fun frame => frame.2.2.2.1) (sameParents node.parent?)
    simp only [Option.map_map, Function.comp_def, Node.frame] at sameInfos
    rw [← sameInfo, arena.info_eq wasPresent, sameKind, sameParent]
    exact congrArg (KindInfo.below node.kind) sameInfos.symm
  case mem_children =>
    intro id node present child
    obtain ⟨before, wasPresent, sameNode⟩ := exists_of_frame_eq sameFrame present
    have sameChildren : before.children = node.children :=
      congrArg (fun frame => frame.2.2.2.2) sameNode
    rw [← sameChildren, arena.mem_children wasPresent, sameLinks]
  case children_sorted =>
    intro id node present
    obtain ⟨before, wasPresent, sameNode⟩ := exists_of_frame_eq sameFrame present
    have sameChildren : before.children = node.children :=
      congrArg (fun frame => frame.2.2.2.2) sameNode
    rw [← sameChildren]
    exact arena.children_sorted wasPresent
  case lookup?_iff =>
    intro kindId id
    rw [lookup?_of_frame_eq sameFrame, arena.lookup?_iff]
    exact iff_of_eq (congrArg (· = some kindId) (samePart (fun frame => frame.2.1.id) id)).symm

end Arena

/-! ## Making nodes -/

/-- The node that is made for a kind below a parent's node. -/
def newNode (index : Index β) (kind : Kind) (parent? : Option Nat) : Node β :=
  Node.create index.size kind parent?
    (KindInfo.below kind ((parent?.bind index.node?).map Node.info))

theorem node?_insert
    (index : Index β)
    (kind : Kind)
    (parent? : Option Nat)
    (id : Nat) :
    (index.insert kind parent?).1.node? id =
      if id = index.size then some (index.newNode kind parent?)
      else if parent? = some id then
        (index.node? id).map fun node => node.addChild index.size
      else index.node? id := by
  have appended (nodes : List (Node β)) (node : Node β) :
      (nodes ++ [node])[id]? = if id = nodes.length then some node else nodes[id]? := by
    grind
  cases parent? with
  | none => exact appended index.nodes (index.newNode kind none)
  | some parent =>
      let linked := index.update parent fun node => node.addChild index.size
      have sameSize : linked.nodes.length = index.size := size_update ..
      have result : (index.insert kind (some parent)).1.node? id =
          if id = linked.nodes.length then some (index.newNode kind (some parent))
          else linked.node? id := appended linked.nodes _
      rw [result, sameSize, node?_update]
      simp only [Option.some.injEq]

@[simp] theorem insert_snd
    (index : Index β)
    (kind : Kind)
    (parent? : Option Nat) :
    (index.insert kind parent?).2 = index.size := rfl

@[simp] theorem tracksPhases_insert
    (index : Index β)
    (kind : Kind)
    (parent? : Option Nat) :
    (index.insert kind parent?).1.tracksPhases = index.tracksPhases := by
  cases parent? <;> rfl

theorem lookup?_insert
    (index : Index β)
    (kind : Kind)
    (parent? : Option Nat)
    (kindId : String) :
    (index.insert kind parent?).1.lookup? kindId =
      (index.lookup? kindId).or (if kindId = kind.id then some index.size else none) := by
  have sameSlots : (index.insert kind parent?).1.slots =
      index.slots ++ [(kind.id, index.size)] := by
    cases parent? <;> rfl
  rw [lookup?, sameSlots, List.lookup_append, lookup?]
  by_cases same : kindId = kind.id
  · simp [same]
  · have unequal : (kindId == kind.id) = false := by simp [same]
    simp [List.lookup_cons, same, unequal]

/-- Making a node changes nothing in the nodes before it but the children of the parent. -/
theorem map_node?_insert
    {α : Type}
    (part : Node β → α)
    (ignoresChildren : ∀ node child, part (node.addChild child) = part node)
    (index : Index β)
    (kind : Kind)
    (parent? : Option Nat)
    {id : Nat}
    (old : id ≠ index.size) :
    ((index.insert kind parent?).1.node? id).map part = (index.node? id).map part := by
  rw [node?_insert, if_neg old]
  by_cases isParent : parent? = some id
  · rw [if_pos isParent, Option.map_map]
    cases index.node? id with
    | none => rfl
    | some node => exact congrArg some (ignoresChildren node index.size)
  · rw [if_neg isParent]

theorem map_bind_insert
    {α : Type}
    (part : Node β → α)
    (ignoresChildren : ∀ node child, part (node.addChild child) = part node)
    (index : Index β)
    (kind : Kind)
    (parent? : Option Nat)
    {link : Option Nat}
    (old : ∀ id, link = some id → id < index.size) :
    (link.bind (index.insert kind parent?).1.node?).map part =
      (link.bind index.node?).map part := by
  cases link with
  | none => rfl
  | some id =>
      exact map_node?_insert part ignoresChildren index kind parent? (Nat.ne_of_lt (old id rfl))

@[simp] theorem node?_insert_size
    (index : Index β)
    (kind : Kind)
    (parent? : Option Nat) :
    (index.insert kind parent?).1.node? index.size = some (index.newNode kind parent?) := by
  rw [node?_insert, if_pos rfl]

theorem parent?_insert
    (index : Index β)
    (kind : Kind)
    (parent? : Option Nat)
    (id : Nat) :
    ((index.insert kind parent?).1.node? id).bind Node.parent? =
      if id = index.size then parent? else (index.node? id).bind Node.parent? := by
  rw [node?_insert]
  by_cases new : id = index.size
  · rw [if_pos new, if_pos new]
    rfl
  · rw [if_neg new, if_neg new]
    split
    · cases index.node? id <;> rfl
    · rfl

/-- A node is the new one, or it was there before and may have got a child. -/
theorem insert_cases
    {index : Index β}
    {kind : Kind}
    {parent? : Option Nat}
    {id : Nat}
    {node : Node β}
    (present : (index.insert kind parent?).1.node? id = some node) :
    id = index.size ∧ node = index.newNode kind parent? ∨
      ∃ before, index.node? id = some before ∧
        node = if parent? = some id then before.addChild index.size else before := by
  rw [node?_insert] at present
  by_cases new : id = index.size
  · rw [if_pos new] at present
    exact .inl ⟨new, (Option.some.inj present).symm⟩
  · rw [if_neg new] at present
    by_cases isParent : parent? = some id
    · rw [if_pos isParent] at present
      obtain ⟨before, wasPresent, rfl⟩ := Option.map_eq_some_iff.mp present
      exact .inr ⟨before, wasPresent, (if_pos isParent).symm⟩
    · rw [if_neg isParent] at present
      exact .inr ⟨node, present, (if_neg isParent).symm⟩

/-- One index arises from another by making nodes for kinds of a certain sort. Each kind is
new to the index, and the kind above it already has its node. -/
inductive GrowsTo (among : Kind → Prop) (index : Index β) : Index β → Prop
  | refl : GrowsTo among index index
  | insert {later : Index β} {kind : Kind} {parent? : Option Nat} :
      GrowsTo among index later →
      among kind →
      later.lookup? kind.id = none →
      kind.parent?.map (fun parent => later.lookup? parent.id) = parent?.map some →
      GrowsTo among index (later.insert kind parent?).1

namespace GrowsTo

variable {among sort : Kind → Prop} {index later : Index β}

theorem mono
    (grows : GrowsTo among index later)
    (implies : ∀ kind, among kind → sort kind) :
    GrowsTo sort index later := by
  induction grows with
  | refl => exact .refl
  | insert _ belongs absent linked inductionHypothesis =>
      exact .insert inductionHypothesis (implies _ belongs) absent linked

theorem trans
    {last : Index β}
    (first : GrowsTo among index later)
    (second : GrowsTo among later last) :
    GrowsTo among index last := by
  induction second with
  | refl => exact first
  | insert _ belongs absent linked inductionHypothesis =>
      exact .insert inductionHypothesis belongs absent linked

/-- Kinds that have a node keep it while others are made. -/
theorem lookup?
    (grows : GrowsTo among index later)
    {kindId : String}
    {id : Nat}
    (known : index.lookup? kindId = some id) :
    later.lookup? kindId = some id := by
  induction grows with
  | refl => exact known
  | insert _ _ _ _ inductionHypothesis =>
      rw [lookup?_insert, inductionHypothesis]
      rfl

end GrowsTo

/-- A kind that has a node keeps it. -/
theorem nodeFor_of_lookup?
    {index : Index β}
    {kind : Kind}
    {id : Nat}
    (known : index.lookup? kind.id = some id) :
    index.nodeFor kind = .ok (index, id) := by
  cases kind <;>
    · rw [nodeFor]
      change index.lookup? _ = some id at known
      simp only [Kind.id, Kind.own_root, Kind.own_child] at known
      simp only [known]

/-- A new kind gets its node below that of its parent. -/
theorem nodeFor_child
    {index : Index β}
    {own : Descriptor}
    {parent : Kind}
    {parentId : Nat}
    (absent : index.lookup? own.id = none)
    (sound : brokenAncestor? parent = none)
    (parentKnown : index.lookup? parent.id = some parentId) :
    index.nodeFor (.child own parent) = .ok (index.insert (.child own parent) (some parentId)) := by
  rw [nodeFor]
  simp only [absent, sound, nodeFor_of_lookup? parentKnown]

/-- Asking for the node of a kind makes nodes for some of its ancestors, and the kind has
the answered node then. -/
theorem nodeFor_grows
    {index later : Index β}
    {kind : Kind}
    {id : Nat}
    (made : index.nodeFor kind = .ok (later, id)) :
    GrowsTo (· ∈ kind.ancestors) index later ∧ later.lookup? kind.id = some id := by
  induction kind generalizing later id with
  | root own =>
      rw [nodeFor] at made
      split at made
      case h_1 found known =>
        cases made
        exact ⟨.refl, known⟩
      case h_2 absent =>
        obtain ⟨rfl, rfl⟩ := Prod.ext_iff.mp (Except.ok.inj made)
        refine ⟨.insert .refl (Kind.self_mem_ancestors _) absent rfl, ?_⟩
        rw [lookup?_insert]
        simp only [Kind.id, Kind.own_root, absent, Option.none_or, if_true, insert_snd]
  | child own parent inductionHypothesis =>
      rw [nodeFor] at made
      split at made
      case h_1 found known =>
        cases made
        exact ⟨.refl, known⟩
      case h_2 absent =>
        split at made
        case h_1 ancestor broken => cases made
        case h_2 sound =>
          split at made
          case h_1 error refused => cases made
          case h_2 grown parentId parentMade =>
            obtain ⟨grows, parentKnown⟩ := inductionHypothesis parentMade
            have growsBelow : GrowsTo (· ∈ (Kind.child own parent).ancestors) index grown :=
              grows.mono fun _ above => List.mem_cons_of_mem _ above
            split at made
            case h_1 found known =>
              cases made
              exact ⟨growsBelow, known⟩
            case h_2 stillAbsent =>
              obtain ⟨rfl, rfl⟩ := Prod.ext_iff.mp (Except.ok.inj made)
              refine ⟨.insert growsBelow (Kind.self_mem_ancestors _) stillAbsent ?_, ?_⟩
              · simp only [Kind.parent?_child, Option.map_some, parentKnown]
              · rw [lookup?_insert]
                simp only [Kind.id, Kind.own_child, stillAbsent, Option.none_or, if_true,
                  insert_snd]

namespace Arena

variable {index : Index β}

theorem parent_lt_size
    (arena : index.Arena)
    {id parent : Nat}
    {node : Node β}
    (present : index.node? id = some node)
    (link : node.parent? = some parent) :
    parent < index.size := by
  have below := arena.parent_lt present link
  have inRange := node?_lt_size present
  omega

/-- The parent of a node is in the index. -/
theorem exists_parent
    (arena : index.Arena)
    {id parent : Nat}
    {node : Node β}
    (present : index.node? id = some node)
    (link : node.parent? = some parent) :
    ∃ parentNode, index.node? parent = some parentNode :=
  exists_node? (arena.parent_lt_size present link)

/-- A child is a later node of the index, and the node is its parent. -/
theorem exists_child
    (arena : index.Arena)
    {id child : Nat}
    {node : Node β}
    (present : index.node? id = some node)
    (isChild : child ∈ node.children) :
    ∃ childNode, index.node? child = some childNode ∧ childNode.parent? = some id :=
  Option.bind_eq_some_iff.mp ((arena.mem_children present child).mp isChild)

theorem lt_child
    (arena : index.Arena)
    {id child : Nat}
    {node : Node β}
    (present : index.node? id = some node)
    (isChild : child ∈ node.children) :
    id < child := by
  obtain ⟨childNode, childPresent, link⟩ := arena.exists_child present isChild
  exact arena.parent_lt childPresent link

theorem child_lt_size
    (arena : index.Arena)
    {id child : Nat}
    {node : Node β}
    (present : index.node? id = some node)
    (isChild : child ∈ node.children) :
    child < index.size := by
  obtain ⟨childNode, childPresent, -⟩ := arena.exists_child present isChild
  exact node?_lt_size childPresent

theorem lineage_eq_cons
    (arena : index.Arena)
    {id parent : Nat}
    {node : Node β}
    (present : index.node? id = some node)
    (link : node.parent? = some parent) :
    index.lineage id = id :: index.lineage parent := by
  rw [lineage_of_node? present, link]
  simp only [arena.parent_lt present link, if_true]

/-- The node of a kind that has one is a node of the index. -/
theorem exists_of_lookup?
    (arena : index.Arena)
    {kindId : String}
    {id : Nat}
    (known : index.lookup? kindId = some id) :
    ∃ node, index.node? id = some node ∧ node.kind.id = kindId :=
  Option.map_eq_some_iff.mp (arena.lookup?_iff.mp known)

/-! ### A new node fits in -/

section Insert

variable {kind : Kind} {parent? : Option Nat}

/-- The node below which a new one is made is that of the parent kind. -/
theorem exists_of_linked
    (linked : kind.parent?.map (fun parent => index.lookup? parent.id) = parent?.map some)
    {parent : Nat}
    (link : parent? = some parent) :
    ∃ above, kind.parent? = some above ∧ index.lookup? above.id = some parent := by
  rw [link] at linked
  exact Option.map_eq_some_iff.mp linked

theorem lt_size_of_linked
    (arena : index.Arena)
    (linked : kind.parent?.map (fun parent => index.lookup? parent.id) = parent?.map some)
    {parent : Nat}
    (link : parent? = some parent) :
    parent < index.size := by
  obtain ⟨above, -, known⟩ := exists_of_linked linked link
  obtain ⟨node, present, -⟩ := arena.exists_of_lookup? known
  exact node?_lt_size present

theorem parent_kind_newNode
    (arena : index.Arena)
    (linked : kind.parent?.map (fun parent => index.lookup? parent.id) = parent?.map some) :
    (parent?.bind index.node?).map (fun parent => parent.kind.id) = kind.parent?.map Kind.id := by
  cases link : parent? with
  | none =>
      rw [link] at linked
      rw [Option.map_eq_none_iff.mp linked]
      rfl
  | some parent =>
      obtain ⟨above, isAbove, known⟩ := exists_of_linked linked link
      rw [isAbove]
      exact arena.lookup?_iff.mp known

/-- The new node has no children yet, and it is added to those of its parent. -/
theorem mem_children_insert
    (arena : index.Arena)
    (linked : kind.parent?.map (fun parent => index.lookup? parent.id) = parent?.map some)
    {id : Nat}
    {node : Node β}
    (present : (index.insert kind parent?).1.node? id = some node)
    (child : Nat) :
    child ∈ node.children ↔
      ((index.insert kind parent?).1.node? child).bind Node.parent? = some id := by
  rw [parent?_insert]
  rcases insert_cases present with ⟨rfl, rfl⟩ | ⟨before, wasPresent, rfl⟩
  · refine iff_of_false (List.not_mem_nil) fun link => ?_
    split at link
    case isTrue => exact Nat.lt_irrefl _ (arena.lt_size_of_linked linked link)
    case isFalse =>
      obtain ⟨childNode, childPresent, childLink⟩ := Option.bind_eq_some_iff.mp link
      exact Nat.lt_irrefl _ (arena.parent_lt_size childPresent childLink)
  · by_cases newChild : child = index.size
    · have notBefore : child ∉ before.children := fun isChild =>
        Nat.lt_irrefl _ (newChild ▸ arena.child_lt_size wasPresent isChild)
      rw [if_pos newChild]
      by_cases isParent : parent? = some id
      · rw [if_pos isParent]
        exact iff_of_true (by simp [Node.addChild, newChild]) isParent
      · rw [if_neg isParent]
        exact iff_of_false notBefore isParent
    · rw [if_neg newChild, ← arena.mem_children wasPresent]
      split
      · simp [Node.addChild, newChild]
      · rfl

theorem children_sorted_insert
    (arena : index.Arena)
    {id : Nat}
    {node : Node β}
    (present : (index.insert kind parent?).1.node? id = some node) :
    node.children.Pairwise (· < ·) := by
  rcases insert_cases present with ⟨-, rfl⟩ | ⟨before, wasPresent, rfl⟩
  · exact List.Pairwise.nil
  · have sorted := arena.children_sorted wasPresent
    split
    · refine List.pairwise_append.mpr ⟨sorted, List.pairwise_singleton _ _, ?_⟩
      intro child isChild newest isNewest
      rw [List.mem_singleton.mp isNewest]
      exact arena.child_lt_size wasPresent isChild
    · exact sorted

/-- The new kind gets the new slot. -/
theorem lookup?_iff_insert
    (arena : index.Arena)
    (absent : index.lookup? kind.id = none)
    {kindId : String}
    {id : Nat} :
    (index.insert kind parent?).1.lookup? kindId = some id ↔
      ((index.insert kind parent?).1.node? id).map (fun node => node.kind.id) = some kindId := by
  rw [lookup?_insert]
  by_cases new : id = index.size
  · rw [new, node?_insert_size]
    by_cases same : kindId = kind.id
    · rw [same, absent, if_pos rfl]
      exact iff_of_true rfl rfl
    · rw [if_neg same, Option.or_none, arena.lookup?_iff, node?_size]
      refine iff_of_false (by simp) fun result => same ?_
      exact (Option.some.inj result).symm
  · rw [map_node?_insert _ (fun _ _ => rfl) index kind parent? new, ← arena.lookup?_iff]
    cases known : index.lookup? kindId with
    | some found => rfl
    | none =>
        rw [Option.none_or]
        refine iff_of_false (fun result => ?_) (by simp)
        split at result
        · exact new (Option.some.inj result).symm
        · cases result

/-- A new node below the node of its parent kind keeps the shape. -/
theorem insert
    (arena : index.Arena)
    (absent : index.lookup? kind.id = none)
    (linked : kind.parent?.map (fun parent => index.lookup? parent.id) = parent?.map some) :
    (index.insert kind parent?).1.Arena := by
  -- Parents are older than the new node, so what they show of themselves stays.
  have olderParents : ∀ parent, parent? = some parent → parent < index.size :=
    fun _ link => arena.lt_size_of_linked linked link
  constructor
  case id_eq =>
    intro id node present
    rcases insert_cases present with ⟨rfl, rfl⟩ | ⟨before, wasPresent, rfl⟩
    · rfl
    · rw [← arena.id_eq wasPresent]
      split <;> rfl
  case parent_lt =>
    intro id node parent present link
    rcases insert_cases present with ⟨rfl, rfl⟩ | ⟨before, wasPresent, rfl⟩
    · exact olderParents parent link
    · refine arena.parent_lt wasPresent ?_
      rw [← link]
      split <;> rfl
  case parent_kind =>
    intro id node present
    rcases insert_cases present with ⟨rfl, rfl⟩ | ⟨before, wasPresent, rfl⟩
    · exact (map_bind_insert _ (fun _ _ => rfl) index kind parent? olderParents).trans
        (arena.parent_kind_newNode linked)
    · have result := arena.parent_kind wasPresent
      rw [← map_bind_insert _ (fun _ _ => rfl) index kind parent? fun parent link =>
        arena.parent_lt_size wasPresent link] at result
      split <;> exact result
  case info_eq =>
    intro id node present
    rcases insert_cases present with ⟨rfl, rfl⟩ | ⟨before, wasPresent, rfl⟩
    · exact congrArg (KindInfo.below kind)
        (map_bind_insert _ (fun _ _ => rfl) index kind parent? olderParents).symm
    · have result := arena.info_eq wasPresent
      rw [← map_bind_insert _ (fun _ _ => rfl) index kind parent? fun parent link =>
        arena.parent_lt_size wasPresent link] at result
      split <;> exact result
  case mem_children =>
    intro id node present child
    exact arena.mem_children_insert linked present child
  case children_sorted =>
    intro id node present
    exact arena.children_sorted_insert present
  case lookup?_iff => exact arena.lookup?_iff_insert absent

end Insert

theorem of_growsTo
    {among : Kind → Prop}
    {later : Index β}
    (arena : index.Arena)
    (grows : GrowsTo among index later) :
    later.Arena := by
  induction grows with
  | refl => exact arena
  | insert _ _ absent linked inductionHypothesis => exact inductionHypothesis.insert absent linked

end Arena
end Index
end EventRelay
