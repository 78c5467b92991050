import EventRelay.Proofs.Hierarchy.Recomputation

/-!
# Reachable indices

An index is reachable if it arises from an empty one by making nodes, by adding and removing
listeners at any of its nodes, and by reading any of them, in any order. The caches of a
reachable index are coherent, so that a read gives what recomputing from the buckets gives.

As long as no two kinds share an identity, the lineage of a node consists of the nodes of its
kind's ancestors.
-/

namespace EventRelay

/-- No two of these kinds and of the kinds above them share an identity. -/
def Kind.Consistent (kinds : Kind → Prop) : Prop :=
  ∀ first second, kinds first → kinds second →
    ∀ above ∈ first.ancestors, ∀ other ∈ second.ancestors, above.id = other.id → above = other

theorem Kind.Consistent.mono
    {kinds fewer : Kind → Prop}
    (consistent : Kind.Consistent kinds)
    (included : ∀ kind, fewer kind → kinds kind) :
    Kind.Consistent fewer := by
  intro first second isFirst isSecond
  exact consistent first second (included first isFirst) (included second isSecond)

/-- The kind is one of these kinds or stands above one of them. -/
def Kind.Within (kinds : Kind → Prop) (kind : Kind) : Prop :=
  ∃ low, kinds low ∧ kind ∈ low.ancestors

theorem Kind.Within.of_mem_ancestors
    {kinds : Kind → Prop}
    {low kind : Kind}
    (isOne : kinds low)
    (above : kind ∈ low.ancestors) :
    Kind.Within kinds kind :=
  ⟨low, isOne, above⟩

theorem Kind.Within.self
    {kinds : Kind → Prop}
    {kind : Kind}
    (isOne : kinds kind) :
    Kind.Within kinds kind :=
  .of_mem_ancestors isOne (Kind.self_mem_ancestors kind)

theorem Kind.Within.up
    {kinds : Kind → Prop}
    {low kind : Kind}
    (within : Kind.Within kinds low)
    (above : kind ∈ low.ancestors) :
    Kind.Within kinds kind := by
  obtain ⟨lowest, isOne, aboveLowest⟩ := within
  exact .of_mem_ancestors isOne (Kind.mem_ancestors_trans aboveLowest above)

/-- An identity belongs to one kind. -/
theorem Kind.Consistent.eq_of_id_eq
    {kinds : Kind → Prop}
    (consistent : Kind.Consistent kinds)
    {first second : Kind}
    (isFirst : Kind.Within kinds first)
    (isSecond : Kind.Within kinds second)
    (sameId : first.id = second.id) :
    first = second := by
  obtain ⟨low, isLow, aboveLow⟩ := isFirst
  obtain ⟨other, isOther, aboveOther⟩ := isSecond
  exact consistent low other isLow isOther first aboveLow second aboveOther sameId

/-- Going up does not lead to other identities. -/
theorem Kind.Consistent.within
    {kinds : Kind → Prop}
    (consistent : Kind.Consistent kinds) :
    Kind.Consistent (Kind.Within kinds) := by
  intro first second isFirst isSecond above isAbove other isOther
  exact consistent.eq_of_id_eq (isFirst.up isAbove) (isSecond.up isOther)

namespace Index

variable {β : Type}

/-- The kinds of the nodes of a lineage. -/
def lineageKinds (index : Index β) (id : Nat) : List Kind :=
  (index.lineage id).filterMap fun ancestor => (index.node? ancestor).map Node.kind

theorem kind_mem_kinds
    {index : Index β}
    {id : Nat}
    {node : Node β}
    (present : index.node? id = some node) :
    node.kind ∈ index.kinds :=
  List.mem_map_of_mem (List.mem_of_getElem? present)

namespace Arena

variable {index : Index β}

/-- A node without a parent is that of a root kind. -/
theorem parent?_eq_none_iff
    (arena : index.Arena)
    {id : Nat}
    {node : Node β}
    (present : index.node? id = some node) :
    node.parent? = none ↔ node.kind.parent? = none := by
  have link := arena.parent_kind present
  cases isAbove : node.parent? with
  | none =>
      rw [isAbove] at link
      exact iff_of_true rfl (Option.map_eq_none_iff.mp link.symm)
  | some parent =>
      obtain ⟨parentNode, parentPresent⟩ := arena.exists_parent present isAbove
      rw [isAbove, Option.bind_some, parentPresent, Option.map_some] at link
      refine iff_of_false (by simp) fun isRoot => ?_
      rw [isRoot] at link
      cases link

/-- A kind of the index has a node. -/
theorem exists_lookup?
    (arena : index.Arena)
    {kind : Kind}
    (isKind : kind ∈ index.kinds) :
    ∃ id, index.lookup? kind.id = some id := by
  obtain ⟨id, isAt⟩ := List.mem_iff_getElem?.mp isKind
  rw [kinds, List.getElem?_map] at isAt
  refine ⟨id, arena.lookup?_iff.mpr ?_⟩
  obtain ⟨node, present, rfl⟩ := Option.map_eq_some_iff.mp isAt
  rw [node?, present]
  rfl

/-- The lineage of a node consists of the nodes of the ancestors of its kind. -/
theorem lineageKinds_eq
    (arena : index.Arena)
    (consistent : Kind.Consistent (· ∈ index.kinds))
    {id : Nat}
    {node : Node β}
    (present : index.node? id = some node) :
    index.lineageKinds id = node.kind.ancestors := by
  induction id using Nat.strongRecOn generalizing node with
  | ind id inductionHypothesis =>
      have link := arena.parent_kind present
      cases kindCase : node.kind with
      | root own =>
          have isRoot : node.parent? = none := by
            rw [arena.parent?_eq_none_iff present, kindCase]
            rfl
          rw [lineageKinds, lineage_eq_singleton present isRoot]
          simp [present, kindCase, Kind.ancestors]
      | child own above =>
          obtain ⟨parent, isAbove⟩ : ∃ parent, node.parent? = some parent := by
            refine Option.ne_none_iff_exists'.mp fun isRoot => ?_
            rw [arena.parent?_eq_none_iff present, kindCase] at isRoot
            cases isRoot
          obtain ⟨parentNode, parentPresent⟩ := arena.exists_parent present isAbove
          have sameParent : parentNode.kind = above := by
            rw [isAbove, Option.bind_some, parentPresent, kindCase] at link
            refine consistent.eq_of_id_eq (.self (kind_mem_kinds parentPresent))
              (.of_mem_ancestors (kind_mem_kinds present) ?_) (Option.some.inj link)
            rw [kindCase]
            exact List.mem_cons_of_mem _ (Kind.self_mem_ancestors above)
          have higher :=
            inductionHypothesis parent (arena.parent_lt present isAbove) parentPresent
          rw [lineageKinds] at higher
          rw [lineageKinds, arena.lineage_eq_cons present isAbove]
          simp [present, kindCase, Kind.ancestors, higher, sameParent]

/-- Where buckets follow from kinds, what is gathered follows from the kinds of the lineage. -/
theorem gatheredAt_eq_flatMap_lineageKinds
    (arena : index.Arena)
    {priority : Priority}
    {entries : Kind → List (Listener β)}
    (buckets : ∀ {id node}, index.node? id = some node →
      index.ownAt id priority = entries node.kind)
    (id : Nat) :
    index.gatheredAt id priority = (index.lineageKinds id).flatMap entries := by
  rw [gatheredAt, lineageKinds, List.filterMap_eq_flatMap_toList, List.flatMap_assoc]
  refine List.flatMap_congr fun ancestor above => ?_
  obtain ⟨node, present⟩ := arena.exists_of_mem_lineage above
  rw [buckets present, present, Option.map_some, Option.toList_some, List.flatMap_singleton]

/-- Events of a node's kind can be canceled exactly if the recomputation says so. -/
theorem declaresCancellable_eq
    (arena : index.Arena)
    (consistent : Kind.Consistent (· ∈ index.kinds))
    {id : Nat}
    {node : Node β}
    (present : index.node? id = some node) :
    index.declaresCancellable id = node.kind.isCancellable := by
  rw [Kind.isCancellable, ← arena.lineageKinds_eq consistent present, lineageKinds,
    declaresCancellable, List.any_filterMap]
  refine congrArg (List.any _) (funext fun ancestor => ?_)
  cases index.node? ancestor <;> rfl

/-- Where kinds are told apart by their identities, the node found for a kind is its node. -/
theorem exists_kind_of_lookup?
    (arena : index.Arena)
    {kinds : Kind → Prop}
    (consistent : Kind.Consistent kinds)
    (within : ∀ kind ∈ index.kinds, Kind.Within kinds kind)
    {kind : Kind}
    (isWithin : Kind.Within kinds kind)
    {id : Nat}
    (found : index.lookup? kind.id = some id) :
    ∃ node, index.node? id = some node ∧ node.kind = kind := by
  obtain ⟨node, present, sameId⟩ := arena.exists_of_lookup? found
  exact ⟨node, present,
    consistent.eq_of_id_eq (within _ (kind_mem_kinds present)) isWithin sameId⟩

end Arena

/-- Indices that arise from an empty one. -/
inductive Reachable : Index β → Prop
  | new (tracksPhases : Bool) : Reachable (empty tracksPhases)
  /-- Asking for the node of a kind. -/
  | nodeFor {index later : Index β} {kind : Kind} {id : Nat} :
      Reachable index → index.nodeFor kind = .ok (later, id) → Reachable later
  /-- Adding any listener to a node at any priority. -/
  | register {index : Index β} (id : Nat) (priority : Priority) (listener : Listener β) :
      Reachable index → Reachable (index.register id priority listener)
  /-- Removing a listener from a node. -/
  | unregister {index : Index β} (id : Nat) (listener : ListenerId) :
      Reachable index → Reachable (index.unregister id listener)
  /-- Removing several listeners from a node. -/
  | unregisterAll {index : Index β} (id : Nat) (listeners : List ListenerId) :
      Reachable index → Reachable (index.unregisterAll id listeners)
  /-- Reading the array of a node. -/
  | flattened {index : Index β} (id : Nat) :
      Reachable index → Reachable (index.flattened id).1
  /-- Reading the array of one priority. -/
  | phaseListeners {index : Index β} (id : Nat) (priority : Priority) :
      Reachable index → Reachable (index.phaseListeners id priority).1

namespace Reachable

variable {index : Index β}

theorem coherent (reachable : index.Reachable) : index.Coherent := by
  induction reachable with
  | new tracksPhases => exact .empty tracksPhases
  | nodeFor _ made inductionHypothesis =>
      exact inductionHypothesis.of_growsTo (nodeFor_grows made).1
  | register id priority listener _ inductionHypothesis =>
      exact inductionHypothesis.register id priority listener
  | unregister id listener _ inductionHypothesis =>
      exact inductionHypothesis.unregister id listener
  | unregisterAll id listeners _ inductionHypothesis =>
      exact inductionHypothesis.unregisterAll id listeners
  | flattened id _ inductionHypothesis => exact (inductionHypothesis.refresh id).1
  | phaseListeners id priority _ inductionHypothesis => exact (inductionHypothesis.refresh id).1

/-- Reading a node gives what recomputing from the buckets gives. Where kinds are told apart
by their identities, the recomputation runs through the kind's ancestors and drops the checks
for cancellation exactly if none of them declares cancellability. -/
theorem listeners_flattened
    (reachable : index.Reachable)
    {id : Nat}
    {node : Node β}
    (present : index.node? id = some node) :
    (index.flattened id).2.listeners = index.recomputed id ∧
      (Kind.Consistent (· ∈ index.kinds) →
        index.lineageKinds id = node.kind.ancestors ∧
          index.declaresCancellable id = node.kind.isCancellable) :=
  ⟨(reachable.coherent.current_refresh present).listeners, fun consistent =>
    ⟨reachable.coherent.arena.lineageKinds_eq consistent present,
      reachable.coherent.arena.declaresCancellable_eq consistent present⟩⟩

/-! ### A child that is made late -/

/-- A kind whose events cannot be canceled. -/
def alarm : Kind := .root ⟨"Alarm", "Alarm", false, false, []⟩

/-- A kind below it whose events can be canceled. -/
def drill : Kind := .child ⟨"Drill", "Drill", false, true, []⟩ alarm

/-- A listener that does not want canceled events. -/
def sampleListener (number : Nat) (kind : Kind) (priority : Priority) : Listener Unit :=
  .create ⟨number⟩ kind priority false "" ()

/-- One listener for alarms, after whose first read the node of drills is made. -/
def withDrill : Index Unit :=
  let heard := ((empty true).insert alarm none).1.register 0 .high (sampleListener 1 alarm .high)
  ((heard.flattened 0).1.insert drill (some 0)).1

/-- A listener for drills that is read, and then a second listener for alarms. -/
def lateDrill : Index Unit :=
  let read := ((withDrill.register 1 .normal (sampleListener 2 drill .normal)).flattened 1).1
  read.register 0 .normal (sampleListener 3 alarm .normal)

theorem reachable_lateDrill : lateDrill.Reachable := by
  have root : (empty true : Index Unit).nodeFor alarm = .ok ((empty true).insert alarm none) := rfl
  have heard : Reachable
      ((((empty true).insert alarm none).1.register 0 .high
        (sampleListener 1 alarm .high)).flattened 0).1 :=
    .flattened 0 (.register 0 .high _ (.nodeFor (.new true) root))
  have made : Reachable withDrill :=
    .nodeFor heard (nodeFor_child (by decide +kernel) rfl (by decide +kernel))
  exact .register 0 .normal _ (.flattened 1 (.register 1 .normal _ made))

/-- The cache of the drills' node is stale here, and the read finds all three listeners, all
of them with their checks. -/
theorem listeners_flattened_lateDrill :
    lateDrill.Reachable ∧ (∃ node, lateDrill.node? 1 = some node ∧ node.isStale = true) ∧
      (lateDrill.flattened 1).2.listeners = lateDrill.recomputed 1 ∧
      (lateDrill.recomputed 1).map (fun entry => (entry.id.value, entry.checksCancellation)) =
        [(1, true), (2, true), (3, true)] := by
  have two : 1 < lateDrill.size := by decide +kernel
  obtain ⟨node, present⟩ := exists_node? two
  have stale : (lateDrill.node? 1).map Node.isStale = some true := by decide +kernel
  rw [present] at stale
  exact ⟨reachable_lateDrill, ⟨node, present, Option.some.inj stale⟩,
    (listeners_flattened reachable_lateDrill present).1, by decide +kernel⟩

end Reachable
end Index
end EventRelay
