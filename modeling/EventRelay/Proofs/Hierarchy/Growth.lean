import EventRelay.Proofs.Hierarchy.Outcome

/-!
# Indices that have only grown

Making nodes disturbs nothing that an index holds. The nodes that were there keep their
buckets, their generations and their caches and may only get new children, the new nodes are
empty, and events of every kind meet the same listeners as before, whether the kind had its
node already, has got it in between, or still has to get it.

What events of a kind meet is therefore described by the buckets of the kinds above it, found
by their identities. A kind without a node counts like one whose buckets are empty.
-/

namespace EventRelay
namespace Index

variable {β : Type}

/-- The array that events of a kind meet. The node of the kind is made if there is none. -/
def arrayFor (index : Index β) (kind : Kind) : Except BusError (List (Listener β)) :=
  (index.nodeFor kind).map fun found => (found.1.flattened found.2).2.listeners

/-- The entries registered for a kind at a priority; none if the kind has no node. -/
def entriesOf (index : Index β) (kindId : String) (priority : Priority) : List (Listener β) :=
  match index.lookup? kindId with
  | some id => index.ownAt id priority
  | none => []

/-- The entries of a kind and of those above it, priority by priority and from the kind
upwards, in the form in which events of the kind meet them. -/
def expected (index : Index β) (kind : Kind) : List (Listener β) :=
  let entries := Priority.all.flatMap fun priority =>
    kind.ancestors.flatMap fun above => index.entriesOf above.id priority
  if kind.isCancellable then entries else entries.map Listener.unchecked

/-- Compared with an earlier index, a later one has only empty nodes in addition. -/
structure OnlyGrown (index later : Index β) : Prop where
  tracksPhases : later.tracksPhases = index.tracksPhases
  /-- Kinds keep their nodes. -/
  lookup? : ∀ {kindId id}, index.lookup? kindId = some id → later.lookup? kindId = some id
  /-- A node that was there is as it was, but for new children. -/
  kept : ∀ {id node}, index.node? id = some node → ∃ added,
    later.node? id = some { node with children := node.children ++ added } ∧
      ∀ child ∈ added, index.size ≤ child
  /-- The nodes that were not there have no listeners. -/
  made : ∀ {id node}, later.node? id = some node → index.size ≤ id →
    ∀ priority, node.buckets.get priority = .empty
  /-- Every node is among the children of its parent. -/
  linked : ∀ {id node parent}, later.node? id = some node → node.parent? = some parent →
    ∃ above, later.node? parent = some above ∧ id ∈ above.children
  /-- Events of every kind meet what they met before. -/
  arrays : ∀ kind, Kind.Consistent (fun other => other ∈ later.kinds ∨ other = kind) →
    later.arrayFor kind = index.arrayFor kind

/-! ## Nodes -/

namespace GrowsTo

variable {among : Kind → Prop} {index later : Index β}

theorem tracksPhases (grows : GrowsTo among index later) :
    later.tracksPhases = index.tracksPhases := by
  induction grows with
  | refl => rfl
  | insert _ _ _ _ inductionHypothesis => rw [tracksPhases_insert, inductionHypothesis]

theorem size_le (grows : GrowsTo among index later) : index.size ≤ later.size := by
  simpa [kinds, size] using grows.kinds_extend.length_le

/-- A node gets no other changes than new children. -/
theorem node?_of_old
    (grows : GrowsTo among index later)
    {id : Nat}
    {node : Node β}
    (present : index.node? id = some node) :
    ∃ added, later.node? id = some { node with children := node.children ++ added } ∧
      ∀ child ∈ added, index.size ≤ child := by
  induction grows with
  | refl => exact ⟨[], by rw [List.append_nil, present], fun _ isAdded => nomatch isAdded⟩
  | @insert later kind parent? earlier _ _ _ inductionHypothesis =>
      obtain ⟨added, stillPresent, areNew⟩ := inductionHypothesis
      have old : id ≠ later.size :=
        Nat.ne_of_lt (Nat.lt_of_lt_of_le (node?_lt_size present) earlier.size_le)
      rw [node?_insert, if_neg old, stillPresent]
      by_cases isParent : parent? = some id
      · rw [if_pos isParent]
        refine ⟨added ++ [later.size], by simp [Node.addChild], fun child isAdded => ?_⟩
        rcases List.mem_append.mp isAdded with before | newest
        · exact areNew child before
        · rw [List.mem_singleton.mp newest]
          exact earlier.size_le
      · rw [if_neg isParent]
        exact ⟨added, rfl, areNew⟩

theorem buckets_of_new
    (grows : GrowsTo among index later)
    {id : Nat}
    {node : Node β}
    (present : later.node? id = some node)
    (new : index.size ≤ id)
    (priority : Priority) :
    node.buckets.get priority = .empty := by
  induction grows generalizing node with
  | refl => exact absurd (node?_lt_size present) (Nat.not_lt.mpr new)
  | insert _ _ _ _ inductionHypothesis =>
      rcases insert_cases present with ⟨-, rfl⟩ | ⟨before, wasPresent, rfl⟩
      · exact PerPriority.get_ofFn ..
      · rw [← inductionHypothesis wasPresent]
        split <;> rfl

/-! ## Arrays -/

theorem ownAt
    (grows : GrowsTo among index later)
    (id : Nat)
    (priority : Priority) :
    later.ownAt id priority = index.ownAt id priority := by
  induction grows with
  | refl => rfl
  | insert _ _ _ _ inductionHypothesis => rw [ownAt_insert, inductionHypothesis]

/-- A new node has as many entries as no node. -/
theorem entriesOf
    (grows : GrowsTo among index later)
    (kindId : String)
    (priority : Priority) :
    later.entriesOf kindId priority = index.entriesOf kindId priority := by
  induction grows with
  | refl => rfl
  | @insert later kind parent? _ _ _ _ inductionHypothesis =>
      rw [← inductionHypothesis, Index.entriesOf, Index.entriesOf, lookup?_insert]
      cases later.lookup? kindId with
      | some id => exact ownAt_insert ..
      | none =>
          rw [Option.none_or]
          split
          case h_1 id isNew =>
            split at isNew
            case isTrue =>
              cases isNew
              rw [ownAt_insert, ownAt_of_size_le (Nat.le_refl _)]
            case isFalse => cases isNew
          case h_2 => rfl

theorem expected
    (grows : GrowsTo among index later)
    (kind : Kind) :
    later.expected kind = index.expected kind := by
  rw [Index.expected, Index.expected, funext fun kindId => funext (grows.entriesOf kindId)]

end GrowsTo

theorem Arena.ownAt_eq_entriesOf
    {index : Index β}
    (arena : index.Arena)
    {id : Nat}
    {node : Node β}
    (present : index.node? id = some node)
    (priority : Priority) :
    index.ownAt id priority = index.entriesOf node.kind.id priority := by
  have found : index.lookup? node.kind.id = some id := by
    rw [arena.lookup?_iff, present]
    rfl
  rw [entriesOf, found]

/-- The array at the node of a kind is described by the buckets of the kinds above it. -/
theorem Coherent.listeners_flattened_eq_expected
    {index : Index β}
    (coherent : index.Coherent)
    (consistent : Kind.Consistent (· ∈ index.kinds))
    {id : Nat}
    {node : Node β}
    (present : index.node? id = some node) :
    (index.flattened id).2.listeners = index.expected node.kind := by
  have gathered : index.gathered id = Priority.all.flatMap fun priority =>
      node.kind.ancestors.flatMap fun above => index.entriesOf above.id priority := by
    rw [Index.gathered, ← coherent.arena.lineageKinds_eq consistent present]
    exact List.flatMap_congr fun priority _ =>
      coherent.arena.gatheredAt_eq_flatMap_lineageKinds
        (fun isPresent => coherent.arena.ownAt_eq_entriesOf isPresent priority) id
  have read : (index.flattened id).2.listeners = index.recomputed id :=
    (coherent.current_refresh present).listeners
  rw [read, recomputed, dispatchForm, coherent.arena.declaresCancellable_eq consistent present,
    gathered, expected]

/-- Events of a kind with a sound chain meet what the buckets of the kinds above it hold. -/
theorem Reachable.arrayFor_of_soundChain
    {index : Index β}
    (reachable : index.Reachable)
    {kind : Kind}
    (consistent : Kind.Consistent fun other => other ∈ index.kinds ∨ other = kind)
    (sound : kind.SoundChain) :
    index.arrayFor kind = .ok (index.expected kind) := by
  obtain ⟨later, id, made⟩ := index.exists_nodeFor sound
  obtain ⟨grows, found⟩ := nodeFor_grows made
  have coherent : later.Coherent := reachable.coherent.of_growsTo grows
  have within : ∀ other ∈ later.kinds,
      Kind.Within (fun other => other ∈ index.kinds ∨ other = kind) other := by
    intro other isKind
    rcases grows.mem_kinds isKind with old | isAbove
    · exact .self (.inl old)
    · exact .of_mem_ancestors (.inr rfl) isAbove
  obtain ⟨node, present, rfl⟩ :=
    coherent.arena.exists_kind_of_lookup? consistent within (.self (.inr rfl)) found
  rw [arrayFor, made, ← grows.expected,
    ← coherent.listeners_flattened_eq_expected (consistent.within.mono within) present]
  rfl

/-- Where the chain of a kind is not sound, the refusal does not depend on the index. -/
theorem Reachable.arrayFor_of_firstOffending?
    {index : Index β}
    (reachable : index.Reachable)
    {kind low : Kind}
    (consistent : Kind.Consistent fun other => other ∈ index.kinds ∨ other = kind)
    (first : kind.firstOffending? = some low) :
    ∃ parent above, low.parent? = some parent ∧ parent.firstConcrete? = some above ∧
      index.arrayFor kind = .error (.brokenAbstractChain low.name parent.name above.name) := by
  obtain ⟨parent, above, isParent, isFirst, refused⟩ := nodeFor_of_firstOffending?
    reachable.coherent.arena (reachable.soundChain (consistent.mono fun _ => .inl)) consistent first
  exact ⟨parent, above, isParent, isFirst, by rw [arrayFor, refused]; rfl⟩

/-- Nothing but the buckets matters for what events of a kind meet. -/
theorem Reachable.arrayFor_congr
    {index later : Index β}
    (reachable : index.Reachable)
    (laterReachable : later.Reachable)
    (sameEntries : ∀ kindId priority,
      later.entriesOf kindId priority = index.entriesOf kindId priority)
    {kind : Kind}
    (consistent : Kind.Consistent fun other => other ∈ index.kinds ∨ other = kind)
    (laterConsistent : Kind.Consistent fun other => other ∈ later.kinds ∨ other = kind) :
    later.arrayFor kind = index.arrayFor kind := by
  cases first : kind.firstOffending? with
  | none =>
      have sound := Kind.soundChain_iff.mpr first
      have sameExpected : later.expected kind = index.expected kind := by
        rw [expected, expected, funext fun kindId => funext (sameEntries kindId)]
      rw [laterReachable.arrayFor_of_soundChain laterConsistent sound,
        reachable.arrayFor_of_soundChain consistent sound, sameExpected]
  | some low =>
      obtain ⟨parent, above, isParent, isFirst, refused⟩ :=
        laterReachable.arrayFor_of_firstOffending? laterConsistent first
      obtain ⟨same, concrete, isSame, isSameFirst, wasRefused⟩ :=
        reachable.arrayFor_of_firstOffending? consistent first
      rw [isParent] at isSame
      cases isSame
      rw [isFirst] at isSameFirst
      cases isSameFirst
      rw [refused, wasRefused]

/-- Making nodes changes the array of no kind. -/
theorem GrowsTo.arrayFor
    {among : Kind → Prop}
    {index later : Index β}
    (grows : GrowsTo among index later)
    (reachable : index.Reachable)
    (laterReachable : later.Reachable)
    {kind : Kind}
    (consistent : Kind.Consistent fun other => other ∈ later.kinds ∨ other = kind) :
    later.arrayFor kind = index.arrayFor kind := by
  have before : Kind.Consistent fun other => other ∈ index.kinds ∨ other = kind :=
    consistent.mono fun other isOther => isOther.imp_left fun old => grows.kinds_extend.subset old
  exact reachable.arrayFor_congr laterReachable grows.entriesOf before consistent

theorem GrowsTo.onlyGrown
    {among : Kind → Prop}
    {index later : Index β}
    (grows : GrowsTo among index later)
    (reachable : index.Reachable)
    (laterReachable : later.Reachable) :
    index.OnlyGrown later where
  tracksPhases := grows.tracksPhases
  lookup? := grows.lookup?
  kept := grows.node?_of_old
  made := grows.buckets_of_new
  linked := by
    intro id node parent present link
    obtain ⟨above, abovePresent⟩ := laterReachable.coherent.arena.exists_parent present link
    refine ⟨above, abovePresent, ?_⟩
    rw [laterReachable.coherent.arena.mem_children abovePresent, present]
    exact link
  arrays := fun _ consistent => grows.arrayFor reachable laterReachable consistent

end Index
end EventRelay
