import EventRelay.Proofs.Interleaving.Telling

/-!
# Recent arrays

An array is composed of what the buckets of its node and of those above it have held, each at a
moment of its own. It is recent at a moment if none of these lacks a change that the node had been
told of by then.

Two things carry this. As long as a node stands at the generation that was captured for an array,
it is not told anything new, so the array stays recent. And a parent is told before its children,
so what a parent gives away after the generation was captured is recent enough.
-/

namespace EventRelay

variable {β : Type}

/-- An array has been built at some node. -/
def Flattened.IsBuilt (array : Flattened β) : Prop :=
  ∃ (node : Node β) (tracksPhases : Bool) (inherited? : Option (Flattened β)),
    array = node.flatten tracksPhases inherited?

namespace History

variable {history : History β} {now moment early late captured begun current number id : Nat}
  {array : Flattened β}

/-- An array holds what the buckets of a lineage held when they were read. -/
structure Composes (history : History β) (now : Nat) (read : Nat → Nat) (id : Nat)
    (array : Flattened β) : Prop where
  isBuilt : array.IsBuilt
  inTime : ∀ above, read above ≤ now
  merged : ∀ priority, array.merged.get priority =
    ((history.indexAt now).lineage id).flatMap fun above =>
      (history.indexAt (read above)).ownAt above priority

/-- An array shows all changes that its node had been told of by a moment. -/
def Recent (history : History β) (now moment id : Nat) (array : Flattened β) : Prop :=
  ∃ read, history.Composes now read id array ∧
    ∀ {teller root}, history.Alters teller root → history.Told teller moment id →
      (history.crowdAt (read root)).HasChanged teller

/-- A node stands at a generation. -/
def StandsAt (history : History β) (moment id generation : Nat) : Prop :=
  ∃ node, (history.indexAt moment).node? id = some node ∧ node.generation = generation

/-- An array is recent for as long as its node has not left its generation behind. -/
def Valid (history : History β) (now id : Nat) (array : Flattened β) : Prop :=
  ∀ {moment node}, (history.indexAt moment).node? id = some node →
    node.generation ≤ array.generation → history.Recent now moment id array

namespace Recent

theorem of_told
    (recent : history.Recent now late id array)
    (tells : ∀ {teller}, history.Told teller early id → history.Told teller late id) :
    history.Recent now early id array := by
  obtain ⟨read, composes, knows⟩ := recent
  exact ⟨read, composes, fun alters told => knows alters (tells told)⟩

theorem earlier
    (recent : history.Recent now late id array)
    (isLater : early ≤ late) :
    history.Recent now early id array :=
  recent.of_told fun told => told.later isLater

/-- An array for a captured generation is valid. -/
theorem valid
    (recent : history.Recent now captured id array)
    (stands : history.StandsAt captured id array.generation) :
    history.Valid now id array := by
  intro moment node present atMost
  obtain ⟨other, isOther, same⟩ := stands
  rcases Nat.le_total moment captured with isEarlier | isLater
  · exact recent.earlier isEarlier
  · exact recent.of_told fun told =>
      told.of_generation_le isLater isOther present (same ▸ atMost)

section Building

variable {node : Node β}

/-- An array of a node without a parent holds what is in the bucket. -/
theorem of_root
    (isCaptured : captured ≤ current)
    (inTime : current ≤ now)
    (present : (history.indexAt current).node? id = some node)
    (isRoot : node.parent? = none)
    (isBuilt : array.IsBuilt)
    (merged : ∀ priority,
      array.merged.get priority = (history.indexAt current).ownAt id priority) :
    history.Recent now captured id array := by
  obtain ⟨after, isAfter, aged⟩ := (history.ages inTime).node present
  refine ⟨fun _ => current, ⟨isBuilt, fun _ => inTime, fun priority => ?_⟩, fun _ told =>
    (history.run isCaptured).changed told.hasChanged⟩
  rw [merged, Index.lineage_eq_singleton isAfter (aged.parent.trans isRoot),
    List.flatMap_singleton]

/-- An array that holds what is in the bucket and a recent array of the parent is recent. -/
theorem of_parent
    {parent : Nat}
    {inherited : Flattened β}
    (isCaptured : captured ≤ current)
    (inTime : current ≤ now)
    (present : (history.indexAt current).node? id = some node)
    (isAbove : node.parent? = some parent)
    (recent : history.Recent now captured parent inherited)
    (isBuilt : array.IsBuilt)
    (merged : ∀ priority, array.merged.get priority =
      (history.indexAt current).ownAt id priority ++ inherited.merged.get priority) :
    history.Recent now captured id array := by
  obtain ⟨after, isAfter, aged⟩ := (history.ages inTime).node present
  obtain ⟨read, composes, knows⟩ := recent
  have shaped := (history.sound now).shaped
  have lower := shaped.parent_lt isAfter (aged.parent.trans isAbove)
  refine ⟨fun other => if other = id then current else read other,
    ⟨isBuilt, fun other => ?_, fun priority => ?_⟩, fun {teller root} alters told => ?_⟩
  · split
    case isTrue => exact inTime
    case isFalse => exact composes.inTime other
  · have unmoved : ∀ other ∈ (history.indexAt now).lineage parent, other ≠ id := by
      intro other isHigher
      have bound := shaped.le_of_mem_lineage isHigher
      omega
    rw [merged, composes.merged, Index.lineage_of_node? isAfter, aged.parent, isAbove]
    simp only [if_pos lower, List.flatMap_cons, if_true]
    congr 1
    exact List.flatMap_congr fun other isHigher => by rw [if_neg (unmoved other isHigher)]
  · dsimp only
    split
    case isTrue => exact (history.run isCaptured).changed told.hasChanged
    case isFalse differs =>
      -- Whoever told the node of another one has told its parent before.
      obtain rfl | ⟨before, above, was, wasAbove, told⟩ := told.parent alters
      · exact absurd rfl differs
      · obtain ⟨_, isNode, agedBefore⟩ := (history.ages isCaptured).node was
        rw [present] at isNode
        cases isNode
        rw [agedBefore.parent, wasAbove] at isAbove
        cases isAbove
        exact knows alters told

/-- An array that is built on a recent one is recent. -/
theorem flatten
    {inherited? : Option (Flattened β)}
    (isCaptured : captured ≤ current)
    (inTime : current ≤ now)
    (present : (history.indexAt current).node? id = some node)
    (inherits : Option.Rel (history.Recent now captured) node.parent? inherited?)
    (generation : Nat)
    (tracksPhases : Bool) :
    history.Recent now captured id
      ({ node with generation := generation }.flatten tracksPhases inherited?) := by
  have own (priority : Priority) :
      (node.buckets.get priority).listeners = (history.indexAt current).ownAt id priority :=
    (Index.ownAt_of_node? present priority).symm
  cases isAbove : node.parent? with
  | none =>
      rw [isAbove] at inherits
      cases inherits
      refine of_root isCaptured inTime present isAbove ⟨_, _, _, rfl⟩ fun priority => ?_
      rw [← own, Node.flatten, PerPriority.get_ofFn]
      exact List.append_nil _
  | some parent =>
      rw [isAbove] at inherits
      cases inherits with
      | some recent =>
          refine of_parent isCaptured inTime present isAbove recent ⟨_, _, _, rfl⟩
            fun priority => ?_
          rw [← own, Node.flatten, PerPriority.get_ofFn]
          rfl

end Building
end Recent
end History
end EventRelay
