import EventRelay.Proofs.Hierarchy.Invalidation

/-!
# Cached and recomputed arrays

What an event of a kind meets can be recomputed from the buckets at any time: at each
priority the entries of the kind's node, then those of its parent, up to the root. A node
reads its cache instead, and decides by one counter whether the cache still holds.

`Coherent` is the invariant behind this. A cache that is not stale agrees with the
recomputation, and a node that is not stale has no stale node above it. All operations on
an index keep it, so reading a node gives what recomputing gives.
-/

namespace EventRelay

variable {β : Type}

/-- What recomputing reads of a node. -/
def Node.contents (node : Node β) : Kind × PerPriority (Bucket β) := (node.kind, node.buckets)

namespace Index

/-! ## Recomputing -/

/-- The entries registered at a priority for the kind of a node, the oldest first. -/
def ownAt (index : Index β) (id : Nat) (priority : Priority) : List (Listener β) :=
  match index.node? id with
  | some node => (node.buckets.get priority).listeners
  | none => []

/-- The entries at a priority that concern a node: its own ones, then those of its parent,
up to the root. -/
def gatheredAt (index : Index β) (id : Nat) (priority : Priority) : List (Listener β) :=
  (index.lineage id).flatMap fun ancestor => index.ownAt ancestor priority

/-- All entries that concern a node, priority by priority. -/
def gathered (index : Index β) (id : Nat) : List (Listener β) :=
  Priority.all.flatMap (index.gatheredAt id)

/-- The kind of a node or one above it declares cancellability. -/
def declaresCancellable (index : Index β) (id : Nat) : Bool :=
  (index.lineage id).any fun ancestor =>
    (index.node? ancestor).any fun node => node.kind.own.cancellable

/-- Entries in the form in which a node dispatches them. -/
def dispatchForm (index : Index β) (id : Nat) (entries : List (Listener β)) :
    List (Listener β) :=
  if index.declaresCancellable id then entries else entries.map Listener.unchecked

/-- What an event of a node's kind meets, recomputed from the buckets. -/
def recomputed (index : Index β) (id : Nat) : List (Listener β) :=
  index.dispatchForm id (index.gathered id)

/-- What it meets at one priority. -/
def recomputedAt (index : Index β) (id : Nat) (priority : Priority) : List (Listener β) :=
  index.dispatchForm id (index.gatheredAt id priority)

/-- The buckets of a node show in its contents. -/
theorem ownAt_congr
    {index later : Index β}
    {id : Nat}
    (same : (later.node? id).map Node.contents = (index.node? id).map Node.contents)
    (priority : Priority) :
    later.ownAt id priority = index.ownAt id priority := by
  unfold ownAt
  cases first : later.node? id <;> cases second : index.node? id <;>
    simp_all [Node.contents]

/-- Recomputing reads only the nodes of the lineage. -/
theorem recomputation_congr
    {index later : Index β}
    {id : Nat}
    (sameLineage : later.lineage id = index.lineage id)
    (sameContents : ∀ ancestor ∈ index.lineage id,
      (later.node? ancestor).map Node.contents = (index.node? ancestor).map Node.contents) :
    later.gatheredAt id = index.gatheredAt id ∧
      later.declaresCancellable id = index.declaresCancellable id := by
  constructor
  · funext priority
    rw [gatheredAt, gatheredAt, sameLineage]
    exact List.flatMap_congr fun ancestor above =>
      ownAt_congr (sameContents ancestor above) priority
  · rw [declaresCancellable, declaresCancellable, sameLineage, Bool.eq_iff_iff,
      List.any_eq_true, List.any_eq_true]
    refine exists_congr fun ancestor => and_congr_right fun above => ?_
    have same := sameContents ancestor above
    cases first : later.node? ancestor <;> cases second : index.node? ancestor <;>
      simp_all [Node.contents]

/-- A node keeps whether its kind or one above it declares cancellability. -/
theorem Arena.info_cancellable
    {index : Index β}
    (arena : index.Arena)
    {id : Nat}
    {node : Node β}
    (present : index.node? id = some node) :
    node.info.cancellable = index.declaresCancellable id := by
  induction id using Nat.strongRecOn generalizing node with
  | ind id inductionHypothesis =>
      have info := arena.info_eq present
      cases link : node.parent? with
      | none =>
          rw [info, link, declaresCancellable, lineage_eq_singleton present link]
          simp [KindInfo.below, present]
      | some parent =>
          obtain ⟨parentNode, parentPresent⟩ := arena.exists_parent present link
          have above := inductionHypothesis parent (arena.parent_lt present link) parentPresent
          rw [declaresCancellable] at above
          rw [info, link, declaresCancellable, arena.lineage_eq_cons present link]
          simp [KindInfo.below, present, parentPresent, above]

theorem Arena.gatheredAt_eq
    {index : Index β}
    (arena : index.Arena)
    {id parent : Nat}
    {node : Node β}
    (present : index.node? id = some node)
    (link : node.parent? = some parent)
    (priority : Priority) :
    index.gatheredAt id priority =
      (node.buckets.get priority).listeners ++ index.gatheredAt parent priority := by
  rw [gatheredAt, arena.lineage_eq_cons present link, List.flatMap_cons, ownAt, present,
    gatheredAt]

theorem gatheredAt_root
    {index : Index β}
    {id : Nat}
    {node : Node β}
    (present : index.node? id = some node)
    (isRoot : node.parent? = none)
    (priority : Priority) :
    index.gatheredAt id priority = (node.buckets.get priority).listeners := by
  rw [gatheredAt, lineage_eq_singleton present isRoot, List.flatMap_singleton, ownAt, present]

/-- A new node stands above no older one. -/
theorem lineage_insert
    {index : Index β}
    (arena : index.Arena)
    (kind : Kind)
    (parent? : Option Nat)
    {id : Nat}
    (old : id < index.size) :
    (index.insert kind parent?).1.lineage id = index.lineage id := by
  induction id using Nat.strongRecOn with
  | ind id inductionHypothesis =>
      obtain ⟨node, wasPresent⟩ := exists_node? old
      have sameParent := map_node?_insert Node.parent? (fun _ _ => rfl) index kind
        parent? (Nat.ne_of_lt old)
      rw [wasPresent] at sameParent
      obtain ⟨later, present, link⟩ := Option.map_eq_some_iff.mp sameParent
      rw [lineage_of_node? present, lineage_of_node? wasPresent, link]
      cases isAbove : node.parent? with
      | none => rfl
      | some parent =>
          have below := arena.parent_lt wasPresent isAbove
          simp only [below, if_true, inductionHypothesis parent below (Nat.lt_trans below old)]

/-! ## Coherent caches -/

/-- A cache agrees with the recomputation for its node. -/
structure Current (index : Index β) (id : Nat) (cache : Flattened β) : Prop where
  /-- It holds the entries of each priority as they were registered. -/
  merged : ∀ priority, cache.merged.get priority = index.gatheredAt id priority
  /-- It holds the dispatched array. -/
  listeners : cache.listeners = index.recomputed id
  /-- It holds the arrays of single priorities if the index keeps these. -/
  phases : cache.phases =
    if index.tracksPhases then some (.ofFn (index.recomputedAt id)) else none

theorem Current.congr
    {index later : Index β}
    {id : Nat}
    {cache : Flattened β}
    (current : index.Current id cache)
    (sameTracks : later.tracksPhases = index.tracksPhases)
    (sameGathered : later.gatheredAt id = index.gatheredAt id)
    (sameForm : later.declaresCancellable id = index.declaresCancellable id) :
    later.Current id cache where
  merged := by
    rw [sameGathered]
    exact current.merged
  listeners := by
    rw [current.listeners, recomputed, recomputed, dispatchForm, dispatchForm, gathered, gathered,
      sameGathered, sameForm]
  phases := by
    have sameArrays : later.recomputedAt id = index.recomputedAt id := by
      funext priority
      rw [recomputedAt, recomputedAt, dispatchForm, dispatchForm, sameGathered, sameForm]
    rw [current.phases, sameTracks, sameArrays]

/-- Caches that are not stale agree with the recomputation, and nothing stale stands above
them. -/
structure Coherent (index : Index β) : Prop where
  /-- The tree of kinds is described consistently. -/
  arena : index.Arena
  /-- No cache is from the future. -/
  generation_le : ∀ {id node}, index.node? id = some node →
    node.cache.generation ≤ node.generation
  /-- A cache that is not stale agrees with the recomputation. -/
  current : ∀ {id node}, index.node? id = some node → node.isStale = false →
    index.Current id node.cache
  /-- What stands below a stale node is stale. -/
  parent_fresh : ∀ {id node parent parentNode}, index.node? id = some node →
    node.isStale = false → node.parent? = some parent →
    index.node? parent = some parentNode → parentNode.isStale = false

namespace Coherent

variable {index : Index β}

theorem empty (tracksPhases : Bool) : (Index.empty tracksPhases : Index β).Coherent := by
  constructor
  case arena => exact .empty tracksPhases
  all_goals simp

/-- A node whose counter has moved on is stale, and one that is as before has a cache that
is as good as before, if nothing in its lineage has changed. -/
theorem of_bumped
    (coherent : index.Coherent)
    {later : Index β}
    (id : Nat)
    (sameFrame : later.frame = index.frame)
    (outside : ∀ other, id ∉ index.lineage other → later.node? other = index.node? other)
    (inside : ∀ other, id ∈ index.lineage other → ∀ node, later.node? other = some node →
      ∃ before, index.node? other = some before ∧ node.cache = before.cache ∧
        node.generation = before.generation + 1) :
    later.Coherent := by
  have staleInside {other : Nat} {node : Node β} (below : id ∈ index.lineage other)
      (present : later.node? other = some node) : node.isStale = true := by
    obtain ⟨before, wasPresent, sameCache, bumped⟩ := inside other below node present
    have bound := coherent.generation_le wasPresent
    rw [Node.isStale, sameCache, bumped]
    simp only [bne_iff_ne]
    omega
  have notBelow {other : Nat} {node : Node β} (present : later.node? other = some node)
      (fresh : node.isStale = false) : id ∉ index.lineage other := by
    intro below
    rw [staleInside below present] at fresh
    cases fresh
  constructor
  case arena => exact coherent.arena.of_frame_eq sameFrame
  case generation_le =>
    intro other node present
    by_cases below : id ∈ index.lineage other
    · obtain ⟨before, wasPresent, sameCache, bumped⟩ := inside other below node present
      have bound := coherent.generation_le wasPresent
      rw [sameCache, bumped]
      omega
    · exact coherent.generation_le ((outside other below).symm.trans present)
  case current =>
    intro other node present fresh
    have below := notBelow present fresh
    have wasPresent := (outside other below).symm.trans present
    obtain ⟨sameGathered, sameForm⟩ :=
      recomputation_congr (lineage_of_frame_eq sameFrame other) fun ancestor above => by
        rw [outside ancestor fun higher => below (coherent.arena.mem_lineage_trans above higher)]
    exact (coherent.current wasPresent fresh).congr (tracksPhases_of_frame_eq sameFrame)
      sameGathered sameForm
  case parent_fresh =>
    intro other node parent parentNode present fresh link parentPresent
    have below := notBelow present fresh
    have wasPresent := (outside other below).symm.trans present
    have notAbove : id ∉ index.lineage parent := fun above => below
      (coherent.arena.mem_lineage_of_parent wasPresent link above)
    exact coherent.parent_fresh wasPresent fresh link
      ((outside parent notAbove).symm.trans parentPresent)

/-- A change of the listeners of one node, followed by its invalidation, leaves no cache
behind that is wrong. -/
theorem change
    (coherent : index.Coherent)
    (change : Node β → Node β)
    (keepsFrame : ∀ node, (change node).frame = node.frame)
    (keepsCache : ∀ node, (change node).cache = node.cache)
    (keepsGeneration : ∀ node, (change node).generation = node.generation)
    (id : Nat) :
    ((index.update id change).invalidate id).Coherent := by
  have changedFrame := frame_update keepsFrame index id
  have changedArena := coherent.arena.of_frame_eq changedFrame
  refine coherent.of_bumped id ((frame_invalidate ..).trans changedFrame) ?_ ?_
  · intro other notBelow
    rw [changedArena.node?_invalidate, lineage_of_frame_eq changedFrame, if_neg notBelow,
      node?_update]
    split
    case isTrue same =>
      cases present : index.node? other with
      | none => rfl
      | some node => exact absurd (self_mem_lineage present) (same ▸ notBelow)
    case isFalse => rfl
  · intro other below node present
    rw [changedArena.node?_invalidate, lineage_of_frame_eq changedFrame, if_pos below,
      node?_update] at present
    split at present
    case isTrue =>
      simp only [Option.map_map, Option.map_eq_some_iff, Function.comp_apply] at present
      obtain ⟨before, wasPresent, rfl⟩ := present
      exact ⟨before, wasPresent, keepsCache before,
        congrArg (· + 1) (keepsGeneration before)⟩
    case isFalse =>
      obtain ⟨before, wasPresent, rfl⟩ := Option.map_eq_some_iff.mp present
      exact ⟨before, wasPresent, rfl, rfl⟩

theorem register
    (coherent : index.Coherent)
    (id : Nat)
    (priority : Priority)
    (listener : Listener β) :
    (index.register id priority listener).Coherent :=
  coherent.change (fun node => node.add priority listener)
    (fun _ => rfl) (fun _ => rfl) (fun _ => rfl) id

theorem unregister
    (coherent : index.Coherent)
    (id : Nat)
    (listener : ListenerId) :
    (index.unregister id listener).Coherent := by
  unfold Index.unregister
  split
  · refine coherent.change _ (fun node => node.frame_remove listener) ?_ ?_ id <;>
      · intro node
        unfold Node.remove
        split <;> rfl
  · exact coherent

theorem unregisterAll
    (coherent : index.Coherent)
    (id : Nat)
    (listeners : List ListenerId) :
    (index.unregisterAll id listeners).Coherent := by
  unfold Index.unregisterAll
  split
  · exact coherent.change (fun node => node.removeAll listeners)
      (fun _ => rfl) (fun _ => rfl) (fun _ => rfl) id
  · exact coherent

theorem purge
    (coherent : index.Coherent)
    (listeners : List ListenerId) :
    (index.purge listeners).Coherent := by
  unfold Index.purge
  generalize List.range index.size = ids
  induction ids generalizing index with
  | nil => exact coherent
  | cons first rest inductionHypothesis =>
      exact inductionHypothesis (coherent.unregisterAll first listeners)

/-- The new node is stale, and the older ones do not see it. -/
theorem insert
    (coherent : index.Coherent)
    {kind : Kind}
    {parent? : Option Nat}
    (absent : index.lookup? kind.id = none)
    (linked : kind.parent?.map (fun parent => index.lookup? parent.id) = parent?.map some) :
    (index.insert kind parent?).1.Coherent := by
  have arena := coherent.arena.insert absent linked
  have oldBefore {id : Nat} {node : Node β}
      (present : (index.insert kind parent?).1.node? id = some node) (old : id ≠ index.size) :
      ∃ before, index.node? id = some before ∧ node.cache = before.cache ∧
        node.generation = before.generation ∧ node.parent? = before.parent? := by
    rcases insert_cases present with ⟨new, -⟩ | ⟨before, wasPresent, rfl⟩
    · exact absurd new old
    · refine ⟨before, wasPresent, ?_⟩
      split <;> exact ⟨rfl, rfl, rfl⟩
  have staleNew {id : Nat} {node : Node β}
      (present : (index.insert kind parent?).1.node? id = some node)
      (fresh : node.isStale = false) : id ≠ index.size := by
    rintro rfl
    rw [node?_insert_size] at present
    cases present
    cases fresh
  have sameFreshness {before node : Node β} (sameCache : node.cache = before.cache)
      (sameGeneration : node.generation = before.generation) :
      node.isStale = before.isStale := by
    rw [Node.isStale, Node.isStale, sameCache, sameGeneration]
  constructor
  case arena => exact arena
  case generation_le =>
    intro id node present
    by_cases old : id = index.size
    · subst old
      rw [node?_insert_size] at present
      cases present
      exact Nat.zero_le 1
    · obtain ⟨before, wasPresent, sameCache, sameGeneration, -⟩ := oldBefore present old
      rw [sameCache, sameGeneration]
      exact coherent.generation_le wasPresent
  case current =>
    intro id node present fresh
    have old := staleNew present fresh
    obtain ⟨before, wasPresent, sameCache, sameGeneration, -⟩ := oldBefore present old
    have wasFresh : before.isStale = false := by
      rw [← sameFreshness sameCache sameGeneration]
      exact fresh
    have sameLineage := lineage_insert coherent.arena kind parent?
      (node?_lt_size wasPresent)
    obtain ⟨sameGathered, sameForm⟩ :=
      recomputation_congr sameLineage fun ancestor above => by
        obtain ⟨higher, isPresent⟩ := coherent.arena.exists_of_mem_lineage above
        exact map_node?_insert Node.contents (fun _ _ => rfl) index kind parent?
          (Nat.ne_of_lt (node?_lt_size isPresent))
    rw [sameCache]
    exact (coherent.current wasPresent wasFresh).congr (tracksPhases_insert ..)
      sameGathered sameForm
  case parent_fresh =>
    intro id node parent parentNode present fresh link parentPresent
    have old := staleNew present fresh
    obtain ⟨before, wasPresent, sameCache, sameGeneration, sameParent⟩ := oldBefore present old
    rw [sameFreshness sameCache sameGeneration] at fresh
    rw [sameParent] at link
    obtain ⟨parentBefore, parentWasPresent⟩ := coherent.arena.exists_parent wasPresent link
    obtain ⟨sameNode, isPresent, sameParentCache, sameParentGeneration, -⟩ :=
      oldBefore parentPresent (Nat.ne_of_lt (node?_lt_size parentWasPresent))
    rw [sameFreshness sameParentCache sameParentGeneration]
    exact coherent.parent_fresh wasPresent fresh link isPresent

theorem of_growsTo
    {among : Kind → Prop}
    {later : Index β}
    (coherent : index.Coherent)
    (grows : GrowsTo among index later) :
    later.Coherent := by
  induction grows with
  | refl => exact coherent
  | insert _ _ absent linked inductionHypothesis =>
      exact inductionHypothesis.insert absent linked

end Coherent

/-! ## Bringing caches up to date -/

/-- Changes that do the same to a node do the same to the index. -/
theorem update_congr
    {index : Index β}
    {id : Nat}
    {first second : Node β → Node β}
    (same : ∀ node, index.node? id = some node → first node = second node) :
    index.update id first = index.update id second := by
  have sameNodes : index.nodes.modify id first = index.nodes.modify id second := by
    refine List.ext_getElem? fun other => ?_
    rw [List.getElem?_modify, List.getElem?_modify]
    by_cases here : id = other
    · subst here
      cases present : index.nodes[id]? with
      | none => rfl
      | some node => simp [same node present]
    · simp [here]
  rw [update, update, sameNodes]

theorem rebuild_eq_update (index : Index β) (id : Nat) :
    index.rebuild id =
      index.update id fun node => node.rebuild index.tracksPhases (index.inherited node) := by
  unfold rebuild
  cases present : index.node? id with
  | none =>
      have unchanged : index.nodes.modify id
          (fun node => node.rebuild index.tracksPhases (index.inherited node)) = index.nodes :=
        List.modify_eq_self (List.getElem?_eq_none_iff.mp present)
      rw [update, unchanged]
  | some node =>
      refine update_congr fun current isPresent => ?_
      rw [present] at isPresent
      cases isPresent
      rfl

/-- A node inherits the cache of its parent's node. -/
theorem inherited_of_parent
    {index : Index β}
    {parent : Nat}
    {node : Node β}
    (link : node.parent? = some parent)
    (published : parent < index.size) :
    index.inherited node = some (index.cacheOf parent) := by
  obtain ⟨above, isAbove⟩ := exists_node? published
  rw [inherited, link, Option.bind_some, cacheOf, isAbove, Option.map_some]

/-- Storing the newly built array rebuilds the cache. -/
theorem rebuild_of_node?
    {index : Index β}
    {id : Nat}
    {node : Node β}
    (present : index.node? id = some node) :
    index.rebuild id = index.update id fun current =>
      { current with cache := node.flatten index.tracksPhases (index.inherited node) } := by
  rw [rebuild_eq_update]
  refine update_congr fun current isPresent => ?_
  rw [present] at isPresent
  cases isPresent
  rfl

theorem cacheOf_rebuild
    {index : Index β}
    {id : Nat}
    {node : Node β}
    (present : index.node? id = some node) :
    (index.rebuild id).cacheOf id = node.flatten index.tracksPhases (index.inherited node) := by
  rw [rebuild_of_node? present, cacheOf, node?_update, if_pos rfl, present]
  rfl

@[simp] theorem frame_rebuild (index : Index β) (id : Nat) :
    (index.rebuild id).frame = index.frame := by
  rw [rebuild_eq_update]
  exact frame_update (fun node => node.frame_rebuild _ _) index id

/-- Rebuilding a cache changes no other part of any node. -/
theorem map_node?_rebuild
    {α : Type}
    (part : Node β → α)
    (ignoresCache : ∀ node cache, part { node with cache := cache } = part node)
    (index : Index β)
    (id other : Nat) :
    ((index.rebuild id).node? other).map part = (index.node? other).map part := by
  rw [rebuild_eq_update, node?_update]
  split
  · rw [Option.map_map]
    cases index.node? other with
    | none => rfl
    | some node => exact congrArg some (ignoresCache node _)
  · rfl

theorem map_node?_refresh
    {α : Type}
    (part : Node β → α)
    (ignoresCache : ∀ node cache, part { node with cache := cache } = part node)
    (index : Index β)
    (id other : Nat) :
    ((index.refresh id).node? other).map part = (index.node? other).map part := by
  unfold refresh
  generalize index.staleChain id = chain
  induction chain generalizing index with
  | nil => rfl
  | cons first rest inductionHypothesis =>
      rw [List.foldl_cons, inductionHypothesis, map_node?_rebuild part ignoresCache]

@[simp] theorem frame_refresh (index : Index β) (id : Nat) :
    (index.refresh id).frame = index.frame := by
  unfold refresh
  generalize index.staleChain id = chain
  induction chain generalizing index with
  | nil => rfl
  | cons first rest inductionHypothesis =>
      rw [List.foldl_cons, inductionHypothesis, frame_rebuild]

/-- Reading changes caches only, which recomputing does not look at. -/
theorem recomputation_refresh (index : Index β) (id other : Nat) :
    (index.refresh id).gatheredAt other = index.gatheredAt other ∧
      (index.refresh id).declaresCancellable other = index.declaresCancellable other :=
  recomputation_congr (lineage_of_frame_eq (frame_refresh index id) other) fun ancestor _ =>
    map_node?_refresh Node.contents (fun _ _ => rfl) index id ancestor

/-- A stale node is rebuilt after a parent with a smaller number has been brought up to date. -/
theorem refresh_of_lower
    {index : Index β}
    {id parent : Nat}
    {node : Node β}
    (present : index.node? id = some node)
    (stale : node.isStale = true)
    (link : node.parent? = some parent)
    (lower : parent < id) :
    index.refresh id = (index.refresh parent).rebuild id := by
  have chain : index.staleChain id = index.staleChain parent ++ [id] := by
    rw [staleChain, present]
    simp [stale, link, lower]
  rw [refresh, chain, List.foldl_append, List.foldl_cons, List.foldl_nil, refresh]

namespace Coherent

variable {index : Index β}

/-- A fresh node has nothing to rebuild. -/
theorem refresh_of_fresh
    {id : Nat}
    {node : Node β}
    (present : index.node? id = some node)
    (fresh : node.isStale = false) :
    index.refresh id = index := by
  rw [refresh, staleChain, present]
  simp [fresh]

theorem refresh_of_root
    {id : Nat}
    {node : Node β}
    (present : index.node? id = some node)
    (stale : node.isStale = true)
    (isRoot : node.parent? = none) :
    index.refresh id = index.rebuild id := by
  rw [refresh, staleChain, present]
  simp [stale, isRoot]

/-- A stale node is rebuilt after its parent has been brought up to date. -/
theorem refresh_of_parent
    (coherent : index.Coherent)
    {id parent : Nat}
    {node : Node β}
    (present : index.node? id = some node)
    (stale : node.isStale = true)
    (link : node.parent? = some parent) :
    index.refresh id = (index.refresh parent).rebuild id :=
  refresh_of_lower present stale link (coherent.arena.parent_lt present link)

/-- A cache that is built on the fresh cache of the parent agrees with the recomputation. -/
theorem current_flatten
    (coherent : index.Coherent)
    {id : Nat}
    {node : Node β}
    (present : index.node? id = some node)
    (parentFresh : ∀ parent parentNode, node.parent? = some parent →
      index.node? parent = some parentNode → parentNode.isStale = false) :
    index.Current id (node.flatten index.tracksPhases (index.inherited node)) := by
  have merged : node.mergedWith (index.inherited node) = index.gatheredAt id := by
    funext priority
    cases link : node.parent? with
    | none =>
        rw [gatheredAt_root present link]
        simp [Node.mergedWith, inherited, link]
    | some parent =>
        obtain ⟨parentNode, parentPresent⟩ := coherent.arena.exists_parent present link
        have parentCurrent :=
          coherent.current parentPresent (parentFresh parent parentNode link parentPresent)
        rw [coherent.arena.gatheredAt_eq present link]
        simp [Node.mergedWith, inherited, link, parentPresent, parentCurrent.merged]
  have finished : node.finish = index.dispatchForm id := by
    funext entries
    rw [Node.finish, dispatchForm, coherent.arena.info_cancellable present]
  constructor
  case merged =>
    intro priority
    simp [Node.flatten, merged]
  case listeners =>
    rw [Node.flatten, merged, finished, recomputed, gathered, PerPriority.toList]
    have entries : (PerPriority.ofFn (index.gatheredAt id)).get = index.gatheredAt id :=
      funext (PerPriority.get_ofFn _)
    simp only [entries, List.flatMap_def]
  case phases =>
    rw [Node.flatten, merged, finished]
    have arrays : (PerPriority.ofFn (index.gatheredAt id)).map (index.dispatchForm id) =
        .ofFn (index.recomputedAt id) := by
      refine PerPriority.ext_get fun priority => ?_
      simp [recomputedAt]
    simp only [arrays]

/-- Rebuilding a node below a fresh parent keeps the invariant and leaves the node fresh. -/
theorem rebuild
    (coherent : index.Coherent)
    {id : Nat}
    (parentFresh : ∀ node parent parentNode, index.node? id = some node →
      node.parent? = some parent → index.node? parent = some parentNode →
      parentNode.isStale = false) :
    (index.rebuild id).Coherent ∧
      ∀ node, (index.rebuild id).node? id = some node → node.isStale = false := by
  have sameFrame := frame_rebuild index id
  have rebuilt {node : Node β} (present : (index.rebuild id).node? id = some node) :
      ∃ before, index.node? id = some before ∧
        node = before.rebuild index.tracksPhases (index.inherited before) := by
    rw [rebuild_eq_update, node?_update, if_pos rfl] at present
    obtain ⟨before, wasPresent, same⟩ := Option.map_eq_some_iff.mp present
    exact ⟨before, wasPresent, same.symm⟩
  have others {other : Nat} (different : other ≠ id) :
      (index.rebuild id).node? other = index.node? other := by
    rw [rebuild_eq_update, node?_update, if_neg (Ne.symm different)]
  have sameRecomputation (other : Nat) :
      (index.rebuild id).gatheredAt other = index.gatheredAt other ∧
        (index.rebuild id).declaresCancellable other = index.declaresCancellable other :=
    recomputation_congr (lineage_of_frame_eq sameFrame other) fun ancestor _ =>
      map_node?_rebuild Node.contents (fun _ _ => rfl) index id ancestor
  have freshNow {node : Node β} (present : (index.rebuild id).node? id = some node) :
      node.isStale = false := by
    obtain ⟨before, wasPresent, rfl⟩ := rebuilt present
    exact Node.isStale_rebuild ..
  refine ⟨?_, fun node present => freshNow present⟩
  constructor
  case arena => exact coherent.arena.of_frame_eq sameFrame
  case generation_le =>
    intro other node present
    by_cases same : other = id
    · subst same
      obtain ⟨before, wasPresent, rfl⟩ := rebuilt present
      exact Nat.le_refl _
    · exact coherent.generation_le ((others same).symm.trans present)
  case current =>
    intro other node present fresh
    obtain ⟨sameGathered, sameForm⟩ := sameRecomputation other
    refine Current.congr ?_ (tracksPhases_of_frame_eq sameFrame) sameGathered sameForm
    by_cases same : other = id
    · subst same
      obtain ⟨before, wasPresent, rfl⟩ := rebuilt present
      exact coherent.current_flatten wasPresent fun parent parentNode link parentPresent =>
        parentFresh before parent parentNode wasPresent link parentPresent
    · exact coherent.current ((others same).symm.trans present) fresh
  case parent_fresh =>
    intro other node parent parentNode present fresh link parentPresent
    by_cases isRebuilt : parent = id
    · subst isRebuilt
      exact freshNow parentPresent
    · have parentWasPresent := (others isRebuilt).symm.trans parentPresent
      by_cases same : other = id
      · subst same
        obtain ⟨before, wasPresent, rfl⟩ := rebuilt present
        exact parentFresh before parent parentNode wasPresent link parentWasPresent
      · exact coherent.parent_fresh ((others same).symm.trans present) fresh link parentWasPresent

/-- Reading a node keeps the invariant and leaves the node fresh. -/
theorem refresh
    (coherent : index.Coherent)
    (id : Nat) :
    (index.refresh id).Coherent ∧
      ∀ node, (index.refresh id).node? id = some node → node.isStale = false := by
  induction id using Nat.strongRecOn with
  | ind id inductionHypothesis =>
      cases present : index.node? id with
      | none =>
          have unchanged : index.refresh id = index := by
            rw [Index.refresh, staleChain, present]
            rfl
          rw [unchanged]
          refine ⟨coherent, fun node isPresent => ?_⟩
          rw [present] at isPresent
          cases isPresent
      | some node =>
          cases stale : node.isStale with
          | false =>
              rw [refresh_of_fresh present stale]
              refine ⟨coherent, fun same isPresent => ?_⟩
              rw [present] at isPresent
              exact Option.some.inj isPresent ▸ stale
          | true =>
              cases link : node.parent? with
              | none =>
                  rw [refresh_of_root present stale link]
                  refine coherent.rebuild fun same parent parentNode isPresent isAbove _ => ?_
                  rw [present] at isPresent
                  rw [← Option.some.inj isPresent, link] at isAbove
                  cases isAbove
              | some parent =>
                  obtain ⟨parentCoherent, parentFresh⟩ :=
                    inductionHypothesis parent (coherent.arena.parent_lt present link)
                  rw [coherent.refresh_of_parent present stale link]
                  refine parentCoherent.rebuild fun later above aboveNode isPresent isAbove
                    abovePresent => ?_
                  have sameParent := map_node?_refresh Node.parent? (fun _ _ => rfl)
                    index parent id
                  rw [isPresent, present, Option.map_some, Option.map_some, isAbove, link]
                    at sameParent
                  cases sameParent
                  exact parentFresh aboveNode abovePresent

/-- A node that has been brought up to date has a cache that agrees with the recomputation. -/
theorem current_refresh
    (coherent : index.Coherent)
    {id : Nat}
    {node : Node β}
    (present : index.node? id = some node) :
    index.Current id ((index.refresh id).cacheOf id) := by
  obtain ⟨freshCoherent, isFresh⟩ := coherent.refresh id
  have stillPresent := map_node?_refresh (fun _ => ()) (fun _ _ => rfl) index id id
  rw [present] at stillPresent
  obtain ⟨later, laterPresent, -⟩ := Option.map_eq_some_iff.mp stillPresent
  obtain ⟨sameGathered, sameForm⟩ := recomputation_refresh index id id
  have current := freshCoherent.current laterPresent (isFresh later laterPresent)
  rw [cacheOf, laterPresent]
  exact current.congr (tracksPhases_of_frame_eq (frame_refresh index id)).symm sameGathered.symm
    sameForm.symm

/-- Whether the arrays of single priorities are kept or made at once does not matter. -/
theorem phaseOf_refresh
    (coherent : index.Coherent)
    {id : Nat}
    {node : Node β}
    (present : index.node? id = some node)
    (priority : Priority) :
    (index.refresh id).phaseOf id priority = index.recomputedAt id priority := by
  have current := coherent.current_refresh present
  have sameInfo := map_node?_refresh Node.info (fun _ _ => rfl) index id id
  rw [present] at sameInfo
  obtain ⟨later, laterPresent, laterInfo⟩ := Option.map_eq_some_iff.mp sameInfo
  rw [cacheOf, laterPresent] at current
  rw [phaseOf, laterPresent]
  change later.phaseListeners priority = _
  rw [Node.phaseListeners, current.phases]
  cases index.tracksPhases with
  | true => exact PerPriority.get_ofFn ..
  | false =>
      change later.finish (later.cache.merged.get priority) = _
      rw [current.merged, recomputedAt, Node.finish, dispatchForm, laterInfo,
        coherent.arena.info_cancellable present]

end Coherent
end Index
end EventRelay
