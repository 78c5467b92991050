import EventRelay.Proofs.Hierarchy.Recomputation

/-!
# Buckets under changes of the index

Adding a listener appends it to one bucket, removing listeners filters the buckets, and
making nodes, invalidating and reading leave the entries of every bucket as they are. The
same is said for the kinds that have nodes.
-/

namespace EventRelay
namespace Index

variable {β : Type}

theorem ownAt_of_node?
    {index : Index β}
    {id : Nat}
    {node : Node β}
    (present : index.node? id = some node)
    (priority : Priority) :
    index.ownAt id priority = (node.buckets.get priority).listeners := by
  rw [ownAt, present]

theorem ownAt_of_size_le
    {index : Index β}
    {id : Nat}
    (beyond : index.size ≤ id)
    (priority : Priority) :
    index.ownAt id priority = [] := by
  have absent : index.node? id = none := List.getElem?_eq_none beyond
  rw [ownAt, absent]

/-! ## Changes that leave the entries as they are -/

theorem contents_invalidate
    (index : Index β)
    (id other : Nat) :
    ((index.invalidate id).node? other).map Node.contents =
      (index.node? other).map Node.contents := by
  unfold invalidate
  generalize index.subtree id = ids
  induction ids generalizing index with
  | nil => rfl
  | cons first rest inductionHypothesis =>
      rw [List.foldl_cons, inductionHypothesis, node?_update]
      split
      case isTrue =>
        rw [Option.map_map]
        rfl
      case isFalse => rfl

theorem ownAt_invalidate
    (index : Index β)
    (id other : Nat)
    (priority : Priority) :
    (index.invalidate id).ownAt other priority = index.ownAt other priority :=
  ownAt_congr (contents_invalidate index id other) priority

theorem ownAt_refresh
    (index : Index β)
    (id other : Nat)
    (priority : Priority) :
    (index.refresh id).ownAt other priority = index.ownAt other priority :=
  ownAt_congr (map_node?_refresh Node.contents (fun _ _ => rfl) index id other) priority

/-- A new node has no entries. -/
theorem ownAt_insert
    (index : Index β)
    (kind : Kind)
    (parent? : Option Nat)
    (id : Nat)
    (priority : Priority) :
    (index.insert kind parent?).1.ownAt id priority = index.ownAt id priority := by
  by_cases new : id = index.size
  · subst new
    rw [ownAt_of_node? (node?_insert_size index kind parent?), ownAt_of_size_le (Nat.le_refl _),
      newNode, Node.create, PerPriority.get_ofFn, Bucket.empty]
  · exact ownAt_congr (map_node?_insert Node.contents (fun _ _ => rfl) index kind parent? new)
      priority

/-! ## Adding and removing -/

theorem ownAt_register
    {index : Index β}
    {id : Nat}
    (old : id < index.size)
    (priority : Priority)
    (listener : Listener β)
    (other : Nat)
    (level : Priority) :
    (index.register id priority listener).ownAt other level =
      index.ownAt other level ++ if id = other ∧ priority = level then [listener] else [] := by
  rw [register, ownAt_invalidate]
  by_cases same : id = other
  · subst same
    obtain ⟨node, present⟩ := exists_node? old
    have added : (index.update id fun node => node.add priority listener).node? id =
        some (node.add priority listener) := by
      rw [node?_update, if_pos rfl, present]
      rfl
    rw [ownAt_of_node? added, ownAt_of_node? present, Node.add, PerPriority.get_set]
    by_cases sameLevel : priority = level
    · subst sameLevel
      simp
    · simp [sameLevel, Ne.symm sameLevel]
  · rw [ownAt, node?_update, if_neg same, if_neg fun both => same both.1, List.append_nil]
    rfl

/-- Where nothing is removed, filtering does nothing either. -/
theorem ownAt_unregisterAll
    (index : Index β)
    (id : Nat)
    (listeners : List ListenerId)
    (other : Nat)
    (level : Priority) :
    (index.unregisterAll id listeners).ownAt other level =
      if id = other then
        (index.ownAt other level).filter fun entry => !listeners.contains entry.id
      else index.ownAt other level := by
  unfold unregisterAll
  cases present : index.node? id with
  | none =>
      have nothing : index.holdsAny id listeners = false := by
        rw [holdsAny, present]
        rfl
      rw [nothing, if_neg Bool.false_ne_true]
      split
      case isTrue same => rw [← same, ownAt, present, List.filter_nil]
      case isFalse => rfl
  | some node =>
      cases held : index.holdsAny id listeners with
      | false =>
          rw [if_neg Bool.false_ne_true]
          split
          case isTrue same =>
            rw [holdsAny, present, Option.any_some, Node.containsAny, List.any_eq_false] at held
            rw [← same, ownAt_of_node? present]
            refine (List.filter_eq_self.mpr fun entry isOwn => ?_).symm
            have free := held level (Priority.mem_all level)
            rw [Bucket.containsAny, List.any_eq_true] at free
            simpa using fun isListed => free ⟨entry, isOwn, by simpa using isListed⟩
          case isFalse => rfl
      | true =>
          rw [if_pos rfl, ownAt_invalidate]
          by_cases same : id = other
          · subst same
            have removed : (index.update id fun node => node.removeAll listeners).node? id =
                some (node.removeAll listeners) := by
              rw [node?_update, if_pos rfl, present]
              rfl
            rw [if_pos rfl, ownAt_of_node? removed, ownAt_of_node? present, Node.removeAll,
              PerPriority.get_map, Bucket.removeAll]
          · rw [if_neg same, ownAt, node?_update, if_neg same]
            rfl

/-- Purging filters every bucket. -/
theorem ownAt_purge
    (index : Index β)
    (listeners : List ListenerId)
    (id : Nat)
    (priority : Priority) :
    (index.purge listeners).ownAt id priority =
      (index.ownAt id priority).filter fun entry => !listeners.contains entry.id := by
  have folded (ids : List Nat) (index : Index β) :
      (ids.foldl (fun current other => current.unregisterAll other listeners) index).ownAt id
          priority =
        if id ∈ ids then
          (index.ownAt id priority).filter fun entry => !listeners.contains entry.id
        else index.ownAt id priority := by
    induction ids generalizing index with
    | nil => rfl
    | cons first rest inductionHypothesis =>
        rw [List.foldl_cons, inductionHypothesis, ownAt_unregisterAll]
        by_cases isFirst : first = id
        · subst isFirst
          simp [List.filter_filter]
        · simp [isFirst, Ne.symm isFirst]
  rw [purge, folded]
  split
  case isTrue => rfl
  case isFalse outside =>
    rw [ownAt_of_size_le (by simpa using outside), List.filter_nil]

/-! ## Kinds that have nodes -/

theorem frame_register
    (index : Index β)
    (id : Nat)
    (priority : Priority)
    (listener : Listener β) :
    (index.register id priority listener).frame = index.frame :=
  (frame_invalidate ..).trans (frame_update (fun node => node.frame_add priority listener) index id)

theorem frame_unregister
    (index : Index β)
    (id : Nat)
    (listener : ListenerId) :
    (index.unregister id listener).frame = index.frame := by
  unfold unregister
  split
  case isTrue =>
    exact (frame_invalidate ..).trans
      (frame_update (fun node => node.frame_remove listener) index id)
  case isFalse => rfl

theorem frame_unregisterAll
    (index : Index β)
    (id : Nat)
    (listeners : List ListenerId) :
    (index.unregisterAll id listeners).frame = index.frame := by
  unfold unregisterAll
  split
  case isTrue =>
    exact (frame_invalidate ..).trans
      (frame_update (fun node => node.frame_removeAll listeners) index id)
  case isFalse => rfl

theorem frame_purge
    (index : Index β)
    (listeners : List ListenerId) :
    (index.purge listeners).frame = index.frame := by
  unfold purge
  generalize List.range index.size = ids
  induction ids generalizing index with
  | nil => rfl
  | cons first rest inductionHypothesis =>
      rw [List.foldl_cons, inductionHypothesis, frame_unregisterAll]

theorem kinds_of_frame_eq
    {index later : Index β}
    (sameFrame : later.frame = index.frame) :
    later.kinds = index.kinds := by
  have sameNodes : later.nodes.map Node.frame = index.nodes.map Node.frame :=
    congrArg (fun frame => frame.2.2) sameFrame
  have sameKinds := congrArg (List.map fun frame => frame.2.1) sameNodes
  rwa [List.map_map, List.map_map] at sameKinds

theorem kinds_insert
    (index : Index β)
    (kind : Kind)
    (parent? : Option Nat) :
    (index.insert kind parent?).1.kinds = index.kinds ++ [kind] := by
  cases parent? with
  | none => exact List.map_append
  | some parent =>
      have linked : (index.update parent fun node => node.addChild index.size).kinds =
          index.kinds := by
        refine List.ext_getElem? fun id => ?_
        rw [kinds, kinds, List.getElem?_map, List.getElem?_map, update, List.getElem?_modify]
        cases index.nodes[id]? with
        | none => rfl
        | some node => by_cases same : parent = id <;> simp [same, Node.addChild]
      exact List.map_append.trans (congrArg (· ++ [kind]) linked)

theorem GrowsTo.mem_kinds
    {among : Kind → Prop}
    {index later : Index β}
    (grows : GrowsTo among index later)
    {kind : Kind}
    (isKind : kind ∈ later.kinds) :
    kind ∈ index.kinds ∨ among kind := by
  induction grows with
  | refl => exact .inl isKind
  | insert _ belongs _ _ inductionHypothesis =>
      rw [kinds_insert, List.mem_append, List.mem_singleton] at isKind
      rcases isKind with old | rfl
      · exact inductionHypothesis old
      · exact .inr belongs

/-- Nodes keep their places and their kinds while others are made. -/
theorem GrowsTo.kinds_extend
    {among : Kind → Prop}
    {index later : Index β}
    (grows : GrowsTo among index later) :
    index.kinds <+: later.kinds := by
  induction grows with
  | refl => exact List.prefix_rfl
  | insert _ _ _ _ inductionHypothesis =>
      rw [kinds_insert]
      exact inductionHypothesis.trans (List.prefix_append _ _)

end Index
end EventRelay
