import EventRelay.Proofs.Hierarchy.Freshness
import EventRelay.Proofs.Interleaving.Entries

/-!
# Tasks that nobody interrupts

A task that goes on without others in between does what its operation does at once: it adds or
removes listeners and makes everything below stale, finds or makes the node of a kind with those
above it, or brings an array up to date and reads it.
-/

namespace EventRelay

variable {β : Type}

/-- A task advances while nothing else happens. -/
inductive Task.Alone (request : Request β) : Site β × Stage β → Site β × Stage β → Prop
  | refl (state : Site β × Stage β) : Alone request state state
  | step {site : Site β} {stage : Stage β} {next last : Site β × Stage β} :
      Task.advance site ⟨request, stage⟩ = some next → Alone request next last →
      Alone request (site, stage) last

/-- What an operation does to the nodes, and how a task that was asked to do it returns. -/
def Request.perform (index : Index β) : Request β → Index β × Stage β
  | .register id priority listener => (index.register id priority listener, .marking [] [])
  | .unregisterAll id listeners =>
      (index.unregisterAll id listeners, .marking (index.entriesWith id listeners) [])
  | .nodeFor kind =>
      match index.nodeFor kind with
      | .ok (grown, id) => (grown, .answered (.ok id))
      | .error error => (index, .answered (.error error))
  | .flattened id => ((index.flattened id).1, .read (index.flattened id).2)

namespace Task.Alone

variable {request : Request β} {index : Index β} {finalizing : Bool} {rebuilding : List Nat}

/-! ## Making everything below a node stale -/

/-- The children of a node are visited one after the other. -/
theorem visits
    {tree : Index β}
    {taken : List (Listener β)}
    {rest : List Errand}
    {last : Site β × Stage β}
    (children : List Nat)
    (published : ∀ child ∈ children, child < tree.size)
    (bumps : ∀ child ∈ children, ∀ {index : Index β} {rest : List Errand} {last : Site β × Stage β},
      index.frame = tree.frame →
      Alone request (⟨(tree.subtree child).foldl (·.update · Node.invalidate) index, finalizing,
        rebuilding⟩, .marking taken rest) last →
      Alone request (⟨index, finalizing, rebuilding⟩, .marking taken (.bump child :: rest)) last)
    (sameFrame : index.frame = tree.frame)
    (goesOn : Alone request
      (⟨(children.flatMap tree.subtree).foldl (·.update · Node.invalidate) index, finalizing,
        rebuilding⟩, .marking taken rest) last) :
    Alone request
      (⟨index, finalizing, rebuilding⟩, .marking taken (children.map .visit ++ rest)) last := by
  induction children generalizing index with
  | nil => exact goesOn
  | cons child others inductionHypothesis =>
      obtain ⟨isPublished, othersPublished⟩ := List.forall_mem_cons.mp published
      have inside : child < index.size := Index.size_of_frame_eq sameFrame ▸ isPublished
      refine .step rfl ?_
      simp only [Errand.perform, if_pos inside]
      refine bumps child List.mem_cons_self sameFrame ?_
      refine inductionHypothesis othersPublished
        (fun other isOther => bumps other (List.mem_cons_of_mem _ isOther)) ?_ ?_
      · rw [Index.frame_foldl_update Node.frame_invalidate, sameFrame]
      · rw [List.flatMap_cons, List.foldl_append] at goesOn
        exact goesOn

/-- A node is told, and then everything below it. -/
theorem bumps
    {tree : Index β}
    (arena : tree.Arena)
    {taken : List (Listener β)}
    (id : Nat)
    (published : id < tree.size)
    {rest : List Errand}
    {last : Site β × Stage β}
    (sameFrame : index.frame = tree.frame)
    (goesOn : Alone request
      (⟨(tree.subtree id).foldl (·.update · Node.invalidate) index, finalizing, rebuilding⟩,
        .marking taken rest) last) :
    Alone request (⟨index, finalizing, rebuilding⟩, .marking taken (.bump id :: rest)) last := by
  induction id using arena.induction_on_children generalizing index rest last with
  | step id inductionHypothesis =>
      obtain ⟨node, present⟩ := Index.exists_node? published
      have stillFrame : (index.update id Node.invalidate).frame = tree.frame := by
        rw [Index.frame_update Node.frame_invalidate, sameFrame]
      have children : (index.update id Node.invalidate).childrenOf id = node.children := by
        obtain ⟨after, isAfter, same⟩ := Index.exists_of_frame_eq stillFrame.symm present
        rw [Index.childrenOf, isAfter]
        exact congrArg (fun frame => frame.2.2.2.2) same
      refine .step rfl (.step rfl ?_)
      change Alone request
        (⟨index.update id Node.invalidate, finalizing, rebuilding⟩, .marking taken
          (((index.update id Node.invalidate).childrenOf id).map .visit ++ rest)) last
      rw [children]
      refine visits node.children (fun child => arena.child_lt_size present) ?_ stillFrame ?_
      · intro child isChild index rest last
        exact inductionHypothesis present isChild (arena.child_lt_size present isChild)
      · rw [arena.subtree_eq present] at goesOn
        exact goesOn

theorem registers
    (arena : index.Arena)
    {id : Nat}
    (published : id < index.size)
    (priority : Priority)
    (listener : Listener β) :
    Alone (.register id priority listener) (⟨index, finalizing, rebuilding⟩, .changing)
      (⟨index.register id priority listener, finalizing, rebuilding⟩, .marking [] []) := by
  have sameFrame : (index.update id fun node => node.add priority listener).frame = index.frame :=
    Index.frame_update (fun node => node.frame_add priority listener) index id
  refine .step rfl (bumps (arena.of_frame_eq sameFrame) id ?_ rfl (.refl _))
  rw [Index.size_update]
  exact published

/-- Where a node holds none of the listeners, taking them out does nothing. -/
theorem update_removeAll
    {holder : Nat}
    {listeners : List ListenerId}
    (nothing : index.holdsAny holder listeners = false) :
    (index.update holder fun node => node.removeAll listeners) = index := by
  have same (node : Node β) (present : index.node? holder = some node) :
      node.removeAll listeners = id node := by
    rw [Index.holdsAny, present, Option.any_some, Node.containsAny, List.any_eq_false] at nothing
    have sameBuckets : node.buckets.map (fun bucket => bucket.removeAll listeners) =
        node.buckets := by
      refine PerPriority.ext_get fun priority => ?_
      rw [PerPriority.get_map, Bucket.removeAll, List.filter_eq_self.mpr]
      intro entry isEntry
      have free := nothing priority (Priority.mem_all priority)
      rw [Bucket.containsAny, List.any_eq_true] at free
      simpa using fun isListed => free ⟨entry, isEntry, by simpa using isListed⟩
    rw [Node.removeAll, sameBuckets]
    rfl
  rw [Index.update_congr same, Index.update, List.modify_id]

theorem isEmpty_entriesWith
    (index : Index β)
    (id : Nat)
    (listeners : List ListenerId) :
    (index.entriesWith id listeners).isEmpty = !index.holdsAny id listeners := by
  rw [Index.entriesWith, Index.holdsAny]
  cases index.node? id with
  | none => rfl
  | some node =>
      rw [Bool.eq_iff_iff]
      simpa [Node.ownListeners, PerPriority.toList, Node.containsAny, Bucket.containsAny,
        Priority.mem_all] using forall_comm

theorem unregisters
    (arena : index.Arena)
    {id : Nat}
    (published : id < index.size)
    (listeners : List ListenerId) :
    Alone (.unregisterAll id listeners) (⟨index, finalizing, rebuilding⟩, .changing)
      (⟨index.unregisterAll id listeners, finalizing, rebuilding⟩,
        .marking (index.entriesWith id listeners) []) := by
  refine .step rfl ?_
  simp only [isEmpty_entriesWith]
  rw [Index.unregisterAll]
  cases held : index.holdsAny id listeners with
  | false =>
      rw [Site.update, update_removeAll held]
      exact .refl _
  | true =>
      have sameFrame : (index.update id fun node => node.removeAll listeners).frame = index.frame :=
        Index.frame_update (fun node => node.frame_removeAll listeners) index id
      refine bumps (arena.of_frame_eq sameFrame) id ?_ rfl (.refl _)
      rw [Index.size_update]
      exact published

/-! ## Making nodes -/

theorem hands
    {making : Making}
    {id : Nat}
    {last : Site β × Stage β}
    (known : index.lookup? making.kind.id = some id)
    (goesOn : Alone request (⟨index, false, rebuilding⟩, .handOver id making.waiting) last) :
    Alone request (⟨index, false, rebuilding⟩, .queuing making) last := by
  refine .step rfl (.step rfl ?_)
  simp only [Making.check, known]
  exact goesOn

theorem makes
    {making : Making}
    {last : Site β × Stage β}
    (absent : index.lookup? making.kind.id = none)
    (goesOn : Alone request (⟨(index.insert making.kind making.parent?).1, false, rebuilding⟩,
      .handOver index.size making.waiting) last) :
    Alone request (⟨index, false, rebuilding⟩, .queuing making) last := by
  refine .step rfl (.step rfl ?_)
  simp only [Making.check, absent]
  refine .step rfl (.step rfl ?_)
  simp only [Index.snapshot]
  rw [← Index.snapshot, Index.publish_link]
  exact goesOn

theorem seeks
    (kind : Kind)
    (waiting : List Kind)
    {last : Site β × Stage β}
    (goesOn : match index.nodeFor kind with
      | .ok (grown, id) => Alone request (⟨grown, false, rebuilding⟩, .handOver id waiting) last
      | .error error => Alone request (⟨index, false, rebuilding⟩, .answered (.error error)) last) :
    Alone request (⟨index, false, rebuilding⟩, .seeking kind waiting) last := by
  induction kind generalizing index waiting with
  | root own =>
      refine .step rfl ?_
      cases known : index.lookup? own.id with
      | some id =>
          simp only [Index.nodeFor, known] at goesOn
          simp only [seek, Kind.id, Kind.own, known]
          exact goesOn
      | none =>
          simp only [Index.nodeFor, known] at goesOn
          simp only [seek, Kind.id, Kind.own, known]
          exact makes known goesOn
  | child own parent inductionHypothesis =>
      refine .step rfl ?_
      cases known : index.lookup? own.id with
      | some id =>
          simp only [Index.nodeFor, known] at goesOn
          simp only [seek, Kind.id, Kind.own, known]
          exact goesOn
      | none =>
          simp only [Index.nodeFor, known] at goesOn
          simp only [seek, Kind.id, Kind.own, known]
          cases broken : Index.brokenAncestor? parent with
          | some ancestor =>
              simp only [broken] at goesOn
              exact goesOn
          | none =>
              simp only [broken] at goesOn
              refine inductionHypothesis (.child own parent :: waiting) ?_
              cases made : index.nodeFor parent with
              | error error =>
                  simp only [made] at goesOn
                  exact goesOn
              | ok result =>
                  obtain ⟨grown, parentId⟩ := result
                  simp only [made] at goesOn
                  -- The node may have been made with those above it, for a kind of its identity.
                  cases knownNow : grown.lookup? own.id with
                  | some id =>
                      simp only [knownNow] at goesOn
                      exact hands knownNow goesOn
                  | none =>
                      simp only [knownNow] at goesOn
                      exact makes knownNow goesOn

/-! ## Reading -/

theorem advance_reading
    {id : Nat}
    {node : Node β}
    (present : index.node? id = some node)
    (place : Reading β)
    (below : List (Nat × Nat)) :
    Task.advance ⟨index, finalizing, rebuilding⟩ ⟨request, .reading id place below⟩ =
      place.advance ⟨index, finalizing, rebuilding⟩ id node below := by
  simp only [Task.advance, present]

/-- Storing a new array rebuilds the cache, and the lock is given back. -/
theorem stores
    {id : Nat}
    {node : Node β}
    (present : index.node? id = some node)
    {inherited? : Option (Flattened β)}
    (inherits : index.inherited node = inherited?)
    {below : List (Nat × Nat)}
    {last : Site β × Stage β}
    (goesOn : Alone request (⟨index.rebuild id, finalizing, rebuilding⟩,
      .deliver ((index.rebuild id).cacheOf id) below) last) :
    Alone request (⟨index, finalizing, id :: rebuilding⟩,
      .reading id (.inheriting node.generation inherited?) below) last := by
  subst inherits
  refine .step (advance_reading present _ _) (.step (advance_reading present _ _) ?_)
  rw [Site.unlock, Site.update]
  simp only [List.erase_cons_head]
  rw [Index.cacheOf_rebuild present, Index.rebuild_of_node? present] at goesOn
  exact goesOn

/-- A node is read on behalf of those below it, whose locks are held. -/
theorem reads
    (coherent : index.Coherent)
    {id : Nat}
    (published : id < index.size)
    (free : ∀ held ∈ rebuilding, id < held)
    {below : List (Nat × Nat)}
    {last : Site β × Stage β}
    (goesOn : Alone request (⟨index.refresh id, finalizing, rebuilding⟩,
      .deliver ((index.refresh id).cacheOf id) below) last) :
    Alone request (⟨index, finalizing, rebuilding⟩, .reading id .start below) last := by
  induction id using Nat.strongRecOn generalizing rebuilding below last with
  | ind id inductionHypothesis =>
      obtain ⟨node, present⟩ := Index.exists_node? published
      refine .step (advance_reading present _ _) (.step (advance_reading present _ _) ?_)
      cases stale : node.isStale with
      | false =>
          have fresh : node.cache.generation = node.generation := by
            simpa [Node.isStale] using stale
          rw [Index.Coherent.refresh_of_fresh present stale, Index.cacheOf, present] at goesOn
          rw [if_pos fresh]
          exact goesOn
      | true =>
          have outdated : node.cache.generation ≠ node.generation := by
            simpa [Node.isStale] using stale
          have unlocked : id ∉ rebuilding := fun isHeld => Nat.lt_irrefl id (free id isHeld)
          rw [if_neg outdated]
          refine .step ((advance_reading present _ _).trans (if_neg unlocked)) ?_
          refine .step (advance_reading present _ _) (.step (advance_reading present _ _) ?_)
          rw [if_neg outdated]
          refine .step (advance_reading present _ _) ?_
          cases link : node.parent? with
          | none =>
              have inherits : index.inherited node = none := by
                rw [Index.inherited, link]
                rfl
              rw [Index.Coherent.refresh_of_root present stale link] at goesOn
              exact stores present inherits goesOn
          | some parent =>
              have lower := coherent.arena.parent_lt present link
              have above := coherent.arena.parent_lt_size present link
              rw [Option.filter_some, if_pos (decide_eq_true above)]
              refine inductionHypothesis parent lower above
                (List.forall_mem_cons.mpr ⟨lower, fun held isHeld => ?_⟩) ?_
              · exact Nat.lt_trans lower (free held isHeld)
              · rw [coherent.refresh_of_parent present stale link] at goesOn
                have sameSize := Index.size_of_frame_eq (Index.frame_refresh index parent)
                exact stores ((index.node?_refresh_of_lt lower).trans present)
                  (Index.inherited_of_parent link (sameSize ▸ above)) goesOn

end Task.Alone

/-! ## Whole operations -/

/-- A task that nobody interrupts does what its operation does. -/
theorem Request.performs
    {index : Index β}
    (coherent : index.Coherent)
    {request : Request β}
    (isFor : request.IsFor index) :
    Task.Alone request (⟨index, false, []⟩, request.firstStage)
      (⟨(request.perform index).1, false, []⟩, (request.perform index).2) := by
  cases request with
  | register id priority listener => exact .registers coherent.arena isFor priority listener
  | unregisterAll id listeners => exact .unregisters coherent.arena isFor listeners
  | nodeFor kind =>
      refine .seeks kind [] ?_
      rw [perform]
      cases made : index.nodeFor kind with
      | ok result => exact .refl _
      | error error => exact .refl _
  | flattened id =>
      exact .reads coherent isFor (fun _ isHeld => absurd isHeld List.not_mem_nil) (.refl _)

/-- Going on without interruption is one of the ways in which tasks can be interleaved. -/
theorem Crowd.run_of_alone
    {request : Request β}
    {first last : Site β × Stage β}
    (alone : Task.Alone request first last)
    {tasks : List (Task β)}
    {number : Nat}
    (isTask : tasks[number]? = some ⟨request, first.2⟩) :
    Crowd.Run ⟨first.1, tasks⟩ ⟨last.1, tasks.set number ⟨request, last.2⟩⟩ := by
  induction alone generalizing tasks with
  | refl state =>
      obtain ⟨inside, isAt⟩ := List.getElem?_eq_some_iff.mp isTask
      rw [← isAt, List.set_getElem_self]
  | step advances _ inductionHypothesis =>
      have moved := inductionHypothesis
        (List.getElem?_set_self (List.getElem?_eq_some_iff.mp isTask).1)
      rw [List.set_set] at moved
      exact moved.head (.advance isTask advances)

end EventRelay
