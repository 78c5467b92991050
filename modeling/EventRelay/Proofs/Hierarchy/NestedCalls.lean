import EventRelay.Proofs.Event.Views
import EventRelay.Proofs.Hierarchy.Freshness
import EventRelay.Proofs.Hierarchy.UnderWay

/-!
# Nested calls

To make a node stale, to read it and to ask for the node of a kind are calls that wait for further
calls of the same sort: for each child of the node, for its parent, and for the parent kind. These
calls follow the links that nodes keep, whatever they are. So nothing in the calls themselves keeps
them from going round in circles, or from asking for a lock that one of the waiting calls holds.

Here only so many calls may be open at a time, and every call is recorded. In a reachable index all
calls return as soon as more of them may be open than the tree is high below the node, than the
node is deep, and than the kind has ancestors. For numbers grow on the way down and shrink on the
way up, so each node below is called for once, and on the way up no node is met again.
-/

namespace EventRelay

/-- A call that is made for something, with what the calls that wait for it are made for, the
innermost of them first. -/
structure NestedCall (α : Type) where
  target : α
  callers : List α
  deriving DecidableEq

/-- Why a call does not return. -/
inductive Stuck where
  /-- More calls would be open at a time than may be. -/
  | tooDeep
  /-- A lock is asked for that one of the waiting calls holds. -/
  | waitsForItself
  deriving DecidableEq

variable {α β : Type}

namespace Index

/-! ## The calls -/

/-- Calls for each of the children that are published, one after the other. -/
def visitEach
    (visit : Index β → Nat → Except Stuck (Index β × List (NestedCall Nat)))
    (index : Index β) :
    List Nat → Except Stuck (Index β × List (NestedCall Nat))
  | [] => .ok (index, [])
  | child :: others =>
      if child < index.size then do
        let (told, calls) ← visit index child
        let (later, more) ← told.visitEach visit others
        return (later, calls ++ more)
      else index.visitEach visit others

/-- Makes the cache of a node stale, and then those of its children in the same way, with at most
so many calls open at a time. -/
def invalidateWithin (limit : Nat) (callers : List Nat) (index : Index β) (id : Nat) :
    Except Stuck (Index β × List (NestedCall Nat)) :=
  match limit with
  | 0 => .error .tooDeep
  | limit + 1 => do
      let told := index.update id Node.invalidate
      let (later, calls) ←
        told.visitEach (invalidateWithin limit (id :: callers)) (told.childrenOf id)
      return (later, ⟨id, callers⟩ :: calls)

/-- Reads a node, with at most so many calls open at a time. The array of a stale node is built
under the lock of the node from what reading the parent in the same way gives. -/
def readWithin (limit : Nat) (callers : List Nat) (index : Index β) (id : Nat) :
    Except Stuck ((Index β × Flattened β) × List (NestedCall Nat)) :=
  match limit with
  | 0 => .error .tooDeep
  | limit + 1 =>
      match index.node? id with
      | none => .ok ((index, .empty), [⟨id, callers⟩])
      | some node =>
          if node.isStale then
            -- Who waits for this call is building an array and holds the lock of its node.
            if id ∈ callers then .error .waitsForItself
            else do
              let (above, inherited?, calls) ←
                match node.parent?.filter (· < index.size) with
                | none => pure (index, none, [])
                | some parent => do
                    let ((above, array), calls) ← index.readWithin limit (id :: callers) parent
                    pure (above, some array, calls)
              let array := node.flatten index.tracksPhases inherited?
              return ((above.update id fun current => { current with cache := array }, array),
                ⟨id, callers⟩ :: calls)
          else .ok ((index, node.cache), [⟨id, callers⟩])

/-- Finds or makes the node of a kind, after that of the parent kind has been asked for in the same
way, with at most so many calls open at a time. -/
def nodeForWithin (limit : Nat) (callers : List Kind) (index : Index β) (kind : Kind) :
    Except Stuck (Except BusError (Index β × Nat) × List (NestedCall Kind)) :=
  match limit with
  | 0 => .error .tooDeep
  | limit + 1 =>
      match index.lookup? kind.id with
      | some id => .ok (.ok (index, id), [⟨kind, callers⟩])
      | none =>
          match kind with
          | .root own => .ok (.ok (index.insert (.root own) none), [⟨.root own, callers⟩])
          | .child own parent =>
              match brokenAncestor? parent with
              | some ancestor =>
                  .ok (.error (.brokenAbstractChain own.name parent.name ancestor.name),
                    [⟨.child own parent, callers⟩])
              | none => do
                  let (answer, calls) ←
                    index.nodeForWithin limit (.child own parent :: callers) parent
                  let made :=
                    match answer with
                    | .error error => .error error
                    | .ok (grown, parentId) =>
                        match grown.lookup? own.id with
                        | some id => .ok (grown, id)
                        | none => .ok (grown.insert (.child own parent) (some parentId))
                  return (made, ⟨.child own parent, callers⟩ :: calls)

end Index

/-! ## Calls that climb -/

namespace NestedCall

/-- Calls one in the other for everything on a way, the first of them made by the given ones. -/
def climb (callers : List α) : List α → List (NestedCall α)
  | [] => []
  | start :: above => ⟨start, callers⟩ :: climb (start :: callers) above

theorem map_target_climb
    (callers way : List α) :
    (climb callers way).map target = way := by
  induction way generalizing callers with
  | nil => rfl
  | cons start above inductionHypothesis =>
      rw [climb, List.map_cons, inductionHypothesis]

theorem climb_begins
    {callers : List α}
    {start : α}
    {above : List α}
    {calls : List (NestedCall α)}
    (goesOn : calls <+: climb (start :: callers) above) :
    ⟨start, callers⟩ :: calls <+: climb callers (start :: above) :=
  List.cons_prefix_cons.mpr ⟨rfl, goesOn⟩

/-- Who waits for a call is what the way has led past. -/
theorem way_of_mem_climb
    {callers way : List α}
    {call : NestedCall α}
    (isCall : call ∈ climb callers way) :
    ∃ below above, way = below ++ call.target :: above ∧
      call.callers = below.reverse ++ callers := by
  induction way generalizing callers with
  | nil => cases isCall
  | cons start above inductionHypothesis =>
      rcases List.mem_cons.mp isCall with rfl | isHigher
      · exact ⟨[], above, rfl, rfl⟩
      · obtain ⟨below, rest, rfl, waiting⟩ := inductionHypothesis isHigher
        exact ⟨start :: below, rest, rfl, by simp [waiting]⟩

theorem related_of_mem_climb
    {way : List α}
    {related : α → α → Prop}
    (ordered : way.Pairwise related)
    {call : NestedCall α}
    (isCall : call ∈ climb [] way)
    {caller : α}
    (waits : caller ∈ call.callers) :
    related caller call.target := by
  obtain ⟨below, above, rfl, waiting⟩ := way_of_mem_climb isCall
  rw [waiting, List.append_nil, List.mem_reverse] at waits
  exact (List.pairwise_append.mp ordered).2.2 caller waits call.target List.mem_cons_self

theorem length_callers_of_mem_climb
    {way : List α}
    {call : NestedCall α}
    (isCall : call ∈ climb [] way) :
    call.callers.length < way.length := by
  obtain ⟨below, above, rfl, waiting⟩ := way_of_mem_climb isCall
  simp [waiting]

end NestedCall

namespace Index

/-! ## Making nodes stale -/

/-- Makes the caches of some nodes stale, one after the other. -/
def invalidateEach (index : Index β) (ids : List Nat) : Index β :=
  ids.foldl (fun current stale => current.update stale Node.invalidate) index

/-- Calls of a certain sort have been made for these nodes, each of which is stale now. -/
def TellsEach
    (fits : NestedCall Nat → Prop)
    (ids : List Nat)
    (index : Index β)
    (result : Except Stuck (Index β × List (NestedCall Nat))) : Prop :=
  ∃ calls, result = .ok (index.invalidateEach ids, calls) ∧
    calls.map NestedCall.target = ids ∧ ∀ call ∈ calls, fits call

/-- Those who wait for the call are on the way up from its target to a node, and behind them
come those who have waited for the call for this node. -/
def IsReachedFrom (index : Index β) (id : Nat) (callers : List Nat) (call : NestedCall Nat) :
    Prop :=
  ∃ way, call.target :: call.callers = way ++ callers ∧
    index.lineage call.target = way ++ (index.lineage id).tail

theorem tellsEach_visitEach
    {tree : Index β}
    {visit : Index β → Nat → Except Stuck (Index β × List (NestedCall Nat))}
    {fits : NestedCall Nat → Prop}
    (children : List Nat)
    (visits : ∀ child ∈ children, child < tree.size → ∀ {current}, tree.UnderWay current →
      TellsEach fits (tree.subtree child) current (visit current child))
    {current : Index β}
    (underWay : tree.UnderWay current) :
    TellsEach fits (children.flatMap tree.subtree) current
      (current.visitEach visit children) := by
  induction children generalizing current with
  | nil => exact ⟨[], rfl, rfl, nofun⟩
  | cons child others inductionHypothesis =>
      obtain ⟨visitsChild, visitsOthers⟩ := List.forall_mem_cons.mp visits
      rw [visitEach, List.flatMap_cons]
      by_cases published : child < tree.size
      · have stillUnderWay : tree.UnderWay (current.invalidateEach (tree.subtree child)) :=
          underWay.of_frame_eq (frame_foldl_update Node.frame_invalidate _ current)
        obtain ⟨calls, isTold, targets, fit⟩ := visitsChild published underWay
        obtain ⟨more, areTold, otherTargets, othersFit⟩ :=
          inductionHypothesis visitsOthers stillUnderWay
        refine ⟨calls ++ more, ?_, ?_, List.forall_mem_append.mpr ⟨fit, othersFit⟩⟩
        · rw [if_pos (underWay.size_eq.symm ▸ published), isTold]
          change (visitEach visit (current.invalidateEach (tree.subtree child)) others >>= _) = _
          rw [areTold, invalidateEach, invalidateEach, ← List.foldl_append]
          rfl
        · rw [List.map_append, targets, otherTargets]
      · rw [if_neg (underWay.size_eq.symm ▸ published),
          subtree_of_node?_eq_none (List.getElem?_eq_none (Nat.le_of_not_lt published)),
          List.nil_append]
        exact inductionHypothesis visitsOthers underWay

namespace Arena

variable {tree current : Index β}

/-- Below a child fewer calls are enough than below its parent. -/
theorem room_of_child
    (arena : tree.Arena)
    {id child limit : Nat}
    {node : Node β}
    (present : tree.node? id = some node)
    (isChild : child ∈ node.children)
    (room : ∀ low, id ∈ tree.lineage low → tree.depthOf low < tree.depthOf id + (limit + 1))
    (low : Nat)
    (above : child ∈ tree.lineage low) :
    tree.depthOf low < tree.depthOf child + limit := by
  obtain ⟨childNode, childPresent, link⟩ := arena.exists_child present isChild
  have isBelow : id ∈ tree.lineage child :=
    arena.mem_lineage_of_parent childPresent link (self_mem_lineage present)
  have fits := room low (arena.mem_lineage_trans above isBelow)
  rw [arena.depthOf_of_parent childPresent link]
  omega

/-- What is reached from a child is reached from its parent, whose call waits for the child's. -/
theorem isReachedFrom_of_child
    (arena : tree.Arena)
    {id child : Nat}
    {callers : List Nat}
    {node : Node β}
    {call : NestedCall Nat}
    (present : tree.node? id = some node)
    (isChild : child ∈ node.children)
    (reached : tree.IsReachedFrom child (id :: callers) call) :
    tree.IsReachedFrom id callers call := by
  obtain ⟨childNode, childPresent, link⟩ := arena.exists_child present isChild
  obtain ⟨way, waiting, lineage⟩ := reached
  refine ⟨way ++ [id], by rw [waiting, List.append_assoc, List.singleton_append], ?_⟩
  rw [lineage, arena.lineage_eq_cons childPresent link, List.tail_cons, List.append_assoc,
    List.singleton_append, ← lineage_eq_cons_tail present]

/-- If as many calls may be open as there are levels from a node on, the calls that begin with the
node are made for everything below it, in the order of the subtree. -/
theorem tellsEach_invalidateWithin
    (arena : tree.Arena)
    {limit id : Nat}
    (published : id < tree.size)
    (room : ∀ low, id ∈ tree.lineage low → tree.depthOf low < tree.depthOf id + limit)
    (callers : List Nat)
    (underWay : tree.UnderWay current) :
    TellsEach (tree.IsReachedFrom id callers) (tree.subtree id) current
      (current.invalidateWithin limit callers id) := by
  induction limit generalizing id callers current with
  | zero =>
      obtain ⟨node, present⟩ := exists_node? published
      exact absurd (room id (self_mem_lineage present)) (Nat.lt_irrefl _)
  | succ limit inductionHypothesis =>
      obtain ⟨node, present⟩ := exists_node? published
      have toldUnderWay : tree.UnderWay (current.update id Node.invalidate) :=
        underWay.of_frame_eq (frame_update Node.frame_invalidate current id)
      obtain ⟨told, isTold⟩ := exists_node? (toldUnderWay.size_eq.symm ▸ published)
      have visits : ∀ child ∈ told.children, child < tree.size →
          ∀ {current}, tree.UnderWay current →
            TellsEach (tree.IsReachedFrom id callers) (tree.subtree child) current
              (current.invalidateWithin limit (id :: callers) child) := by
        intro child isListed isPublished current underWay
        have isChild := toldUnderWay.mem_children_of_lt isTold present isListed isPublished
        obtain ⟨calls, returns, targets, reached⟩ := inductionHypothesis isPublished
          (arena.room_of_child present isChild room) (id :: callers) underWay
        exact ⟨calls, returns, targets, fun call isCall =>
          arena.isReachedFrom_of_child present isChild (reached call isCall)⟩
      have sameSubtrees := toldUnderWay.flatMap_subtree isTold present
      obtain ⟨calls, visited, targets, reached⟩ :=
        tellsEach_visitEach told.children visits toldUnderWay
      refine ⟨⟨id, callers⟩ :: calls, ?_, ?_, List.forall_mem_cons.mpr ⟨⟨[id], rfl, ?_⟩, reached⟩⟩
      · rw [invalidateWithin, childrenOf, isTold]
        change (visitEach _ _ told.children >>= _) = _
        rw [visited, sameSubtrees, arena.subtree_eq present]
        rfl
      · rw [List.map_cons, targets, sameSubtrees, arena.subtree_eq present]
      · exact lineage_eq_cons_tail present

end Arena

/-- The calls by which a node and all nodes below it are made stale. -/
structure InvalidatesBy (index : Index β) (limit id : Nat) (calls : List (NestedCall Nat)) :
    Prop where
  /-- The first call returns, and what is stale then is what invalidation makes stale. -/
  returns : index.invalidateWithin limit [] id = .ok (index.invalidate id, calls)
  /-- Calls are made for the node and for what is below it. -/
  visits : ∀ other, other ∈ calls.map NestedCall.target ↔ id ∈ index.lineage other
  /-- No two calls are made for the same node. -/
  once : (calls.map NestedCall.target).Nodup
  /-- A call is made for a greater number than those that wait for it. -/
  ascends : ∀ call ∈ calls, ∀ caller ∈ call.callers, caller < call.target
  /-- No more calls wait than the tree is high below the node. -/
  depth : ∀ call ∈ calls, call.callers.length ≤ index.height id
  /-- As many calls wait for a call as its target is deeper than the node, hence no more than the
  target is deep. -/
  level : ∀ call ∈ calls, index.depthOf call.target = index.depthOf id + call.callers.length

theorem Arena.exists_invalidatesBy
    {tree current : Index β}
    (arena : tree.Arena)
    (underWay : tree.UnderWay current)
    {id limit : Nat}
    {node : Node β}
    (present : current.node? id = some node)
    (room : current.height id < limit) :
    ∃ calls, current.InvalidatesBy limit id calls := by
  obtain ⟨before, wasPresent, -⟩ := underWay.exists_settled present
  rw [underWay.height arena] at room
  have levels : ∀ low, id ∈ tree.lineage low → tree.depthOf low < tree.depthOf id + limit :=
    fun low above => Nat.lt_of_le_of_lt (depthOf_le above) (Nat.add_lt_add_left room _)
  obtain ⟨calls, returns, targets, reached⟩ :=
    arena.tellsEach_invalidateWithin (node?_lt_size wasPresent) levels [] underWay
  have isBelow {call : NestedCall Nat} (isCall : call ∈ calls) :
      id ∈ tree.lineage call.target :=
    arena.mem_subtree_iff.mp (targets ▸ List.mem_map_of_mem isCall)
  have lineageOf {call : NestedCall Nat} (isCall : call ∈ calls) :
      tree.lineage call.target = call.target :: call.callers ++ (tree.lineage id).tail := by
    obtain ⟨way, waiting, lineage⟩ := reached call isCall
    rw [lineage, waiting, List.append_nil]
  have level {call : NestedCall Nat} (isCall : call ∈ calls) :
      tree.depthOf call.target = tree.depthOf id + call.callers.length := by
    have self : call.target ∈ tree.lineage call.target := by
      rw [lineageOf isCall]
      exact List.mem_cons_self
    obtain ⟨target, isTarget⟩ := arena.exists_of_mem_lineage self
    have length := arena.length_lineage isTarget
    rw [lineageOf isCall, List.length_append, List.length_cons, List.length_tail,
      arena.length_lineage wasPresent] at length
    omega
  refine ⟨calls, ?returns, ?visits, ?once, ?ascends, ?depth, ?level⟩
  case returns =>
    rw [returns, Index.invalidate, underWay.subtree arena, invalidateEach]
  case visits =>
    intro other
    rw [targets, arena.mem_subtree_iff, underWay.lineage arena]
  case once =>
    rw [targets]
    exact arena.nodup_subtree id
  case ascends =>
    intro call isCall caller waits
    have descends := arena.pairwise_lineage call.target
    rw [lineageOf isCall, List.cons_append] at descends
    exact ((List.pairwise_cons.mp descends).1 caller (List.mem_append_left _ waits)).1
  case depth =>
    intro call isCall
    have bound := depthOf_le (isBelow isCall)
    rw [level isCall] at bound
    rw [underWay.height arena]
    exact Nat.le_of_add_le_add_left bound
  case level =>
    intro call isCall
    rw [underWay.depthOf, underWay.depthOf, level isCall]

/-! ## Reading -/

theorem Arena.readWithin_eq
    {tree current : Index β}
    (arena : tree.Arena)
    (underWay : tree.UnderWay current)
    {limit id : Nat}
    {node : Node β}
    (present : current.node? id = some node)
    (room : current.depthOf id < limit)
    {callers : List Nat}
    (free : ∀ caller ∈ callers, id < caller) :
    ∃ calls, current.readWithin limit callers id = .ok (current.flattened id, calls) ∧
      calls <+: NestedCall.climb callers (current.lineage id) := by
  induction limit generalizing id node callers with
  | zero => exact absurd room (Nat.not_lt_zero _)
  | succ limit inductionHypothesis =>
      have unlocked : id ∉ callers := fun waits => Nat.lt_irrefl id (free id waits)
      have alone : [⟨id, callers⟩] <+: NestedCall.climb callers (current.lineage id) := by
        rw [lineage_eq_cons_tail present]
        exact NestedCall.climb_begins List.nil_prefix
      rw [readWithin]
      simp only [present]
      cases stale : node.isStale with
      | false =>
          refine ⟨[⟨id, callers⟩], ?_, alone⟩
          rw [flattened, Coherent.refresh_of_fresh present stale, cacheOf, present]
          rfl
      | true =>
          rw [if_pos rfl, if_neg unlocked]
          cases link : node.parent? with
          | none =>
              have inherits : current.inherited node = none := by
                rw [inherited, link]
                rfl
              refine ⟨[⟨id, callers⟩], ?_, alone⟩
              rw [flattened, Coherent.refresh_of_root present stale link, cacheOf_rebuild present,
                rebuild_of_node? present, inherits]
              rfl
          | some parent =>
              obtain ⟨lower, published, deeper⟩ := underWay.parent arena present link
              obtain ⟨above, isAbove⟩ := exists_node? published
              obtain ⟨calls, isRead, climbs⟩ := inductionHypothesis isAbove
                (by omega : current.depthOf parent < limit)
                (List.forall_mem_cons.mpr
                  ⟨lower, fun caller waits => Nat.lt_trans lower (free caller waits)⟩)
              have still : (current.refresh parent).node? id = some node :=
                (current.node?_refresh_of_lt lower).trans present
              have sameSize := size_of_frame_eq (frame_refresh current parent)
              have inherits := inherited_of_parent link (sameSize.symm ▸ published)
              refine ⟨⟨id, callers⟩ :: calls, ?_, ?_⟩
              · rw [Option.filter_some, if_pos (decide_eq_true published)]
                simp only
                rw [isRead, flattened.eq_1 current id, refresh_of_lower present stale link lower,
                  cacheOf_rebuild still, rebuild_of_node? still, inherits,
                  tracksPhases_of_frame_eq (frame_refresh current parent)]
                rfl
              · rw [lineage_of_node? present, link]
                simp only [lower, if_true]
                exact NestedCall.climb_begins climbs

/-- The calls by which a node is read. -/
structure ReadsBy (index : Index β) (limit id : Nat) (calls : List (NestedCall Nat)) :
    Prop where
  /-- The first call returns what a read of the node gives. -/
  returns : index.readWithin limit [] id = .ok (index.flattened id, calls)
  /-- Calls are made one in the other, for one node after the other on the way up. -/
  climbs : calls <+: NestedCall.climb [] (index.lineage id)
  /-- A call is made for a smaller number than those that wait for it. -/
  descends : ∀ call ∈ calls, ∀ caller ∈ call.callers, call.target < caller
  /-- The lock of a node is not asked for again by a call that waits for itself. -/
  unlocked : ∀ call ∈ calls, call.target ∉ call.callers
  /-- No more calls wait than the node is deep. -/
  depth : ∀ call ∈ calls, call.callers.length ≤ index.depthOf id
  /-- As many calls wait for a call as the node is deeper than its target, hence no more than the
  tree is high below the target. -/
  level : ∀ call ∈ calls, index.depthOf id = index.depthOf call.target + call.callers.length ∧
    call.callers.length ≤ index.height call.target

theorem Arena.exists_readsBy
    {tree current : Index β}
    (arena : tree.Arena)
    (underWay : tree.UnderWay current)
    {id limit : Nat}
    {node : Node β}
    (present : current.node? id = some node)
    (room : current.depthOf id < limit) :
    ∃ calls, current.ReadsBy limit id calls := by
  obtain ⟨before, wasPresent, -⟩ := underWay.exists_settled present
  obtain ⟨calls, returns, climbs⟩ :=
    arena.readWithin_eq underWay present room (List.forall_mem_nil _)
  have onWay {call : NestedCall Nat} (isCall : call ∈ calls) :
      call ∈ NestedCall.climb [] (tree.lineage id) :=
    underWay.lineage arena id ▸ climbs.subset isCall
  have descends {call : NestedCall Nat} (isCall : call ∈ calls) {caller : Nat}
      (waits : caller ∈ call.callers) : call.target < caller :=
    (NestedCall.related_of_mem_climb (arena.pairwise_lineage id) (onWay isCall) waits).1
  have level {call : NestedCall Nat} (isCall : call ∈ calls) :
      tree.depthOf id = tree.depthOf call.target + call.callers.length ∧
        call.target ∈ tree.lineage id := by
    obtain ⟨below, above, way, waiting⟩ := NestedCall.way_of_mem_climb (onWay isCall)
    have isAbove : call.target ∈ tree.lineage id := by simp [way]
    obtain ⟨target, isTarget⟩ := arena.exists_of_mem_lineage isAbove
    have length := arena.length_lineage wasPresent
    rw [way, List.length_append, ← arena.lineage_of_append way, arena.length_lineage isTarget]
      at length
    rw [waiting, List.append_nil, List.length_reverse]
    exact ⟨by omega, isAbove⟩
  refine ⟨calls, returns, climbs, fun call isCall caller => descends isCall, ?unlocked, ?depth,
    ?level⟩
  case unlocked =>
    exact fun call isCall waits => Nat.lt_irrefl _ (descends isCall waits)
  case depth =>
    intro call isCall
    rw [underWay.depthOf, (level isCall).1]
    exact Nat.le_add_left _ _
  case level =>
    intro call isCall
    obtain ⟨deeper, isAbove⟩ := level isCall
    have bound := depthOf_le isAbove
    rw [underWay.depthOf, underWay.depthOf, underWay.height arena]
    exact ⟨deeper, by omega⟩

/-! ## Asking for nodes -/

theorem nodeForWithin_eq
    (index : Index β)
    {kind : Kind}
    {limit : Nat}
    (room : kind.depth < limit)
    (callers : List Kind) :
    ∃ calls, index.nodeForWithin limit callers kind = .ok (index.nodeFor kind, calls) ∧
      calls <+: NestedCall.climb callers kind.ancestors := by
  obtain ⟨limit, rfl⟩ := Nat.exists_eq_add_one_of_ne_zero (Nat.ne_zero_of_lt room)
  induction kind generalizing limit callers with
  | root own =>
      refine ⟨[⟨.root own, callers⟩], ?_, List.prefix_rfl⟩
      rw [nodeForWithin, nodeFor, Kind.id, Kind.own_root]
      cases index.lookup? own.id <;> rfl
  | child own parent inductionHypothesis =>
      rw [nodeForWithin, nodeFor, Kind.id, Kind.own_child]
      cases index.lookup? own.id with
      | some id => exact ⟨_, rfl, NestedCall.climb_begins List.nil_prefix⟩
      | none =>
          cases brokenAncestor? parent with
          | some ancestor => exact ⟨_, rfl, NestedCall.climb_begins List.nil_prefix⟩
          | none =>
              have higher := Nat.lt_of_succ_lt_succ room
              obtain ⟨limit, rfl⟩ := Nat.exists_eq_add_one_of_ne_zero (Nat.ne_zero_of_lt higher)
              obtain ⟨calls, isFound, climbs⟩ :=
                inductionHypothesis (.child own parent :: callers) limit higher
              refine ⟨_ :: calls, ?_, NestedCall.climb_begins climbs⟩
              simp only
              rw [isFound]
              rfl

/-- The calls by which the node of a kind is asked for. -/
structure FindsBy (index : Index β) (limit : Nat) (kind : Kind) (calls : List (NestedCall Kind)) :
    Prop where
  /-- The first call returns what asking for the node of the kind answers. -/
  returns : index.nodeForWithin limit [] kind = .ok (index.nodeFor kind, calls)
  /-- Calls are made one in the other, for one kind after the other on the way up. -/
  climbs : calls <+: NestedCall.climb [] kind.ancestors
  /-- No two calls are made for the same ancestor. -/
  once : (calls.map NestedCall.target).Nodup
  /-- No more calls wait than kinds stand above the kind. -/
  depth : ∀ call ∈ calls, call.callers.length ≤ kind.depth

theorem exists_findsBy
    (index : Index β)
    {kind : Kind}
    {limit : Nat}
    (room : kind.depth < limit) :
    ∃ calls, index.FindsBy limit kind calls := by
  obtain ⟨calls, returns, climbs⟩ := index.nodeForWithin_eq room []
  refine ⟨calls, returns, climbs, ?once, ?depth⟩
  case once =>
    have targets := climbs.map NestedCall.target
    rw [NestedCall.map_target_climb] at targets
    have distinct : kind.ancestors.Nodup := kind.pairwise_ancestors.imp fun above => above.2.symm
    exact distinct.sublist targets.sublist
  case depth =>
    intro call isCall
    have bound := NestedCall.length_callers_of_mem_climb (climbs.subset isCall)
    rw [kind.length_ancestors] at bound
    exact Nat.le_of_lt_succ bound

/-! ## All calls return -/

namespace Reachable

/-- In a reachable index, also in the midst of an operation, the calls return by which a node and
what is below it are made stale, a node is read, and the node of a kind is asked for. The first
are made for greater and greater numbers, once for each node below, and at most as many of them
wait as the tree is high below the node. The second are made for smaller and smaller numbers, so
that no lock is asked for twice, and at most as many of them wait as the node is deep. The last
are made at most once for each ancestor of the kind, so that at most as many of them wait. -/
theorem nested_calls_return
    {index current : Index β}
    (reachable : index.Reachable)
    (underWay : index.UnderWay current) :
    (∀ id node, current.node? id = some node →
      (∀ limit, current.height id < limit → ∃ calls, current.InvalidatesBy limit id calls) ∧
        ∀ limit, node.info.depth < limit → ∃ calls, current.ReadsBy limit id calls) ∧
      ∀ kind limit, kind.depth < limit → ∃ calls, current.FindsBy limit kind calls := by
  have arena := reachable.coherent.arena
  refine ⟨fun id node present => ⟨fun limit room => ?_, fun limit room => ?_⟩,
    fun kind limit room => current.exists_findsBy room⟩
  · exact arena.exists_invalidatesBy underWay present room
  · rw [← depthOf_of_node? present] at room
    exact arena.exists_readsBy underWay present room

/-- The alarms already list a further child. -/
def announcing : Index Unit := withSirens.link (some 0) withSirens.size

/-- A kind below sirens without a node. -/
def horn : Kind := .child ⟨"Horn", "Horn", false, false, []⟩ siren

/-- The child that is not published yet is passed over when alarms are made stale. Reading the
fire drills climbs up to the alarms, and asking for horns ends at the sirens. -/
theorem nested_calls_return_announcing :
    withSirens.Reachable ∧ withSirens.UnderWay announcing ∧
      announcing.childrenOf 0 = [1, 2, 4] ∧
      announcing.InvalidatesBy 3 0 [⟨0, []⟩, ⟨1, [0]⟩, ⟨3, [1, 0]⟩, ⟨2, [0]⟩] ∧
      announcing.ReadsBy 3 3 [⟨3, []⟩, ⟨1, [3]⟩, ⟨0, [1, 3]⟩] ∧
      announcing.FindsBy 3 horn [⟨horn, []⟩, ⟨siren, [horn]⟩] := by
  have underWay : withSirens.UnderWay announcing := ⟨some 0, rfl⟩
  obtain ⟨onNodes, onKinds⟩ := nested_calls_return reachable_withSirens underWay
  obtain ⟨alarms, isAlarms⟩ := exists_node? (by decide +kernel : 0 < announcing.size)
  obtain ⟨drills, isDrills⟩ := exists_node? (by decide +kernel : 3 < announcing.size)
  have depth : drills.info.depth = 2 := by
    have asKept : announcing.depthOf 3 = 2 := by decide +kernel
    rwa [depthOf_of_node? isDrills] at asKept
  obtain ⟨told, tells⟩ := (onNodes 0 alarms isAlarms).1 3 (by decide +kernel)
  obtain ⟨read, reads⟩ := (onNodes 3 drills isDrills).2 3 (depth ▸ by decide)
  obtain ⟨found, finds⟩ := onKinds horn 3 (by decide)
  have toldCalls : (announcing.invalidateWithin 3 [] 0).map Prod.snd =
      .ok [⟨0, []⟩, ⟨1, [0]⟩, ⟨3, [1, 0]⟩, ⟨2, [0]⟩] := by decide +kernel
  have readCalls : (announcing.readWithin 3 [] 3).map Prod.snd =
      .ok [⟨3, []⟩, ⟨1, [3]⟩, ⟨0, [1, 3]⟩] := by decide +kernel
  have foundCalls : (announcing.nodeForWithin 3 [] horn).map Prod.snd =
      .ok [⟨horn, []⟩, ⟨siren, [horn]⟩] := by decide +kernel
  rw [tells.returns] at toldCalls
  rw [reads.returns] at readCalls
  rw [finds.returns] at foundCalls
  cases toldCalls
  cases readCalls
  cases foundCalls
  exact ⟨reachable_withSirens, underWay, by decide +kernel, tells, reads, finds⟩

/-- One call fewer is not enough, since fire drills lie two levels below alarms. -/
example : (announcing.invalidateWithin 2 [] 0).map Prod.snd = .error .tooDeep := by decide +kernel

end Reachable
end Index
end EventRelay
