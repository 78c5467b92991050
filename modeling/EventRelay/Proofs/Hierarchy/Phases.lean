import EventRelay.Proofs.Hierarchy.Buckets
import EventRelay.Proofs.Hierarchy.Reachable

/-!
# Arrays of single priorities

Reading a node priority by priority, from the first to the last, gives its whole array in five
pieces.

Whether an index keeps these pieces or makes them at each read cannot be told from the outside:
after the same commands, two indices that differ in this answer alike. For what is read depends
on the tree of kinds and on the buckets alone, and these develop in the same way.
-/

namespace EventRelay

variable {β : Type}

/-- The node without all that only serves to read it, as if it had just been made. -/
def Node.bare (node : Node β) : Node β := { node with generation := 1, cache := .empty }

theorem Node.bare_remove (node : Node β) (id : ListenerId) :
    (node.remove id).bare = node.bare.remove id := by
  have samePriority : node.bare.priorityOf? id = node.priorityOf? id := rfl
  unfold Node.remove
  rw [samePriority]
  cases node.priorityOf? id <;> rfl

namespace Index

/-- The tree of kinds and the buckets of an index, and nothing else. -/
def bare (index : Index β) : Index β := ⟨false, index.slots, index.nodes.map Node.bare⟩

/-- Reads the arrays of some priorities of a node one after the other. -/
def readPhases (index : Index β) (id : Nat) : List Priority → Index β × List (Listener β)
  | [] => (index, [])
  | priority :: rest =>
      let (read, entries) := index.phaseListeners id priority
      let (last, others) := read.readPhases id rest
      (last, entries ++ others)

/-- What an index can be asked for. -/
inductive Command (β : Type)
  | nodeFor (kind : Kind)
  | register (id : Nat) (priority : Priority) (listener : Listener β)
  | unregister (id : Nat) (listener : ListenerId)
  | unregisterAll (id : Nat) (listeners : List ListenerId)
  | flattened (id : Nat)
  | phaseListeners (id : Nat) (priority : Priority)

/-- What a command makes of an index; a refused one leaves it as it is. -/
def perform (index : Index β) : Command β → Index β
  | .nodeFor kind =>
      match index.nodeFor kind with
      | .ok (later, _) => later
      | .error _ => index
  | .register id priority listener => index.register id priority listener
  | .unregister id listener => index.unregister id listener
  | .unregisterAll id listeners => index.unregisterAll id listeners
  | .flattened id => (index.flattened id).1
  | .phaseListeners id priority => (index.phaseListeners id priority).1

/-- Commands are carried out one after the other. -/
def performAll (index : Index β) (commands : List (Command β)) : Index β :=
  commands.foldl perform index

/-! ## Commands and reachable indices -/

namespace Reachable

variable {index : Index β}

theorem perform
    (reachable : index.Reachable)
    (command : Command β) :
    (index.perform command).Reachable := by
  cases command with
  | nodeFor kind =>
      rw [Index.perform]
      split
      case h_1 later id made => exact .nodeFor reachable made
      case h_2 => exact reachable
  | register id priority listener => exact .register id priority listener reachable
  | unregister id listener => exact .unregister id listener reachable
  | unregisterAll id listeners => exact .unregisterAll id listeners reachable
  | flattened id => exact .flattened id reachable
  | phaseListeners id priority => exact .phaseListeners id priority reachable

theorem performAll
    (reachable : index.Reachable)
    (commands : List (Command β)) :
    (index.performAll commands).Reachable := by
  induction commands generalizing index with
  | nil => exact reachable
  | cons first rest inductionHypothesis => exact inductionHypothesis (reachable.perform first)

/-- Every reachable index arises from an empty one by commands. -/
theorem exists_performAll
    (reachable : index.Reachable) :
    ∃ tracksPhases commands, index = (empty tracksPhases).performAll commands := by
  -- One more command goes to the end of the list.
  have last {before after : Index β} (command : Command β) (does : before.perform command = after)
      (arises : ∃ tracksPhases commands, before = (empty tracksPhases).performAll commands) :
      ∃ tracksPhases commands, after = (empty tracksPhases).performAll commands := by
    obtain ⟨tracksPhases, commands, rfl⟩ := arises
    refine ⟨tracksPhases, commands ++ [command], ?_⟩
    rw [Index.performAll, List.foldl_append]
    exact does.symm
  induction reachable with
  | new tracksPhases => exact ⟨tracksPhases, [], rfl⟩
  | @nodeFor before after kind id _ made inductionHypothesis =>
      refine last (.nodeFor kind) ?_ inductionHypothesis
      rw [Index.perform, made]
  | register id priority listener _ inductionHypothesis =>
      exact last (.register id priority listener) rfl inductionHypothesis
  | unregister id listener _ inductionHypothesis =>
      exact last (.unregister id listener) rfl inductionHypothesis
  | unregisterAll id listeners _ inductionHypothesis =>
      exact last (.unregisterAll id listeners) rfl inductionHypothesis
  | flattened id _ inductionHypothesis => exact last (.flattened id) rfl inductionHypothesis
  | phaseListeners id priority _ inductionHypothesis =>
      exact last (.phaseListeners id priority) rfl inductionHypothesis

end Reachable

/-! ## The bare index -/

section Bare

variable (index : Index β)

@[simp] theorem node?_bare (id : Nat) :
    index.bare.node? id = (index.node? id).map Node.bare := by
  rw [bare, node?, node?, List.getElem?_map]

@[simp] theorem lookup?_bare (kindId : String) :
    index.bare.lookup? kindId = index.lookup? kindId := rfl

@[simp] theorem size_bare : index.bare.size = index.size := List.length_map _

@[simp] theorem bare_bare : index.bare.bare = index.bare := by
  rw [bare, bare, List.map_map]
  rfl

theorem bare_update
    (change bareChange : Node β → Node β)
    (agrees : ∀ node, (change node).bare = bareChange node.bare)
    (id : Nat) :
    (index.update id change).bare = index.bare.update id bareChange := by
  have sameNodes : (index.nodes.modify id change).map Node.bare =
      (index.nodes.map Node.bare).modify id bareChange := by
    refine List.ext_getElem? fun other => ?_
    rw [List.getElem?_map, List.getElem?_modify, List.getElem?_modify, List.getElem?_map]
    cases index.nodes[other]? with
    | none => rfl
    | some node => by_cases same : id = other <;> simp [same, agrees]
  simp only [bare, update, sameNodes]

/-- A change that only serves reading does not show. -/
theorem bare_update_of_hidden
    (change : Node β → Node β)
    (hidden : ∀ node, (change node).bare = node.bare)
    (id : Nat) :
    (index.update id change).bare = index.bare := by
  rw [index.bare_update change (fun node => node) hidden]
  exact congrArg (Index.mk _ _) (List.modify_id id _)

@[simp] theorem bare_invalidate (id : Nat) : (index.invalidate id).bare = index.bare := by
  unfold invalidate
  generalize index.subtree id = ids
  induction ids generalizing index with
  | nil => rfl
  | cons first rest inductionHypothesis =>
      rw [List.foldl_cons, inductionHypothesis]
      exact index.bare_update_of_hidden Node.invalidate (fun _ => rfl) first

@[simp] theorem bare_refresh (id : Nat) : (index.refresh id).bare = index.bare := by
  unfold refresh
  generalize index.staleChain id = ids
  induction ids generalizing index with
  | nil => rfl
  | cons first rest inductionHypothesis =>
      rw [List.foldl_cons, inductionHypothesis, rebuild_eq_update, bare_update_of_hidden]
      exact fun _ => rfl

theorem holdsAny_bare (id : Nat) (listeners : List ListenerId) :
    index.bare.holdsAny id listeners = index.holdsAny id listeners := by
  rw [holdsAny, holdsAny, node?_bare, Option.any_map]
  rfl

theorem bare_insert (kind : Kind) (parent? : Option Nat) :
    (index.insert kind parent?).1.bare = (index.bare.insert kind parent?).1 := by
  cases parent? with
  | none => simp [insert, bare, Node.create, Node.bare, size]
  | some parent =>
      have linked := index.bare_update (fun node => node.addChild index.size)
        (fun node => node.addChild index.size) (fun _ => rfl) parent
      have info : (index.bare.node? parent).map Node.info = (index.node? parent).map Node.info := by
        rw [node?_bare, Option.map_map]
        rfl
      have sameNodes := congrArg Index.nodes linked
      simp only [insert, Option.bind_some, info, size_bare]
      refine congrArg (Index.mk false _) ?_
      rw [List.map_append]
      exact congrArg (· ++ [_]) sameNodes

/-- Which nodes are made does not depend on what serves reading. -/
theorem nodeFor_bare (kind : Kind) :
    index.bare.nodeFor kind =
      (index.nodeFor kind).map fun result => (result.1.bare, result.2) := by
  induction kind with
  | root own =>
      rw [nodeFor, nodeFor, lookup?_bare]
      cases index.lookup? own.id with
      | some id => rfl
      | none => exact congrArg Except.ok (Prod.ext (index.bare_insert ..).symm (by simp))
  | child own parent inductionHypothesis =>
      rw [nodeFor, nodeFor, lookup?_bare]
      cases index.lookup? own.id with
      | some id => rfl
      | none =>
          cases brokenAncestor? parent with
          | some ancestor => rfl
          | none =>
              rw [inductionHypothesis]
              cases index.nodeFor parent with
              | error error => rfl
              | ok result =>
                  obtain ⟨grown, parentId⟩ := result
                  simp only [Except.map, lookup?_bare]
                  cases grown.lookup? own.id with
                  | some id => rfl
                  | none =>
                      exact congrArg Except.ok (Prod.ext (grown.bare_insert ..).symm (by simp))

/-- A command does to the tree and the buckets what it would do without the rest. -/
theorem bare_perform (command : Command β) :
    (index.perform command).bare = (index.bare.perform command).bare := by
  cases command with
  | nodeFor kind =>
      rw [perform, perform, nodeFor_bare]
      cases index.nodeFor kind with
      | ok result => exact (bare_bare _).symm
      | error error => exact (bare_bare _).symm
  | register id priority listener =>
      rw [perform, perform, register, register, bare_invalidate, bare_invalidate,
        bare_update _ _ (fun node => node.add priority listener) (fun _ => rfl),
        bare_update _ _ (fun node => node.add priority listener) (fun _ => rfl), bare_bare]
  | unregister id listener =>
      rw [perform, perform, unregister, unregister, holdsAny_bare]
      split
      · rw [bare_invalidate, bare_invalidate,
          bare_update _ _ (fun node => node.remove listener) (Node.bare_remove · listener),
          bare_update _ _ (fun node => node.remove listener) (Node.bare_remove · listener),
          bare_bare]
      · exact (bare_bare _).symm
  | unregisterAll id listeners =>
      rw [perform, perform, unregisterAll, unregisterAll, holdsAny_bare]
      split
      · rw [bare_invalidate, bare_invalidate,
          bare_update _ _ (fun node => node.removeAll listeners) (fun _ => rfl),
          bare_update _ _ (fun node => node.removeAll listeners) (fun _ => rfl), bare_bare]
      · exact (bare_bare _).symm
  | flattened id =>
      rw [perform, perform, flattened, flattened, bare_refresh, bare_refresh, bare_bare]
  | phaseListeners id priority =>
      rw [perform, perform, phaseListeners, phaseListeners, bare_refresh, bare_refresh, bare_bare]

theorem lineage_bare (id : Nat) : index.bare.lineage id = index.lineage id := by
  induction id using Nat.strongRecOn with
  | ind id inductionHypothesis =>
      cases present : index.node? id with
      | none => rw [lineage, lineage, node?_bare, present, Option.map_none]
      | some node =>
          have isBare : index.bare.node? id = some node.bare := by
            rw [node?_bare, present, Option.map_some]
          have sameParent : node.bare.parent? = node.parent? := rfl
          rw [lineage_of_node? isBare, lineage_of_node? present, sameParent]
          cases node.parent? with
          | none => rfl
          | some parent =>
              by_cases below : parent < id
              · simp only [below, if_true, inductionHypothesis parent below]
              · simp only [below, if_false]

theorem recomputedAt_bare (id : Nat) : index.bare.recomputedAt id = index.recomputedAt id := by
  have sameContents (other : Nat) : (index.bare.node? other).map Node.contents =
      (index.node? other).map Node.contents := by
    rw [node?_bare, Option.map_map]
    rfl
  obtain ⟨sameGathered, sameForm⟩ :=
    recomputation_congr (index.lineage_bare id) fun ancestor _ => sameContents ancestor
  funext priority
  rw [recomputedAt, recomputedAt, dispatchForm, dispatchForm, sameGathered, sameForm]

end Bare

/-- Whatever is commanded, indices that agree but for what serves reading go on to agree. -/
theorem bare_performAll
    {index other : Index β}
    (same : index.bare = other.bare)
    (commands : List (Command β)) :
    (index.performAll commands).bare = (other.performAll commands).bare := by
  induction commands generalizing index other with
  | nil => exact same
  | cons first rest inductionHypothesis =>
      refine inductionHypothesis ?_
      rw [bare_perform, same, ← bare_perform]

/-! ## Reading priority by priority -/

theorem recomputedAt_of_absent
    {index : Index β}
    {id : Nat}
    (absent : index.node? id = none)
    (priority : Priority) :
    index.recomputedAt id priority = [] := by
  have nothing : index.lineage id = [] := by rw [lineage, absent]
  rw [recomputedAt, dispatchForm, gatheredAt, nothing, List.flatMap_nil, List.map_nil, ite_self]

/-- The arrays of the single priorities make up the whole array. -/
theorem flatMap_recomputedAt
    (index : Index β)
    (id : Nat) :
    Priority.all.flatMap (index.recomputedAt id) = index.recomputed id := by
  unfold recomputed recomputedAt dispatchForm gathered
  split
  · rfl
  · exact List.map_flatMap.symm

theorem recomputed_of_absent
    {index : Index β}
    {id : Nat}
    (absent : index.node? id = none) :
    index.recomputed id = [] := by
  rw [← flatMap_recomputedAt]
  exact List.flatMap_eq_nil_iff.mpr fun priority _ => recomputedAt_of_absent absent priority

theorem refresh_of_absent
    {index : Index β}
    {id : Nat}
    (absent : index.node? id = none) :
    index.refresh id = index := by
  rw [refresh, staleChain, absent]
  rfl

theorem recomputedAt_refresh
    (index : Index β)
    (id other : Nat) :
    (index.refresh id).recomputedAt other = index.recomputedAt other := by
  obtain ⟨sameGathered, sameForm⟩ := recomputation_refresh index id other
  funext priority
  rw [recomputedAt, recomputedAt, dispatchForm, dispatchForm, sameGathered, sameForm]

namespace Coherent

variable {index : Index β}

theorem snd_phaseListeners
    (coherent : index.Coherent)
    (id : Nat)
    (priority : Priority) :
    (index.phaseListeners id priority).2 = index.recomputedAt id priority := by
  cases present : index.node? id with
  | none =>
      rw [phaseListeners, refresh_of_absent present, phaseOf, present,
        recomputedAt_of_absent present]
  | some node => exact coherent.phaseOf_refresh present priority

theorem listeners_cacheOf_refresh
    (coherent : index.Coherent)
    (id : Nat) :
    ((index.refresh id).cacheOf id).listeners = index.recomputed id := by
  cases present : index.node? id with
  | none =>
      rw [refresh_of_absent present, cacheOf, present, recomputed_of_absent present]
      rfl
  | some node => exact (coherent.current_refresh present).listeners

/-- In a node that has been brought up to date, the whole array is made up of those of the
single priorities. -/
theorem flatMap_phaseOf_refresh
    (coherent : index.Coherent)
    (id : Nat) :
    Priority.all.flatMap ((index.refresh id).phaseOf id) =
      ((index.refresh id).cacheOf id).listeners := by
  have phases : (index.refresh id).phaseOf id = index.recomputedAt id :=
    funext (coherent.snd_phaseListeners id)
  rw [phases, flatMap_recomputedAt, coherent.listeners_cacheOf_refresh]

/-- What has been brought up to date stays as it is. -/
theorem refresh_refresh
    (coherent : index.Coherent)
    (id : Nat) :
    (index.refresh id).refresh id = index.refresh id := by
  obtain ⟨-, isFresh⟩ := coherent.refresh id
  cases present : (index.refresh id).node? id with
  | none => exact refresh_of_absent present
  | some node => exact refresh_of_fresh present (isFresh node present)

theorem snd_readPhases
    (coherent : index.Coherent)
    (id : Nat)
    (priorities : List Priority) :
    (index.readPhases id priorities).2 = priorities.flatMap (index.recomputedAt id) := by
  induction priorities generalizing index with
  | nil => rfl
  | cons first rest inductionHypothesis =>
      have others := inductionHypothesis (coherent.refresh id).1
      rw [recomputedAt_refresh] at others
      rw [List.flatMap_cons, ← coherent.snd_phaseListeners, ← others]
      rfl

theorem fst_readPhases
    (coherent : index.Coherent)
    (id : Nat)
    (first : Priority)
    (rest : List Priority) :
    (index.readPhases id (first :: rest)).1 = index.refresh id := by
  change ((index.refresh id).readPhases id rest).1 = index.refresh id
  induction rest with
  | nil => rfl
  | cons second rest inductionHypothesis =>
      change (((index.refresh id).refresh id).readPhases id rest).1 = index.refresh id
      rw [coherent.refresh_refresh, inductionHypothesis]

end Coherent

/-- Reading all priorities from the first to the last gives the whole array and leaves the
index as reading the whole array does. -/
theorem Reachable.readPhases_all
    {index : Index β}
    (reachable : index.Reachable)
    (id : Nat) :
    index.readPhases id Priority.all =
      ((index.flattened id).1, (index.flattened id).2.listeners) := by
  have coherent := reachable.coherent
  refine Prod.ext (coherent.fst_readPhases id _ _) ?_
  rw [coherent.snd_readPhases, flatMap_recomputedAt]
  exact (coherent.listeners_cacheOf_refresh id).symm

/-- After the same commands, an index that keeps the arrays of single priorities and one that
does not give the same ones. -/
theorem phaseListeners_performAll
    (commands : List (Command β))
    (id : Nat)
    (priority : Priority) :
    (((empty true).performAll commands).phaseListeners id priority).2 =
      (((empty false).performAll commands).phaseListeners id priority).2 := by
  have coherent (tracksPhases : Bool) : ((empty tracksPhases).performAll commands).Coherent :=
    (Reachable.performAll (.new tracksPhases) commands).coherent
  have sameStart : (empty true : Index β).bare = (empty false).bare := rfl
  have sameBare := bare_performAll sameStart commands
  rw [(coherent true).snd_phaseListeners, (coherent false).snd_phaseListeners,
    ← recomputedAt_bare, sameBare, recomputedAt_bare]

/-- A reachable index answers like the one that arises in the same way but has decided
differently about keeping the arrays of single priorities. -/
theorem Reachable.exists_phaseListeners_eq
    {index : Index β}
    (reachable : index.Reachable) :
    ∃ tracksPhases commands, index = (empty tracksPhases).performAll commands ∧
      ∀ id priority, (index.phaseListeners id priority).2 =
        (((empty !tracksPhases).performAll commands).phaseListeners id priority).2 := by
  obtain ⟨tracksPhases, commands, rfl⟩ := reachable.exists_performAll
  refine ⟨tracksPhases, commands, rfl, fun id priority => ?_⟩
  cases tracksPhases with
  | true => exact phaseListeners_performAll commands id priority
  | false => exact (phaseListeners_performAll commands id priority).symm

end Index
end EventRelay
