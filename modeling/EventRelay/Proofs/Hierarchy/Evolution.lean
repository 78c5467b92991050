import EventRelay.Proofs.Hierarchy.Buckets
import EventRelay.Proofs.Hierarchy.Reachable
import EventRelay.Proofs.Hierarchy.SoundChain
import Mathlib.Logic.Relation

/-!
# What becomes of an index

An operation on an index either makes nodes or keeps the frame. So the nodes that an index has
stay where they are, whatever is done with it later.

Nodes are made only below sound chains. As long as no two kinds share an identity, all kinds
that have nodes in a reachable index therefore have sound chains.
-/

namespace EventRelay

variable {β : Type}

/-- A kind has a sound chain if its parent has one and no broken ancestor. -/
theorem Kind.SoundChain.child
    {own : Descriptor}
    {parent : Kind}
    (sound : parent.SoundChain)
    (unbroken : Index.brokenAncestor? parent = none) :
    (Kind.child own parent).SoundChain := by
  intro low isLow above isParent isAbstract other isOther
  rcases List.mem_cons.mp isLow with rfl | higher
  · cases isParent
    rw [Index.brokenAncestor?, if_pos isAbstract, Kind.firstConcrete?, List.find?_eq_none]
      at unbroken
    simpa using unbroken other isOther
  · exact sound low higher above isParent isAbstract other isOther

namespace Index

/-! ## Operations -/

/-- The single operations on an index. -/
inductive Operation : Index β → Index β → Prop
  /-- The node of a kind is asked for. -/
  | nodeFor {index later : Index β} {kind : Kind} {id : Nat} :
      index.nodeFor kind = .ok (later, id) → Operation index later
  | register (index : Index β) (id : Nat) (priority : Priority) (listener : Listener β) :
      Operation index (index.register id priority listener)
  | unregister (index : Index β) (id : Nat) (listener : ListenerId) :
      Operation index (index.unregister id listener)
  | unregisterAll (index : Index β) (id : Nat) (listeners : List ListenerId) :
      Operation index (index.unregisterAll id listeners)
  | flattened (index : Index β) (id : Nat) : Operation index (index.flattened id).1
  | phaseListeners (index : Index β) (id : Nat) (priority : Priority) :
      Operation index (index.phaseListeners id priority).1

/-- Operations are done one after the other. -/
abbrev Evolves : Index β → Index β → Prop := Relation.ReflTransGen Operation

/-- An operation makes nodes for ancestors of one kind, or it keeps the frame. -/
theorem Operation.grows_or_frame_eq
    {index later : Index β}
    (operation : Operation index later) :
    (∃ kind : Kind, GrowsTo (· ∈ kind.ancestors) index later) ∨ later.frame = index.frame := by
  cases operation with
  | nodeFor made => exact .inl ⟨_, (nodeFor_grows made).1⟩
  | register id priority listener => exact .inr (frame_register ..)
  | unregister id listener => exact .inr (frame_unregister ..)
  | unregisterAll id listeners => exact .inr (frame_unregisterAll ..)
  | flattened id => exact .inr (frame_refresh index id)
  | phaseListeners id priority => exact .inr (frame_refresh index id)

/-- A kind that has a node keeps it. -/
theorem Evolves.lookup?
    {index later : Index β}
    (evolves : index.Evolves later)
    {kindId : String}
    {id : Nat}
    (known : index.lookup? kindId = some id) :
    later.lookup? kindId = some id := by
  induction evolves with
  | refl => exact known
  | tail _ operation inductionHypothesis =>
      rcases operation.grows_or_frame_eq with ⟨kind, grows⟩ | sameFrame
      · exact grows.lookup? inductionHypothesis
      · rwa [lookup?_of_frame_eq sameFrame]

theorem Reachable.operation
    {index later : Index β}
    (reachable : index.Reachable)
    (operation : Operation index later) :
    later.Reachable := by
  cases operation with
  | nodeFor made => exact .nodeFor reachable made
  | register id priority listener => exact .register id priority listener reachable
  | unregister id listener => exact .unregister id listener reachable
  | unregisterAll id listeners => exact .unregisterAll id listeners reachable
  | flattened id => exact .flattened id reachable
  | phaseListeners id priority => exact .phaseListeners id priority reachable

theorem Reachable.evolves
    {index later : Index β}
    (reachable : index.Reachable)
    (evolves : index.Evolves later) :
    later.Reachable := by
  induction evolves with
  | refl => exact reachable
  | tail _ operation inductionHypothesis => exact inductionHypothesis.operation operation

/-! ## Sound chains in a reachable index -/

/-- Asking for a node makes nodes with sound chains only. The node found for the parent is
that of the parent kind, and so the parent's chain is sound already. -/
theorem soundChain_of_nodeFor
    {index later : Index β}
    {kind : Kind}
    {id : Nat}
    (made : index.nodeFor kind = .ok (later, id))
    (arena : index.Arena)
    (sound : ∀ other ∈ index.kinds, other.SoundChain)
    (consistent : Kind.Consistent (· ∈ later.kinds)) :
    ∀ other ∈ later.kinds, other.SoundChain := by
  induction kind generalizing later id with
  | root own =>
      rw [nodeFor] at made
      split at made
      case h_1 => cases made; exact sound
      case h_2 =>
        obtain ⟨rfl, rfl⟩ := Prod.ext_iff.mp (Except.ok.inj made)
        intro other isKind
        rw [kinds_insert, List.mem_append, List.mem_singleton] at isKind
        rcases isKind with old | rfl
        · exact sound other old
        · intro low isLow parent isParent
          rw [List.mem_singleton.mp isLow] at isParent
          cases isParent
  | child own parent inductionHypothesis =>
      rw [nodeFor] at made
      split at made
      case h_1 => cases made; exact sound
      case h_2 =>
        split at made
        case h_1 => cases made
        case h_2 unbroken =>
          split at made
          case h_1 => cases made
          case h_2 grown parentId parentMade =>
            split at made
            case h_1 => cases made; exact inductionHypothesis parentMade consistent
            case h_2 =>
              obtain ⟨rfl, rfl⟩ := Prod.ext_iff.mp (Except.ok.inj made)
              rw [kinds_insert] at consistent ⊢
              have old {other : Kind} (isOld : other ∈ grown.kinds) :
                  other ∈ grown.kinds ++ [.child own parent] := List.mem_append_left _ isOld
              have grownSound := inductionHypothesis parentMade
                (consistent.mono fun _ isOld => old isOld)
              obtain ⟨grows, parentKnown⟩ := nodeFor_grows parentMade
              obtain ⟨node, present, sameId⟩ :=
                (arena.of_growsTo grows).exists_of_lookup? parentKnown
              have isParent : node.kind = parent :=
                consistent.eq_of_id_eq (.self (old (kind_mem_kinds present)))
                  (.of_mem_ancestors (List.mem_append_right _ (List.mem_singleton_self _))
                    (List.mem_cons_of_mem _ (Kind.self_mem_ancestors parent))) sameId
              have parentSound : parent.SoundChain :=
                isParent ▸ grownSound node.kind (kind_mem_kinds present)
              intro other isKind
              rcases List.mem_append.mp isKind with isOld | isNew
              · exact grownSound other isOld
              · rw [List.mem_singleton.mp isNew]
                exact parentSound.child unbroken

/-- As long as no two kinds share an identity, the kinds that have nodes have sound chains. -/
theorem Reachable.soundChain
    {index : Index β}
    (reachable : index.Reachable)
    (consistent : Kind.Consistent (· ∈ index.kinds)) :
    ∀ kind ∈ index.kinds, kind.SoundChain := by
  have kept {earlier later : Index β}
      (inductionHypothesis : Kind.Consistent (· ∈ earlier.kinds) →
        ∀ kind ∈ earlier.kinds, kind.SoundChain)
      (sameFrame : later.frame = earlier.frame)
      (consistent : Kind.Consistent (· ∈ later.kinds)) :
      ∀ kind ∈ later.kinds, kind.SoundChain := by
    rw [kinds_of_frame_eq sameFrame] at consistent ⊢
    exact inductionHypothesis consistent
  induction reachable with
  | new tracksPhases => exact nofun
  | nodeFor earlier made inductionHypothesis =>
      have older := (nodeFor_grows made).1.kinds_extend
      exact soundChain_of_nodeFor made earlier.coherent.arena
        (inductionHypothesis (consistent.mono fun _ isOld => older.subset isOld)) consistent
  | register id priority listener _ inductionHypothesis =>
      exact kept inductionHypothesis (frame_register ..) consistent
  | unregister id listener _ inductionHypothesis =>
      exact kept inductionHypothesis (frame_unregister ..) consistent
  | unregisterAll id listeners _ inductionHypothesis =>
      exact kept inductionHypothesis (frame_unregisterAll ..) consistent
  | flattened id _ inductionHypothesis =>
      exact kept inductionHypothesis (frame_refresh _ id) consistent
  | phaseListeners id priority _ inductionHypothesis =>
      exact kept inductionHypothesis (frame_refresh _ id) consistent

end Index
end EventRelay
