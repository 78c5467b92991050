import EventRelay.Hierarchy.Index

/-!
# Sound chains

A chain of kinds is sound if nothing concrete stands above an abstract parent. The node of a
kind with a sound chain is found or made on every index.
-/

namespace EventRelay

variable {β : Type}

/-- Every abstract parent in the chain of a kind has only abstract ancestors. -/
def Kind.SoundChain (kind : Kind) : Prop :=
  ∀ low ∈ kind.ancestors, ∀ parent, low.parent? = some parent → parent.isAbstract = true →
    ∀ above ∈ parent.ancestors, above.isAbstract = true

instance (kind : Kind) : Decidable kind.SoundChain :=
  inferInstanceAs (Decidable (∀ low ∈ kind.ancestors, ∀ parent, low.parent? = some parent →
    parent.isAbstract = true → ∀ above ∈ parent.ancestors, above.isAbstract = true))

theorem Kind.SoundChain.parent
    {own : Descriptor}
    {parent : Kind}
    (sound : (Kind.child own parent).SoundChain) :
    parent.SoundChain :=
  fun low isLow => sound low (List.mem_cons_of_mem _ isLow)

namespace Index

theorem brokenAncestor?_eq_none
    {own : Descriptor}
    {parent : Kind}
    (sound : (Kind.child own parent).SoundChain) :
    brokenAncestor? parent = none := by
  unfold brokenAncestor?
  split
  case isTrue isAbstract =>
    refine List.find?_eq_none.mpr fun above isAbove => ?_
    rw [sound _ (Kind.self_mem_ancestors _) parent rfl isAbstract above isAbove]
    decide
  case isFalse => rfl

theorem exists_nodeFor
    (index : Index β)
    {kind : Kind}
    (sound : kind.SoundChain) :
    ∃ later id, index.nodeFor kind = .ok (later, id) := by
  induction kind with
  | root own =>
      rw [nodeFor]
      split
      case h_1 id known => exact ⟨index, id, rfl⟩
      case h_2 => exact ⟨_, _, rfl⟩
  | child own parent inductionHypothesis =>
      rw [nodeFor]
      split
      case h_1 id known => exact ⟨index, id, rfl⟩
      case h_2 =>
        obtain ⟨grown, parentId, made⟩ := inductionHypothesis sound.parent
        rw [brokenAncestor?_eq_none sound, made]
        dsimp only
        split
        case h_1 id known => exact ⟨grown, id, rfl⟩
        case h_2 => exact ⟨_, _, rfl⟩

end Index
end EventRelay
