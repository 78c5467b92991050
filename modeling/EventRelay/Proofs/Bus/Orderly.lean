import EventRelay.Proofs.Bus.Storage

/-!
# Orderly buses

The table of registrations and the nodes of an orderly bus hold the same listeners, each of
them once: in the table under one key, and among the nodes in the bucket of its priority at
the node of its kind. Only concrete kinds that the checker accepts have listeners.

This says of the nodes themselves, for all of them together, what follows for a bus whose
table and buckets fit together.
-/

namespace EventRelay
namespace Bus

variable {β : Type}

/-- Every listener that is stored is stored where it belongs, and nowhere else. -/
structure Orderly (accepts : Kind → Prop) (bus : Bus β) : Prop where
  /-- An entry of a bucket is for the kind of the node and for the priority of the bucket. -/
  placed : ∀ {id node}, bus.index.node? id = some node → ∀ priority,
    ∀ entry ∈ (node.buckets.get priority).listeners,
      entry.kind.id = node.kind.id ∧ bus.index.lookup? entry.kind.id = some id ∧
        entry.priority = priority
  /-- Its kind is one that can be listened to. -/
  admitted : ∀ entry ∈ bus.heldListeners, entry.kind.isAbstract = false ∧ accepts entry.kind
  /-- Within a bucket identities ascend. -/
  ascending : ∀ node ∈ bus.index.nodes, ∀ priority,
    (node.buckets.get priority).listeners.Pairwise fun first second =>
      first.id.value < second.id.value
  /-- No identity occurs twice in the buckets of all nodes. -/
  once : (bus.heldListeners.map Listener.id).Nodup
  /-- Nor does any occur twice in the records of the table. -/
  disjoint : (bus.registeredListeners.map Listener.id).Nodup
  /-- The nodes hold what the table lists. -/
  same : bus.heldListeners.Perm bus.registeredListeners
  /-- Every key has listeners. -/
  records : ∀ record ∈ bus.registrations, record.2 ≠ []

/-- Where kinds are told apart by their identities, entries are exactly for the kind of their
node, and a node of an abstract kind has none. -/
structure KeptApart (bus : Bus β) : Prop where
  kind : ∀ node ∈ bus.index.nodes, ∀ entry ∈ node.ownListeners, entry.kind = node.kind
  abstract : ∀ node ∈ bus.index.nodes, node.kind.isAbstract = true → ∀ priority,
    (node.buckets.get priority).listeners = []

namespace Stored

variable {known accepts : Kind → Prop} {bus : Bus β} {issued : Nat}

/-- A bus whose table and buckets fit together is orderly. -/
theorem orderly
    (stored : Stored known accepts (bus, issued)) :
    bus.Orderly accepts where
  placed := by
    intro id node present priority entry isHeld
    obtain ⟨-, sameKind, samePriority⟩ := (stored.matched.mem_bucket present).mp isHeld
    refine ⟨sameKind, ?_, samePriority⟩
    rw [stored.coherent.arena.lookup?_iff, present, sameKind]
    rfl
  admitted := by
    intro entry isHeld
    have admitted := stored.admitted entry (stored.matched.mem_heldListeners.mp isHeld)
    exact ⟨admitted.concrete, admitted.accepted⟩
  ascending := by
    intro node isNode priority
    obtain ⟨id, present⟩ := List.mem_iff_getElem?.mp isNode
    rw [stored.matched.bucket_eq present]
    exact stored.ascending.filter _
  once := (stored.matched.heldListeners_perm.map Listener.id).nodup_iff.mpr stored.matched.ids
  disjoint := stored.matched.ids
  same := stored.matched.heldListeners_perm
  records := stored.records

theorem keptApart
    (stored : Stored known accepts (bus, issued))
    (consistent : Kind.Consistent known) :
    bus.KeptApart := by
  have kind : ∀ node ∈ bus.index.nodes, ∀ entry ∈ node.ownListeners, entry.kind = node.kind := by
    intro node isNode entry isHeld
    obtain ⟨id, present⟩ := List.mem_iff_getElem?.mp isNode
    obtain ⟨isRegistered, sameKind⟩ := (stored.matched.mem_ownListeners present).mp isHeld
    exact consistent.eq_of_id_eq (.self (stored.admitted entry isRegistered).known)
      (stored.kinds _ (Index.kind_mem_kinds present)) sameKind
  refine ⟨kind, fun node isNode isAbstract priority => ?_⟩
  refine List.eq_nil_iff_forall_not_mem.mpr fun entry isHeld => ?_
  have isOwn := Bus.mem_ownListeners.mpr ⟨priority, isHeld⟩
  have concrete := (stored.orderly.admitted entry (List.mem_flatMap_of_mem isNode isOwn)).1
  rw [kind node isNode entry isOwn, isAbstract] at concrete
  cases concrete

end Stored
end Bus
end EventRelay
