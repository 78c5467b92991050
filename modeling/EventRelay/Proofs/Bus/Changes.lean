import EventRelay.Bus
import EventRelay.Proofs.Hierarchy.Reachable
import Mathlib.Logic.Relation

/-!
# Changes of a bus

Whatever is done with a bus comes down to a few changes: listeners are made ready and
perhaps committed, a registration is removed, an array is read, the bus is started, and
dispatches are counted. A change is described together with the number of listener
identities issued so far, for identities order the listeners.

While listeners are made ready, nodes are made and identities issued, also by others, but
nothing is registered.
-/

namespace EventRelay
namespace Bus

variable {β : Type}

/-- Listeners are made ready one by one. The kinds asked for are known, and those of the
listeners are concrete and accepted as well. -/
inductive Prepares (known accepts : Kind → Prop) (before : Bus β × Nat) :
    Pending β → Bus β × Nat → Prop
  /-- Nothing is ready yet. -/
  | start : Prepares known accepts before [] before
  /-- Identities are issued for other listeners. -/
  | issue {pending : Pending β} {bus : Bus β} {issued more : Nat} :
      Prepares known accepts before pending (bus, issued) → issued ≤ more →
      Prepares known accepts before pending (bus, more)
  /-- The node of a kind is asked for. -/
  | grow {pending : Pending β} {bus grown : Bus β} {issued id : Nat} {kind : Kind} :
      Prepares known accepts before pending (bus, issued) → known kind →
      bus.nodeFor kind = .ok (grown, id) →
      Prepares known accepts before pending (grown, issued)
  /-- A listener for a kind that has its node is made. -/
  | listener {pending : Pending β} {bus : Bus β} {issued node : Nat} {kind : Kind}
      (priority : Priority) (receivesCanceled : Bool) (description : String) (body : β) :
      Prepares known accepts before pending (bus, issued) → known kind →
      kind.isAbstract = false → accepts kind → bus.index.lookup? kind.id = some node →
      Prepares known accepts before
        (pending ++
          [(node, .create ⟨issued + 1⟩ kind priority receivesCanceled description body)])
        (bus, issued + 1)

/-- The single changes of a bus. -/
inductive Change (known accepts : Kind → Prop) : Bus β × Nat → Bus β × Nat → Prop
  /-- Listeners are made ready and then given up; or only a node is asked for. -/
  | prepare {before after : Bus β × Nat} {pending : Pending β} :
      Prepares known accepts before pending after → Change known accepts before after
  /-- Listeners are made ready and registered. -/
  | commit {before : Bus β × Nat} {bus : Bus β} {issued : Nat} {pending : Pending β}
      (key : Key) :
      Prepares known accepts before pending (bus, issued) → pending ≠ [] →
      Change known accepts before (bus.commit key pending, issued)
  | unregister (bus : Bus β) (issued : Nat) (key : Key) :
      Change known accepts (bus, issued) (bus.unregister key, issued)
  /-- The array of a node is read. -/
  | refresh (bus : Bus β) (issued id : Nat) :
      Change known accepts (bus, issued) (bus.refresh id, issued)
  | start (bus : Bus β) (issued : Nat) : Change known accepts (bus, issued) (bus.start, issued)
  | recordPost (bus : Bus β) (issued ran : Nat) :
      Change known accepts (bus, issued) (bus.recordPost ran, issued)
  /-- The failure of a dispatch is counted. -/
  | recordFailure (bus : Bus β) (issued : Nat) :
      Change known accepts (bus, issued) (bus.recordFailure, issued)

/-- Several changes one after the other. -/
abbrev Changes (known accepts : Kind → Prop) : Bus β × Nat → Bus β × Nat → Prop :=
  Relation.ReflTransGen (Change known accepts)

theorem nodeFor_eq_ok
    {bus grown : Bus β}
    {kind : Kind}
    {id : Nat}
    (made : bus.nodeFor kind = .ok (grown, id)) :
    ∃ index, bus.index.nodeFor kind = .ok (index, id) ∧ grown = bus.withIndex index := by
  unfold nodeFor at made
  split at made
  case h_1 index found madeIndex =>
    cases made
    exact ⟨index, madeIndex, rfl⟩
  case h_2 => cases made

/-- What holds of a listener that has been made ready between two numbers of issued
identities, with the number of its node. -/
structure ReadyBetween (known accepts : Kind → Prop) (index : Index β) (first last : Nat)
    (entry : Nat × Listener β) : Prop where
  /-- Its identity was issued in between. -/
  first_lt : first < entry.2.id.value
  /-- No greater identity has been issued. -/
  le_last : entry.2.id.value ≤ last
  known : known entry.2.kind
  concrete : entry.2.kind.isAbstract = false
  accepted : accepts entry.2.kind
  /-- It is in the checking form unless it wants canceled events. -/
  form : entry.2.checksCancellation = !entry.2.receivesCanceled
  /-- The node is that of its kind. -/
  node : index.lookup? entry.2.kind.id = some entry.1

namespace Prepares

variable {known accepts : Kind → Prop} {before after : Bus β × Nat} {pending : Pending β}

theorem issued_le (prepares : Prepares known accepts before pending after) :
    before.2 ≤ after.2 := by
  induction prepares with
  | start => exact Nat.le_refl _
  | issue _ grows inductionHypothesis => omega
  | grow _ _ _ inductionHypothesis => exact inductionHypothesis
  | listener _ _ _ _ _ _ _ _ _ inductionHypothesis => omega

/-- Only nodes are made. -/
theorem grows (prepares : Prepares known accepts before pending after) :
    Index.GrowsTo (Kind.Within known) before.1.index after.1.index ∧
      after.1 = before.1.withIndex after.1.index := by
  induction prepares with
  | start => exact ⟨.refl, rfl⟩
  | issue _ _ inductionHypothesis => exact inductionHypothesis
  | @grow pending bus grown issued id kind _ isKnown made inductionHypothesis =>
      obtain ⟨index, madeIndex, rfl⟩ := nodeFor_eq_ok made
      have sameBus : bus = before.1.withIndex bus.index := inductionHypothesis.2
      refine ⟨inductionHypothesis.1.trans ((Index.nodeFor_grows madeIndex).1.mono fun kind above =>
        .of_mem_ancestors isKnown above), ?_⟩
      show bus.withIndex index = before.1.withIndex index
      rw [sameBus]
      rfl
  | listener _ _ _ _ _ _ _ _ _ inductionHypothesis => exact inductionHypothesis

/-- The listeners that are ready have fresh identities and the nodes of their kinds. -/
theorem ready (prepares : Prepares known accepts before pending after) :
    ∀ entry ∈ pending,
      ReadyBetween known accepts after.1.index before.2 after.2 entry := by
  induction prepares with
  | start =>
      intro entry isReady
      cases isReady
  | issue _ more inductionHypothesis =>
      intro entry isReady
      have soFar := inductionHypothesis entry isReady
      exact { soFar with le_last := Nat.le_trans soFar.le_last more }
  | grow _ isKnown made inductionHypothesis =>
      obtain ⟨index, madeIndex, rfl⟩ := nodeFor_eq_ok made
      intro entry isReady
      have soFar := inductionHypothesis entry isReady
      exact { soFar with node := (Index.nodeFor_grows madeIndex).1.lookup? soFar.node }
  | listener _ _ _ _ earlier isKnown concrete accepted hasNode inductionHypothesis =>
      intro entry isReady
      rcases List.mem_append.mp isReady with old | new
      · have soFar := inductionHypothesis entry old
        exact { soFar with le_last := Nat.le_succ_of_le soFar.le_last }
      · rw [List.mem_singleton.mp new]
        exact ⟨Nat.lt_succ_of_le earlier.issued_le, Nat.le_refl _, isKnown, concrete, accepted,
          rfl, hasNode⟩

/-- Identities are issued in the order in which the listeners are made. -/
theorem ascending (prepares : Prepares known accepts before pending after) :
    pending.Pairwise fun first second => first.2.id.value < second.2.id.value := by
  induction prepares with
  | start => exact .nil
  | issue _ _ inductionHypothesis => exact inductionHypothesis
  | grow _ _ _ inductionHypothesis => exact inductionHypothesis
  | listener _ _ _ _ earlier _ _ _ _ inductionHypothesis =>
      refine List.pairwise_append.mpr ⟨inductionHypothesis, List.pairwise_singleton _ _, ?_⟩
      intro entry old last isLast
      rw [List.mem_singleton.mp isLast]
      exact Nat.lt_succ_of_le (earlier.ready entry old).le_last

theorem index_reachable
    (prepares : Prepares known accepts before pending after)
    (reachable : before.1.index.Reachable) :
    after.1.index.Reachable := by
  induction prepares with
  | start => exact reachable
  | issue _ _ inductionHypothesis => exact inductionHypothesis
  | grow _ _ made inductionHypothesis =>
      obtain ⟨index, madeIndex, rfl⟩ := nodeFor_eq_ok made
      exact .nodeFor inductionHypothesis madeIndex
  | listener _ _ _ _ _ _ _ _ _ inductionHypothesis => exact inductionHypothesis

end Prepares

/-! ## The index of a changed bus -/

section Reachable

variable {index : Index β}

theorem reachable_insertAll
    (reachable : index.Reachable)
    (pending : Pending β) :
    (insertAll index pending).Reachable := by
  induction pending generalizing index with
  | nil => exact reachable
  | cons entry rest inductionHypothesis => exact inductionHypothesis (.register _ _ _ reachable)

theorem reachable_purge
    (reachable : index.Reachable)
    (listeners : List ListenerId) :
    (index.purge listeners).Reachable := by
  unfold Index.purge
  generalize List.range index.size = ids
  induction ids generalizing index with
  | nil => exact reachable
  | cons first rest inductionHypothesis => exact inductionHypothesis (.unregisterAll _ _ reachable)

theorem reachable_commit
    {bus : Bus β}
    (reachable : bus.index.Reachable)
    (key : Key)
    (pending : Pending β) :
    (bus.commit key pending).index.Reachable := by
  unfold Bus.commit
  split
  case isTrue => exact reachable
  case isFalse => exact reachable_insertAll reachable pending

theorem reachable_unregister
    {bus : Bus β}
    (reachable : bus.index.Reachable)
    (key : Key) :
    (bus.unregister key).index.Reachable := by
  unfold Bus.unregister
  split
  case h_1 => exact reachable
  case h_2 => exact reachable_purge reachable _

/-- Changes of a bus are done to its index by operations on the index. -/
theorem Changes.index_reachable
    {known accepts : Kind → Prop}
    {before after : Bus β × Nat}
    (changes : Changes known accepts before after)
    (reachable : before.1.index.Reachable) :
    after.1.index.Reachable := by
  induction changes with
  | refl => exact reachable
  | tail _ change inductionHypothesis =>
      cases change with
      | prepare prepares => exact prepares.index_reachable inductionHypothesis
      | commit key prepares _ =>
          exact reachable_commit (prepares.index_reachable inductionHypothesis) key _
      | unregister bus issued key => exact reachable_unregister inductionHypothesis key
      | refresh bus issued id => exact .flattened id inductionHypothesis
      | start bus issued => exact inductionHypothesis
      | recordPost bus issued ran => exact inductionHypothesis
      | recordFailure bus issued => exact inductionHypothesis

end Reachable
end Bus
end EventRelay
