import EventRelay.Action
import EventRelay.Proofs.Hierarchy.Evolution

/-!
# What asking for a node leads to

Asking for the node of a kind looks at one parent at a time and stops at the first kind that
already has a node. Nevertheless the answer does not depend on the nodes that there are: it
succeeds exactly if the chain of the kind is sound, and else it names the first offending kind
from the kind upwards. Success makes nodes for exactly those kinds of the chain that have none,
and a refusal makes none.

That no two kinds share an identity is needed for this, since nodes are found by identities.
-/

namespace EventRelay

variable {β : Type}

namespace Kind

/-- The kind's parent is abstract although a concrete kind stands above it. -/
def offends (kind : Kind) : Bool :=
  match kind.parent? with
  | some parent => parent.isAbstract && parent.ancestors.any fun above => !above.isAbstract
  | none => false

/-- The first kind that offends, from a kind upwards. -/
def firstOffending? (kind : Kind) : Option Kind := kind.ancestors.find? offends

theorem offends_eq_false_iff
    {kind : Kind} :
    kind.offends = false ↔ ∀ parent, kind.parent? = some parent → parent.isAbstract = true →
      ∀ above ∈ parent.ancestors, above.isAbstract = true := by
  unfold offends
  cases kind.parent? with
  | none => simp
  | some parent => simp [Bool.and_eq_false_imp]

/-- A chain is sound if nothing in it offends. -/
theorem soundChain_iff
    {kind : Kind} :
    kind.SoundChain ↔ kind.firstOffending? = none := by
  rw [firstOffending?, List.find?_eq_none]
  exact forall₂_congr fun low _ => by rw [Bool.not_eq_true, offends_eq_false_iff]

/-- A kind offends exactly if its parent has a broken ancestor. -/
theorem offends_child
    (own : Descriptor)
    (parent : Kind) :
    (child own parent).offends = (Index.brokenAncestor? parent).isSome := by
  unfold offends Index.brokenAncestor? firstConcrete?
  cases isAbstract : parent.isAbstract with
  | true => simp [isAbstract, List.isSome_find?]
  | false => simp [isAbstract]

theorem firstConcrete?_of_brokenAncestor?
    {parent above : Kind}
    (broken : Index.brokenAncestor? parent = some above) :
    parent.firstConcrete? = some above := by
  unfold Index.brokenAncestor? at broken
  split at broken
  case isTrue => exact broken
  case isFalse => cases broken

/-- Going up from a kind does not lead to other identities. -/
theorem Consistent.parent
    {kinds : Kind → Prop}
    {own : Descriptor}
    {parent : Kind}
    (consistent : Consistent fun other => kinds other ∨ other = child own parent) :
    Consistent fun other => kinds other ∨ other = parent := by
  refine consistent.within.mono fun other isOther => ?_
  rcases isOther with old | rfl
  · exact .self (.inl old)
  · exact .of_mem_ancestors (.inr rfl) (List.mem_cons_of_mem _ (self_mem_ancestors other))

end Kind

namespace Index

/-! ## Refusals -/

/-- Asks for the node of a kind step by step: what has been done before a refusal stays
done. -/
def ask : Kind → Action (Index β) BusError Nat
  | .root own => do
      match ← Action.look fun index => index.lookup? own.id with
      | some id => return id
      | none => Action.step fun index => (index.insert (.root own) none).swap
  | .child own parent => do
      match ← Action.look fun index => index.lookup? own.id with
      | some id => return id
      | none =>
          match brokenAncestor? parent with
          | some ancestor =>
              Action.raise (.brokenAbstractChain own.name parent.name ancestor.name)
          | none =>
              let parentId ← ask parent
              match ← Action.look fun index => index.lookup? own.id with
              | some id => return id
              | none =>
                  Action.step fun index =>
                    (index.insert (.child own parent) (some parentId)).swap

/-- All refusals come before the first node is made. -/
theorem ask_eq
    (index : Index β)
    (kind : Kind) :
    ask kind index =
      match index.nodeFor kind with
      | .ok (later, id) => (.ok id, later)
      | .error error => (.error (.raised error), index) := by
  induction kind with
  | root own =>
      rw [ask, nodeFor, Action.bind_of_ok (Action.look_apply _ index)]
      cases index.lookup? own.id <;> rfl
  | child own parent inductionHypothesis =>
      rw [ask, nodeFor, Action.bind_of_ok (Action.look_apply _ index)]
      cases index.lookup? own.id with
      | some id => rfl
      | none =>
          cases brokenAncestor? parent with
          | some ancestor => rfl
          | none =>
              dsimp only
              cases made : index.nodeFor parent with
              | error error =>
                  rw [made] at inductionHypothesis
                  rw [Action.bind_of_error inductionHypothesis]
              | ok result =>
                  obtain ⟨grown, parentId⟩ := result
                  rw [made] at inductionHypothesis
                  rw [Action.bind_of_ok inductionHypothesis,
                    Action.bind_of_ok (Action.look_apply _ grown)]
                  dsimp only
                  cases grown.lookup? own.id <;> rfl

section Outcome

variable {index later : Index β} {kind low : Kind} {id : Nat}

/-- A kind whose chain is not sound has no node. -/
theorem lookup?_of_firstOffending?
    (arena : index.Arena)
    (sound : ∀ other ∈ index.kinds, other.SoundChain)
    (consistent : Kind.Consistent fun other => other ∈ index.kinds ∨ other = kind)
    (first : kind.firstOffending? = some low) :
    index.lookup? kind.id = none := by
  refine Option.eq_none_iff_forall_ne_some.mpr fun id found => ?_
  obtain ⟨node, present, rfl⟩ := arena.exists_kind_of_lookup? consistent
    (fun _ isKind => .self (.inl isKind)) (.self (.inr rfl)) found
  have nothing := Kind.soundChain_iff.mp (sound node.kind (kind_mem_kinds present))
  rw [first] at nothing
  cases nothing

/-- Where a chain is not sound, the first kind that offends is found: the search does not end
before, for the kinds below it have no nodes either. -/
theorem nodeFor_of_firstOffending?
    (arena : index.Arena)
    (sound : ∀ other ∈ index.kinds, other.SoundChain)
    (consistent : Kind.Consistent fun other => other ∈ index.kinds ∨ other = kind)
    (first : kind.firstOffending? = some low) :
    ∃ parent above, low.parent? = some parent ∧ parent.firstConcrete? = some above ∧
      index.nodeFor kind =
        .error (.brokenAbstractChain low.name parent.name above.name) := by
  have absent := lookup?_of_firstOffending? arena sound consistent first
  induction kind with
  | root own => simp [Kind.firstOffending?, Kind.ancestors, Kind.offends] at first
  | child own parent inductionHypothesis =>
      rw [Kind.firstOffending?, Kind.ancestors, List.find?_cons, Kind.offends_child] at first
      change index.lookup? own.id = none at absent
      rw [nodeFor]
      simp only [absent]
      cases broken : brokenAncestor? parent with
      | some above =>
          rw [broken] at first
          cases first
          exact ⟨parent, above, rfl, Kind.firstConcrete?_of_brokenAncestor? broken, rfl⟩
      | none =>
          rw [broken] at first
          have higher := consistent.parent
          obtain ⟨above, concrete, isAbove, isFirst, refused⟩ := inductionHypothesis higher first
            (lookup?_of_firstOffending? arena sound higher first)
          exact ⟨above, concrete, isAbove, isFirst, by rw [refused]⟩

/-! ## Nodes that are made -/

/-- Above a kind that has a node, every kind has one. -/
theorem lookup?_isSome_of_mem_ancestors
    (arena : index.Arena)
    (consistent : Kind.Consistent fun other => other ∈ index.kinds ∨ other = kind)
    (known : index.lookup? kind.id = some id)
    {above : Kind}
    (isAbove : above ∈ kind.ancestors) :
    (index.lookup? above.id).isSome = true := by
  obtain ⟨node, present, rfl⟩ := arena.exists_kind_of_lookup? consistent
    (fun _ isKind => .self (.inl isKind)) (.self (.inr rfl)) known
  rw [← arena.lineageKinds_eq (consistent.mono fun _ => .inl) present, lineageKinds,
    List.mem_filterMap] at isAbove
  obtain ⟨ancestor, -, isKind⟩ := isAbove
  obtain ⟨higher, isPresent, rfl⟩ := Option.map_eq_some_iff.mp isKind
  obtain ⟨found, isFound⟩ := arena.exists_lookup? (kind_mem_kinds isPresent)
  rw [isFound]
  rfl

/-- The kinds of a chain that have no nodes, from the kind upwards. -/
def missing (index : Index β) (kind : Kind) : List Kind :=
  kind.ancestors.filter fun above => (index.lookup? above.id).isNone

theorem missing_eq_nil
    (arena : index.Arena)
    (consistent : Kind.Consistent fun other => other ∈ index.kinds ∨ other = kind)
    (known : index.lookup? kind.id = some id) :
    index.missing kind = [] := by
  refine List.filter_eq_nil_iff.mpr fun above isAbove => ?_
  rw [Option.isNone_eq_false_iff.mpr
    (lookup?_isSome_of_mem_ancestors arena consistent known isAbove)]
  exact Bool.false_ne_true

theorem missing_child
    {own : Descriptor}
    {parent : Kind}
    (absent : index.lookup? own.id = none) :
    index.missing (.child own parent) = .child own parent :: index.missing parent := by
  rw [missing, Kind.ancestors, List.filter_cons_of_pos]
  · rfl
  · change (index.lookup? own.id).isNone = true
    rw [absent]
    rfl

/-- A kind differs from those above it, so making their nodes makes none for it. -/
theorem lookup?_nodeFor_parent
    {own : Descriptor}
    {parent : Kind}
    (arena : index.Arena)
    (consistent : Kind.Consistent fun other => other ∈ index.kinds ∨ other = .child own parent)
    (absent : index.lookup? own.id = none)
    (made : index.nodeFor parent = .ok (later, id)) :
    later.lookup? own.id = none := by
  obtain ⟨grows, -⟩ := nodeFor_grows made
  refine Option.eq_none_iff_forall_ne_some.mpr fun found known => ?_
  obtain ⟨node, present, sameId⟩ := (arena.of_growsTo grows).exists_of_lookup? known
  rcases grows.mem_kinds (kind_mem_kinds present) with old | above
  · obtain ⟨other, wasKnown⟩ := arena.exists_lookup? old
    rw [sameId, absent] at wasKnown
    cases wasKnown
  · have same : node.kind = .child own parent :=
      consistent.eq_of_id_eq (.of_mem_ancestors (.inr rfl) (List.mem_cons_of_mem _ above))
        (.self (.inr rfl)) sameId
    have lower := Kind.depth_le_of_mem_ancestors above
    rw [same, Kind.depth] at lower
    omega

/-- Nodes are made for the kinds of the chain that have none, the highest first. -/
theorem kinds_nodeFor
    (arena : index.Arena)
    (consistent : Kind.Consistent fun other => other ∈ index.kinds ∨ other = kind)
    (made : index.nodeFor kind = .ok (later, id)) :
    later.kinds = index.kinds ++ (index.missing kind).reverse := by
  induction kind generalizing later id with
  | root own =>
      rw [nodeFor] at made
      split at made
      case h_1 found known =>
        cases made
        rw [missing_eq_nil arena consistent known, List.reverse_nil, List.append_nil]
      case h_2 absent =>
        obtain ⟨rfl, rfl⟩ := Prod.ext_iff.mp (Except.ok.inj made)
        rw [kinds_insert]
        simp [missing, Kind.ancestors, Kind.id, absent]
  | child own parent inductionHypothesis =>
      rw [nodeFor] at made
      split at made
      case h_1 found known =>
        cases made
        rw [missing_eq_nil arena consistent known, List.reverse_nil, List.append_nil]
      case h_2 absent =>
        split at made
        case h_1 => cases made
        case h_2 =>
          split at made
          case h_1 => cases made
          case h_2 grown parentId parentMade =>
            rw [lookup?_nodeFor_parent arena consistent absent parentMade] at made
            obtain ⟨rfl, rfl⟩ := Prod.ext_iff.mp (Except.ok.inj made)
            rw [kinds_insert, inductionHypothesis consistent.parent parentMade,
              missing_child absent, List.reverse_cons, List.append_assoc]

/-! ## The outcome -/

/-- Asking a reachable index for the node of a kind succeeds exactly if the chain of the kind
is sound, whichever nodes there are. If it is not sound, every later request is refused in the
same way and leaves the index as it was: the message names the first kind that offends, from
the kind upwards, with its parent and the first concrete kind above that. If it is sound,
nodes are made for exactly those kinds of the chain that have none, the highest first, behind
all nodes that there are, and whatever happens later, the kind keeps the node. -/
theorem Reachable.nodeFor_outcome
    (reachable : index.Reachable)
    (consistent : Kind.Consistent fun other => other ∈ index.kinds ∨ other = kind) :
    ((∃ later id, index.nodeFor kind = .ok (later, id)) ↔ kind.SoundChain) ∧
      (¬ kind.SoundChain → ∃ low parent above,
        kind.firstOffending? = some low ∧ low.parent? = some parent ∧
        parent.firstConcrete? = some above ∧
        ∀ later, index.Evolves later →
          Kind.Consistent (fun other => other ∈ later.kinds ∨ other = kind) →
          later.nodeFor kind =
              .error (.brokenAbstractChain low.name parent.name above.name) ∧
            ask kind later =
              (.error (.raised (.brokenAbstractChain low.name parent.name above.name)), later)) ∧
      ∀ later id, index.nodeFor kind = .ok (later, id) →
        ask kind index = (.ok id, later) ∧
        later.kinds = index.kinds ++ (index.missing kind).reverse ∧
        (∃ node, later.node? id = some node ∧ node.kind = kind) ∧
        ∀ last, later.Evolves last → last.nodeFor kind = .ok (last, id) := by
  have refused {later : Index β} (evolves : index.Evolves later)
      (stillConsistent : Kind.Consistent fun other => other ∈ later.kinds ∨ other = kind)
      {low : Kind} (first : kind.firstOffending? = some low) :=
    nodeFor_of_firstOffending? (reachable.evolves evolves).coherent.arena
      ((reachable.evolves evolves).soundChain (stillConsistent.mono fun _ => .inl))
      stillConsistent first
  refine ⟨⟨?_, index.exists_nodeFor⟩, ?_, ?_⟩
  · rintro ⟨later, id, made⟩
    refine Kind.soundChain_iff.mpr (Option.eq_none_iff_forall_ne_some.mpr fun low first => ?_)
    obtain ⟨_, _, -, -, isRefused⟩ := refused .refl consistent first
    rw [made] at isRefused
    cases isRefused
  · intro unsound
    obtain ⟨low, first⟩ := Option.ne_none_iff_exists'.mp (mt Kind.soundChain_iff.mpr unsound)
    obtain ⟨parent, above, isParent, isFirst, -⟩ := refused .refl consistent first
    refine ⟨low, parent, above, first, isParent, isFirst, fun later evolves still => ?_⟩
    obtain ⟨same, concrete, isSame, isSameFirst, isRefused⟩ := refused evolves still first
    rw [isParent] at isSame
    cases isSame
    rw [isFirst] at isSameFirst
    cases isSameFirst
    exact ⟨isRefused, by rw [ask_eq, isRefused]⟩
  · intro later id made
    have found := (nodeFor_grows made).2
    have grownKinds := kinds_nodeFor reachable.coherent.arena consistent made
    refine ⟨by rw [ask_eq, made], grownKinds, ?_, fun last evolves =>
      nodeFor_of_lookup? (evolves.lookup? found)⟩
    refine (Reachable.nodeFor reachable made).coherent.arena.exists_kind_of_lookup? consistent ?_
      (.self (.inr rfl)) found
    intro other isKind
    rcases (nodeFor_grows made).1.mem_kinds isKind with old | isAbove
    · exact .self (.inl old)
    · exact .of_mem_ancestors (.inr rfl) isAbove

end Outcome

/-! ### An echo below an abstract kind -/

open Reachable (alarm drill)

/-- A concrete kind. -/
def signal : Kind := .root ⟨"Signal", "Signal", false, false, []⟩

/-- An abstract kind below it. -/
def relay : Kind := .child ⟨"Relay", "Relay", true, false, []⟩ signal

/-- A kind that has an abstract parent below a concrete kind. -/
def echo : Kind := .child ⟨"Echo", "Echo", false, false, []⟩ relay

/-- Signals and relays have their nodes. -/
def relayed : Index Unit :=
  (((empty true).insert signal none).1.insert relay (some 0)).1

theorem reachable_relayed : relayed.Reachable := by
  have root : (empty true : Index Unit).nodeFor signal = .ok ((empty true).insert signal none) :=
    rfl
  exact .nodeFor (.nodeFor (.new true) root) (nodeFor_child (by decide +kernel) rfl rfl)

theorem consistent_relayed
    {kind : Kind}
    (isOne : kind = echo ∨ kind = drill) :
    Kind.Consistent fun other => other ∈ relayed.kinds ∨ other = kind := by
  have kinds : relayed.kinds = [signal, relay] := rfl
  rw [kinds]
  simp only [List.mem_cons, List.not_mem_nil, or_false]
  rcases isOne with rfl | rfl <;>
    rintro first second ((rfl | rfl) | rfl) ((rfl | rfl) | rfl) <;> decide

/-- The node of the abstract kind could be made, but below it none can; drills get theirs
together with alarms. -/
theorem Reachable.nodeFor_outcome_relayed :
    relayed.Reachable ∧ ¬ echo.SoundChain ∧
      ask echo relayed =
        (.error (.raised (.brokenAbstractChain "Echo" "Relay" "Signal")), relayed) ∧
      ∃ later id, relayed.nodeFor drill = .ok (later, id) ∧
        later.kinds = [signal, relay, alarm, drill] := by
  have unsound : ¬ echo.SoundChain := by decide
  have soundDrill : drill.SoundChain := by decide
  obtain ⟨low, parent, above, first, isParent, isFirst, refused⟩ :=
    (nodeFor_outcome reachable_relayed (consistent_relayed (.inl rfl))).2.1 unsound
  have isEcho : echo.firstOffending? = some echo := by decide
  rw [isEcho] at first
  cases first
  cases isParent
  cases isFirst
  obtain ⟨succeeds, -, makes⟩ :=
    nodeFor_outcome reachable_relayed (consistent_relayed (.inr rfl))
  obtain ⟨later, id, made⟩ := succeeds.mpr soundDrill
  exact ⟨reachable_relayed, unsound, (refused relayed .refl (consistent_relayed (.inl rfl))).2,
    later, id, made, (makes later id made).2.1⟩

end Index
end EventRelay
