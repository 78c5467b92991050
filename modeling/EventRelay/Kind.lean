import EventRelay.Text.Record

/-!
# Event kinds

An event kind is a node of a single-inheritance hierarchy: a root kind, or a
child kind below a parent. Each kind declares a name, whether it is abstract,
whether its events can be canceled, and markers. Cancellability and markers are
inherited by every descendant.

A kind carries its whole ancestry, so each kind has finitely many ancestors.
Kinds are compared by their identifiers; names are only shown.
-/

namespace EventRelay

/-- A mark that a kind can carry and a bus can ask for. -/
structure Marker where
  name : String
  deriving DecidableEq

/-- What one event kind declares about itself. -/
structure Descriptor where
  /-- Identity of the kind. -/
  id : String
  /-- Name shown to people; several kinds may share one. -/
  name : String
  /-- Abstract kinds have no listeners and no events of their own. -/
  isAbstract : Bool
  /-- Events of the kind and of its descendants can be canceled. -/
  cancellable : Bool
  /-- Markers declared on the kind itself, in order. -/
  markers : List Marker
  deriving DecidableEq

/-- An event kind together with its ancestry. -/
inductive Kind
  | root (own : Descriptor)
  | child (own : Descriptor) (parent : Kind)
  deriving DecidableEq

namespace Kind

/-- The kind's own declaration. -/
def own : Kind → Descriptor
  | root own => own
  | child own _ => own

/-- The kind directly above. -/
def parent? : Kind → Option Kind
  | root _ => none
  | child _ parent => some parent

/-- Identity of the kind. -/
def id (kind : Kind) : String := kind.own.id

/-- Name of the kind. -/
def name (kind : Kind) : String := kind.own.name

/-- The kind admits neither listeners nor events of its own. -/
def isAbstract (kind : Kind) : Bool := kind.own.isAbstract

/-- Two values describe the same kind. -/
def sameAs (first second : Kind) : Bool := first.id == second.id

/-- The kind and everything above it, the most specific first. -/
def ancestors : Kind → List Kind
  | root own => [root own]
  | child own parent => child own parent :: parent.ancestors

/-- Number of proper ancestors. -/
def depth : Kind → Nat
  | root _ => 0
  | child _ parent => parent.depth + 1

/-- The kind or one of its ancestors declares cancellability. -/
def isCancellable (kind : Kind) : Bool :=
  kind.ancestors.any fun ancestor => ancestor.own.cancellable

/-- The kind or one of its ancestors declares a marker. -/
def hasMarker (kind : Kind) (marker : Marker) : Bool :=
  kind.ancestors.any fun ancestor => ancestor.own.markers.contains marker

/-- The first concrete kind among a kind and its ancestors. -/
def firstConcrete? (kind : Kind) : Option Kind :=
  kind.ancestors.find? fun ancestor => !ancestor.isAbstract

/-- The kind as a structured text. -/
def text (kind : Kind) : String :=
  Text.record "EventKind" [
    Text.field "name" (Text.Quoted.encode kind.name),
    Text.field "parent" (Text.optional (kind.parent?.map fun parent =>
      Text.Quoted.encode parent.name)),
    Text.field "is_abstract" (Text.flag kind.isAbstract),
    Text.field "cancellable" (Text.flag kind.own.cancellable)]

@[simp] theorem own_root (descriptor : Descriptor) : (root descriptor).own = descriptor := rfl

@[simp] theorem own_child (descriptor : Descriptor) (parent : Kind) :
    (child descriptor parent).own = descriptor := rfl

@[simp] theorem parent?_root (descriptor : Descriptor) : (root descriptor).parent? = none := rfl

@[simp] theorem parent?_child (descriptor : Descriptor) (parent : Kind) :
    (child descriptor parent).parent? = some parent := rfl

@[simp] theorem isCancellable_root (descriptor : Descriptor) :
    (root descriptor).isCancellable = descriptor.cancellable := by
  rw [isCancellable, ancestors, List.any_cons, List.any_nil, Bool.or_false, own_root]

@[simp] theorem isCancellable_child (descriptor : Descriptor) (parent : Kind) :
    (child descriptor parent).isCancellable =
      (descriptor.cancellable || parent.isCancellable) := by
  rw [isCancellable, ancestors, List.any_cons, own_child, isCancellable]

theorem self_mem_ancestors (kind : Kind) : kind ∈ kind.ancestors := by
  cases kind <;> simp [ancestors]

theorem mem_ancestors_trans {low middle high : Kind}
    (lower : middle ∈ low.ancestors) (upper : high ∈ middle.ancestors) :
    high ∈ low.ancestors := by
  induction low with
  | root own =>
      rw [ancestors, List.mem_singleton] at lower
      exact lower ▸ upper
  | child own parent inductionHypothesis =>
      rcases List.mem_cons.mp lower with same | higher
      · exact same ▸ upper
      · exact List.mem_cons_of_mem _ (inductionHypothesis higher)

theorem length_ancestors (kind : Kind) : kind.ancestors.length = kind.depth + 1 := by
  induction kind with
  | root own => rfl
  | child own parent inductionHypothesis => simp [ancestors, depth, inductionHypothesis]

theorem depth_le_of_mem_ancestors {low high : Kind} (above : high ∈ low.ancestors) :
    high.depth ≤ low.depth := by
  induction low with
  | root own => exact Nat.le_of_eq (congrArg depth (List.mem_singleton.mp above))
  | child own parent inductionHypothesis =>
      rcases List.mem_cons.mp above with rfl | higher
      · exact Nat.le_refl _
      · exact Nat.le_succ_of_le (inductionHypothesis higher)

end Kind
end EventRelay
