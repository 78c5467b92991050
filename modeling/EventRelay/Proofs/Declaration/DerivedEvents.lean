import EventRelay.Declaration.EventType
import EventRelay.Event

/-!
# Derived events

Types whose declarations were accepted form hierarchies: each type names the type of its
parent part, or none. From such a hierarchy one gets a kind, and the values of its type are
chains of parts.

A declaration is accepted only if what it says about cancellability agrees with whether it
has a field for the canceled state. So an event has a canceled state exactly if its kind is
cancellable, on whichever levels of the hierarchy that is declared.
-/

namespace EventRelay
namespace Declaration

/-- A type with an accepted declaration. -/
structure DerivedType where
  /-- Identity of the type. -/
  id : String
  /-- How the type is declared. -/
  declaration : EventType
  /-- What follows from the declaration. -/
  description : EventDescription
  accepted : declaration.describe = .ok description

/-- A type with the types of its parent parts. The parent is the type that the declaration
names, whichever that is. -/
inductive TypeChain
  | root (own : DerivedType) (parentless : own.description.parentType? = none)
  | child (own : DerivedType) (named : own.description.parentType?.isSome = true)
      (parent : TypeChain)

namespace TypeChain

/-- The most specific type. -/
def own : TypeChain → DerivedType
  | root own _ => own
  | child own _ _ => own

/-- How a type describes itself; markers are known by the paths that name them. -/
def descriptor (marker : Path → Marker) (type : DerivedType) : Descriptor where
  id := type.id
  name := type.description.name
  isAbstract := type.description.isAbstract
  cancellable := type.description.cancellable
  markers := type.description.markers.map marker

/-- The kind of the events of a type. -/
def kind (marker : Path → Marker) : TypeChain → Kind
  | root own _ => .root (descriptor marker own)
  | child own _ parent => .child (descriptor marker own) (parent.kind marker)

/-- The values of a type. A part embeds a part of the parent if the type has a field for it,
and it stores a canceled state if the type has a field for that. -/
inductive IsEvent (marker : Path → Marker) : TypeChain → Event → Prop
  | last {chain : TypeChain} (value : Int) {flag : Option Bool} :
      chain.own.description.parentField? = none →
      flag.isSome = chain.own.description.canceledField?.isSome →
      IsEvent marker chain (.last ⟨chain.kind marker, value, flag⟩)
  | extend {own : DerivedType} {named : own.description.parentType?.isSome = true}
      {parent : TypeChain} {base : Event} (value : Int) {flag : Option Bool} :
      own.description.parentField?.isSome = true →
      flag.isSome = own.description.canceledField?.isSome →
      IsEvent marker parent base →
      IsEvent marker (child own named parent)
        (.extend ⟨(child own named parent).kind marker, value, flag⟩ base)

end TypeChain

/-- What follows from an accepted declaration: the type is cancellable exactly if it has a
field for the canceled state, and it names a parent exactly if it has a field for one. -/
theorem EventType.describe_eq_ok
    {declaration : EventType}
    {description : EventDescription}
    (accepted : declaration.describe = .ok description) :
    description.cancellable = description.canceledField?.isSome ∧
      description.parentField?.isSome = description.parentType?.isSome := by
  unfold EventType.describe at accepted
  split at accepted
  case isTrue => cases accepted
  case isFalse =>
    cases typed : declaration.typeOptions with
    | error error =>
        rw [typed] at accepted
        cases accepted
    | ok options =>
        cases roled : declaration.fieldRoles with
        | error error =>
            rw [typed, roled] at accepted
            cases accepted
        | ok roles =>
            rw [typed, roled] at accepted
            change (if (options.cancellable && roles.canceled?.isNone) = true then _ else _) = _
              at accepted
            split at accepted
            case isTrue => cases accepted
            case isFalse agrees =>
              cases accepted
              refine ⟨?_, by rw [Option.isSome_map, Option.isSome_map]⟩
              change (options.cancellable || roles.canceled?.isSome) = roles.canceled?.isSome
              cases stored : roles.canceled?.isSome with
              | true => exact Bool.or_true _
              | false =>
                  rw [Option.isSome_eq_false_iff] at stored
                  simpa [stored] using agrees

namespace TypeChain

variable {marker : Path → Marker}

theorem descriptor_cancellable (type : DerivedType) :
    (descriptor marker type).cancellable = type.description.canceledField?.isSome :=
  (EventType.describe_eq_ok type.accepted).1

theorem IsEvent.kind_eq
    {chain : TypeChain}
    {event : Event}
    (isEvent : IsEvent marker chain event) :
    event.kind = chain.kind marker := by
  cases isEvent <;> rfl

/-- An event has a canceled state exactly if its kind is cancellable. -/
theorem IsEvent.isSome_flag?
    {chain : TypeChain}
    {event : Event}
    (isEvent : IsEvent marker chain event) :
    event.flag?.isSome = (chain.kind marker).isCancellable := by
  induction isEvent with
  | @last chain value flag parentless stores =>
      cases chain with
      | root own isRoot =>
          rw [kind, Kind.isCancellable_root, descriptor_cancellable]
          exact stores
      | child own named parent =>
          -- A type that names a parent has a field for its part.
          have noField : own.description.parentField?.isSome = false := by
            rw [show own.description.parentField? = none from parentless]
            rfl
          rw [(EventType.describe_eq_ok own.accepted).2, named] at noField
          cases noField
  | @extend own named parent base value flag embeds stores isBase inductionHypothesis =>
      rw [kind, Kind.isCancellable_child, descriptor_cancellable, ← inductionHypothesis, ← stores,
        Event.flag?]
      cases base.flag? with
      | none => exact (Bool.or_false _).symm
      | some state => exact (Bool.or_true _).symm

/-- An event whose kind is not cancellable is never canceled. -/
theorem IsEvent.isCanceled_eq_false
    {chain : TypeChain}
    {event : Event}
    (isEvent : IsEvent marker chain event)
    (steady : (chain.kind marker).isCancellable = false) :
    event.isCanceled = false := by
  rw [← isEvent.isSome_flag?, Option.isSome_eq_false_iff, Option.isNone_iff_eq_none] at steady
  rw [Event.isCanceled, steady]
  rfl

/-! ### Late alarms -/

/-- Markers with the names that are written for them. -/
def named (path : Path) : Marker := ⟨path.text⟩

/-- A type without fields. -/
def alarms : TypeChain :=
  .root
    { id := "Alarm"
      declaration := ⟨"Alarm", 0, [], .structure []⟩
      description := ⟨"Alarm", none, false, false, [], none, none⟩
      accepted := rfl }
    rfl

/-- A type that embeds it and adds nothing. -/
def lateAlarms : TypeChain :=
  .child
    { id := "LateAlarm"
      declaration := ⟨"LateAlarm", 0, [], .structure
        [⟨some "base", .path [.word "Alarm"] "Alarm",
          [⟨[.word "event"], .list .parenthesis [.word "parent"]⟩]⟩]⟩
      description := ⟨"LateAlarm", some (.path [.word "Alarm"] "Alarm"), false, false, [],
        some "base", none⟩
      accepted := rfl }
    rfl alarms

/-- A value of that type. -/
def lateAlarm : Event :=
  .extend ⟨lateAlarms.kind named, 0, none⟩ (.last ⟨alarms.kind named, 0, none⟩)

theorem isEvent_lateAlarm : IsEvent named lateAlarms lateAlarm :=
  .extend 0 rfl rfl (.last 0 rfl rfl)

end TypeChain
end Declaration
end EventRelay
