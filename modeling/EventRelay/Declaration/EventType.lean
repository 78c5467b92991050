import EventRelay.Declaration.Options
import EventRelay.Declaration.Type

/-!
# Declared event types

An event type is declared as a structure, an enumeration or a union. Attributes named
`event` on the type say whether it is abstract or cancellable and which markers it has;
those on a field say that the field holds the parent event or the canceled state.

A declaration is checked in stages: generic parameters, the options of the type, the
shape, the options of the fields, and last that a cancellable type has a field for the
canceled state. A type with such a field is cancellable.
-/

namespace EventRelay
namespace Declaration

/-- A field of a structure. -/
structure Field where
  /-- Its name; a field without a name is known by its position. -/
  name? : Option String
  type : DeclaredType
  attributes : List Attribute

/-- What kind of type is declared. -/
inductive TypeShape
  | structure (fields : List Field)
  | enumeration
  | union

/-- The declaration of an event type. -/
structure EventType where
  name : String
  /-- Number of generic parameters. -/
  genericCount : Nat
  attributes : List Attribute
  shape : TypeShape

/-- What the options of a type say. -/
structure TypeOptions where
  isAbstract : Bool
  /-- The type is declared cancellable. -/
  cancellable : Bool
  markers : List Path

/-- What the options of the fields say. -/
structure FieldRoles where
  /-- The field of the parent event, and its type. -/
  parent? : Option (String × DeclaredType)
  /-- The field of the canceled state. -/
  canceled? : Option String

/-- What follows from a declaration: how the event describes itself and where it looks for
its parent part and its canceled state. -/
structure EventDescription where
  name : String
  /-- Type of the parent event. -/
  parentType? : Option DeclaredType
  isAbstract : Bool
  /-- The kind declares its events cancellable. -/
  cancellable : Bool
  /-- Markers of the kind. -/
  markers : List Path
  /-- The field that is asked for the views and the canceled state of the parent. -/
  parentField? : Option String
  /-- The field of the event's own canceled state. -/
  canceledField? : Option String

namespace EventType

/-- The name of the attributes that matter. -/
def attributeName : String := "event"

/-- The options of a type. -/
def typeMeaning : Meaning TypeOptions := fun path stretch soFar =>
  if path.isWord "abstract" then .ok ({ soFar with isAbstract := true }, stretch)
  else if path.isWord "cancellable" || path.isWord "cancelable" then
    .ok ({ soFar with cancellable := true }, stretch)
  else if path.isWord "markers" then do
    let (paths, left) ← readPaths stretch
    return ({ soFar with markers := soFar.markers ++ paths }, left)
  else .error .unknownEventOption

/-- The options of a field. -/
def fieldMeaning (name : String) (type : DeclaredType) : Meaning FieldRoles :=
  fun path stretch soFar =>
    if path.isWord "parent" then
      if soFar.parent?.isSome then .error .secondParent
      else .ok ({ soFar with parent? := some (name, type) }, stretch)
    else if path.isWord "canceled" then
      if soFar.canceled?.isSome then .error .secondCanceled
      else .ok ({ soFar with canceled? := some name }, stretch)
    else .error .unknownFieldOption

/-- Reads the options of a type. -/
def typeOptions (declaration : EventType) : Except DeclarationError TypeOptions :=
  readAttributes typeMeaning attributeName declaration.attributes ⟨false, false, []⟩

/-- Reads the options of fields in order, counted from a position on. -/
def rolesFrom : Nat → List Field → FieldRoles → Except DeclarationError FieldRoles
  | _, [], soFar => .ok soFar
  | position, field :: rest, soFar => do
      let name := field.name?.getD (toString position)
      let changed ← readAttributes (fieldMeaning name field.type) attributeName
        field.attributes soFar
      rolesFrom (position + 1) rest changed

/-- Reads the options of the fields, if the type can have any. -/
def fieldRoles (declaration : EventType) : Except DeclarationError FieldRoles :=
  match declaration.shape with
  | .structure fields => rolesFrom 0 fields ⟨none, none⟩
  | .enumeration => .ok ⟨none, none⟩
  | .union => .error .unionEvent

/-- What follows from a declaration, or the first thing that is wrong with it. -/
def describe (declaration : EventType) : Except DeclarationError EventDescription := do
  if declaration.genericCount ≠ 0 then Except.error .genericEvent
  let options ← declaration.typeOptions
  let roles ← declaration.fieldRoles
  if options.cancellable && roles.canceled?.isNone then Except.error .noCanceledField
  return {
    name := declaration.name
    parentType? := roles.parent?.map Prod.snd
    isAbstract := options.isAbstract
    cancellable := options.cancellable || roles.canceled?.isSome
    markers := options.markers
    parentField? := roles.parent?.map Prod.fst
    canceledField? := roles.canceled? }

end EventType

namespace EventDescription

/-- The event has a canceled state of its own or asks its parent part for one. -/
def looksForFlag (description : EventDescription) : Bool :=
  description.parentField?.isSome || description.canceledField?.isSome

end EventDescription
end Declaration
end EventRelay
