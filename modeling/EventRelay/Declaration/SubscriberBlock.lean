import EventRelay.Declaration.Function
import EventRelay.Declaration.Options
import EventRelay.Priority

/-!
# Declared subscribers

A subscriber is declared by the block of its methods. Functions marked with the
attribute `subscribe_event` are listener methods; the attribute may give a priority and
say that the method wants canceled events. The arguments of the block may list
supertypes.

A function can be called as a listener if it takes exactly one parameter besides its
object and that parameter is a reference. The marking attribute is taken off the
function; everything else in the block stays as it is.
-/

namespace EventRelay
namespace Declaration

/-- A block of methods. -/
structure SubscriberBlock where
  arguments : List Token
  generics : List GenericParam
  /-- The block implements a trait. -/
  implementsTrait : Bool
  /-- Type whose methods these are. -/
  self : DeclaredType
  items : List Item

/-- What the options of a listener method say. -/
structure MethodOptions where
  priority : Priority
  /-- The method wants canceled events. -/
  receivesCanceled : Bool

/-- A described parameter. -/
inductive DescribedParam
  /-- Takes events of a type. -/
  | event (type : DeclaredType)
  /-- Takes something else. -/
  | other (type : DeclaredType)

/-- How a described method is called. -/
structure DescribedInvoker where
  /-- The method is called without an object. -/
  isStatic : Bool
  /-- The type as which the event is viewed. -/
  views : DeclaredType
  /-- The view is handed over for reading only. -/
  isShared : Bool
  /-- The function that is called. -/
  function : String

/-- A described listener method. -/
structure DescribedMethod where
  name : String
  params : List DescribedParam
  /-- The method takes no object. -/
  isStatic : Bool
  priority : Priority
  /-- The method wants canceled events. -/
  receivesCanceled : Bool
  /-- How it is called, if it can be called with an event. -/
  invoker? : Option DescribedInvoker

/-- What follows from a block. -/
structure SubscriberDescription where
  name : String
  supertypes : List Path
  methods : List DescribedMethod
  /-- The items as they are handed on. -/
  items : List Item

namespace Function

/-- The name of the attribute that marks listener methods. -/
def markerName : String := "subscribe_event"

/-- The attribute that marks a function: the first one with the right name. -/
def marker? (function : Function) : Option Attribute :=
  function.attributes.find? fun tag => tag.isNamed markerName

/-- The function without that attribute. -/
def withoutMarker (function : Function) : Function :=
  { function with
    attributes := function.attributes.eraseP fun tag => tag.isNamed markerName }

/-- The options of a listener method. -/
def meaning : Meaning MethodOptions := fun path stretch soFar =>
  if path.isWord "priority" then do
    let afterEquals ← Meaning.lift stretch.equals
    let (name, left) ← Meaning.lift afterEquals.identifier
    match Priority.ofLabel? name with
    | some priority => return ({ soFar with priority := priority }, left)
    | none => .error .unknownPriority
  else if path.isWord "receive_canceled" then
    match stretch.equals with
    | .ok afterEquals => do
        let (value, left) ← Meaning.lift afterEquals.truth
        return ({ soFar with receivesCanceled := value }, left)
    | .error _ => .ok ({ soFar with receivesCanceled := true }, stretch)
  else .error .unknownMethodOption

/-- Reads the options of the marking attribute; a bare one has none. -/
def options (tag : Attribute) : Except DeclarationError MethodOptions :=
  let plain : MethodOptions := ⟨.normal, false⟩
  match tag.arguments with
  | .none => .ok plain
  | _ => do
      let tokens ← Meaning.lift tag.list
      meaning.read tokens plain

/-- The event type that a function takes, if its only parameter is a reference. -/
def eventParam? (function : Function) : Option (DeclaredType × Bool) :=
  match function.params with
  | [param] => param.referenced?
  | _ => none

/-- Describes a listener method. -/
def describe (function : Function) (options : MethodOptions) :
    Except DeclarationError DescribedMethod :=
  if function.receiver?.any fun receiver => !receiver.isShared then .error .receiver
  else
    let isStatic := function.receiver?.isNone
    .ok {
      name := function.name
      params := match function.eventParam? with
        | some (type, _) => [.event type]
        | none => function.params.map .other
      isStatic := isStatic
      priority := options.priority
      receivesCanceled := options.receivesCanceled
      invoker? := function.eventParam?.map fun (type, isWritable) =>
        ⟨isStatic, type, !isWritable, function.name⟩ }

end Function

namespace SubscriberBlock

/-- The arguments of a block. -/
def meaning : Meaning (List Path) := fun path stretch soFar =>
  if path.isWord "supertypes" then do
    let (paths, left) ← readPaths stretch
    return (soFar ++ paths, left)
  else .error .unknownArgument

/-- Describes the marked functions in order and takes their marks off. -/
def describeItems : List Item → Except DeclarationError (List DescribedMethod × List Item)
  | [] => .ok ([], [])
  | .function function :: rest =>
      match function.marker? with
      | none => do
          let (methods, items) ← describeItems rest
          return (methods, .function function :: items)
      | some tag => do
          let options ← Function.options tag
          let method ← function.describe options
          let (methods, items) ← describeItems rest
          return (method :: methods, .function function.withoutMarker :: items)
  | .other name attributes :: rest => do
      let (methods, items) ← describeItems rest
      return (methods, .other name attributes :: items)

/-- The name of the type. -/
def name (block : SubscriberBlock) : String := block.self.name

/-- The generic parameters without blanks. -/
def genericsText (block : SubscriberBlock) : String := GenericParam.text block.generics

/-- What follows from a block, or the first thing that is wrong with it. -/
def describe (block : SubscriberBlock) : Except DeclarationError SubscriberDescription := do
  if block.implementsTrait then Except.error .traitBlock
  let supertypes ← meaning.read block.arguments []
  let (methods, items) ← describeItems block.items
  return ⟨block.name, supertypes, methods, items⟩

end SubscriberBlock

namespace DescribedInvoker

/-- The call that is made. -/
def call (invoker : DescribedInvoker) : String :=
  (if invoker.isStatic then "Self::" else "this.") ++ invoker.function

/-- The start of the viewed type's text, up to the first comma: enough to tell types apart
that are no tuples. -/
def viewsText (invoker : DescribedInvoker) : String :=
  String.ofList (invoker.views.text.toList.takeWhile fun character => character ≠ ',')

end DescribedInvoker
end Declaration
end EventRelay
