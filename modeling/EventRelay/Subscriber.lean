import EventRelay.Listener
import EventRelay.Failure

/-!
# Subscribers

A subscriber class describes the listener methods of a type of objects: their
parameters, whether they belong to an object or to the type, and how they are called.
A method becomes a listener body by being bound: a method of an object to that object,
a function of the type to nothing.

The class also lists its supertypes, which are registered on their own and therefore
must not declare listener methods.
-/

namespace EventRelay

/-- The declared type of a method's parameter. -/
structure ParamType where
  name : String
  /-- The event kind that the type is, if it is one. -/
  kind? : Option Kind

/-- A parameter that takes events of a kind. -/
def ParamType.event (kind : Kind) : ParamType := ⟨kind.name, some kind⟩

/-- A parameter that takes something else. -/
def ParamType.other (name : String) : ParamType := ⟨name, none⟩

/-- How a listener method is called; objects have type `τ` and bodies type `β`. -/
inductive Invoker (τ β : Type)
  /-- On an object. -/
  | onObject (call : τ → β)
  /-- Without an object. -/
  | free (body : β)

/-- A listener method. -/
structure ListenerMethod (τ β : Type) where
  name : String
  /-- Declared parameters without the object. -/
  params : List ParamType
  /-- The method belongs to the type and not to an object. -/
  isStatic : Bool
  priority : Priority
  /-- The method also wants canceled events. -/
  receivesCanceled : Bool
  /-- How the method is called, if it can be called with an event at all. -/
  invoker? : Option (Invoker τ β)

/-- What is known of a supertype of a subscriber. -/
structure Supertype where
  name : String
  /-- Names of the listener methods that it declares. -/
  methods : List String
  supertypes : List Supertype

/-- The listener methods and supertypes of a type. -/
structure SubscriberClass (τ β : Type) where
  name : String
  /-- Methods that the type declares, in order. -/
  methods : List (ListenerMethod τ β)
  supertypes : List Supertype

/-- What is registered: an object or a type. -/
inductive Shape
  | object
  | type
  deriving DecidableEq

/-- The word for a shape. -/
def Shape.name : Shape → String
  | object => "instance"
  | type => "static"

/-- What a registration is recorded under. -/
inductive Key
  /-- An object of a subscriber type. -/
  | object (subscriber label : String)
  | type (subscriber : String)
  | listener (id : ListenerId)
  deriving DecidableEq

namespace ParamType

/-- The parameter type as a structured text. -/
def text (param : ParamType) : String :=
  Text.record "ParamType" [
    Text.field "name" (Text.Quoted.encode param.name),
    Text.field "kind" (Text.optional (param.kind?.map Kind.text))]

end ParamType

namespace ListenerMethod

variable {τ β : Type}

/-- A refusal of this method. -/
def refusal (method : ListenerMethod τ β) (subscriber reason : String) : BusError :=
  .invalidListener subscriber method.name reason

/-- What is wrong with a method that cannot be called with an event. -/
def notInvocable : String := "method cannot be invoked as a listener"

/-- Makes the listener body of a method, for an object or for none. -/
def bind (method : ListenerMethod τ β) (subscriber : String) (object? : Option τ) :
    Except BusError β :=
  match method.invoker?, object? with
  | some (.onObject call), some object => .ok (call object)
  | some (.free body), none => .ok body
  | some _, _ => .error (method.refusal subscriber "receiver does not match the registration")
  | none, _ => .error (method.refusal subscriber notInvocable)

/-- The method as a structured text. -/
def text (method : ListenerMethod τ β) : String :=
  Text.record "SubscribeMethod" [
    Text.field "name" (Text.Quoted.encode method.name),
    Text.field "params" (Text.sequence (method.params.map ParamType.text)),
    Text.field "is_static" (Text.flag method.isStatic),
    Text.field "priority" method.priority.label,
    Text.field "receive_canceled" (Text.flag method.receivesCanceled),
    Text.field "invocable" (Text.flag method.invoker?.isSome)]

end ListenerMethod

namespace Supertype

mutual

/-- A supertype as a structured text. -/
def text : Supertype → String
  | ⟨name, methods, supertypes⟩ =>
      Text.record "SupertypeInfo" [
        Text.field "name" (Text.Quoted.encode name),
        Text.field "listener_methods" (Text.sequence (methods.map Text.Quoted.encode)),
        Text.field "supertypes" (Text.sequence (texts supertypes))]

/-- The structured texts of some supertypes. -/
def texts : List Supertype → List String
  | [] => []
  | first :: rest => first.text :: texts rest

end

mutual

/-- The first of a supertype and its own supertypes that declares listener methods. -/
def declaring? : Supertype → Option Supertype
  | ⟨name, methods, supertypes⟩ =>
      if methods.isEmpty then firstDeclaring? supertypes
      else some ⟨name, methods, supertypes⟩

/-- The first supertype that declares listener methods; a supertype comes before its own
supertypes, and these before the next one. -/
def firstDeclaring? : List Supertype → Option Supertype
  | [] => none
  | first :: rest =>
      match first.declaring? with
      | some found => some found
      | none => firstDeclaring? rest

end

end Supertype

namespace SubscriberClass

variable {τ β : Type}

/-- The class as a structured text. -/
def text (subscriber : SubscriberClass τ β) : String :=
  Text.record "SubscriberClass" [
    Text.field "name" (Text.Quoted.encode subscriber.name),
    Text.field "methods" (Text.sequence (subscriber.methods.map ListenerMethod.text)),
    Text.field "supertypes" (Text.sequence (Supertype.texts subscriber.supertypes))]

end SubscriberClass
end EventRelay
