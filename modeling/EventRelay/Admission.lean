import EventRelay.Action
import EventRelay.Subscriber

/-!
# Admission

What may be registered on a bus. Every bus has a checker that accepts or rejects event
kinds; listeners can only be registered for concrete kinds that it accepts, and
listener methods only if they can be called with such an event.
-/

namespace EventRelay

/-- Accepts an event kind or gives the reason why not. -/
abbrev Checker (σ : Type) := Kind → Action σ String Unit

namespace Checker

variable {σ : Type}

/-- Accepts every kind. -/
def acceptAll : Checker σ := fun _ => pure ()

/-- Why a kind without a marker is rejected. -/
def missingMarker (marker : Marker) (kind : Kind) : String :=
  "this bus only accepts events marked with " ++ marker.name ++ ", which " ++ kind.name ++
    " is not"

/-- Accepts the kinds that carry a marker. -/
def requiring (marker : Marker) : Checker σ := fun kind =>
  if kind.hasMarker marker then pure () else Action.raise (missingMarker marker kind)

/-- A checker for a marker as a structured text. -/
def requiringText (marker : Marker) : String :=
  Text.record "MarkerTypeChecker" [Text.field "marker" (Text.Quoted.encode marker.name)]

end Checker

namespace Admission

variable {σ τ β : Type}

/-- Asks the checker about a kind. -/
def checkAccepted (checker : Checker σ) (kind : Kind) : Action σ BusError Unit :=
  (checker kind).mapError fun reason => .rejectedEvent kind.name reason

/-- Listeners may be registered for the kind. -/
def checkTarget (checker : Checker σ) (kind : Kind) : Action σ BusError Unit :=
  if kind.isAbstract then Action.raise (.abstractEvent kind.name)
  else checkAccepted checker kind

/-- What is wrong with a method whose receiver does not fit a shape. -/
def wrongReceiver : Shape → String
  | .object =>
      "expected a `&self` method; register the type with `register_static` " ++
        "for associated functions"
  | .type =>
      "expected an associated function; register an instance with `register` " ++
        "for `&self` methods"

/-- The method can be part of a registration of the given shape. -/
def fits (shape : Shape) (method : ListenerMethod τ β) : Bool :=
  match shape with
  | .object => !method.isStatic
  | .type => method.isStatic

/-- The methods to register for a shape: all of the class, or a refusal. -/
def select (subscriber : SubscriberClass τ β) (shape : Shape) :
    Except BusError (List (ListenerMethod τ β)) :=
  match Supertype.firstDeclaring? subscriber.supertypes with
  | some supertype =>
      .error (.inheritedListeners subscriber.name supertype.name supertype.methods)
  | none =>
      match subscriber.methods.find? fun method => !fits shape method with
      | some method => .error (method.refusal subscriber.name (wrongReceiver shape))
      | none =>
          if subscriber.methods.isEmpty then .error (.noListeners subscriber.name shape.name)
          else .ok subscriber.methods

/-- The kind of event that a method takes, if it can be called with one. -/
def declaredKind (subscriber : String) (method : ListenerMethod τ β) : Except BusError Kind :=
  match method.params with
  | [param] =>
      match param.kind? with
      | some kind =>
          if method.invoker?.isSome then .ok kind
          else .error (method.refusal subscriber ListenerMethod.notInvocable)
      | none =>
          .error (method.refusal subscriber
            ("parameter type " ++ param.name ++ " is not an event"))
  | params =>
      .error (method.refusal subscriber
        ("listener methods take exactly one event parameter, found " ++
          toString params.length))

/-- Checks a method and gives the kind that it listens to. -/
def checkMethod (checker : Checker σ) (subscriber : String) (method : ListenerMethod τ β) :
    Action σ BusError Kind := do
  let kind ← Action.ofExcept (declaredKind subscriber method)
  checkTarget checker kind
  return kind

/-- The checks as a structured text. -/
def text : String := "RegistrationValidator \x7b .. \x7d"

end Admission
end EventRelay
