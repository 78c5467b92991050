import EventRelay.Text.Record

/-!
# Failures

A bus refuses an operation with a `BusError`. A listener that goes wrong while
an event is dispatched yields a `ListenerError`, and the bus hands that on inside
the `listenerFailed` error of the post. The two types refer to each other because
a listener may itself use a bus and fail with that bus' error.

A `Panic` is an abrupt end that no result type announces.
-/

namespace EventRelay

mutual

/-- Why an operation of a bus was refused or broke off. -/
inductive BusError
  /-- The listener at a position of the dispatched array failed. -/
  | listenerFailed (index : Nat) (listener : String) (source : ListenerError)
  /-- An abstract kind was posted or listened to. -/
  | abstractEvent (event : String)
  /-- The abstract parent of a kind has a concrete ancestor. -/
  | brokenAbstractChain (event parent ancestor : String)
  /-- The class checker of the bus turned a kind down. -/
  | rejectedEvent (event reason : String)
  /-- A listener method cannot be used as one. -/
  | invalidListener (subscriber method reason : String)
  /-- A supertype of a subscriber declares listener methods of its own. -/
  | inheritedListeners (subscriber supertype : String) (methods : List String)
  /-- A subscriber has no methods for a registration of the given shape. -/
  | noListeners (subscriber shape : String)
  /-- The bus does not post single priorities. -/
  | perPhasePostDisabled
  /-- An event that cannot be canceled was to be canceled. -/
  | notCancellable (event : String)
  /-- A configuration text is not usable. -/
  | configuration (message : String)
  deriving DecidableEq

/-- How a listener went wrong. -/
inductive ListenerError
  | panic (message : String)
  /-- The listener returned an error that is a plain text. -/
  | customText (message : String)
  /-- The listener returned an error of a bus. -/
  | customBus (error : BusError)
  /-- The event has no part of the kind the listener is declared for. -/
  | eventMismatch (expected actual : String)
  deriving DecidableEq

end

/-- An abrupt end with the text it carries; other payloads have no text. -/
structure Panic where
  /-- The text of the payload. -/
  text? : Option String
  deriving DecidableEq

/-- An error value as listener code returns it, before the bus has classified it. -/
inductive Thrown
  | text (message : String)
  /-- An error of a bus. -/
  | bus (error : BusError)
  /-- An error that already is a listener error. -/
  | listener (error : ListenerError)

/-- A listener error that comes back out of listener code stays what it is; anything
else is the listener's own error. -/
def ListenerError.ofThrown : Thrown → ListenerError
  | .text message => .customText message
  | .bus error => .customBus error
  | .listener error => error

/-- The error that reports a panic. -/
def ListenerError.ofPanic (payload : Panic) : ListenerError :=
  .panic (payload.text?.getD "non-string panic payload")

mutual

/-- The message of a bus error. -/
def BusError.message : BusError → String
  | .listenerFailed index listener source =>
      "Listener #" ++ toString index ++ " (" ++ listener ++ ") failed: " ++ source.message
  | .abstractEvent event =>
      "Event " ++ event ++ " is abstract and cannot be listened to or posted"
  | .brokenAbstractChain event parent ancestor =>
      "Abstract event " ++ parent ++ " (parent of " ++ event ++
        ") has a non-abstract ancestor " ++ ancestor
  | .rejectedEvent event reason =>
      "Event " ++ event ++ " is not accepted by this bus: " ++ reason
  | .invalidListener subscriber method reason =>
      "Invalid listener method " ++ subscriber ++ "::" ++ method ++ ": " ++ reason
  | .inheritedListeners subscriber supertype methods =>
      "Subscriber " ++ subscriber ++ " inherits listener methods " ++
        Text.sequence (methods.map Text.Quoted.encode) ++ " from " ++ supertype ++
        "; register the supertype separately"
  | .noListeners subscriber shape =>
      subscriber ++ " has no " ++ shape ++ " listener methods"
  | .perPhasePostDisabled => "Posting a single phase is not enabled on this bus"
  | .notCancellable event => "Event " ++ event ++ " is not cancellable"
  | .configuration message => "Configuration error: " ++ message

/-- The message of a listener error. -/
def ListenerError.message : ListenerError → String
  | .panic message => "Listener panicked: " ++ message
  | .customText message => message
  | .customBus error => error.message
  | .eventMismatch expected actual =>
      "Listener expected " ++ expected ++ " but received " ++ actual

end

mutual

/-- A bus error as a structured text. -/
def BusError.text : BusError → String
  | .listenerFailed index listener source =>
      Text.record "ListenerFailed" [
        Text.field "index" (toString index),
        Text.field "listener" (Text.Quoted.encode listener),
        Text.field "source" source.text]
  | .abstractEvent event =>
      Text.record "AbstractEvent" [Text.field "event" (Text.Quoted.encode event)]
  | .brokenAbstractChain event parent ancestor =>
      Text.record "BrokenAbstractChain" [
        Text.field "event" (Text.Quoted.encode event),
        Text.field "parent" (Text.Quoted.encode parent),
        Text.field "ancestor" (Text.Quoted.encode ancestor)]
  | .rejectedEvent event reason =>
      Text.record "RejectedEvent" [
        Text.field "event" (Text.Quoted.encode event),
        Text.field "reason" (Text.Quoted.encode reason)]
  | .invalidListener subscriber method reason =>
      Text.record "InvalidListener" [
        Text.field "subscriber" (Text.Quoted.encode subscriber),
        Text.field "method" (Text.Quoted.encode method),
        Text.field "reason" (Text.Quoted.encode reason)]
  | .inheritedListeners subscriber supertype methods =>
      Text.record "InheritedListeners" [
        Text.field "subscriber" (Text.Quoted.encode subscriber),
        Text.field "supertype" (Text.Quoted.encode supertype),
        Text.field "methods" (Text.sequence (methods.map Text.Quoted.encode))]
  | .noListeners subscriber shape =>
      Text.record "NoListeners" [
        Text.field "subscriber" (Text.Quoted.encode subscriber),
        Text.field "shape" (Text.Quoted.encode shape)]
  | .perPhasePostDisabled => "PerPhasePostDisabled"
  | .notCancellable event =>
      Text.record "NotCancellable" [Text.field "event" (Text.Quoted.encode event)]
  | .configuration message =>
      Text.record "ConfigurationError" [Text.field "message" (Text.Quoted.encode message)]

/-- A listener error as a structured text. -/
def ListenerError.text : ListenerError → String
  | .panic message =>
      Text.record "Panic" [Text.field "message" (Text.Quoted.encode message)]
  | .customText message => Text.wrapped "Custom" (Text.Quoted.encode message)
  | .customBus error => Text.wrapped "Custom" error.text
  | .eventMismatch expected actual =>
      Text.record "EventMismatch" [
        Text.field "expected" (Text.Quoted.encode expected),
        Text.field "actual" (Text.Quoted.encode actual)]

end

/-- The listener failure that a bus error carries. -/
def BusError.listenerError? : BusError → Option ListenerError
  | .listenerFailed _ _ source => some source
  | _ => none

/-- Message of the listener's own error, if that is what the failure is. -/
def ListenerError.custom? : ListenerError → Option String
  | .customText message => some message
  | .customBus error => some error.message
  | _ => none

/-- The listener's own error is an error of a bus. -/
def ListenerError.isCustomBus : ListenerError → Bool
  | .customBus _ => true
  | _ => false

end EventRelay
