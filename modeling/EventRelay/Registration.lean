import EventRelay.Host

/-!
# Registering and unregistering

A subscriber is registered as a whole: its class is checked, then method by method the
kind is checked, the node of the kind is found, the method is bound and a listener is
made. Only when all methods are ready is anything registered. A single listener goes
the same way. Registering under a key that is taken has no effect.
-/

namespace EventRelay
namespace Host

variable {σ τ β : Type}

/-- The node of a kind on the bus; missing nodes are made. -/
def nodeFor (host : Host σ β) (kind : Kind) : Action σ BusError Nat := fun state =>
  match (host.bus state).nodeFor kind with
  | .error error => (.error (.raised error), state)
  | .ok (bus, id) =>
      (.ok id,
        host.noteAll ((host.bus state).index.createdSince bus.index) (host.withBus bus state))

/-- Makes a listener with a new identity. -/
def newListener (host : Host σ β) (kind : Kind) (priority : Priority) (receivesCanceled : Bool)
    (description : String) (body : β) : Action σ BusError (Listener β) := do
  let id ← Action.step host.issueId
  return .create id kind priority receivesCanceled description body

/-- Adds listeners to the bus under a key. -/
def commit (host : Host σ β) (key : Key) (name : String) (pending : Pending β) :
    Action σ BusError Unit := fun state =>
  if (host.bus state).isRegistered key then (.ok (), state)
  else (.ok (), host.note (.registered name (Bus.distinctIds pending).length)
    (host.modify (fun bus => bus.commit key pending) state))

/-- Makes one method ready: the listener and the node it belongs to. -/
def prepareMethod (host : Host σ β) (subscriber : String) (object? : Option τ)
    (method : ListenerMethod τ β) : Action σ BusError (Nat × Listener β) := do
  let kind ← Admission.checkMethod host.checker subscriber method
  let node ← host.nodeFor kind
  let body ← Action.ofExcept (method.bind subscriber object?)
  let listener ← host.newListener kind method.priority method.receivesCanceled
    (subscriber ++ "::" ++ method.name ++ "(" ++ kind.name ++ ")") body
  return (node, listener)

/-- Makes all methods of a class ready for a registration of the given shape. -/
def prepare (host : Host σ β) (subscriber : SubscriberClass τ β) (shape : Shape)
    (object? : Option τ) : Action σ BusError (Pending β) := do
  let methods ← Action.ofExcept (Admission.select subscriber shape)
  Action.forEach (host.prepareMethod subscriber.name object?) methods

/-- Registers a class under a key. -/
def registerAs (host : Host σ β) (key : Key) (subscriber : SubscriberClass τ β) (shape : Shape)
    (object? : Option τ) : Action σ BusError Unit := do
  if ← Action.look fun state => (host.bus state).isRegistered key then return
  let pending ← host.prepare subscriber shape object?
  host.commit key subscriber.name pending

/-- Registers the methods of an object. -/
def register (host : Host σ β) (key : Key) (subscriber : SubscriberClass τ β) (object : τ) :
    Action σ BusError Unit :=
  host.registerAs key subscriber .object (some object)

/-- Registers the functions of a type. -/
def registerType (host : Host σ β) (key : Key) (subscriber : SubscriberClass τ β) :
    Action σ BusError Unit :=
  host.registerAs key subscriber .type none

/-- Registers a single listener under its own identity. -/
def addListener (host : Host σ β) (kind : Kind) (priority : Priority) (receivesCanceled : Bool)
    (description : String) (body : β) : Action σ BusError ListenerId := do
  Admission.checkTarget host.checker kind
  let node ← host.nodeFor kind
  let listener ← host.newListener kind priority receivesCanceled description body
  host.commit (.listener listener.id) kind.name [(node, listener)]
  return listener.id

/-- Removes what is registered under a key; tells whether there was anything. -/
def unregister (host : Host σ β) (key : Key) (state : σ) : Bool × σ :=
  match (host.bus state).registered? key with
  | none => (false, state)
  | some listeners =>
      (true, host.note (.unregistered listeners.length)
        (host.modify (fun bus => bus.unregister key) state))

/-- Leaves the shut down state. -/
def start (host : Host σ β) (state : σ) : σ :=
  if (host.bus state).isShutdown then host.note .started (host.modify Bus.start state)
  else state

/-- Brings the listener array of a node up to date. -/
def refresh (host : Host σ β) (id : Nat) (state : σ) : σ :=
  let bus := host.bus state
  host.noteAll (bus.index.rebuiltBy id) (host.withBus (bus.refresh id) state)

/-- The listener array of a node, brought up to date first. -/
def flattened (host : Host σ β) (id : Nat) : Action σ BusError (List (Listener β)) := do
  Action.change (host.refresh id)
  Action.look fun state => ((host.bus state).index.cacheOf id).listeners

/-- The listeners of one priority, brought up to date first. -/
def phaseListeners (host : Host σ β) (id : Nat) (priority : Priority) :
    Action σ BusError (List (Listener β)) := do
  Action.change (host.refresh id)
  Action.look fun state => (host.bus state).index.phaseOf id priority

/-- Number of listeners that a post of a kind would meet. -/
def listenerCount (host : Host σ β) (kind : Kind) : Action σ BusError Nat := do
  let id ← host.nodeFor kind
  let listeners ← host.flattened id
  return listeners.length

end Host
end EventRelay
