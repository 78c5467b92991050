import EventRelay.Config
import EventRelay.Hierarchy.Cache
import EventRelay.Metrics
import EventRelay.Subscriber

/-!
# The state of a bus

A bus holds the listener lists of all kinds, the table of registrations, whether it is
shut down, and its metrics. The functions here are the single changes that this state
can undergo; what posts and registrations do is composed of them.
-/

namespace EventRelay

/-- Listeners with the nodes they are to be added to. -/
abbrev Pending (β : Type) := List (Nat × Listener β)

/-- An event bus. -/
structure Bus (β : Type) where
  /-- What the bus was built with. -/
  config : BusConfig
  /-- Every post checks that the kind is accepted. -/
  checksTypes : Bool
  /-- Listener lists of all kinds. -/
  index : Index β
  /-- What is registered under each key. -/
  registrations : List (Key × List (Listener β))
  /-- Posts are ignored. -/
  isShutdown : Bool
  /-- Counters of the bus, if it keeps any. -/
  metrics? : Option Metrics

namespace Bus

variable {β : Type}

/-- A new bus. Dispatch checks can also be forced from outside the configuration. -/
def create (config : BusConfig) (forcesChecks : Bool) (metrics? : Option Metrics) : Bus β where
  config := config
  checksTypes := config.checksTypes || forcesChecks
  index := .empty config.allowsPhasePosts
  registrations := []
  isShutdown := config.startShutdown
  metrics? := metrics?

/-- The listeners registered under a key. -/
def registered? (bus : Bus β) (key : Key) : Option (List (Listener β)) :=
  bus.registrations.lookup key

/-- Something is registered under a key. -/
def isRegistered (bus : Bus β) (key : Key) : Bool :=
  (bus.registered? key).isSome

/-- All registered listeners. -/
def registeredListeners (bus : Bus β) : List (Listener β) :=
  bus.registrations.flatMap Prod.snd

/-- Replaces the listener lists. -/
def withIndex (bus : Bus β) (index : Index β) : Bus β :=
  { bus with index := index }

/-- Applies a change to the metrics, if the bus keeps any. -/
def meter (bus : Bus β) (change : Metrics → Metrics) : Bus β :=
  { bus with metrics? := bus.metrics?.map change }

/-- The node of a kind; missing nodes are made. -/
def nodeFor (bus : Bus β) (kind : Kind) : Except BusError (Bus β × Nat) :=
  match bus.index.nodeFor kind with
  | .ok (index, id) => .ok (bus.withIndex index, id)
  | .error error => .error error

/-- Adds listeners to their nodes one after the other. -/
def insertAll (index : Index β) (pending : Pending β) : Index β :=
  pending.foldl (fun current (id, listener) => current.register id listener.priority listener)
    index

/-- The different identities of listeners. -/
def distinctIds (pending : Pending β) : List ListenerId :=
  (pending.map fun entry => entry.2.id).eraseDups

/-- Records listeners under a key and adds them to their nodes; a key that is taken keeps
what it has. -/
def commit (bus : Bus β) (key : Key) (pending : Pending β) : Bus β :=
  if bus.isRegistered key then bus
  else
    ({ bus with
        registrations := bus.registrations ++ [(key, pending.map Prod.snd)]
        index := insertAll bus.index pending }).meter
      (Metrics.addListeners · (distinctIds pending).length)

/-- Removes the listeners recorded under a key from the record and from every node. -/
def unregister (bus : Bus β) (key : Key) : Bus β :=
  match bus.registered? key with
  | none => bus
  | some listeners =>
      ({ bus with
          registrations := bus.registrations.filter fun entry => entry.1 ≠ key
          index := bus.index.purge (listeners.map Listener.id) }).meter
        (Metrics.removeListeners · listeners.length)

/-- Brings the listener array of a node up to date. -/
def refresh (bus : Bus β) (id : Nat) : Bus β :=
  bus.withIndex (bus.index.refresh id)

/-- Leaves the shut down state. -/
def start (bus : Bus β) : Bus β := { bus with isShutdown := false }

/-- Counts a dispatch that entered some listener bodies. -/
def recordPost (bus : Bus β) (ran : Nat) : Bus β := bus.meter (Metrics.recordPost · ran)

/-- Counts a failed dispatch. -/
def recordFailure (bus : Bus β) : Bus β := bus.meter Metrics.recordFailure

/-- The bus as a structured text. -/
def text (bus : Bus β) : String :=
  Text.openRecord "EventBus" [
    Text.field "config" bus.config.text,
    Text.field "check_types_on_dispatch" (Text.flag bus.checksTypes),
    Text.field "shutdown" (Text.flag bus.isShutdown),
    Text.field "index" bus.index.text,
    Text.field "registrations" (toString bus.registrations.length)]

@[simp] theorem config_withIndex (bus : Bus β) (index : Index β) :
    (bus.withIndex index).config = bus.config := rfl

@[simp] theorem index_withIndex (bus : Bus β) (index : Index β) :
    (bus.withIndex index).index = index := rfl

@[simp] theorem registrations_withIndex (bus : Bus β) (index : Index β) :
    (bus.withIndex index).registrations = bus.registrations := rfl

@[simp] theorem index_meter (bus : Bus β) (change : Metrics → Metrics) :
    (bus.meter change).index = bus.index := rfl

@[simp] theorem registrations_meter (bus : Bus β) (change : Metrics → Metrics) :
    (bus.meter change).registrations = bus.registrations := rfl

@[simp] theorem isShutdown_start (bus : Bus β) : bus.start.isShutdown = false := rfl

end Bus
end EventRelay
