import EventRelay.Host
import EventRelay.Scenario.Script

/-!
# The world of a scenario

All that the steps of a scenario can change: the buses with their checkers and
handlers, the identities issued so far, how often each listener body has run, what
is kept under names, and the record of what happened.
-/

namespace EventRelay
namespace Scenario

/-- Who counts the runs of a body. -/
inductive Counter
  /-- A method, for all objects of its type together. -/
  | method (subscriber : String) (position : Nat)
  | listener (number : Nat)
  deriving DecidableEq

/-- What a listener body works on. -/
inductive Viewing
  | whole
  /-- The event's part of a kind. -/
  | part (kind : Kind)

/-- A listener body of a scenario. -/
structure Body where
  /-- Name under which runs are recorded; nothing is recorded without one. -/
  tag? : Option String
  /-- What the body works on. -/
  viewing : Viewing
  /-- Counts the runs. -/
  counter : Counter
  script : Script
  /-- Errors of the script are dropped. -/
  isLenient : Bool

/-- What a node shows of itself. -/
structure NodeSummary where
  id : Nat
  kind : String
  /-- Number of the parent kind's node. -/
  parent? : Option Nat
  /-- Numbers of the child kinds' nodes. -/
  children : List Nat
  /-- Number of ancestors above the kind. -/
  depth : Nat
  /-- Events of the kind can be canceled. -/
  cancellable : Bool
  /-- Number of listeners of the kind itself. -/
  own : Nat
  /-- The cache is out of date. -/
  isStale : Bool

/-- Summarises a node. -/
def NodeSummary.of (node : Node Body) : NodeSummary where
  id := node.id
  kind := node.kind.name
  parent? := node.parent?
  children := node.children
  depth := node.info.depth
  cancellable := node.info.cancellable
  own := node.listenerCount
  isStale := node.isStale

/-- What an array of listeners shows of an entry. -/
structure EntrySummary where
  description : String
  priority : Priority
  /-- The entry is skipped for canceled events. -/
  checksCancellation : Bool
  id : ListenerId

/-- Summarises an entry. -/
def EntrySummary.of (listener : Listener Body) : EntrySummary where
  description := listener.description
  priority := listener.priority
  checksCancellation := listener.checksCancellation
  id := listener.id

/-- The answer to a step. -/
inductive Answer
  | done
  | refused (error : BusError)
  /-- A post that was refused or broke off, with the event as it was then. -/
  | unposted (error : BusError) (event : Event.Snapshot)
  /-- The identity of a new listener. -/
  | listener (id : ListenerId)
  /-- Yes or no. -/
  | truth (value : Bool)
  | event (event : Event.Snapshot)
  | count (number : Nat)
  | config (config : BusConfig)
  | text (text : String)
  | nodes (nodes : List NodeSummary)
  | entries (entries : List EntrySummary)
  /-- Metrics, if the bus keeps any. -/
  | metrics (metrics? : Option Metrics)
  /-- Listeners of a kind and how often the counting ones ran. -/
  | crowd (listeners runs : Nat)
  /-- Rounds in which table and lists agreed, and listeners left over. -/
  | race (agreed left : Nat)
  /-- Whether every count was right, and the last one. -/
  | readings (exact : Bool) (count : Nat)

/-- The error that an answer tells of. -/
def Answer.error? : Answer → Option BusError
  | refused error => some error
  | unposted error _ => some error
  | _ => none

/-- Something that happened while a step was carried out. -/
inductive Remark
  | ran (tag kind : String) (canceled : Bool) (value : Int)
  /-- A listener tried to set the canceled state. -/
  | triedCancel (refusal? : Option BusError)
  /-- A step was carried out inside of another one. -/
  | answered (answer : Answer)
  /-- The checker was asked about a kind. -/
  | checked (kind : String)
  /-- The handler was told of a failure. -/
  | handled (event : String) (canceled : Bool) (index listeners : Nat) (error : ListenerError)
      (report : String)

/-- The checker of a bus. -/
inductive CheckerSpec
  | acceptAll
  /-- Accepts kinds with a marker. -/
  | marker (marker : Marker)
  /-- Records each question, carries out steps at the first few of them, and rejects the
  kinds for whose names a reason is given. -/
  | scripted (steps : List Step) (limit : Nat) (reasons : List (String × String))

/-- The failure handler of a bus. -/
inductive HandlerSpec
  /-- Tells of the failure in a notice. -/
  | logging
  /-- Records the failure, carries out steps, and may panic. -/
  | scripted (steps : List Step) (panic? : Option Panic)

/-- A bus with its checker and handler. -/
structure Station where
  bus : Bus Body
  checker : CheckerSpec
  handler : HandlerSpec
  /-- How often the checker has been asked. -/
  asked : Nat

/-- A running bus with nothing registered. -/
def Station.plain : Station := ⟨.create {} false none, .acceptAll, .logging, 0⟩

/-- The state of a scenario. -/
structure World where
  stations : List Station
  /-- Number of listener identities issued. -/
  issued : Nat
  /-- Number of counters made for single listeners. -/
  counters : Nat
  /-- Runs of the bodies so far. -/
  runs : List (Counter × Nat)
  /-- Events kept under names. -/
  kept : List (String × Event)
  /-- The listener added last under each tag. -/
  tags : List (String × ListenerId)
  /-- Subscriber types of the objects, by label. -/
  objects : List (String × String)
  /-- What happened, the latest first. -/
  remarks : List Remark
  /-- What the buses told, the latest first. -/
  notices : List Notice

namespace World

/-- The world before the first step. -/
def create (stations : List Station) : World := ⟨stations, 0, 0, [], [], [], [], [], []⟩

/-- A bus by its number. -/
def station (world : World) (number : Nat) : Station :=
  world.stations.getD number .plain

/-- Changes a bus. -/
def changeStation (world : World) (number : Nat) (change : Station → Station) : World :=
  { world with stations := world.stations.modify number change }

/-- Records something that happened. -/
def remark (world : World) (remark : Remark) : World :=
  { world with remarks := remark :: world.remarks }

/-- Records what a bus told. -/
def notice (world : World) (notice : Notice) : World :=
  { world with notices := notice :: world.notices }

/-- Makes a counter for a single listener. -/
def newCounter (world : World) : Counter × World :=
  (.listener world.counters, { world with counters := world.counters + 1 })

/-- Number of runs counted so far. -/
def runsOf (world : World) (counter : Counter) : Nat :=
  (world.runs.lookup counter).getD 0

/-- Puts a value under a key of an association list. -/
def put {κ α : Type} [BEq κ] (key : κ) (value : α) : List (κ × α) → List (κ × α)
  | [] => [(key, value)]
  | first :: rest => if first.1 == key then (key, value) :: rest else first :: put key value rest

/-- Counts a run. -/
def countRun (world : World) (counter : Counter) : World :=
  { world with runs := put counter (world.runsOf counter + 1) world.runs }

/-- Keeps an event under a name. -/
def keep (world : World) (name : String) (event : Event) : World :=
  { world with kept := put name event world.kept }

/-- Lets a tag name a listener. -/
def tag (world : World) (name : String) (id : ListenerId) : World :=
  { world with tags := put name id world.tags }

/-- The object with a label; one that is not there yet is made. -/
def object (world : World) (label subscriber : String) : String × World :=
  match world.objects.lookup label with
  | some known => (known, world)
  | none => (subscriber, { world with objects := put label subscriber world.objects })

/-- The same world with an empty record. -/
def forget (world : World) : World :=
  { world with remarks := [], notices := [] }

end World
end Scenario
end EventRelay
