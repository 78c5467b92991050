import EventRelay.Scenario.Session.Listener

/-!
# Trying out an index

A session on an index of listener lists that belongs to no bus.
-/

namespace EventRelay
namespace Scenario
namespace IndexSession

/-- One step of a session; kinds are given by identity. -/
inductive Step
  /-- Ask for the node of a kind. -/
  | nodeFor (kind : String)
  /-- Ask twice and tell whether the node is the same. -/
  | sameNode (kind : String)
  /-- Look for the node of a kind without making it. -/
  | lookup (kind : String)
  /-- Look for a node by its number. -/
  | node (id : Nat)
  /-- Show the kinds that have nodes. -/
  | kinds
  /-- Show the number of nodes and whether phases are tracked. -/
  | size
  /-- Register a listener, by default at its own priority. -/
  | register (kind tag : String) (priority? : Option Priority)
  | unregister (kind tag : String)
  | unregisterAll (kind : String) (tags : List String)
  /-- Read the listener array of a kind. -/
  | flattened (kind : String)
  /-- Read the listeners of one priority. -/
  | phase (kind : String) (priority : Priority)
  /-- Show the node of a kind. -/
  | info (kind : String)
  /-- Show the texts of a node and of the index. -/
  | text (kind : String)

/-- The answer to a step. -/
inductive Answer
  | done
  | refused (error : BusError)
  | node (node : NodeSummary)
  | truth (value : Bool)
  | id (id? : Option Nat)
  | name (name? : Option String)
  | names (names : List String)
  | size (nodes : Nat) (tracksPhases : Bool)
  | flattened (array : Flattened Body) (cached : Bool)
  | entries (entries : List EntrySummary)
  | texts (node index : String)

/-- What a session works on. -/
structure State where
  index : Index Body
  /-- For each kind the generation of the array that was last read. -/
  read : List (String × Nat)

/-- What a step came to: its answer or a panic, what the index told, and for each node
its kind, the number of its own listeners and whether it is stale. -/
structure StepReport where
  /-- The answer or a panic. -/
  ended : Except Panic Answer
  notices : List Notice
  nodes : List (String × Nat × Bool)

/-- A step without a panic. -/
abbrev Outcome := Answer × List Notice × State

/-- Goes on with the node of a kind, made if it is missing. -/
def onNode (setting : Setting) (state : State) (kind : String)
    (next : List Notice → State → Nat → Outcome) : Outcome :=
  match state.index.nodeFor (setting.kind kind) with
  | .error error => (.refused error, [], state)
  | .ok (grown, id) => next (state.index.createdSince grown) { state with index := grown } id

/-- The summary of a node. -/
def summary (index : Index Body) (id : Nat) : Answer :=
  match index.node? id with
  | some node => .node (.of node)
  | none => .done

/-- Changes the index at the node of a kind; the answer depends on the node before. -/
def changing (setting : Setting) (state : State) (kind : String)
    (change : Nat → Index Body → Index Body) (answer : Nat → Index Body → Answer) :
    Outcome :=
  onNode setting state kind fun created grown id =>
    (answer id grown.index, created, { grown with index := change id grown.index })

/-- Reads the array of a kind. -/
def reading (setting : Setting) (state : State) (kind : String) : Outcome :=
  onNode setting state kind fun created grown id =>
    let (fresh, array) := grown.index.flattened id
    (.flattened array (grown.read.lookup kind == some array.generation),
      created ++ grown.index.rebuiltBy id,
      ⟨fresh, World.put kind array.generation grown.read⟩)

/-- Reads the listeners of one priority. -/
def readingPhase (setting : Setting) (state : State) (kind : String) (priority : Priority) :
    Outcome :=
  onNode setting state kind fun created grown id =>
    let (fresh, listeners) := grown.index.phaseListeners id priority
    (.entries (listeners.map EntrySummary.of), created ++ grown.index.rebuiltBy id,
      { grown with index := fresh })

/-- An index with a node for each of the standard kinds in it; the numbers of its nodes are
the only ones that a session can ask for. -/
def sample : Index Body :=
  ["LifecycleEvent", "Gap", "Signal", "Frame", "Attack", "PlayerCommand", "TupleFlag"].foldl
    (fun index kind =>
      match index.nodeFor (Standard.catalog.kind kind) with
      | .ok (grown, _) => grown
      | .error _ => index)
    (.empty false)

/-- What asking for a number that is not in the sample ends in. -/
def outOfBounds (id : Nat) : Panic :=
  ⟨some ("index out of bounds: the len is " ++ toString sample.size ++ " but the index is " ++
    toString id)⟩

/-- Carries out a step. -/
def perform (setting : Setting) (tagged : Tagged) (state : State) :
    Step → Except Panic Outcome
  | .nodeFor kind => .ok (onNode setting state kind fun created grown id =>
      (summary grown.index id, created, grown))
  | .sameNode kind => .ok (onNode setting state kind fun created grown id =>
      (.truth (grown.index.lookup? (setting.kind kind).id == some id), created, grown))
  | .lookup kind => .ok (.id (state.index.lookup? (setting.kind kind).id), [], state)
  | .node id =>
      if id < sample.size then
        .ok (.name ((state.index.node? id).map fun node => node.kind.name), [], state)
      else .error (outOfBounds id)
  | .kinds => .ok (.names (state.index.kinds.map Kind.name), [], state)
  | .size => .ok (.size state.index.size state.index.tracksPhases, [], state)
  | .register kind tag priority? =>
      let listener := tagged.find tag
      .ok (changing setting state kind
        (fun id index => index.register id (priority?.getD listener.priority) listener)
        (fun _ _ => .done))
  | .unregister kind tag =>
      let listener := (tagged.find tag).id
      .ok (changing setting state kind (fun id index => index.unregister id listener)
        (fun id index => .truth (index.holdsAny id [listener])))
  | .unregisterAll kind tags =>
      let listeners := tags.map fun tag => (tagged.find tag).id
      .ok (changing setting state kind (fun id index => index.unregisterAll id listeners)
        (fun id index => .truth (index.holdsAny id listeners)))
  | .flattened kind => .ok (reading setting state kind)
  | .phase kind priority => .ok (readingPhase setting state kind priority)
  | .info kind => .ok (onNode setting state kind fun created grown id =>
      (summary grown.index id, created, grown))
  | .text kind => .ok (onNode setting state kind fun created grown id =>
      (.texts (((grown.index.node? id).map Node.text).getD "") grown.index.text, created, grown))

/-- All nodes as a report shows them. -/
def overview (index : Index Body) : List (String × Nat × Bool) :=
  index.nodes.map fun node => (node.kind.name, node.listenerCount, node.isStale)

/-- Carries out steps one after the other. What the sample told comes with the first. -/
def reports (setting : Setting) (tagged : Tagged) :
    List Step → List Notice → State → List StepReport
  | [], _, _ => []
  | step :: rest, earlier, state =>
      match perform setting tagged state step with
      | .ok (answer, notices, after) =>
          ⟨.ok answer, earlier ++ notices, overview after.index⟩ ::
            reports setting tagged rest [] after
      | .error payload =>
          ⟨.error payload, earlier, overview state.index⟩ ::
            reports setting tagged rest [] state

/-- A whole session on an empty index. -/
def run (setting : Setting) (tagged : Tagged) (tracksPhases : Bool) (steps : List Step) :
    List StepReport :=
  reports setting tagged steps (Index.createdSince (.empty false) sample)
    ⟨.empty tracksPhases, []⟩

end IndexSession
end Scenario
end EventRelay
