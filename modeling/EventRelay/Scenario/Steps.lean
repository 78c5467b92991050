import EventRelay.Scenario.Play
import EventRelay.Scenario.Standard

/-!
# Carrying out steps

What each command does to its bus and what the answer is. Steps carried out inside of
listener bodies, checkers and handlers go through the same function, up to a depth that
only endless nesting reaches.
-/

namespace EventRelay
namespace Scenario

/-- What a scenario declares. -/
structure Setting where
  catalog : Catalog
  directory : Directory

namespace Setting

/-- The standard kinds and subscribers together with declared ones. -/
def create (kinds : List KindDeclaration) (subscribers : Directory) : Setting :=
  ⟨Standard.catalog.declareAll kinds, Standard.subscribers ++ subscribers⟩

/-- The kind with an identity. -/
def kind (setting : Setting) (id : String) : Kind := setting.catalog.kind id

/-- The class of a subscriber type. -/
def subscriberClass (setting : Setting) (id : String) : ScenarioClass :=
  setting.directory.subscriberClass setting.catalog id

end Setting

/-- An action that cannot fail, or whose failure is the answer. -/
def answering {α : Type} (answer : α → Answer) (action : Action World BusError α) :
    Action World Empty Answer := fun world =>
  match action world with
  | (.ok result, after) => (.ok (answer result), after)
  | (.error (.raised error), after) => (.ok (.refused error), after)
  | (.error (.panicked payload), after) => (.error (.panicked payload), after)

/-- The key that a reference stands for. -/
def KeyRef.resolve (world : World) : KeyRef → Option Key × World
  | listener tag => ((world.tags.lookup tag).map Key.listener, world)
  | type subscriber => (some (.type subscriber), world)
  | object label (some subscriber) =>
      let (owner, after) := world.object label subscriber
      (some (.object owner label), after)
  | object label none =>
      ((world.objects.lookup label).map fun owner => .object owner label, world)

/-- The description of a listener that has no name. -/
def anonymous (kind : Kind) : String := "closure for " ++ kind.name

/-- The description of a listener added under a tag. -/
def Via.description (via : Via) (tag : String) (kind : Kind) : String :=
  match via with
  | named | plain | prioritized => tag ++ " for " ++ kind.name
  | closure | lenient | untyped => anonymous kind

/-- The priority at which a listener is added. -/
def Via.priority (via : Via) (asked : Priority) : Priority :=
  match via with
  | plain => .normal
  | _ => asked

/-- Whether a listener is added for canceled events too. -/
def Via.receivesCanceled (via : Via) (asked : Bool) : Bool :=
  match via with
  | plain | prioritized => false
  | _ => asked

/-- What a listener works on. -/
def Via.viewing (via : Via) (kind : Kind) : Viewing :=
  match via with
  | untyped => .whole
  | _ => .part kind

section Commands

variable (play : Player) (setting : Setting) (number : Nat)

/-- Adds a listener and lets its tag name it. -/
def addTagged (tag : String) (kind : Kind) (priority : Priority) (receivesCanceled : Bool)
    (via : Via) (script : Script) : Action World BusError ListenerId := do
  let counter ← Action.step World.newCounter
  let body : Body := ⟨some tag, via.viewing kind, counter, script, via = .lenient⟩
  let id ← (host play setting.catalog number).addListener kind (via.priority priority)
    (via.receivesCanceled receivesCanceled) (via.description tag kind) body
  Action.change fun world => world.tag tag id
  return id

/-- The event that a reference stands for. -/
def EventRef.resolve (world : World) : EventRef → Event
  | made spec => setting.catalog.make spec
  | kept name =>
      (world.kept.lookup name).getD (.last ⟨Catalog.undeclared name, 0, none⟩)

/-- Puts an event that was only lent back where it is kept. -/
def EventRef.putBack (event : Event) : EventRef → World → World
  | made _, world => world
  | kept name, world => world.keep name event

/-- Answers with the event after a post, or with what went wrong. -/
def posting (action : Action (Event × World) BusError Unit) (reference : EventRef)
    (handover : Handover) : Action World Empty Answer := fun world =>
  match action (reference.resolve setting world, world) with
  | (outcome, event, after) =>
      let settled := match handover with
        | .lent => reference.putBack event after
        | .given => after
      match outcome with
      | .ok () => (.ok (.event event.snapshot), settled)
      | .error (.panicked payload) => (.error (.panicked payload), settled)
      | .error (.raised error) =>
          match handover with
          | .lent => (.ok (.unposted error event.snapshot), settled)
          | .given => (.ok (.refused error), settled)

/-- Removes the registration that a reference stands for. -/
def unregistering (reference : KeyRef) : Action World Empty Answer := do
  let known ← Action.step reference.resolve
  match known with
  | some key =>
      let removed ← Action.step ((host play setting.catalog number).unregister key)
      return .truth removed
  | none => return .truth false

/-- Tells whether there is a registration that a reference stands for. -/
def askingRegistered (reference : KeyRef) : Action World Empty Answer := do
  let known ← Action.step reference.resolve
  match known with
  | some key => Action.look fun world => .truth ((world.station number).bus.isRegistered key)
  | none => return .truth false

/-- Does something a number of times, one after the other; a refusal goes unnoticed. -/
def repeating {α : Type} (action : Nat → Action World BusError α) (times : Nat) :
    Action World BusError Unit := do
  (List.range times).forM fun round world =>
    match action round world with
    | (.error (.panicked payload), after) => (.error (.panicked payload), after)
    | (_, after) => (.ok (), after)

/-- Adds a listener that does nothing but count its runs. -/
def addCounting (counter : Counter) (kind : Kind) (priority : Priority) :
    Action World BusError ListenerId :=
  (host play setting.catalog number).addListener kind priority false (anonymous kind)
    ⟨none, .part kind, counter, ⟨[], none⟩, false⟩

/-- Posts a new event of a kind and drops it. -/
def postFresh (kind : Kind) : Action World BusError Unit := fun world =>
  let event := setting.catalog.make ⟨kind.id, [], false⟩
  match (host play setting.catalog number).post (event, world) with
  | (outcome, _, after) => (outcome, after)

/-- The priority of a caller's listener in one of its rounds. -/
def turn (caller round : Nat) : Priority :=
  Priority.all.getD ((caller + round) % Priority.all.length) .normal

/-- One round of one caller. -/
def Crowd.act (counter : Counter) (kind : Kind) (caller : Nat) (round : Nat) :
    Crowd → Action World BusError Unit
  | add => do
      let _ ← addCounting play setting number counter kind (turn caller round)
  | churn => do
      let id ← addCounting play setting number counter kind (turn caller round)
      let _ ← Action.step ((host play setting.catalog number).unregister (.listener id))
  | register subscriber label => do
      let owner ← Action.step fun world => world.object label subscriber
      (host play setting.catalog number).register (.object owner label)
        (setting.subscriberClass owner) label
  | nodeFor => do
      let _ ← (host play setting.catalog number).nodeFor kind

/-- Lets all callers do all of their rounds. What they achieve together does not depend on
how their rounds interleave. -/
def Crowd.carryOut (crowd : Crowd) (kind : Kind) (callers rounds : Nat) :
    Action World BusError Answer := do
  let counter ← Action.step World.newCounter
  repeating (fun caller =>
    repeating (fun round => crowd.act play setting number counter kind caller round) rounds)
    callers
  match crowd with
  | add => repeating (fun _ => postFresh play setting number kind) 1
  | _ => pure ()
  let listeners ← (host play setting.catalog number).listenerCount kind
  let runs ← Action.look fun world => world.runsOf counter
  return .crowd listeners runs

/-- The recorded listeners of a key stand in the array of a kind exactly as far as they are
for this kind or for one above it; without a record none is there. -/
def agrees (bus : Bus Body) (key : Key) (kind : Kind) (array : List (Listener Body)) : Bool :=
  let recorded := (bus.registered? key).getD []
  let concerned := recorded.filter fun listener => kind.ancestors.any listener.kind.sameAs
  concerned.all (fun listener => array.any fun entry => entry.id = listener.id) &&
    array.all fun entry => (bus.registeredListeners.any fun listener => listener.id = entry.id)

/-- Registers an object and unregisters it again; tells whether table and lists agreed. -/
def raceRound (key : Key) (subscriber : ScenarioClass) (label : String) (kind : Kind) :
    Action World BusError Bool := do
  let bus := host play setting.catalog number
  repeating (fun _ => bus.register key subscriber label) 1
  let node ← bus.nodeFor kind
  let during ← bus.flattened node
  let agreedDuring ← Action.look fun world => agrees (bus.bus world) key kind during
  let _ ← Action.step (bus.unregister key)
  let after ← bus.flattened node
  let agreedAfter ← Action.look fun world => agrees (bus.bus world) key kind after
  return agreedDuring && agreedAfter

/-- Counts the rounds of a race that agreed and the listeners left over. -/
def race (key : Key) (subscriber : ScenarioClass) (label : String) (kind : Kind)
    (rounds : Nat) : Action World BusError Answer := do
  let bus := host play setting.catalog number
  let before ← bus.listenerCount kind
  let agreed ← Action.forEach (fun _ => raceRound play setting number key subscriber label kind)
    (List.range rounds)
  let after ← bus.listenerCount kind
  return .race (agreed.filter fun round => round).length (after - before)

/-- Adds a counting listener in each round and counts the listeners of the kind. -/
def countTogether (kind : Kind) (rounds : Nat) : Action World BusError Answer := do
  let bus := host play setting.catalog number
  let counter ← Action.step World.newCounter
  let before ← bus.listenerCount kind
  let exact ← Action.forEach (fun round => do
      let _ ← addCounting play setting number counter kind .normal
      let count ← bus.listenerCount kind
      return count == before + round + 1) (List.range rounds)
  let count ← bus.listenerCount kind
  return .readings (exact.all fun right => right) count

/-- Carries out a command on a bus. -/
def perform : Command → Action World Empty Answer
  | .add tag kind priority receivesCanceled via instructions limit? =>
      answering .listener (addTagged play setting number tag (setting.kind kind) priority
        receivesCanceled via ⟨instructions, limit?⟩)
  | .register subscriber label => do
      let owner ← Action.step fun world => world.object label subscriber
      answering (fun _ => .done) ((host play setting.catalog number).register
        (.object owner label) (setting.subscriberClass owner) label)
  | .registerType subscriber =>
      answering (fun _ => .done) ((host play setting.catalog number).registerType
        (.type subscriber) (setting.subscriberClass subscriber))
  | .unregister key => unregistering play setting number key
  | .isRegistered key => askingRegistered number key
  | .keep name spec => do
      Action.change fun world => world.keep name (setting.catalog.make spec)
      return .done
  | .view name => Action.look fun world =>
      .event (EventRef.resolve setting world (.kept name)).snapshot
  | .post event handover =>
      posting setting (host play setting.catalog number).post event handover
  | .postPhase phase event handover =>
      posting setting ((host play setting.catalog number).postPhase phase) event handover
  | .count kind =>
      answering .count ((host play setting.catalog number).listenerCount (setting.kind kind))
  | .start => do
      Action.change (host play setting.catalog number).start
      Action.look fun world => .truth (world.station number).bus.isShutdown
  | .isShutdown => Action.look fun world => .truth (world.station number).bus.isShutdown
  | .config => Action.look fun world => .config (world.station number).bus.config
  | .text => Action.look fun world => .text (world.station number).bus.text
  | .nodes => Action.look fun world =>
      .nodes ((world.station number).bus.index.nodes.map NodeSummary.of)
  | .flattened kind phase? => answering .entries (do
      let id ← (host play setting.catalog number).nodeFor (setting.kind kind)
      let listeners ← match phase? with
        | some phase => (host play setting.catalog number).phaseListeners id phase
        | none => (host play setting.catalog number).flattened id
      return listeners.map EntrySummary.of)
  | .metrics => Action.look fun world => .metrics (world.station number).bus.metrics?
  | .crowd crowd kind callers rounds =>
      answering id (crowd.carryOut play setting number (setting.kind kind) callers rounds)
  | .race subscriber label kind rounds => do
      let owner ← Action.step fun world => world.object label subscriber
      answering id (race play setting number (.object owner label)
        (setting.subscriberClass owner) label (setting.kind kind) rounds)
  | .countTogether kind rounds =>
      answering id (countTogether play setting number (setting.kind kind) rounds)

end Commands

/-- Carries out a step, with nesting up to a depth; deeper nesting ends in a panic. -/
def play (setting : Setting) : Nat → Player
  | 0, _ => Action.panicking ⟨none⟩
  | depth + 1, ⟨number, command⟩ => perform (play setting depth) setting number command

/-- The depth of nesting that scenarios get. -/
def maxDepth : Nat := 10000

/-- What a step of a scenario came to. -/
structure StepReport where
  /-- The answer, or the panic that ended the step. -/
  ended : Except Panic Answer
  /-- What happened, in order. -/
  remarks : List Remark
  /-- What the buses told, in order. -/
  notices : List Notice

/-- Carries out one step on a world with an empty record. -/
def report (setting : Setting) (step : Step) (world : World) : StepReport × World :=
  match play setting maxDepth step world.forget with
  | (outcome, after) =>
      let ended := match outcome with
        | .ok answer => .ok answer
        | .error (.panicked payload) => .error payload
      (⟨ended, after.remarks.reverse, after.notices.reverse⟩, after)

/-- Carries out steps one after the other. -/
def reports (setting : Setting) : List Step → World → List StepReport
  | [], _ => []
  | step :: rest, world =>
      let (first, after) := report setting step world
      first :: reports setting rest after

end Scenario
end EventRelay
