import EventRelay.Dispatch
import EventRelay.Scenario.Subscribers

/-!
# Playing scripts

How the listener bodies, checkers and handlers of a scenario run. They can carry out
steps themselves, so each of them is given the function that carries out a step.
-/

namespace EventRelay
namespace Scenario

/-- Carries out a step; ends with its answer or with a panic. -/
abbrev Player := Step → Action World Empty Answer

/-- Carries out steps inside of something else and records their answers. -/
def playInside (play : Player) : List Step → Action World Empty Unit
  | [] => pure ()
  | step :: rest => do
      let answer ← play step
      Action.change fun world => world.remark (.answered answer)
      playInside play rest

namespace Instruction

/-- Changes the event. -/
def changing (change : Event → Event) : Action (Event × World) Thrown Bool :=
    fun (view, world) =>
  (.ok true, change view, world)

/-- Ends well or goes on. -/
def goOnIf (condition : Event → Bool) : Action (Event × World) Thrown Bool :=
  Action.look fun (view, _) => condition view

/-- Sets the canceled state. -/
def canceling (state : Bool) : Action (Event × World) Thrown Bool := fun (view, world) =>
  match view.setCanceled state with
  | .ok changed => (.ok true, changed, world)
  | .error error => (.error (.raised (.bus error)), view, world)

/-- Sets the canceled state and records what came of it. -/
def tryingToCancel (state : Bool) : Action (Event × World) Thrown Bool := fun (view, world) =>
  match view.setCanceled state with
  | .ok changed => (.ok true, changed, world.remark (.triedCancel none))
  | .error error => (.ok true, view, world.remark (.triedCancel (some error)))

/-- Carries out a step and records its answer. -/
def stepping (play : Player) (step : Step) (handsOn : Bool) :
    Action (Event × World) Thrown Bool := do
  let answer ← ((play step).mapError Empty.elim).onSecond
  Action.change fun (view, world) => (view, world.remark (.answered answer))
  match answer.error? with
  | some error => if handsOn then Action.raise (.bus error) else pure true
  | none => pure true

/-- Follows one instruction; the answer is whether to go on. -/
def follow (play : Player) (catalog : Catalog) :
    Instruction → Action (Event × World) Thrown Bool
  | add amount => changing (Event.addValue amount)
  | set value => changing (Event.setValue value)
  | scale factor => changing fun view => view.setValue (view.value * factor)
  | addIn kind amount =>
      changing fun view => view.changeView (catalog.kind kind).id (Event.addValue amount)
  | cancel state => canceling state
  | tryCancel state => tryingToCancel state
  | stopUnlessAbove bound => goOnIf fun view => bound < view.value
  | refuseBelow bound complaint => do
      let value ← Action.look fun (view, _) => view.value
      if value < bound then Action.raise (.text (complaint ++ toString value)) else pure true
  | fail thrown => Action.raise thrown
  | panic payload => Action.panicking payload
  | step inner handsOn => stepping play inner handsOn

/-- Follows instructions in order until one fails or ends the run. -/
def followAll (play : Player) (catalog : Catalog) :
    List Instruction → Action (Event × World) Thrown Unit
  | [] => pure ()
  | first :: rest => do
      if ← follow play catalog first then followAll play catalog rest

end Instruction

namespace Body

/-- Records the run of a body on a view and counts it; the answer is the number of runs
before it. -/
def enter (body : Body) : Action (Event × World) Thrown Nat := fun (view, world) =>
  let recorded := match body.tag? with
    | some tag => world.remark (.ran tag view.kind.name view.isCanceled view.value)
    | none => world
  (.ok (world.runsOf body.counter), view, recorded.countRun body.counter)

/-- Runs a body on the view that it works on. -/
def runOn (play : Player) (catalog : Catalog) (body : Body) : Handler World :=
  let action : Action (Event × World) Thrown Unit := do
    let earlier ← body.enter
    if body.script.appliesTo earlier then
      Instruction.followAll play catalog body.script.instructions
  let handler : Handler World := action.mapError ListenerError.ofThrown
  if body.isLenient then handler.forgiving else handler

/-- Runs a body on an event. -/
def run (play : Player) (catalog : Catalog) (body : Body) : Handler World :=
  match body.viewing with
  | .whole => runOn play catalog body
  | .part kind => (runOn play catalog body).forKind kind

end Body

/-- Asks the checker of a bus. -/
def CheckerSpec.checker (play : Player) (number : Nat) : CheckerSpec → Checker World
  | .acceptAll => .acceptAll
  | .marker required => .requiring required
  | .scripted steps limit reasons => fun kind => do
      Action.change fun world => world.remark (.checked kind.name)
      let earlier ← Action.look fun world => (world.station number).asked
      Action.change fun world =>
        world.changeStation number fun station => { station with asked := station.asked + 1 }
      if earlier < limit then (playInside play steps).mapError Empty.elim
      match reasons.lookup kind.name with
      | some reason => Action.raise reason
      | none => pure ()

/-- Tells the handler of a bus. -/
def HandlerSpec.handle (play : Player) (incident : Incident Body) :
    HandlerSpec → Action World Empty Unit
  | .logging => Action.change fun world =>
      world.notice (.failed incident.event.kind.name incident.index incident.report)
  | .scripted steps panic? => do
      Action.change fun world =>
        world.remark (.handled incident.event.kind.name incident.event.isCanceled
          incident.index incident.listeners.length incident.error incident.report)
      playInside play steps
      match panic? with
      | some payload => Action.panicking payload
      | none => pure ()

/-- The surroundings of a bus in a world. -/
def host (play : Player) (catalog : Catalog) (number : Nat) : Host World Body where
  bus world := (world.station number).bus
  withBus bus world := world.changeStation number fun station => { station with bus := bus }
  issued := World.issued
  withIssued count world := { world with issued := count }
  note notice world := world.notice notice
  checker kind world := (world.station number).checker.checker play number kind world
  run := Body.run play catalog
  handle incident world := (world.station number).handler.handle play incident world

end Scenario
end EventRelay
