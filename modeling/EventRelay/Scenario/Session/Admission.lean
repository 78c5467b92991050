import EventRelay.Scenario.Steps

/-!
# Trying out the admission checks

Kinds and subscriber classes are put to the checks of a bus without being registered.
-/

namespace EventRelay
namespace Scenario
namespace AdmissionSession

/-- What the checks say about a kind. -/
structure TargetReport where
  name : String
  /-- Whether listeners may be registered for it. -/
  target : Except BusError Unit
  /-- Whether the checker accepts it. -/
  accepted : Except BusError Unit

/-- What the checks say about a method. -/
structure MethodReport where
  method : ListenerMethod String Body
  /-- The kind it listens to, by name. -/
  check : Except BusError String
  /-- Whether it can be bound to an object. -/
  withObject : Except BusError Unit
  /-- Whether it can be bound to none. -/
  withoutObject : Except BusError Unit

/-- What the checks say about a class. -/
structure ClassReport where
  subscriber : ScenarioClass
  /-- Methods to register for an object, by name. -/
  forObject : Except BusError (List String)
  /-- Methods to register for the type, by name. -/
  forType : Except BusError (List String)
  /-- The methods one by one. -/
  methods : List MethodReport

/-- What the checks say about everything. -/
structure Report where
  targets : List TargetReport
  classes : List ClassReport

/-- Takes the end of a check for its answer. -/
def judging {α : Type} (action : Action World BusError α) :
    Action World Empty (Except BusError α) := fun world =>
  match action world with
  | (.ok result, after) => (.ok (.ok result), after)
  | (.error (.raised error), after) => (.ok (.error error), after)
  | (.error (.panicked payload), after) => (.error (.panicked payload), after)

/-- Checks a kind. -/
def checkKind (checker : Checker World) (kind : Kind) : Action World Empty TargetReport := do
  let target ← judging (Admission.checkTarget checker kind)
  let accepted ← judging (Admission.checkAccepted checker kind)
  return ⟨kind.name, target, accepted⟩

/-- Checks a method. -/
def checkMethod (checker : Checker World) (subscriber : String)
    (method : ListenerMethod String Body) : Action World Empty MethodReport := do
  let check ← judging (Admission.checkMethod checker subscriber method)
  return {
    method := method
    check := check.map Kind.name
    withObject := (method.bind subscriber (some "object")).map fun _ => ()
    withoutObject := (method.bind subscriber none).map fun _ => () }

/-- Checks a class. -/
def checkClass (checker : Checker World) (subscriber : ScenarioClass) :
    Action World Empty ClassReport := do
  let methods ← Action.forEach (checkMethod checker subscriber.name) subscriber.methods
  let names (shape : Shape) : Except BusError (List String) :=
    (Admission.select subscriber shape).map fun selected => selected.map ListenerMethod.name
  return ⟨subscriber, names .object, names .type, methods⟩

/-- Checks kinds and then classes. -/
def checkAll (checker : Checker World) (kinds : List Kind) (classes : List ScenarioClass) :
    Action World Empty Report := do
  let targets ← Action.forEach (checkKind checker) kinds
  let checked ← Action.forEach (checkClass checker) classes
  return ⟨targets, checked⟩

/-- A method that is bound as it should be: to an object unless it belongs to the type. -/
def bindAsDeclared (subscriber : String) (method : ListenerMethod String Body) :
    Except BusError Unit :=
  (method.bind subscriber (if method.isStatic then none else some "object")).map fun _ => ()

/-- A whole session; it ends with a report and what was recorded, or with a panic. -/
def run (setting : Setting) (checker : CheckerSpec) (kinds classes : List String) :
    Except Panic (Report × List Remark) :=
  let world := World.create [{ Station.plain with checker := checker }]
  let bus := host (play setting maxDepth) setting.catalog 0
  match checkAll bus.checker (kinds.map setting.kind) (classes.map setting.subscriberClass)
    world with
  | (.ok report, after) => .ok (report, after.remarks.reverse)
  | (.error (.panicked payload), _) => .error payload

end AdmissionSession
end Scenario
end EventRelay
