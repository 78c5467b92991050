import EventRelay.Scenario.Steps

/-!
# Setting up a scenario

How a scenario describes its buses and its surroundings.
-/

namespace EventRelay
namespace Scenario

/-- What surrounds all buses: a setting that can force dispatch checks. It may be missing or
not be a text at all. -/
structure Surroundings where
  /-- The setting, if it is a text. -/
  forceSetting? : Option String

/-- Dispatch checks are forced on all buses. -/
def Surroundings.forcesChecks (surroundings : Surroundings) : Bool :=
  surroundings.forceSetting?.any BusConfig.isOn

/-- How a scenario describes a bus. -/
structure BusSpec where
  /-- The configuration to start from. -/
  config : BusConfig := {}
  /-- Switches that are turned on in addition. -/
  switchedOn : BusConfig := {}
  checker : CheckerSpec := .acceptAll
  handler : HandlerSpec := .logging
  /-- What the names of the metrics start with, if the bus keeps any. -/
  metricsStem? : Option String := none

namespace BusSpec

/-- The configuration that the bus gets. -/
def finalConfig (spec : BusSpec) : BusConfig where
  startShutdown := spec.config.startShutdown || spec.switchedOn.startShutdown
  checksTypes := spec.config.checksTypes || spec.switchedOn.checksTypes
  allowsPhasePosts := spec.config.allowsPhasePosts || spec.switchedOn.allowsPhasePosts

/-- The description of a bus that is not built yet as a structured text. -/
def text (spec : BusSpec) : String :=
  Text.openRecord "BusBuilder" [Text.field "config" spec.finalConfig.text]

/-- The bus. -/
def bus (spec : BusSpec) (surroundings : Surroundings) : Bus Body :=
  .create spec.finalConfig surroundings.forcesChecks (spec.metricsStem?.bind Metrics.create?)

/-- The bus with its checker and handler. -/
def station (spec : BusSpec) (surroundings : Surroundings) : Station :=
  ⟨spec.bus surroundings, spec.checker, spec.handler, 0⟩

end BusSpec

/-- Carries out the steps of a scenario on its buses. -/
def run (setting : Setting) (surroundings : Surroundings) (buses : List BusSpec)
    (steps : List Step) : List StepReport :=
  reports setting steps
    (.create (buses.map fun spec => spec.station surroundings))

/-- The version of the library. -/
def version : String := "0.1.0"

end Scenario
end EventRelay
