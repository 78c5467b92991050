import EventRelay.Scenario.Steps

/-!
# Trying out metrics

A bus counts its posts; its metrics and a second set are then registered in one
registry.
-/

namespace EventRelay
namespace Scenario
namespace MetricsSession

/-- What a session came to. -/
structure Report where
  /-- The first set was registered. -/
  first : Bool
  /-- The second set was made and registered. -/
  second : Bool
  /-- The registry at the end, by name. -/
  families : List Family

/-- The metrics of a bus after posting the same event a number of times. -/
def postTimes (setting : Setting) (metrics : Metrics) (event : EventSpec) (posts : Nat) :
    Metrics :=
  let bus := host (play setting maxDepth) setting.catalog 0
  let world := World.create [{ Station.plain with bus := .create {} false (some metrics) }]
  let after := (List.range posts).foldl
    (fun world _ => (bus.post (setting.catalog.make event, world)).2.2) world
  (bus.bus after).metrics?.getD metrics

/-- A whole session; nothing if the first set has no proper names. -/
def run (setting : Setting) (stem second : String) (event : EventSpec) (posts : Nat) :
    Option Report :=
  (Metrics.create? stem).map fun metrics =>
    let (registry, first) := Registry.empty.register (postTimes setting metrics event posts)
    match Metrics.create? second with
    | none => ⟨first, false, registry.sorted⟩
    | some others =>
        let (filled, added) := registry.register others
        ⟨first, added, filled.sorted⟩

end MetricsSession
end Scenario
end EventRelay
