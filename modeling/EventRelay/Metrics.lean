/-!
# Metrics

Three counters and a gauge that describe the activity of one bus, and a registry in
which each metric name can be taken once.
-/

namespace EventRelay

/-- The activity of one bus. -/
structure Metrics where
  /-- What the names of all four metrics start with. -/
  stem : String
  /-- Dispatches so far. -/
  posts : Nat
  /-- Listener bodies entered so far. -/
  invocations : Nat
  /-- Dispatches that a listener ended by failing. -/
  failures : Nat
  /-- Listeners registered now. -/
  listeners : Int
  deriving DecidableEq

/-- One metric as a registry holds it. -/
structure Family where
  /-- Name, unique in a registry. -/
  name : String
  /-- What is counted. -/
  help : String
  value : Int
  deriving DecidableEq

namespace Metrics

/-- Characters that a metric name may start with. -/
def startsName (character : Char) : Bool :=
  character.isAlpha || character = '_' || character = ':'

/-- A name of ASCII letters, digits, underscores and colons that does not start with a
digit. -/
def isName (name : String) : Bool :=
  match name.toList with
  | [] => false
  | first :: rest =>
      startsName first && rest.all fun character => startsName character || character.isDigit

/-- The metrics as a registry shows them, in the order in which they are registered. -/
def families (metrics : Metrics) : List Family := [
  ⟨metrics.stem ++ "_posts_total", "Events posted", metrics.posts⟩,
  ⟨metrics.stem ++ "_listener_invocations_total", "Listener bodies run", metrics.invocations⟩,
  ⟨metrics.stem ++ "_listener_failures_total", "Listener invocations that failed",
    metrics.failures⟩,
  ⟨metrics.stem ++ "_registered_listeners", "Listeners currently registered",
    metrics.listeners⟩]

/-- Metrics at zero; refused when their names are no metric names. -/
def create? (stem : String) : Option Metrics :=
  let metrics : Metrics := ⟨stem, 0, 0, 0, 0⟩
  if metrics.families.all fun family => isName family.name then some metrics else none

/-- Counts a dispatch that entered some listener bodies. -/
def recordPost (metrics : Metrics) (ran : Nat) : Metrics :=
  { metrics with posts := metrics.posts + 1, invocations := metrics.invocations + ran }

/-- Counts a failure. -/
def recordFailure (metrics : Metrics) : Metrics :=
  { metrics with failures := metrics.failures + 1 }

/-- Counts listeners that were registered. -/
def addListeners (metrics : Metrics) (count : Nat) : Metrics :=
  { metrics with listeners := metrics.listeners + count }

/-- Counts listeners that were removed. -/
def removeListeners (metrics : Metrics) (count : Nat) : Metrics :=
  { metrics with listeners := metrics.listeners - count }

end Metrics

/-- A collection of metrics with distinct names. -/
structure Registry where
  /-- The metrics, in the order in which they were registered. -/
  families : List Family

namespace Registry

/-- A registry that holds nothing. -/
def empty : Registry := ⟨[]⟩

/-- A metric of this name is present. -/
def takes (registry : Registry) (name : String) : Bool :=
  registry.families.any fun family => family.name = name

/-- Adds metrics one by one up to the first whose name is taken; tells whether all were
added. -/
def addAll (registry : Registry) : List Family → Registry × Bool
  | [] => (registry, true)
  | family :: rest =>
      if registry.takes family.name then (registry, false)
      else addAll ⟨registry.families ++ [family]⟩ rest

/-- Adds the four metrics of a bus. -/
def register (registry : Registry) (metrics : Metrics) : Registry × Bool :=
  registry.addAll metrics.families

/-- The metrics by name. -/
def sorted (registry : Registry) : List Family :=
  registry.families.mergeSort fun first second => first.name ≤ second.name

end Registry
end EventRelay
