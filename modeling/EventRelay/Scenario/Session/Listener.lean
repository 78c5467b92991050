import EventRelay.Scenario.Steps

/-!
# Trying out listeners

Sessions on listeners that belong to no bus: they are made in order, work on whole
events, and are known by tags.
-/

namespace EventRelay
namespace Scenario

/-- How a session describes a listener. -/
structure ListenerSpec where
  tag : String
  /-- Identity of the kind that it listens to. -/
  kind : String
  priority : Priority
  receivesCanceled : Bool
  description : String
  script : Script

/-- Listeners by tag. -/
abbrev Tagged := List (String × Listener Body)

/-- Makes the listener with a number, counted from one. -/
def ListenerSpec.make (spec : ListenerSpec) (catalog : Catalog) (number : Nat) :
    Listener Body :=
  .create ⟨number⟩ (catalog.kind spec.kind) spec.priority spec.receivesCanceled
    spec.description ⟨some spec.tag, .whole, .listener number, spec.script, false⟩

/-- Makes listeners in order; a tag given twice names the later one. -/
def makeListeners (catalog : Catalog) (specs : List ListenerSpec) : Tagged :=
  (specs.mapIdx fun position spec => (spec.tag, spec.make catalog (position + 1))).reverse

/-- All listeners in the order in which they were made. -/
def madeListeners (catalog : Catalog) (specs : List ListenerSpec) : List (Listener Body) :=
  specs.mapIdx fun position spec => spec.make catalog (position + 1)

/-- The listener with a tag. -/
def Tagged.find (tagged : Tagged) (tag : String) : Listener Body :=
  (tagged.lookup tag).getD
    (.create ⟨0⟩ (Catalog.undeclared tag) .normal false tag
      ⟨none, .whole, .listener 0, ⟨[], none⟩, false⟩)

namespace ListenerSession

/-- One step of a session on an event and tagged listeners. -/
inductive Step
  /-- Set the canceled state of the event. -/
  | cancel (state : Bool)
  /-- Invoke a listener on the event. -/
  | invoke (tag : String)
  /-- Tell whether a listener would run. -/
  | runsFor (tag : String)
  /-- Let a second tag name the unchecked form. -/
  | unwrap (tag newTag : String)
  | reveal (tag : String)
  /-- Show the identity of a listener. -/
  | showId (tag : String)
  /-- Compare two listeners by identity. -/
  | order (tag other : String)

/-- The answer to a step. -/
inductive Answer
  | canceled (outcome : Except BusError Unit)
  | invoked (outcome : Except ListenerError Unit) (event : Event.Snapshot)
  | truth (value : Bool)
  | unwrapped (same sameId : Bool)
  | listener (listener : Listener Body)
  | id (id : ListenerId)
  | order (order : Ordering)

/-- What a session works on. -/
structure State where
  event : Event
  tagged : Tagged
  /-- The rest. -/
  world : World

/-- Invokes a listener: its body runs unless the check for cancellation forbids it. -/
def invoke (setting : Setting) (listener : Listener Body) : Handler World :=
  fun (event, world) =>
  if listener.runsFor event then
    listener.body.run (play setting maxDepth) setting.catalog (event, world)
  else (.ok (), event, world)

/-- Carries out a step; it ends with an answer or with a panic. -/
def perform (setting : Setting) (state : State) : Step → Except Panic Answer × State
  | .cancel on =>
      match state.event.setCanceled on with
      | .ok changed => (.ok (.canceled (.ok ())), { state with event := changed })
      | .error error => (.ok (.canceled (.error error)), state)
  | .invoke tag =>
      match invoke setting (state.tagged.find tag) (state.event, state.world) with
      | (outcome, event, world) =>
          let after : State := { state with event := event, world := world }
          match outcome with
          | .ok () => (.ok (.invoked (.ok ()) event.snapshot), after)
          | .error (.raised error) => (.ok (.invoked (.error error) event.snapshot), after)
          | .error (.panicked payload) => (.error payload, after)
  | .runsFor tag => (.ok (.truth ((state.tagged.find tag).runsFor state.event)), state)
  | .unwrap tag newTag =>
      let listener := state.tagged.find tag
      let unwrapped := listener.unchecked
      (.ok (.unwrapped (!listener.checksCancellation) (unwrapped.id = listener.id)),
        { state with tagged := (newTag, unwrapped) :: state.tagged })
  | .reveal tag => (.ok (.listener (state.tagged.find tag)), state)
  | .showId tag => (.ok (.id (state.tagged.find tag).id), state)
  | .order tag other =>
      (.ok (.order (compare (state.tagged.find tag).id (state.tagged.find other).id)), state)

/-- Carries out steps one after the other, each with what it recorded. -/
def answers (setting : Setting) :
    List Step → State → List (Except Panic Answer × List Remark)
  | [], _ => []
  | step :: rest, state =>
      let (answer, after) := perform setting { state with world := state.world.forget } step
      (answer, after.world.remarks.reverse) :: answers setting rest after

end ListenerSession

namespace BucketSession

/-- One step of a session on a bucket. -/
inductive Step
  | add (tag : String)
  /-- Add the unchecked form of a listener. -/
  | addUnchecked (tag : String)
  | remove (tag : String)
  | removeAll (tags : List String)
  /-- Remove everything from a copy. -/
  | clearCopy

/-- The answer to a step. -/
inductive Result
  | none
  | truth (value : Bool)
  | copy (removed : Bool) (copySize remainingSize : Nat)

/-- Carries out a step. -/
def perform (tagged : Tagged) (bucket : Bucket Body) : Step → Result × Bucket Body
  | .add tag => (.none, bucket.add (tagged.find tag))
  | .addUnchecked tag => (.none, bucket.add (tagged.find tag).unchecked)
  | .remove tag =>
      let id := (tagged.find tag).id
      (.truth (bucket.contains id), bucket.remove id)
  | .removeAll tags =>
      let ids := tags.map fun tag => (tagged.find tag).id
      (.truth (bucket.containsAny ids), bucket.removeAll ids)
  | .clearCopy =>
      let ids := bucket.listeners.map Listener.id
      (.copy (bucket.containsAny ids) (bucket.removeAll ids).size bucket.size, bucket)

/-- Carries out steps one after the other, each with the bucket after it. -/
def answers (tagged : Tagged) : List Step → Bucket Body → List (Result × Bucket Body)
  | [], _ => []
  | step :: rest, bucket =>
      let (result, after) := perform tagged bucket step
      (result, after) :: answers tagged rest after

end BucketSession
end Scenario
end EventRelay
