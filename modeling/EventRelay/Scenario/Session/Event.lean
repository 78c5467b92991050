import EventRelay.Scenario.Catalog

/-!
# Trying out an event

A session on one event: it is looked at and changed step by step, as a whole and
through its views.
-/

namespace EventRelay
namespace Scenario
namespace EventSession

/-- One step of a session; kinds are given by identity. -/
inductive Step
  | snapshot
  | text
  /-- Tell whether the event can be viewed as a kind. -/
  | isA (kind : String)
  /-- Show value and canceled state of a view. -/
  | view (kind : String)
  /-- Add to the value of a view. -/
  | addIn (kind : String) (amount : Int)
  | cancel (state : Bool)
  /-- Set the canceled state through a view. -/
  | cancelIn (kind : String) (state : Bool)
  /-- Show the stored canceled state. -/
  | flag

/-- The answer to a step; nothing stands for a missing view or a missing place. -/
inductive Answer
  | snapshot (event : Event.Snapshot)
  | text (text : String)
  | truth (value : Bool)
  | view (view? : Option (Int × Bool))
  | value (value? : Option Int)
  | canceled (outcome? : Option (Except BusError Unit))
  | flag (state? : Option Bool)

/-- Sets the canceled state; the event stays as it is when that is refused. -/
def cancel (state : Bool) (event : Event) : Except BusError Unit × Event :=
  match event.setCanceled state with
  | .ok changed => (.ok (), changed)
  | .error error => (.error error, event)

/-- Carries out a step. -/
def perform (catalog : Catalog) (event : Event) : Step → Answer × Event
  | .snapshot => (.snapshot event.snapshot, event)
  | .text => (.text event.text, event)
  | .isA kind => (.truth (event.isViewableAs (catalog.kind kind).id), event)
  | .view kind =>
      (.view ((event.view? (catalog.kind kind).id).map fun view =>
        (view.value, view.isCanceled)), event)
  | .addIn kind amount =>
      let id := (catalog.kind kind).id
      let changed := event.changeView id (Event.addValue amount)
      (.value ((changed.view? id).map Event.value), changed)
  | .cancel state =>
      let (outcome, changed) := cancel state event
      (.canceled (some outcome), changed)
  | .cancelIn kind state =>
      let id := (catalog.kind kind).id
      match event.view? id with
      | none => (.canceled none, event)
      | some view =>
          let (outcome, changed) := cancel state view
          (.canceled (some outcome), Event.putView id changed event)
  | .flag => (.flag event.flag?, event)

/-- Carries out steps one after the other. -/
def answers (catalog : Catalog) : List Step → Event → List Answer
  | [], _ => []
  | step :: rest, event =>
      let (answer, changed) := perform catalog event step
      answer :: answers catalog rest changed

end EventSession
end Scenario
end EventRelay
