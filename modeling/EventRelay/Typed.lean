import EventRelay.Action
import EventRelay.Event

/-!
# Typed listeners

A listener that is written for the events of one kind is given any event that the bus
dispatches. It works on the event's part of its kind, which is changed in its place; an
event without such a part is an error that names both kinds.
-/

namespace EventRelay

/-- What a listener does to an event, in surroundings of type `σ`. -/
abbrev Handler (σ : Type) := Action (Event × σ) ListenerError Unit

namespace Handler

variable {σ : Type}

/-- Handles any event by handling its part of one kind. -/
def forKind (kind : Kind) (handler : Handler σ) : Handler σ := fun (event, state) =>
  match event.view? kind.id with
  | none => (.error (.raised (.eventMismatch kind.name event.kind.name)), event, state)
  | some view =>
      match handler (view, state) with
      | (outcome, changed, after) => (outcome, Event.putView kind.id changed event, after)

/-- Drops announced errors; panics stay. -/
def forgiving (handler : Handler σ) : Handler σ := fun start =>
  match handler start with
  | (.error (.raised _), after) => (.ok (), after)
  | ended => ended

theorem forKind_of_view?_eq_none {kind : Kind} {event : Event}
    (noView : event.view? kind.id = none) (handler : Handler σ) (state : σ) :
    forKind kind handler (event, state) =
      (.error (.raised (.eventMismatch kind.name event.kind.name)), event, state) := by
  simp [forKind, noView]

theorem forKind_of_view?_eq_some {kind : Kind} {event view : Event}
    (hasView : event.view? kind.id = some view) (handler : Handler σ) (state : σ) :
    forKind kind handler (event, state) =
      ((handler (view, state)).1,
        Event.putView kind.id (handler (view, state)).2.1 event,
        (handler (view, state)).2.2) := by
  simp [forKind, hasView]

end Handler
end EventRelay
