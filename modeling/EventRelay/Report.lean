import EventRelay.Listener

/-!
# Failure reports

What is known when a listener fails, and a text of several lines that tells it.
-/

namespace EventRelay

/-- The failure of a listener during a dispatch. -/
structure Incident (β : Type) where
  /-- The event as the failing listener left it. -/
  event : Event
  /-- The dispatched array. -/
  listeners : List (Listener β)
  /-- Position of the failing listener. -/
  index : Nat
  /-- What went wrong. -/
  error : ListenerError

namespace Incident

variable {β : Type}

/-- The line of one listener. -/
def listenerLine (position : Nat) (listener : Listener β) : String :=
  "\n\t\t" ++ toString position ++ ": " ++ listener.priority.name ++ " " ++ listener.description

/-- The lines of all listeners, counted from a position on. -/
def listenerLines : Nat → List (Listener β) → String
  | _, [] => ""
  | position, listener :: rest =>
      listenerLine position listener ++ listenerLines (position + 1) rest

/-- The failure with every listener of the dispatch. -/
def report (incident : Incident β) : String :=
  "Exception caught during firing event " ++ incident.event.kind.name ++ ": " ++
    incident.error.message ++ "\n\tIndex: " ++ toString incident.index ++ "\n\tListeners:" ++
    listenerLines 0 incident.listeners

end Incident
end EventRelay
