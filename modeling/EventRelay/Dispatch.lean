import EventRelay.Registration

/-!
# Posting events

A post runs the listeners of the event's kind one after the other, in the order of the
array as it is when the dispatch begins. The first listener that fails ends the
dispatch: the failure is counted, the handler is told, and the poster receives the
failure, or the panic if it was one.

While a bus is shut down, posts are ignored.
-/

namespace EventRelay

/-- How the run through an array of listeners ended. -/
structure RunEnd (β : Type) where
  /-- Number of listener bodies entered. -/
  ran : Nat
  /-- The listener that ended the run, its position and how it ended. -/
  failure? : Option (Nat × Listener β × Stop ListenerError)

/-- The error that stands for a bad end of a listener. -/
def Stop.listenerError : Stop ListenerError → ListenerError
  | raised error => error
  | panicked payload => .ofPanic payload

namespace Host

variable {σ β : Type}

/-- Invokes a listener. One that checks for cancellation passes over a canceled event. -/
def invoke (host : Host σ β) (listener : Listener β) : Handler σ := fun state =>
  if listener.runsFor state.1 then host.run listener.body state else (.ok (), state)

/-- Runs listeners in order up to the first bad end. Whether a body is going to be entered is
found out, and counted, before the listener is invoked. Counting starts at the given numbers. -/
def runInOrder (host : Host σ β) :
    List (Listener β) → Nat → Nat → Event × σ → RunEnd β × Event × σ
  | [], _, ran, state => (⟨ran, none⟩, state)
  | listener :: rest, index, ran, state =>
      let counted := if listener.runsFor state.1 then ran + 1 else ran
      match host.invoke listener state with
      | (.ok (), changed) => host.runInOrder rest (index + 1) counted changed
      | (.error stop, changed) => (⟨counted, some (index, listener, stop)⟩, changed)

/-- Hands a failure on to the poster. -/
def resume (index : Nat) (listener : Listener β) : Stop ListenerError → Stop BusError
  | .raised error => .raised (.listenerFailed index listener.description error)
  | .panicked payload => .panicked payload

/-- Counts a failure and tells the handler. -/
def reportFailure (host : Host σ β) (incident : Incident β) : Action σ Empty Unit :=
  fun state => host.handle incident (host.modify Bus.recordFailure state)

/-- Dispatches an event to an array of listeners. -/
def dispatch (host : Host σ β) (listeners : List (Listener β)) :
    Action (Event × σ) BusError Unit := fun start =>
  let (runEnd, event, after) := host.runInOrder listeners 0 0 start
  let counted := host.modify (fun bus => bus.recordPost runEnd.ran) after
  match runEnd.failure? with
  | none => (.ok (), event, counted)
  | some (index, listener, stop) =>
      match host.reportFailure ⟨event, listeners, index, stop.listenerError⟩ counted with
      | (.ok (), reported) => (.error (resume index listener stop), event, reported)
      | (.error (.panicked payload), reported) =>
          (.error (.panicked payload), event, reported)

/-- The node that a post of a kind reads, unless the post is refused. -/
def nodeForPost (host : Host σ β) (kind : Kind) : Action σ BusError Nat := do
  if kind.isAbstract then Action.raise (.abstractEvent kind.name)
  if ← Action.look fun state => (host.bus state).checksTypes then
    Admission.checkAccepted host.checker kind
  host.nodeFor kind

/-- Posts the event that stands beside the state. -/
def post (host : Host σ β) : Action (Event × σ) BusError Unit := fun start =>
  if (host.bus start.2).isShutdown then (.ok (), start)
  else
    (do
      let id ← Action.onSecond (host.nodeForPost start.1.kind)
      let listeners ← Action.onSecond (host.flattened id)
      host.dispatch listeners : Action (Event × σ) BusError Unit) start

/-- Posts the event that stands beside the state to the listeners of one priority. -/
def postPhase (host : Host σ β) (phase : Priority) : Action (Event × σ) BusError Unit :=
  fun start =>
    if !(host.bus start.2).config.allowsPhasePosts then
      (.error (.raised .perPhasePostDisabled), start)
    else if (host.bus start.2).isShutdown then (.ok (), start)
    else
      (do
        let id ← Action.onSecond (host.nodeForPost start.1.kind)
        let listeners ← Action.onSecond (host.phaseListeners id phase)
        host.dispatch listeners : Action (Event × σ) BusError Unit) start

end Host
end EventRelay
