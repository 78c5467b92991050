import EventRelay.Admission
import EventRelay.Bus
import EventRelay.Report
import EventRelay.Typed

/-!
# Hosts

A bus does not work alone. It lives in a state of its surroundings from which listener
identities are issued and to which it tells its notices; checkers, listener bodies and
the handler of failures are code of those surroundings and may themselves use the bus.

A host says how a bus is found in such a state and what that code does. Everything a
bus does is an action on states of its host.
-/

namespace EventRelay

/-- The surroundings of a bus: states have type `σ`, listener bodies type `β`. -/
structure Host (σ β : Type) where
  /-- The bus in a state. -/
  bus : σ → Bus β
  /-- The state with another value of the bus. -/
  withBus : Bus β → σ → σ
  /-- Number of listener identities issued so far. -/
  issued : σ → Nat
  /-- The state with another number of issued identities. -/
  withIssued : Nat → σ → σ
  /-- Takes notice of what the bus does. -/
  note : Notice → σ → σ
  /-- Decides which kinds the bus accepts. -/
  checker : Checker σ
  /-- Runs a listener body on an event. -/
  run : β → Handler σ
  /-- Is told of the failure of a listener. -/
  handle : Incident β → Action σ Empty Unit

namespace Host

variable {σ β : Type}

/-- What makes a host sensible: bus and identities are read back as they were written,
and neither of them changes when the other is written or a notice is taken. -/
structure Lawful (host : Host σ β) : Prop where
  bus_withBus : ∀ bus state, host.bus (host.withBus bus state) = bus
  bus_withIssued : ∀ count state, host.bus (host.withIssued count state) = host.bus state
  bus_note : ∀ notice state, host.bus (host.note notice state) = host.bus state
  issued_withIssued : ∀ count state, host.issued (host.withIssued count state) = count
  issued_withBus : ∀ bus state, host.issued (host.withBus bus state) = host.issued state
  issued_note : ∀ notice state, host.issued (host.note notice state) = host.issued state

/-- Issues the next listener identity. -/
def issueId (host : Host σ β) (state : σ) : ListenerId × σ :=
  (⟨host.issued state + 1⟩, host.withIssued (host.issued state + 1) state)

/-- Changes the bus. -/
def modify (host : Host σ β) (change : Bus β → Bus β) (state : σ) : σ :=
  host.withBus (change (host.bus state)) state

/-- Tells notices in order. -/
def noteAll (host : Host σ β) (notices : List Notice) (state : σ) : σ :=
  notices.foldl (fun current notice => host.note notice current) state

end Host
end EventRelay
