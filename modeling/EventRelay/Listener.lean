import EventRelay.Event
import EventRelay.Priority

/-!
# Listeners

A listener entry is a body together with what the bus needs to order it, to
filter it and to report it. The body is left abstract: the bus only hands it
back to whoever knows how to run it.

A listener that does not receive canceled events exists in two forms that share
one identity. The checking form is skipped for canceled events; the unchecked form
always runs, and is what a kind that can never be canceled is given.
-/

namespace EventRelay

/-- Identity of a listener. -/
structure ListenerId where
  /-- Position in the order of creation, counted from one. -/
  value : Nat
  deriving DecidableEq

namespace ListenerId

/-- Listeners made earlier have the smaller identity. -/
instance : Ord ListenerId :=
  ⟨fun first second => compare first.value second.value⟩

/-- The identity as a structured text. -/
def text (id : ListenerId) : String :=
  Text.wrapped "ListenerId" (toString id.value)

end ListenerId

/-- A listener with a body of type `β`. -/
structure Listener (β : Type) where
  /-- Identity, shared by both forms. -/
  id : ListenerId
  /-- Kind the listener is registered for. -/
  kind : Kind
  /-- Priority the listener is registered at. -/
  priority : Priority
  /-- The listener also wants canceled events. -/
  receivesCanceled : Bool
  /-- Text that names the listener in diagnostics. -/
  description : String
  /-- What runs. -/
  body : β
  /-- This form is skipped for canceled events. -/
  checksCancellation : Bool
  deriving DecidableEq

namespace Listener

variable {β : Type}

/-- A new entry checks for cancellation unless it wants canceled events. -/
def create (id : ListenerId) (kind : Kind) (priority : Priority) (receivesCanceled : Bool)
    (description : String) (body : β) : Listener β :=
  ⟨id, kind, priority, receivesCanceled, description, body, !receivesCanceled⟩

/-- The form that always runs. -/
def unchecked (listener : Listener β) : Listener β :=
  { listener with checksCancellation := false }

/-- The body of this form runs on an event. -/
def runsFor (listener : Listener β) (event : Event) : Bool :=
  !(listener.checksCancellation && event.isCanceled)

/-- The entry as a structured text. -/
def text (listener : Listener β) : String :=
  Text.record "EventListener" [
    Text.field "id" listener.id.text,
    Text.field "kind" (Text.Quoted.encode listener.kind.name),
    Text.field "priority" listener.priority.label,
    Text.field "receive_canceled" (Text.flag listener.receivesCanceled),
    Text.field "checks_cancellation" (Text.flag listener.checksCancellation),
    Text.field "description" (Text.Quoted.encode listener.description)]

@[simp] theorem unchecked_unchecked (listener : Listener β) :
    listener.unchecked.unchecked = listener.unchecked := rfl

@[simp] theorem id_unchecked (listener : Listener β) : listener.unchecked.id = listener.id := rfl

@[simp] theorem runsFor_unchecked (listener : Listener β) (event : Event) :
    listener.unchecked.runsFor event = true := by
  simp [runsFor, unchecked]

end Listener

/-- Listeners of one kind at one priority, in the order in which they were added. -/
structure Bucket (β : Type) where
  /-- The entries, the oldest first. -/
  listeners : List (Listener β)

namespace Bucket

variable {β : Type}

/-- A bucket without entries. -/
def empty : Bucket β := ⟨[]⟩

/-- Appends an entry; the same one may be added again. -/
def add (bucket : Bucket β) (listener : Listener β) : Bucket β :=
  ⟨bucket.listeners ++ [listener]⟩

/-- An entry with the identity is present. -/
def contains (bucket : Bucket β) (id : ListenerId) : Bool :=
  bucket.listeners.any fun entry => entry.id = id

/-- Removes the first entry with the identity, if there is one. -/
def remove (bucket : Bucket β) (id : ListenerId) : Bucket β :=
  ⟨bucket.listeners.eraseP fun entry => entry.id = id⟩

/-- An entry with one of the identities is present. -/
def containsAny (bucket : Bucket β) (ids : List ListenerId) : Bool :=
  bucket.listeners.any fun entry => ids.contains entry.id

/-- Removes every entry with one of the identities. -/
def removeAll (bucket : Bucket β) (ids : List ListenerId) : Bucket β :=
  ⟨bucket.listeners.filter fun entry => !ids.contains entry.id⟩

/-- Number of entries. -/
def size (bucket : Bucket β) : Nat := bucket.listeners.length

/-- There are no entries. -/
def isEmpty (bucket : Bucket β) : Bool := bucket.listeners.isEmpty

@[simp] theorem listeners_add (bucket : Bucket β) (listener : Listener β) :
    (bucket.add listener).listeners = bucket.listeners ++ [listener] := rfl

@[simp] theorem size_add (bucket : Bucket β) (listener : Listener β) :
    (bucket.add listener).size = bucket.size + 1 := by
  simp [size]

end Bucket
end EventRelay
