import EventRelay.Kind
import EventRelay.Failure

/-!
# Events

An event is a chain of parts, one for each kind it is made of, the most specific
first. Each part holds a value and may hold the canceled state. A part that embeds
the part of its parent kind makes all that the parent kind offers available; a part
at the end of the chain embeds nothing, whatever its kind's parent is.

Viewing an event as a kind gives the part of that kind together with everything
embedded in it, which is an event of that kind. The canceled state of an event is
stored in the outermost ancestor part that has room for it.
-/

namespace EventRelay

/-- What an event holds at one level of its hierarchy. -/
structure Part where
  kind : Kind
  /-- The part's own data. -/
  value : Int
  /-- The canceled state, if the part stores one. -/
  flag : Option Bool
  deriving DecidableEq

/-- A chain of parts. -/
inductive Event
  /-- A part that embeds no other. -/
  | last (part : Part)
  /-- A part that embeds the event of a more general kind. -/
  | extend (part : Part) (base : Event)
  deriving DecidableEq

namespace Event

/-- The most specific part. -/
def own : Event → Part
  | last part => part
  | extend part _ => part

/-- The same chain with another most specific part. -/
def withOwn (part : Part) : Event → Event
  | last _ => last part
  | extend _ base => extend part base

/-- Kind of the event. -/
def kind (event : Event) : Kind := event.own.kind

/-- All parts, the most specific first. -/
def parts : Event → List Part
  | last part => [part]
  | extend part base => part :: base.parts

/-- The event as a kind: the part of that kind and everything embedded in it. -/
def view? (id : String) : Event → Option Event
  | last part => if part.kind.id = id then some (last part) else none
  | extend part base => if part.kind.id = id then some (extend part base) else base.view? id

/-- Puts a changed view back in the place of the view of the same kind. -/
def putView (id : String) (view : Event) : Event → Event
  | last part => if part.kind.id = id then view else last part
  | extend part base => if part.kind.id = id then view else extend part (putView id view base)

/-- The event is of a kind or of a descendant of it. -/
def isViewableAs (id : String) (event : Event) : Bool :=
  (event.view? id).isSome

/-- The canceled state: that of the embedded event if it has one, else the part's own. -/
def flag? : Event → Option Bool
  | last part => part.flag
  | extend part base =>
      match base.flag? with
      | some state => some state
      | none => part.flag

/-- Writes the canceled state to where `flag?` reads it; nothing without such a place. -/
def setFlag? (state : Bool) : Event → Option Event
  | last part => part.flag.map fun _ => last { part with flag := some state }
  | extend part base =>
      match base.setFlag? state with
      | some changed => some (extend part changed)
      | none => part.flag.map fun _ => extend { part with flag := some state } base

/-- The event has been canceled. -/
def isCanceled (event : Event) : Bool :=
  event.flag?.getD false

/-- Sets the canceled state, which an event without one refuses. -/
def setCanceled (state : Bool) (event : Event) : Except BusError Event :=
  match event.setFlag? state with
  | some changed => .ok changed
  | none => .error (.notCancellable event.kind.name)

/-- The value of the most specific part. -/
def value (event : Event) : Int := event.own.value

/-- Replaces the value of the most specific part. -/
def setValue (value : Int) (event : Event) : Event :=
  event.withOwn { event.own with value := value }

/-- Adds to the value of the most specific part. -/
def addValue (amount : Int) (event : Event) : Event :=
  event.setValue (event.value + amount)

/-- Applies a change to the view as a kind; without that view the event stays as it is. -/
def changeView (id : String) (change : Event → Event) (event : Event) : Event :=
  match event.view? id with
  | some view => putView id (change view) event
  | none => event

/-- The event as a structured text. -/
def text (event : Event) : String :=
  Text.openRecord event.kind.name [Text.field "canceled" (Text.flag event.isCanceled)]

/-- How the events of one kind are laid out. -/
structure Layout where
  /-- The part of this kind has room for the canceled state. -/
  storesFlag : Bool
  /-- The part embeds the part of the parent kind. -/
  embedsParent : Bool

/-- A fresh event of a kind: parts are laid out kind by kind, none of them canceled. -/
def fresh (layout : Kind → Layout) (values : String → Int) : Kind → Event
  | .root own =>
      last ⟨.root own, values own.id,
        if (layout (.root own)).storesFlag then some false else none⟩
  | .child own parent =>
      let shape := layout (.child own parent)
      let part : Part :=
        ⟨.child own parent, values own.id, if shape.storesFlag then some false else none⟩
      if shape.embedsParent then extend part (fresh layout values parent) else last part

/-- A fresh event that is canceled at once if it can be. -/
def make (layout : Kind → Layout) (values : String → Int) (canceled : Bool)
    (kind : Kind) : Event :=
  let event := fresh layout values kind
  if canceled then (event.setFlag? true).getD event else event

/-- What can be seen of an event from outside. -/
structure Snapshot where
  kind : String
  canceled : Bool
  /-- For each ancestor kind its name and the value of the view as that kind. -/
  values : List (String × Option Int)

/-- Looks at an event through each of its ancestor kinds. -/
def snapshot (event : Event) : Snapshot where
  kind := event.kind.name
  canceled := event.isCanceled
  values := event.kind.ancestors.map fun ancestor =>
    (ancestor.name, (event.view? ancestor.id).map value)

end Event
end EventRelay
