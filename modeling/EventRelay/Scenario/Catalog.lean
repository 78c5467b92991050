import EventRelay.Event

/-!
# Catalogs of event kinds

A scenario declares its event kinds by identity, parents before children. A catalog
resolves an identity to the kind with its whole ancestry and knows how the events of
each kind are laid out.
-/

namespace EventRelay
namespace Scenario

/-- How a scenario declares an event kind. -/
structure KindDeclaration where
  /-- Identity of the kind. -/
  id : String
  /-- Name shown to people. -/
  name : String
  /-- Identity of the parent kind. -/
  parent? : Option String
  isAbstract : Bool
  /-- The kind declares its events cancellable. -/
  cancellable : Bool
  /-- The events' own part has room for the canceled state. -/
  storesFlag : Bool
  /-- Markers of the kind itself. -/
  markers : List Marker
  /-- The events embed no part of the parent kind. -/
  detached : Bool

/-- A kind and the layout of its events. -/
structure CatalogEntry where
  kind : Kind
  /-- How its events are laid out. -/
  layout : Event.Layout

/-- All kinds of a scenario. -/
structure Catalog where
  /-- The kinds in the order of their declaration. -/
  entries : List CatalogEntry

namespace Catalog

/-- A catalog without kinds. -/
def empty : Catalog := ⟨[]⟩

/-- The entry of a kind. -/
def entry? (catalog : Catalog) (id : String) : Option CatalogEntry :=
  catalog.entries.find? fun entry => entry.kind.id = id

/-- What a kind is that nobody declared: concrete, without a parent. -/
def undeclared (id : String) : Kind := .root ⟨id, id, false, false, []⟩

/-- The kind with an identity. -/
def kind (catalog : Catalog) (id : String) : Kind :=
  match catalog.entry? id with
  | some entry => entry.kind
  | none => undeclared id

/-- The layout of the events of a kind. -/
def layout (catalog : Catalog) (kind : Kind) : Event.Layout :=
  match catalog.entry? kind.id with
  | some entry => entry.layout
  | none => ⟨false, true⟩

/-- Adds a kind. -/
def declare (catalog : Catalog) (declaration : KindDeclaration) : Catalog :=
  let own : Descriptor :=
    ⟨declaration.id, declaration.name, declaration.isAbstract, declaration.cancellable,
      declaration.markers⟩
  let kind := match declaration.parent? with
    | some parent => Kind.child own (catalog.kind parent)
    | none => Kind.root own
  ⟨catalog.entries ++ [⟨kind, ⟨declaration.storesFlag, !declaration.detached⟩⟩]⟩

/-- Adds kinds in order. -/
def declareAll (catalog : Catalog) (declarations : List KindDeclaration) : Catalog :=
  declarations.foldl declare catalog

end Catalog

/-- How a scenario describes an event that it makes. -/
structure EventSpec where
  /-- Identity of the event's kind. -/
  kind : String
  /-- Start values of the parts, by the identity of their kinds; zero where none is given. -/
  values : List (String × Int)
  /-- The event is canceled from the start if it can be. -/
  canceled : Bool

/-- Makes an event. -/
def Catalog.make (catalog : Catalog) (spec : EventSpec) : Event :=
  Event.make catalog.layout (fun id => (spec.values.lookup id).getD 0) spec.canceled
    (catalog.kind spec.kind)

/-- The three markers that scenarios use. -/
def markers : List Marker := [⟨"ModBus"⟩, ⟨"GameBus"⟩, ⟨"ClientBus"⟩]

/-- What is shown of a kind. -/
structure KindSummary where
  kind : Kind
  /-- Those of the three markers that the kind carries, inherited ones included. -/
  carried : List Marker
  /-- Where in the list of shown kinds this same kind stands. -/
  equalTo : List Nat

/-- Shows a list of kinds. -/
def summaries (shown : List Kind) : List KindSummary :=
  shown.map fun kind =>
    { kind := kind
      carried := markers.filter kind.hasMarker
      equalTo := (List.range shown.length).filter fun position =>
        (shown[position]?).any kind.sameAs }

/-- Number of different kinds in a list. -/
def distinct (shown : List Kind) : Nat :=
  (shown.map Kind.id).eraseDups.length

end Scenario
end EventRelay
