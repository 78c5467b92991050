import EventRelay.Scenario.Subscribers

/-!
# Kinds and subscribers that every scenario has

A small family of event kinds, with and without parents, abstract levels and room for
the canceled state, and subscriber types that listen to them.
-/

namespace EventRelay
namespace Scenario
namespace Standard

/-- A kind that declares nothing but its parent. -/
def plainKind (id : String) (parent? : Option String) : KindDeclaration :=
  ⟨id, id, parent?, false, false, false, [], false⟩

/-- An abstract kind. -/
def abstractKind (id : String) (parent? : Option String) (markers : List Marker) :
    KindDeclaration :=
  { plainKind id parent? with isAbstract := true, markers := markers }

/-- A cancellable kind whose part has room for the canceled state. -/
def cancellableKind (id : String) (parent? : Option String) : KindDeclaration :=
  { plainKind id parent? with cancellable := true, storesFlag := true }

/-- The kinds. -/
def kinds : List KindDeclaration := [
  abstractKind "LifecycleEvent" none [⟨"ModBus"⟩],
  plainKind "CommonSetup" (some "LifecycleEvent"),
  abstractKind "PlayerEvent" none [⟨"GameBus"⟩],
  cancellableKind "PlayerChat" (some "PlayerEvent"),
  plainKind "PlayerCommand" (some "PlayerChat"),
  cancellableKind "Attack" none,
  cancellableKind "PowerAttack" (some "Attack"),
  plainKind "TupleHit" (some "PowerAttack"),
  cancellableKind "TupleFlag" none,
  plainKind "Gap" none,
  abstractKind "AbstractOverGap" (some "Gap") [],
  plainKind "BelowGap" (some "AbstractOverGap"),
  { plainKind "Signal" none with markers := markers },
  { plainKind "Frame" none with markers := [⟨"ClientBus"⟩] },
  cancellableKind "CancelFrame" (some "Frame")]

/-- Instructions without a limit. -/
def always (instructions : List Instruction) : Script := ⟨instructions, none⟩

/-- Listens to chat and commands. -/
def exampleMod : SubscriberDeclaration where
  id := "ExampleMod"
  name := "ExampleMod"
  hasBareTags := true
  methods := [
    { name := "filter_chat", params := [.event "PlayerChat"], priority := .highest,
      script := always [.stopUnlessAbove 100, .cancel true] },
    { name := "log_chat", params := [.event "PlayerChat"], priority := .lowest,
      receivesCanceled := true },
    { name := "on_command", params := [.event "PlayerCommand"], script := always [.add 1] }]

/-- Listens without an object. -/
def staticHooks : SubscriberDeclaration where
  id := "StaticHooks"
  name := "StaticHooks"
  hasBareTags := true
  methods := [
    { name := "on_setup", params := [.event "CommonSetup"], isStatic := true,
      priority := .lowest, calling := .free,
      script := always [.refuseBelow 0 "negative setup "] },
    { name := "on_signal", params := [.event "Signal"], isStatic := true, priority := .high,
      calling := .free }]

/-- Has no methods. -/
def empty : SubscriberDeclaration where
  id := "Empty"
  name := "Empty"
  hasBareTags := true
  methods := []

/-- Has a supertype with methods. -/
def derived : SubscriberDeclaration where
  id := "Derived"
  name := "Derived"
  hasBareTags := true
  methods := [{ name := "on_frame", params := [.event "Frame"] }]
  supertypes := [.named "Empty", .named "ExampleMod"]

/-- Has a supertype without methods. -/
def overEmpty : SubscriberDeclaration where
  id := "OverEmpty"
  name := "OverEmpty"
  hasBareTags := true
  methods := [
    { name := "on_frame", params := [.event "Frame"], receivesCanceled := true,
      script := always [.scale 2] }]
  supertypes := [.named "Empty"]

/-- Has a method with two parameters. -/
def twoParams : SubscriberDeclaration where
  id := "TwoParams"
  name := "TwoParams"
  hasBareTags := true
  methods := [
    { name := "on_gap", params := [.other "& mut Gap", .other "u32"], calling := .never }]

/-- Has a method whose parameter is not an event. -/
def byValue : SubscriberDeclaration where
  id := "ByValue"
  name := "ByValue"
  hasBareTags := true
  methods := [{ name := "on_number", params := [.other "u32"], calling := .never }]

/-- Has a good method and one that listens to an abstract kind. -/
def halfValid : SubscriberDeclaration where
  id := "HalfValid"
  name := "HalfValid"
  hasBareTags := true
  methods := [
    { name := "on_gap", params := [.event "Gap"] },
    { name := "on_abstract", params := [.event "PlayerEvent"] }]

/-- Has a method of objects and one of the type. -/
def mixed : SubscriberDeclaration where
  id := "Mixed"
  name := "Mixed"
  hasBareTags := true
  methods := [
    { name := "on_frame", params := [.event "Frame"] },
    { name := "on_gap", params := [.event "Gap"], isStatic := true, calling := .free }]

/-- The subscriber types. -/
def subscribers : Directory :=
  [exampleMod, staticHooks, empty, derived, overEmpty, twoParams, byValue, halfValid, mixed]

/-- The catalog of the standard kinds. -/
def catalog : Catalog := Catalog.empty.declareAll kinds

end Standard
end Scenario
end EventRelay
