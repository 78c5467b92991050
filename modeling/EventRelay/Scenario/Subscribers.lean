import EventRelay.Scenario.World

/-!
# Subscriber classes of a scenario

A scenario declares subscriber types by identity: their methods with what these do, and
their supertypes, which are described in place or name another declared type.
-/

namespace EventRelay
namespace Scenario

/-- A declared parameter. -/
inductive ParamRef
  /-- Takes events of a kind. -/
  | event (kind : String)
  /-- Takes something else. -/
  | other (name : String)

/-- How a declared method is called. -/
inductive Calling
  /-- On an object. -/
  | onObject
  /-- Without an object. -/
  | free
  /-- It cannot be called. -/
  | never
  deriving DecidableEq

/-- How a scenario declares a listener method. -/
structure MethodDeclaration where
  name : String
  params : List ParamRef
  /-- The method belongs to the type. -/
  isStatic : Bool := false
  priority : Priority := .normal
  /-- The method wants canceled events. -/
  receivesCanceled : Bool := false
  calling : Calling := .onObject
  /-- Kind as which it views events; its first event parameter if not given. -/
  view? : Option String := none
  script : Script := ⟨[], none⟩

/-- How a scenario declares a supertype. -/
inductive SupertypeRef
  /-- In place. -/
  | described (name : String) (methods : List String) (supertypes : List SupertypeRef)
  /-- By the identity of a subscriber type. -/
  | named (subscriber : String)

/-- How a scenario declares a subscriber type. -/
structure SubscriberDeclaration where
  /-- Identity of the type. -/
  id : String
  /-- Name shown to people. -/
  name : String
  methods : List MethodDeclaration
  supertypes : List SupertypeRef := []
  /-- Runs are recorded under the bare name of the method. -/
  hasBareTags : Bool := false

/-- The subscriber types of a scenario. -/
abbrev Directory := List SubscriberDeclaration

/-- A class whose objects are known by their labels. -/
abbrev ScenarioClass := SubscriberClass String Body

namespace Directory

/-- The declaration of a subscriber type. -/
def find? (directory : Directory) (id : String) : Option SubscriberDeclaration :=
  List.find? (fun declaration => declaration.id = id) directory

mutual

/-- Resolves a supertype. References to declared types are followed at most as often as
there are types. -/
def supertype (directory : Directory) (fuel : Nat) : SupertypeRef → Supertype
  | .described name methods supertypes =>
      ⟨name, methods, supertypesOf directory fuel supertypes⟩
  | .named id =>
      match directory.find? id, fuel with
      | some declaration, fuel + 1 =>
          ⟨declaration.name, declaration.methods.map MethodDeclaration.name,
            supertypesOf directory fuel declaration.supertypes⟩
      | _, _ => ⟨id, [], []⟩
termination_by reference => (fuel, sizeOf reference)

/-- Resolves supertypes in order. -/
def supertypesOf (directory : Directory) (fuel : Nat) : List SupertypeRef → List Supertype
  | [] => []
  | first :: rest => supertype directory fuel first :: supertypesOf directory fuel rest
termination_by references => (fuel, sizeOf references)

end

/-- Resolves a supertype of a scenario. -/
def resolve (directory : Directory) (reference : SupertypeRef) : Supertype :=
  directory.supertype directory.length reference

end Directory

namespace MethodDeclaration

/-- The declared parameters. -/
def paramTypes (method : MethodDeclaration) (catalog : Catalog) : List ParamType :=
  method.params.map fun
    | .event kind => .event (catalog.kind kind)
    | .other name => .other name

/-- What the method works on: the part of the kind it asks for. -/
def viewing (method : MethodDeclaration) (catalog : Catalog) : Viewing :=
  match method.view? with
  | some kind => .part (catalog.kind kind)
  | none =>
      match (method.paramTypes catalog).findSome? ParamType.kind? with
      | some kind => .part kind
      | none => .whole

/-- The body of the method, recorded under a tag. -/
def body (method : MethodDeclaration) (catalog : Catalog) (counter : Counter) (tag : String) :
    Body :=
  ⟨some tag, method.viewing catalog, counter, method.script, false⟩

/-- The method of a class. Calls on an object are recorded with its label, others with
the name of the class. -/
def resolve (method : MethodDeclaration) (catalog : Catalog)
    (declaration : SubscriberDeclaration) (position : Nat) : ListenerMethod String Body :=
  let tag (owner : String) : String :=
    if declaration.hasBareTags then method.name else owner ++ "." ++ method.name
  let body (owner : String) : Body :=
    method.body catalog (.method declaration.id position) (tag owner)
  { name := method.name
    params := method.paramTypes catalog
    isStatic := method.isStatic
    priority := method.priority
    receivesCanceled := method.receivesCanceled
    invoker? := match method.calling with
      | .onObject => some (.onObject body)
      | .free => some (.free (body declaration.name))
      | .never => none }

end MethodDeclaration

/-- The class of a declared subscriber type. -/
def SubscriberDeclaration.resolve (declaration : SubscriberDeclaration) (catalog : Catalog)
    (directory : Directory) : ScenarioClass where
  name := declaration.name
  methods := declaration.methods.mapIdx fun position method =>
    method.resolve catalog declaration position
  supertypes := declaration.supertypes.map directory.resolve

/-- The class of a subscriber type; one that nobody declared has no methods. -/
def Directory.subscriberClass (directory : Directory) (catalog : Catalog) (id : String) :
    ScenarioClass :=
  match directory.find? id with
  | some declaration => declaration.resolve catalog directory
  | none => ⟨id, [], []⟩

end Scenario
end EventRelay
