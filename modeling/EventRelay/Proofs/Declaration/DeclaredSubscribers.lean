import EventRelay.Declaration.SubscriberBlock
import EventRelay.Proofs.Bus.Errors
import EventRelay.Proofs.Bus.Reached

/-!
# Declared subscribers

The description of an accepted block is turned into a subscriber class by code that is made
for it: a parameter becomes the kind of events that its type stands for, and a call becomes a
listener body that views events as that kind.

Every method that comes out of this can be called exactly if its only parameter takes an
event, and it is called on an object exactly if it belongs to one. So a method that passes
the checks of a registration can always be bound, and no registration fails for the reason
that it cannot.
-/

namespace EventRelay
namespace Declaration

variable {σ τ β : Type} {host : Host σ β}

/-! ## From descriptions to classes -/

/-- What the names in a block stand for, in the surroundings of a bus. -/
structure Code (host : Host σ β) (τ : Type) where
  /-- The kind that a type of events describes. -/
  kind : DeclaredType → Kind
  /-- What a type that is named as a supertype tells of itself. -/
  supertype : Path → Supertype
  /-- What a function does with a view, on an object or without one. -/
  function : String → Option τ → Handler σ
  /-- The listener body that views events as a kind and calls a function with the view. -/
  body : Kind → String → Option τ → β
  run_body : ∀ kind name object?,
    host.run (body kind name object?) = Handler.forKind kind (function name object?)

/-- The parameter of a method. -/
def DescribedParam.paramType (code : Code host τ) : DescribedParam → ParamType
  | .event type => .event (code.kind type)
  | .other type => .other (Token.spacedAll type.tokens)

/-- How a method is called: without an object or on one. -/
def DescribedInvoker.invoker (code : Code host τ) (invoker : DescribedInvoker) : Invoker τ β :=
  if invoker.isStatic then .free (code.body (code.kind invoker.views) invoker.function none)
  else .onObject fun object =>
    code.body (code.kind invoker.views) invoker.function (some object)

/-- The listener method that is made of a description. -/
def DescribedMethod.listenerMethod (code : Code host τ) (method : DescribedMethod) :
    ListenerMethod τ β where
  name := method.name
  params := method.params.map (DescribedParam.paramType code)
  isStatic := method.isStatic
  priority := method.priority
  receivesCanceled := method.receivesCanceled
  invoker? := method.invoker?.map (DescribedInvoker.invoker code)

/-- The subscriber class that is made of a description. -/
def SubscriberDescription.subscriberClass (code : Code host τ)
    (description : SubscriberDescription) : SubscriberClass τ β where
  name := description.name
  methods := description.methods.map (DescribedMethod.listenerMethod code)
  supertypes := description.supertypes.map code.supertype

/-! ## What is described -/

/-- A description says how a method is called exactly if an event is all that it takes. -/
inductive DescribedMethod.Calls : DescribedMethod → Prop
  /-- The method is called with the event, viewed as the type of its parameter. -/
  | event (name function : String) (type : DeclaredType) (isStatic isShared : Bool)
      (priority : Priority) (receivesCanceled : Bool) :
      Calls ⟨name, [.event type], isStatic, priority, receivesCanceled,
        some ⟨isStatic, type, isShared, function⟩⟩
  /-- No parameter takes an event. -/
  | other (name : String) (types : List DeclaredType) (isStatic : Bool) (priority : Priority)
      (receivesCanceled : Bool) :
      Calls ⟨name, types.map .other, isStatic, priority, receivesCanceled, none⟩

theorem Function.calls_of_describe
    {function : Function}
    {options : MethodOptions}
    {method : DescribedMethod}
    (described : function.describe options = .ok method) :
    method.Calls := by
  unfold Function.describe at described
  split at described
  case isTrue => cases described
  case isFalse =>
    cases described
    cases function.eventParam? with
    | none => exact .other ..
    | some taken => exact .event ..

theorem exists_of_bind_eq_ok
    {ε α γ : Type}
    {first : Except ε α}
    {next : α → Except ε γ}
    {result : γ}
    (ended : (first >>= next) = .ok result) :
    ∃ value, first = .ok value ∧ next value = .ok result := by
  cases first with
  | error error => cases ended
  | ok value => exact ⟨value, rfl, ended⟩

theorem SubscriberBlock.calls_of_describeItems
    {items left : List Item}
    {methods : List DescribedMethod}
    (described : describeItems items = .ok (methods, left)) :
    ∀ method ∈ methods, method.Calls := by
  induction items generalizing methods left with
  | nil =>
      cases described
      exact nofun
  | cons item rest inductionHypothesis =>
      cases item with
      | other name attributes =>
          obtain ⟨_, others, same⟩ := exists_of_bind_eq_ok described
          cases same
          exact inductionHypothesis others
      | function function =>
          rw [describeItems] at described
          split at described
          case h_1 =>
            obtain ⟨_, others, same⟩ := exists_of_bind_eq_ok described
            cases same
            exact inductionHypothesis others
          case h_2 =>
            obtain ⟨options, -, afterOptions⟩ := exists_of_bind_eq_ok described
            obtain ⟨method, isDescribed, afterMethod⟩ := exists_of_bind_eq_ok afterOptions
            obtain ⟨_, others, same⟩ := exists_of_bind_eq_ok afterMethod
            cases same
            exact List.forall_mem_cons.mpr
              ⟨Function.calls_of_describe isDescribed, inductionHypothesis others⟩

/-- The methods of an accepted block are described so. -/
theorem SubscriberBlock.calls_of_describe
    {block : SubscriberBlock}
    {description : SubscriberDescription}
    (accepted : block.describe = .ok description) :
    ∀ method ∈ description.methods, method.Calls := by
  unfold describe at accepted
  split at accepted
  case isTrue => cases accepted
  case isFalse =>
    obtain ⟨supertypes, -, afterArguments⟩ := exists_of_bind_eq_ok accepted
    obtain ⟨_, described, same⟩ := exists_of_bind_eq_ok afterArguments
    cases same
    exact calls_of_describeItems described

/-! ## What is generated -/

/-- A method is called as it is declared: with an event if that is what it takes, viewed as
an event of the declared kind, and on an object if it belongs to one. -/
structure CallsAsDeclared (host : Host σ β) (method : ListenerMethod τ β) : Prop where
  invocable : method.invoker?.isSome = true ↔
    ∃ param kind, method.params = [param] ∧ param.kind? = some kind
  free : ∀ body, method.invoker? = some (.free body) → method.isStatic = true ∧
    ∃ kind handler, method.params = [.event kind] ∧ host.run body = Handler.forKind kind handler
  onObject : ∀ call, method.invoker? = some (.onObject call) → method.isStatic = false ∧
    ∃ (kind : Kind) (handler : τ → Handler σ), method.params = [.event kind] ∧
      ∀ object, host.run (call object) = Handler.forKind kind (handler object)

theorem DescribedMethod.Calls.callsAsDeclared
    {method : DescribedMethod}
    (calls : method.Calls)
    (code : Code host τ) :
    CallsAsDeclared host (method.listenerMethod code) := by
  cases calls with
  | event name function type isStatic isShared priority receivesCanceled =>
      refine ⟨⟨fun _ => ⟨_, _, rfl, rfl⟩, fun _ => rfl⟩, ?_, ?_⟩
      · intro body isFree
        cases isStatic with
        | true =>
            cases isFree
            exact ⟨rfl, _, _, rfl, code.run_body ..⟩
        | false => cases isFree
      · intro call isOnObject
        cases isStatic with
        | true => cases isOnObject
        | false =>
            cases isOnObject
            exact ⟨rfl, _, fun object => code.function function (some object), rfl,
              fun object => code.run_body ..⟩
  | other name types isStatic priority receivesCanceled =>
      refine ⟨⟨nofun, ?_⟩, nofun, nofun⟩
      rintro ⟨param, kind, single, isEvent⟩
      have isOther :
          param ∈ (types.map DescribedParam.other).map (DescribedParam.paramType code) := by
        have same :
            (types.map DescribedParam.other).map (DescribedParam.paramType code) = [param] :=
          single
        rw [same]
        exact List.mem_singleton_self param
      obtain ⟨described, isDescribed, rfl⟩ := List.mem_map.mp isOther
      obtain ⟨type, -, rfl⟩ := List.mem_map.mp isDescribed
      cases isEvent

/-- An object is given exactly where objects are registered. -/
def givesObject : Shape → Option τ → Prop
  | .object, object? => object?.isSome = true
  | .type, object? => object? = none

section Binding

variable {method : ListenerMethod τ β} {subscriber : String} {kind : Kind}

/-- A method that fits a registration and passes the check of its parameters is bound to a
body that views events as the kind that it takes. -/
theorem CallsAsDeclared.exists_bind
    (calls : CallsAsDeclared host method)
    {shape : Shape}
    (fits : Admission.fits shape method = true)
    {object? : Option τ}
    (gives : givesObject shape object?)
    (declared : Admission.declaredKind subscriber method = .ok kind) :
    ∃ body handler, method.bind subscriber object? = .ok body ∧
      host.run body = Handler.forKind kind handler := by
  obtain ⟨isInvocable, param, single, isEvent⟩ := Host.declaredKind_eq_ok declared
  obtain ⟨invoker, isInvoker⟩ := Option.isSome_iff_exists.mp isInvocable
  have sameKind {other : Kind} (params : method.params = [.event other]) : other = kind := by
    rw [single] at params
    cases params
    exact Option.some.inj isEvent
  cases invoker with
  | free body =>
      obtain ⟨isStatic, other, handler, params, views⟩ := calls.free body isInvoker
      rw [sameKind params] at views
      cases shape with
      | object => simp [Admission.fits, isStatic] at fits
      | type =>
          cases gives
          exact ⟨body, handler, by simp only [ListenerMethod.bind, isInvoker], views⟩
  | onObject call =>
      obtain ⟨isStatic, other, handler, params, views⟩ := calls.onObject call isInvoker
      rw [sameKind params] at views
      cases shape with
      | type => simp [Admission.fits, isStatic] at fits
      | object =>
          obtain ⟨object, rfl⟩ := Option.isSome_iff_exists.mp gives
          exact ⟨call object, handler object, by simp only [ListenerMethod.bind, isInvoker],
            views object⟩

end Binding

/-! ## Registrations -/

/-- The error does not blame the way in which a method is called. -/
def sparesCalls : BusError → Prop
  | .invalidListener _ _ reason =>
      reason ≠ "receiver does not match the registration" ∧
        reason ≠ "method cannot be invoked as a listener"
  | _ => True

section Registering

open EventRelay.Action (RaisesOnly)

/-- It is enough that the reason starts with another letter than those two. -/
theorem sparesCalls_of_head?
    (subscriber method : String)
    {reason : String}
    (notR : reason.toList.head? ≠ some 'r')
    (notM : reason.toList.head? ≠ some 'm') :
    sparesCalls (.invalidListener subscriber method reason) := by
  constructor
  · rintro rfl
    exact notR rfl
  · rintro rfl
    exact notM rfl

theorem sparesCalls_of_select
    {subscriber : SubscriberClass τ β}
    {shape : Shape}
    {error : BusError}
    (refused : Admission.select subscriber shape = .error error) :
    sparesCalls error := by
  unfold Admission.select at refused
  split at refused
  case h_1 =>
    cases refused
    trivial
  case h_2 =>
    split at refused
    case h_1 =>
      cases refused
      cases shape <;> exact sparesCalls_of_head? _ _ (by decide) (by decide)
    case h_2 =>
      split at refused
      case isTrue =>
        cases refused
        trivial
      case isFalse => cases refused

/-- The check of its parameters finds that a method cannot be called only if it takes an event
all the same. -/
theorem CallsAsDeclared.sparesCalls_of_declaredKind
    {method : ListenerMethod τ β}
    (calls : CallsAsDeclared host method)
    {subscriber : String}
    {error : BusError}
    (refused : Admission.declaredKind subscriber method = .error error) :
    sparesCalls error := by
  unfold Admission.declaredKind at refused
  split at refused
  case h_1 param single =>
    split at refused
    case h_1 kind isEvent =>
      split at refused
      case isTrue => cases refused
      case isFalse notInvocable =>
        exact absurd (calls.invocable.mpr ⟨param, kind, single, isEvent⟩) notInvocable
    case h_2 =>
      cases refused
      exact sparesCalls_of_head? _ _ (by simp) (by simp)
  case h_2 =>
    cases refused
    exact sparesCalls_of_head? _ _ (by simp) (by simp)

/-- What passes the check of a method has passed the check of its parameters. -/
theorem declaredKind_of_checkMethod
    {checker : Checker σ}
    {subscriber : String}
    {method : ListenerMethod τ β}
    {kind : Kind}
    {state after : σ}
    (passed : Admission.checkMethod checker subscriber method state = (.ok kind, after)) :
    Admission.declaredKind subscriber method = .ok kind := by
  unfold Admission.checkMethod at passed
  cases declared : Admission.declaredKind subscriber method with
  | error error =>
      rw [declared, Action.ofExcept_error_bind] at passed
      cases passed
  | ok found =>
      rw [declared, Action.ofExcept_ok_bind] at passed
      rcases Action.bind_cases (Admission.checkTarget checker found) _ state with
        ⟨_, _, -, goesOn⟩ | ⟨_, _, -, ends⟩
      · rw [goesOn] at passed
        cases passed
        rfl
      · rw [ends] at passed
        cases passed

theorem CallsAsDeclared.raisesOnly_prepareMethod
    {method : ListenerMethod τ β}
    (calls : CallsAsDeclared host method)
    {shape : Shape}
    (fits : Admission.fits shape method = true)
    {object? : Option τ}
    (gives : givesObject shape object?)
    (subscriber : String) :
    RaisesOnly sparesCalls (host.prepareMethod subscriber object? method) := by
  have checked : RaisesOnly sparesCalls
      (Admission.checkMethod host.checker subscriber method) := by
    refine (RaisesOnly.ofExcept fun _ => calls.sparesCalls_of_declaredKind).bind fun kind => ?_
    exact (Host.raisesOnly_checkTarget _ kind trivial fun _ => trivial).bind fun _ => .pure kind
  refine checked.bind_of_results fun state kind after passed => ?_
  refine (host.raisesOnly_nodeFor kind fun _ _ _ => trivial).bind fun node => ?_
  obtain ⟨body, -, isBound, -⟩ :=
    calls.exists_bind fits gives (declaredKind_of_checkMethod passed)
  rw [isBound]
  refine (RaisesOnly.pure body).bind fun _ => ?_
  exact (host.raisesOnly_newListener kind _ _ _ _).bind fun _ => .pure _

/-- Methods that are selected for a registration fit it. -/
theorem fits_of_select
    {subscriber : SubscriberClass τ β}
    {shape : Shape}
    {methods : List (ListenerMethod τ β)}
    (selected : Admission.select subscriber shape = .ok methods) :
    ∀ method ∈ methods, Admission.fits shape method = true := by
  unfold Admission.select at selected
  split at selected
  case h_1 => cases selected
  case h_2 =>
    split at selected
    case h_1 => cases selected
    case h_2 noneUnfit =>
      split at selected
      case isTrue => cases selected
      case isFalse =>
        cases selected
        simpa using noneUnfit

/-- No registration of methods that are called as they are declared fails because of the way
in which they are called. -/
theorem raisesOnly_registerAs
    (host : Host σ β)
    (key : Key)
    {subscriber : SubscriberClass τ β}
    (calls : ∀ method ∈ subscriber.methods, CallsAsDeclared host method)
    {shape : Shape}
    {object? : Option τ}
    (gives : givesObject shape object?) :
    RaisesOnly sparesCalls (host.registerAs key subscriber shape object?) := by
  unfold Host.registerAs
  refine (RaisesOnly.look _).bind fun isTaken => ?_
  split
  case isTrue => exact .pure ()
  case isFalse =>
    have prepared : RaisesOnly sparesCalls (host.prepare subscriber shape object?) := by
      refine (RaisesOnly.ofExcept fun _ => sparesCalls_of_select).bind_of_results
        fun state methods after ended => .forEach fun method isMethod => ?_
      have selected := Action.eq_ok_of_ofExcept ended
      have isDeclared : method ∈ subscriber.methods := by
        rwa [← (Host.ne_nil_of_select selected).1]
      exact (calls method isDeclared).raisesOnly_prepareMethod
        (fits_of_select selected method isMethod) gives subscriber.name
    exact prepared.bind fun pending => host.raisesOnly_commit key subscriber.name pending

/-- Of every block that is accepted, each method can be called exactly if an event is all that
it takes, without an object exactly if it belongs to the type, and the event is viewed as the
kind of its parameter. So whatever passes the checks is bound to a body that views events as
this kind, and no registration in either shape fails because it cannot be bound or called. -/
theorem SubscriberBlock.always_binds
    {block : SubscriberBlock}
    {description : SubscriberDescription}
    (accepted : block.describe = .ok description)
    (code : Code host τ) :
    (∀ method ∈ (description.subscriberClass code).methods, CallsAsDeclared host method) ∧
      (∀ shape methods,
        Admission.select (description.subscriberClass code) shape = .ok methods →
        ∀ method ∈ methods, ∀ state kind after,
          Admission.checkMethod host.checker description.name method state = (.ok kind, after) →
          ∀ object?, givesObject shape object? →
            ∃ body handler, method.bind description.name object? = .ok body ∧
              host.run body = Handler.forKind kind handler) ∧
      (∀ key object state error after,
        host.register key (description.subscriberClass code) object state =
          (.error (.raised error), after) → sparesCalls error) ∧
      ∀ key state error after,
        host.registerType key (description.subscriberClass code) state =
          (.error (.raised error), after) → sparesCalls error := by
  have calls : ∀ method ∈ (description.subscriberClass code).methods,
      CallsAsDeclared host method := by
    intro method isMethod
    obtain ⟨described, isDescribed, rfl⟩ := List.mem_map.mp isMethod
    exact (calls_of_describe accepted described isDescribed).callsAsDeclared code
  refine ⟨calls, ?_, ?_, ?_⟩
  · intro shape methods selected method isMethod state kind after passed object? gives
    have isDeclared : method ∈ (description.subscriberClass code).methods := by
      rwa [← (Host.ne_nil_of_select selected).1]
    exact (calls method isDeclared).exists_bind (fits_of_select selected method isMethod) gives
      (declaredKind_of_checkMethod passed)
  · intro key object
    exact raisesOnly_registerAs host key calls rfl
  · intro key
    exact raisesOnly_registerAs host key calls rfl

end Registering

/-! ### A block for wardens -/

open Index.Reachable (alarm drill)

/-- What calls a function: the kind of the view, the name and the object. -/
abbrev WardenCall := Kind × String × Option Unit

/-- Adds one to the value of the view. -/
def increment : Handler (Bus WardenCall × Nat) := fun (view, state) =>
  (.ok (), view.addValue 1, state)

/-- A bus whose listeners are such calls; each function adds one. -/
def wardened : Host (Bus WardenCall × Nat) WardenCall :=
  (Host.calm WardenCall).withCode (fun call => Handler.forKind call.1 increment)
    (Host.calm WardenCall).handle

/-- All types of events stand for drills. -/
def wardenCode : Code wardened Unit where
  kind _ := drill
  supertype path := ⟨path.text, [], []⟩
  function _ _ := increment
  body kind name object? := (kind, name, object?)
  run_body _ _ _ := rfl

/-- One method is marked and takes drills at a high priority, another is not marked. -/
def wardens : SubscriberBlock where
  arguments := []
  generics := []
  implementsTrait := false
  self := .path [.word "Warden"] "Warden"
  items := [
    .function ⟨⟨"on_drill", some ⟨true, false⟩,
      [.reference none true (.path [.word "Drill"] "Drill")]⟩,
      [⟨[.word "subscribe_event"], .list .parenthesis
        [.word "priority", .mark '=' false, .word "high"]⟩]⟩,
    .function ⟨⟨"rest", none, []⟩, []⟩]

/-- What follows from the block. -/
def wardensDescription : SubscriberDescription where
  name := "Warden"
  supertypes := []
  methods := [⟨"on_drill", [.event (.path [.word "Drill"] "Drill")], false, .high, false,
    some ⟨false, .path [.word "Drill"] "Drill", false, "on_drill"⟩⟩]
  items := [
    .function ⟨⟨"on_drill", some ⟨true, false⟩,
      [.reference none true (.path [.word "Drill"] "Drill")]⟩, []⟩,
    .function ⟨⟨"rest", none, []⟩, []⟩]

/-- The class of wardens. -/
abbrev wardenClass : SubscriberClass Unit WardenCall :=
  wardensDescription.subscriberClass wardenCode

/-- A warden is registered, and its method is bound to a body that views drills. The type
itself is refused, but not because of the way in which the method is called. -/
theorem SubscriberBlock.always_binds_wardens :
    wardens.describe = .ok wardensDescription ∧
      (∃ method body handler,
        Admission.select wardenClass .object = .ok [method] ∧
        method.bind "Warden" (some ()) = .ok body ∧
        wardened.run body = Handler.forKind drill handler) ∧
      (wardened.register (.object "Warden" "first") wardenClass ()
        (Bus.create {} false none, 0)).1.toOption = some () ∧
      ∃ error after, wardened.registerType (.type "Warden") wardenClass
        (Bus.create {} false none, 0) = (.error (.raised error), after) ∧ sparesCalls error := by
  have accepted : wardens.describe = .ok wardensDescription := rfl
  obtain ⟨-, binds, -, spares⟩ := always_binds accepted wardenCode
  refine ⟨accepted, ?_, by decide +kernel, ?_⟩
  · obtain ⟨body, handler, isBound, views⟩ := binds .object wardenClass.methods rfl
      _ (List.mem_cons_self) (Bus.create {} false none, 0) drill _ rfl (some ()) rfl
    exact ⟨_, body, handler, rfl, isBound, views⟩
  · have refused : wardened.registerType (.type "Warden") wardenClass
        (Bus.create {} false none, 0) = (.error (.raised _), _) := rfl
    exact ⟨_, _, refused, spares _ _ _ _ refused⟩

end Declaration
end EventRelay
