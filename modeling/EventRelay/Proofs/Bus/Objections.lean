import EventRelay.Proofs.Dispatch.Typed
import EventRelay.Proofs.Hierarchy.Outcome

/-!
# Objections to a registration

Whether a class can be registered is decided by checks of several kinds that follow each other,
first for the class and then method by method. Here all that can be said against a class is
listed in the order of these checks, with no regard to which check would be made at all. A
registration fails with the first objection of that list, and succeeds if the list is empty.
-/

namespace EventRelay

variable {σ τ β : Type}

/-! ## Bad ends -/

namespace Action

variable {ε ε' α γ : Type}

/-- How an action ends badly from a state, if it does. -/
def stop? (action : Action σ ε α) (state : σ) : Option (Stop ε) :=
  match (action state).1 with
  | .ok _ => none
  | .error stop => some stop

theorem stop?_of_ok
    {action : Action σ ε α}
    {state changed : σ}
    {result : α}
    (ended : action state = (.ok result, changed)) :
    action.stop? state = none := by
  rw [stop?, ended]

theorem stop?_of_error
    {action : Action σ ε α}
    {state changed : σ}
    {stop : Stop ε}
    (ended : action state = (.error stop, changed)) :
    action.stop? state = some stop := by
  rw [stop?, ended]

theorem stop?_bind_of_error
    {action : Action σ ε α}
    {state changed : σ}
    {stop : Stop ε}
    (ended : action state = (.error stop, changed))
    (next : α → Action σ ε γ) :
    (action >>= next).stop? state = some stop :=
  stop?_of_error (bind_of_error ended next)

theorem stop?_bind_of_ok
    {action : Action σ ε α}
    {state changed : σ}
    {result : α}
    (ended : action state = (.ok result, changed))
    (next : α → Action σ ε γ) :
    (action >>= next).stop? state = (next result).stop? changed := by
  rw [stop?, bind_of_ok ended, stop?]

/-- It only matters how the part that may fail ends. -/
theorem stop?_bind_pure
    (action : Action σ ε α)
    (function : α → γ)
    (state : σ) :
    (action >>= fun result => pure (function result)).stop? state = action.stop? state := by
  rcases apply_cases action state with ⟨result, changed, ended⟩ | ⟨stop, changed, ended⟩
  · rw [stop?_bind_of_ok ended, stop?_of_ok ended]
    rfl
  · rw [stop?_bind_of_error ended, stop?_of_error ended]

theorem stop?_mapError
    (action : Action σ ε α)
    (function : ε → ε')
    (state : σ) :
    (action.mapError function).stop? state = (action.stop? state).map (Stop.map function) := by
  unfold stop? mapError
  rcases apply_cases action state with ⟨result, changed, ended⟩ | ⟨stop, changed, ended⟩
  · rw [ended]
    rfl
  · rw [ended]
    cases stop <;> rfl

end Action

/-! ## Supertypes -/

namespace Supertype

mutual

/-- A supertype and all that stand above it, each before its own supertypes. -/
def preorder : Supertype → List Supertype
  | ⟨name, methods, supertypes⟩ => ⟨name, methods, supertypes⟩ :: preorders supertypes

/-- The same for several supertypes, one after the other. -/
def preorders : List Supertype → List Supertype
  | [] => []
  | first :: rest => first.preorder ++ preorders rest

end

/-- The supertype declares listener methods. -/
def declares (supertype : Supertype) : Bool := !supertype.methods.isEmpty

mutual

theorem declaring?_eq (supertype : Supertype) :
    supertype.declaring? = supertype.preorder.find? declares := by
  obtain ⟨name, methods, supertypes⟩ := supertype
  rw [declaring?, preorder, List.find?_cons, declares]
  cases methods.isEmpty with
  | true => exact firstDeclaring?_eq supertypes
  | false => rfl

theorem firstDeclaring?_eq (supertypes : List Supertype) :
    firstDeclaring? supertypes = (preorders supertypes).find? declares := by
  cases supertypes with
  | nil => rfl
  | cons first rest =>
      rw [firstDeclaring?, preorders, List.find?_append, declaring?_eq first,
        firstDeclaring?_eq rest]
      cases first.preorder.find? declares <;> rfl

end

end Supertype

/-! ## Classes -/

/-- What is to be said against a class before its methods are looked at one by one: supertypes
with listener methods, methods whose receiver does not fit, and that there are no methods. -/
def SubscriberClass.objections (subscriber : SubscriberClass τ β) (shape : Shape) :
    List BusError :=
  ((Supertype.preorders subscriber.supertypes).filter Supertype.declares).map (fun supertype =>
      .inheritedListeners subscriber.name supertype.name supertype.methods) ++
    (subscriber.methods.filter fun method => !Admission.fits shape method).map (fun method =>
      method.refusal subscriber.name (Admission.wrongReceiver shape)) ++
    if subscriber.methods.isEmpty then [.noListeners subscriber.name shape.name] else []

theorem Admission.select_eq
    (subscriber : SubscriberClass τ β)
    (shape : Shape) :
    select subscriber shape =
      match (subscriber.objections shape).head? with
      | some objection => .error objection
      | none => .ok subscriber.methods := by
  unfold select SubscriberClass.objections
  rw [Supertype.firstDeclaring?_eq, List.head?_append, List.head?_append, List.head?_map,
    List.head?_filter, List.head?_map, List.head?_filter]
  cases (Supertype.preorders subscriber.supertypes).find? Supertype.declares with
  | some supertype => rfl
  | none =>
      cases subscriber.methods.find? fun method => !fits shape method with
      | some method => rfl
      | none => cases subscriber.methods.isEmpty <;> rfl

/-! ## Kinds -/

/-- Why the node of a kind cannot be made: an abstract kind in the chain stands below a concrete
one. -/
def Kind.chainObjection? (kind : Kind) : Option BusError := do
  let low ← kind.firstOffending?
  let parent ← low.parent?
  let above ← parent.firstConcrete?
  return .brokenAbstractChain low.name parent.name above.name

/-- What is to be said against a kind as a target, given the verdict of the checker. -/
def Kind.targetObjections (kind : Kind) (verdict : Option (Stop String)) : List (Stop BusError) :=
  (if kind.isAbstract then [.raised (.abstractEvent kind.name)] else []) ++
    verdict.toList.map (Stop.map (.rejectedEvent kind.name))

/-! ## Methods -/

namespace ListenerMethod

/-- The kind of events that a method takes, if it takes a single event. -/
def eventKind? (method : ListenerMethod τ β) : Option Kind :=
  match method.params with
  | [param] => param.kind?
  | _ => none

/-- What is to be said against the declaration of a method. -/
def declarationObjections (method : ListenerMethod τ β) (subscriber : String) : List BusError :=
  (match method.params with
    | [param] =>
        if param.kind?.isNone then
          [method.refusal subscriber ("parameter type " ++ param.name ++ " is not an event")]
        else []
    | params =>
        [method.refusal subscriber
          ("listener methods take exactly one event parameter, found " ++
            toString params.length)]) ++
    if method.invoker?.isNone then [method.refusal subscriber notInvocable] else []

/-- What is to be said against binding a method to an object, or to none. -/
def receiverObjections (method : ListenerMethod τ β) (subscriber : String) (object? : Option τ) :
    List BusError :=
  match method.invoker?, object? with
  | some (.onObject _), none | some (.free _), some _ =>
      [method.refusal subscriber "receiver does not match the registration"]
  | _, _ => []

/-- All that is to be said against a method, given the verdicts of the checker. -/
def objections (method : ListenerMethod τ β) (subscriber : String) (object? : Option τ)
    (verdict : Kind → Option (Stop String)) : List (Stop BusError) :=
  (method.declarationObjections subscriber).map .raised ++
    (method.eventKind?.toList.flatMap fun kind =>
      kind.targetObjections (verdict kind) ++ kind.chainObjection?.toList.map .raised) ++
    (method.receiverObjections subscriber object?).map .raised

/-- A method without objections to its declaration takes events of some kind. -/
theorem declaredKind_cases
    (method : ListenerMethod τ β)
    (subscriber : String) :
    (∃ objection, (method.declarationObjections subscriber).head? = some objection ∧
        Admission.declaredKind subscriber method = .error objection) ∨
      ∃ kind, method.declarationObjections subscriber = [] ∧ method.eventKind? = some kind ∧
        Admission.declaredKind subscriber method = .ok kind := by
  obtain ⟨name, params, isStatic, priority, receivesCanceled, invoker?⟩ := method
  rcases params with _ | ⟨⟨paramName, kind?⟩, _ | ⟨second, rest⟩⟩
  case nil => exact .inl ⟨_, rfl, rfl⟩
  case cons.nil =>
    cases kind? with
    | none => exact .inl ⟨_, rfl, rfl⟩
    | some kind =>
        cases invoker? with
        | none => exact .inl ⟨_, rfl, rfl⟩
        | some invoker => exact .inr ⟨kind, rfl, rfl, rfl⟩
  case cons.cons => exact .inl ⟨_, rfl, rfl⟩

/-- An invocable method is bound unless its receiver does not match. -/
theorem bind_eq
    {method : ListenerMethod τ β}
    {subscriber : String}
    (declared : method.declarationObjections subscriber = [])
    (object? : Option τ) :
    (∃ objection, (method.receiverObjections subscriber object?).head? = some objection ∧
        method.bind subscriber object? = .error objection) ∨
      ∃ body, method.receiverObjections subscriber object? = [] ∧
        method.bind subscriber object? = .ok body := by
  have invocable : method.invoker?.isNone = false := by
    by_contra missing
    rw [Bool.not_eq_false] at missing
    simp [declarationObjections, missing] at declared
  unfold receiverObjections bind
  cases isInvoker : method.invoker? with
  | none => simp [isInvoker] at invocable
  | some invoker => cases invoker <;> cases object? <;> simp

end ListenerMethod

/-! ## Registrations -/

/-- The shape of a registration for an object, or for none. -/
def Shape.of (object? : Option τ) : Shape := if object?.isSome then .object else .type

namespace Host

/-- How the checker turns down a kind when it is asked in a state, if it does. -/
def verdict (host : Host σ β) (state : σ) (kind : Kind) : Option (Stop String) :=
  (host.checker kind).stop? state

/-- What is to be said against some methods. The checker is asked about each of them in the
state to which the methods before it have led. -/
def methodObjections (host : Host σ β) (subscriber : String) (object? : Option τ) :
    List (ListenerMethod τ β) → σ → List (Stop BusError)
  | [], _ => []
  | method :: rest, state =>
      method.objections subscriber object? (host.verdict state) ++
        host.methodObjections subscriber object? rest
          (host.prepareMethod subscriber object? method state).2

/-- All that is to be said against registering a class for an object, or for none. -/
def objections (host : Host σ β) (subscriber : SubscriberClass τ β) (object? : Option τ)
    (state : σ) : List (Stop BusError) :=
  (subscriber.objections (Shape.of object?)).map .raised ++
    host.methodObjections subscriber.name object? subscriber.methods state

section Outcomes

variable {host : Host σ β} {terms : Terms σ β} {state : σ}

theorem stop?_checkTarget (kind : Kind) :
    (Admission.checkTarget host.checker kind).stop? state =
      (kind.targetObjections (host.verdict state kind)).head? := by
  unfold Admission.checkTarget Kind.targetObjections
  cases kind.isAbstract with
  | true => rfl
  | false =>
      rw [if_neg Bool.false_ne_true, if_neg Bool.false_ne_true, List.nil_append,
        Admission.checkAccepted, Action.stop?_mapError, verdict]
      cases (host.checker kind).stop? state <;> rfl

/-- Whatever nodes there are, a node is refused if there is an objection to the chain of its
kind. -/
theorem stop?_nodeFor
    (filed : terms.Filed (host.bus state).index)
    (consistent : Kind.Consistent terms.known)
    {kind : Kind}
    (isKnown : terms.known kind) :
    (host.nodeFor kind).stop? state = (kind.chainObjection?.toList.map .raised).head? := by
  have apart : Kind.Consistent fun other =>
      other ∈ (host.bus state).index.kinds ∨ other = kind := by
    refine consistent.within.mono ?_
    rintro other (isKind | rfl)
    · exact filed.kinds other isKind
    · exact .self isKnown
  cases first : kind.firstOffending? with
  | none =>
      obtain ⟨id, made, found⟩ := host.exists_nodeFor (Kind.soundChain_iff.mpr first) state
      rw [Action.stop?_of_ok found, Kind.chainObjection?, first]
      rfl
  | some low =>
      obtain ⟨parent, above, isParent, isFirst, refused⟩ :=
        Index.nodeFor_of_firstOffending? filed.reachable.coherent.arena
          (filed.reachable.soundChain (apart.mono fun _ => .inl)) apart first
      have unmade : host.nodeFor kind state =
          (.error (.raised (.brokenAbstractChain low.name parent.name above.name)), state) := by
        simp only [nodeFor, Bus.nodeFor, refused]
      rw [Action.stop?_of_error unmade, Kind.chainObjection?, first]
      simp [isParent, isFirst]

variable (lawful : host.Lawful) (consistent : Kind.Consistent terms.known)
  (checks : ∀ kind state, Steps host terms state (host.checker kind state).2)
include lawful consistent checks

/-- A method fails with the first objection to it. -/
theorem stop?_prepareMethod
    (filed : terms.Filed (host.bus state).index)
    (subscriber : String)
    (object? : Option τ)
    {method : ListenerMethod τ β}
    (areKnown : ∀ param ∈ method.params, ∀ kind, param.kind? = some kind → terms.known kind) :
    (host.prepareMethod subscriber object? method).stop? state =
      (method.objections subscriber object? (host.verdict state)).head? := by
  unfold prepareMethod Admission.checkMethod
  rcases method.declaredKind_cases subscriber with
    ⟨objection, isFirst, refused⟩ | ⟨kind, declared, isKind, isDeclared⟩
  case inl =>
    rw [refused, ListenerMethod.objections, List.head?_append, List.head?_append, List.head?_map,
      isFirst]
    rfl
  -- From here on the objections are those to the kind, to its chain and to the receiver.
  have listed : method.objections subscriber object? (host.verdict state) =
      kind.targetObjections (host.verdict state kind) ++ (kind.chainObjection?.toList.map .raised ++
        (method.receiverObjections subscriber object?).map .raised) := by
    simp [ListenerMethod.objections, declared, isKind]
  have isKnown : terms.known kind := by
    obtain ⟨param, belongs, isEvent⟩ := exists_param_of_declaredKind isDeclared
    exact areKnown param belongs kind isEvent
  rw [isDeclared, Action.ofExcept_ok_bind, listed, List.head?_append, List.head?_append,
    ← stop?_checkTarget]
  rcases Action.apply_cases (Admission.checkTarget host.checker kind) state with
    ⟨_, checked, passed⟩ | ⟨stop, after, refused⟩
  case inr =>
    rw [Action.stop?_bind_of_error (Action.bind_of_error refused _), Action.stop?_of_error refused]
    rfl
  have steps : Steps host terms state checked := by
    have runs := (runs_checkTarget checks kind state).steps
    rwa [passed] at runs
  rw [Action.stop?_bind_of_ok (Action.bind_of_ok passed _), Action.stop?_of_ok passed,
    Option.none_or, ← stop?_nodeFor (steps.filed lawful filed) consistent isKnown]
  rcases Action.apply_cases (host.nodeFor kind) checked with
    ⟨node, made, found⟩ | ⟨stop, after, refused⟩
  case inr =>
    rw [Action.stop?_bind_of_error refused, Action.stop?_of_error refused]
    rfl
  rw [Action.stop?_bind_of_ok found, Action.stop?_of_ok found, Option.none_or, List.head?_map]
  rcases ListenerMethod.bind_eq declared object? with
    ⟨objection, isFirst, refused⟩ | ⟨body, fits, bound⟩
  · rw [refused, isFirst]
    rfl
  · rw [bound, fits]
    rfl

omit consistent in
theorem steps_prepareMethod
    (subscriber : String)
    (object? : Option τ)
    {method : ListenerMethod τ β}
    (areKnown : ∀ param ∈ method.params, ∀ kind, param.kind? = some kind → terms.known kind) :
    Steps host terms state (host.prepareMethod subscriber object? method state).2 := by
  have runs : (host.prepareMethod subscriber object? method).Runs (Step host terms) state
      (host.Made (fun _ _ => True) (Step host terms) state) :=
    (readies_step host terms).prepareMethod checks lawful subscriber object?
      (fun param belongs kind isEvent => ⟨areKnown param belongs kind isEvent, fun _ _ => trivial⟩)
      state
  exact runs.steps

/-- Several methods fail with the first objection to one of them. -/
theorem stop?_forEach_prepareMethod
    (filed : terms.Filed (host.bus state).index)
    (subscriber : String)
    (object? : Option τ)
    {methods : List (ListenerMethod τ β)}
    (areKnown : ∀ method ∈ methods, ∀ param ∈ method.params, ∀ kind, param.kind? = some kind →
      terms.known kind) :
    (Action.forEach (host.prepareMethod subscriber object?) methods).stop? state =
      (host.methodObjections subscriber object? methods state).head? := by
  induction methods generalizing state with
  | nil => rfl
  | cons method rest inductionHypothesis =>
      have first := stop?_prepareMethod lawful consistent checks filed subscriber object?
        (areKnown method List.mem_cons_self)
      have steps : Steps host terms state _ := steps_prepareMethod lawful checks subscriber object?
        (areKnown method List.mem_cons_self)
      rw [Action.forEach, methodObjections, List.head?_append, ← first]
      rcases Action.apply_cases (host.prepareMethod subscriber object? method) state with
        ⟨entry, changed, ended⟩ | ⟨stop, changed, ended⟩
      · rw [ended] at steps
        rw [Action.stop?_bind_of_ok ended, Action.stop?_of_ok ended, Option.none_or, ended,
          Action.stop?_bind_pure]
        exact inductionHypothesis (Steps.filed steps lawful filed) fun other isOther =>
          areKnown other (List.mem_cons_of_mem _ isOther)
      · rw [Action.stop?_bind_of_error ended, Action.stop?_of_error ended]
        rfl

/-- A registration under a free key fails with the first objection, and succeeds if there is
none. -/
theorem stop?_registerAs
    (filed : terms.Filed (host.bus state).index)
    {key : Key}
    (free : (host.bus state).isRegistered key = false)
    {subscriber : SubscriberClass τ β}
    (areKnown : TakesKnown terms.known subscriber)
    (object? : Option τ) :
    (host.registerAs key subscriber (Shape.of object?) object?).stop? state =
      (host.objections subscriber object? state).head? := by
  unfold registerAs
  rw [Action.stop?_bind_of_ok (Action.look_apply _ state), free, if_neg Bool.false_ne_true]
  have prepared : (host.prepare subscriber (Shape.of object?) object?).stop? state =
      (host.objections subscriber object? state).head? := by
    rw [prepare, Admission.select_eq, objections, List.head?_append, List.head?_map]
    cases (subscriber.objections (Shape.of object?)).head? with
    | some objection => rfl
    | none =>
        rw [Action.ofExcept_ok_bind]
        exact stop?_forEach_prepareMethod lawful consistent checks filed subscriber.name object?
          areKnown
  rw [← prepared]
  rcases Action.apply_cases (host.prepare subscriber (Shape.of object?) object?) state with
    ⟨pending, ready, ended⟩ | ⟨stop, changed, ended⟩
  · rw [Action.stop?_bind_of_ok ended, Action.stop?_of_ok ended]
    exact Action.stop?_of_ok (commit_eq_ok ..)
  · rw [Action.stop?_bind_of_error ended, Action.stop?_of_error ended]

end Outcomes
end Host
end EventRelay
