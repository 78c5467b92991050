import EventRelay.Registration
import EventRelay.Proofs.Bus.Changes

/-!
# Operations on registrations

Registering, adding and removing listeners, counting them and starting the bus come down to
changes of the bus. The checker of the host must not use the bus for that; what it does
elsewhere does not matter.
-/

namespace EventRelay
namespace Host

variable {σ τ β : Type}

/-- The bus in a state, and the number of identities issued so far. -/
def view (host : Host σ β) (state : σ) : Bus β × Nat :=
  (host.bus state, host.issued state)

/-- The checker does not use the bus. -/
def StillChecker (host : Host σ β) : Prop :=
  ∀ kind state, host.bus (host.checker kind state).2 = host.bus state ∧
    host.issued state ≤ host.issued (host.checker kind state).2

/-- Every kind that the checker ever accepts is one of these. -/
def AcceptsOnly (host : Host σ β) (accepts : Kind → Prop) : Prop :=
  ∀ kind state, (host.checker kind state).1 = .ok () → accepts kind

/-- The kinds that the methods of a class take are known. -/
def TakesKnown (known : Kind → Prop) (subscriber : SubscriberClass τ β) : Prop :=
  ∀ method ∈ subscriber.methods, ∀ param ∈ method.params, ∀ kind, param.kind? = some kind →
    known kind

namespace Lawful

variable {host : Host σ β}

theorem view_withBus
    (lawful : host.Lawful)
    (bus : Bus β)
    (state : σ) :
    host.view (host.withBus bus state) = (bus, host.issued state) := by
  rw [view, lawful.bus_withBus, lawful.issued_withBus]

theorem view_note
    (lawful : host.Lawful)
    (notice : Notice)
    (state : σ) :
    host.view (host.note notice state) = host.view state := by
  rw [view, lawful.bus_note, lawful.issued_note, view]

theorem view_noteAll
    (lawful : host.Lawful)
    (notices : List Notice)
    (state : σ) :
    host.view (host.noteAll notices state) = host.view state := by
  induction notices generalizing state with
  | nil => rfl
  | cons notice rest inductionHypothesis =>
      exact (inductionHypothesis (host.note notice state)).trans (lawful.view_note notice state)

theorem bus_modify
    (lawful : host.Lawful)
    (change : Bus β → Bus β)
    (state : σ) :
    host.bus (host.modify change state) = change (host.bus state) :=
  lawful.bus_withBus _ state

theorem view_modify
    (lawful : host.Lawful)
    (change : Bus β → Bus β)
    (state : σ) :
    host.view (host.modify change state) = (change (host.bus state), host.issued state) :=
  lawful.view_withBus _ state

theorem view_withIssued
    (lawful : host.Lawful)
    (count : Nat)
    (state : σ) :
    host.view (host.withIssued count state) = (host.bus state, count) := by
  rw [view, lawful.bus_withIssued, lawful.issued_withIssued]

end Lawful

/-! ## Making listeners ready -/

section Preparing

variable {host : Host σ β} {known accepts : Kind → Prop} {before : Bus β × Nat}
  {pending : Pending β} {state : σ}

/-- Asking the checker makes nothing ready, and a kind that passes is accepted. -/
theorem checkAccepted_cases
    (still : host.StillChecker)
    (acceptsOnly : host.AcceptsOnly accepts)
    (prepares : Bus.Prepares known accepts before pending (host.view state))
    (kind : Kind) :
    (∃ after, Admission.checkAccepted host.checker kind state = (.ok (), after) ∧
        accepts kind ∧ Bus.Prepares known accepts before pending (host.view after)) ∨
      ∃ stop after, Admission.checkAccepted host.checker kind state = (.error stop, after) ∧
        Bus.Prepares known accepts before pending (host.view after) := by
  obtain ⟨sameBus, fewer⟩ := still kind state
  have ready : Bus.Prepares known accepts before pending
      (host.view (host.checker kind state).2) := by
    rw [view, sameBus]
    exact .issue prepares fewer
  unfold Admission.checkAccepted Action.mapError
  cases asked : host.checker kind state with
  | mk outcome after =>
      rw [asked] at ready
      cases outcome with
      | ok =>
          exact .inl ⟨after, rfl, acceptsOnly kind state (congrArg Prod.fst asked), ready⟩
      | error stop =>
          cases stop with
          | raised reason => exact .inr ⟨_, after, rfl, ready⟩
          | panicked payload => exact .inr ⟨_, after, rfl, ready⟩

/-- A kind that passes as the target of a listener is also concrete. -/
theorem checkTarget_cases
    (still : host.StillChecker)
    (acceptsOnly : host.AcceptsOnly accepts)
    (prepares : Bus.Prepares known accepts before pending (host.view state))
    (kind : Kind) :
    (∃ after, Admission.checkTarget host.checker kind state = (.ok (), after) ∧
        kind.isAbstract = false ∧ accepts kind ∧
        Bus.Prepares known accepts before pending (host.view after)) ∨
      ∃ stop after, Admission.checkTarget host.checker kind state = (.error stop, after) ∧
        Bus.Prepares known accepts before pending (host.view after) := by
  unfold Admission.checkTarget
  cases isAbstract : kind.isAbstract with
  | true => exact .inr ⟨_, state, rfl, prepares⟩
  | false =>
      rcases checkAccepted_cases still acceptsOnly prepares kind with
        ⟨after, asked, accepted, ready⟩ | refused
      · exact .inl ⟨after, asked, rfl, accepted, ready⟩
      · exact .inr refused

theorem exists_of_nodeFor
    (lawful : host.Lawful)
    {kind : Kind}
    {id : Nat}
    {made : σ}
    (found : host.nodeFor kind state = (.ok id, made)) :
    ∃ index, (host.bus state).index.nodeFor kind = .ok (index, id) ∧
      host.view made = ((host.bus state).withIndex index, host.issued state) := by
  unfold nodeFor at found
  split at found
  case h_1 => cases found
  case h_2 bus _ madeBus =>
    cases found
    obtain ⟨index, madeIndex, rfl⟩ := Bus.nodeFor_eq_ok madeBus
    exact ⟨index, madeIndex, (lawful.view_noteAll _ _).trans (lawful.view_withBus _ _)⟩

/-- Asking for the node of a kind fails without a trace or gives the node. -/
theorem nodeFor_cases
    (lawful : host.Lawful)
    (prepares : Bus.Prepares known accepts before pending (host.view state))
    {kind : Kind}
    (isKnown : known kind) :
    (∃ id after, host.nodeFor kind state = (.ok id, after) ∧
        (host.bus after).index.lookup? kind.id = some id ∧
        Bus.Prepares known accepts before pending (host.view after)) ∨
      ∃ stop, host.nodeFor kind state = (.error stop, state) := by
  rcases Action.apply_cases (host.nodeFor kind) state with
    ⟨id, after, found⟩ | ⟨stop, after, refused⟩
  · obtain ⟨index, madeIndex, seen⟩ := exists_of_nodeFor lawful found
    have sameBus : host.bus after = (host.bus state).withIndex index := congrArg Prod.fst seen
    refine .inl ⟨id, after, found, ?_, ?_⟩
    · rw [sameBus]
      exact (Index.nodeFor_grows madeIndex).2
    · have madeBus : (host.bus state).nodeFor kind =
          .ok ((host.bus state).withIndex index, id) := by
        rw [Bus.nodeFor, madeIndex]
      rw [seen]
      exact .grow prepares isKnown madeBus
  · have unchanged : after = state := by
      unfold nodeFor at refused
      split at refused <;> cases refused
      rfl
    exact .inr ⟨stop, by rw [refused, unchanged]⟩

/-- A new listener for a kind that has its node is ready. -/
theorem newListener_eq
    (lawful : host.Lawful)
    (prepares : Bus.Prepares known accepts before pending (host.view state))
    {kind : Kind}
    (isKnown : known kind)
    (concrete : kind.isAbstract = false)
    (accepted : accepts kind)
    {node : Nat}
    (hasNode : (host.bus state).index.lookup? kind.id = some node)
    (priority : Priority)
    (receivesCanceled : Bool)
    (description : String)
    (body : β) :
    ∃ listener after,
      host.newListener kind priority receivesCanceled description body state =
        (.ok listener, after) ∧
      Bus.Prepares known accepts before (pending ++ [(node, listener)]) (host.view after) := by
  refine ⟨.create ⟨host.issued state + 1⟩ kind priority receivesCanceled description body,
    host.withIssued (host.issued state + 1) state, rfl, ?_⟩
  rw [lawful.view_withIssued]
  exact .listener priority receivesCanceled description body prepares isKnown concrete accepted
    hasNode

/-- What is known of a method that passes the check of its parameters. -/
theorem declaredKind_eq_ok
    {subscriber : String}
    {method : ListenerMethod τ β}
    {kind : Kind}
    (declared : Admission.declaredKind subscriber method = .ok kind) :
    method.invoker?.isSome = true ∧
      ∃ param, method.params = [param] ∧ param.kind? = some kind := by
  unfold Admission.declaredKind at declared
  split at declared
  case h_1 param single =>
    split at declared
    case h_1 found isEvent =>
      split at declared
      case isTrue isInvocable =>
        cases declared
        exact ⟨isInvocable, param, single, isEvent⟩
      case isFalse => cases declared
    case h_2 => cases declared
  case h_2 => cases declared

/-- The kind that a method takes is that of one of its parameters. -/
theorem exists_param_of_declaredKind
    {subscriber : String}
    {method : ListenerMethod τ β}
    {kind : Kind}
    (declared : Admission.declaredKind subscriber method = .ok kind) :
    ∃ param ∈ method.params, param.kind? = some kind := by
  obtain ⟨-, param, single, isEvent⟩ := declaredKind_eq_ok declared
  exact ⟨param, by simp [single], isEvent⟩

/-- Checking a method makes nothing ready, and the kind of one that passes can be listened
to. -/
theorem checkMethod_cases
    (still : host.StillChecker)
    (acceptsOnly : host.AcceptsOnly accepts)
    (prepares : Bus.Prepares known accepts before pending (host.view state))
    (subscriber : String)
    {method : ListenerMethod τ β}
    (isKnown : ∀ param ∈ method.params, ∀ kind, param.kind? = some kind → known kind) :
    (∃ kind after, Admission.checkMethod host.checker subscriber method state = (.ok kind, after) ∧
        known kind ∧ kind.isAbstract = false ∧ accepts kind ∧
        Bus.Prepares known accepts before pending (host.view after)) ∨
      ∃ stop after,
        Admission.checkMethod host.checker subscriber method state = (.error stop, after) ∧
        Bus.Prepares known accepts before pending (host.view after) := by
  unfold Admission.checkMethod
  cases declared : Admission.declaredKind subscriber method with
  | error error => exact .inr ⟨_, state, rfl, prepares⟩
  | ok kind =>
      obtain ⟨param, belongs, isEvent⟩ := exists_param_of_declaredKind declared
      rw [Action.ofExcept_ok_bind]
      rcases checkTarget_cases still acceptsOnly prepares kind with
        ⟨after, passed, concrete, accepted, ready⟩ | ⟨stop, after, refused, ready⟩
      · rw [Action.bind_of_ok passed]
        exact .inl ⟨kind, after, rfl, isKnown param belongs kind isEvent, concrete, accepted, ready⟩
      · rw [Action.bind_of_error refused]
        exact .inr ⟨stop, after, rfl, ready⟩

/-- Making a method ready adds one listener to those that are ready, or none if it fails. -/
theorem prepareMethod_cases
    (lawful : host.Lawful)
    (still : host.StillChecker)
    (acceptsOnly : host.AcceptsOnly accepts)
    (prepares : Bus.Prepares known accepts before pending (host.view state))
    (subscriber : String)
    (object? : Option τ)
    {method : ListenerMethod τ β}
    (isKnown : ∀ param ∈ method.params, ∀ kind, param.kind? = some kind → known kind) :
    (∃ entry after, host.prepareMethod subscriber object? method state = (.ok entry, after) ∧
        Bus.Prepares known accepts before (pending ++ [entry]) (host.view after)) ∨
      ∃ stop after, host.prepareMethod subscriber object? method state = (.error stop, after) ∧
        Bus.Prepares known accepts before pending (host.view after) := by
  unfold prepareMethod
  rcases checkMethod_cases still acceptsOnly prepares subscriber isKnown with
    ⟨kind, checked, passed, kindKnown, concrete, accepted, ready⟩ | ⟨stop, after, refused, ready⟩
  · rw [Action.bind_of_ok passed]
    rcases nodeFor_cases lawful ready kindKnown with
      ⟨node, made, found, hasNode, ready⟩ | ⟨stop, refused⟩
    · rw [Action.bind_of_ok found]
      cases bound : method.bind subscriber object? with
      | error error => exact .inr ⟨_, made, rfl, ready⟩
      | ok body =>
          obtain ⟨listener, after, created, ready⟩ := newListener_eq lawful ready kindKnown concrete
            accepted hasNode method.priority method.receivesCanceled
            (subscriber ++ "::" ++ method.name ++ "(" ++ kind.name ++ ")") body
          rw [Action.ofExcept_ok_bind, Action.bind_of_ok created]
          exact .inl ⟨(node, listener), after, rfl, ready⟩
    · rw [Action.bind_of_error refused]
      exact .inr ⟨stop, checked, rfl, ready⟩
  · rw [Action.bind_of_error refused]
    exact .inr ⟨stop, after, rfl, ready⟩

/-- Making several methods ready adds a listener for each of them if it succeeds. -/
theorem forEach_prepareMethod_cases
    (lawful : host.Lawful)
    (still : host.StillChecker)
    (acceptsOnly : host.AcceptsOnly accepts)
    (prepares : Bus.Prepares known accepts before pending (host.view state))
    (subscriber : String)
    (object? : Option τ)
    {methods : List (ListenerMethod τ β)}
    (areKnown : ∀ method ∈ methods, ∀ param ∈ method.params, ∀ kind,
      param.kind? = some kind → known kind) :
    (∃ made after, Action.forEach (host.prepareMethod subscriber object?) methods state =
        (.ok made, after) ∧ made.length = methods.length ∧
        Bus.Prepares known accepts before (pending ++ made) (host.view after)) ∨
      ∃ stop after made, Action.forEach (host.prepareMethod subscriber object?) methods state =
        (.error stop, after) ∧
        Bus.Prepares known accepts before (pending ++ made) (host.view after) := by
  induction methods generalizing pending state with
  | nil => exact .inl ⟨[], state, rfl, rfl, by rwa [List.append_nil]⟩
  | cons method rest inductionHypothesis =>
      rw [Action.forEach]
      rcases prepareMethod_cases lawful still acceptsOnly prepares subscriber object?
          (areKnown method List.mem_cons_self) with
        ⟨entry, middle, first, ready⟩ | ⟨stop, after, refused, ready⟩
      · rw [Action.bind_of_ok first]
        rcases inductionHypothesis ready fun other isOther =>
            areKnown other (List.mem_cons_of_mem _ isOther) with
          ⟨made, after, others, counted, ready⟩ | ⟨stop, after, made, refused, ready⟩
        · rw [Action.bind_of_ok others]
          rw [List.append_assoc] at ready
          exact .inl ⟨entry :: made, after, rfl, congrArg Nat.succ counted, ready⟩
        · rw [Action.bind_of_error refused]
          rw [List.append_assoc] at ready
          exact .inr ⟨stop, after, entry :: made, rfl, ready⟩
      · rw [Action.bind_of_error refused]
        exact .inr ⟨stop, after, [], rfl, by rwa [List.append_nil]⟩

end Preparing

/-! ## Operations on registrations -/

section Registering

variable {host : Host σ β} {known accepts : Kind → Prop}

/-- The bus itself ignores a commit under a key that is taken. -/
theorem view_commit
    (lawful : host.Lawful)
    (key : Key)
    (name : String)
    (pending : Pending β)
    (state : σ) :
    host.view (host.commit key name pending state).2 =
      ((host.bus state).commit key pending, host.issued state) := by
  unfold commit
  split
  case isTrue taken =>
    rw [Bus.commit, if_pos taken]
    rfl
  case isFalse => rw [lawful.view_note, lawful.view_modify]

/-- A class without methods is never selected for a registration. -/
theorem ne_nil_of_select
    {subscriber : SubscriberClass τ β}
    {shape : Shape}
    {methods : List (ListenerMethod τ β)}
    (selected : Admission.select subscriber shape = .ok methods) :
    methods = subscriber.methods ∧ methods ≠ [] := by
  unfold Admission.select at selected
  split at selected
  case h_1 => cases selected
  case h_2 =>
    split at selected
    case h_1 => cases selected
    case h_2 =>
      split at selected
      case isTrue => cases selected
      case isFalse someMethods =>
        cases selected
        exact ⟨rfl, by simpa using someMethods⟩

/-- Making a class ready makes at least one listener ready if it succeeds. -/
theorem prepare_cases
    (lawful : host.Lawful)
    (still : host.StillChecker)
    (acceptsOnly : host.AcceptsOnly accepts)
    (subscriber : SubscriberClass τ β)
    (shape : Shape)
    (object? : Option τ)
    (areKnown : TakesKnown known subscriber)
    (state : σ) :
    (∃ pending after, host.prepare subscriber shape object? state = (.ok pending, after) ∧
        pending ≠ [] ∧ Bus.Prepares known accepts (host.view state) pending (host.view after)) ∨
      ∃ stop after pending, host.prepare subscriber shape object? state = (.error stop, after) ∧
        Bus.Prepares known accepts (host.view state) pending (host.view after) := by
  unfold prepare
  cases selected : Admission.select subscriber shape with
  | error error => exact .inr ⟨_, state, [], rfl, .start⟩
  | ok methods =>
      obtain ⟨rfl, someMethods⟩ := ne_nil_of_select selected
      rw [Action.ofExcept_ok_bind]
      rcases forEach_prepareMethod_cases lawful still acceptsOnly .start subscriber.name object?
          areKnown with
        ⟨pending, after, made, counted, ready⟩ | ⟨stop, after, pending, refused, ready⟩
      · refine .inl ⟨pending, after, made, ?_, ready⟩
        rintro rfl
        exact someMethods (List.length_eq_zero_iff.mp counted.symm)
      · exact .inr ⟨stop, after, pending, refused, ready⟩

theorem commit_eq_ok
    (host : Host σ β)
    (key : Key)
    (name : String)
    (pending : Pending β)
    (state : σ) :
    host.commit key name pending state = (.ok (), (host.commit key name pending state).2) := by
  unfold commit
  split <;> rfl

/-- A registration succeeds, or it fails after some listeners have been made ready. -/
theorem registerAs_cases
    (lawful : host.Lawful)
    (still : host.StillChecker)
    (acceptsOnly : host.AcceptsOnly accepts)
    (key : Key)
    (subscriber : SubscriberClass τ β)
    (shape : Shape)
    (object? : Option τ)
    (areKnown : TakesKnown known subscriber)
    (state : σ) :
    (∃ after, host.registerAs key subscriber shape object? state = (.ok (), after) ∧
        Bus.Changes known accepts (host.view state) (host.view after)) ∨
      ∃ stop after pending, host.registerAs key subscriber shape object? state =
          (.error stop, after) ∧
        Bus.Prepares known accepts (host.view state) pending (host.view after) := by
  unfold registerAs
  rw [Action.bind_of_ok (Action.look_apply _ state)]
  cases (host.bus state).isRegistered key with
  | true => exact .inl ⟨state, rfl, .refl⟩
  | false =>
      rw [if_neg Bool.false_ne_true]
      rcases prepare_cases lawful still acceptsOnly subscriber shape object? areKnown state with
        ⟨pending, prepared, made, someReady, ready⟩ | ⟨stop, after, pending, refused, ready⟩
      · rw [Action.bind_of_ok made, commit_eq_ok]
        refine .inl ⟨_, rfl, ?_⟩
        rw [view_commit lawful]
        exact .single (.commit key ready someReady)
      · rw [Action.bind_of_error refused]
        exact .inr ⟨stop, after, pending, rfl, ready⟩

/-- The same of a single listener, except that at most nodes have been made for it. -/
theorem addListener_cases
    (lawful : host.Lawful)
    (still : host.StillChecker)
    (acceptsOnly : host.AcceptsOnly accepts)
    {kind : Kind}
    (isKnown : known kind)
    (priority : Priority)
    (receivesCanceled : Bool)
    (description : String)
    (body : β)
    (state : σ) :
    (∃ id after, host.addListener kind priority receivesCanceled description body state =
          (.ok id, after) ∧
        Bus.Changes known accepts (host.view state) (host.view after)) ∨
      ∃ stop after, host.addListener kind priority receivesCanceled description body state =
          (.error stop, after) ∧
        Bus.Prepares known accepts (host.view state) [] (host.view after) := by
  unfold addListener
  rcases checkTarget_cases still acceptsOnly .start kind with
    ⟨checked, passed, concrete, accepted, ready⟩ | ⟨stop, after, refused, ready⟩
  · rw [Action.bind_of_ok passed]
    rcases nodeFor_cases lawful ready isKnown with
      ⟨node, made, found, hasNode, ready⟩ | ⟨stop, refused⟩
    · rw [Action.bind_of_ok found]
      obtain ⟨listener, after, created, ready⟩ := newListener_eq lawful ready isKnown concrete
        accepted hasNode priority receivesCanceled description body
      rw [Action.bind_of_ok created, Action.bind_of_ok (commit_eq_ok ..)]
      refine .inl ⟨listener.id, _, rfl, ?_⟩
      rw [view_commit lawful]
      exact .single (.commit _ ready (List.cons_ne_nil _ _))
    · rw [Action.bind_of_error refused]
      exact .inr ⟨stop, checked, rfl, ready⟩
  · rw [Action.bind_of_error refused]
    exact .inr ⟨stop, after, rfl, ready⟩

theorem registerAs_changes
    (lawful : host.Lawful)
    (still : host.StillChecker)
    (acceptsOnly : host.AcceptsOnly accepts)
    (key : Key)
    (subscriber : SubscriberClass τ β)
    (shape : Shape)
    (object? : Option τ)
    (areKnown : TakesKnown known subscriber)
    (state : σ) :
    Bus.Changes known accepts (host.view state)
      (host.view (host.registerAs key subscriber shape object? state).2) := by
  rcases registerAs_cases lawful still acceptsOnly key subscriber shape object? areKnown state with
    ⟨after, ended, changes⟩ | ⟨stop, after, pending, ended, ready⟩
  · rwa [ended]
  · rw [ended]
    exact .single (.prepare ready)

theorem addListener_changes
    (lawful : host.Lawful)
    (still : host.StillChecker)
    (acceptsOnly : host.AcceptsOnly accepts)
    {kind : Kind}
    (isKnown : known kind)
    (priority : Priority)
    (receivesCanceled : Bool)
    (description : String)
    (body : β)
    (state : σ) :
    Bus.Changes known accepts (host.view state)
      (host.view (host.addListener kind priority receivesCanceled description body state).2) := by
  rcases addListener_cases lawful still acceptsOnly isKnown priority receivesCanceled description
      body state with
    ⟨id, after, ended, changes⟩ | ⟨stop, after, ended, ready⟩
  · rwa [ended]
  · rw [ended]
    exact .single (.prepare ready)

theorem unregister_changes
    (lawful : host.Lawful)
    (key : Key)
    (state : σ) :
    Bus.Changes known accepts (host.view state) (host.view (host.unregister key state).2) := by
  unfold unregister
  split
  case h_1 => exact .refl
  case h_2 =>
    rw [lawful.view_note, lawful.view_modify]
    exact .single (.unregister _ _ key)

theorem view_start
    (lawful : host.Lawful)
    (state : σ) :
    host.view (host.start state) = ((host.bus state).start, host.issued state) := by
  unfold start
  split
  case isTrue => rw [lawful.view_note, lawful.view_modify]
  case isFalse running =>
    rw [view, Bus.start, ← Bool.eq_false_iff.mpr running]

theorem start_changes
    (lawful : host.Lawful)
    (state : σ) :
    Bus.Changes known accepts (host.view state) (host.view (host.start state)) := by
  rw [view_start lawful]
  exact .single (.start _ _)

theorem view_refresh
    (lawful : host.Lawful)
    (id : Nat)
    (state : σ) :
    host.view (host.refresh id state) = ((host.bus state).refresh id, host.issued state) := by
  rw [refresh, lawful.view_noteAll, lawful.view_withBus]

theorem nodeFor_changes
    (lawful : host.Lawful)
    {kind : Kind}
    (isKnown : known kind)
    (state : σ) :
    Bus.Changes known accepts (host.view state) (host.view (host.nodeFor kind state).2) := by
  rcases nodeFor_cases lawful .start isKnown with
    ⟨id, after, found, _, ready⟩ | ⟨stop, refused⟩
  · rw [found]
    exact .single (.prepare ready)
  · rw [refused]

theorem listenerCount_changes
    (lawful : host.Lawful)
    {kind : Kind}
    (isKnown : known kind)
    (state : σ) :
    Bus.Changes known accepts (host.view state) (host.view (host.listenerCount kind state).2) := by
  have asked : Bus.Changes known accepts (host.view state) _ := nodeFor_changes lawful isKnown state
  unfold listenerCount
  rcases Action.bind_cases (host.nodeFor kind) _ state with
    ⟨id, made, found, goesOn⟩ | ⟨stop, after, refused, ends⟩
  · rw [goesOn]
    rw [found] at asked
    refine asked.tail ?_
    change Bus.Change _ _ _ (host.view (host.refresh id made))
    rw [view_refresh lawful]
    exact .refresh _ _ id
  · rw [ends]
    rwa [refused] at asked

end Registering
end Host
end EventRelay
