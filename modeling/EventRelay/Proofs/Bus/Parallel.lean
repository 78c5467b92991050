import EventRelay.Registration

/-!
# Runs side by side

The same operation is performed in two states that are related. What registrations do depends
on the listener lists, on the table of registrations and on the number of issued identities
only. So if these agree, and the checker answers alike, the operation ends alike in both states
and leaves them related.
-/

namespace EventRelay

variable {σ τ β : Type}

namespace Action

variable {ε ε' α γ : Type}

/-- From related states the action ends alike, in related states. -/
def Parallel (related : σ → σ → Prop) (action : Action σ ε α) : Prop :=
  ∀ first second, related first second →
    (action first).1 = (action second).1 ∧ related (action first).2 (action second).2

namespace Parallel

variable {related : σ → σ → Prop}

protected theorem pure (result : α) : Parallel related (pure result : Action σ ε α) :=
  fun _ _ alike => ⟨rfl, alike⟩

theorem raise (error : ε) : Parallel related (Action.raise error : Action σ ε α) :=
  fun _ _ alike => ⟨rfl, alike⟩

theorem ofExcept (outcome : Except ε α) :
    Parallel related (Action.ofExcept outcome : Action σ ε α) := by
  cases outcome with
  | ok result => exact .pure result
  | error error => exact .raise error

theorem look
    {view : σ → α}
    (same : ∀ first second, related first second → view first = view second) :
    Parallel related (Action.look view : Action σ ε α) :=
  fun first second alike => ⟨congrArg Except.ok (same first second alike), alike⟩

theorem change
    {function : σ → σ}
    (keeps : ∀ first second, related first second →
      related (function first) (function second)) :
    Parallel related (Action.change function : Action σ ε Unit) :=
  fun first second alike => ⟨rfl, keeps first second alike⟩

protected theorem bind
    {action : Action σ ε α}
    {next : α → Action σ ε γ}
    (here : Parallel related action)
    (rest : ∀ result, Parallel related (next result)) :
    Parallel related (action >>= next) := by
  intro first second alike
  obtain ⟨sameEnd, stillAlike⟩ := here first second alike
  rcases bind_cases action next first with
    ⟨result, changed, ended, goesOn⟩ | ⟨stop, changed, ended, ends⟩
  · rw [ended] at sameEnd stillAlike
    have endedToo : action second = (.ok result, (action second).2) := Prod.ext sameEnd.symm rfl
    rw [goesOn, bind_of_ok endedToo]
    exact rest result _ _ stillAlike
  · rw [ended] at sameEnd stillAlike
    have endedToo : action second = (.error stop, (action second).2) :=
      Prod.ext sameEnd.symm rfl
    rw [ends, bind_of_error endedToo]
    exact ⟨rfl, stillAlike⟩

theorem mapError
    {action : Action σ ε α}
    (here : Parallel related action)
    (function : ε → ε') :
    Parallel related (action.mapError function) := by
  intro first second alike
  obtain ⟨sameEnd, stillAlike⟩ := here first second alike
  unfold Action.mapError
  rcases apply_cases action first with ⟨result, changed, ended⟩ | ⟨stop, changed, ended⟩
  · rw [ended] at sameEnd stillAlike
    have endedToo : action second = (.ok result, (action second).2) := Prod.ext sameEnd.symm rfl
    rw [ended, endedToo]
    exact ⟨rfl, stillAlike⟩
  · rw [ended] at sameEnd stillAlike
    have endedToo : action second = (.error stop, (action second).2) :=
      Prod.ext sameEnd.symm rfl
    rw [ended, endedToo]
    cases stop <;> exact ⟨rfl, stillAlike⟩

theorem forEach
    {action : α → Action σ ε γ}
    (each : ∀ element, Parallel related (action element))
    (elements : List α) :
    Parallel related (Action.forEach action elements) := by
  induction elements with
  | nil => exact .pure []
  | cons element rest inductionHypothesis =>
      exact (each element).bind fun first => inductionHypothesis.bind fun others => .pure _

end Parallel
end Action

namespace Host

open EventRelay.Action (Parallel)

/-- In related states a bus has the same listeners, the checker answers alike, and whatever a
registration changes leaves the states related. -/
structure Pairs (host : Host σ β) (related : σ → σ → Prop) : Prop where
  index : ∀ {first second}, related first second →
    (host.bus first).index = (host.bus second).index
  registrations : ∀ {first second}, related first second →
    (host.bus first).registrations = (host.bus second).registrations
  issued : ∀ {first second}, related first second → host.issued first = host.issued second
  withIndex : ∀ {first second} index, related first second →
    related (host.modify (fun bus => bus.withIndex index) first)
      (host.modify (fun bus => bus.withIndex index) second)
  commit : ∀ {first second} key pending, related first second →
    related (host.modify (fun bus => bus.commit key pending) first)
      (host.modify (fun bus => bus.commit key pending) second)
  unregister : ∀ {first second} key, related first second →
    related (host.modify (fun bus => bus.unregister key) first)
      (host.modify (fun bus => bus.unregister key) second)
  withIssued : ∀ {first second} count, related first second →
    related (host.withIssued count first) (host.withIssued count second)
  note : ∀ {first second} notice, related first second →
    related (host.note notice first) (host.note notice second)
  checker : ∀ kind, Parallel related (host.checker kind)

namespace Pairs

variable {host : Host σ β} {related : σ → σ → Prop} {first second : σ}

theorem registered?
    (pairs : host.Pairs related)
    (alike : related first second)
    (key : Key) :
    (host.bus first).registered? key = (host.bus second).registered? key :=
  congrArg (fun registrations => registrations.lookup key) (pairs.registrations alike)

theorem isRegistered
    (pairs : host.Pairs related)
    (alike : related first second)
    (key : Key) :
    (host.bus first).isRegistered key = (host.bus second).isRegistered key :=
  congrArg Option.isSome (pairs.registered? alike key)

theorem noteAll
    (pairs : host.Pairs related)
    (notices : List Notice)
    (alike : related first second) :
    related (host.noteAll notices first) (host.noteAll notices second) := by
  induction notices generalizing first second with
  | nil => exact alike
  | cons notice rest inductionHypothesis =>
      exact inductionHypothesis (pairs.note notice alike)

theorem checkTarget
    (pairs : host.Pairs related)
    (kind : Kind) :
    Parallel related (Admission.checkTarget host.checker kind) := by
  unfold Admission.checkTarget
  split
  case isTrue => exact .raise _
  case isFalse => exact (pairs.checker kind).mapError _

theorem checkMethod
    (pairs : host.Pairs related)
    (subscriber : String)
    (method : ListenerMethod τ β) :
    Parallel related (Admission.checkMethod host.checker subscriber method) :=
  (Parallel.ofExcept _).bind fun kind => (pairs.checkTarget kind).bind fun _ => .pure kind

theorem nodeFor
    (pairs : host.Pairs related)
    (kind : Kind) :
    Parallel related (host.nodeFor kind) := by
  intro first second alike
  have sameIndex := pairs.index alike
  unfold Host.nodeFor Bus.nodeFor
  rw [sameIndex]
  cases (host.bus second).index.nodeFor kind with
  | error error => exact ⟨rfl, alike⟩
  | ok made =>
      obtain ⟨index, id⟩ := made
      exact ⟨rfl, pairs.noteAll _ (pairs.withIndex index alike)⟩

theorem newListener
    (pairs : host.Pairs related)
    (kind : Kind)
    (priority : Priority)
    (receivesCanceled : Bool)
    (description : String)
    (body : β) :
    Parallel related (host.newListener kind priority receivesCanceled description body) := by
  intro first second alike
  have sameIssued := pairs.issued alike
  change (Except.ok (Listener.create ⟨host.issued first + 1⟩ _ _ _ _ _) : Outcome BusError _) =
      .ok (Listener.create ⟨host.issued second + 1⟩ _ _ _ _ _) ∧
    related (host.withIssued (host.issued first + 1) first)
      (host.withIssued (host.issued second + 1) second)
  rw [sameIssued]
  exact ⟨rfl, pairs.withIssued _ alike⟩

theorem commitTo
    (pairs : host.Pairs related)
    (key : Key)
    (name : String)
    (pending : Pending β) :
    Parallel related (host.commit key name pending) := by
  intro first second alike
  unfold Host.commit
  rw [pairs.isRegistered alike key]
  split
  case isTrue => exact ⟨rfl, alike⟩
  case isFalse => exact ⟨rfl, pairs.note _ (pairs.commit key pending alike)⟩

theorem registerAs
    (pairs : host.Pairs related)
    (key : Key)
    (subscriber : SubscriberClass τ β)
    (shape : Shape)
    (object? : Option τ) :
    Parallel related (host.registerAs key subscriber shape object?) := by
  have prepareMethod (method : ListenerMethod τ β) :
      Parallel related (host.prepareMethod subscriber.name object? method) :=
    (pairs.checkMethod subscriber.name method).bind fun kind =>
      (pairs.nodeFor kind).bind fun node =>
        (Parallel.ofExcept _).bind fun body =>
          (pairs.newListener kind _ _ _ body).bind fun listener => .pure (node, listener)
  have prepare : Parallel related (host.prepare subscriber shape object?) :=
    (Parallel.ofExcept _).bind fun methods => .forEach prepareMethod methods
  have looked : Parallel related
      (Action.look fun state => (host.bus state).isRegistered key : Action σ BusError Bool) :=
    .look fun _ _ alike => pairs.isRegistered alike key
  refine looked.bind fun taken => ?_
  cases taken with
  | true => exact .pure ()
  | false => exact prepare.bind fun pending => pairs.commitTo key _ pending

theorem addListener
    (pairs : host.Pairs related)
    (kind : Kind)
    (priority : Priority)
    (receivesCanceled : Bool)
    (description : String)
    (body : β) :
    Parallel related (host.addListener kind priority receivesCanceled description body) :=
  (pairs.checkTarget kind).bind fun _ =>
    (pairs.nodeFor kind).bind fun _ =>
      (pairs.newListener kind priority receivesCanceled description body).bind fun listener =>
        (pairs.commitTo _ _ _).bind fun _ => .pure listener.id

theorem refresh
    (pairs : host.Pairs related)
    (id : Nat)
    (alike : related first second) :
    related (host.refresh id first) (host.refresh id second) := by
  have shape (state : σ) : host.refresh id state =
      host.noteAll ((host.bus state).index.rebuiltBy id)
        (host.modify (fun bus => bus.withIndex ((host.bus state).index.refresh id)) state) := rfl
  rw [shape, shape, pairs.index alike]
  exact pairs.noteAll _ (pairs.withIndex _ alike)

theorem listenerCount
    (pairs : host.Pairs related)
    (kind : Kind) :
    Parallel related (host.listenerCount kind) := by
  refine (pairs.nodeFor kind).bind fun id => ?_
  have flattened : Parallel related (host.flattened id) :=
    (Parallel.change fun _ _ alike => pairs.refresh id alike).bind fun _ =>
      .look fun _ _ alike => by rw [pairs.index alike]
  exact flattened.bind fun listeners => .pure _

/-- Whether there was anything is answered alike, too. -/
theorem unregisterFrom
    (pairs : host.Pairs related)
    (key : Key)
    (alike : related first second) :
    (host.unregister key first).1 = (host.unregister key second).1 ∧
      related (host.unregister key first).2 (host.unregister key second).2 := by
  unfold Host.unregister
  rw [pairs.registered? alike key]
  cases (host.bus second).registered? key with
  | none => exact ⟨rfl, alike⟩
  | some listeners => exact ⟨rfl, pairs.note _ (pairs.unregister key alike)⟩

end Pairs
end Host
end EventRelay
