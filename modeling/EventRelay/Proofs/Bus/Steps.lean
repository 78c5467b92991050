import EventRelay.Proofs.Bus.Matched
import EventRelay.Proofs.Bus.Runs

/-!
# Steps of a run

Operations on a bus that follow each other or are performed inside one another, also by the
checker, make up a run. Here a run is held to terms that say more about it than that kinds are
known: which bodies may be registered for a kind, and what may be done besides.

Every run is a sequence of single steps, and so a property that each step keeps holds from the
beginning of a run to its end.
-/

namespace EventRelay

variable {σ τ β : Type}

namespace Host

/-! ## Runs -/

/-- What the operations of a run are held to. -/
structure Terms (σ β : Type) where
  /-- Kinds that are named. -/
  known : Kind → Prop
  /-- Bodies that are registered for a kind. -/
  suits : Kind → β → Prop
  /-- What is done besides, without the bus. -/
  aside : σ → σ → Prop

/-- The methods of a class take known kinds and are bound to bodies that suit them. -/
def Terms.Admits (terms : Terms σ β) (subscriber : SubscriberClass τ β) : Prop :=
  ∀ method ∈ subscriber.methods, ∀ param ∈ method.params, ∀ kind, param.kind? = some kind →
    terms.known kind ∧ ∀ object? body, method.bind subscriber.name object? = .ok body →
      terms.suits kind body

/-- A state is reached from another by operations on the bus that keep to the terms. Whether
they succeed does not matter. Where an operation asks the checker, and while a post runs its
bodies and the handler, more of the run may take place. -/
inductive Performs (host : Host σ β) (terms : Terms σ β) : σ → σ → Prop
  /-- Nothing is done. -/
  | refl (state : σ) : Performs host terms state state
  /-- One thing is done after the other. -/
  | trans {first middle last : σ} :
      Performs host terms first middle → Performs host terms middle last →
      Performs host terms first last
  /-- Something is done that leaves the bus alone. -/
  | aside {before after : σ} :
      terms.aside before after → host.bus after = host.bus before →
      Performs host terms before after
  | register {τ : Type} (key : Key) {subscriber : SubscriberClass τ β} (object : τ) (state : σ) :
      terms.Admits subscriber →
      (∀ kind state, Performs host terms state (host.checker kind state).2) →
      Performs host terms state (host.register key subscriber object state).2
  | registerType {τ : Type} (key : Key) {subscriber : SubscriberClass τ β} (state : σ) :
      terms.Admits subscriber →
      (∀ kind state, Performs host terms state (host.checker kind state).2) →
      Performs host terms state (host.registerType key subscriber state).2
  /-- A single listener is added. -/
  | addListener {kind : Kind} (priority : Priority) (receivesCanceled : Bool)
      (description : String) {body : β} (state : σ) :
      terms.known kind → terms.suits kind body →
      (∀ kind state, Performs host terms state (host.checker kind state).2) →
      Performs host terms state
        (host.addListener kind priority receivesCanceled description body state).2
  | unregister (key : Key) (state : σ) : Performs host terms state (host.unregister key state).2
  | start (state : σ) : Performs host terms state (host.start state)
  /-- The listeners of a kind are counted. -/
  | listenerCount {kind : Kind} (state : σ) :
      terms.known kind → Performs host terms state (host.listenerCount kind state).2
  | post {run : β → Handler σ} {handle : Incident β → Action σ Empty Unit} {event : Event}
      (state : σ) :
      terms.known event.kind →
      (∀ kind state, Performs host terms state (host.checker kind state).2) →
      (∀ body event state, terms.known event.kind →
        terms.known (run body (event, state)).2.1.kind) →
      (∀ body event state, terms.known event.kind →
        Performs host terms state (run body (event, state)).2.2) →
      (∀ incident state, terms.known incident.event.kind →
        Performs host terms state (handle incident state).2) →
      Performs host terms state ((host.withCode run handle).post (event, state)).2.2
  /-- An event is posted to the listeners of one priority. -/
  | postPhase {run : β → Handler σ} {handle : Incident β → Action σ Empty Unit} {event : Event}
      (phase : Priority) (state : σ) :
      terms.known event.kind →
      (∀ kind state, Performs host terms state (host.checker kind state).2) →
      (∀ body event state, terms.known event.kind →
        terms.known (run body (event, state)).2.1.kind) →
      (∀ body event state, terms.known event.kind →
        Performs host terms state (run body (event, state)).2.2) →
      (∀ incident state, terms.known incident.event.kind →
        Performs host terms state (handle incident state).2) →
      Performs host terms state ((host.withCode run handle).postPhase phase (event, state)).2.2

/-! ## Steps -/

/-- A listener can be added to a node: it keeps to the terms, and the node is that of its
kind. -/
structure Terms.Ready (terms : Terms σ β) (index : Index β) (entry : Nat × Listener β) :
    Prop where
  known : terms.known entry.2.kind
  suits : terms.suits entry.2.kind entry.2.body
  node : index.lookup? entry.2.kind.id = some entry.1

/-- The single steps of a run. -/
inductive Step (host : Host σ β) (terms : Terms σ β) : σ → σ → Prop
  | aside {before after : σ} :
      terms.aside before after → host.bus after = host.bus before →
      Step host terms before after
  | note (notice : Notice) (state : σ) : Step host terms state (host.note notice state)
  /-- An identity is issued. -/
  | issue (state : σ) : Step host terms state (host.issueId state).2
  /-- The node of a kind is found or made. -/
  | grow {kind : Kind} {bus : Bus β} {id : Nat} (state : σ) :
      terms.known kind → (host.bus state).nodeFor kind = .ok (bus, id) →
      Step host terms state (host.withBus bus state)
  | refresh (id : Nat) (state : σ) :
      Step host terms state (host.modify (fun bus => bus.refresh id) state)
  | commit (key : Key) {pending : Pending β} (state : σ) :
      (∀ entry ∈ pending, terms.Ready (host.bus state).index entry) →
      Step host terms state (host.modify (fun bus => bus.commit key pending) state)
  | unregister (key : Key) (state : σ) :
      Step host terms state (host.modify (fun bus => bus.unregister key) state)
  | start (state : σ) : Step host terms state (host.modify Bus.start state)
  | recordPost (ran : Nat) (state : σ) :
      Step host terms state (host.modify (fun bus => bus.recordPost ran) state)
  | recordFailure (state : σ) : Step host terms state (host.modify Bus.recordFailure state)

/-- Several steps one after the other. -/
abbrev Steps (host : Host σ β) (terms : Terms σ β) : σ → σ → Prop :=
  Relation.ReflTransGen (Step host terms)

end Host

namespace Bus

theorem frame_commit
    (bus : Bus β)
    (key : Key)
    (pending : Pending β) :
    (bus.commit key pending).index.frame = bus.index.frame := by
  unfold commit
  split
  case isTrue => rfl
  case isFalse => exact frame_insertAll bus.index pending

theorem frame_unregister
    (bus : Bus β)
    (key : Key) :
    (bus.unregister key).index.frame = bus.index.frame := by
  unfold unregister
  split
  case h_1 => rfl
  case h_2 => exact Index.frame_purge bus.index _

end Bus

namespace Host

variable {host : Host σ β} {terms : Terms σ β}

/-- A step makes the node of a known kind, or it keeps the nodes. -/
theorem Step.grows_or_frame_eq
    {before after : σ}
    (step : Step host terms before after)
    (lawful : host.Lawful) :
    (∃ kind, terms.known kind ∧ Index.GrowsTo (· ∈ kind.ancestors) (host.bus before).index
        (host.bus after).index) ∨
      (host.bus after).index.frame = (host.bus before).index.frame := by
  cases step with
  | aside _ sameBus => exact .inr (by rw [sameBus])
  | note notice state => exact .inr (by rw [lawful.bus_note])
  | issue state =>
      refine .inr ?_
      change (host.bus (host.withIssued _ before)).index.frame = _
      rw [lawful.bus_withIssued]
  | @grow kind bus id state isKnown made =>
      obtain ⟨index, madeIndex, rfl⟩ := Bus.nodeFor_eq_ok made
      refine .inl ⟨kind, isKnown, ?_⟩
      rw [lawful.bus_withBus]
      exact (Index.nodeFor_grows madeIndex).1
  | refresh id state =>
      rw [lawful.bus_modify]
      exact .inr (Index.frame_refresh _ id)
  | commit key state _ =>
      rw [lawful.bus_modify]
      exact .inr (Bus.frame_commit ..)
  | unregister key state =>
      rw [lawful.bus_modify]
      exact .inr (Bus.frame_unregister ..)
  | start state =>
      rw [lawful.bus_modify]
      exact .inr rfl
  | recordPost ran state =>
      rw [lawful.bus_modify]
      exact .inr rfl
  | recordFailure state =>
      rw [lawful.bus_modify]
      exact .inr rfl

/-- Kinds keep their nodes. -/
theorem Steps.lookup?
    {before after : σ}
    (steps : Steps host terms before after)
    (lawful : host.Lawful)
    {kindId : String}
    {id : Nat}
    (found : (host.bus before).index.lookup? kindId = some id) :
    (host.bus after).index.lookup? kindId = some id := by
  induction steps with
  | refl => exact found
  | tail _ step inductionHypothesis =>
      rcases step.grows_or_frame_eq lawful with ⟨kind, -, grows⟩ | sameFrame
      · exact grows.lookup? inductionHypothesis
      · rwa [Index.lookup?_of_frame_eq sameFrame]

theorem Terms.Ready.steps
    {entry : Nat × Listener β}
    {before after : σ}
    (ready : terms.Ready (host.bus before).index entry)
    (steps : Steps host terms before after)
    (lawful : host.Lawful) :
    terms.Ready (host.bus after).index entry :=
  { ready with node := steps.lookup? lawful ready.node }

/-! ## Runs go step by step -/

section Running

theorem readies_step (host : Host σ β) (terms : Terms σ β) :
    host.Readies terms.known (Step host terms) :=
  ⟨.note, .issue, fun state => .grow state⟩

theorem steps_refresh
    (id : Nat)
    (state : σ) :
    Steps host terms state (host.refresh id state) :=
  .head (.refresh id state) ((readies_step host terms).noteAll ..)

theorem steps_commit
    (key : Key)
    (name : String)
    {pending : Pending β}
    {state : σ}
    (ready : ∀ entry ∈ pending, terms.Ready (host.bus state).index entry) :
    Steps host terms state (host.commit key name pending state).2 := by
  unfold commit
  split
  case isTrue => exact .refl
  case isFalse => exact .tail (.single (.commit key state ready)) (.note _ _)

theorem steps_listenerCount
    (lawful : host.Lawful)
    {kind : Kind}
    (isKnown : terms.known kind)
    (state : σ) :
    Steps host terms state (host.listenerCount kind state).2 := by
  unfold listenerCount
  exact ((readies_step host terms).nodeFor lawful isKnown state).steps_bind
    fun id made _ _ => steps_refresh id made

theorem steps_unregister
    (key : Key)
    (state : σ) :
    Steps host terms state (host.unregister key state).2 := by
  unfold unregister
  split
  case h_1 => exact .refl
  case h_2 => exact .tail (.single (.unregister key state)) (.note _ _)

theorem steps_start (state : σ) : Steps host terms state (host.start state) := by
  unfold start
  split
  case isTrue => exact .tail (.single (.start state)) (.note _ _)
  case isFalse => exact .refl

/-- A listener that has just been made can be added. -/
theorem Made.ready
    {start made : σ}
    {entry : Nat × Listener β}
    (isMade : host.Made (fun kind body => terms.known kind ∧ terms.suits kind body)
      (Step host terms) start entry made)
    (lawful : host.Lawful) :
    terms.Ready (host.bus made).index entry := by
  obtain ⟨⟨isKnown, suits⟩, before, _, issue, hasNode⟩ := isMade
  obtain rfl : (host.issueId before).2 = made := congrArg Prod.snd issue
  refine ⟨isKnown, suits, ?_⟩
  change (host.bus (host.withIssued _ before)).index.lookup? _ = _
  rwa [lawful.bus_withIssued]

variable (checks : ∀ kind state, Steps host terms state (host.checker kind state).2)
include checks

theorem runs_prepare
    (lawful : host.Lawful)
    {subscriber : SubscriberClass τ β}
    (admits : terms.Admits subscriber)
    (shape : Shape)
    (object? : Option τ)
    (state : σ) :
    (host.prepare subscriber shape object?).Runs (Step host terms) state fun pending made =>
      ∀ entry ∈ pending, terms.Ready (host.bus made).index entry := by
  unfold prepare
  have selected : (Action.ofExcept (Admission.select subscriber shape) :
      Action σ BusError (List (ListenerMethod τ β))).Runs (Step host terms) state
        fun methods _ => methods = subscriber.methods :=
    .ofExcept fun methods isSelected => (ne_nil_of_select isSelected).1
  refine selected.bind fun methods start _ areAll => ?_
  subst areAll
  refine .forEach (fun ready steps => ready.steps steps lawful) fun method isMethod start => ?_
  refine ((readies_step host terms).prepareMethod checks lawful subscriber.name object?
    (fun param belongs kind isEvent => ?_) start).mono fun _ _ _ isMade => isMade.ready lawful
  obtain ⟨isKnown, suited⟩ := admits method isMethod param belongs kind isEvent
  exact ⟨isKnown, fun body isBound => ⟨isKnown, suited object? body isBound⟩⟩

theorem steps_registerAs
    (lawful : host.Lawful)
    (key : Key)
    {subscriber : SubscriberClass τ β}
    (admits : terms.Admits subscriber)
    (shape : Shape)
    (object? : Option τ)
    (state : σ) :
    Steps host terms state (host.registerAs key subscriber shape object? state).2 := by
  unfold registerAs
  rw [Action.bind_of_ok (Action.look_apply _ state)]
  split
  case isTrue => exact .refl
  case isFalse =>
    exact (runs_prepare checks lawful admits shape object? state).steps_bind
      fun pending made _ areReady => steps_commit key subscriber.name areReady

theorem steps_addListener
    (lawful : host.Lawful)
    {kind : Kind}
    (isKnown : terms.known kind)
    (priority : Priority)
    (receivesCanceled : Bool)
    (description : String)
    {body : β}
    (suits : terms.suits kind body)
    (state : σ) :
    Steps host terms state
      (host.addListener kind priority receivesCanceled description body state).2 := by
  have readies := readies_step host terms
  unfold addListener
  refine (runs_checkTarget checks kind state).steps_bind fun _ checked _ _ => ?_
  refine (readies.nodeFor lawful isKnown checked).steps_bind fun node made _ hasNode => ?_
  refine (readies.newListener (fun kind body => terms.known kind ∧ terms.suits kind body) _ _ _
    ⟨isKnown, suits⟩ hasNode).steps_bind fun listener created _ isMade => ?_
  rw [Action.bind_of_ok (commit_eq_ok ..)]
  exact steps_commit _ _ (by simpa using isMade.ready lawful)

theorem runs_nodeForPost
    (lawful : host.Lawful)
    {kind : Kind}
    (isKnown : terms.known kind)
    (state : σ) :
    (host.nodeForPost kind).Runs (Step host terms) state fun id made =>
      (host.bus made).index.lookup? kind.id = some id :=
  (readies_step host terms).nodeForPost checks lawful isKnown state

/-- All stages of a post go step by step if the code of the surroundings does. -/
theorem follows_steps
    (lawful : host.Lawful)
    {run : β → Handler σ}
    {handle : Incident β → Action σ Empty Unit}
    (keepsKnown : ∀ body event state, terms.known event.kind →
      terms.known (run body (event, state)).2.1.kind)
    (bodies : ∀ body event state, terms.known event.kind →
      Steps host terms state (run body (event, state)).2.2)
    (handler : ∀ incident state, terms.known incident.event.kind →
      Steps host terms state (handle incident state).2) :
    (host.withCode run handle).Follows terms.known (Steps host terms) where
  unchanged _ := .refl
  composed earlier later := earlier.trans later
  nodeForPost state isKnown := (runs_nodeForPost checks lawful isKnown state).steps
  refresh id state := steps_refresh id state
  recordPost ran state := .single (.recordPost ran state)
  recordFailure state := .single (.recordFailure state)
  run := bodies
  kind := keepsKnown
  handle := handler

omit checks in
/-- Every run goes step by step. -/
theorem Performs.steps
    {first last : σ}
    (performs : host.Performs terms first last)
    (lawful : host.Lawful) :
    Steps host terms first last := by
  induction performs with
  | refl state => exact .refl
  | trans _ _ earlier later => exact earlier.trans later
  | aside isAside sameBus => exact .single (.aside isAside sameBus)
  | register key object state admits _ checks =>
      exact steps_registerAs checks lawful key admits _ _ state
  | registerType key state admits _ checks =>
      exact steps_registerAs checks lawful key admits _ _ state
  | addListener priority receivesCanceled description state isKnown suits _ checks =>
      exact steps_addListener checks lawful isKnown priority receivesCanceled description suits
        state
  | unregister key state => exact steps_unregister key state
  | start state => exact steps_start state
  | listenerCount state isKnown => exact steps_listenerCount lawful isKnown state
  | post state isKnown _ keepsKnown _ _ checks bodies handler =>
      exact (follows_steps checks lawful keepsKnown bodies handler).post isKnown state
  | postPhase phase state isKnown _ keepsKnown _ _ checks bodies handler =>
      exact (follows_steps checks lawful keepsKnown bodies handler).postPhase isKnown phase state

end Running
end Host
end EventRelay
