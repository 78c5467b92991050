import EventRelay.Proofs.Bus.Operations
import EventRelay.Proofs.Dispatch.Stages

/-!
# Reached states

A post runs code of the surroundings: listener bodies and the handler of failures. What that
code does to the bus while it runs becomes part of what the post does to it.

A state is reached from another by operations on the bus that follow each other or are
performed inside one another. All of them come down to changes of the bus.
-/

namespace EventRelay
namespace Host

variable {σ β : Type}

/-- What the code of the surroundings does to the bus comes down to changes of it, as long as
it is given events of known kinds. -/
structure Behaves (host : Host σ β) (known accepts : Kind → Prop) : Prop where
  /-- Bodies change the bus. -/
  run : ∀ body event state, known event.kind →
    Bus.Changes known accepts (host.view state) (host.view (host.run body (event, state)).2.2)
  /-- Bodies leave an event of a known kind. -/
  kind : ∀ body event state, known event.kind → known (host.run body (event, state)).2.1.kind
  /-- The handler changes the bus. -/
  handle : ∀ incident state, known incident.event.kind →
    Bus.Changes known accepts (host.view state) (host.view (host.handle incident state).2)

/-! ## Posting -/

section Posting

variable {host : Host σ β} {known accepts : Kind → Prop}

theorem nodeForPost_changes
    (lawful : host.Lawful)
    (still : host.StillChecker)
    (acceptsOnly : host.AcceptsOnly accepts)
    {kind : Kind}
    (isKnown : known kind)
    (state : σ) :
    Bus.Changes known accepts (host.view state) (host.view (host.nodeForPost kind state).2) := by
  cases isAbstract : kind.isAbstract with
  | true => rw [nodeForPost_of_abstract isAbstract]
  | false =>
      rw [nodeForPost_of_concrete isAbstract]
      split
      case isTrue =>
        rcases checkAccepted_cases still acceptsOnly .start kind with
          ⟨checked, passed, _, ready⟩ | ⟨stop, after, refused, ready⟩
        · rw [Action.bind_of_ok passed]
          exact .trans (.single (.prepare ready)) (nodeFor_changes lawful isKnown checked)
        · rw [Action.bind_of_error refused]
          exact .single (.prepare ready)
      case isFalse => exact nodeFor_changes lawful isKnown state

/-- All stages of a post come down to changes of the bus. -/
theorem Behaves.follows
    (behaves : host.Behaves known accepts)
    (lawful : host.Lawful)
    (still : host.StillChecker)
    (acceptsOnly : host.AcceptsOnly accepts) :
    host.Follows known fun before after =>
      Bus.Changes known accepts (host.view before) (host.view after) where
  unchanged _ := .refl
  composed earlier later := earlier.trans later
  nodeForPost state isKnown := nodeForPost_changes lawful still acceptsOnly isKnown state
  refresh id state := by
    rw [view_refresh lawful]
    exact .single (.refresh _ _ id)
  recordPost ran state := by
    rw [lawful.view_modify]
    exact .single (.recordPost _ _ ran)
  recordFailure state := by
    rw [lawful.view_modify]
    exact .single (.recordFailure _ _)
  run := behaves.run
  kind := behaves.kind
  handle := behaves.handle

end Posting

/-! ## Reached states -/

/-- The same host with other listener bodies and another handler of failures. -/
def withCode (host : Host σ β) (run : β → Handler σ) (handle : Incident β → Action σ Empty Unit) :
    Host σ β :=
  { host with run := run, handle := handle }

theorem Lawful.withCode
    {host : Host σ β}
    (lawful : host.Lawful)
    (run : β → Handler σ)
    (handle : Incident β → Action σ Empty Unit) :
    (host.withCode run handle).Lawful :=
  ⟨lawful.bus_withBus, lawful.bus_withIssued, lawful.bus_note, lawful.issued_withIssued,
    lawful.issued_withBus, lawful.issued_note⟩

/-- A state is reached from another by operations on the bus that are given known kinds.
Whether they succeed does not matter. While a post runs, its bodies and the handler may reach
further states in the same way. -/
inductive Reaches (host : Host σ β) (known : Kind → Prop) : σ → σ → Prop
  /-- Nothing is done. -/
  | refl (state : σ) : Reaches host known state state
  /-- One thing is done after the other. -/
  | trans {first middle last : σ} :
      Reaches host known first middle → Reaches host known middle last →
      Reaches host known first last
  /-- Something is done that leaves the bus alone; identities may be issued for others. -/
  | elsewhere {first last : σ} :
      host.bus last = host.bus first → host.issued first ≤ host.issued last →
      Reaches host known first last
  | register {τ : Type} (key : Key) {subscriber : SubscriberClass τ β} (object : τ) (state : σ) :
      TakesKnown known subscriber →
      Reaches host known state (host.register key subscriber object state).2
  | registerType {τ : Type} (key : Key) {subscriber : SubscriberClass τ β} (state : σ) :
      TakesKnown known subscriber →
      Reaches host known state (host.registerType key subscriber state).2
  /-- A single listener is added. -/
  | addListener {kind : Kind} (priority : Priority) (receivesCanceled : Bool)
      (description : String) (body : β) (state : σ) :
      known kind →
      Reaches host known state
        (host.addListener kind priority receivesCanceled description body state).2
  | unregister (key : Key) (state : σ) : Reaches host known state (host.unregister key state).2
  | start (state : σ) : Reaches host known state (host.start state)
  /-- The listeners of a kind are counted. -/
  | listenerCount {kind : Kind} (state : σ) :
      known kind → Reaches host known state (host.listenerCount kind state).2
  | post {run : β → Handler σ} {handle : Incident β → Action σ Empty Unit} {event : Event}
      (state : σ) :
      known event.kind →
      (∀ body event state, known event.kind → known (run body (event, state)).2.1.kind) →
      (∀ body event state, known event.kind →
        Reaches host known state (run body (event, state)).2.2) →
      (∀ incident state, known incident.event.kind →
        Reaches host known state (handle incident state).2) →
      Reaches host known state ((host.withCode run handle).post (event, state)).2.2
  /-- An event is posted to the listeners of one priority. -/
  | postPhase {run : β → Handler σ} {handle : Incident β → Action σ Empty Unit} {event : Event}
      (phase : Priority) (state : σ) :
      known event.kind →
      (∀ body event state, known event.kind → known (run body (event, state)).2.1.kind) →
      (∀ body event state, known event.kind →
        Reaches host known state (run body (event, state)).2.2) →
      (∀ incident state, known incident.event.kind →
        Reaches host known state (handle incident state).2) →
      Reaches host known state ((host.withCode run handle).postPhase phase (event, state)).2.2

/-- Operations on the bus come down to changes of it. -/
theorem Reaches.changes
    {host : Host σ β}
    {known accepts : Kind → Prop}
    {first last : σ}
    (reaches : host.Reaches known first last)
    (lawful : host.Lawful)
    (still : host.StillChecker)
    (acceptsOnly : host.AcceptsOnly accepts) :
    Bus.Changes known accepts (host.view first) (host.view last) := by
  induction reaches with
  | refl state => exact .refl
  | trans _ _ earlier later => exact earlier.trans later
  | @elsewhere first last sameBus fewer =>
      have idle : Bus.Prepares known accepts (host.view first) [] (host.view last) := by
        rw [view, view, sameBus]
        exact .issue .start fewer
      exact .single (.prepare idle)
  | register key object state areKnown =>
      exact registerAs_changes lawful still acceptsOnly key _ _ _ areKnown state
  | registerType key state areKnown =>
      exact registerAs_changes lawful still acceptsOnly key _ _ _ areKnown state
  | addListener priority receivesCanceled description body state isKnown =>
      exact addListener_changes lawful still acceptsOnly isKnown priority receivesCanceled
        description body state
  | unregister key state => exact unregister_changes lawful key state
  | start state => exact start_changes lawful state
  | listenerCount state isKnown => exact listenerCount_changes lawful isKnown state
  | @post run handle event state isKnown keepsKnown _ _ bodies handler =>
      have behaves : (host.withCode run handle).Behaves known accepts :=
        ⟨bodies, keepsKnown, handler⟩
      exact (behaves.follows (lawful.withCode run handle) still acceptsOnly).post isKnown state
  | @postPhase run handle event phase state isKnown keepsKnown _ _ bodies handler =>
      have behaves : (host.withCode run handle).Behaves known accepts :=
        ⟨bodies, keepsKnown, handler⟩
      exact (behaves.follows (lawful.withCode run handle) still acceptsOnly).postPhase isKnown
        phase state

/-- The index of every bus that is reached from a new one is reachable. -/
theorem Reaches.index_reachable
    {host : Host σ β}
    {known : Kind → Prop}
    {first last : σ}
    (reaches : host.Reaches known first last)
    (lawful : host.Lawful)
    (still : host.StillChecker)
    {config : BusConfig}
    {forcesChecks : Bool}
    {metrics? : Option Metrics}
    (new : host.bus first = Bus.create config forcesChecks metrics?) :
    (host.bus last).index.Reachable := by
  have changes : Bus.Changes known (fun _ => True) (host.view first) (host.view last) :=
    reaches.changes lawful still fun _ _ _ => trivial
  refine changes.index_reachable ?_
  rw [view, new]
  exact .new _

/-! ## Surroundings without behaviour -/

/-- Surroundings that hold nothing but a bus and in which no body does anything. -/
def calm (β : Type) : Host (Bus β × Nat) β where
  bus := Prod.fst
  withBus bus state := (bus, state.2)
  issued := Prod.snd
  withIssued count state := (state.1, count)
  note _ state := state
  checker := .acceptAll
  run _ start := (.ok (), start)
  handle _ state := (.ok (), state)

theorem lawful_calm (β : Type) : (calm β).Lawful :=
  ⟨fun _ _ => rfl, fun _ _ => rfl, fun _ _ => rfl, fun _ _ => rfl, fun _ _ => rfl, fun _ _ => rfl⟩

theorem stillChecker_calm (β : Type) : (calm β).StillChecker :=
  fun _ _ => ⟨rfl, Nat.le_refl _⟩

end Host
end EventRelay
