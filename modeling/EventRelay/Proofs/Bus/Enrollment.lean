import EventRelay.Proofs.Bus.Objections
import EventRelay.Proofs.Bus.Refusals

/-!
# Registering a class

A registration under a key that is taken has no effect at all. Under a free key it fails with
the first objection to it; if there is none, the methods of the class become listeners, which
are recorded under the key and appended to the buckets of their kinds, in the order in which
the class declares them.

The checker is asked in the middle of this. Its verdict counts whatever it does besides, but
what it registers itself is not undone.
-/

namespace EventRelay

variable {σ τ β : Type}

/-- The listener is what the method of a subscriber becomes. -/
def ListenerMethod.Enlists (method : ListenerMethod τ β) (subscriber : String)
    (object? : Option τ) (entry : Listener β) : Prop :=
  ∃ kind body, method.eventKind? = some kind ∧ method.bind subscriber object? = .ok body ∧
    entry = .create entry.id kind method.priority method.receivesCanceled
      (subscriber ++ "::" ++ method.name ++ "(" ++ kind.name ++ ")") body

theorem Action.exists_of_bind_ok
    {ε α γ : Type}
    {action : Action σ ε α}
    {next : α → Action σ ε γ}
    {state last : σ}
    {result : γ}
    (ended : (action >>= next) state = (.ok result, last)) :
    ∃ first changed, action state = (.ok first, changed) ∧
      next first changed = (.ok result, last) := by
  rcases bind_cases action next state with
    ⟨first, changed, isFirst, goesOn⟩ | ⟨stop, changed, -, ends⟩
  · exact ⟨first, changed, isFirst, goesOn.symm.trans ended⟩
  · rw [ends] at ended
    cases ended

namespace Host

variable {host : Host σ β}

/-- Registers the methods of an object; without one, the functions of the type. -/
def enroll (host : Host σ β) (key : Key) (subscriber : SubscriberClass τ β) :
    Option τ → Action σ BusError Unit
  | some object => host.register key subscriber object
  | none => host.registerType key subscriber

theorem enroll_eq
    (key : Key)
    (subscriber : SubscriberClass τ β)
    (object? : Option τ) :
    host.enroll key subscriber object? =
      host.registerAs key subscriber (Shape.of object?) object? := by
  cases object? <;> rfl

/-- A class has been registered. -/
structure Enrolled (host : Host σ β) (key : Key) (subscriber : SubscriberClass τ β)
    (object? : Option τ) (before after : σ) (entries : List (Listener β)) : Prop where
  /-- Every method has become a listener. -/
  methods : List.Forall₂ (fun method entry => method.Enlists subscriber.name object? entry)
    subscriber.methods entries
  /-- Their identities have been issued one after the other. -/
  ascending : entries.Pairwise fun first second => first.id.value < second.id.value
  issued : ∀ entry ∈ entries,
    host.issued before < entry.id.value ∧ entry.id.value ≤ host.issued after
  /-- The key holds them. -/
  record : (host.bus after).registered? key = some entries
  /-- Nothing else has been recorded or removed. -/
  table : (host.bus after).registrations = (host.bus before).registrations ++ [(key, entries)]
  /-- They have been appended to the buckets of their kinds. -/
  buckets : ∀ kindId priority,
    (host.bus after).index.entriesOf kindId priority =
      (host.bus before).index.entriesOf kindId priority ++
        entries.filter (Listener.isFor kindId priority)

/-! ## Methods become listeners -/

theorem enlists_of_prepareMethod
    {subscriber : String}
    {object? : Option τ}
    {method : ListenerMethod τ β}
    {state after : σ}
    {entry : Nat × Listener β}
    (prepared : host.prepareMethod subscriber object? method state = (.ok entry, after)) :
    method.Enlists subscriber object? entry.2 := by
  obtain ⟨kind, checked, passed, prepared⟩ := Action.exists_of_bind_ok prepared
  obtain ⟨_, _, isDeclared, passed⟩ := Action.exists_of_bind_ok passed
  obtain ⟨_, _, -, same⟩ := Action.exists_of_bind_ok passed
  obtain ⟨node, made, -, prepared⟩ := Action.exists_of_bind_ok prepared
  obtain ⟨body, _, isBound, prepared⟩ := Action.exists_of_bind_ok prepared
  obtain ⟨listener, _, isMade, isEntry⟩ := Action.exists_of_bind_ok prepared
  cases same
  cases isEntry
  cases isMade
  have isKind : method.eventKind? = some kind := by
    rcases method.declaredKind_cases subscriber with ⟨_, -, refused⟩ | ⟨_, -, isKind, found⟩
    · rw [refused] at isDeclared
      cases isDeclared
    · rw [found] at isDeclared
      cases isDeclared
      exact isKind
  cases bound : method.bind subscriber object? with
  | error objection =>
      rw [bound] at isBound
      cases isBound
  | ok result =>
      rw [bound] at isBound
      cases isBound
      exact ⟨kind, body, isKind, bound, rfl⟩

theorem enlists_of_forEach
    {subscriber : String}
    {object? : Option τ}
    {methods : List (ListenerMethod τ β)}
    {state after : σ}
    {pending : Pending β}
    (prepared : Action.forEach (host.prepareMethod subscriber object?) methods state =
      (.ok pending, after)) :
    List.Forall₂ (fun method entry => method.Enlists subscriber object? entry) methods
      (pending.map Prod.snd) := by
  induction methods generalizing state pending with
  | nil =>
      cases prepared
      exact .nil
  | cons method rest inductionHypothesis =>
      obtain ⟨entry, changed, first, prepared⟩ := Action.exists_of_bind_ok prepared
      obtain ⟨others, _, areOthers, same⟩ := Action.exists_of_bind_ok prepared
      cases same
      exact .cons (enlists_of_prepareMethod first) (inductionHypothesis areOthers)

theorem enlists_of_prepare
    {subscriber : SubscriberClass τ β}
    {shape : Shape}
    {object? : Option τ}
    {state after : σ}
    {pending : Pending β}
    (prepared : host.prepare subscriber shape object? state = (.ok pending, after)) :
    List.Forall₂ (fun method entry => method.Enlists subscriber.name object? entry)
      subscriber.methods (pending.map Prod.snd) := by
  obtain ⟨methods, _, selected, prepared⟩ := Action.exists_of_bind_ok prepared
  cases isSelected : Admission.select subscriber shape with
  | error objection =>
      rw [isSelected] at selected
      cases selected
  | ok all =>
      rw [isSelected] at selected
      cases selected
      obtain ⟨rfl, -⟩ := ne_nil_of_select isSelected
      exact enlists_of_forEach prepared

end Host

/-! ## Listeners are recorded -/

namespace Bus

/-- The buckets of kinds get the listeners that are for them. -/
theorem entriesOf_insertAll
    {index : Index β}
    (arena : index.Arena)
    {pending : Pending β}
    (nodes : ∀ entry ∈ pending, index.lookup? entry.2.kind.id = some entry.1)
    (kindId : String)
    (priority : Priority) :
    (insertAll index pending).entriesOf kindId priority =
      index.entriesOf kindId priority ++
        (pending.map Prod.snd).filter (Listener.isFor kindId priority) := by
  rw [Index.entriesOf, Index.entriesOf, Index.lookup?_of_frame_eq (frame_insertAll index pending)]
  cases found : index.lookup? kindId with
  | none =>
      refine (List.filter_eq_nil_iff.mpr fun entry isNew isFor => ?_).symm
      obtain ⟨made, isReady, rfl⟩ := List.mem_map.mp isNew
      have sameKind : made.2.kind.id = kindId := (of_decide_eq_true isFor).1
      have hasNode := nodes made isReady
      rw [sameKind, found] at hasNode
      cases hasNode
  | some id =>
      obtain ⟨node, present, rfl⟩ := arena.exists_of_lookup? found
      have haveNodes : ∀ entry ∈ pending, entry.1 < index.size := by
        intro entry isReady
        obtain ⟨_, isPresent, -⟩ := arena.exists_of_lookup? (nodes entry isReady)
        exact Index.node?_lt_size isPresent
      exact (ownAt_insertAll index pending haveNodes id priority).trans
        (congrArg _ (Matched.filter_node_eq arena nodes present priority))

end Bus

namespace Host

/-- What may be done with a bus by whoever names known kinds. -/
def openTerms (host : Host σ β) (known : Kind → Prop) : Terms σ β where
  known := known
  suits _ _ := True
  aside before after := host.issued before ≤ host.issued after

section Registering

variable {host : Host σ β} {known : Kind → Prop} {first state : σ}

/-- A registration that does not fail records what it has made ready. -/
theorem exists_enrolled
    (lawful : host.Lawful)
    (still : host.StillChecker)
    (arena : (host.bus state).index.Arena)
    {key : Key}
    (free : (host.bus state).isRegistered key = false)
    {subscriber : SubscriberClass τ β}
    {object? : Option τ}
    (succeeds : (host.registerAs key subscriber (Shape.of object?) object?).stop? state = none) :
    ∃ entries after,
      host.registerAs key subscriber (Shape.of object?) object? state = (.ok (), after) ∧
        host.Enrolled key subscriber object? state after entries := by
  unfold registerAs at succeeds ⊢
  rw [Action.stop?_bind_of_ok (Action.look_apply _ state), free, if_neg Bool.false_ne_true]
    at succeeds
  rw [Action.bind_of_ok (Action.look_apply _ state), free, if_neg Bool.false_ne_true]
  rcases @prepare_cases σ τ β host (fun _ => True) (fun _ => True) lawful still
      (fun _ _ _ => trivial) subscriber (Shape.of object?) object? (fun _ _ _ _ _ _ => trivial)
      state with
    ⟨pending, ready, made, -, prepares⟩ | ⟨stop, after, _, refused, -⟩
  case inr =>
    rw [Action.stop?_bind_of_error refused] at succeeds
    cases succeeds
  obtain ⟨grows, sameBus⟩ := prepares.grows
  have sameBus : host.bus ready = (host.bus state).withIndex (host.bus ready).index := sameBus
  have stillFree : (host.bus ready).isRegistered key = false := by
    rw [sameBus]
    exact free
  obtain ⟨busAfter, issuedAfter⟩ := Prod.ext_iff.mp
    (view_commit lawful key subscriber.name pending ready)
  simp only [view] at busAfter issuedAfter
  rw [Action.bind_of_ok made, commit_eq_ok]
  refine ⟨pending.map Prod.snd, _, rfl, ?_⟩
  constructor
  case methods => exact enlists_of_prepare made
  case ascending => exact List.pairwise_map.mpr prepares.ascending
  case issued =>
    intro entry isEntry
    obtain ⟨readied, isReady, rfl⟩ := List.mem_map.mp isEntry
    rw [issuedAfter]
    exact ⟨(prepares.ready readied isReady).first_lt, (prepares.ready readied isReady).le_last⟩
  case table =>
    rw [busAfter, Bus.registrations_commit stillFree, sameBus, Bus.registrations_withIndex]
  case record =>
    rw [busAfter, Bus.registered?_commit stillFree]
  case buckets =>
    intro kindId priority
    have nodes : ∀ entry ∈ pending,
        (host.bus ready).index.lookup? entry.2.kind.id = some entry.1 :=
      fun entry isReady => (prepares.ready entry isReady).node
    have grown : (host.bus ready).index.Arena := arena.of_growsTo grows
    rw [busAfter, Bus.index_commit stillFree,
      Bus.entriesOf_insertAll grown nodes kindId priority]
    exact congrArg (· ++ _) (grows.entriesOf kindId priority)

/-- On every bus that has come about by operations on known kinds, a registration under a key
that is taken has no effect, not even on the number of issued identities. Under a free key, where
kinds are told apart by their identities, it ends as the first objection says, and succeeds if
there is none. If the checker does not use the bus, success means that the methods have been
recorded and appended to the buckets of their kinds, in order, and nothing else. -/
theorem Performs.decides_registration
    (performs : host.Performs (host.openTerms known) first state)
    (lawful : host.Lawful)
    (checks : ∀ kind state, host.Performs (host.openTerms known) state (host.checker kind state).2)
    {config : BusConfig}
    {forcesChecks : Bool}
    {metrics? : Option Metrics}
    (new : host.bus first = Bus.create config forcesChecks metrics?)
    (key : Key)
    {subscriber : SubscriberClass τ β}
    (areKnown : TakesKnown known subscriber)
    (object? : Option τ) :
    ((host.bus state).isRegistered key = true →
        host.enroll key subscriber object? state = (.ok (), state)) ∧
      (Kind.Consistent known → (host.bus state).isRegistered key = false →
        (host.enroll key subscriber object? state).1 =
          match (host.objections subscriber object? state).head? with
          | some stop => .error stop
          | none => .ok ()) ∧
      ((host.bus state).isRegistered key = false → host.StillChecker →
        (host.enroll key subscriber object? state).1 = .ok () →
        ∃ entries after, host.enroll key subscriber object? state = (.ok (), after) ∧
          host.Enrolled key subscriber object? state after entries) := by
  have filed : (host.openTerms known).Filed (host.bus state).index := by
    refine Steps.filed (performs.steps lawful) lawful ?_
    rw [new]
    exact .empty _ _
  rw [enroll_eq]
  refine ⟨fun taken => ?_, fun consistent free => ?_, fun free still succeeds => ?_⟩
  · unfold registerAs
    rw [Action.bind_of_ok (Action.look_apply _ state), if_pos taken]
    rfl
  · have ends := stop?_registerAs lawful consistent
      (fun kind state => (checks kind state).steps lawful) filed free areKnown object?
    rw [← ends, Action.stop?]
    cases (host.registerAs key subscriber (Shape.of object?) object? state).1 <;> rfl
  · refine exists_enrolled lawful still filed.reachable.coherent.arena free ?_
    rw [Action.stop?, succeeds]

end Registering

/-! ### A class that is half valid, and one that is valid -/

open Index (echo relay)
open Index.Reachable (alarm drill)
open FailsToRegister (heard halfValid taking)

/-- The only kinds here. -/
def Heard (kind : Kind) : Prop := kind = alarm ∨ kind = drill ∨ kind = relay

theorem consistent_heard : Kind.Consistent Heard := by
  rintro first second (rfl | rfl | rfl) (rfl | rfl | rfl) <;> decide

/-- Drills and alarms can both be listened to. -/
def valid : SubscriberClass Unit Unit := ⟨"Valid", [taking drill, taking alarm], []⟩

theorem takesKnown_taking
    {name : String}
    (kinds : List Kind)
    (areKnown : ∀ kind ∈ kinds, Heard kind) :
    TakesKnown Heard (⟨name, kinds.map taking, []⟩ : SubscriberClass Unit Unit) := by
  intro method isMethod param belongs kind isEvent
  obtain ⟨other, isOther, rfl⟩ := List.mem_map.mp isMethod
  cases List.mem_singleton.mp belongs
  cases isEvent
  exact areKnown _ isOther

theorem performs_heard :
    (calm Unit).Performs ((calm Unit).openTerms Heard) (Bus.create {} false none, 0) heard :=
  .addListener .normal false "" _ (.inl rfl) trivial fun _ state => .refl state

/-- The second method of the first class is for an abstract kind. The methods of the second
class become listeners; to register it again has no effect. -/
theorem Performs.decides_registration_heard :
    (calm Unit).Performs ((calm Unit).openTerms Heard) (Bus.create {} false none, 0) heard ∧
      Kind.Consistent Heard ∧ TakesKnown Heard halfValid ∧ TakesKnown Heard valid ∧
      ((calm Unit).enroll (.type "HalfValid") halfValid none heard).1 =
        .error (.raised (.abstractEvent "Relay")) ∧
      ∃ entries after, (calm Unit).enroll (.type "Valid") valid none heard = (.ok (), after) ∧
        (calm Unit).Enrolled (.type "Valid") valid none heard after entries ∧
        (calm Unit).enroll (.type "Valid") valid none after = (.ok (), after) := by
  have lawful := lawful_calm Unit
  have checks (kind : Kind) (state : Bus Unit × Nat) :
      (calm Unit).Performs ((calm Unit).openTerms Heard) state ((calm Unit).checker kind state).2 :=
    .refl state
  have knownHalf : TakesKnown Heard halfValid :=
    takesKnown_taking [drill, relay] (by simp [Heard])
  have knownValid : TakesKnown Heard valid :=
    takesKnown_taking [drill, alarm] (by simp [Heard])
  refine ⟨performs_heard, consistent_heard, knownHalf, knownValid, ?_, ?_⟩
  · have ends := (performs_heard.decides_registration lawful checks rfl (.type "HalfValid")
      knownHalf none).2.1 consistent_heard (by decide +kernel)
    have isFirst : ((calm Unit).objections halfValid none heard).head? =
        some (.raised (.abstractEvent "Relay")) := rfl
    rw [isFirst] at ends
    exact ends
  · have free : ((calm Unit).bus heard).isRegistered (.type "Valid") = false := by decide +kernel
    obtain ⟨-, ends, registers⟩ := performs_heard.decides_registration lawful checks rfl
      (.type "Valid") knownValid none
    have isFirst : ((calm Unit).objections valid none heard).head? = none := rfl
    have succeeds := ends consistent_heard free
    rw [isFirst] at succeeds
    obtain ⟨entries, after, ended, enrolled⟩ := registers free (stillChecker_calm Unit) succeeds
    refine ⟨entries, after, ended, enrolled, ?_⟩
    have performs : (calm Unit).Performs ((calm Unit).openTerms Heard)
        (Bus.create {} false none, 0) after := by
      have registered : (calm Unit).Performs ((calm Unit).openTerms Heard) heard
          ((calm Unit).registerType (.type "Valid") valid heard).2 :=
        .registerType _ _ (fun method isMethod param belongs kind isEvent =>
          ⟨knownValid method isMethod param belongs kind isEvent, fun _ _ _ => trivial⟩) checks
      have same : ((calm Unit).registerType (.type "Valid") valid heard).2 = after :=
        congrArg Prod.snd ended
      exact .trans performs_heard (same ▸ registered)
    refine (performs.decides_registration lawful checks rfl (.type "Valid") knownValid none).1 ?_
    rw [Bus.isRegistered, enrolled.record]
    rfl

/-! ### A checker that adds a listener itself, and a kind with the identity of echoes -/

/-- Surroundings whose checker accepts every kind, but adds a listener of its own first. -/
def recruiting : Host (Bus Unit × Nat) Unit :=
  { calm Unit with
    checker := fun kind state =>
      (.ok (), ((calm Unit).addListener kind .normal false "inner" () state).2) }

/-- A kind with the identity of echoes that stands below no other. -/
def soleEcho : Kind := .root ⟨"Echo", "Echo", false, false, []⟩

/-- What is left when the listeners of that kind have been counted on a new bus. -/
def counted : Bus Unit × Nat := ((calm Unit).listenerCount soleEcho (Bus.create {} false none, 0)).2

/-- There is no objection to the first class, and it is registered, but its listener is not all
that has been appended to the bucket of its kind. There is an objection to the second class,
whose kind has a broken chain, but it is registered too, since the kind finds the node of
another one with its identity. -/
theorem Enrolled.exists_more :
    (recruiting.Lawful ∧ ∃ start after,
      recruiting.bus start = Bus.create {} false none ∧
      (recruiting.bus start).isRegistered (.type "Valid") = false ∧
      recruiting.objections ⟨"Valid", [taking alarm], []⟩ none start = [] ∧
      recruiting.enroll (.type "Valid") ⟨"Valid", [taking alarm], []⟩ none start = (.ok (), after) ∧
      ¬ ∃ entries,
        recruiting.Enrolled (.type "Valid") ⟨"Valid", [taking alarm], []⟩ none start after
          entries) ∧
    (calm Unit).Performs ((calm Unit).openTerms fun _ => True) (Bus.create {} false none, 0)
        counted ∧
      ((calm Unit).bus counted).isRegistered (.type "Echoing") = false ∧
      (calm Unit).objections ⟨"Echoing", [taking echo], []⟩ none counted =
        [.raised (.brokenAbstractChain "Echo" "Relay" "Signal")] ∧
      ((calm Unit).enroll (.type "Echoing") ⟨"Echoing", [taking echo], []⟩ none counted).1 =
        .ok () := by
  have lawful : recruiting.Lawful := ⟨fun _ _ => rfl, fun _ _ => rfl, fun _ _ => rfl,
    fun _ _ => rfl, fun _ _ => rfl, fun _ _ => rfl⟩
  have enrolls : (calm Unit).enroll (.type "Echoing") ⟨"Echoing", [taking echo], []⟩ none counted =
      (.ok (), _) := Action.eq_ok_of_toOption (by decide +kernel)
  refine ⟨⟨lawful, (Bus.create {} false none, 0), _, rfl, by decide +kernel, rfl,
    Action.eq_ok_of_toOption (by decide +kernel), ?_⟩, .listenerCount _ trivial,
    by decide +kernel, rfl, congrArg Prod.fst enrolls⟩
  rintro ⟨entries, enrolled⟩
  have single : 1 = entries.length := enrolled.methods.length_eq
  have appended := congrArg List.length (enrolled.buckets "Alarm" .normal)
  have before : (recruiting.bus (Bus.create {} false none, 0)).index.entriesOf "Alarm" .normal =
      [] := rfl
  have after : ((recruiting.bus (recruiting.enroll (.type "Valid")
      ⟨"Valid", [taking alarm], []⟩ none (Bus.create {} false none, 0)).2).index.entriesOf "Alarm"
        .normal).length = 2 := by decide +kernel
  rw [after, before, List.nil_append] at appended
  have atMost := List.length_filter_le (Listener.isFor "Alarm" .normal) entries
  omega

end Host
end EventRelay
