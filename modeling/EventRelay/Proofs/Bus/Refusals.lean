import EventRelay.Proofs.Bus.Reached
import EventRelay.Proofs.Hierarchy.Growth

/-!
# Failed registrations

A registration is committed in one step once all of its listeners are ready, and this step
never fails. So a registration that fails has registered nothing: it has at most made nodes
and used up identities on its way.

This is said of a bus whose checker does not use it. What a checker registers before it
rejects a kind stays registered.
-/

namespace EventRelay
namespace Host

variable {σ τ β : Type}

/-- An attempt to register something ends without a result. -/
inductive FailsToRegister (host : Host σ β) (state : σ) (stop : Stop BusError) (after : σ) : Prop
  | register {τ : Type} (key : Key) (subscriber : SubscriberClass τ β) (object : τ) :
      host.register key subscriber object state = (.error stop, after) →
      FailsToRegister host state stop after
  | registerType {τ : Type} (key : Key) (subscriber : SubscriberClass τ β) :
      host.registerType key subscriber state = (.error stop, after) →
      FailsToRegister host state stop after
  /-- A single listener is to be added. -/
  | addListener (kind : Kind) (priority : Priority) (receivesCanceled : Bool)
      (description : String) (body : β) :
      host.addListener kind priority receivesCanceled description body state =
        (.error stop, after) →
      FailsToRegister host state stop after

namespace FailsToRegister

variable {host : Host σ β} {state after : σ} {stop : Stop BusError}

theorem prepares_of_registerAs
    (lawful : host.Lawful)
    (still : host.StillChecker)
    {key : Key}
    {subscriber : SubscriberClass τ β}
    {shape : Shape}
    {object? : Option τ}
    (failed : host.registerAs key subscriber shape object? state = (.error stop, after)) :
    ∃ pending, Bus.Prepares (fun _ => True) (fun _ => True) (host.view state) pending
      (host.view after) := by
  rcases registerAs_cases lawful still (fun _ _ _ => trivial) key subscriber shape object?
      (fun _ _ _ _ _ _ => trivial) state with
    ⟨_, ended, -⟩ | ⟨_, _, pending, ended, ready⟩
  · rw [failed] at ended
    cases ended
  · rw [failed] at ended
    cases ended
    exact ⟨pending, ready⟩

/-- Whichever check fails, listeners have only been made ready before it. -/
theorem prepares
    (fails : host.FailsToRegister state stop after)
    (lawful : host.Lawful)
    (still : host.StillChecker) :
    ∃ pending, Bus.Prepares (fun _ => True) (fun _ => True) (host.view state) pending
      (host.view after) := by
  cases fails with
  | register key subscriber object failed => exact prepares_of_registerAs lawful still failed
  | registerType key subscriber failed => exact prepares_of_registerAs lawful still failed
  | addListener kind priority receivesCanceled description body failed =>
      rcases @addListener_cases σ β host (fun _ => True) (fun _ => True) lawful still
          (fun _ _ _ => trivial) kind trivial priority receivesCanceled description body state with
        ⟨_, _, ended, -⟩ | ⟨_, _, ended, ready⟩
      · rw [failed] at ended
        cases ended
      · rw [failed] at ended
        cases ended
        exact ⟨[], ready⟩

/-- A registration that fails leaves the table of registrations, the metrics and all else
that the bus holds as they are, except that the index may have grown by nodes without
listeners, and that identities may have been issued. -/
theorem registers_nothing
    (fails : host.FailsToRegister state stop after)
    (lawful : host.Lawful)
    (still : host.StillChecker)
    (reachable : (host.bus state).index.Reachable) :
    host.bus after = (host.bus state).withIndex (host.bus after).index ∧
      host.issued state ≤ host.issued after ∧
      (host.bus state).index.OnlyGrown (host.bus after).index := by
  obtain ⟨pending, ready⟩ := fails.prepares lawful still
  obtain ⟨grows, sameBus⟩ := ready.grows
  exact ⟨sameBus, ready.issued_le, grows.onlyGrown reachable (ready.index_reachable reachable)⟩

/-! ### A class with an invalid second method -/

open Index (relay signal)
open Index.Reachable (alarm drill)

/-- One listener for alarms is registered. -/
def heard : Bus Unit × Nat :=
  ((calm Unit).addListener alarm .normal false "" () (Bus.create {} false none, 0)).2

theorem reachable_heard : heard.1.index.Reachable := by
  have reaches : (calm Unit).Reaches (fun _ => True) (Bus.create {} false none, 0) heard :=
    .addListener .normal false "" () _ trivial
  exact reaches.index_reachable (lawful_calm Unit) (stillChecker_calm Unit) rfl

/-- A function that takes events of a kind. -/
def taking (kind : Kind) : ListenerMethod Unit Unit :=
  ⟨"on_" ++ kind.name, [.event kind], true, .normal, false, some (.free ())⟩

/-- Drills can be listened to, but relays are abstract. -/
def halfValid : SubscriberClass Unit Unit := ⟨"HalfValid", [taking drill, taking relay], []⟩

/-- What is left of the attempt to register that class. -/
def halfHeard : Bus Unit × Nat := ((calm Unit).registerType (.type "HalfValid") halfValid heard).2

theorem failsToRegister_halfHeard :
    ∃ stop, (calm Unit).FailsToRegister heard stop halfHeard := by
  rcases Action.apply_cases ((calm Unit).registerType (.type "HalfValid") halfValid) heard with
    ⟨_, _, ended⟩ | ⟨stop, after, ended⟩
  · have failed : ((calm Unit).registerType (.type "HalfValid") halfValid heard).1.toOption =
        none := by decide +kernel
    rw [ended] at failed
    cases failed
  · refine ⟨stop, .registerType (.type "HalfValid") halfValid ?_⟩
    rw [halfHeard, ended]

/-- The first method has got its node and an identity, and nothing else has changed. -/
theorem registers_nothing_halfHeard :
    heard.1.index.Reachable ∧ (∃ stop, (calm Unit).FailsToRegister heard stop halfHeard) ∧
      halfHeard.1.index.kinds = [alarm, drill] ∧ halfHeard.2 = 2 ∧
      halfHeard.1 = heard.1.withIndex halfHeard.1.index ∧
      heard.1.index.OnlyGrown halfHeard.1.index := by
  obtain ⟨stop, fails⟩ := failsToRegister_halfHeard
  obtain ⟨sameBus, -, grown⟩ :=
    registers_nothing fails (lawful_calm Unit) (stillChecker_calm Unit) reachable_heard
  exact ⟨reachable_heard, ⟨stop, fails⟩, by decide +kernel, by decide +kernel, sameBus, grown⟩

/-! ### A checker that uses the bus -/

/-- Surroundings whose checker accepts signals only and, before it rejects another kind, adds
a listener for signals. -/
def meddling : Host (Bus Unit × Nat) Unit :=
  { calm Unit with
    checker := fun kind state =>
      if kind = signal then (.ok (), state)
      else
        (.error (.raised "no"), ((calm Unit).addListener signal .normal false "" () state).2) }

/-- A kind with the identity of drills that stands below no other. -/
def impostor : Kind := .root ⟨"Drill", "Drill", false, false, []⟩

/-- The listener that a checker adds stays when the kind is rejected. And where two kinds
share an identity, the node made for one of them decides what events of the other meet. -/
theorem exists_trace :
    (meddling.Lawful ∧ ∃ start stop after,
      meddling.bus start = Bus.create {} false none ∧
      meddling.FailsToRegister start stop after ∧
      (meddling.bus start).registeredListeners.length = 0 ∧
      (meddling.bus after).registeredListeners.length = 1) ∧
    ∃ stop, (calm Unit).FailsToRegister heard stop halfHeard ∧
      (heard.1.index.arrayFor impostor).toOption.map List.length = some 0 ∧
      (halfHeard.1.index.arrayFor impostor).toOption.map List.length = some 1 := by
  constructor
  · have lawful : meddling.Lawful :=
      ⟨fun _ _ => rfl, fun _ _ => rfl, fun _ _ => rfl, fun _ _ => rfl, fun _ _ => rfl,
        fun _ _ => rfl⟩
    refine ⟨lawful, (Bus.create {} false none, 0), .raised (.rejectedEvent "Alarm" "no"), _, rfl,
      .addListener alarm .normal false "" () rfl, ?_, ?_⟩
    · decide
    · decide +kernel
  · obtain ⟨stop, fails⟩ := failsToRegister_halfHeard
    exact ⟨stop, fails, by decide +kernel, by decide +kernel⟩

end FailsToRegister
end Host
end EventRelay
