import EventRelay.Proofs.Bus.Orderly
import EventRelay.Proofs.Bus.Refusals
import EventRelay.Proofs.Bus.Steps
import EventRelay.Proofs.Dispatch.Order

/-!
# Issued identities

Identities are issued from a counter that only grows. A host can keep a log of those that it
issues, also to registrations that fail later; in every run the log ascends, so no identity is
issued twice.

Together with what a bus stores this gives the order in which every run leaves a bus whose
checker does not use it.
-/

namespace EventRelay
namespace Host

variable {σ β : Type}

/-! ## Logs -/

/-- The state holds a log of the identities that the host issues, and nothing else changes
it. -/
structure Logs (host : Host σ β) (log : σ → List ListenerId) : Prop where
  withBus : ∀ bus state, log (host.withBus bus state) = log state
  note : ∀ notice state, log (host.note notice state) = log state
  withIssued : ∀ count state, log (host.withIssued count state) = log state ++ [⟨count⟩]

/-- Identities in the order in which they were issued, up to a number. -/
structure IssuedUpTo (last : Nat) (ids : List ListenerId) : Prop where
  ascending : ids.Pairwise fun first second => first.value < second.value
  le_last : ∀ id ∈ ids, id.value ≤ last

/-- What is issued besides is issued from the same counter, and it may be logged as well. -/
def Terms.KeepsCount (terms : Terms σ β) (host : Host σ β) (log : σ → List ListenerId) : Prop :=
  ∀ before after, terms.aside before after → host.issued before ≤ host.issued after ∧
    ∃ others, log after = log before ++ others ∧ IssuedUpTo (host.issued after) others ∧
      ∀ id ∈ others, host.issued before < id.value

namespace IssuedUpTo

variable {last more : Nat} {ids others : List ListenerId}

theorem empty (last : Nat) : IssuedUpTo last [] := ⟨.nil, nofun⟩

theorem append
    (sofar : IssuedUpTo last ids)
    (grows : last ≤ more)
    (later : IssuedUpTo more others)
    (fresh : ∀ id ∈ others, last < id.value) :
    IssuedUpTo more (ids ++ others) where
  ascending := by
    refine List.pairwise_append.mpr ⟨sofar.ascending, later.ascending, ?_⟩
    intro id isEarlier other isLater
    exact Nat.lt_of_le_of_lt (sofar.le_last id isEarlier) (fresh other isLater)
  le_last := by
    intro id isIssued
    rcases List.mem_append.mp isIssued with earlier | isLater
    · exact Nat.le_trans (sofar.le_last id earlier) grows
    · exact later.le_last id isLater

/-- The next identity is greater than all that were issued before. -/
theorem next (sofar : IssuedUpTo last ids) : IssuedUpTo (last + 1) (ids ++ [⟨last + 1⟩]) := by
  refine sofar.append (Nat.le_succ last) ⟨List.pairwise_singleton _ _, ?_⟩ ?_
  · simp
  · simp

theorem nodup (issued : IssuedUpTo last ids) : ids.Nodup := by
  refine issued.ascending.imp ?_
  rintro id _ older rfl
  omega

end IssuedUpTo

section Logging

variable {host : Host σ β} {terms : Terms σ β} {log : σ → List ListenerId}

theorem Step.issuedUpTo
    {before after : σ}
    (step : Step host terms before after)
    (lawful : host.Lawful)
    (logs : host.Logs log)
    (keepsCount : terms.KeepsCount host log)
    (sofar : IssuedUpTo (host.issued before) (log before)) :
    IssuedUpTo (host.issued after) (log after) := by
  have modified (change : Bus β → Bus β) :
      IssuedUpTo (host.issued (host.modify change before)) (log (host.modify change before)) := by
    rwa [modify, lawful.issued_withBus, logs.withBus]
  cases step with
  | aside isAside _ =>
      obtain ⟨grows, others, sameLog, later, fresh⟩ := keepsCount before after isAside
      rw [sameLog]
      exact sofar.append grows later fresh
  | note notice state => rwa [lawful.issued_note, logs.note]
  | issue state =>
      change IssuedUpTo (host.issued (host.withIssued _ before)) (log (host.withIssued _ before))
      rw [lawful.issued_withIssued, logs.withIssued]
      exact sofar.next
  | grow state _ _ => rwa [lawful.issued_withBus, logs.withBus]
  | refresh id state => exact modified _
  | commit key state _ => exact modified _
  | unregister key state => exact modified _
  | start state => exact modified _
  | recordPost ran state => exact modified _
  | recordFailure state => exact modified _

theorem Steps.issuedUpTo
    {first last : σ}
    (steps : Steps host terms first last)
    (lawful : host.Lawful)
    (logs : host.Logs log)
    (keepsCount : terms.KeepsCount host log)
    (sofar : IssuedUpTo (host.issued first) (log first)) :
    IssuedUpTo (host.issued last) (log last) := by
  induction steps with
  | refl => exact sofar
  | tail _ step inductionHypothesis =>
      exact step.issuedUpTo lawful logs keepsCount inductionHypothesis

end Logging

/-- Every host can keep such a log beside its states. -/
def logged (host : Host σ β) : Host (σ × List ListenerId) β where
  bus state := host.bus state.1
  withBus bus state := (host.withBus bus state.1, state.2)
  issued state := host.issued state.1
  withIssued count state := (host.withIssued count state.1, state.2 ++ [⟨count⟩])
  note notice state := (host.note notice state.1, state.2)
  checker kind state := ((host.checker kind state.1).1, (host.checker kind state.1).2, state.2)
  run body start :=
    match host.run body (start.1, start.2.1) with
    | (outcome, event, after) => (outcome, event, after, start.2.2)
  handle incident state := ((host.handle incident state.1).1, (host.handle incident state.1).2,
    state.2)

theorem Lawful.logged
    {host : Host σ β}
    (lawful : host.Lawful) :
    host.logged.Lawful where
  bus_withBus bus state := lawful.bus_withBus bus state.1
  bus_withIssued count state := lawful.bus_withIssued count state.1
  bus_note notice state := lawful.bus_note notice state.1
  issued_withIssued count state := lawful.issued_withIssued count state.1
  issued_withBus bus state := lawful.issued_withBus bus state.1
  issued_note notice state := lawful.issued_note notice state.1

theorem logs_logged (host : Host σ β) : host.logged.Logs Prod.snd :=
  ⟨fun _ _ => rfl, fun _ _ => rfl, fun _ _ => rfl⟩

/-! ## Orderly runs -/

section Runs

variable {host : Host σ β} {terms : Terms σ β} {first last : σ}

theorem Terms.Admits.takesKnown
    {τ : Type}
    {subscriber : SubscriberClass τ β}
    (admits : terms.Admits subscriber) :
    TakesKnown terms.known subscriber :=
  fun method isMethod param belongs kind isEvent =>
    (admits method isMethod param belongs kind isEvent).1

theorem Performs.reaches
    (performs : host.Performs terms first last)
    (counts : ∀ before after, terms.aside before after → host.issued before ≤ host.issued after) :
    host.Reaches terms.known first last := by
  induction performs with
  | refl state => exact .refl state
  | trans _ _ earlier later => exact .trans earlier later
  | aside isAside sameBus => exact .elsewhere sameBus (counts _ _ isAside)
  | register key object state admits _ _ => exact .register key object state admits.takesKnown
  | registerType key state admits _ _ => exact .registerType key state admits.takesKnown
  | addListener priority receivesCanceled description state isKnown _ _ _ =>
      exact .addListener priority receivesCanceled description _ state isKnown
  | unregister key state => exact .unregister key state
  | start state => exact .start state
  | listenerCount state isKnown => exact .listenerCount state isKnown
  | post state isKnown _ keepsKnown _ _ _ bodies handler =>
      exact .post state isKnown keepsKnown bodies handler
  | postPhase phase state isKnown _ keepsKnown _ _ _ bodies handler =>
      exact .postPhase phase state isKnown keepsKnown bodies handler

/-- Every run on a new bus leaves it orderly, if the checker does not use the bus. Where kinds
are told apart by their identities, abstract kinds have no listeners. And in every log that
the host keeps, the identities ascend, so that none is issued twice. -/
theorem Performs.leaves_orderly
    {accepts : Kind → Prop}
    (performs : host.Performs terms first last)
    (lawful : host.Lawful)
    (still : host.StillChecker)
    (acceptsOnly : host.AcceptsOnly accepts)
    (counts : ∀ before after, terms.aside before after → host.issued before ≤ host.issued after)
    {config : BusConfig}
    {forcesChecks : Bool}
    {metrics? : Option Metrics}
    (new : host.bus first = Bus.create config forcesChecks metrics?) :
    (host.bus last).Orderly accepts ∧
      (Kind.Consistent terms.known → (host.bus last).KeptApart) ∧
      ∀ log, host.Logs log → terms.KeepsCount host log → log first = [] →
        (log last).Nodup ∧ IssuedUpTo (host.issued last) (log last) := by
  have stored : Bus.Stored terms.known accepts (host.view last) :=
    (performs.reaches counts).stored lawful still acceptsOnly new
  refine ⟨stored.orderly, stored.keptApart, fun log logs keepsCount isEmpty => ?_⟩
  have issued : IssuedUpTo (host.issued last) (log last) := by
    refine (performs.steps lawful).issuedUpTo lawful logs keepsCount ?_
    rw [isEmpty]
    exact .empty _
  exact ⟨issued.nodup, issued⟩

end Runs

/-! ### A checker that uses the bus, and two kinds that share an identity -/

open Index (relay signal)
open Index.Reachable (alarm drill)
open FailsToRegister (halfValid taking)

/-- Surroundings whose checker accepts every kind, but adds a listener for signals first
whenever it is asked about another kind. -/
def hasty : Host (Bus Unit × Nat) Unit :=
  { calm Unit with
    checker := fun kind state =>
      (.ok (), if kind = signal then state
        else ((calm Unit).addListener signal .normal false "" () state).2) }

/-- Signals and alarms can both be listened to. -/
def twofold : SubscriberClass Unit Unit := ⟨"Twofold", [taking signal, taking alarm], []⟩

/-- A concrete kind with the identity of relays. -/
def openRelay : Kind := .root ⟨"Relay", "Relay", false, false, []⟩

/-- Relays are asked for, and then a listener is added for the kind with their identity. -/
def mistaken : Bus Unit × Nat :=
  ((calm Unit).addListener openRelay .normal false "" ()
    ((calm Unit).listenerCount relay (Bus.create {} false none, 0)).2).2

/-- What a checker adds stands before a listener that got its identity earlier. And where two
kinds share an identity, a concrete one brings a listener to the node of an abstract one. -/
theorem Performs.exists_disorder :
    (hasty.Lawful ∧ hasty.AcceptsOnly (fun _ => True) ∧
      (∀ kind state, (hasty.checker kind state).2 = state ∨
        (hasty.checker kind state).2 = (hasty.addListener signal .normal false "" () state).2) ∧
      ∃ last, hasty.Reaches (fun _ => True) (Bus.create {} false none, 0) last ∧
        ∃ node ∈ (hasty.bus last).index.nodes,
          (node.buckets.get .normal).listeners.map Listener.id = [⟨2⟩, ⟨1⟩]) ∧
    ∃ terms : Terms (Bus Unit × Nat) Unit,
      (calm Unit).Performs terms (Bus.create {} false none, 0) mistaken ∧
      ∃ node ∈ ((calm Unit).bus mistaken).index.nodes, node.kind = relay ∧
        (node.buckets.get .normal).listeners.map Listener.kind = [openRelay] := by
  constructor
  · have lawful : hasty.Lawful :=
      ⟨fun _ _ => rfl, fun _ _ => rfl, fun _ _ => rfl, fun _ _ => rfl, fun _ _ => rfl,
        fun _ _ => rfl⟩
    have asked (kind : Kind) (state : Bus Unit × Nat) : (hasty.checker kind state).2 = state ∨
        (hasty.checker kind state).2 =
          (hasty.addListener signal .normal false "" () state).2 := by
      by_cases isSignal : kind = signal
      · exact .inl (if_pos isSignal)
      · exact .inr (if_neg isSignal)
    have registered : hasty.Reaches (fun _ => True) (Bus.create {} false none, 0)
        (hasty.registerType (.type "Twofold") twofold (Bus.create {} false none, 0)).2 :=
      .registerType _ _ fun _ _ _ _ _ _ => trivial
    exact ⟨lawful, fun _ _ _ => trivial, asked, _, registered, by decide +kernel⟩
  · refine ⟨⟨fun _ => True, fun _ _ => True, fun _ _ => False⟩, ?_, by decide +kernel⟩
    exact .trans (.listenerCount _ trivial)
      (.addListener .normal false "" _ trivial trivial fun _ state => .refl state)

/-! ### A listener that adds another one -/

/-- Drills and relays are named, and nothing is done besides. -/
def drillTerms : Terms ((Bus Unit × Nat) × List ListenerId) Unit where
  known kind := kind = drill ∨ kind = relay
  suits _ _ := True
  aside _ _ := False

/-- A body that adds a listener for drills. -/
def enlist : Handler ((Bus Unit × Nat) × List ListenerId) := fun (event, state) =>
  (.ok (), event, ((calm Unit).logged.addListener drill .low false "" () state).2)

/-- A listener for drills is added to a new bus. -/
def drilled : (Bus Unit × Nat) × List ListenerId :=
  ((calm Unit).logged.addListener drill .high false "" () ((Bus.create {} false none, 0), [])).2

/-- Then a class fails to register. -/
def turnedDown : (Bus Unit × Nat) × List ListenerId :=
  ((calm Unit).logged.registerType (.type "HalfValid") halfValid drilled).2

/-- Drills are posted, and the listener adds another one. -/
def enlisted : (Bus Unit × Nat) × List ListenerId :=
  (((calm Unit).logged.withCode (fun _ => enlist) (calm Unit).logged.handle).post
    (.last ⟨drill, 0, none⟩, turnedDown)).2.2

theorem performs_enlisted :
    (calm Unit).logged.Performs drillTerms ((Bus.create {} false none, 0), []) enlisted := by
  have checks (kind : Kind) (state : (Bus Unit × Nat) × List ListenerId) :
      (calm Unit).logged.Performs drillTerms state ((calm Unit).logged.checker kind state).2 :=
    .refl state
  have admits : drillTerms.Admits halfValid := by
    intro method isMethod param belongs kind isEvent
    refine ⟨?_, fun _ _ _ => trivial⟩
    simp only [halfValid, List.mem_cons, List.not_mem_nil, or_false] at isMethod
    rcases isMethod with rfl | rfl <;>
      · rw [List.mem_singleton.mp belongs] at isEvent
        cases isEvent
        simp [drillTerms]
  have adds (priority : Priority) (state : (Bus Unit × Nat) × List ListenerId) :
      (calm Unit).logged.Performs drillTerms state
        ((calm Unit).logged.addListener drill priority false "" () state).2 :=
    .addListener priority false "" state (.inl rfl) trivial checks
  have refused : (calm Unit).logged.Performs drillTerms drilled turnedDown :=
    .registerType (.type "HalfValid") drilled admits checks
  have posted : (calm Unit).logged.Performs drillTerms turnedDown enlisted :=
    .post turnedDown (.inl rfl) checks (fun _ _ _ isKnown => isKnown)
      (fun _ _ state _ => adds .low state) (fun _ state _ => .refl state)
  exact .trans (adds .high _) (.trans refused posted)

/-- The second identity was issued to a registration that failed. -/
theorem leaves_orderly_enlisted :
    (calm Unit).logged.Performs drillTerms ((Bus.create {} false none, 0), []) enlisted ∧
      enlisted.2 = [⟨1⟩, ⟨2⟩, ⟨3⟩] ∧
      enlisted.1.1.heldListeners.map Listener.id = [⟨1⟩, ⟨3⟩] ∧
      enlisted.1.1.Orderly (fun _ => True) ∧ enlisted.1.1.KeptApart ∧
      IssuedUpTo 3 enlisted.2 := by
  have consistent : Kind.Consistent drillTerms.known := by
    rintro first second (rfl | rfl) (rfl | rfl) <;> decide
  have keepsCount : drillTerms.KeepsCount (calm Unit).logged Prod.snd :=
    fun _ _ isAside => isAside.elim
  have still : (calm Unit).logged.StillChecker := fun _ _ => ⟨rfl, Nat.le_refl _⟩
  have acceptsOnly : (calm Unit).logged.AcceptsOnly fun _ => True := fun _ _ _ => trivial
  have new : (calm Unit).logged.bus ((Bus.create {} false none, 0), []) =
      Bus.create {} false none := rfl
  obtain ⟨orderly, keptApart, issued⟩ := performs_enlisted.leaves_orderly
    (lawful_calm Unit).logged still acceptsOnly (fun _ _ isAside => isAside.elim) new
  have three : (calm Unit).logged.issued enlisted = 3 := by decide +kernel
  have logged := (issued Prod.snd (logs_logged _) keepsCount rfl).2
  rw [three] at logged
  exact ⟨performs_enlisted, by decide +kernel, by decide +kernel, orderly, keptApart consistent,
    logged⟩

end Host
end EventRelay
