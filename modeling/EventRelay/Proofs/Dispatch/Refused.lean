import EventRelay.Proofs.Bus.Enrollment
import EventRelay.Proofs.Dispatch.FailFast

/-!
# Refused posts

A post is refused before its dispatch begins: because posts to one priority are not allowed,
because the event's kind is abstract, because the checker rejects the kind, or because the node
of the kind cannot be made. Here all that can be said against a post is listed in this order. A
post that ends with an error of its own ends with the first objection, and no listener and no
handler has run then.

What the checker does when it is asked about the kind stays done. Apart from that, a refused
post leaves everything as it was.
-/

namespace EventRelay

variable {σ β : Type}

/-! ## Objections to a post -/

/-- Without regard to the nodes that there are, a node is refused because of an objection to the
chain of its kind. -/
theorem Index.chainObjection?_of_nodeFor
    {index : Index β}
    {kind : Kind}
    {error : BusError}
    (refused : index.nodeFor kind = .error error) :
    kind.chainObjection? = some error := by
  induction kind with
  | root own =>
      rw [nodeFor] at refused
      split at refused <;> cases refused
  | child own parent inductionHypothesis =>
      rw [nodeFor] at refused
      split at refused
      case h_1 => cases refused
      case h_2 =>
        cases broken : brokenAncestor? parent with
        | some above =>
            rw [broken] at refused
            cases refused
            have first : (Kind.child own parent).firstOffending? = some (.child own parent) := by
              rw [Kind.firstOffending?, Kind.ancestors, List.find?_cons, Kind.offends_child, broken]
              rfl
            rw [Kind.chainObjection?, first]
            simp only [bind, Option.bind, Kind.parent?_child,
              Kind.firstConcrete?_of_brokenAncestor? broken]
            rfl
        | none =>
            rw [broken] at refused
            cases made : index.nodeFor parent with
            | error above =>
                rw [made] at refused
                cases refused
                have higher : (Kind.child own parent).firstOffending? = parent.firstOffending? := by
                  rw [Kind.firstOffending?, Kind.ancestors, List.find?_cons, Kind.offends_child,
                    broken]
                  rfl
                rw [Kind.chainObjection?, higher]
                exact inductionHypothesis made
            | ok found =>
                rw [made] at refused
                dsimp only at refused
                split at refused <;> cases refused

namespace Host

/-- A post to one priority that the bus has not been configured to take. -/
def forbids (host : Host σ β) (phase? : Option Priority) (state : σ) : Bool :=
  phase?.isSome && !(host.bus state).config.allowsPhasePosts

/-- What is to be said against the kind of an event that is posted to a running bus. -/
def kindObjections (host : Host σ β) (kind : Kind) (state : σ) : List (Stop BusError) :=
  kind.targetObjections
      (if (host.bus state).checksTypes then host.verdict state kind else none) ++
    kind.chainObjection?.toList.map .raised

/-- All that is to be said against a post. While the bus is shut down nothing is said against
the kind. -/
def postObjections (host : Host σ β) (phase? : Option Priority) (kind : Kind) (state : σ) :
    List (Stop BusError) :=
  (if host.forbids phase? state then [.raised .perPhasePostDisabled] else []) ++
    if (host.bus state).isShutdown then [] else host.kindObjections kind state

/-- A post makes the bus ask its checker about the event's kind. -/
def asksChecker (host : Host σ β) (phase? : Option Priority) (kind : Kind) (state : σ) : Bool :=
  !host.forbids phase? state && !(host.bus state).isShutdown && !kind.isAbstract &&
    (host.bus state).checksTypes

/-- A post ends with an error before its dispatch begins. -/
structure Refuses (host : Host σ β) (phase? : Option Priority) (event : Event) (state : σ)
    (error : BusError) (after : σ) : Prop where
  /-- The event is as it was. The post would go the same way with any other listener bodies and
  any other handler. -/
  ends : ∀ run handle, (host.withCode run handle).postTo phase? (event, state) =
    (.error (.raised error), event, after)
  /-- The error is the first objection. -/
  first : (host.postObjections phase? event.kind state).head? = some (.raised error)
  /-- At most the checker has done something. -/
  changes : after =
    if host.asksChecker phase? event.kind state then (host.checker event.kind state).2 else state

variable {host : Host σ β} {phase? : Option Priority} {event : Event} {kind : Kind} {state : σ}

/-! ## The stages of a post to any priority -/

theorem postTo_of_forbidden
    (forbidden : host.forbids phase? state = true)
    (event : Event) :
    host.postTo phase? (event, state) = (.error (.raised .perPhasePostDisabled), event, state) := by
  cases phase? with
  | none => cases forbidden
  | some phase =>
      refine postPhase_of_forbidden ?_ phase event
      simpa [forbids] using forbidden

theorem postTo_of_refused
    {stop : Stop BusError}
    {after : σ}
    (allowed : host.forbids phase? state = false)
    (running : (host.bus state).isShutdown = false)
    (refused : host.nodeForPost event.kind state = (.error stop, after)) :
    host.postTo phase? (event, state) = (.error stop, event, after) := by
  cases phase? with
  | none => exact post_of_refused running refused
  | some phase =>
      refine postPhase_of_refused ?_ running refused phase
      simpa [forbids] using allowed

theorem postTo_of_found
    {id : Nat}
    {made : σ}
    (allowed : host.forbids phase? state = false)
    (running : (host.bus state).isShutdown = false)
    (found : host.nodeForPost event.kind state = (.ok id, made)) :
    host.postTo phase? (event, state) =
      host.dispatch (host.arrayAt phase? id (host.refresh id made))
        (event, host.refresh id made) := by
  cases phase? with
  | none => exact post_of_found running found
  | some phase =>
      refine postPhase_of_found ?_ running found phase
      simpa [forbids] using allowed

theorem exists_source_of_afterTelling
    {index : Nat}
    {entry : Listener β}
    {stop : Stop ListenerError}
    {told : Outcome Empty Unit × σ}
    {error : BusError}
    (failed : (afterTelling index entry stop event told).1 = .error (.raised error)) :
    ∃ source, error = .listenerFailed index entry.description source := by
  obtain ⟨outcome, reported⟩ := told
  cases outcome with
  | ok =>
      cases stop with
      | raised source =>
          cases failed
          exact ⟨source, rfl⟩
      | panicked payload => cases failed
  | error ending =>
      cases ending with
      | raised impossible => cases impossible
      | panicked payload => cases failed

/-- A dispatch that fails with an error names the listener that failed. -/
theorem exists_listenerFailed
    {listeners : List (Listener β)}
    {start : Event × σ}
    {error : BusError}
    (failed : (host.dispatch listeners start).1 = .error (.raised error)) :
    ∃ index listener source, error = .listenerFailed index listener source := by
  cases ended : host.runInOrder listeners 0 0 start with
  | mk runEnd left =>
      obtain ⟨event, after⟩ := left
      obtain ⟨ran, failure?⟩ := runEnd
      cases failure? with
      | none =>
          rw [dispatch_of_done ended] at failed
          cases failed
      | some failure =>
          obtain ⟨index, listener, stop⟩ := failure
          rw [dispatch_of_failed ended] at failed
          exact ⟨index, listener.description, exists_source_of_afterTelling failed⟩

/-! ## The kind of the event -/

theorem verdict_cases
    (host : Host σ β)
    (kind : Kind)
    (state : σ) :
    (host.verdict state kind = none ∧
        Admission.checkAccepted host.checker kind state = (.ok (), (host.checker kind state).2)) ∨
      ∃ stop, host.verdict state kind = some stop ∧
        Admission.checkAccepted host.checker kind state =
          (.error (stop.map (.rejectedEvent kind.name)), (host.checker kind state).2) := by
  unfold verdict Action.stop? Admission.checkAccepted Action.mapError
  cases answer : host.checker kind state with
  | mk outcome changed =>
      cases outcome with
      | ok => exact .inl ⟨rfl, rfl⟩
      | error stop => cases stop <;> exact .inr ⟨_, rfl, rfl⟩

theorem nodeFor_refused
    {stop : Stop BusError}
    {after : σ}
    (refused : host.nodeFor kind state = (.error stop, after)) :
    (kind.chainObjection?.toList.map Stop.raised).head? = some stop ∧ after = state := by
  unfold nodeFor at refused
  split at refused
  case h_1 error unmade =>
    cases refused
    unfold Bus.nodeFor at unmade
    split at unmade
    case h_1 => cases unmade
    case h_2 sameError refusedIndex =>
      cases unmade
      rw [Index.chainObjection?_of_nodeFor refusedIndex]
      exact ⟨rfl, rfl⟩
  case h_2 => cases refused

/-- A kind is refused because of the first objection to it, and only the checker can have
changed anything. -/
theorem nodeForPost_refused
    {stop : Stop BusError}
    {after : σ}
    (refused : host.nodeForPost kind state = (.error stop, after)) :
    (host.kindObjections kind state).head? = some stop ∧
      after = if !kind.isAbstract && (host.bus state).checksTypes then
        (host.checker kind state).2 else state := by
  unfold kindObjections Kind.targetObjections
  cases isAbstract : kind.isAbstract with
  | true =>
      rw [nodeForPost_of_abstract isAbstract] at refused
      cases refused
      exact ⟨rfl, rfl⟩
  | false =>
      rw [nodeForPost_of_concrete isAbstract] at refused
      cases checks : (host.bus state).checksTypes with
      | false =>
          rw [checks, if_neg Bool.false_ne_true] at refused
          exact nodeFor_refused refused
      | true =>
          rw [checks, if_pos rfl] at refused
          rcases host.verdict_cases kind state with
            ⟨noVerdict, accepts⟩ | ⟨rejection, isVerdict, rejects⟩
          · rw [Action.bind_of_ok accepts] at refused
            obtain ⟨isFirst, rfl⟩ := nodeFor_refused refused
            rw [if_pos rfl, noVerdict]
            exact ⟨isFirst, rfl⟩
          · rw [Action.bind_of_error rejects] at refused
            cases refused
            rw [if_pos rfl, isVerdict]
            exact ⟨rfl, rfl⟩

/-! ## Posts -/

/-- Whichever check a post fails, the check is the first that it fails. -/
theorem exists_refuses
    {error : BusError}
    (failed : (host.postTo phase? (event, state)).1 = .error (.raised error))
    (own : ∀ index listener source, error ≠ .listenerFailed index listener source) :
    ∃ after, host.Refuses phase? event state error after := by
  cases forbidden : host.forbids phase? state with
  | true =>
      rw [postTo_of_forbidden forbidden] at failed
      cases failed
      refine ⟨state, fun run handle => ?_, ?_, ?_⟩
      · have forbiddenToo : (host.withCode run handle).forbids phase? state = true := forbidden
        exact postTo_of_forbidden forbiddenToo event
      · rw [postObjections, forbidden]
        rfl
      · rw [asksChecker, forbidden]
        rfl
  | false =>
      cases shutdown : (host.bus state).isShutdown with
      | true =>
          have ignored : (host.postTo phase? (event, state)).1 = .ok () := by
            rw [postTo_of_shutdown shutdown]
            refine if_neg fun isForbidden => ?_
            rw [forbids, isForbidden.1, isForbidden.2] at forbidden
            cases forbidden
          rw [ignored] at failed
          cases failed
      | false =>
          rcases Action.apply_cases (host.nodeForPost event.kind) state with
            ⟨id, made, found⟩ | ⟨stop, after, refused⟩
          · rw [postTo_of_found forbidden shutdown found] at failed
            obtain ⟨index, listener, source, fromListener⟩ := exists_listenerFailed failed
            exact absurd fromListener (own index listener source)
          · rw [postTo_of_refused forbidden shutdown refused] at failed
            cases failed
            obtain ⟨isFirst, changes⟩ := nodeForPost_refused refused
            refine ⟨after, fun run handle => ?_, ?_, ?_⟩
            · have refusedToo : (host.withCode run handle).nodeForPost event.kind state =
                  (.error (.raised error), after) := refused
              exact postTo_of_refused forbidden shutdown refusedToo
            · rw [postObjections, forbidden, shutdown]
              exact isFirst
            · rw [changes, asksChecker, forbidden, shutdown]
              rfl

/-- A post that ends with an error of its own has come to no dispatch: no listener body and no
handler has run, the event is as it was, and the error is the first objection to the post. Only
the checker can have changed anything, and only if it was asked about the kind. If it does not
use the bus, the bus is exactly as before. -/
theorem refused_post_changes_nothing
    {error : BusError}
    (failed : (host.postTo phase? (event, state)).1 = .error (.raised error))
    (own : ∀ index listener source, error ≠ .listenerFailed index listener source) :
    ∃ after, host.Refuses phase? event state error after ∧
      (host.StillChecker → host.bus after = host.bus state) := by
  obtain ⟨after, refuses⟩ := exists_refuses failed own
  refine ⟨after, refuses, fun still => ?_⟩
  rw [refuses.changes]
  split
  case isTrue => exact (still event.kind state).1
  case isFalse => rfl

section Objecting

variable {known : Kind → Prop} {first : σ}

theorem stop?_nodeForPost
    {terms : Terms σ β}
    (lawful : host.Lawful)
    (consistent : Kind.Consistent terms.known)
    (checks : ∀ kind state, Steps host terms state (host.checker kind state).2)
    (filed : terms.Filed (host.bus state).index)
    (isKnown : terms.known kind) :
    (host.nodeForPost kind).stop? state = (host.kindObjections kind state).head? := by
  unfold kindObjections Kind.targetObjections
  cases isAbstract : kind.isAbstract with
  | true => rw [Action.stop?_of_error (nodeForPost_of_abstract isAbstract state)]; rfl
  | false =>
      rw [Action.stop?, nodeForPost_of_concrete isAbstract]
      cases asked : (host.bus state).checksTypes with
      | false => exact stop?_nodeFor filed consistent isKnown
      | true =>
          rw [if_pos rfl, if_pos rfl]
          rcases host.verdict_cases kind state with
            ⟨noVerdict, accepts⟩ | ⟨rejection, isVerdict, rejects⟩
          · rw [Action.bind_of_ok accepts, noVerdict]
            exact stop?_nodeFor ((checks kind state).filed lawful filed) consistent isKnown
          · rw [Action.bind_of_error rejects, isVerdict]
            rfl

/-- On every bus that has come about by operations on known kinds, a post to which there is an
objection fails with the first one. -/
theorem Performs.refuses_with_first_objection
    (performs : host.Performs (host.openTerms known) first state)
    (lawful : host.Lawful)
    (checks : ∀ kind state, host.Performs (host.openTerms known) state (host.checker kind state).2)
    (consistent : Kind.Consistent known)
    {config : BusConfig}
    {forcesChecks : Bool}
    {metrics? : Option Metrics}
    (new : host.bus first = Bus.create config forcesChecks metrics?)
    (isKnown : known event.kind)
    {stop : Stop BusError}
    (objection : (host.postObjections phase? event.kind state).head? = some stop) :
    (host.postTo phase? (event, state)).1 = .error stop := by
  unfold postObjections at objection
  cases forbidden : host.forbids phase? state with
  | true =>
      rw [forbidden] at objection
      cases objection
      rw [postTo_of_forbidden forbidden]
  | false =>
      rw [forbidden] at objection
      cases shutdown : (host.bus state).isShutdown with
      | true =>
          rw [shutdown] at objection
          cases objection
      | false =>
          rw [shutdown] at objection
          have ends := stop?_nodeForPost lawful consistent
            (fun kind state => (checks kind state).steps lawful) (performs.filed lawful new) isKnown
          rw [show (host.kindObjections event.kind state).head? = some stop from objection] at ends
          rcases Action.apply_cases (host.nodeForPost event.kind) state with
            ⟨id, made, found⟩ | ⟨_, after, refused⟩
          · rw [Action.stop?_of_ok found] at ends
            cases ends
          · rw [Action.stop?_of_error refused] at ends
            cases ends
            rw [postTo_of_refused forbidden shutdown refused]

end Objecting

/-! ### An echo, and a drill at one priority -/

open Index (echo relay signal)
open Index.Reachable (alarm drill)
open FailsToRegister (heard meddling)

/-- An event of a kind that has no parts of other kinds. -/
def announcing (kind : Kind) : Event := .last ⟨kind, 0, none⟩

/-- The only kinds here. -/
def Announced (kind : Kind) : Prop := kind = alarm ∨ kind = drill ∨ kind = echo

theorem consistent_announced : Kind.Consistent Announced := by
  rintro first second (rfl | rfl | rfl) (rfl | rfl | rfl) <;> decide

theorem refuses_heard
    (phase? : Option Priority)
    {kind : Kind}
    (isKnown : Announced kind)
    {stop : Stop BusError}
    (objection : ((calm Unit).postObjections phase? kind heard).head? = some stop) :
    ((calm Unit).postTo phase? (announcing kind, heard)).1 = .error stop := by
  have performs : (calm Unit).Performs ((calm Unit).openTerms Announced)
      (Bus.create {} false none, 0) heard :=
    .addListener .normal false "" _ (.inl rfl) trivial fun _ state => .refl state
  have isAnnounced : Announced (announcing kind).kind := isKnown
  exact performs.refuses_with_first_objection (lawful_calm Unit) (fun _ state => .refl state)
    consistent_announced rfl isAnnounced objection

/-- Echoes have no node, and drills cannot be posted at one priority on this bus. -/
theorem refused_post_changes_nothing_heard :
    (calm Unit).StillChecker ∧
      (∃ after, (calm Unit).Refuses none (announcing echo) heard
        (.brokenAbstractChain "Echo" "Relay" "Signal") after ∧ after.1 = heard.1) ∧
      ∃ after, (calm Unit).Refuses (some .normal) (announcing drill) heard
        .perPhasePostDisabled after ∧ after.1 = heard.1 := by
  have still : (calm Unit).StillChecker := stillChecker_calm Unit
  have echoFails := refuses_heard none (.inr (.inr rfl)) rfl
  have drillFails := refuses_heard (some .normal) (.inr (.inl rfl)) rfl
  obtain ⟨afterEcho, refusesEcho, sameEcho⟩ := refused_post_changes_nothing echoFails nofun
  obtain ⟨afterDrill, refusesDrill, sameDrill⟩ := refused_post_changes_nothing drillFails nofun
  exact ⟨still, ⟨afterEcho, refusesEcho, sameEcho still⟩, afterDrill, refusesDrill, sameDrill still⟩

/-! ### A checker that uses the bus -/

/-- The checker adds a listener for signals before it rejects the alarm that is posted. The
listener stays, and so does the node made for it. -/
theorem exists_trace_of_refused_post :
    ∃ start after,
      meddling.bus start = Bus.create {} true none ∧
      meddling.postTo none (announcing alarm, start) =
        (.error (.raised (.rejectedEvent "Alarm" "no")), announcing alarm, after) ∧
      (meddling.bus start).registeredListeners.length = 0 ∧
      (meddling.bus after).registeredListeners.length = 1 ∧
      (meddling.bus start).index.kinds = [] ∧ (meddling.bus after).index.kinds = [signal] :=
  ⟨(Bus.create {} true none, 0), _, rfl, rfl, by decide, by decide +kernel, rfl, by decide +kernel⟩

end Host
end EventRelay
