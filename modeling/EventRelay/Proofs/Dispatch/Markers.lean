import EventRelay.Proofs.Bus.Orderly
import EventRelay.Proofs.Dispatch.Order
import EventRelay.Proofs.Dispatch.Typed
import EventRelay.Proofs.Hierarchy.Outcome
import EventRelay.Proofs.Hierarchy.Phases

/-!
# Buses that ask for a marker

A bus can be built to accept only kinds that carry a marker. A kind inherits the markers of
the kinds above it, but it also inherits their listeners. So where only kinds with the marker
have listeners, a kind without it meets none, neither its own nor inherited ones.

Therefore checking the kinds of posted events changes nothing for those that carry the marker;
the posts of others, which go to nobody, are then rejected.
-/

namespace EventRelay

variable {β : Type}

/-- Markers are inherited. -/
theorem Kind.hasMarker_of_mem_ancestors
    {marker : Marker}
    {low above : Kind}
    (isAbove : above ∈ low.ancestors)
    (marked : above.hasMarker marker = true) :
    low.hasMarker marker = true := by
  obtain ⟨ancestor, isHigher, declares⟩ := List.any_eq_true.mp marked
  exact List.any_eq_true.mpr ⟨ancestor, Kind.mem_ancestors_trans isAbove isHigher, declares⟩

/-! ## The arrays of single priorities -/

/-- The listeners for a kind and for the kinds above it at one priority, from the most specific
kind upwards. -/
def arrangedAt (kind : Kind) (entries : List (Listener β)) (priority : Priority) :
    List (Listener β) :=
  kind.ancestors.flatMap fun above => entries.filter (Listener.isFor above.id priority)

/-- What a post to all listeners, or to those of one priority, goes through. -/
def arrangedFor (phase? : Option Priority) (kind : Kind) (entries : List (Listener β)) :
    List (Listener β) :=
  match phase? with
  | none => arranged kind entries
  | some phase => arrangedAt kind entries phase

theorem mem_arranged_of_mem_arrangedFor
    {phase? : Option Priority}
    {kind : Kind}
    {entries : List (Listener β)}
    {entry : Listener β}
    (isArranged : entry ∈ arrangedFor phase? kind entries) :
    entry ∈ arranged kind entries := by
  cases phase? with
  | none => exact isArranged
  | some phase => exact List.mem_flatMap.mpr ⟨phase, Priority.mem_all phase, isArranged⟩

namespace Bus.Stored

variable {known accepts : Kind → Prop} {bus : Bus β} {issued : Nat}

/-- The same for one priority as for the whole array of a kind. -/
theorem recomputedAt_eq
    (stored : Stored known accepts (bus, issued))
    (consistent : Kind.Consistent known)
    {kind : Kind}
    (isKnown : known kind)
    {id : Nat}
    (hasNode : bus.index.lookup? kind.id = some id)
    (priority : Priority) :
    bus.index.recomputedAt id priority =
      (arrangedAt kind bus.registeredListeners priority).map (Listener.formFor kind) := by
  obtain ⟨node, present, rfl⟩ := stored.coherent.arena.exists_kind_of_lookup? consistent
    stored.kinds (.self isKnown) hasNode
  have fewer : Kind.Consistent (· ∈ bus.index.kinds) := consistent.within.mono stored.kinds
  have form : bus.index.declaresCancellable id = node.kind.isCancellable :=
    stored.coherent.arena.declaresCancellable_eq fewer present
  rw [Index.recomputedAt, bus.index.dispatchForm_eq_map form, arrangedAt,
    ← stored.coherent.arena.lineageKinds_eq fewer present]
  exact congrArg _ (stored.coherent.arena.gatheredAt_eq_flatMap_lineageKinds
    (fun isPresent => stored.buckets isPresent priority) id)

end Bus.Stored

namespace Host

variable {σ : Type} {host : Host σ β} {known accepts : Kind → Prop} {state made : σ}
  {kind : Kind} {id : Nat}

/-- What a post reads at the node of a kind is decided by what is registered. -/
theorem arrayAt_of_stored
    (lawful : host.Lawful)
    (stored : Bus.Stored known accepts (host.view state))
    (consistent : Kind.Consistent known)
    (isKnown : known kind)
    (hasNode : (host.bus state).index.lookup? kind.id = some id)
    (phase? : Option Priority) :
    host.arrayAt phase? id (host.refresh id state) =
      (arrangedFor phase? kind (host.bus state).registeredListeners).map
        (Listener.formFor kind) := by
  have coherent : (host.bus state).index.Coherent := stored.coherent
  have refreshed : (host.bus (host.refresh id state)).index =
      (host.bus state).index.refresh id :=
    congrArg (fun view => view.1.index) (view_refresh lawful id state)
  cases phase? with
  | none =>
      rw [arrayAt, refreshed, coherent.listeners_cacheOf_refresh]
      exact stored.recomputed_eq consistent isKnown hasNode
  | some phase =>
      obtain ⟨node, present, -⟩ := coherent.arena.exists_of_lookup? hasNode
      rw [arrayAt, refreshed, coherent.phaseOf_refresh present]
      exact stored.recomputedAt_eq consistent isKnown hasNode phase

/-! ## What a post offers -/

/-- The array that a post of a kind hands to the dispatch, or why there is no dispatch. -/
def offer (host : Host σ β) (phase? : Option Priority) (kind : Kind) :
    Action σ BusError (List (Listener β)) := do
  let id ← host.nodeForPost kind
  Action.change (host.refresh id)
  Action.look (host.arrayAt phase? id)

/-- Posts to all listeners, or to those of one priority, are neither forbidden nor ignored. -/
structure Takes (host : Host σ β) (phase? : Option Priority) (state : σ) : Prop where
  running : (host.bus state).isShutdown = false
  allowed : phase?.isSome = true → (host.bus state).config.allowsPhasePosts = true

theorem offer_of_found
    (found : host.nodeForPost kind state = (.ok id, made))
    (phase? : Option Priority) :
    host.offer phase? kind state =
      (.ok (host.arrayAt phase? id (host.refresh id made)), host.refresh id made) := by
  unfold offer
  rw [Action.bind_of_ok found]
  rfl

theorem offer_of_refused
    {stop : Stop BusError}
    (refused : host.nodeForPost kind state = (.error stop, made))
    (phase? : Option Priority) :
    host.offer phase? kind state = (.error stop, made) :=
  Action.bind_of_error refused _

section Posting

variable {phase? : Option Priority} {event : Event} {after : σ}

/-- A post dispatches what it offers, whatever the bodies and the handler do. -/
theorem postTo_of_offer
    (takes : host.Takes phase? state)
    {listeners : List (Listener β)}
    (offers : host.offer phase? event.kind state = (.ok listeners, after))
    (run : β → Handler σ)
    (handle : Incident β → Action σ Empty Unit) :
    (host.withCode run handle).postTo phase? (event, state) =
      (host.withCode run handle).dispatch listeners (event, after) := by
  obtain ⟨running, allowed⟩ : (host.withCode run handle).Takes phase? state :=
    ⟨takes.running, takes.allowed⟩
  rcases Action.apply_cases ((host.withCode run handle).nodeForPost event.kind) state with
    ⟨id, made, found⟩ | ⟨stop, made, refused⟩
  · cases (offer_of_found found phase?).symm.trans offers
    cases phase? with
    | none => exact post_of_found running found
    | some phase => exact postPhase_of_found (allowed rfl) running found phase
  · cases (offer_of_refused refused phase?).symm.trans offers

/-- A post that has nothing to offer leaves the event. -/
theorem postTo_of_refusal
    (takes : host.Takes phase? state)
    {stop : Stop BusError}
    (refuses : host.offer phase? event.kind state = (.error stop, after))
    (run : β → Handler σ)
    (handle : Incident β → Action σ Empty Unit) :
    (host.withCode run handle).postTo phase? (event, state) = (.error stop, event, after) := by
  obtain ⟨running, allowed⟩ : (host.withCode run handle).Takes phase? state :=
    ⟨takes.running, takes.allowed⟩
  rcases Action.apply_cases ((host.withCode run handle).nodeForPost event.kind) state with
    ⟨id, made, found⟩ | ⟨other, made, refused⟩
  · cases (offer_of_found found phase?).symm.trans refuses
  · cases (offer_of_refused refused phase?).symm.trans refuses
    cases phase? with
    | none => exact post_of_refused running refused
    | some phase => exact postPhase_of_refused (allowed rfl) running refused phase

end Posting

/-! ## Asking for a marker -/

section Marked

variable {marker : Marker}

theorem stillChecker_of_requiring
    (asks : host.checker = Checker.requiring marker) :
    host.StillChecker := by
  intro kind state
  rw [asks, Checker.requiring]
  split <;> exact ⟨rfl, Nat.le_refl _⟩

theorem acceptsOnly_of_requiring
    (asks : host.checker = Checker.requiring marker) :
    host.AcceptsOnly fun kind => kind.hasMarker marker = true := by
  intro kind state accepted
  rw [asks, Checker.requiring] at accepted
  split at accepted
  case isTrue marked => exact marked
  case isFalse => cases accepted

/-- The check of posted events makes no difference to kinds that carry the marker. -/
theorem nodeForPost_of_marked
    (asks : host.checker = Checker.requiring marker)
    (marked : kind.hasMarker marker = true)
    (concrete : kind.isAbstract = false)
    (state : σ) :
    host.nodeForPost kind state = host.nodeFor kind state := by
  rw [nodeForPost_of_concrete concrete, asks]
  have passes :
      Admission.checkAccepted (Checker.requiring marker) kind state = (.ok (), state) := by
    rw [Admission.checkAccepted, Checker.requiring, if_pos marked]
    rfl
  rw [Action.bind_of_ok passes, ite_self]

/-- Posts of concrete kinds that are not checked ask for the node at once. -/
theorem nodeForPost_of_unchecked
    (concrete : kind.isAbstract = false)
    (unchecked : (host.bus state).checksTypes = false) :
    host.nodeForPost kind state = host.nodeFor kind state := by
  rw [nodeForPost_of_concrete concrete, unchecked]
  rfl

/-- The check rejects concrete kinds that do not carry the marker. -/
theorem nodeForPost_of_unmarked
    (asks : host.checker = Checker.requiring marker)
    (unmarked : kind.hasMarker marker = false)
    (concrete : kind.isAbstract = false)
    (checks : (host.bus state).checksTypes = true) :
    host.nodeForPost kind state =
      (.error (.raised (.rejectedEvent kind.name (Checker.missingMarker marker kind))), state) := by
  rw [nodeForPost_of_concrete concrete, if_pos checks, asks]
  refine Action.bind_of_error ?_ _
  rw [Admission.checkAccepted, Checker.requiring, if_neg (Bool.eq_false_iff.mp unmarked)]
  rfl

/-- Where only kinds with the marker have listeners, other kinds meet none. -/
theorem arrangedFor_of_unmarked
    (stored : Bus.Stored known (fun kind => kind.hasMarker marker = true) (host.view state))
    (consistent : Kind.Consistent known)
    (isKnown : known kind)
    (unmarked : kind.hasMarker marker = false)
    (phase? : Option Priority) :
    arrangedFor phase? kind (host.bus state).registeredListeners = [] := by
  refine List.eq_nil_iff_forall_not_mem.mpr fun entry isArranged => ?_
  obtain ⟨isRegistered, above, isAbove, sameId⟩ :=
    mem_arranged.mp (mem_arranged_of_mem_arrangedFor isArranged)
  have admitted := stored.admitted entry isRegistered
  have sameKind : entry.kind = above :=
    consistent.eq_of_id_eq (.self admitted.known) (.of_mem_ancestors isKnown isAbove) sameId
  have marked := Kind.hasMarker_of_mem_ancestors isAbove (sameKind ▸ admitted.accepted)
  rw [unmarked] at marked
  cases marked

/-- Asking for the node of a kind whose chain is not sound is refused on every bus in the same
way, and nothing changes. -/
theorem exists_refusal_of_unsound
    (host : Host σ β)
    (consistent : Kind.Consistent known)
    (isKnown : known kind)
    (unsound : ¬ kind.SoundChain) :
    ∃ low parent above, kind.firstOffending? = some low ∧ low.parent? = some parent ∧
      parent.firstConcrete? = some above ∧
      ∀ state, (host.bus state).index.Reachable →
        (∀ other ∈ (host.bus state).index.kinds, Kind.Within known other) →
        host.nodeFor kind state =
          (.error (.raised (.brokenAbstractChain low.name parent.name above.name)), state) := by
  obtain ⟨low, first⟩ := Option.ne_none_iff_exists'.mp (mt Kind.soundChain_iff.mpr unsound)
  have refused (index : Index β) (reachable : index.Reachable)
      (kinds : ∀ other ∈ index.kinds, Kind.Within known other) := by
    have apart : Kind.Consistent fun other => other ∈ index.kinds ∨ other = kind := by
      refine consistent.within.mono ?_
      rintro other (isKind | rfl)
      · exact kinds other isKind
      · exact .self isKnown
    exact Index.nodeFor_of_firstOffending? reachable.coherent.arena
      (reachable.soundChain (apart.mono fun _ => .inl)) apart first
  obtain ⟨parent, above, isParent, isFirst, -⟩ := refused (.empty false) (.new false) nofun
  refine ⟨low, parent, above, first, isParent, isFirst, fun state reachable kinds => ?_⟩
  obtain ⟨_, _, isSame, isSameFirst, isRefused⟩ := refused _ reachable kinds
  cases isParent.symm.trans isSame
  cases isFirst.symm.trans isSameFirst
  simp only [nodeFor, Bus.nodeFor, isRefused]

/-- A bus that asks for a marker keeps kinds without it apart. -/
structure Isolated (host : Host σ β) (marker : Marker) (known : Kind → Prop) (state : σ) :
    Prop where
  /-- All listeners, whether in the table or at a node, are for kinds that carry the marker. -/
  stored : ∀ entry,
    entry ∈ (host.bus state).registeredListeners ∨ entry ∈ (host.bus state).heldListeners →
      entry.kind.hasMarker marker = true
  /-- Where kinds are told apart by their identities, an event that does not carry it is
  dispatched to nobody if posts are not checked, and comes back unchanged, whatever the bodies
  and the handler would do. -/
  silent : Kind.Consistent known → ∀ (event : Event) (phase? : Option Priority),
    known event.kind → event.kind.hasMarker marker = false → event.kind.isAbstract = false →
    event.kind.SoundChain → host.Takes phase? state → (host.bus state).checksTypes = false →
    ∃ after, host.offer phase? event.kind state = (.ok [], after) ∧ ∀ run handle,
      (host.withCode run handle).postTo phase? (event, state) =
        (.ok (), event, host.modify (fun bus => bus.recordPost 0) after)
  /-- An event of a kind whose chain is not sound is refused because of that if posts are not
  checked, and nothing changes. -/
  broken : Kind.Consistent known → ∀ (event : Event) (phase? : Option Priority),
    known event.kind → event.kind.isAbstract = false →
    ¬ event.kind.SoundChain → host.Takes phase? state → (host.bus state).checksTypes = false →
    ∃ low parent above, event.kind.firstOffending? = some low ∧ low.parent? = some parent ∧
      parent.firstConcrete? = some above ∧ ∀ run handle,
        (host.withCode run handle).postTo phase? (event, state) =
          (.error (.raised (.brokenAbstractChain low.name parent.name above.name)), event, state)
  /-- If posts are checked, an event that does not carry the marker is rejected in both cases,
  and nothing changes. -/
  rejected : ∀ (event : Event) (phase? : Option Priority),
    event.kind.hasMarker marker = false → event.kind.isAbstract = false →
    host.Takes phase? state → (host.bus state).checksTypes = true → ∀ run handle,
      (host.withCode run handle).postTo phase? (event, state) =
        (.error (.raised
          (.rejectedEvent event.kind.name (Checker.missingMarker marker event.kind))),
          event, state)
  /-- An event of an abstract kind is refused as such, whether posts are checked or not. -/
  abstract : ∀ (event : Event) (phase? : Option Priority), event.kind.isAbstract = true →
    host.Takes phase? state → ∀ run handle,
      (host.withCode run handle).postTo phase? (event, state) =
        (.error (.raised (.abstractEvent event.kind.name)), event, state)

theorem isolated_of_stored
    (lawful : host.Lawful)
    (asks : host.checker = Checker.requiring marker)
    (reachable : (host.bus state).index.Reachable)
    (stored : Bus.Stored known (fun kind => kind.hasMarker marker = true) (host.view state)) :
    host.Isolated marker known state where
  stored := by
    rintro entry (isRegistered | isHeld)
    · exact (stored.admitted entry isRegistered).accepted
    · exact (stored.admitted entry (stored.matched.mem_heldListeners.mp isHeld)).accepted
  silent := by
    intro consistent event phase? isKnown unmarked concrete sound takes unchecked
    have asked := nodeForPost_of_unchecked concrete unchecked
    obtain ⟨id, made, found⟩ := exists_nodeFor host sound state
    obtain ⟨storedMade, hasNode, -⟩ := stored_of_nodeFor lawful stored isKnown found
    have offers : host.offer phase? event.kind state = (.ok [], host.refresh id made) := by
      rw [offer_of_found (asked.trans found),
        arrayAt_of_stored lawful storedMade consistent isKnown hasNode,
        arrangedFor_of_unmarked storedMade consistent isKnown unmarked, List.map_nil]
    refine ⟨_, offers, fun run handle => ?_⟩
    rw [postTo_of_offer takes offers run handle]
    rfl
  broken := by
    intro consistent event phase? isKnown concrete unsound takes unchecked
    have asked := nodeForPost_of_unchecked concrete unchecked
    obtain ⟨low, parent, above, first, isParent, isFirst, refuses⟩ :=
      host.exists_refusal_of_unsound consistent isKnown unsound
    have refused := asked.trans (refuses state reachable stored.kinds)
    exact ⟨low, parent, above, first, isParent, isFirst, fun run handle =>
      postTo_of_refusal takes (offer_of_refused refused phase?) run handle⟩
  rejected := by
    intro event phase? unmarked concrete takes checks run handle
    have refused := nodeForPost_of_unmarked asks unmarked concrete checks
    exact postTo_of_refusal takes (offer_of_refused refused phase?) run handle
  abstract := by
    intro event phase? isAbstract takes run handle
    have refused := host.nodeForPost_of_abstract isAbstract state
    exact postTo_of_refusal takes (offer_of_refused refused phase?) run handle

/-! ## What is delivered -/

/-- Only what is registered decides what a post of a kind with the marker offers, not whether
posts are checked. -/
theorem offer_eq_of_registeredListeners
    (lawful : host.Lawful)
    (asks : host.checker = Checker.requiring marker)
    (consistent : Kind.Consistent known)
    (isKnown : known kind)
    (marked : kind.hasMarker marker = true)
    {other : σ}
    (reachable : (host.bus state).index.Reachable)
    (stored : Bus.Stored known accepts (host.view state))
    (reachableToo : (host.bus other).index.Reachable)
    (storedToo : Bus.Stored known accepts (host.view other))
    (sameTable : (host.bus other).registeredListeners = (host.bus state).registeredListeners)
    (phase? : Option Priority) :
    (host.offer phase? kind other).1 = (host.offer phase? kind state).1 := by
  cases isAbstract : kind.isAbstract with
  | true =>
      rw [offer_of_refused (nodeForPost_of_abstract isAbstract other),
        offer_of_refused (nodeForPost_of_abstract isAbstract state)]
  | false =>
      have asked := nodeForPost_of_marked asks marked isAbstract
      by_cases sound : kind.SoundChain
      · obtain ⟨id, made, found⟩ := host.exists_nodeFor sound state
        obtain ⟨idToo, madeToo, foundToo⟩ := host.exists_nodeFor sound other
        obtain ⟨storedMade, hasNode, sameMade⟩ := stored_of_nodeFor lawful stored isKnown found
        obtain ⟨storedMadeToo, hasNodeToo, sameMadeToo⟩ :=
          stored_of_nodeFor lawful storedToo isKnown foundToo
        rw [offer_of_found ((asked state).trans found),
          offer_of_found ((asked other).trans foundToo),
          arrayAt_of_stored lawful storedMade consistent isKnown hasNode,
          arrayAt_of_stored lawful storedMadeToo consistent isKnown hasNodeToo,
          sameMade, sameMadeToo, sameTable]
      · obtain ⟨_, _, _, -, -, -, refuses⟩ :=
          host.exists_refusal_of_unsound consistent isKnown sound
        rw [offer_of_refused ((asked state).trans (refuses state reachable stored.kinds)),
          offer_of_refused ((asked other).trans (refuses other reachableToo storedToo.kinds))]

/-! ## States that are reached -/

/-- A dispatch starts in a state that is reached like any other. -/
theorem Reaches.dispatches
    {first : σ}
    (reaches : host.Reaches known first state)
    (asks : host.checker = Checker.requiring marker)
    (isKnown : known kind)
    (found : host.nodeForPost kind state = (.ok id, made)) :
    host.Reaches known first (host.refresh id made) := by
  have asked : host.nodeFor kind state = (.ok id, made) := by
    cases isAbstract : kind.isAbstract with
    | true => cases (nodeForPost_of_abstract isAbstract state).symm.trans found
    | false =>
        cases marked : kind.hasMarker marker with
        | true => rwa [nodeForPost_of_marked asks marked isAbstract] at found
        | false =>
            cases checks : (host.bus state).checksTypes with
            | true =>
                cases (nodeForPost_of_unmarked asks marked isAbstract checks).symm.trans found
            | false => rwa [nodeForPost_of_unchecked isAbstract checks] at found
  -- Counting the listeners of the kind leads to the same state.
  have counted : (host.listenerCount kind state).2 = host.refresh id made := by
    rw [Host.listenerCount, Action.bind_of_ok asked]
    rfl
  rw [← counted]
  exact reaches.trans (.listenerCount state isKnown)

/-- So does the turn of every listener, if bodies do nothing with the bus but operations on
it. -/
theorem Reaches.enters
    {first : σ}
    (reaches : host.Reaches known first state)
    {run : β → Handler σ}
    {event : Event}
    (isKnown : known event.kind)
    (keepsKnown : ∀ body event state, known event.kind → known (run body (event, state)).2.1.kind)
    (bodies : ∀ body event state, known event.kind →
      host.Reaches known state (run body (event, state)).2.2)
    {listeners : List (Listener β)}
    {entry : Listener β}
    {entered : Event × σ}
    (enters : Enters run listeners (event, state) entry entered) :
    host.Reaches known first entered.2 := by
  obtain ⟨-, _, _, _, -, turns⟩ := enters
  refine reaches.trans (turns.related
    (fun start last => known start.1.kind → known last.1.kind ∧
      host.Reaches known start.2 last.2)
    (fun start isSuch => ⟨isSuch, .refl start.2⟩) ?_ ?_ isKnown).2
  · intro start middle last before after isSuch
    obtain ⟨stillKnown, earlier⟩ := before isSuch
    exact ⟨(after stillKnown).1, earlier.trans (after stillKnown).2⟩
  · intro body start isSuch
    exact ⟨keepsKnown body start.1 start.2 isSuch, bodies body start.1 start.2 isSuch⟩

/-- On a bus that asks for a marker, in every state that is reached, also while listeners have
their turns, only kinds with the marker have listeners. Where kinds are told apart by their
identities, an event of another kind, if it is concrete and its chain is sound, is dispatched to
nobody and comes back unchanged; if its chain is not sound, it is refused. If posts are checked,
it is rejected instead. For kinds with the marker it makes no difference whether posts are
checked: their node is looked for in the same way, and, where kinds are told apart by their
identities, their events meet the same listeners on any bus with the same registrations. -/
theorem Reaches.isolates_marker
    {first state : σ}
    (reaches : host.Reaches known first state)
    (lawful : host.Lawful)
    (asks : host.checker = Checker.requiring marker)
    {config : BusConfig}
    {forcesChecks : Bool}
    {metrics? : Option Metrics}
    (new : host.bus first = Bus.create config forcesChecks metrics?) :
    host.Isolated marker known state ∧
      (∀ {event : Event} {phase? : Option Priority} {id : Nat} {made : σ} {run : β → Handler σ},
        known event.kind → host.nodeForPost event.kind state = (.ok id, made) →
        (∀ body event state, known event.kind → known (run body (event, state)).2.1.kind) →
        (∀ body event state, known event.kind →
          host.Reaches known state (run body (event, state)).2.2) →
        ∀ entry entered,
          Enters run (host.arrayAt phase? id (host.refresh id made))
              (event, host.refresh id made) entry entered →
            host.Reaches known first entered.2 ∧ host.Isolated marker known entered.2) ∧
      (∀ kind, kind.hasMarker marker = true → kind.isAbstract = false → ∀ state,
        host.nodeForPost kind state = host.nodeFor kind state) ∧
      (Kind.Consistent known →
        ∀ {otherFirst other : σ} {otherConfig : BusConfig} {otherForces : Bool}
          {otherMetrics? : Option Metrics}, host.Reaches known otherFirst other →
          host.bus otherFirst = Bus.create otherConfig otherForces otherMetrics? →
          (host.bus other).registeredListeners = (host.bus state).registeredListeners →
          ∀ phase? kind, known kind → kind.hasMarker marker = true →
            (host.offer phase? kind other).1 = (host.offer phase? kind state).1) := by
  have still := stillChecker_of_requiring asks
  have accepts := acceptsOnly_of_requiring asks
  have isolated {state : σ} (reaches : host.Reaches known first state) :
      host.Isolated marker known state :=
    isolated_of_stored lawful asks (reaches.index_reachable lawful still new)
      (reaches.stored lawful still accepts new)
  refine ⟨isolated reaches, ?_, ?_, ?_⟩
  · intro event phase? id made run isKnown found keepsKnown bodies entry entered enters
    have onward : host.Reaches known first entered.2 :=
      (reaches.dispatches asks isKnown found).enters isKnown keepsKnown bodies enters
    exact ⟨onward, isolated onward⟩
  · exact fun _ marked concrete state => nodeForPost_of_marked asks marked concrete state
  · intro consistent otherFirst other _ _ _ reachesToo newToo sameTable phase? kind isKnown marked
    exact offer_eq_of_registeredListeners lawful asks consistent isKnown marked
      (reaches.index_reachable lawful still new) (reaches.stored lawful still accepts new)
      (reachesToo.index_reachable lawful still newToo)
      (reachesToo.stored lawful still accepts newToo) sameTable phase?

end Marked

/-! ### Buses for urgent alarms -/

open Index (echo)
open Index.Reachable (alarm)

/-- A marker for some kinds below that of alarms. -/
def urgent : Marker := ⟨"Urgent"⟩

/-- A kind of alarms that carries the marker. -/
def fire : Kind := .child ⟨"Fire", "Fire", false, false, [urgent]⟩ alarm

/-- A kind that inherits it. -/
def blaze : Kind := .child ⟨"Blaze", "Blaze", false, false, []⟩ fire

/-- The only kinds here. -/
def Alarming (kind : Kind) : Prop := kind = alarm ∨ kind = fire ∨ kind = blaze

theorem consistent_alarming : Kind.Consistent Alarming := by
  rintro first second (rfl | rfl | rfl) (rfl | rfl | rfl) <;> decide

/-- Surroundings of a bus for urgent alarms. -/
def urgently : Host (Bus Unit × Nat) Unit :=
  { calm Unit with checker := .requiring urgent }

/-- A listener for alarms is rejected, and then one for fires is added. -/
def fireWatch (config : BusConfig) : Bus Unit × Nat :=
  let rejected := (urgently.addListener alarm .high true "" ()
    (Bus.create config false none, 0)).2
  (urgently.addListener fire .normal true "" () rejected).2

theorem reaches_fireWatch (config : BusConfig) :
    urgently.Reaches Alarming (Bus.create config false none, 0) (fireWatch config) :=
  .trans (.addListener .high true "" () _ (.inl rfl))
    (.addListener .normal true "" () _ (.inr (.inl rfl)))

/-- An alarm that is not urgent goes to nobody, or is rejected where posts are checked. A blaze
meets the listener for fires in both cases. -/
theorem Reaches.isolates_marker_fireWatch :
    urgently.Reaches Alarming (Bus.create {} false none, 0) (fireWatch {}) ∧
      (fireWatch {}).1.registeredListeners.map Listener.kind = [fire] ∧
      urgently.Isolated urgent Alarming (fireWatch {}) ∧
      (∃ after, urgently.post (.last ⟨alarm, 0, none⟩, fireWatch {}) =
        (.ok (), .last ⟨alarm, 0, none⟩, after)) ∧
      urgently.post (.last ⟨alarm, 0, none⟩, fireWatch ⟨false, true, false⟩) =
        (.error (.raised (.rejectedEvent "Alarm" (Checker.missingMarker urgent alarm))),
          .last ⟨alarm, 0, none⟩, fireWatch ⟨false, true, false⟩) ∧
      ((urgently.offer none blaze (fireWatch {})).1.toOption.map (List.map Listener.kind) =
        some [fire]) ∧
      (urgently.offer none blaze (fireWatch ⟨false, true, false⟩)).1 =
        (urgently.offer none blaze (fireWatch {})).1 := by
  have lawful : urgently.Lawful := ⟨fun _ _ => rfl, fun _ _ => rfl, fun _ _ => rfl, fun _ _ => rfl,
    fun _ _ => rfl, fun _ _ => rfl⟩
  obtain ⟨isolated, -, -, delivered⟩ := (reaches_fireWatch {}).isolates_marker lawful rfl rfl
  obtain ⟨isolatedToo, -⟩ :=
    (reaches_fireWatch ⟨false, true, false⟩).isolates_marker lawful rfl rfl
  refine ⟨reaches_fireWatch {}, by decide +kernel, isolated, ?_, ?_, by decide +kernel, ?_⟩
  · obtain ⟨after, -, silent⟩ := isolated.silent consistent_alarming
      (.last ⟨alarm, 0, none⟩) none (.inl rfl) (by decide) (by decide) (by decide)
      ⟨by decide +kernel, nofun⟩ (by decide +kernel)
    exact ⟨_, silent urgently.run urgently.handle⟩
  · exact isolatedToo.rejected (.last ⟨alarm, 0, none⟩) none (by decide) (by decide)
      ⟨by decide +kernel, nofun⟩ (by decide +kernel) urgently.run urgently.handle
  · exact delivered consistent_alarming (reaches_fireWatch ⟨false, true, false⟩) rfl rfl none
      blaze (.inr (.inr rfl)) (by decide)

/-- A kind without the marker that has the identity of fires. -/
def tameFire : Kind := .root ⟨"Fire", "Fire", false, false, []⟩

/-- On a new bus already, the check of posted events makes a difference to echoes, which do not
carry the marker: they are rejected before their broken chain is noticed. And a kind without the
marker meets the listener for fires if it shares their identity. -/
theorem Isolated.exists_breach :
    (echo.hasMarker urgent = false ∧ echo.isAbstract = false ∧
      urgently.post (.last ⟨echo, 0, none⟩, Bus.create {} false none, 0) =
        (.error (.raised (.brokenAbstractChain "Echo" "Relay" "Signal")),
          .last ⟨echo, 0, none⟩, Bus.create {} false none, 0) ∧
      urgently.post (.last ⟨echo, 0, none⟩, Bus.create { checksTypes := true } false none, 0) =
        (.error (.raised (.rejectedEvent "Echo" (Checker.missingMarker urgent echo))),
          .last ⟨echo, 0, none⟩, Bus.create { checksTypes := true } false none, 0)) ∧
    urgently.Reaches (fun _ => True) (Bus.create {} false none, 0) (fireWatch {}) ∧
      tameFire.hasMarker urgent = false ∧ tameFire.isAbstract = false ∧ tameFire.SoundChain ∧
      urgently.Takes none (fireWatch {}) ∧ (fireWatch {}).1.checksTypes = false ∧
      ((urgently.offer none tameFire (fireWatch {})).1.toOption.map (List.map Listener.kind) =
        some [fire]) := by
  have unmarked : echo.hasMarker urgent = false := by decide
  have concrete : echo.isAbstract = false := by decide
  have reaches : urgently.Reaches (fun _ => True) (Bus.create {} false none, 0) (fireWatch {}) :=
    .trans (.addListener .high true "" () _ trivial) (.addListener .normal true "" () _ trivial)
  refine ⟨⟨unmarked, concrete, ?_, ?_⟩, reaches, by decide, by decide, by decide,
    ⟨by decide +kernel, nofun⟩, by decide +kernel, by decide +kernel⟩
  · have broken : urgently.nodeFor echo (Bus.create {} false none, 0) =
        (.error (.raised (.brokenAbstractChain "Echo" "Relay" "Signal")), _) := rfl
    exact post_of_refused rfl ((nodeForPost_of_unchecked concrete rfl).trans broken)
  · exact post_of_refused rfl (nodeForPost_of_unmarked rfl unmarked concrete rfl)

end Host
end EventRelay
