import EventRelay.Proofs.Bus.Steps
import EventRelay.Proofs.Dispatch.Entering
import EventRelay.Proofs.Dispatch.WholeEvents
import EventRelay.Proofs.Hierarchy.Growth

/-!
# Type safety of dispatch

A typed listener works on the part of an event that belongs to its kind, and an event without
such a part would be an error. This never happens to whole events on a bus whose listeners are
all typed for the kinds they are registered for.

The nodes hold listeners for their own kinds only, whatever has been done with the bus, and an
array is gathered from the nodes of the kinds above the event's kind. A whole event has a part
for each of these, and typed listeners leave it so.
-/

namespace EventRelay
namespace Host

variable {σ β : Type}

/-! ## What the nodes hold -/

/-- Every listener that a node holds is for its kind and keeps to the terms. -/
structure Terms.Filed (terms : Terms σ β) (index : Index β) : Prop where
  reachable : index.Reachable
  /-- Nodes are those of known kinds and of the kinds above them. -/
  kinds : ∀ kind ∈ index.kinds, Kind.Within terms.known kind
  entries : ∀ {id node}, index.node? id = some node → ∀ priority,
    ∀ entry ∈ index.ownAt id priority,
      entry.kind.id = node.kind.id ∧ terms.known entry.kind ∧ terms.suits entry.kind entry.body

namespace Terms.Filed

variable {terms : Terms σ β} {index later : Index β}

theorem empty (terms : Terms σ β) (tracksPhases : Bool) :
    terms.Filed (Index.empty tracksPhases) :=
  ⟨.new tracksPhases, nofun, nofun⟩

/-- Where the nodes are the same, only what is new in the buckets matters. -/
theorem of_frame_eq
    (filed : terms.Filed index)
    (reachable : later.Reachable)
    (sameFrame : later.frame = index.frame)
    (entries : ∀ {id node}, index.node? id = some node → ∀ priority,
      ∀ entry ∈ later.ownAt id priority, entry ∈ index.ownAt id priority ∨
        entry.kind.id = node.kind.id ∧ terms.known entry.kind ∧
          terms.suits entry.kind entry.body) :
    terms.Filed later where
  reachable := reachable
  kinds := by
    rw [Index.kinds_of_frame_eq sameFrame]
    exact filed.kinds
  entries := by
    intro id node present priority entry isHeld
    obtain ⟨before, wasPresent, nodeFrame⟩ := Index.exists_of_frame_eq sameFrame present
    have sameKind : before.kind = node.kind := congrArg (fun frame => frame.2.1) nodeFrame
    rw [← sameKind]
    rcases entries wasPresent priority entry isHeld with old | new
    · exact filed.entries wasPresent priority entry old
    · exact new

/-- New nodes hold nothing. -/
theorem of_growsTo
    (filed : terms.Filed index)
    (reachable : later.Reachable)
    (grows : Index.GrowsTo (Kind.Within terms.known) index later) :
    terms.Filed later where
  reachable := reachable
  kinds := by
    intro kind isKind
    rcases grows.mem_kinds isKind with old | within
    · exact filed.kinds kind old
    · exact within
  entries := by
    intro id node present priority entry isHeld
    rw [grows.ownAt] at isHeld
    cases wasPresent : index.node? id with
    | none =>
        rw [Index.ownAt, wasPresent] at isHeld
        cases isHeld
    | some before =>
        obtain ⟨added, isPresent, -⟩ := grows.node?_of_old wasPresent
        rw [present] at isPresent
        cases isPresent
        exact filed.entries wasPresent priority entry isHeld

/-- What is gathered for a kind is registered for the kinds above it. -/
theorem of_mem_gatheredAt
    (filed : terms.Filed index)
    (consistent : Kind.Consistent terms.known)
    {id : Nat}
    {node : Node β}
    (present : index.node? id = some node)
    {priority : Priority}
    {entry : Listener β}
    (isGathered : entry ∈ index.gatheredAt id priority) :
    entry.kind ∈ node.kind.ancestors ∧ terms.suits entry.kind entry.body := by
  have arena := filed.reachable.coherent.arena
  have apart : Kind.Consistent (· ∈ index.kinds) := consistent.within.mono filed.kinds
  obtain ⟨ancestor, above, isOwn⟩ := List.mem_flatMap.mp isGathered
  obtain ⟨higher, higherPresent⟩ := arena.exists_of_mem_lineage above
  obtain ⟨sameId, isKnown, suits⟩ := filed.entries higherPresent priority entry isOwn
  have sameKind : entry.kind = higher.kind := consistent.eq_of_id_eq (.self isKnown)
    (filed.kinds _ (Index.kind_mem_kinds higherPresent)) sameId
  refine ⟨?_, suits⟩
  rw [sameKind, ← arena.lineageKinds_eq apart present, Index.lineageKinds]
  exact List.mem_filterMap.mpr ⟨ancestor, above, by rw [higherPresent]; rfl⟩

/-- The form in which it is dispatched does not matter. -/
theorem of_mem_dispatchForm
    (filed : terms.Filed index)
    (consistent : Kind.Consistent terms.known)
    {id : Nat}
    {node : Node β}
    (present : index.node? id = some node)
    {entries : List (Listener β)}
    (areGathered : ∀ entry ∈ entries, ∃ priority, entry ∈ index.gatheredAt id priority)
    {entry : Listener β}
    (isDispatched : entry ∈ index.dispatchForm id entries) :
    entry.kind ∈ node.kind.ancestors ∧ terms.suits entry.kind entry.body := by
  have original : ∃ other ∈ entries, entry.kind = other.kind ∧ entry.body = other.body := by
    rw [Index.dispatchForm] at isDispatched
    split at isDispatched
    case isTrue => exact ⟨entry, isDispatched, rfl, rfl⟩
    case isFalse =>
      obtain ⟨other, isOther, rfl⟩ := List.mem_map.mp isDispatched
      exact ⟨other, isOther, rfl, rfl⟩
  obtain ⟨other, isOther, sameKind, sameBody⟩ := original
  obtain ⟨priority, isGathered⟩ := areGathered other isOther
  rw [sameKind, sameBody]
  exact filed.of_mem_gatheredAt consistent present isGathered

section Changes

variable {bus : Bus β}

theorem refresh
    (filed : terms.Filed bus.index)
    (id : Nat) :
    terms.Filed (bus.refresh id).index := by
  refine filed.of_frame_eq (.flattened id filed.reachable) (Index.frame_refresh _ id) ?_
  intro other node present priority entry isHeld
  rw [Bus.refresh, Bus.index_withIndex, Index.ownAt_refresh] at isHeld
  exact .inl isHeld

/-- What is ready to be added is added to the node of its kind. -/
theorem commit
    (filed : terms.Filed bus.index)
    (key : Key)
    {pending : Pending β}
    (ready : ∀ entry ∈ pending, terms.Ready bus.index entry) :
    terms.Filed (bus.commit key pending).index := by
  have arena := filed.reachable.coherent.arena
  refine filed.of_frame_eq (Bus.reachable_commit filed.reachable key pending)
    (Bus.frame_commit ..) ?_
  intro id node present priority entry isHeld
  cases taken : bus.isRegistered key with
  | true =>
      rw [Bus.commit, if_pos taken] at isHeld
      exact .inl isHeld
  | false =>
      have haveNodes : ∀ entry ∈ pending, entry.1 < bus.index.size := by
        intro other isReady
        obtain ⟨_, isPresent, -⟩ := arena.exists_of_lookup? (ready other isReady).node
        exact Index.node?_lt_size isPresent
      rw [Bus.index_commit taken, Bus.ownAt_insertAll _ _ haveNodes,
        List.mem_append] at isHeld
      refine isHeld.imp_right fun isNew => ?_
      obtain ⟨added, isAdded, rfl⟩ := List.mem_map.mp isNew
      obtain ⟨isReady, meant⟩ := List.mem_filter.mp isAdded
      obtain ⟨isKnown, suits, hasNode⟩ := ready added isReady
      rw [(of_decide_eq_true meant).1, arena.lookup?_iff, present] at hasNode
      exact ⟨(Option.some.inj hasNode).symm, isKnown, suits⟩

theorem unregister
    (filed : terms.Filed bus.index)
    (key : Key) :
    terms.Filed (bus.unregister key).index := by
  refine filed.of_frame_eq (Bus.reachable_unregister filed.reachable key)
    (Bus.frame_unregister ..) ?_
  intro id node present priority entry isHeld
  unfold Bus.unregister at isHeld
  split at isHeld
  case h_1 => exact .inl isHeld
  case h_2 =>
    rw [Bus.index_meter, Index.ownAt_purge] at isHeld
    exact .inl (List.mem_of_mem_filter isHeld)

end Changes
end Terms.Filed

section Steps

variable {host : Host σ β} {terms : Terms σ β}

/-- A step adds listeners to the nodes of their kinds only. -/
theorem Step.filed
    {before after : σ}
    (step : Step host terms before after)
    (lawful : host.Lawful)
    (filed : terms.Filed (host.bus before).index) :
    terms.Filed (host.bus after).index := by
  cases step with
  | aside _ sameBus => rwa [sameBus]
  | note notice state => rwa [lawful.bus_note]
  | issue state =>
      change terms.Filed (host.bus (host.withIssued _ before)).index
      rwa [lawful.bus_withIssued]
  | @grow kind bus id state isKnown made =>
      obtain ⟨index, madeIndex, rfl⟩ := Bus.nodeFor_eq_ok made
      rw [lawful.bus_withBus]
      exact filed.of_growsTo (.nodeFor filed.reachable madeIndex)
        ((Index.nodeFor_grows madeIndex).1.mono fun _ above => .of_mem_ancestors isKnown above)
  | refresh id state =>
      rw [lawful.bus_modify]
      exact filed.refresh id
  | commit key state ready =>
      rw [lawful.bus_modify]
      exact filed.commit key ready
  | unregister key state =>
      rw [lawful.bus_modify]
      exact filed.unregister key
  | start state =>
      rw [lawful.bus_modify]
      exact filed
  | recordPost ran state =>
      rw [lawful.bus_modify]
      exact filed
  | recordFailure state =>
      rw [lawful.bus_modify]
      exact filed

theorem Steps.filed
    {first last : σ}
    (steps : Steps host terms first last)
    (lawful : host.Lawful)
    (filed : terms.Filed (host.bus first).index) :
    terms.Filed (host.bus last).index := by
  induction steps with
  | refl => exact filed
  | tail _ step inductionHypothesis => exact step.filed lawful inductionHypothesis

/-- The nodes of every bus that has come about by a run hold what the terms allow. -/
theorem Performs.filed
    {first last : σ}
    (performs : host.Performs terms first last)
    (lawful : host.Lawful)
    {config : BusConfig}
    {forcesChecks : Bool}
    {metrics? : Option Metrics}
    (new : host.bus first = Bus.create config forcesChecks metrics?) :
    terms.Filed (host.bus last).index := by
  refine Steps.filed (performs.steps lawful) lawful ?_
  rw [new]
  exact .empty terms _

end Steps

/-! ## Posts -/

/-- Posts to all listeners, or to those of one priority. -/
def postTo (host : Host σ β) : Option Priority → Action (Event × σ) BusError Unit
  | none => host.post
  | some phase => host.postPhase phase

/-- The array that such a post reads at a node. -/
def arrayAt (host : Host σ β) (phase? : Option Priority) (id : Nat) (state : σ) :
    List (Listener β) :=
  match phase? with
  | none => ((host.bus state).index.cacheOf id).listeners
  | some phase => (host.bus state).index.phaseOf id phase

/-- Why a post does not come to a dispatch. -/
inductive Declines (host : Host σ β) (phase? : Option Priority) (event : Event) (state : σ) : Prop
  /-- The bus has been configured not to take posts to one priority. -/
  | forbidden {phase : Priority} :
      phase? = some phase → (host.bus state).config.allowsPhasePosts = false →
      Declines host phase? event state
  /-- The bus has not been started, and posts have no effect. -/
  | shutdown : (host.bus state).isShutdown = true → Declines host phase? event state
  /-- No node is found or made for the event. -/
  | refused {stop : Stop BusError} {after : σ} :
      host.nodeForPost event.kind state = (.error stop, after) →
      Declines host phase? event state

/-- Whether a post declines can be found out without posting. -/
instance (host : Host σ β) (phase? : Option Priority) (event : Event) (state : σ) :
    Decidable (host.Declines phase? event state) :=
  decidable_of_iff
    ((phase?.isSome = true ∧ (host.bus state).config.allowsPhasePosts = false) ∨
      (host.bus state).isShutdown = true ∨ (host.nodeForPost event.kind state).1.isOk = false) <| by
    constructor
    · rintro (⟨isPhase, disallowed⟩ | shutdown | notOk)
      · obtain ⟨phase, isPhase⟩ := Option.isSome_iff_exists.mp isPhase
        exact .forbidden isPhase disallowed
      · exact .shutdown shutdown
      · rcases Action.apply_cases (host.nodeForPost event.kind) state with
          ⟨id, made, found⟩ | ⟨stop, after, refused⟩
        · rw [found] at notOk
          cases notOk
        · exact .refused refused
    · rintro (⟨isPhase, disallowed⟩ | shutdown | refused)
      · exact .inl ⟨Option.isSome_of_eq_some isPhase, disallowed⟩
      · exact .inr (.inl shutdown)
      · exact .inr (.inr (by rw [refused]; rfl))

/-- Posts on a bus that is shut down have no effect, whatever the bodies and the handler would
do. -/
theorem postTo_of_shutdown
    {host : Host σ β}
    {state : σ}
    (shutdown : (host.bus state).isShutdown = true)
    (phase? : Option Priority)
    (event : Event) :
    host.postTo phase? (event, state) =
      (if phase?.isSome = true ∧ (host.bus state).config.allowsPhasePosts = false then
        .error (.raised .perPhasePostDisabled) else .ok (), event, state) := by
  cases phase? with
  | none => exact post_of_shutdown shutdown event
  | some phase =>
      cases allowed : (host.bus state).config.allowsPhasePosts with
      | true => exact postPhase_of_shutdown allowed shutdown phase event
      | false => exact postPhase_of_forbidden allowed phase event

/-- A post that does not come to a dispatch at most asks for a node. -/
theorem Declines.leaves
    {host : Host σ β}
    {phase? : Option Priority}
    {event : Event}
    {state : σ}
    (declines : host.Declines phase? event state)
    (run : β → Handler σ)
    (handle : Incident β → Action σ Empty Unit) :
    ((host.withCode run handle).postTo phase? (event, state)).2.2 = state ∨
      ((host.withCode run handle).postTo phase? (event, state)).2.2 =
        (host.nodeForPost event.kind state).2 := by
  have ignored (shutdown : (host.bus state).isShutdown = true) :
      ((host.withCode run handle).postTo phase? (event, state)).2.2 = state := by
    have shutdownToo : ((host.withCode run handle).bus state).isShutdown = true := shutdown
    rw [postTo_of_shutdown shutdownToo]
  have forbidden {phase : Priority} (isPhase : phase? = some phase)
      (disallowed : (host.bus state).config.allowsPhasePosts = false) :
      ((host.withCode run handle).postTo phase? (event, state)).2.2 = state := by
    have disallowedToo :
        ((host.withCode run handle).bus state).config.allowsPhasePosts = false := disallowed
    rw [isPhase, postTo, postPhase_of_forbidden disallowedToo]
  cases declines with
  | forbidden isPhase disallowed => exact .inl (forbidden isPhase disallowed)
  | shutdown shutdown => exact .inl (ignored shutdown)
  | @refused stop after refused =>
      have refusedToo : (host.withCode run handle).nodeForPost event.kind state =
          (.error stop, after) := refused
      cases shutdown : (host.bus state).isShutdown with
      | true => exact .inl (ignored shutdown)
      | false =>
          have running : ((host.withCode run handle).bus state).isShutdown = false := shutdown
          cases phase? with
          | none =>
              refine .inr ?_
              rw [postTo, post_of_refused running refusedToo, refused]
          | some phase =>
              cases allowed : (host.bus state).config.allowsPhasePosts with
              | false => exact .inl (forbidden rfl allowed)
              | true =>
                  have allowedToo :
                      ((host.withCode run handle).bus state).config.allowsPhasePosts = true :=
                    allowed
                  refine .inr ?_
                  rw [postTo, postPhase_of_refused allowedToo running refusedToo, refused]

/-- Whether a post dispatches, and which array, does not depend on what the bodies and the
handler do. -/
theorem postTo_cases
    (host : Host σ β)
    (phase? : Option Priority)
    (event : Event)
    (state : σ) :
    (host.Declines phase? event state ∧ ∃ outcome after, ∀ run handle,
        (host.withCode run handle).postTo phase? (event, state) = (outcome, event, after)) ∨
      ∃ id made, host.nodeForPost event.kind state = (.ok id, made) ∧ ∀ run handle,
        (host.withCode run handle).postTo phase? (event, state) =
          (host.withCode run handle).dispatch (host.arrayAt phase? id (host.refresh id made))
            (event, host.refresh id made) := by
  -- The stages before the dispatch do not see the code that the host is given.
  cases phase? with
  | none =>
      cases shutdown : (host.bus state).isShutdown with
      | true =>
          refine .inl ⟨.shutdown shutdown, .ok (), state, fun run handle => ?_⟩
          have shutdownToo : ((host.withCode run handle).bus state).isShutdown = true := shutdown
          exact post_of_shutdown shutdownToo event
      | false =>
          have running (run : β → Handler σ) (handle : Incident β → Action σ Empty Unit) :
              ((host.withCode run handle).bus state).isShutdown = false := shutdown
          rcases Action.apply_cases (host.nodeForPost event.kind) state with
            ⟨id, made, found⟩ | ⟨stop, after, refused⟩
          · exact .inr ⟨id, made, found, fun run handle => post_of_found (running run handle) found⟩
          · exact .inl ⟨.refused refused, _, _, fun run handle =>
              post_of_refused (running run handle) refused⟩
  | some phase =>
      cases allowed : (host.bus state).config.allowsPhasePosts with
      | false =>
          refine .inl ⟨.forbidden rfl allowed, .error (.raised .perPhasePostDisabled), state,
            fun run handle => ?_⟩
          have forbidden : ((host.withCode run handle).bus state).config.allowsPhasePosts = false :=
            allowed
          exact postPhase_of_forbidden forbidden phase event
      | true =>
          have allowedToo (run : β → Handler σ) (handle : Incident β → Action σ Empty Unit) :
              ((host.withCode run handle).bus state).config.allowsPhasePosts = true := allowed
          cases shutdown : (host.bus state).isShutdown with
          | true =>
              exact .inl ⟨.shutdown shutdown, _, _, fun run handle =>
                postPhase_of_shutdown (allowedToo run handle) shutdown phase event⟩
          | false =>
              rcases Action.apply_cases (host.nodeForPost event.kind) state with
                ⟨id, made, found⟩ | ⟨stop, after, refused⟩
              · exact .inr ⟨id, made, found, fun run handle =>
                  postPhase_of_found (allowedToo run handle) shutdown found phase⟩
              · exact .inl ⟨.refused refused, _, _, fun run handle =>
                  postPhase_of_refused (allowedToo run handle) shutdown refused phase⟩

/-! ## What typed listeners receive -/

/-- A body is written for the events of a kind. -/
def TypedFor (host : Host σ β) (kind : Kind) (body : β) : Prop :=
  ∃ handler, host.run body = Handler.forKind kind handler ∧ handler.KeepsParts kind

/-- A typed listener is given the part of an event that is of the kind for which it was
registered, and puts it back. -/
structure Receives (host : Host σ β) (entry : Listener β) (start : Event × σ) : Prop where
  typed : host.TypedFor entry.kind entry.body
  view : ∃ view, start.1.view? entry.kind.id = some view ∧ view.kind = entry.kind ∧
    ∀ handler, host.run entry.body = Handler.forKind entry.kind handler →
      host.run entry.body start =
        ((handler (view, start.2)).1,
          Event.putView entry.kind.id (handler (view, start.2)).2.1 start.1,
          (handler (view, start.2)).2.2)

section Receiving

variable {host : Host σ β} {listeners : List (Listener β)}

/-- A typed body leaves the kinds of the parts as they are. -/
theorem TypedFor.partKinds_eq
    {kind : Kind}
    {body : β}
    {outcome : Outcome ListenerError Unit}
    {start left : Event × σ}
    (typed : host.TypedFor kind body)
    (ended : host.run body start = (outcome, left)) :
    left.1.partKinds = start.1.partKinds := by
  obtain ⟨handler, written, keeps⟩ := typed
  have kept := keeps.forKind start.1 start.2
  rwa [← written, ended] at kept

theorem Turns.partKinds_eq
    {bodies : List β}
    {start last : Event × σ}
    (turns : Turns host.run listeners start bodies last)
    (typed : ∀ entry ∈ listeners, host.TypedFor entry.kind entry.body) :
    last.1.partKinds = start.1.partKinds := by
  induction turns with
  | done state => rfl
  | runs _ ended _ inductionHypothesis =>
      rw [inductionHypothesis fun entry isLater => typed entry (List.mem_cons_of_mem _ isLater)]
      exact (typed _ List.mem_cons_self).partKinds_eq ended
  | passes _ _ _ inductionHypothesis =>
      exact inductionHypothesis fun entry isLater => typed entry (List.mem_cons_of_mem _ isLater)

/-- If bodies go step by step, then so do turns. -/
theorem Turns.steps
    {terms : Terms σ β}
    {bodies : List β}
    {start last : Event × σ}
    (turns : Turns host.run listeners start bodies last)
    (typed : ∀ entry ∈ listeners, host.TypedFor entry.kind entry.body)
    (isKnown : terms.known start.1.kind)
    (bodySteps : ∀ body event state, terms.known event.kind →
      Steps host terms state (host.run body (event, state)).2.2) :
    Steps host terms start.2 last.2 := by
  induction turns with
  | done state => exact .refl
  | @runs listener rest bodies state changed last _ ended _ inductionHypothesis =>
      have stillKnown : terms.known changed.1.kind := by
        rwa [Event.kind_eq_of_partKinds_eq ((typed _ List.mem_cons_self).partKinds_eq ended)]
      have bodyStep := bodySteps listener.body state.1 state.2 isKnown
      rw [ended] at bodyStep
      exact bodyStep.trans (inductionHypothesis
        (fun entry isLater => typed entry (List.mem_cons_of_mem _ isLater)) stillKnown)
  | passes _ _ _ inductionHypothesis =>
      exact inductionHypothesis
        (fun entry isLater => typed entry (List.mem_cons_of_mem _ isLater)) isKnown

/-- A listener that is typed for a kind above that of a whole event receives its part. -/
theorem Enters.receives
    {kind : Kind}
    {start entered : Event × σ}
    {entry : Listener β}
    (enters : Enters host.run listeners start entry entered)
    (parts : kind.ancestors <+: start.1.partKinds)
    (apart : ∀ above ∈ kind.ancestors, ∀ other ∈ kind.ancestors,
      other.id = above.id → other = above)
    (typed : ∀ entry ∈ listeners,
      entry.kind ∈ kind.ancestors ∧ host.TypedFor entry.kind entry.body) :
    host.Receives entry entered := by
  obtain ⟨before, after, bodies, rfl, turns⟩ := enters.turns
  obtain ⟨isAbove, isTyped⟩ := typed entry (by simp)
  have sameParts : entered.1.partKinds = start.1.partKinds :=
    turns.partKinds_eq fun other isBefore => (typed other (List.mem_append_left _ isBefore)).2
  rw [← sameParts] at parts
  obtain ⟨view, isView, sameKind⟩ := Event.exists_view? parts isAbove (apart _ isAbove)
  refine ⟨isTyped, view, isView, sameKind, fun handler written => ?_⟩
  rw [written]
  exact Handler.forKind_of_view?_eq_some isView handler entered.2

end Receiving

section Dispatches

variable {host : Host σ β} {terms : Terms σ β}

/-- The array that a post reads holds listeners for the kinds above that of the event. -/
theorem Terms.Filed.of_mem_arrayAt
    {state : σ}
    (filed : terms.Filed (host.bus state).index)
    (lawful : host.Lawful)
    (consistent : Kind.Consistent terms.known)
    {phase? : Option Priority}
    {id : Nat}
    {node : Node β}
    (present : (host.bus state).index.node? id = some node)
    {entry : Listener β}
    (isRead : entry ∈ host.arrayAt phase? id (host.refresh id state)) :
    entry.kind ∈ node.kind.ancestors ∧ terms.suits entry.kind entry.body := by
  have coherent := filed.reachable.coherent
  have refreshed : (host.bus (host.refresh id state)).index =
      (host.bus state).index.refresh id :=
    congrArg (fun view => view.1.index) (view_refresh lawful id state)
  cases phase? with
  | none =>
      rw [arrayAt, refreshed, (coherent.current_refresh present).listeners] at isRead
      refine filed.of_mem_dispatchForm consistent present (fun entry isGathered => ?_) isRead
      obtain ⟨priority, -, atPriority⟩ := List.mem_flatMap.mp isGathered
      exact ⟨priority, atPriority⟩
  | some phase =>
      rw [arrayAt, refreshed, coherent.phaseOf_refresh present] at isRead
      exact filed.of_mem_dispatchForm consistent present
        (fun entry isGathered => ⟨phase, isGathered⟩) isRead

/-- In every state that a run passes through on its way from a new bus, also within an
operation, a post of a whole event is refused before any listener runs, or it dispatches an
array. Then the bodies that run are those of the listeners that are entered, and each of these
is given the part of the event that is of the kind for which it was registered. All bodies that
are registered have to be written for their kinds, and kinds are told apart by their identities.

If the bodies keep to the terms of the run, it passes through the states in which they are run.
So the same holds of what they post. -/
theorem Steps.dispatches_typed
    {first state : σ}
    (steps : Steps host terms first state)
    (lawful : host.Lawful)
    {config : BusConfig}
    {forcesChecks : Bool}
    {metrics? : Option Metrics}
    (new : host.bus first = Bus.create config forcesChecks metrics?)
    (consistent : Kind.Consistent terms.known)
    (typed : ∀ kind body, terms.suits kind body → host.TypedFor kind body)
    (checks : ∀ kind state, Steps host terms state (host.checker kind state).2)
    {event : Event}
    (isKnown : terms.known event.kind)
    (whole : event.Whole)
    (phase? : Option Priority) :
    (host.Declines phase? event state ∧ ∃ outcome after, ∀ run handle,
        (host.withCode run handle).postTo phase? (event, state) = (outcome, event, after)) ∨
      ∃ id made, host.nodeForPost event.kind state = (.ok id, made) ∧
        (∀ run handle, (host.withCode run handle).postTo phase? (event, state) =
          (host.withCode run handle).dispatch (host.arrayAt phase? id (host.refresh id made))
            (event, host.refresh id made)) ∧
        host.Unfolds (host.arrayAt phase? id (host.refresh id made)) (event, host.refresh id made)
          (fun handle => (host.withCode host.run handle).postTo phase? (event, state)) ∧
        ∀ entry entered,
          Enters host.run (host.arrayAt phase? id (host.refresh id made))
              (event, host.refresh id made) entry entered →
            host.Receives entry entered ∧
              ((∀ body event state, terms.known event.kind →
                  Steps host terms state (host.run body (event, state)).2.2) →
                Steps host terms first entered.2) := by
  rcases host.postTo_cases phase? event state with undispatched | ⟨id, made, found, dispatches⟩
  · exact .inl undispatched
  have runs := runs_nodeForPost checks lawful isKnown state
  have hasNode := runs.fits id (by rw [found])
  have onward := runs.steps
  rw [found] at hasNode onward
  have filed : terms.Filed (host.bus made).index := by
    refine Steps.filed (steps.trans onward) lawful ?_
    rw [new]
    exact .empty terms _
  obtain ⟨node, present, sameKind⟩ := filed.reachable.coherent.arena.exists_kind_of_lookup?
    consistent filed.kinds (.self isKnown) hasNode
  have typedEntries : ∀ entry ∈ host.arrayAt phase? id (host.refresh id made),
      entry.kind ∈ event.kind.ancestors ∧ host.TypedFor entry.kind entry.body := by
    intro entry isRead
    obtain ⟨isAbove, suits⟩ := filed.of_mem_arrayAt lawful consistent present isRead
    rw [sameKind] at isAbove
    exact ⟨isAbove, typed _ _ suits⟩
  refine .inr ⟨id, made, found, dispatches, ?_,
    fun entry entered enters => ⟨?_, fun bodySteps => ?_⟩⟩
  · rw [funext (dispatches host.run)]
    exact host.unfolds_dispatch _ _
  · refine enters.receives whole.begins_with_ancestors ?_ typedEntries
    intro above isAbove other isOther sameId
    exact consistent.eq_of_id_eq (.of_mem_ancestors isKnown isOther)
      (.of_mem_ancestors isKnown isAbove) sameId
  · obtain ⟨before, after, bodies, split, turns⟩ := enters.turns
    have typedBefore : ∀ other ∈ before, host.TypedFor other.kind other.body := by
      intro other isBefore
      refine (typedEntries other ?_).2
      rw [split]
      exact List.mem_append_left _ isBefore
    have intoTurns : Steps host terms first (host.refresh id made) :=
      (steps.trans onward).trans (steps_refresh id made)
    exact intoTurns.trans (turns.steps typedBefore isKnown bodySteps)

end Dispatches

/-! ### Drills that are practiced -/

open Index.Reachable (alarm drill)

/-- The kind that a body is written for. -/
def practicedKind (onDrills : Bool) : Kind := if onDrills then drill else alarm

/-- Counts in the part that is given. -/
def count : Handler (Bus Bool × Nat) := fun (view, state) => (.ok (), view.addValue 1, state)

/-- A bus whose listeners count in the parts of their kinds. -/
def practicing : Host (Bus Bool × Nat) Bool :=
  (calm Bool).withCode (fun onDrills => Handler.forKind (practicedKind onDrills) count)
    (calm Bool).handle

/-- The bodies are registered for their kinds, and nothing is done besides. -/
def practiceTerms : Terms (Bus Bool × Nat) Bool where
  known kind := kind = alarm ∨ kind = drill
  suits kind onDrills := kind = practicedKind onDrills
  aside _ _ := False

theorem typedFor_practicing
    (kind : Kind)
    (onDrills : Bool)
    (suits : practiceTerms.suits kind onDrills) :
    practicing.TypedFor kind onDrills := by
  have isKind : kind = practicedKind onDrills := suits
  subst isKind
  refine ⟨count, rfl, fun view state _ => ?_⟩
  cases view <;> rfl

theorem bodySteps_practicing
    (body : Bool)
    (event : Event)
    (state : Bus Bool × Nat)
    (_ : practiceTerms.known event.kind) :
    Steps practicing practiceTerms state (practicing.run body (event, state)).2.2 := by
  have sameState : (practicing.run body (event, state)).2.2 = state := by
    change (Handler.forKind (practicedKind body) count (event, state)).2.2 = state
    cases isView : event.view? (practicedKind body).id with
    | none => rw [Handler.forKind_of_view?_eq_none isView]
    | some view => rw [Handler.forKind_of_view?_eq_some isView, count]
  rw [sameState]

/-- One listener for drills and one for alarms. -/
def practiced : Bus Bool × Nat :=
  let first := (practicing.addListener drill .high true "" true (Bus.create {} false none, 0)).2
  (practicing.addListener alarm .low true "" false first).2

theorem steps_practiced :
    Steps practicing practiceTerms (Bus.create {} false none, 0) practiced := by
  have checks (kind : Kind) (state : Bus Bool × Nat) :
      practicing.Performs practiceTerms state (practicing.checker kind state).2 :=
    .refl state
  have onDrills : practiceTerms.suits drill true := rfl
  have onAlarms : practiceTerms.suits alarm false := rfl
  have performs : practicing.Performs practiceTerms (Bus.create {} false none, 0) practiced :=
    .trans (.addListener .high true "" _ (.inr rfl) onDrills checks)
      (.addListener .low true "" _ (.inl rfl) onAlarms checks)
  exact performs.steps ((lawful_calm Bool).withCode _ _)

/-- A drill, which embeds an alarm. -/
def wholeDrill : Event := .extend ⟨drill, 5, none⟩ (.last ⟨alarm, 2, none⟩)

theorem whole_wholeDrill : wholeDrill.Whole := by
  intro parent isParent
  cases isParent
  exact ⟨rfl, rfl⟩

/-- After the listener for drills, that for alarms receives the alarm in the drill. -/
theorem dispatches_typed_practiced :
    Steps practicing practiceTerms (Bus.create {} false none, 0) practiced ∧ wholeDrill.Whole ∧
      ∃ id made entry entered,
        practicing.nodeForPost drill practiced = (.ok id, made) ∧
        Enters practicing.run (practicing.arrayAt none id (practicing.refresh id made))
          (wholeDrill, practicing.refresh id made) entry entered ∧
        entered.1 = .extend ⟨drill, 6, none⟩ (.last ⟨alarm, 2, none⟩) ∧
        entry.kind = alarm ∧ practicing.Receives entry entered ∧
        Steps practicing practiceTerms (Bus.create {} false none, 0) entered.2 := by
  have consistent : Kind.Consistent practiceTerms.known := by
    rintro first second (rfl | rfl) (rfl | rfl) <;> decide
  have answer : (practicing.nodeForPost drill practiced).1.toOption = some 1 := by
    decide +kernel
  have array : (practicing.arrayAt none 1
      (practicing.refresh 1 (practicing.nodeForPost drill practiced).2)).map
        (fun entry => (entry.kind, entry.body)) = [(drill, true), (alarm, false)] := by
    decide +kernel
  have posted : (practicing.postTo none (wholeDrill, practiced)).2.1 =
      .extend ⟨drill, 6, none⟩ (.last ⟨alarm, 3, none⟩) := by
    decide +kernel
  rcases Steps.dispatches_typed steps_practiced ((lawful_calm Bool).withCode _ _) rfl consistent
    typedFor_practicing (fun _ _ => .refl) (.inr rfl) whole_wholeDrill none with
    ⟨-, outcome, after, undispatched⟩ | ⟨id, made, found, -, -, receives⟩
  · have unchanged :
        practicing.postTo none (wholeDrill, practiced) = (outcome, wholeDrill, after) :=
      undispatched practicing.run practicing.handle
    rw [unchanged] at posted
    cases posted
  · have foundToo : practicing.nodeForPost drill practiced = (.ok id, made) := found
    rw [foundToo] at answer array
    cases answer
    obtain ⟨first, others, split, isFirst, areOthers⟩ := List.map_eq_cons_iff.mp array
    obtain ⟨second, rest, splitOthers, isSecond, -⟩ := List.map_eq_cons_iff.mp areOthers
    obtain ⟨-, firstBody⟩ := Prod.mk.inj isFirst
    obtain ⟨secondKind, -⟩ := Prod.mk.inj isSecond
    have turn : practicing.run first.body (wholeDrill, practicing.refresh 1 made) =
        (.ok (), .extend ⟨drill, 6, none⟩ (.last ⟨alarm, 2, none⟩), practicing.refresh 1 made) := by
      rw [firstBody]
      rfl
    have enters : Enters practicing.run (practicing.arrayAt none 1 (practicing.refresh 1 made))
        (wholeDrill, practicing.refresh 1 made) second
        (.extend ⟨drill, 6, none⟩ (.last ⟨alarm, 2, none⟩), practicing.refresh 1 made) := by
      refine ⟨.inr rfl, [first], rest, [first.body], ?_, .runs (.inr rfl) turn (.done _)⟩
      rw [split, splitOthers]
      rfl
    obtain ⟨received, passes⟩ := receives second _ enters
    exact ⟨steps_practiced, whole_wholeDrill, 1, made, second, _, found, enters, rfl, secondKind,
      received, passes bodySteps_practicing⟩

end Host
end EventRelay
