import EventRelay.Dispatch

/-!
# Stages of a post

A post that is not ignored asks for the node of the event's kind, brings its array up to
date, runs the array and reports a failure if there is one. The equations here say where each
of these stages leads.
-/

namespace EventRelay
namespace Host

variable {σ β : Type} {host : Host σ β}

/-! ## The run -/

/-- The bodies that are counted are those that are entered. -/
theorem runInOrder_cons
    (listener : Listener β)
    (rest : List (Listener β))
    (index ran : Nat)
    (start : Event × σ) :
    host.runInOrder (listener :: rest) index ran start =
      if listener.runsFor start.1 then
        match host.run listener.body start with
        | (.ok (), changed) => host.runInOrder rest (index + 1) (ran + 1) changed
        | (.error stop, changed) => (⟨ran + 1, some (index, listener, stop)⟩, changed)
      else host.runInOrder rest (index + 1) ran start := by
  rw [runInOrder, invoke]
  cases listener.runsFor start.1 <;> rfl

/-- What every body does is an instance of a relation that can be composed. Then what a run
does is an instance of it as well. -/
theorem runInOrder_related
    (relation : Event × σ → Event × σ → Prop)
    (unchanged : ∀ state, relation state state)
    (composed : ∀ {first middle last}, relation first middle → relation middle last →
      relation first last)
    (bodies : ∀ body state, relation state (host.run body state).2)
    (listeners : List (Listener β))
    (index ran : Nat)
    (start : Event × σ) :
    relation start (host.runInOrder listeners index ran start).2 := by
  induction listeners generalizing index ran start with
  | nil => exact unchanged start
  | cons listener rest inductionHypothesis =>
      rw [runInOrder_cons]
      split
      case isTrue =>
        have first := bodies listener.body start
        split
        case h_1 changed ended =>
          rw [ended] at first
          exact composed first (inductionHypothesis _ _ changed)
        case h_2 stop changed ended =>
          rwa [ended] at first
      case isFalse => exact inductionHypothesis _ _ start

/-! ## The dispatch -/

/-- What the poster gets once the handler has been told of a failure: the failure itself,
unless the handler panics. -/
def afterTelling (index : Nat) (entry : Listener β) (stop : Stop ListenerError) (event : Event) :
    Outcome Empty Unit × σ → Outcome BusError Unit × Event × σ
  | (.ok (), told) => (.error (resume index entry stop), event, told)
  | (.error (.panicked payload), told) => (.error (.panicked payload), event, told)

/-- A failure that is told is a bad end. -/
theorem exists_afterTelling
    (index : Nat)
    (entry : Listener β)
    (stop : Stop ListenerError)
    (event : Event)
    (told : Outcome Empty Unit × σ) :
    ∃ ending, afterTelling index entry stop event told = (.error ending, event, told.2) := by
  obtain ⟨outcome, state⟩ := told
  cases outcome with
  | ok => exact ⟨_, rfl⟩
  | error ending =>
      cases ending with
      | raised impossible => cases impossible
      | panicked payload => exact ⟨_, rfl⟩

@[simp] theorem state_afterTelling
    (index : Nat)
    (entry : Listener β)
    (stop : Stop ListenerError)
    (event : Event)
    (told : Outcome Empty Unit × σ) :
    (afterTelling index entry stop event told).2.2 = told.2 := by
  obtain ⟨ending, ended⟩ := exists_afterTelling index entry stop event told
  rw [ended]

theorem dispatch_of_done
    {listeners : List (Listener β)}
    {ran : Nat}
    {event : Event}
    {start : Event × σ}
    {after : σ}
    (done : host.runInOrder listeners 0 0 start = (⟨ran, none⟩, event, after)) :
    host.dispatch listeners start =
      (.ok (), event, host.modify (fun bus => bus.recordPost ran) after) := by
  simp only [dispatch, done]

theorem dispatch_of_failed
    {listeners : List (Listener β)}
    {ran index : Nat}
    {listener : Listener β}
    {stop : Stop ListenerError}
    {event : Event}
    {start : Event × σ}
    {after : σ}
    (failed : host.runInOrder listeners 0 0 start =
      (⟨ran, some (index, listener, stop)⟩, event, after)) :
    host.dispatch listeners start =
      afterTelling index listener stop event
        (host.reportFailure ⟨event, listeners, index, stop.listenerError⟩
          (host.modify (fun bus => bus.recordPost ran) after)) := by
  simp only [dispatch, failed]
  rfl

/-! ## Before the dispatch -/

theorem nodeForPost_of_abstract
    {kind : Kind}
    (isAbstract : kind.isAbstract = true)
    (state : σ) :
    host.nodeForPost kind state = (.error (.raised (.abstractEvent kind.name)), state) := by
  unfold nodeForPost
  rw [if_pos isAbstract]
  rfl

theorem nodeForPost_of_concrete
    {kind : Kind}
    (concrete : kind.isAbstract = false)
    (state : σ) :
    host.nodeForPost kind state =
      if (host.bus state).checksTypes then
        (Admission.checkAccepted host.checker kind >>= fun _ => host.nodeFor kind) state
      else host.nodeFor kind state := by
  unfold nodeForPost
  simp only [concrete, Bool.false_eq_true, if_false]
  rw [Action.bind_of_ok (Action.look_apply _ state)]
  exact apply_ite (fun action : Action σ BusError Nat => action state) _ _ _

/-! ## The post -/

theorem post_of_shutdown
    {state : σ}
    (shutdown : (host.bus state).isShutdown = true)
    (event : Event) :
    host.post (event, state) = (.ok (), event, state) := by
  rw [post, if_pos shutdown]

theorem post_of_refused
    {event : Event}
    {state after : σ}
    {stop : Stop BusError}
    (running : (host.bus state).isShutdown = false)
    (refused : host.nodeForPost event.kind state = (.error stop, after)) :
    host.post (event, state) = (.error stop, event, after) := by
  rw [post, running, if_neg Bool.false_ne_true]
  refine Action.bind_of_error ?_ _
  rw [Action.onSecond, refused]

/-- The array is bound to the dispatch before any body runs. -/
theorem post_of_found
    {event : Event}
    {state made : σ}
    {id : Nat}
    (running : (host.bus state).isShutdown = false)
    (found : host.nodeForPost event.kind state = (.ok id, made)) :
    host.post (event, state) =
      host.dispatch ((host.bus (host.refresh id made)).index.cacheOf id).listeners
        (event, host.refresh id made) := by
  rw [post, running, if_neg Bool.false_ne_true]
  have asked : Action.onSecond (host.nodeForPost event.kind) (event, state) =
      (.ok id, event, made) := by
    rw [Action.onSecond, found]
  exact Action.bind_of_ok asked _

theorem postPhase_of_shutdown
    {state : σ}
    (allowed : (host.bus state).config.allowsPhasePosts = true)
    (shutdown : (host.bus state).isShutdown = true)
    (phase : Priority)
    (event : Event) :
    host.postPhase phase (event, state) = (.ok (), event, state) := by
  simp [postPhase, allowed, shutdown]

theorem postPhase_of_forbidden
    {state : σ}
    (forbidden : (host.bus state).config.allowsPhasePosts = false)
    (phase : Priority)
    (event : Event) :
    host.postPhase phase (event, state) =
      (.error (.raised .perPhasePostDisabled), event, state) := by
  simp [postPhase, forbidden]

theorem postPhase_of_refused
    {event : Event}
    {state after : σ}
    {stop : Stop BusError}
    (allowed : (host.bus state).config.allowsPhasePosts = true)
    (running : (host.bus state).isShutdown = false)
    (refused : host.nodeForPost event.kind state = (.error stop, after))
    (phase : Priority) :
    host.postPhase phase (event, state) = (.error stop, event, after) := by
  simp only [postPhase, allowed, running, Bool.not_true, Bool.false_eq_true, if_false]
  refine Action.bind_of_error ?_ _
  rw [Action.onSecond, refused]

theorem postPhase_of_found
    {event : Event}
    {state made : σ}
    {id : Nat}
    (allowed : (host.bus state).config.allowsPhasePosts = true)
    (running : (host.bus state).isShutdown = false)
    (found : host.nodeForPost event.kind state = (.ok id, made))
    (phase : Priority) :
    host.postPhase phase (event, state) =
      host.dispatch ((host.bus (host.refresh id made)).index.phaseOf id phase)
        (event, host.refresh id made) := by
  simp only [postPhase, allowed, running, Bool.not_true, Bool.false_eq_true, if_false]
  have asked : Action.onSecond (host.nodeForPost event.kind) (event, state) =
      (.ok id, event, made) := by
    rw [Action.onSecond, found]
  exact Action.bind_of_ok asked _

/-! ## Following a post through its stages -/

/-- Everything that a post may do to the state is an instance of a relation that can be
composed, as long as it is given events of known kinds. -/
structure Follows (host : Host σ β) (known : Kind → Prop) (related : σ → σ → Prop) : Prop where
  unchanged : ∀ state, related state state
  composed : ∀ {first middle last}, related first middle → related middle last →
    related first last
  nodeForPost : ∀ {kind} state, known kind → related state (host.nodeForPost kind state).2
  refresh : ∀ id state, related state (host.refresh id state)
  recordPost : ∀ ran state, related state (host.modify (fun bus => bus.recordPost ran) state)
  recordFailure : ∀ state, related state (host.modify Bus.recordFailure state)
  run : ∀ body event state, known event.kind →
    related state (host.run body (event, state)).2.2
  /-- Bodies leave an event of a known kind. -/
  kind : ∀ body event state, known event.kind → known (host.run body (event, state)).2.1.kind
  handle : ∀ incident state, known incident.event.kind →
    related state (host.handle incident state).2

namespace Follows

variable {known : Kind → Prop} {related : σ → σ → Prop}

theorem runInOrder
    (follows : host.Follows known related)
    (listeners : List (Listener β))
    (index ran : Nat)
    (start : Event × σ)
    (isKnown : known start.1.kind) :
    known (host.runInOrder listeners index ran start).2.1.kind ∧
      related start.2 (host.runInOrder listeners index ran start).2.2 := by
  refine runInOrder_related
    (fun first last => known first.1.kind → known last.1.kind ∧ related first.2 last.2)
    (fun state isKnown => ⟨isKnown, follows.unchanged state.2⟩) ?_ ?_ listeners index ran start
    isKnown
  · intro first middle last before after isKnown
    obtain ⟨stillKnown, earlier⟩ := before isKnown
    exact ⟨(after stillKnown).1, follows.composed earlier (after stillKnown).2⟩
  · intro body state isKnown
    exact ⟨follows.kind body state.1 state.2 isKnown, follows.run body state.1 state.2 isKnown⟩

theorem dispatch
    (follows : host.Follows known related)
    (listeners : List (Listener β))
    (start : Event × σ)
    (isKnown : known start.1.kind) :
    related start.2 (host.dispatch listeners start).2.2 := by
  have run := follows.runInOrder listeners 0 0 start isKnown
  cases ended : host.runInOrder listeners 0 0 start with
  | mk runEnd left =>
      obtain ⟨event, after⟩ := left
      obtain ⟨ran, failure?⟩ := runEnd
      rw [ended] at run
      obtain ⟨stillKnown, ranThrough⟩ := run
      have counted := follows.composed ranThrough (follows.recordPost ran after)
      cases failure? with
      | none =>
          rw [dispatch_of_done ended]
          exact counted
      | some failure =>
          obtain ⟨index, listener, stop⟩ := failure
          rw [dispatch_of_failed ended, state_afterTelling]
          refine follows.composed counted (follows.composed (follows.recordFailure _) ?_)
          exact follows.handle ⟨event, listeners, index, stop.listenerError⟩ _ stillKnown

/-- From the node of an accepted post on, whatever array is dispatched. -/
theorem dispatch_refresh
    (follows : host.Follows known related)
    {event : Event}
    (isKnown : known event.kind)
    {state made : σ}
    {id : Nat}
    (found : host.nodeForPost event.kind state = (.ok id, made))
    (listeners : List (Listener β)) :
    related state (host.dispatch listeners (event, host.refresh id made)).2.2 := by
  have asked := follows.nodeForPost state isKnown
  rw [found] at asked
  exact follows.composed asked (follows.composed (follows.refresh id made)
    (follows.dispatch listeners (event, host.refresh id made) isKnown))

theorem post
    (follows : host.Follows known related)
    {event : Event}
    (isKnown : known event.kind)
    (state : σ) :
    related state (host.post (event, state)).2.2 := by
  cases isShutdown : (host.bus state).isShutdown with
  | true =>
      rw [post_of_shutdown isShutdown]
      exact follows.unchanged state
  | false =>
      rcases Action.apply_cases (host.nodeForPost event.kind) state with
        ⟨id, made, found⟩ | ⟨stop, after, refused⟩
      · rw [post_of_found isShutdown found]
        exact follows.dispatch_refresh isKnown found _
      · have asked := follows.nodeForPost state isKnown
        rw [refused] at asked
        rwa [post_of_refused isShutdown refused]

theorem postPhase
    (follows : host.Follows known related)
    {event : Event}
    (isKnown : known event.kind)
    (phase : Priority)
    (state : σ) :
    related state (host.postPhase phase (event, state)).2.2 := by
  cases allowed : (host.bus state).config.allowsPhasePosts with
  | false =>
      rw [postPhase_of_forbidden allowed]
      exact follows.unchanged state
  | true =>
      cases isShutdown : (host.bus state).isShutdown with
      | true =>
          rw [postPhase_of_shutdown allowed isShutdown]
          exact follows.unchanged state
      | false =>
          rcases Action.apply_cases (host.nodeForPost event.kind) state with
            ⟨id, made, found⟩ | ⟨stop, after, refused⟩
          · rw [postPhase_of_found allowed isShutdown found]
            exact follows.dispatch_refresh isKnown found _
          · have asked := follows.nodeForPost state isKnown
            rw [refused] at asked
            rwa [postPhase_of_refused allowed isShutdown refused]

end Follows

end Host
end EventRelay
