import EventRelay.Proofs.Dispatch.Stages

/-!
# Recording which bodies run

A host can be made to keep a record of the listener bodies that run, in the order in which they
begin. The record is kept beside the state and nothing ever looks at it, so that recording only
observes: without the record, a post to the recording host is a post to the host itself.
-/

namespace EventRelay

/-- Runs on the first component of a pair. -/
def Action.onFirst {σ τ ε α : Type} (action : Action σ ε α) : Action (σ × τ) ε α :=
  fun state => ((action state.1).1, (action state.1).2, state.2)

namespace Host

variable {σ β : Type}

/-- A record of bodies, as it can be seen in the state, grows when a body runs and only then. -/
structure Records (host : Host σ β) (record : σ → List β) : Prop where
  withBus : ∀ bus state, record (host.withBus bus state) = record state
  note : ∀ notice state, record (host.note notice state) = record state
  checker : ∀ kind state, record (host.checker kind state).2 = record state
  run : ∀ body start, record (host.run body start).2.2 = record start.2 ++ [body]
  handle : ∀ incident state, record (host.handle incident state).2 = record state

/-- The same host with a record beside the state. -/
def recording (host : Host σ β) : Host (σ × List β) β where
  bus state := host.bus state.1
  withBus bus state := (host.withBus bus state.1, state.2)
  issued state := host.issued state.1
  withIssued count state := (host.withIssued count state.1, state.2)
  note notice state := (host.note notice state.1, state.2)
  checker kind := (host.checker kind).onFirst
  run body start :=
    let (outcome, event, state) := host.run body (start.1, start.2.1)
    (outcome, event, state, start.2.2 ++ [body])
  handle incident := (host.handle incident).onFirst

/-- What is left of an end when the record is forgotten. -/
def forget {ε α : Type} (ended : Outcome ε α × Event × σ × List β) : Outcome ε α × Event × σ :=
  (ended.1, ended.2.1, ended.2.2.1)

theorem records_recording (host : Host σ β) : host.recording.Records Prod.snd :=
  ⟨fun _ _ => rfl, fun _ _ => rfl, fun _ _ => rfl, fun _ _ => rfl, fun _ _ => rfl⟩

theorem Lawful.recording
    {host : Host σ β}
    (lawful : host.Lawful) :
    host.recording.Lawful where
  bus_withBus bus state := lawful.bus_withBus bus state.1
  bus_withIssued count state := lawful.bus_withIssued count state.1
  bus_note notice state := lawful.bus_note notice state.1
  issued_withIssued count state := lawful.issued_withIssued count state.1
  issued_withBus bus state := lawful.issued_withBus bus state.1
  issued_note notice state := lawful.issued_note notice state.1

/-! ## Recording only observes -/

section Observing

variable (host : Host σ β) (state : σ) (record : List β)

theorem noteAll_recording (notices : List Notice) :
    host.recording.noteAll notices (state, record) = (host.noteAll notices state, record) := by
  induction notices generalizing state with
  | nil => rfl
  | cons notice rest inductionHypothesis => exact inductionHypothesis (host.note notice state)

theorem refresh_recording (id : Nat) :
    host.recording.refresh id (state, record) = (host.refresh id state, record) :=
  noteAll_recording ..

theorem nodeFor_recording (kind : Kind) :
    host.recording.nodeFor kind (state, record) =
      ((host.nodeFor kind state).1, (host.nodeFor kind state).2, record) := by
  have sameBus : host.recording.bus (state, record) = host.bus state := rfl
  unfold nodeFor
  rw [sameBus]
  cases (host.bus state).nodeFor kind with
  | error error => rfl
  | ok result => exact congrArg (Prod.mk _) (noteAll_recording ..)

theorem checkAccepted_recording (kind : Kind) :
    Admission.checkAccepted host.recording.checker kind (state, record) =
      ((Admission.checkAccepted host.checker kind state).1,
        (Admission.checkAccepted host.checker kind state).2, record) := by
  have asked : host.recording.checker kind (state, record) =
      ((host.checker kind state).1, (host.checker kind state).2, record) := rfl
  unfold Admission.checkAccepted Action.mapError
  rw [asked]
  cases host.checker kind state with
  | mk outcome after =>
      cases outcome with
      | ok result => rfl
      | error stop => cases stop <;> rfl

theorem nodeForPost_recording (kind : Kind) :
    host.recording.nodeForPost kind (state, record) =
      ((host.nodeForPost kind state).1, (host.nodeForPost kind state).2, record) := by
  cases isAbstract : kind.isAbstract with
  | true => rw [nodeForPost_of_abstract isAbstract, nodeForPost_of_abstract isAbstract]
  | false =>
      rw [nodeForPost_of_concrete isAbstract, nodeForPost_of_concrete isAbstract]
      change (if (host.bus state).checksTypes then _ else _) = _
      split
      case isFalse => exact host.nodeFor_recording state record kind
      case isTrue =>
        have asked := host.checkAccepted_recording state record kind
        cases ended : Admission.checkAccepted host.checker kind state with
        | mk outcome after =>
            rw [ended] at asked
            cases outcome with
            | ok =>
                rw [Action.bind_of_ok asked, Action.bind_of_ok ended]
                exact host.nodeFor_recording after record kind
            | error stop => rw [Action.bind_of_error asked, Action.bind_of_error ended]

theorem runInOrder_recording
    (listeners : List (Listener β))
    (index ran : Nat)
    (event : Event) :
    ∃ longer, host.recording.runInOrder listeners index ran (event, state, record) =
      ((host.runInOrder listeners index ran (event, state)).1,
        (host.runInOrder listeners index ran (event, state)).2.1,
        (host.runInOrder listeners index ran (event, state)).2.2, longer) := by
  induction listeners generalizing index ran event state record with
  | nil => exact ⟨record, rfl⟩
  | cons listener rest inductionHypothesis =>
      rw [runInOrder_cons, runInOrder_cons]
      change ∃ longer, (if listener.runsFor event = true then _ else _) = _
      split
      case isFalse => exact inductionHypothesis state record (index + 1) ran event
      case isTrue =>
        cases ended : host.run listener.body (event, state) with
        | mk outcome left =>
            obtain ⟨changed, after⟩ := left
            have recorded : host.recording.run listener.body (event, state, record) =
                (outcome, changed, after, record ++ [listener.body]) := by
              simp only [recording, ended]
            rw [recorded]
            cases outcome with
            | ok => exact inductionHypothesis after _ (index + 1) (ran + 1) changed
            | error stop => exact ⟨_, rfl⟩

theorem forget_afterTelling
    (index : Nat)
    (entry : Listener β)
    (stop : Stop ListenerError)
    (event : Event)
    (incident : Incident β) :
    forget (afterTelling index entry stop event (host.recording.handle incident (state, record))) =
      afterTelling index entry stop event (host.handle incident state) := by
  change forget (afterTelling _ _ _ _ ((host.handle incident).onFirst (state, record))) = _
  unfold Action.onFirst
  cases host.handle incident state with
  | mk outcome told =>
      cases outcome with
      | ok => rfl
      | error stop =>
          cases stop with
          | raised impossible => cases impossible
          | panicked payload => rfl

theorem forget_dispatch
    (listeners : List (Listener β))
    (event : Event) :
    forget (host.recording.dispatch listeners (event, state, record)) =
      host.dispatch listeners (event, state) := by
  obtain ⟨longer, recorded⟩ := host.runInOrder_recording state record listeners 0 0 event
  cases ended : host.runInOrder listeners 0 0 (event, state) with
  | mk runEnd left =>
      obtain ⟨changed, after⟩ := left
      obtain ⟨ran, failure?⟩ := runEnd
      rw [ended] at recorded
      cases failure? with
      | none =>
          rw [dispatch_of_done recorded, dispatch_of_done ended]
          rfl
      | some failure =>
          obtain ⟨index, listener, stop⟩ := failure
          rw [dispatch_of_failed recorded, dispatch_of_failed ended]
          exact host.forget_afterTelling _ longer index listener stop changed _

/-- Recording does not change what a post does. -/
theorem forget_post (event : Event) :
    forget (host.recording.post (event, state, record)) = host.post (event, state) := by
  have asked := host.nodeForPost_recording state record event.kind
  cases isShutdown : (host.bus state).isShutdown with
  | true =>
      have isShutdownToo : (host.recording.bus (state, record)).isShutdown = true := isShutdown
      rw [post_of_shutdown isShutdown, post_of_shutdown isShutdownToo]
      rfl
  | false =>
      have runningToo : (host.recording.bus (state, record)).isShutdown = false := isShutdown
      rcases Action.apply_cases (host.nodeForPost event.kind) state with
        ⟨id, made, found⟩ | ⟨stop, after, refused⟩
      · rw [found] at asked
        rw [post_of_found isShutdown found, post_of_found runningToo asked, refresh_recording]
        exact host.forget_dispatch _ record _ event
      · rw [refused] at asked
        rw [post_of_refused isShutdown refused, post_of_refused runningToo asked]
        rfl

theorem forget_postPhase
    (phase : Priority)
    (event : Event) :
    forget (host.recording.postPhase phase (event, state, record)) =
      host.postPhase phase (event, state) := by
  have asked := host.nodeForPost_recording state record event.kind
  cases allowed : (host.bus state).config.allowsPhasePosts with
  | false =>
      have forbiddenToo :
          (host.recording.bus (state, record)).config.allowsPhasePosts = false := allowed
      rw [postPhase_of_forbidden allowed, postPhase_of_forbidden forbiddenToo]
      rfl
  | true =>
      have allowedToo :
          (host.recording.bus (state, record)).config.allowsPhasePosts = true := allowed
      cases isShutdown : (host.bus state).isShutdown with
      | true =>
          have isShutdownToo : (host.recording.bus (state, record)).isShutdown = true := isShutdown
          rw [postPhase_of_shutdown allowed isShutdown,
            postPhase_of_shutdown allowedToo isShutdownToo]
          rfl
      | false =>
          have runningToo : (host.recording.bus (state, record)).isShutdown = false := isShutdown
          rcases Action.apply_cases (host.nodeForPost event.kind) state with
            ⟨id, made, found⟩ | ⟨stop, after, refused⟩
          · rw [found] at asked
            rw [postPhase_of_found allowed isShutdown found,
              postPhase_of_found allowedToo runningToo asked, refresh_recording]
            exact host.forget_dispatch _ record _ event
          · rw [refused] at asked
            rw [postPhase_of_refused allowed isShutdown refused,
              postPhase_of_refused allowedToo runningToo asked]
            rfl

end Observing

end Host
end EventRelay
