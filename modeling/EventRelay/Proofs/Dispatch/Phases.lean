import EventRelay.Proofs.Dispatch.EventsOnly
import EventRelay.Proofs.Hierarchy.Phases

/-!
# Posting priority by priority

An event can be posted to the listeners of one priority after the other, up to the first
failure. If the bodies only change events, and the checker gives one answer and leaves the bus
alone, this comes to the same as a single post: all posts of single priorities read their
arrays at one and the same index, and these make up the array of the single post.
-/

namespace EventRelay
namespace Host

variable {σ β : Type}

/-- Posts the event that stands beside the state to some priorities one after the other, up to
the first failure. -/
def postEach (host : Host σ β) : List Priority → Action (Event × σ) BusError Unit
  | [] => pure ()
  | phase :: rest => do
      host.postPhase phase
      host.postEach rest

/-- Two ways of posting an event leave the same event and end alike. -/
inductive EndsAlike (host : Host σ β) :
    Outcome BusError Unit × Event × σ → Outcome BusError Unit × Event × σ → Prop
  /-- Both are refused before any listener has its turn. -/
  | refused (stop : Stop BusError) (event : Event) (state : σ) :
      EndsAlike host (.error stop, event, state) (.error stop, event, state)
  /-- Both go well. -/
  | done (event : Event) (state other : σ) :
      EndsAlike host (.ok (), event, state) (.ok (), event, other)
  /-- The same listener fails in the same way. The handler is told in both, of the position
  that it has in the array at hand. -/
  | failed {listeners array : List (Listener β)} {index position : Nat} {entry : Listener β}
      (stop : Stop ListenerError) (event : Event) (state other : σ) :
      listeners[index]? = some entry → array[position]? = some entry →
      EndsAlike host
        (afterTelling index entry stop event
          (host.handle ⟨event, listeners, index, stop.listenerError⟩ state))
        (afterTelling position entry stop event
          (host.handle ⟨event, array, position, stop.listenerError⟩ other))

/-- A post of a kind that has been let through once is let through again: the kind is concrete,
and the checker goes on accepting it. -/
structure Passes (host : Host σ β) (kind : Kind) (start : σ) : Prop where
  concrete : kind.isAbstract = false
  accepted : (host.bus start).checksTypes = true → ∀ state, host.Drifts start state →
    ∃ after, host.checker kind state = (.ok (), after) ∧ host.bus after = host.bus state

/-- From a state on, posts of a kind can be taken apart, and which bodies run is recorded. -/
structure Divisible (host : Host σ β) (record : σ → List β) (kind : Kind) (start : σ) :
    Prop where
  lawful : host.Lawful
  records : host.Records record
  changes : host.ChangesOnlyEvents start
  passes : host.Passes kind start

/-- Posts of a kind go to a node of an index that they do not change any more. -/
structure Settled (kind : Kind) (id : Nat) (index : Index β) : Prop where
  nodeFor : index.nodeFor kind = .ok (index, id)
  refresh : index.refresh id = index

/-- From a state on, posts of a kind to single priorities read the arrays of an index. -/
structure Reading (host : Host σ β) (kind : Kind) (id : Nat) (index : Index β) (start state : σ) :
    Prop where
  drifts : host.Drifts start state
  allowed : (host.bus state).config.allowsPhasePosts = true
  running : (host.bus state).isShutdown = false
  checksTypes : (host.bus state).checksTypes = (host.bus start).checksTypes
  reads : ∃ grown, (host.bus state).index.nodeFor kind = .ok (grown, id) ∧
    grown.refresh id = index

variable {host : Host σ β}

/-! ## Finding the node -/

theorem passes_of_found
    {kind : Kind}
    {state made : σ}
    {id : Nat}
    (found : host.nodeForPost kind state = (.ok id, made))
    (decides : (host.bus state).checksTypes = true → host.Decides kind state) :
    host.Passes kind state := by
  cases isAbstract : kind.isAbstract with
  | true =>
      rw [nodeForPost_of_abstract isAbstract] at found
      cases found
  | false =>
      refine ⟨isAbstract, fun checks => ?_⟩
      obtain ⟨verdict, answers⟩ := decides checks
      obtain ⟨after, asked, -⟩ := answers state .refl
      rw [nodeForPost_of_concrete isAbstract, if_pos checks] at found
      cases verdict with
      | ok => exact answers
      | error stop =>
          have refused : ∃ refusal, Admission.checkAccepted host.checker kind state =
              (.error refusal, after) := by
            unfold Admission.checkAccepted Action.mapError
            rw [asked]
            cases stop <;> exact ⟨_, rfl⟩
          obtain ⟨refusal, refused⟩ := refused
          rw [Action.bind_of_error refused] at found
          cases found

theorem Passes.nodeForPost_eq
    {kind : Kind}
    {start state : σ}
    (passes : host.Passes kind start)
    (drifts : host.Drifts start state)
    (sameChecks : (host.bus state).checksTypes = (host.bus start).checksTypes) :
    ∃ asked, host.nodeForPost kind state = host.nodeFor kind asked ∧
      host.bus asked = host.bus state ∧ host.Upkeeps state asked := by
  rw [nodeForPost_of_concrete passes.concrete, sameChecks]
  split
  case isTrue checks =>
    obtain ⟨after, answer, sameBus⟩ := passes.accepted checks state drifts
    have passed : Admission.checkAccepted host.checker kind state = (.ok (), after) := by
      unfold Admission.checkAccepted Action.mapError
      rw [answer]
    have asked : host.Upkeep state (host.checker kind state).2 := .check kind state
    rw [answer] at asked
    exact ⟨after, Action.bind_of_ok passed _, sameBus, .single asked⟩
  case isFalse => exact ⟨state, rfl, rfl, .refl⟩

/-- The index that posts of a kind are going to read, once one of them has been let through. -/
theorem exists_reading
    {kind : Kind}
    {state made : σ}
    {id : Nat}
    (lawful : host.Lawful)
    (reachable : (host.bus state).index.Reachable)
    (allowed : (host.bus state).config.allowsPhasePosts = true)
    (running : (host.bus state).isShutdown = false)
    (passes : host.Passes kind state)
    (found : host.nodeForPost kind state = (.ok id, made)) :
    ∃ grown : Index β, grown.Coherent ∧ Settled kind id (grown.refresh id) ∧
      host.Reading kind id (grown.refresh id) state state := by
  obtain ⟨asked, asks, sameBus, -⟩ := passes.nodeForPost_eq .refl rfl
  rw [asks] at found
  obtain ⟨grown, grows, -⟩ := exists_of_nodeFor lawful found
  rw [sameBus] at grows
  have coherent := (Index.Reachable.nodeFor reachable grows).coherent
  have hasNode : (grown.refresh id).lookup? kind.id = some id := by
    rw [Index.lookup?_of_frame_eq (Index.frame_refresh grown id)]
    exact (Index.nodeFor_grows grows).2
  exact ⟨grown, coherent, ⟨Index.nodeFor_of_lookup? hasNode, coherent.refresh_refresh id⟩,
    ⟨.refl, allowed, running, rfl, grown, grows, rfl⟩⟩

namespace Reading

variable {kind : Kind} {id : Nat} {index : Index β} {start state : σ}

/-- The node is found, and then the array is read at the index. -/
theorem found
    (reading : host.Reading kind id index start state)
    (passes : host.Passes kind start)
    (lawful : host.Lawful) :
    ∃ made, host.nodeForPost kind state = (.ok id, made) ∧
      host.Upkeeps state (host.refresh id made) ∧
      host.bus (host.refresh id made) = (host.bus state).withIndex index := by
  obtain ⟨asked, asks, sameBus, upkeeps⟩ :=
    passes.nodeForPost_eq reading.drifts reading.checksTypes
  obtain ⟨grown, grows, fresh⟩ := reading.reads
  have answered : (host.nodeFor kind asked).1 = .ok id := by
    simp only [nodeFor, Bus.nodeFor, sameBus, grows]
  have made : host.nodeFor kind asked = (.ok id, (host.nodeFor kind asked).2) :=
    Prod.ext answered rfl
  obtain ⟨other, growsToo, seen⟩ := exists_of_nodeFor lawful made
  rw [sameBus, grows] at growsToo
  cases growsToo
  have seenBus : host.bus (host.nodeFor kind asked).2 = (host.bus asked).withIndex grown :=
    congrArg Prod.fst seen
  have seenRefreshed := congrArg Prod.fst (view_refresh lawful id (host.nodeFor kind asked).2)
  refine ⟨_, asks.trans made,
    upkeeps.trans ((upkeeps_nodeFor ..).trans (upkeeps_refresh ..)), seenRefreshed.trans ?_⟩
  change Bus.refresh (host.bus (host.nodeFor kind asked).2) id = _
  rw [seenBus, sameBus, ← fresh]
  rfl

theorem postPhase_eq
    (reading : host.Reading kind id index start state)
    (passes : host.Passes kind start)
    (lawful : host.Lawful)
    {event : Event}
    (sameKind : event.kind = kind)
    (phase : Priority) :
    ∃ ready, host.postPhase phase (event, state) =
        host.dispatch (index.phaseOf id phase) (event, ready) ∧
      host.Upkeeps state ready ∧ host.bus ready = (host.bus state).withIndex index := by
  obtain ⟨made, found, upkeeps, sameBus⟩ := reading.found passes lawful
  rw [← sameKind] at found
  refine ⟨host.refresh id made, ?_, upkeeps, sameBus⟩
  rw [postPhase_of_found reading.allowed reading.running found, sameBus]
  rfl

/-- A dispatch that is counted leaves the reading as it is. -/
theorem next
    (reading : host.Reading kind id index start state)
    (settled : Settled kind id index)
    {after : σ}
    (drifts : host.Drifts start after)
    {ran : Nat}
    (sameBus : host.bus after = ((host.bus state).withIndex index).recordPost ran) :
    host.Reading kind id index start after where
  drifts := drifts
  allowed := by
    rw [sameBus]
    exact reading.allowed
  running := by
    rw [sameBus]
    exact reading.running
  checksTypes := by
    rw [sameBus]
    exact reading.checksTypes
  reads := by
    rw [sameBus]
    exact ⟨index, settled.nodeFor, settled.refresh⟩

end Reading

/-! ## One priority after the other -/

theorem Fails.getElem?_length
    {run : β → Handler σ}
    {listeners earlier : List (Listener β)}
    {start left : Event × σ}
    {entry : Listener β}
    {bodies : List β}
    {stop : Stop ListenerError}
    (fails : Fails run listeners start earlier entry bodies stop left) :
    listeners[earlier.length]? = some entry := by
  obtain ⟨⟨after, rfl⟩, -⟩ := fails
  rw [List.getElem?_append_right (Nat.le_refl _), Nat.sub_self, List.getElem?_cons_zero]

section Posting

variable {kind : Kind} {id : Nat} {index : Index β} {start state before : σ} {event : Event}
  {record : σ → List β} {bodies : List β} {earlier : List (Listener β)} {entry : Listener β}
  {stop : Stop ListenerError} {last left : Event × σ}

/-- The turns of the listeners of one priority, wherever they were seen to go well. -/
theorem Reading.postPhase_of_turns
    (reading : host.Reading kind id index start state)
    (settled : Settled kind id index)
    (divisible : host.Divisible record kind start)
    (sameKind : event.kind = kind)
    {phase : Priority}
    (drifts : host.Drifts start before)
    (turns : Turns host.run (index.phaseOf id phase) (event, before) bodies last) :
    ∃ after, host.postPhase phase (event, state) = (.ok (), last.1, after) ∧
      host.Reading kind id index start after ∧ record after = record state ++ bodies := by
  obtain ⟨lawful, records, changes, passes⟩ := divisible
  obtain ⟨ready, posts, upkeeps, sameBus⟩ := reading.postPhase_eq passes lawful sameKind phase
  have driftsReady := reading.drifts.trans upkeeps.drifts
  obtain ⟨done, turnsToo⟩ := turns.moved changes drifts driftsReady
  obtain ⟨driftsDone, keptBus, -⟩ := turnsToo.drifts changes driftsReady
  have counted : host.Drift done (host.modify (fun bus => bus.recordPost bodies.length) done) :=
    .upkeep (.recordPost _ done)
  have countedBus : host.bus (host.modify (fun bus => bus.recordPost bodies.length) done) =
      ((host.bus state).withIndex index).recordPost bodies.length := by
    rw [lawful.bus_modify, keptBus, sameBus]
  refine ⟨_, posts.trans turnsToo.dispatch_eq,
    reading.next settled (driftsDone.tail counted) countedBus, ?_⟩
  rw [modify, records.withBus, turnsToo.record_eq records, records.upkeeps upkeeps]

/-- The turns of the listeners of one priority, wherever one of them was seen to fail. -/
theorem Reading.postPhase_of_fails
    (reading : host.Reading kind id index start state)
    (divisible : host.Divisible record kind start)
    (sameKind : event.kind = kind)
    {phase : Priority}
    (drifts : host.Drifts start before)
    (fails : Fails host.run (index.phaseOf id phase) (event, before) earlier entry bodies stop
      left) :
    ∃ other, host.postPhase phase (event, state) =
        afterTelling earlier.length entry stop left.1
          (host.handle ⟨left.1, index.phaseOf id phase, earlier.length, stop.listenerError⟩
            other) ∧
      record other = record state ++ (bodies ++ [entry.body]) := by
  obtain ⟨lawful, records, changes, passes⟩ := divisible
  obtain ⟨ready, posts, upkeeps, sameBus⟩ := reading.postPhase_eq passes lawful sameKind phase
  have driftsReady := reading.drifts.trans upkeeps.drifts
  obtain ⟨after, failsToo⟩ := fails.moved changes drifts driftsReady
  refine ⟨_, posts.trans failsToo.dispatch_eq, ?_⟩
  rw [modify, modify, records.withBus, records.withBus, failsToo.record_eq records,
    records.upkeeps upkeeps]

/-- If the turns of all listeners go well, the posts go well one by one. -/
theorem Reading.postEach_of_turns
    (reading : host.Reading kind id index start state)
    (settled : Settled kind id index)
    (divisible : host.Divisible record kind start)
    (sameKind : event.kind = kind)
    {phases : List Priority}
    (drifts : host.Drifts start before)
    (turns : Turns host.run (phases.flatMap (index.phaseOf id)) (event, before) bodies last) :
    ∃ after, host.postEach phases (event, state) = (.ok (), last.1, after) ∧
      record after = record state ++ bodies := by
  induction phases generalizing event state before bodies with
  | nil =>
      cases turns
      exact ⟨state, rfl, (List.append_nil _).symm⟩
  | cons phase rest inductionHypothesis =>
      obtain ⟨bodies1, middle, bodies2, first, others, rfl⟩ := turns.split
      obtain ⟨driftsOn, -, sameKindOn⟩ := first.drifts divisible.changes drifts
      obtain ⟨next, posts, readingNext, recorded⟩ :=
        reading.postPhase_of_turns settled divisible sameKind drifts first
      obtain ⟨after, postsOn, recordedOn⟩ :=
        inductionHypothesis readingNext (sameKindOn.trans sameKind) driftsOn others
      refine ⟨after, (Action.bind_of_ok posts _).trans postsOn, ?_⟩
      rw [recordedOn, recorded, List.append_assoc]

/-- If the turn of a listener fails, the posts end with its failure. -/
theorem Reading.postEach_of_fails
    (reading : host.Reading kind id index start state)
    (settled : Settled kind id index)
    (divisible : host.Divisible record kind start)
    (sameKind : event.kind = kind)
    {phases : List Priority}
    (drifts : host.Drifts start before)
    (fails : Fails host.run (phases.flatMap (index.phaseOf id)) (event, before) earlier entry
      bodies stop left) :
    ∃ array position other, array[position]? = some entry ∧
      host.postEach phases (event, state) =
        afterTelling position entry stop left.1
          (host.handle ⟨left.1, array, position, stop.listenerError⟩ other) ∧
      record other = record state ++ (bodies ++ [entry.body]) := by
  induction phases generalizing event state before bodies earlier with
  | nil =>
      obtain ⟨⟨after, nothing⟩, -⟩ := fails
      simp at nothing
  | cons phase rest inductionHypothesis =>
      rw [List.flatMap_cons] at fails
      obtain here | ⟨bodies1, middle, earlier2, bodies2, first, later, rfl⟩ := fails.split_append
      · obtain ⟨other, posts, recorded⟩ :=
          reading.postPhase_of_fails divisible sameKind drifts here
        refine ⟨_, earlier.length, other, here.getElem?_length, ?_, recorded⟩
        obtain ⟨ending, ended⟩ := exists_afterTelling earlier.length entry stop left.1
          (host.handle ⟨left.1, index.phaseOf id phase, earlier.length, stop.listenerError⟩ other)
        rw [ended] at posts ⊢
        exact Action.bind_of_error posts _
      · obtain ⟨driftsOn, -, sameKindOn⟩ := first.drifts divisible.changes drifts
        obtain ⟨next, posts, readingNext, recorded⟩ :=
          reading.postPhase_of_turns settled divisible sameKind drifts first
        obtain ⟨array, position, other, isAt, postsOn, recordedOn⟩ :=
          inductionHypothesis readingNext (sameKindOn.trans sameKind) driftsOn later
        refine ⟨array, position, other, isAt, (Action.bind_of_ok posts _).trans postsOn, ?_⟩
        rw [recordedOn, recorded, List.append_assoc, List.append_assoc]

end Posting

/-- On a host that records which bodies run, posting to all priorities one after the other
ends as a single post does, and the same bodies run in the same order. -/
theorem endsAlike_of_records
    {record : σ → List β}
    (lawful : host.Lawful)
    (records : host.Records record)
    {event : Event}
    {state : σ}
    (reachable : (host.bus state).index.Reachable)
    (running : (host.bus state).isShutdown = false)
    (allowed : (host.bus state).config.allowsPhasePosts = true)
    (changes : host.ChangesOnlyEvents state)
    (decides : (host.bus state).checksTypes = true → host.Decides event.kind state) :
    host.EndsAlike (host.post (event, state)) (host.postEach Priority.all (event, state)) ∧
      record (host.post (event, state)).2.2 =
        record (host.postEach Priority.all (event, state)).2.2 := by
  rcases Action.apply_cases (host.nodeForPost event.kind) state with
    ⟨id, made, found⟩ | ⟨stop, after, refused⟩
  · have passes := passes_of_found found decides
    have divisible : host.Divisible record event.kind state := ⟨lawful, records, changes, passes⟩
    obtain ⟨grown, coherent, settled, reading⟩ :=
      exists_reading lawful reachable allowed running passes found
    -- The single post reads its array at the same index.
    obtain ⟨_, foundAgain, upkeeps, sameBus⟩ := reading.found passes lawful
    rw [found] at foundAgain
    cases foundAgain
    have whole := post_of_found running found
    rw [sameBus, Bus.index_withIndex, ← coherent.flatMap_phaseOf_refresh] at whole
    have drifts := upkeeps.drifts
    rcases turns_or_fails host.run (Priority.all.flatMap ((grown.refresh id).phaseOf id))
        (event, host.refresh id made) with
      ⟨bodies, last, turns⟩ | ⟨earlier, entry, bodies, stop, left, fails⟩
    · obtain ⟨after, phased, recorded⟩ :=
        reading.postEach_of_turns settled divisible rfl drifts turns
      rw [whole, turns.dispatch_eq, phased, recorded]
      refine ⟨.done .., ?_⟩
      rw [modify, records.withBus, turns.record_eq records, records.upkeeps upkeeps]
    · obtain ⟨array, position, other, isAt, phased, recorded⟩ :=
        reading.postEach_of_fails settled divisible rfl drifts fails
      rw [whole, fails.dispatch_eq, phased]
      refine ⟨.failed _ _ _ _ fails.getElem?_length isAt, ?_⟩
      rw [state_afterTelling, state_afterTelling, records.handle, records.handle, recorded,
        modify, modify, records.withBus, records.withBus, fails.record_eq records,
        records.upkeeps upkeeps]
  · have phased : host.postEach Priority.all (event, state) = (.error stop, event, after) :=
      Action.bind_of_error (postPhase_of_refused allowed running refused .highest) _
    rw [post_of_refused running refused, phased]
    exact ⟨.refused stop event after, rfl⟩

/-! ## Hosts that do not record -/

theorem Drifts.of_recording
    {before after : σ × List β}
    (drifts : host.recording.Drifts before after) :
    host.Drifts before.1 after.1 := by
  induction drifts with
  | refl => exact .refl
  | tail _ drift inductionHypothesis =>
      refine inductionHypothesis.tail ?_
      cases drift with
      | run body event state => exact .run body event _
      | upkeep upkeep =>
          cases upkeep with
          | grow _ made => exact .upkeep (.grow _ made)
          | refresh id => exact .upkeep (.refresh id _)
          | recordPost ran => exact .upkeep (.recordPost ran _)
          | note notice => exact .upkeep (.note notice _)
          | check kind => exact .upkeep (.check kind _)

theorem ChangesOnlyEvents.recording
    {start : σ}
    (changes : host.ChangesOnlyEvents start)
    (bodies : List β) :
    host.recording.ChangesOnlyEvents (start, bodies) := by
  intro body event
  obtain ⟨outcome, changed, sameKind, does⟩ := changes body event
  refine ⟨outcome, changed, sameKind, fun state drifts => ?_⟩
  obtain ⟨after, done, sameBus⟩ := does state.1 (Drifts.of_recording drifts)
  refine ⟨(after, state.2 ++ [body]), ?_, sameBus⟩
  simp only [Host.recording, done]

theorem Decides.recording
    {kind : Kind}
    {start : σ}
    (decides : host.Decides kind start)
    (bodies : List β) :
    host.recording.Decides kind (start, bodies) := by
  obtain ⟨verdict, answers⟩ := decides
  refine ⟨verdict, fun state drifts => ?_⟩
  obtain ⟨after, answer, sameBus⟩ := answers state.1 (Drifts.of_recording drifts)
  refine ⟨(after, state.2), ?_, sameBus⟩
  simp only [Host.recording, Action.onFirst, answer]

theorem forget_postEach
    (host : Host σ β)
    (phases : List Priority)
    (event : Event)
    (state : σ)
    (bodies : List β) :
    forget (host.recording.postEach phases (event, state, bodies)) =
      host.postEach phases (event, state) := by
  induction phases generalizing event state bodies with
  | nil => rfl
  | cons phase rest inductionHypothesis =>
      have first := host.forget_postPhase state bodies phase event
      rcases Action.bind_cases (host.recording.postPhase phase)
          (fun _ => host.recording.postEach rest) (event, state, bodies) with
        ⟨result, changed, ended, goesOn⟩ | ⟨stop, changed, ended, ends⟩
      · rw [ended] at first
        exact (congrArg forget goesOn).trans
          ((inductionHypothesis ..).trans
            (Action.bind_of_ok first.symm fun _ => host.postEach rest).symm)
      · rw [ended] at first
        exact (congrArg forget ends).trans
          (Action.bind_of_error first.symm fun _ => host.postEach rest).symm

namespace EndsAlike

theorem forget
    {ended other : Outcome BusError Unit × Event × σ × List β}
    (alike : host.recording.EndsAlike ended other) :
    host.EndsAlike (forget ended) (Host.forget other) := by
  cases alike with
  | refused stop event state => exact .refused stop event state.1
  | done event state other => exact .done event state.1 other.1
  | failed stop event state other isAt isAtToo =>
      rw [host.forget_afterTelling, host.forget_afterTelling]
      exact .failed stop event state.1 other.1 isAt isAtToo

theorem event_eq
    {ended other : Outcome BusError Unit × Event × σ}
    (alike : host.EndsAlike ended other) :
    ended.2.1 = other.2.1 := by
  cases alike with
  | refused => rfl
  | done => rfl
  | @failed listeners array index position entry stop event state other isAt isAtToo =>
      obtain ⟨ending, ended⟩ := exists_afterTelling index entry stop event
        (host.handle ⟨event, listeners, index, stop.listenerError⟩ state)
      obtain ⟨endingToo, endedToo⟩ := exists_afterTelling position entry stop event
        (host.handle ⟨event, array, position, stop.listenerError⟩ other)
      rw [ended, endedToo]

end EndsAlike

/-- The arrays of the single priorities make up the whole array of a node, and they do not
depend on whether the index keeps them. So posting an event to the listeners of one priority
after the other, up to the first failure, leaves the event that a single post leaves and ends
like it, and the same bodies run in the same order, which a recording host shows. -/
theorem phases_compose
    (lawful : host.Lawful)
    {event : Event}
    {state : σ}
    (reachable : (host.bus state).index.Reachable)
    (running : (host.bus state).isShutdown = false)
    (allowed : (host.bus state).config.allowsPhasePosts = true)
    (changes : host.ChangesOnlyEvents state)
    (decides : (host.bus state).checksTypes = true → host.Decides event.kind state) :
    (∀ index : Index β, index.Reachable →
      (∀ id, index.readPhases id Priority.all =
          ((index.flattened id).1, (index.flattened id).2.listeners)) ∧
        ∃ tracksPhases commands, index = (Index.empty tracksPhases).performAll commands ∧
          ∀ id priority, (index.phaseListeners id priority).2 =
            (((Index.empty !tracksPhases).performAll commands).phaseListeners id priority).2) ∧
      host.EndsAlike (host.post (event, state)) (host.postEach Priority.all (event, state)) ∧
      (host.post (event, state)).2.1 = (host.postEach Priority.all (event, state)).2.1 ∧
      forget (host.recording.post (event, state, [])) = host.post (event, state) ∧
      forget (host.recording.postEach Priority.all (event, state, [])) =
        host.postEach Priority.all (event, state) ∧
      (host.recording.post (event, state, [])).2.2.2 =
        (host.recording.postEach Priority.all (event, state, [])).2.2.2 := by
  have indices (index : Index β) (isReachable : index.Reachable) :=
    And.intro isReachable.readPhases_all isReachable.exists_phaseListeners_eq
  have single := host.forget_post state [] event
  have phased := host.forget_postEach Priority.all event state []
  have reachableToo : (host.recording.bus (state, [])).index.Reachable := reachable
  obtain ⟨alike, sameRecord⟩ := endsAlike_of_records lawful.recording host.records_recording
    reachableToo running allowed (changes.recording []) fun checks => (decides checks).recording []
  have alikeToo := alike.forget
  rw [single, phased] at alikeToo
  exact ⟨indices, alikeToo, alikeToo.event_eq, single, phased, sameRecord⟩

/-! ### A drill that is called off in phases -/

open Index.Reachable (drill)

theorem kind_setFlag?
    {event changed : Event}
    {state : Bool}
    (written : event.setFlag? state = some changed) :
    changed.kind = event.kind := by
  cases event with
  | last part =>
      obtain ⟨_, _, rfl⟩ := Option.map_eq_some_iff.mp written
      rfl
  | extend part base =>
      rw [Event.setFlag?] at written
      split at written
      · cases written
        rfl
      · obtain ⟨_, _, rfl⟩ := Option.map_eq_some_iff.mp written
        rfl

/-- Calling an event off, or failing, does nothing but to the event. -/
theorem callOff_eq (body : Bool) (event : Event) :
    ∃ outcome changed, changed.kind = event.kind ∧
      ∀ state, callOff body (event, state) = (outcome, changed, state) := by
  cases body with
  | false => exact ⟨_, event, rfl, fun _ => rfl⟩
  | true =>
      refine ⟨.ok (), (event.setFlag? true).getD event, ?_, fun _ => rfl⟩
      cases written : event.setFlag? true with
      | none => rfl
      | some changed => exact kind_setFlag? written

theorem changesOnlyEvents_of_callOff
    {host : Host (Bus Bool × Nat) Bool}
    (callsOff : host.run = callOff)
    (start : Bus Bool × Nat) :
    host.ChangesOnlyEvents start := by
  intro body event
  obtain ⟨outcome, changed, sameKind, does⟩ := callOff_eq body event
  exact ⟨outcome, changed, sameKind, fun state _ => ⟨state, by rw [callsOff, does], rfl⟩⟩

/-- A new bus that checks all posts and allows posts to single priorities. -/
def phasedBus : Bus Bool × Nat :=
  (Bus.create { allowsPhasePosts := true, checksTypes := true } false none, 0)

/-- The first listener cancels drills, the second is passed over then, and the third fails. -/
def phasedDrill : Bus Bool × Nat :=
  let first := ((calm Bool).addListener drill .high false "" true phasedBus).2
  let second := ((calm Bool).addListener drill .normal false "" false first).2
  ((calm Bool).addListener drill .low true "" false second).2

theorem reachable_phasedDrill : phasedDrill.1.index.Reachable := by
  have reaches : (calm Bool).Reaches (fun _ => True) phasedBus phasedDrill :=
    .trans (.addListener .high false "" true _ trivial)
      (.trans (.addListener .normal false "" false _ trivial)
        (.addListener .low true "" false _ trivial))
  exact reaches.index_reachable (lawful_calm Bool) (stillChecker_calm Bool) rfl

/-- In the single post the failing listener stands at position two. Among the listeners of its
priority it is the only one. -/
theorem phases_compose_phasedDrill :
    let host := (calm Bool).withCode callOff (calm Bool).handle
    let event : Event := .last ⟨drill, 0, some false⟩
    (host.Lawful ∧ (host.bus phasedDrill).index.Reachable ∧
        (host.bus phasedDrill).isShutdown = false ∧
        (host.bus phasedDrill).config.allowsPhasePosts = true ∧
        host.ChangesOnlyEvents phasedDrill ∧
        (host.bus phasedDrill).checksTypes = true ∧ host.Decides event.kind phasedDrill) ∧
      host.EndsAlike (host.post (event, phasedDrill))
        (host.postEach Priority.all (event, phasedDrill)) ∧
      failedAt? (host.post (event, phasedDrill)).1 = some 2 ∧
      failedAt? (host.postEach Priority.all (event, phasedDrill)).1 = some 0 ∧
      (host.recording.postEach Priority.all (event, phasedDrill, [])).2.2.2 = [true, false] := by
  intro host event
  have lawful : host.Lawful := (lawful_calm Bool).withCode callOff (calm Bool).handle
  have changes : host.ChangesOnlyEvents phasedDrill := changesOnlyEvents_of_callOff rfl phasedDrill
  have decides : host.Decides event.kind phasedDrill :=
    ⟨.ok (), fun state _ => ⟨state, rfl, rfl⟩⟩
  have running : (host.bus phasedDrill).isShutdown = false := by decide +kernel
  have allowed : (host.bus phasedDrill).config.allowsPhasePosts = true := by decide +kernel
  obtain ⟨-, alike, -⟩ :=
    phases_compose lawful reachable_phasedDrill running allowed changes fun _ => decides
  exact ⟨⟨lawful, reachable_phasedDrill, running, allowed, changes, by decide +kernel, decides⟩,
    alike, by decide +kernel, by decide +kernel, by decide +kernel⟩

/-! ### A checker that dismisses listeners, and one that changes its mind -/

/-- Whenever its checker is asked, the oldest registration is removed. -/
def dismissing : Host (Bus Bool × Nat) Bool :=
  { (calm Bool).withCode callOff (calm Bool).handle with
    checker := fun _ state =>
      match state.1.registrations with
      | [] => (.ok (), state)
      | (key, _) :: _ => (.ok (), ((calm Bool).unregister key state).2) }

/-- Surroundings that count how often their checker is asked. It accepts three times, and it
rejects from then on. -/
def tiring : Host ((Bus Bool × Nat) × Nat) Bool where
  bus state := state.1.1
  withBus bus state := ((bus, state.1.2), state.2)
  issued state := state.1.2
  withIssued count state := ((state.1.1, count), state.2)
  note _ state := state
  checker _ state :=
    (if state.2 < 3 then .ok () else .error (.raised "no more"), state.1, state.2 + 1)
  run body start :=
    let (outcome, event, state) := callOff body (start.1, start.2.1)
    (outcome, event, state, start.2.2)
  handle _ state := (.ok (), state)

theorem changesOnlyEvents_tiring (start : (Bus Bool × Nat) × Nat) :
    tiring.ChangesOnlyEvents start := by
  intro body event
  obtain ⟨outcome, changed, sameKind, does⟩ := callOff_eq body event
  refine ⟨outcome, changed, sameKind, fun state _ => ⟨state, ?_, rfl⟩⟩
  simp only [tiring, does]

/-- A listener at the lowest priority, and after it one that cancels drills. -/
def dismissedDrill : Bus Bool × Nat :=
  let first := ((calm Bool).addListener drill .lowest true "" true phasedBus).2
  ((calm Bool).addListener drill .normal true "" true first).2

/-- The first checker is asked once by the single post, and the listener that cancels drills
stays. Before the posts to single priorities come to it, they have asked twice, and it is gone.
The second checker leaves the bus alone, but the posts to single priorities ask it once too
often, and the last listener gets no turn. -/
theorem phases_differ_dismissing :
    ((dismissing.Lawful ∧ (dismissing.bus dismissedDrill).index.Reachable ∧
        (dismissing.bus dismissedDrill).isShutdown = false ∧
        (dismissing.bus dismissedDrill).config.allowsPhasePosts = true ∧
        dismissing.ChangesOnlyEvents dismissedDrill) ∧
      (dismissing.post (.last ⟨drill, 0, some false⟩, dismissedDrill)).2.1 ≠
        (dismissing.postEach Priority.all (.last ⟨drill, 0, some false⟩, dismissedDrill)).2.1) ∧
    (tiring.Lawful ∧ (tiring.bus (dismissedDrill, 0)).index.Reachable ∧
        (tiring.bus (dismissedDrill, 0)).isShutdown = false ∧
        (tiring.bus (dismissedDrill, 0)).config.allowsPhasePosts = true ∧
        tiring.ChangesOnlyEvents (dismissedDrill, 0) ∧
        ∀ kind state, tiring.bus (tiring.checker kind state).2 = tiring.bus state) ∧
      (tiring.recording.post
        (.last ⟨drill, 0, some false⟩, (dismissedDrill, 0), [])).2.2.2 = [true, true] ∧
      (tiring.recording.postEach Priority.all
        (.last ⟨drill, 0, some false⟩, (dismissedDrill, 0), [])).2.2.2 = [true] := by
  have lawful : dismissing.Lawful :=
    ⟨fun _ _ => rfl, fun _ _ => rfl, fun _ _ => rfl, fun _ _ => rfl, fun _ _ => rfl,
      fun _ _ => rfl⟩
  have lawfulToo : tiring.Lawful :=
    ⟨fun _ _ => rfl, fun _ _ => rfl, fun _ _ => rfl, fun _ _ => rfl, fun _ _ => rfl,
      fun _ _ => rfl⟩
  have reaches : (calm Bool).Reaches (fun _ => True) phasedBus dismissedDrill :=
    .trans (.addListener .lowest true "" true _ trivial)
      (.addListener .normal true "" true _ trivial)
  have reachable : dismissedDrill.1.index.Reachable :=
    reaches.index_reachable (lawful_calm Bool) (stillChecker_calm Bool) rfl
  have running : dismissedDrill.1.isShutdown = false := by decide +kernel
  have allowed : dismissedDrill.1.config.allowsPhasePosts = true := by decide +kernel
  refine ⟨⟨⟨lawful, reachable, running, allowed, changesOnlyEvents_of_callOff rfl _⟩, ?_⟩,
    ⟨lawfulToo, reachable, running, allowed, changesOnlyEvents_tiring _, fun _ _ => rfl⟩, ?_, ?_⟩
  all_goals decide +kernel

end Host
end EventRelay
