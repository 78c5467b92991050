import EventRelay.Proofs.Bus.Parallel
import EventRelay.Proofs.Bus.Steps
import EventRelay.Proofs.Dispatch.Typed

/-!
# Buses that are built shut down

Until it is started, a bus that was built shut down ignores posts altogether: they do not make
nodes, read arrays or count anything. Everything else works as on a running bus. So once it is
started, the bus is what it would have become without the posts if it had been running from the
beginning, and nothing shuts it down again.

The only code that is asked before the start is the checker. If it posts on the bus itself, it
can tell whether the bus has been started.
-/

namespace EventRelay

variable {σ ρ β : Type}

namespace Bus

/-- Changes what the configuration says about how the bus was built. -/
def recording (bus : Bus β) (startShutdown : Bool) : Bus β :=
  { bus with config := { bus.config with startShutdown := startShutdown } }

@[simp] theorem isShutdown_commit
    (bus : Bus β)
    (key : Key)
    (pending : Pending β) :
    (bus.commit key pending).isShutdown = bus.isShutdown := by
  unfold commit
  split <;> rfl

@[simp] theorem isShutdown_unregister
    (bus : Bus β)
    (key : Key) :
    (bus.unregister key).isShutdown = bus.isShutdown := by
  unfold unregister
  split <;> rfl

theorem commit_recording_start
    (bus : Bus β)
    (startShutdown : Bool)
    (key : Key)
    (pending : Pending β) :
    (bus.start.recording startShutdown).commit key pending =
      (bus.commit key pending).start.recording startShutdown := by
  have sameKey : (bus.start.recording startShutdown).isRegistered key = bus.isRegistered key := rfl
  unfold commit
  rw [sameKey]
  split <;> rfl

theorem unregister_recording_start
    (bus : Bus β)
    (startShutdown : Bool)
    (key : Key) :
    (bus.start.recording startShutdown).unregister key =
      (bus.unregister key).start.recording startShutdown := by
  have sameKey : (bus.start.recording startShutdown).registered? key = bus.registered? key := rfl
  unfold unregister
  rw [sameKey]
  split <;> rfl

end Bus

namespace Host

/-! ## Sequences of operations -/

/-- What may be done with a bus before it is started. -/
inductive Operation (β : Type) : Type 1
  /-- Listeners are made for other buses. -/
  | elsewhere (count : Nat)
  | register {τ : Type} (key : Key) (subscriber : SubscriberClass τ β) (object : τ)
  | registerType {τ : Type} (key : Key) (subscriber : SubscriberClass τ β)
  | addListener (kind : Kind) (priority : Priority) (receivesCanceled : Bool)
      (description : String) (body : β)
  | unregister (key : Key)
  | listenerCount (kind : Kind)
  /-- A post to all listeners or to those of one priority. -/
  | post (phase? : Option Priority) (event : Event)

/-- The operation is a post. -/
def Operation.isPost : Operation β → Bool
  | .post _ _ => true
  | _ => false

/-- The state after an operation. -/
def perform (host : Host σ β) : Operation β → σ → σ
  | .elsewhere count, state => host.withIssued (host.issued state + count) state
  | .register key subscriber object, state => (host.register key subscriber object state).2
  | .registerType key subscriber, state => (host.registerType key subscriber state).2
  | .addListener kind priority receivesCanceled description body, state =>
      (host.addListener kind priority receivesCanceled description body state).2
  | .unregister key, state => (host.unregister key state).2
  | .listenerCount kind, state => (host.listenerCount kind state).2
  | .post phase? event, state => (host.postTo phase? (event, state)).2.2

/-- The state after some operations. -/
def performAll (host : Host σ β) (operations : List (Operation β)) (state : σ) : σ :=
  operations.foldl (fun current operation => host.perform operation current) state

/-- The operations that are not posts. -/
def withoutPosts (operations : List (Operation β)) : List (Operation β) :=
  operations.filter fun operation => !operation.isPost

section Performing

variable {host : Host σ β} {related : σ → σ → Prop} {first second : σ}

/-- Operations that are not posts keep states related. -/
theorem Pairs.perform
    (pairs : host.Pairs related)
    {operation : Operation β}
    (isOther : operation.isPost = false)
    (alike : related first second) :
    related (host.perform operation first) (host.perform operation second) := by
  cases operation with
  | elsewhere count =>
      have counted := pairs.withIssued (host.issued first + count) alike
      rwa [Host.perform, Host.perform, ← pairs.issued alike]
  | register key subscriber object => exact (pairs.registerAs key _ _ _ _ _ alike).2
  | registerType key subscriber =>
      exact (pairs.registerAs key subscriber .type none _ _ alike).2
  | addListener kind priority receivesCanceled description body =>
      exact (pairs.addListener kind priority receivesCanceled description body _ _ alike).2
  | unregister key => exact (pairs.unregisterFrom key alike).2
  | listenerCount kind => exact (pairs.listenerCount kind _ _ alike).2
  | post phase? event => cases isOther

/-- A sequence of operations on a bus that is shut down is paired with the same operations
without the posts. -/
theorem Pairs.performAll
    (pairs : host.Pairs related)
    (shutdown : ∀ first second, related first second → (host.bus first).isShutdown = true)
    (operations : List (Operation β))
    (alike : related first second) :
    related (host.performAll operations first)
      (host.performAll (withoutPosts operations) second) := by
  induction operations generalizing first second with
  | nil => exact alike
  | cons operation rest inductionHypothesis =>
      cases isPost : operation.isPost with
      | false =>
          have others : withoutPosts (operation :: rest) = operation :: withoutPosts rest := by
            rw [withoutPosts, List.filter_cons_of_pos (by rw [isPost]; rfl)]
            rfl
          rw [others]
          exact inductionHypothesis (pairs.perform isPost alike)
      | true =>
          have others : withoutPosts (operation :: rest) = withoutPosts rest := by
            rw [withoutPosts, List.filter_cons_of_neg (by rw [isPost]; decide)]
            rfl
          have unchanged : host.perform operation first = first := by
            cases operation with
            | post phase? event =>
                rw [Host.perform, postTo_of_shutdown (shutdown first second alike)]
            | _ => cases isPost
          have step : host.performAll (operation :: rest) first = host.performAll rest first :=
            congrArg (host.performAll rest) unchanged
          rw [others, step]
          exact inductionHypothesis alike

/-- Operations that are not posts do not see what bodies and the handler do. -/
theorem performAll_withCode
    (host : Host σ β)
    (run : β → Handler σ)
    (handle : Incident β → Action σ Empty Unit)
    (operations : List (Operation β))
    (state : σ) :
    (host.withCode run handle).performAll (withoutPosts operations) state =
      host.performAll (withoutPosts operations) state := by
  refine List.foldl_ext _ _ _ fun current operation isOperation => ?_
  have isOther := (List.mem_filter.mp isOperation).2
  cases operation with
  | post phase? event => cases isOther
  | _ => rfl

end Performing

/-! ## A bus that is shut down -/

/-- The checker does not start the bus. -/
def LeavesShutdown (host : Host σ β) : Prop :=
  ∀ kind state, (host.bus state).isShutdown = true →
    (host.bus (host.checker kind state).2).isShutdown = true

section Ignoring

variable {host : Host σ β}

/-- A bus that is shut down stays so in every operation. -/
theorem pairs_of_leavesShutdown
    (lawful : host.Lawful)
    (leaves : host.LeavesShutdown) :
    host.Pairs fun first second => first = second ∧ (host.bus first).isShutdown = true where
  index := by
    rintro first _ ⟨rfl, -⟩
    rfl
  registrations := by
    rintro first _ ⟨rfl, -⟩
    rfl
  issued := by
    rintro first _ ⟨rfl, -⟩
    rfl
  withIndex := by
    rintro first _ index ⟨rfl, shutdown⟩
    exact ⟨rfl, by rw [lawful.bus_modify]; exact shutdown⟩
  commit := by
    rintro first _ key pending ⟨rfl, shutdown⟩
    exact ⟨rfl, by rw [lawful.bus_modify, Bus.isShutdown_commit, shutdown]⟩
  unregister := by
    rintro first _ key ⟨rfl, shutdown⟩
    exact ⟨rfl, by rw [lawful.bus_modify, Bus.isShutdown_unregister, shutdown]⟩
  withIssued := by
    rintro first _ count ⟨rfl, shutdown⟩
    exact ⟨rfl, by rw [lawful.bus_withIssued, shutdown]⟩
  note := by
    rintro first _ notice ⟨rfl, shutdown⟩
    exact ⟨rfl, by rw [lawful.bus_note, shutdown]⟩
  checker := by
    rintro kind first _ ⟨rfl, shutdown⟩
    exact ⟨rfl, rfl, leaves kind first shutdown⟩

/-! ## The same bus, built running -/

/-- What a state holds besides the bus and the number of issued identities. -/
structure Besides (host : Host σ β) (rest : σ → ρ) : Prop where
  withBus : ∀ bus state, rest (host.withBus bus state) = rest state
  withIssued : ∀ count state, rest (host.withIssued count state) = rest state
  /-- Notices are taken in the same way. -/
  note : ∀ notice first second, rest first = rest second →
    rest (host.note notice first) = rest (host.note notice second)

/-- Two states differ only in that the bus is shut down in one of them and was built running in
the other. -/
structure Twins (host : Host σ β) (rest : σ → ρ) (shut running : σ) : Prop where
  bus : host.bus running = (host.bus shut).start.recording false
  isShutdown : (host.bus shut).isShutdown = true
  issued : host.issued shut = host.issued running
  rest : rest shut = rest running

/-- The checker does not tell twins apart. -/
def Unaware (host : Host σ β) (rest : σ → ρ) : Prop :=
  ∀ kind, Action.Parallel (host.Twins rest) (host.checker kind)

/-- A checker that only decides is unaware. -/
theorem unaware_of_decides
    (host : Host σ β)
    (rest : σ → ρ)
    (decides : ∀ kind, ∃ outcome, ∀ state, host.checker kind state = (outcome, state)) :
    host.Unaware rest := by
  intro kind shut running twins
  obtain ⟨outcome, decided⟩ := decides kind
  rw [decided, decided]
  exact ⟨rfl, twins⟩

/-- Changes that leave the bus shut down, and are the same on the bus built running, keep
twins. -/
theorem Twins.modify
    {rest : σ → ρ}
    {shut running : σ}
    (twins : host.Twins rest shut running)
    (lawful : host.Lawful)
    (besides : host.Besides rest)
    {change : Bus β → Bus β}
    (stays : ∀ bus, (change bus).isShutdown = bus.isShutdown)
    (same : ∀ bus, change (bus.start.recording false) = (change bus).start.recording false) :
    host.Twins rest (host.modify change shut) (host.modify change running) where
  bus := by rw [lawful.bus_modify, lawful.bus_modify, twins.bus, same]
  isShutdown := by rw [lawful.bus_modify, stays, twins.isShutdown]
  issued := by
    unfold Host.modify
    rw [lawful.issued_withBus, lawful.issued_withBus, twins.issued]
  rest := by
    unfold Host.modify
    rw [besides.withBus, besides.withBus, twins.rest]

theorem pairs_of_unaware
    (lawful : host.Lawful)
    {rest : σ → ρ}
    (besides : host.Besides rest)
    (unaware : host.Unaware rest) :
    host.Pairs (host.Twins rest) where
  index twins := by
    rw [twins.bus]
    rfl
  registrations twins := by
    rw [twins.bus]
    rfl
  issued twins := twins.issued
  withIndex _ twins := twins.modify lawful besides (fun _ => rfl) fun _ => rfl
  commit key pending twins :=
    twins.modify lawful besides (fun bus => bus.isShutdown_commit key pending)
      fun bus => bus.commit_recording_start false key pending
  unregister key twins :=
    twins.modify lawful besides (fun bus => bus.isShutdown_unregister key)
      fun bus => bus.unregister_recording_start false key
  withIssued count twins :=
    ⟨by rw [lawful.bus_withIssued, lawful.bus_withIssued, twins.bus],
      by rw [lawful.bus_withIssued, twins.isShutdown],
      by rw [lawful.issued_withIssued, lawful.issued_withIssued],
      by rw [besides.withIssued, besides.withIssued, twins.rest]⟩
  note notice twins :=
    ⟨by rw [lawful.bus_note, lawful.bus_note, twins.bus],
      by rw [lawful.bus_note, twins.isShutdown],
      by rw [lawful.issued_note, lawful.issued_note, twins.issued],
      besides.note notice _ _ twins.rest⟩
  checker := unaware

end Ignoring

/-! ## A bus that has been started -/

section Started

variable {host : Host σ β} {terms : Terms σ β} {before after : σ}

theorem Step.isShutdown_eq_false
    (step : Step host terms before after)
    (lawful : host.Lawful)
    (running : (host.bus before).isShutdown = false) :
    (host.bus after).isShutdown = false := by
  cases step with
  | aside _ sameBus => rw [sameBus, running]
  | note notice state => rw [lawful.bus_note, running]
  | issue state =>
      change (host.bus (host.withIssued _ before)).isShutdown = false
      rw [lawful.bus_withIssued, running]
  | grow state _ made =>
      obtain ⟨index, -, rfl⟩ := Bus.nodeFor_eq_ok made
      rw [lawful.bus_withBus]
      exact running
  | refresh id state =>
      rw [lawful.bus_modify]
      exact running
  | commit key state _ => rw [lawful.bus_modify, Bus.isShutdown_commit, running]
  | unregister key state => rw [lawful.bus_modify, Bus.isShutdown_unregister, running]
  | start state =>
      rw [lawful.bus_modify]
      rfl
  | recordPost ran state =>
      rw [lawful.bus_modify]
      exact running
  | recordFailure state =>
      rw [lawful.bus_modify]
      exact running

/-- Nothing shuts down a running bus. -/
theorem Steps.isShutdown_eq_false
    (steps : Steps host terms before after)
    (lawful : host.Lawful)
    (running : (host.bus before).isShutdown = false) :
    (host.bus after).isShutdown = false := by
  induction steps with
  | refl => exact running
  | tail _ step inductionHypothesis => exact step.isShutdown_eq_false lawful inductionHypothesis

end Started

/-- Before a bus that was built shut down is started, no post has any effect: the event comes
back unchanged, no body or handler runs, and the state is what it would be without the posts.
The poster is only told if posts to single priorities are not allowed.

When it is started after some operations, the bus is the one that was built running and has
gone through the same operations without the posts, except for what its configuration says
about that; here the checker must not tell whether the bus is shut down. And the bus is never
shut down again. -/
theorem ignores_posts_until_started
    {host : Host σ β}
    (lawful : host.Lawful)
    (leaves : host.LeavesShutdown)
    {config : BusConfig}
    (shutdown : config.startShutdown = true)
    {forcesChecks : Bool}
    {metrics? : Option Metrics}
    {first last : σ}
    (new : host.bus first = Bus.create config forcesChecks metrics?)
    {operations : List (Operation β)}
    (performed : host.performAll operations first = last) :
    (host.bus last).isShutdown = true ∧
      host.performAll (withoutPosts operations) first = last ∧
      (∀ run handle, (host.withCode run handle).performAll operations first = last) ∧
      (∀ run handle phase? event,
        (host.withCode run handle).postTo phase? (event, last) =
          (if phase?.isSome = true ∧ (host.bus last).config.allowsPhasePosts = false then
            .error (.raised .perPhasePostDisabled) else .ok (), event, last)) ∧
      (∀ {ρ : Type} {rest : σ → ρ}, host.Besides rest → host.Unaware rest →
        ∀ firstToo lastToo,
          host.bus firstToo =
            Bus.create { config with startShutdown := false } forcesChecks metrics? →
          host.issued first = host.issued firstToo → rest first = rest firstToo →
          host.performAll (withoutPosts operations) firstToo = lastToo →
            (host.bus (host.start last)).recording false = host.bus lastToo ∧
              host.issued (host.start last) = host.issued lastToo) ∧
      ∀ (terms : Terms σ β) later, host.Performs terms (host.start last) later →
        (host.bus later).isShutdown = false := by
  have isShutdown : (host.bus first).isShutdown = true := by
    rw [new]
    exact shutdown
  have ignored (run : β → Handler σ) (handle : Incident β → Action σ Empty Unit) :
      (host.withCode run handle).performAll operations first =
          host.performAll (withoutPosts operations) first ∧
        (host.bus ((host.withCode run handle).performAll operations first)).isShutdown = true := by
    obtain ⟨same, stays⟩ := (pairs_of_leavesShutdown (lawful.withCode run handle) leaves).performAll
      (fun _ _ alike => alike.2) operations ⟨rfl, isShutdown⟩
    exact ⟨same.trans (performAll_withCode host run handle operations first), stays⟩
  obtain ⟨withoutEffect, stays⟩ : host.performAll operations first =
      host.performAll (withoutPosts operations) first ∧
    (host.bus (host.performAll operations first)).isShutdown = true := ignored host.run host.handle
  rw [performed] at withoutEffect stays
  refine ⟨stays, withoutEffect.symm, fun run handle => ?_, fun run handle phase? event => ?_, ?_,
    fun terms later performs => ?_⟩
  · exact (ignored run handle).1.trans withoutEffect.symm
  · have staysToo : ((host.withCode run handle).bus last).isShutdown = true := stays
    exact postTo_of_shutdown staysToo phase? event
  · intro ρ rest besides unaware firstToo lastToo newToo sameIssued sameRest performedToo
    have twins : host.Twins rest first firstToo :=
      ⟨by rw [newToo, new]; rfl, isShutdown, sameIssued, sameRest⟩
    have lastTwins := (pairs_of_unaware lawful besides unaware).performAll
      (fun _ _ twins => twins.isShutdown) operations twins
    rw [performed, performedToo] at lastTwins
    obtain ⟨startedBus, startedIssued⟩ := Prod.mk.inj (view_start lawful last)
    rw [startedBus, startedIssued, lastTwins.bus, lastTwins.issued]
    exact ⟨rfl, rfl⟩
  · exact (performs.steps lawful).isShutdown_eq_false lawful
      (congrArg (fun view => view.1.isShutdown) (view_start lawful last))

/-! ### A drill that is posted too early -/

open Index.Reachable (alarm drill)

/-- Posts and registrations: the first post is too early, the second also asks for a single
priority. -/
def early : List (Operation Unit) := [
  .post none (.last ⟨drill, 0, none⟩),
  .addListener alarm .normal true "" (),
  .post (some .high) (.last ⟨drill, 0, none⟩),
  .listenerCount alarm]

/-- Nothing but a bus that is built shut down or running. -/
def built (startShutdown : Bool) : Bus Unit × Nat :=
  (Bus.create ⟨startShutdown, false, false⟩ false none, 0)

/-- The bus knows nothing of drills after it has been started, for no post has asked for their
node. -/
theorem ignores_posts_until_started_early :
    (calm Unit).performAll early (built true) =
        (calm Unit).performAll (withoutPosts early) (built true) ∧
      ((calm Unit).bus ((calm Unit).start ((calm Unit).performAll early (built true)))).recording
          false =
        (calm Unit).bus ((calm Unit).performAll (withoutPosts early) (built false)) ∧
      ((calm Unit).performAll (withoutPosts early) (built false)).1.index.kinds = [alarm] := by
  have besides : (calm Unit).Besides fun _ => () := ⟨fun _ _ => rfl, fun _ _ => rfl,
    fun _ _ _ _ => rfl⟩
  have unaware := (calm Unit).unaware_of_decides (fun _ => ()) fun _ => ⟨.ok (), fun _ => rfl⟩
  obtain ⟨-, withoutEffect, -, -, same, -⟩ :=
    ignores_posts_until_started (lawful_calm Unit) (fun _ _ shutdown => shutdown) rfl rfl
      (Eq.refl ((calm Unit).performAll early (built true)))
  refine ⟨withoutEffect.symm, ?_, by decide +kernel⟩
  exact (same besides unaware (built false) _ rfl rfl rfl rfl).1

/-- A checker that posts a drill whenever it is asked. -/
def drilling : Host (Bus Unit × Nat) Unit :=
  { calm Unit with
    checker := fun _ state => (.ok (), ((calm Unit).post (.last ⟨drill, 0, none⟩, state)).2.2) }

/-- On the bus that was built running, what the checker posts asks for the node of drills. -/
theorem posts_show_drilling :
    drilling.Lawful ∧ drilling.LeavesShutdown ∧
      (drilling.bus (drilling.start (drilling.performAll early (built true)))).recording false ≠
        drilling.bus (drilling.performAll (withoutPosts early) (built false)) := by
  refine ⟨⟨fun _ _ => rfl, fun _ _ => rfl, fun _ _ => rfl, fun _ _ => rfl, fun _ _ => rfl,
    fun _ _ => rfl⟩, fun kind state shutdown => ?_, fun same => ?_⟩
  · change ((calm Unit).post (.last ⟨drill, 0, none⟩, state)).2.2.1.isShutdown = true
    have ignored := post_of_shutdown (show ((calm Unit).bus state).isShutdown = true from shutdown)
      (.last ⟨drill, 0, none⟩)
    rw [ignored]
    exact shutdown
  · exact absurd (congrArg (fun bus => bus.index.kinds) same) (by decide +kernel)

end Host
end EventRelay
