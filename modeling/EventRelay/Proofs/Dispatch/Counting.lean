import EventRelay.Proofs.Bus.Tally
import EventRelay.Proofs.Dispatch.Typed

/-!
# Metrics that tell the truth

When a dispatch begins, the metrics and the tally of a bus may differ by what the dispatches
around it have counted on one side only. When it ends, they differ by the same again. So they
agree whenever no dispatch is in progress.
-/

namespace EventRelay

variable {σ β : Type}

namespace Host

/-- The state after a post whose bodies are counted. It is counted itself if it comes to a
dispatch. -/
def postCounting (host : Host σ β) (counter : Counter σ) (phase? : Option Priority)
    (run : β → Handler σ) (handle : Incident β → Action σ Empty Unit) (start : Event × σ) : σ :=
  let ended := (host.withCode (counter.entering run) handle).postTo phase? start
  if host.Declines phase? start.1 start.2 then ended.2.2 else counter.closed ended

/-- A state is reached from another by operations on the bus, and what they do is counted.
Whether they succeed does not matter. Where an operation asks the checker, and while a post runs
its bodies and the handler, more may be done in the same way. -/
inductive Counted (host : Host σ β) (counter : Counter σ) : σ → σ → Prop
  /-- Nothing is done. -/
  | refl (state : σ) : Counted host counter state state
  /-- One thing is done after the other. -/
  | trans {first middle last : σ} :
      Counted host counter first middle → Counted host counter middle last →
      Counted host counter first last
  /-- Something is done that leaves the bus alone; identities may be issued for others. -/
  | aside {before after : σ} :
      host.bus after = host.bus before → host.issued before ≤ host.issued after →
      counter.tally after = counter.tally before → Counted host counter before after
  | register {τ : Type} (key : Key) (subscriber : SubscriberClass τ β) (object : τ) (state : σ) :
      (∀ kind state, Counted host counter state (host.checker kind state).2) →
      Counted host counter state (host.register key subscriber object state).2
  | registerType {τ : Type} (key : Key) (subscriber : SubscriberClass τ β) (state : σ) :
      (∀ kind state, Counted host counter state (host.checker kind state).2) →
      Counted host counter state (host.registerType key subscriber state).2
  /-- A single listener is added. -/
  | addListener (kind : Kind) (priority : Priority) (receivesCanceled : Bool)
      (description : String) (body : β) (state : σ) :
      (∀ kind state, Counted host counter state (host.checker kind state).2) →
      Counted host counter state
        (host.addListener kind priority receivesCanceled description body state).2
  | unregister (key : Key) (state : σ) : Counted host counter state (host.unregister key state).2
  | start (state : σ) : Counted host counter state (host.start state)
  /-- The listeners of a kind are counted. -/
  | listenerCount (kind : Kind) (state : σ) :
      Counted host counter state (host.listenerCount kind state).2
  /-- An event is posted, to all listeners or to those of one priority. -/
  | post (phase? : Option Priority) {run : β → Handler σ}
      {handle : Incident β → Action σ Empty Unit} (start : Event × σ) :
      (∀ kind state, Counted host counter state (host.checker kind state).2) →
      (∀ body event state, Counted host counter state (run body (event, state)).2.2) →
      (∀ incident state, Counted host counter state (handle incident state).2) →
      Counted host counter start.2 (host.postCounting counter phase? run handle start)

/-! ## Dispatches -/

section Dispatching

variable {host : Host σ β} {counter : Counter σ} {stem : String} {gap : Gap}
  {run : β → Handler σ} (lawful : host.Lawful) (apart : counter.Apart host)
include lawful apart

omit lawful in
theorem view_closed
    (ended : Outcome BusError Unit × Event × σ) :
    host.view (counter.closed ended) = host.view ended.2.2 :=
  Prod.ext (apart.bus_withTally ..) (apart.issued_withTally ..)

omit lawful in
/-- With the end of a dispatch the tally has caught up with the metrics. -/
theorem Tells.closed
    {ended : Outcome BusError Unit × Event × σ}
    (tells : host.Tells counter stem
      { gap with
        posts := gap.posts + 1
        failures := gap.failures + if ended.1.isOk then 0 else 1 } ended.2.2) :
    host.Tells counter stem gap (counter.closed ended) := by
  obtain ⟨metrics, shown, sameStem, posts, invocations, failures⟩ := tells
  refine ⟨metrics, ?_, sameStem, ?_⟩
  · rwa [Counter.closed, apart.bus_withTally]
  · rw [Counter.closed, apart.tally_withTally]
    obtain ⟨outcome, event, state⟩ := ended
    cases outcome with
    | ok result => exact ⟨by simp only [posts, Tally.close]; omega, invocations, failures⟩
    | error stop =>
        refine ⟨by simp only [posts, Tally.close]; omega, invocations, ?_⟩
        simp only [failures, Tally.close, Except.isOk, Except.toBool, Bool.false_eq_true, if_false]
        omega

variable (handle : Incident β → Action σ Empty Unit)
  (bodies : ∀ body event state, host.Balanced counter state (run body (event, state)).2.2)
include bodies

omit lawful in
/-- The bodies that a run counts are those that the tally has counted in the meantime, apart
from what they have done themselves. -/
theorem tells_runInOrder
    (listeners : List (Listener β))
    (index ran : Nat)
    (start : Event × σ)
    (tells : host.Tells counter stem gap start.2) :
    ∃ more,
      ((host.withCode (counter.entering run) handle).runInOrder listeners index ran start).1.ran =
        ran + more ∧
      host.Tells counter stem { gap with ran := gap.ran + more }
        ((host.withCode (counter.entering run) handle).runInOrder listeners index ran
          start).2.2 := by
  induction listeners generalizing gap index ran start with
  | nil => exact ⟨0, rfl, tells⟩
  | cons listener rest inductionHypothesis =>
      rw [runInOrder_cons]
      split
      case isTrue =>
        -- The tally is one body ahead, and what that body posts leaves it one ahead.
        have after : host.Tells counter stem { gap with ran := gap.ran + 1 }
            (counter.entering run listener.body start).2.2 :=
          (bodies ..).tells (tells.enter apart)
        split
        case h_1 changed ended =>
          rw [show counter.entering run listener.body start = (.ok (), changed) from ended] at after
          obtain ⟨more, counted, tellsThen⟩ :=
            inductionHypothesis (index + 1) (ran + 1) changed after
          refine ⟨1 + more, by omega, ?_⟩
          rwa [← Nat.add_assoc]
        case h_2 stop changed ended =>
          rw [show counter.entering run listener.body start = (.error stop, changed) from ended]
            at after
          exact ⟨1, rfl, after⟩
      case isFalse => exact inductionHypothesis (index + 1) ran start tells

variable {handle}
  (handler : ∀ incident state, host.Balanced counter state (handle incident state).2)
include handler

theorem tells_dispatch
    (listeners : List (Listener β))
    (start : Event × σ)
    (tells : host.Tells counter stem gap start.2) :
    host.Tells counter stem gap
      (counter.closed
        ((host.withCode (counter.entering run) handle).dispatch listeners start)) := by
  let counting := host.withCode (counter.entering run) handle
  refine .closed apart ?_
  obtain ⟨more, counted, after⟩ :=
    tells_runInOrder apart handle bodies listeners 0 0 start tells
  cases ended : counting.runInOrder listeners 0 0 start with
  | mk runEnd left =>
      obtain ⟨event, ranThrough⟩ := left
      obtain ⟨ran, failure?⟩ := runEnd
      rw [ended] at counted after
      obtain rfl : ran = more := by simpa using counted
      have posted := after.recordPost lawful apart
      cases failure? with
      | none =>
          rw [dispatch_of_done ended]
          exact posted
      | some failure =>
          obtain ⟨index, listener, stop⟩ := failure
          rw [dispatch_of_failed ended]
          have reported := (handler ⟨event, listeners, index, stop.listenerError⟩ _).tells
            (posted.recordFailure lawful apart)
          obtain ⟨ending, failed⟩ := exists_afterTelling index listener stop event
            (counting.reportFailure ⟨event, listeners, index, stop.listenerError⟩
              (counting.modify (fun bus => bus.recordPost ran) ranThrough))
          rw [failed]
          exact reported

variable (checks : ∀ kind state, host.Balanced counter state (host.checker kind state).2)
include checks

/-- All stages of a post keep the bus in order. -/
theorem follows_evolves :
    (host.withCode (counter.entering run) handle).Follows (fun _ => True) fun before after =>
      Bus.Ledger (host.view before) → Bus.Evolves (host.view before) (host.view after) where
  unchanged _ ledger := ledger.issue (Nat.le_refl _)
  composed earlier later ledger := (earlier ledger).trans (later (earlier ledger).ledger)
  nodeForPost state _ := ((carries_balanced lawful apart).nodeForPost checks lawful _ state).evolves
  refresh id state := ((carries_balanced lawful apart).refreshing id state).evolves
  recordPost ran state ledger := by
    change Bus.Evolves _ (host.view (host.modify (fun bus => bus.recordPost ran) state))
    rw [lawful.view_modify]
    exact ledger.meter fun _ => rfl
  recordFailure state ledger := by
    change Bus.Evolves _ (host.view (host.modify Bus.recordFailure state))
    rw [lawful.view_modify]
    exact ledger.meter fun _ => rfl
  run body event state _ := by
    have entered := (bodies body event
      (counter.withTally (counter.tally state).enter state)).evolves
    rwa [view, apart.bus_withTally, apart.issued_withTally] at entered
  kind _ _ _ _ := trivial
  handle incident state _ := (handler incident state).evolves

theorem balanced_post
    (phase? : Option Priority)
    (start : Event × σ) :
    host.Balanced counter start.2 (host.postCounting counter phase? run handle start) := by
  obtain ⟨event, state⟩ := start
  have carries := carries_balanced lawful apart
  have asked := carries.nodeForPost checks lawful event.kind state
  unfold postCounting
  split
  case isTrue declines =>
    rcases declines.leaves (counter.entering run) handle with unchanged | leaves
    · rw [unchanged]
      exact .refl state
    · rwa [leaves]
  case isFalse dispatched =>
    constructor
    case evolves =>
      have follows := follows_evolves lawful apart bodies handler checks
      rw [view_closed apart]
      cases phase? with
      | none => exact follows.post trivial state
      | some phase => exact follows.postPhase trivial phase state
    case tells =>
      intro stem gap before
      rcases host.postTo_cases phase? event state with
        ⟨declines, -⟩ | ⟨id, made, found, dispatches⟩
      · exact absurd declines dispatched
      · rw [found] at asked
        rw [dispatches]
        exact tells_dispatch lawful apart bodies handler _ (event, host.refresh id made)
          ((asked.trans (carries.refreshing id made)).tells before)

end Dispatching

/-! ## The metrics tell the truth -/

section Truth

variable {host : Host σ β} {counter : Counter σ} {first last : σ}

theorem Counted.balanced
    (counted : host.Counted counter first last)
    (lawful : host.Lawful)
    (apart : counter.Apart host) :
    host.Balanced counter first last := by
  have carries := carries_balanced lawful apart
  induction counted with
  | refl state => exact .refl state
  | trans _ _ earlier later => exact earlier.trans later
  | aside sameBus fewer sameTally => exact .aside sameBus fewer sameTally
  | register key subscriber object state _ checks =>
      exact carries.registerAs checks lawful key subscriber _ _ state
  | registerType key subscriber state _ checks =>
      exact carries.registerAs checks lawful key subscriber _ _ state
  | addListener kind priority receivesCanceled description body state _ checks =>
      exact carries.addListener checks lawful kind priority receivesCanceled description body state
  | unregister key state => exact carries.unregistering key state
  | start state => exact carries.starting state
  | listenerCount kind state => exact carries.listenerCount lawful kind state
  | post phase? start _ _ _ checks bodies handler =>
      exact balanced_post lawful apart bodies handler checks phase? start

/-- Whatever is done with a bus that was built with metrics of its own, between dispatches the
metrics show how many dispatches there were, how many bodies were entered, how many of the
dispatches ended in an error or a panic, and how many listeners are in the table; and the nodes
have as many listeners. -/
theorem Counted.metrics_tell_truth
    (counted : host.Counted counter first last)
    (lawful : host.Lawful)
    (apart : counter.Apart host)
    {stem : String}
    {metrics : Metrics}
    (zero : Metrics.create? stem = some metrics)
    {config : BusConfig}
    {forcesChecks : Bool}
    (new : host.bus first = Bus.create config forcesChecks (some metrics))
    (nothing : counter.tally first = .zero) :
    (host.bus last).metrics? =
        some ⟨stem, (counter.tally last).dispatches, (counter.tally last).entered,
          (counter.tally last).failed, (host.bus last).registeredListeners.length⟩ ∧
      ((host.bus last).index.nodes.map Node.listenerCount).sum =
        (host.bus last).registeredListeners.length := by
  have balanced := counted.balanced lawful apart
  obtain rfl : (⟨stem, 0, 0, 0, 0⟩ : Metrics) = metrics := by
    simp only [Metrics.create?, Option.ite_none_right_eq_some, Option.some.injEq] at zero
    exact zero.2
  have start : Bus.Ledger (host.view first) := by
    rw [view, new]
    exact .create config forcesChecks (fun metrics shown => by cases shown; rfl) _
  have tellsFirst : host.Tells counter stem ⟨0, 0, 0⟩ first := by
    refine ⟨_, congrArg Bus.metrics? new, rfl, ?_⟩
    rw [nothing]
    exact ⟨rfl, rfl, rfl⟩
  have ledger := (balanced.evolves start).ledger
  obtain ⟨shown, isShown, sameStem, posts, invocations, failures⟩ := balanced.tells tellsFirst
  have gauge := ledger.gauge shown isShown
  refine ⟨?_, ledger.matched.sum_listenerCount⟩
  rw [isShown]
  obtain ⟨shownStem, shownPosts, shownInvocations, shownFailures, shownListeners⟩ := shown
  simp only [Nat.add_zero] at sameStem posts invocations failures gauge
  subst sameStem posts invocations failures gauge
  rfl

end Truth

/-! ### A drill in which an alarm fails -/

open Index.Reachable (alarm drill)

/-- Surroundings of a bus that hold a tally as well. -/
def tallying : Host ((Bus Bool × Nat) × Tally) Bool where
  bus state := state.1.1
  withBus bus state := ((bus, state.1.2), state.2)
  issued state := state.1.2
  withIssued count state := ((state.1.1, count), state.2)
  note _ state := state
  checker := .acceptAll
  run _ start := (.ok (), start)
  handle _ state := (.ok (), state)

/-- Where they hold it. -/
def besideBus : Counter ((Bus Bool × Nat) × Tally) where
  tally := Prod.snd
  withTally tally state := (state.1, tally)

/-- A body that fails. -/
def smoke : Handler ((Bus Bool × Nat) × Tally) := fun start =>
  (.error (.raised (.customText "smoke")), start)

/-- Some bodies post an alarm, for which all bodies fail. The others fail themselves. -/
def alert (raises : Bool) : Handler ((Bus Bool × Nat) × Tally) := fun (event, state) =>
  if raises then
    (.ok (), event, tallying.postCounting besideBus none (fun _ => smoke) tallying.handle
      (.last ⟨alarm, 0, none⟩, state))
  else smoke (event, state)

/-- A class without methods. -/
def idlers : SubscriberClass Unit Bool := ⟨"Idlers", [], []⟩

/-- A new bus with metrics. -/
def unheard : (Bus Bool × Nat) × Tally :=
  ((Bus.create {} false (some ⟨"relay", 0, 0, 0, 0⟩), 0), .zero)

/-- A listener for alarms and two for drills are added, and a type without methods is refused.
One of the listeners for drills is removed, and a drill is posted. -/
def afterDrill : (Bus Bool × Nat) × Tally :=
  let heard := (tallying.addListener alarm .normal true "" false unheard).2
  let early := (tallying.addListener drill .high true "" true heard).2
  let late := (tallying.addListener drill .low true "" true early).2
  let refused := (tallying.registerType (.type "Idlers") idlers late).2
  let removed := (tallying.unregister (.listener ⟨3⟩) refused).2
  tallying.postCounting besideBus none alert tallying.handle (.last ⟨drill, 0, some false⟩, removed)

theorem lawful_tallying : tallying.Lawful :=
  ⟨fun _ _ => rfl, fun _ _ => rfl, fun _ _ => rfl, fun _ _ => rfl, fun _ _ => rfl, fun _ _ => rfl⟩

theorem apart_besideBus : besideBus.Apart tallying :=
  ⟨fun _ _ => rfl, fun _ _ => rfl, fun _ _ => rfl, fun _ _ => rfl, fun _ _ => rfl, fun _ _ => rfl⟩

theorem counted_alert
    (raises : Bool)
    (event : Event)
    (state : (Bus Bool × Nat) × Tally) :
    tallying.Counted besideBus state (alert raises (event, state)).2.2 := by
  cases raises with
  | false => exact .refl state
  | true =>
      exact .post none (.last ⟨alarm, 0, none⟩, state) (fun _ state => .refl state)
        (fun _ _ state => .refl state) fun _ state => .refl state

theorem counted_afterDrill : tallying.Counted besideBus unheard afterDrill := by
  have checks (kind : Kind) (state : (Bus Bool × Nat) × Tally) :
      tallying.Counted besideBus state (tallying.checker kind state).2 := .refl state
  refine .trans ?_ (.post none _ checks counted_alert fun _ state => .refl state)
  refine .trans ?_ (.unregister _ _)
  refine .trans ?_ (.registerType _ _ _ checks)
  refine .trans ?_ (.addListener _ _ _ _ _ _ checks)
  exact .trans (.addListener _ _ _ _ _ _ checks) (.addListener _ _ _ _ _ _ checks)

/-- The body for drills is entered, and the one for alarms twice: in the dispatch of the alarm,
which fails within the first body, and in that of the drill, which fails as well. -/
theorem Counted.metrics_tell_truth_afterDrill :
    (Metrics.create? "relay" = some ⟨"relay", 0, 0, 0, 0⟩ ∧ besideBus.tally unheard = .zero) ∧
      (tallying.bus afterDrill).metrics? = some ⟨"relay", 2, 3, 2, 2⟩ ∧
      ((tallying.bus afterDrill).index.nodes.map Node.listenerCount).sum = 2 := by
  have zero : Metrics.create? "relay" = some ⟨"relay", 0, 0, 0, 0⟩ := by decide +kernel
  have tally : besideBus.tally afterDrill = ⟨2, 3, 2⟩ := by decide +kernel
  have two : (tallying.bus afterDrill).registeredListeners.length = 2 := by decide +kernel
  have truth := counted_afterDrill.metrics_tell_truth lawful_tallying apart_besideBus zero rfl rfl
  rw [tally, two] at truth
  exact ⟨⟨zero, rfl⟩, truth⟩

end Host
end EventRelay
