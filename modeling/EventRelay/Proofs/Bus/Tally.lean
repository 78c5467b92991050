import EventRelay.Proofs.Bus.Carried

/-!
# Tallies of what is done

A tally is kept beside a bus: it counts a body when it is entered and a dispatch when it ends.
The metrics of the bus are moved at other times, in the middle of a dispatch and by numbers that
were found out before. So while dispatches go on, also inside one another, metrics and tally
differ by what has been counted on one side only. Nothing else makes them differ.
-/

namespace EventRelay

variable {σ β : Type}

/-- What has been done on a bus. -/
structure Tally where
  /-- Posts that came to a dispatch which has ended. -/
  dispatches : Nat
  /-- Listener bodies that were entered. -/
  entered : Nat
  /-- Dispatches that ended in an error or a panic. -/
  failed : Nat
  deriving DecidableEq

namespace Tally

/-- Nothing has been done. -/
def zero : Tally := ⟨0, 0, 0⟩

/-- A body is entered. -/
def enter (tally : Tally) : Tally :=
  { tally with entered := tally.entered + 1 }

/-- A dispatch ends. -/
def close (tally : Tally) : Outcome BusError Unit → Tally
  | .ok () => { tally with dispatches := tally.dispatches + 1 }
  | .error _ => { tally with dispatches := tally.dispatches + 1, failed := tally.failed + 1 }

end Tally

/-- Where a tally is kept in a state. -/
structure Counter (σ : Type) where
  tally : σ → Tally
  /-- The state with another tally. -/
  withTally : Tally → σ → σ

namespace Counter

/-- The tally is read back as it was written, and neither it nor the bus changes when the other
is written. -/
structure Apart (counter : Counter σ) (host : Host σ β) : Prop where
  tally_withTally : ∀ tally state, counter.tally (counter.withTally tally state) = tally
  bus_withTally : ∀ tally state, host.bus (counter.withTally tally state) = host.bus state
  issued_withTally : ∀ tally state,
    host.issued (counter.withTally tally state) = host.issued state
  tally_withBus : ∀ bus state, counter.tally (host.withBus bus state) = counter.tally state
  tally_withIssued : ∀ count state,
    counter.tally (host.withIssued count state) = counter.tally state
  tally_note : ∀ notice state, counter.tally (host.note notice state) = counter.tally state

/-- Bodies that are counted when they are entered. -/
def entering (counter : Counter σ) (run : β → Handler σ) : β → Handler σ := fun body start =>
  run body (start.1, counter.withTally (counter.tally start.2).enter start.2)

/-- The state after a dispatch, which is counted now that it has ended. -/
def closed (counter : Counter σ) (ended : Outcome BusError Unit × Event × σ) : σ :=
  counter.withTally ((counter.tally ended.2.2).close ended.1) ended.2.2

end Counter

namespace Host

/-! ## What the metrics tell -/

/-- How far metrics and tally differ while dispatches go on. -/
structure Gap where
  /-- Dispatches that the metrics count although they have not ended. -/
  posts : Nat
  /-- Bodies that have been entered and that the metrics do not count yet. -/
  ran : Nat
  /-- Failures of dispatches that have not ended. -/
  failures : Nat

/-- The metrics tell what the tally says, but for a gap. -/
def Tells (host : Host σ β) (counter : Counter σ) (stem : String) (gap : Gap) (state : σ) : Prop :=
  ∃ metrics, (host.bus state).metrics? = some metrics ∧ metrics.stem = stem ∧
    metrics.posts = (counter.tally state).dispatches + gap.posts ∧
    metrics.invocations + gap.ran = (counter.tally state).entered ∧
    metrics.failures = (counter.tally state).failed + gap.failures

section Telling

variable {host : Host σ β} {counter : Counter σ} {stem : String} {gap : Gap} {state : σ}

theorem Tells.congr
    {after : σ}
    (tells : host.Tells counter stem gap state)
    (silent : (host.bus state).CountsNothing (host.bus after))
    (sameTally : counter.tally after = counter.tally state) :
    host.Tells counter stem gap after := by
  obtain ⟨metrics, shown, counts⟩ := tells
  obtain ⟨listeners, shownToo⟩ := silent metrics shown
  refine ⟨_, shownToo, ?_⟩
  rwa [sameTally]

theorem Tells.enter
    (tells : host.Tells counter stem gap state)
    (apart : counter.Apart host) :
    host.Tells counter stem { gap with ran := gap.ran + 1 }
      (counter.withTally (counter.tally state).enter state) := by
  obtain ⟨metrics, shown, sameStem, posts, invocations, failures⟩ := tells
  refine ⟨metrics, by rwa [apart.bus_withTally], sameStem, ?_⟩
  rw [apart.tally_withTally]
  exact ⟨posts, congrArg Nat.succ invocations, failures⟩

theorem Tells.recordPost
    {ran : Nat}
    (tells : host.Tells counter stem { gap with ran := gap.ran + ran } state)
    (lawful : host.Lawful)
    (apart : counter.Apart host) :
    host.Tells counter stem { gap with posts := gap.posts + 1 }
      (host.modify (fun bus => bus.recordPost ran) state) := by
  obtain ⟨metrics, shown, sameStem, posts, invocations, failures⟩ := tells
  refine ⟨metrics.recordPost ran, ?_, sameStem, ?_⟩
  · rw [lawful.bus_modify, Bus.recordPost, Bus.meter, shown]
    rfl
  · rw [modify, apart.tally_withBus]
    simp only [Metrics.recordPost] at posts invocations failures ⊢
    omega

theorem Tells.recordFailure
    (tells : host.Tells counter stem gap state)
    (lawful : host.Lawful)
    (apart : counter.Apart host) :
    host.Tells counter stem { gap with failures := gap.failures + 1 }
      (host.modify Bus.recordFailure state) := by
  obtain ⟨metrics, shown, sameStem, posts, invocations, failures⟩ := tells
  refine ⟨metrics.recordFailure, ?_, sameStem, ?_⟩
  · rw [lawful.bus_modify, Bus.recordFailure, Bus.meter, shown]
    rfl
  · rw [modify, apart.tally_withBus]
    exact ⟨posts, invocations, congrArg Nat.succ failures⟩

end Telling

/-! ## What is done in between -/

/-- From one state to the other the bus stays in order, and the metrics and the tally move by the
same numbers. -/
structure Balanced (host : Host σ β) (counter : Counter σ) (before after : σ) : Prop where
  evolves : Bus.Ledger (host.view before) → Bus.Evolves (host.view before) (host.view after)
  tells : ∀ {stem gap}, host.Tells counter stem gap before → host.Tells counter stem gap after

namespace Balanced

variable {host : Host σ β} {counter : Counter σ} {first middle last : σ}

theorem trans
    (earlier : host.Balanced counter first middle)
    (later : host.Balanced counter middle last) :
    host.Balanced counter first last where
  evolves ledger :=
    have onward := earlier.evolves ledger
    onward.trans (later.evolves onward.ledger)
  tells := fun before => later.tells (earlier.tells before)

/-- Something is done without the bus. -/
theorem aside
    (sameBus : host.bus last = host.bus first)
    (fewer : host.issued first ≤ host.issued last)
    (sameTally : counter.tally last = counter.tally first) :
    host.Balanced counter first last where
  evolves ledger := by
    rw [view, view, sameBus]
    exact ledger.issue fewer
  tells before := before.congr (fun metrics shown => ⟨metrics.listeners, by rw [sameBus, shown]⟩)
    sameTally

theorem refl (state : σ) : host.Balanced counter state state :=
  .aside rfl (Nat.le_refl _) rfl

theorem of_steps
    (steps : Relation.ReflTransGen (host.Balanced counter) first last) :
    host.Balanced counter first last := by
  induction steps with
  | refl => exact .refl first
  | tail _ step inductionHypothesis => exact inductionHypothesis.trans step

variable {state : σ}

theorem note
    (lawful : host.Lawful)
    (apart : counter.Apart host)
    (notice : Notice)
    (state : σ) :
    host.Balanced counter state (host.note notice state) :=
  .aside (lawful.bus_note ..) (Nat.le_of_eq (lawful.issued_note ..).symm) (apart.tally_note ..)

/-- The bus changes in order. -/
theorem withBus
    (lawful : host.Lawful)
    (apart : counter.Apart host)
    {bus : Bus β}
    (evolves : Bus.Ledger (host.view state) →
      Bus.Evolves (host.view state) (bus, host.issued state))
    (silent : (host.bus state).CountsNothing bus) :
    host.Balanced counter state (host.withBus bus state) where
  evolves := by rwa [lawful.view_withBus]
  tells before := by
    refine before.congr ?_ (apart.tally_withBus bus state)
    rwa [lawful.bus_withBus]

end Balanced

/-! ## Registrations -/

section Registering

variable {host : Host σ β} {counter : Counter σ} {first last : σ}
  (lawful : host.Lawful) (apart : counter.Apart host)
include lawful apart

theorem readies_balanced :
    host.Readies (fun _ => True) (host.Balanced counter) where
  note := .note lawful apart
  issue state := by
    refine .aside (lawful.bus_withIssued _ state) ?_ (apart.tally_withIssued _ state)
    change host.issued state ≤ host.issued (host.withIssued (host.issued state + 1) state)
    rw [lawful.issued_withIssued]
    exact Nat.le_succ _
  grow state _ made := by
    refine .withBus lawful apart (fun ledger => ledger.nodeFor made) fun metrics shown => ?_
    obtain ⟨index, -, rfl⟩ := Bus.nodeFor_eq_ok made
    exact ⟨metrics.listeners, shown⟩

/-- Listeners that have been made ready are registered. -/
theorem Balanced.commit
    {pending : Pending β}
    (madeAll : host.MadeAll (host.Balanced counter) first pending last)
    (key : Key) :
    host.Balanced counter first (host.modify (fun bus => bus.commit key pending) last) where
  evolves ledger := by
    rw [lawful.view_modify]
    refine (madeAll.batch (fun steps => (Balanced.of_steps steps).evolves) (fun _ => rfl)
      (fun _ => rfl) (fun state => ?_) ledger).commit key
    exact lawful.view_withIssued _ state
  tells before := by
    have balanced := Balanced.of_steps (madeAll.steps (readies_balanced lawful apart).issue)
    refine (balanced.tells before).congr ?_ (apart.tally_withBus _ last)
    rw [lawful.bus_modify]
    exact (host.bus last).countsNothing_commit key pending

/-- Operations on the bus keep it in order, and they count nothing but their dispatches. -/
theorem carries_balanced :
    host.Carries (host.Balanced counter) where
  unchanged := .refl
  composed := .trans
  readies := readies_balanced lawful apart
  refresh id _ := .withBus lawful apart (fun ledger => ledger.refresh id) fun metrics shown =>
    ⟨metrics.listeners, shown⟩
  unregister key state := .withBus lawful apart (fun ledger => ledger.unregister key)
    ((host.bus state).countsNothing_unregister key)
  start _ := .withBus lawful apart (fun ledger => ledger.start) fun metrics shown =>
    ⟨metrics.listeners, shown⟩
  commit key madeAll := .commit lawful apart madeAll key

end Registering

end Host
end EventRelay
