import EventRelay.Proofs.Dispatch.FailFast
import EventRelay.Proofs.Dispatch.Recording
import Mathlib.Logic.Relation

/-!
# Bodies that only change events

A body that only changes events does to an event the same thing whenever it runs, whatever has
happened to the state in between: other bodies may have run, the checker may have been asked,
and the bus may have kept its books. So the turns of such listeners can be moved to another
state, and they can be taken apart and be put together in other portions.
-/

namespace EventRelay
namespace Host

variable {σ β : Type}

/-- The changes of a state around the bodies. -/
inductive Upkeep (host : Host σ β) : σ → σ → Prop
  /-- The node of a kind is found or made. -/
  | grow {kind : Kind} {bus : Bus β} {id : Nat} (state : σ) :
      (host.bus state).nodeFor kind = .ok (bus, id) → Upkeep host state (host.withBus bus state)
  | refresh (id : Nat) (state : σ) :
      Upkeep host state (host.modify (fun bus => bus.refresh id) state)
  | recordPost (ran : Nat) (state : σ) :
      Upkeep host state (host.modify (fun bus => bus.recordPost ran) state)
  | note (notice : Notice) (state : σ) : Upkeep host state (host.note notice state)
  /-- The checker is asked. -/
  | check (kind : Kind) (state : σ) : Upkeep host state (host.checker kind state).2

/-- Either such a change, or what a body does to the state. -/
inductive Drift (host : Host σ β) : σ → σ → Prop
  | upkeep {before after : σ} : Upkeep host before after → Drift host before after
  | run (body : β) (event : Event) (state : σ) :
      Drift host state (host.run body (event, state)).2.2

/-- Several changes around the bodies. -/
abbrev Upkeeps (host : Host σ β) : σ → σ → Prop := Relation.ReflTransGen host.Upkeep

/-- What may become of a state while events are posted. -/
abbrev Drifts (host : Host σ β) : σ → σ → Prop := Relation.ReflTransGen host.Drift

/-- From a state on, each body has one fixed effect on an event, which keeps its kind, and none
on the bus. It may end well, fail or panic. -/
def ChangesOnlyEvents (host : Host σ β) (start : σ) : Prop :=
  ∀ body event, ∃ outcome changed, changed.kind = event.kind ∧
    ∀ state, host.Drifts start state → ∃ after,
      host.run body (event, state) = (outcome, changed, after) ∧ host.bus after = host.bus state

/-- From a state on, the checker has one fixed answer about a kind and does not use the bus. -/
def Decides (host : Host σ β) (kind : Kind) (start : σ) : Prop :=
  ∃ verdict, ∀ state, host.Drifts start state → ∃ after,
    host.checker kind state = (verdict, after) ∧ host.bus after = host.bus state

variable {host : Host σ β} {record : σ → List β}

theorem Upkeeps.drifts
    {before after : σ}
    (upkeeps : host.Upkeeps before after) :
    host.Drifts before after := by
  induction upkeeps with
  | refl => exact .refl
  | tail _ upkeep inductionHypothesis => exact inductionHypothesis.tail (.upkeep upkeep)

/-- Nothing is recorded around the bodies. -/
theorem Records.upkeeps
    (records : host.Records record)
    {before after : σ}
    (upkeeps : host.Upkeeps before after) :
    record after = record before := by
  induction upkeeps with
  | refl => rfl
  | tail _ upkeep inductionHypothesis =>
      rw [← inductionHypothesis]
      cases upkeep with
      | grow => exact records.withBus ..
      | refresh => exact records.withBus ..
      | recordPost => exact records.withBus ..
      | note => exact records.note ..
      | check => exact records.checker ..

theorem upkeeps_noteAll
    (host : Host σ β)
    (notices : List Notice)
    (state : σ) :
    host.Upkeeps state (host.noteAll notices state) := by
  induction notices generalizing state with
  | nil => exact .refl
  | cons notice rest inductionHypothesis =>
      exact .head (.note notice state) (inductionHypothesis (host.note notice state))

theorem upkeeps_refresh
    (host : Host σ β)
    (id : Nat)
    (state : σ) :
    host.Upkeeps state (host.refresh id state) :=
  .head (.refresh id state) (upkeeps_noteAll ..)

theorem upkeeps_nodeFor
    (host : Host σ β)
    (kind : Kind)
    (state : σ) :
    host.Upkeeps state (host.nodeFor kind state).2 := by
  unfold nodeFor
  split
  case h_1 => exact .refl
  case h_2 made => exact .head (.grow state made) (upkeeps_noteAll ..)

/-! ## Moving turns to another state -/

section Moving

variable {listeners : List (Listener β)} {bodies : List β} {event : Event}
  {start before other : σ} {last left : Event × σ}

theorem Turns.drifts
    (changes : host.ChangesOnlyEvents start)
    (turns : Turns host.run listeners (event, before) bodies last)
    (drifts : host.Drifts start before) :
    host.Drifts start last.2 ∧ host.bus last.2 = host.bus before ∧ last.1.kind = event.kind := by
  generalize begins : (event, before) = first at turns
  induction turns generalizing event before with
  | done state =>
      cases begins
      exact ⟨drifts, rfl, rfl⟩
  | @runs listener rest bodies state next last called ended turns inductionHypothesis =>
      cases begins
      obtain ⟨outcome, changed, sameKind, does⟩ := changes listener.body event
      obtain ⟨after, done, sameBus⟩ := does before drifts
      have drift : host.Drift before (host.run listener.body (event, before)).2.2 := .run ..
      rw [done] at ended drift
      cases ended
      obtain ⟨driftsOn, sameBusOn, sameKindOn⟩ := inductionHypothesis (drifts.tail drift) rfl
      exact ⟨driftsOn, sameBusOn.trans sameBus, sameKindOn.trans sameKind⟩
  | passes _ _ _ inductionHypothesis =>
      exact inductionHypothesis drifts begins

/-- From another state the same turns lead to the same event. -/
theorem Turns.moved
    (changes : host.ChangesOnlyEvents start)
    (turns : Turns host.run listeners (event, before) bodies last)
    (drifts : host.Drifts start before)
    (driftsToo : host.Drifts start other) :
    ∃ after, Turns host.run listeners (event, other) bodies (last.1, after) := by
  generalize begins : (event, before) = first at turns
  induction turns generalizing event before other with
  | done state =>
      cases begins
      exact ⟨other, .done _⟩
  | @runs listener rest bodies state next last called ended turns inductionHypothesis =>
      cases begins
      obtain ⟨outcome, changed, -, does⟩ := changes listener.body event
      obtain ⟨after, done, -⟩ := does before drifts
      obtain ⟨afterToo, doneToo, -⟩ := does other driftsToo
      have drift : host.Drift before (host.run listener.body (event, before)).2.2 := .run ..
      have driftToo : host.Drift other (host.run listener.body (event, other)).2.2 := .run ..
      rw [done] at ended drift
      rw [doneToo] at driftToo
      cases ended
      obtain ⟨final, turnsToo⟩ :=
        inductionHypothesis (drifts.tail drift) (driftsToo.tail driftToo) rfl
      exact ⟨final, .runs called doneToo turnsToo⟩
  | passes checks canceled _ inductionHypothesis =>
      cases begins
      obtain ⟨final, turnsToo⟩ := inductionHypothesis drifts driftsToo rfl
      exact ⟨final, .passes checks canceled turnsToo⟩

theorem Fails.moved
    {earlier : List (Listener β)}
    {entry : Listener β}
    {stop : Stop ListenerError}
    (changes : host.ChangesOnlyEvents start)
    (fails : Fails host.run listeners (event, before) earlier entry bodies stop left)
    (drifts : host.Drifts start before)
    (driftsToo : host.Drifts start other) :
    ∃ after, Fails host.run listeners (event, other) earlier entry bodies stop
      (left.1, after) := by
  obtain ⟨split, reached, turns, called, ended⟩ := fails
  obtain ⟨driftsOn, -, -⟩ := turns.drifts changes drifts
  obtain ⟨reachedToo, turnsToo⟩ := turns.moved changes drifts driftsToo
  obtain ⟨driftsOnToo, -, -⟩ := turnsToo.drifts changes driftsToo
  obtain ⟨outcome, changed, -, does⟩ := changes entry.body reached.1
  obtain ⟨after, done, -⟩ := does reached.2 driftsOn
  obtain ⟨afterToo, doneToo, -⟩ := does reachedToo driftsOnToo
  rw [done] at ended
  cases ended
  exact ⟨afterToo, split, _, turnsToo, called, doneToo⟩

end Moving

/-! ## Taking turns apart -/

section Splitting

variable {run : β → Handler σ} {first second : List (Listener β)} {bodies : List β}
  {start last left : Event × σ}

theorem Turns.split
    (turns : Turns run (first ++ second) start bodies last) :
    ∃ bodies1 middle bodies2, Turns run first start bodies1 middle ∧
      Turns run second middle bodies2 last ∧ bodies = bodies1 ++ bodies2 := by
  induction first generalizing start bodies with
  | nil => exact ⟨[], start, bodies, .done start, turns, rfl⟩
  | cons listener first inductionHypothesis =>
      cases turns with
      | runs called ended turns =>
          obtain ⟨bodies1, middle, bodies2, before, after, rfl⟩ := inductionHypothesis turns
          exact ⟨_, middle, bodies2, .runs called ended before, after, rfl⟩
      | passes checks canceled turns =>
          obtain ⟨bodies1, middle, bodies2, before, after, rfl⟩ := inductionHypothesis turns
          exact ⟨bodies1, middle, bodies2, .passes checks canceled before, after, rfl⟩

/-- What fails, fails in the first portion, or in the second after the turns of the first. -/
theorem Fails.split_append
    {earlier : List (Listener β)}
    {entry : Listener β}
    {stop : Stop ListenerError}
    (fails : Fails run (first ++ second) start earlier entry bodies stop left) :
    Fails run first start earlier entry bodies stop left ∨
      ∃ bodies1 middle earlier2 bodies2, Turns run first start bodies1 middle ∧
        Fails run second middle earlier2 entry bodies2 stop left ∧
        bodies = bodies1 ++ bodies2 := by
  obtain ⟨⟨after, parts⟩, reached, turns, turn⟩ := fails
  obtain ⟨between, isEarlier, isSecond⟩ | ⟨between, isFirst, isRest⟩ :=
    List.append_eq_append_iff.mp parts
  · subst isEarlier
    obtain ⟨bodies1, middle, bodies2, before, later, rfl⟩ := turns.split
    exact .inr ⟨bodies1, middle, between, bodies2, before,
      ⟨⟨after, isSecond⟩, reached, later, turn⟩, rfl⟩
  · cases between with
    | nil =>
        rw [List.append_nil] at isFirst
        rw [← isFirst] at turns
        exact .inr ⟨bodies, reached, [], [], turns,
          ⟨⟨after, isRest.symm⟩, reached, .done reached, turn⟩, (List.append_nil _).symm⟩
    | cons next between =>
        obtain ⟨rfl, -⟩ := List.cons.inj isRest
        exact .inl ⟨⟨between, isFirst⟩, reached, turns, turn⟩

end Splitting

/-! ## What turns record -/

theorem Turns.record_eq
    {listeners : List (Listener β)}
    {start last : Event × σ}
    {bodies : List β}
    (turns : Turns host.run listeners start bodies last)
    (records : host.Records record) :
    record last.2 = record start.2 ++ bodies := by
  induction turns with
  | done state => exact (List.append_nil _).symm
  | @runs listener rest bodies state changed last _ ended _ inductionHypothesis =>
      have recorded := records.run listener.body state
      rw [ended] at recorded
      rw [inductionHypothesis, recorded, List.append_assoc, List.singleton_append]
  | passes _ _ _ inductionHypothesis => exact inductionHypothesis

/-- The failing body has run as well. -/
theorem Fails.record_eq
    {listeners earlier : List (Listener β)}
    {entry : Listener β}
    {start left : Event × σ}
    {bodies : List β}
    {stop : Stop ListenerError}
    (fails : Fails host.run listeners start earlier entry bodies stop left)
    (records : host.Records record) :
    record left.2 = record start.2 ++ (bodies ++ [entry.body]) := by
  obtain ⟨-, reached, turns, -, ended⟩ := fails
  have recorded := records.run entry.body reached
  rw [ended] at recorded
  rw [recorded, turns.record_eq records, List.append_assoc]

end Host
end EventRelay
