import EventRelay.Proofs.Bus.Reached
import EventRelay.Proofs.Hierarchy.SoundChain

/-!
# Fail-fast dispatch

A dispatch gives each listener of its array one turn, in order. In its turn a listener runs
unless it checks for cancellation and the event is canceled by then; a listener that is
passed over changes nothing. The first failure ends the dispatch, and it is the only one that
the handler is told of.

The array is read before the first turn, so what the bodies do to the bus does not change
which listeners have a turn.
-/

namespace EventRelay
namespace Host

variable {σ β : Type}

/-- Listeners have their turns one after the other and none of them fails. The bodies that
run are recorded in order, and the event stands beside the state as ever. -/
inductive Turns (run : β → Handler σ) :
    List (Listener β) → Event × σ → List β → Event × σ → Prop
  | done (state : Event × σ) : Turns run [] state [] state
  | runs {listener : Listener β} {rest : List (Listener β)} {bodies : List β}
      {state changed last : Event × σ} :
      listener.checksCancellation = false ∨ state.1.isCanceled = false →
      run listener.body state = (.ok (), changed) →
      Turns run rest changed bodies last →
      Turns run (listener :: rest) state (listener.body :: bodies) last
  | passes {listener : Listener β} {rest : List (Listener β)} {bodies : List β}
      {state last : Event × σ} :
      listener.checksCancellation = true → state.1.isCanceled = true →
      Turns run rest state bodies last →
      Turns run (listener :: rest) state bodies last

/-- What every body does is an instance of a relation that can be composed. Then so is what
turns do. -/
theorem Turns.related
    {run : β → Handler σ}
    {listeners : List (Listener β)}
    {bodies : List β}
    {start last : Event × σ}
    (turns : Turns run listeners start bodies last)
    (relation : Event × σ → Event × σ → Prop)
    (unchanged : ∀ state, relation state state)
    (composed : ∀ {first middle last}, relation first middle → relation middle last →
      relation first last)
    (each : ∀ body state, relation state (run body state).2) :
    relation start last := by
  induction turns with
  | done state => exact unchanged state
  | @runs listener _ _ state changed _ _ ended _ inductionHypothesis =>
      have first := each listener.body state
      rw [ended] at first
      exact composed first inductionHypothesis
  | passes _ _ _ inductionHypothesis => exact inductionHypothesis

/-- After some turns without failure a listener runs and fails. -/
structure Fails (run : β → Handler σ) (listeners : List (Listener β)) (start : Event × σ)
    (before : List (Listener β)) (entry : Listener β) (bodies : List β)
    (stop : Stop ListenerError) (left : Event × σ) : Prop where
  /-- The failing listener stands behind those that had their turns. -/
  split : ∃ after, listeners = before ++ entry :: after
  /-- They leave the event so that it runs, and it fails. -/
  turn : ∃ reached, Turns run before start bodies reached ∧
    (entry.checksCancellation = false ∨ reached.1.isCanceled = false) ∧
    run entry.body reached = (.error stop, left)

namespace Fails

variable {run : β → Handler σ} {listener entry : Listener β} {rest before : List (Listener β)}
  {bodies : List β} {stop : Stop ListenerError} {start changed left : Event × σ}

theorem runs
    (called : listener.checksCancellation = false ∨ start.1.isCanceled = false)
    (ended : run listener.body start = (.ok (), changed))
    (fails : Fails run rest changed before entry bodies stop left) :
    Fails run (listener :: rest) start (listener :: before) entry (listener.body :: bodies) stop
      left := by
  obtain ⟨⟨after, split⟩, reached, turns, turn⟩ := fails
  exact ⟨⟨after, by rw [split, List.cons_append]⟩, reached, .runs called ended turns, turn⟩

theorem passes
    (checks : listener.checksCancellation = true)
    (canceled : start.1.isCanceled = true)
    (fails : Fails run rest start before entry bodies stop left) :
    Fails run (listener :: rest) start (listener :: before) entry bodies stop left := by
  obtain ⟨⟨after, split⟩, reached, turns, turn⟩ := fails
  exact ⟨⟨after, by rw [split, List.cons_append]⟩, reached, .passes checks canceled turns, turn⟩

end Fails

/-- The turns of some listeners either all go well, or one of them is the first to fail. -/
theorem turns_or_fails
    (run : β → Handler σ)
    (listeners : List (Listener β))
    (start : Event × σ) :
    (∃ bodies last, Turns run listeners start bodies last) ∨
      ∃ before entry bodies stop left, Fails run listeners start before entry bodies stop left := by
  induction listeners generalizing start with
  | nil => exact .inl ⟨[], start, .done start⟩
  | cons listener rest inductionHypothesis =>
      by_cases called : listener.checksCancellation = false ∨ start.1.isCanceled = false
      · cases ended : run listener.body start with
        | mk outcome changed =>
            cases outcome with
            | error stop =>
                exact .inr ⟨[], listener, [], stop, changed,
                  ⟨rest, rfl⟩, start, .done start, called, ended⟩
            | ok =>
                rcases inductionHypothesis changed with
                  ⟨bodies, last, turns⟩ | ⟨before, entry, bodies, stop, left, fails⟩
                · exact .inl ⟨_, last, .runs called ended turns⟩
                · exact .inr ⟨_, entry, _, stop, left, fails.runs called ended⟩
      · rw [not_or, Bool.not_eq_false, Bool.not_eq_false] at called
        rcases inductionHypothesis start with
          ⟨bodies, last, turns⟩ | ⟨before, entry, bodies, stop, left, fails⟩
        · exact .inl ⟨_, last, .passes called.1 called.2 turns⟩
        · exact .inr ⟨_, entry, _, stop, left, fails.passes called.1 called.2⟩

/-! ## Runs and dispatches are sequences of turns -/

section Running

variable {host : Host σ β} {listener entry : Listener β} {listeners before : List (Listener β)}
  {bodies : List β} {stop : Stop ListenerError} {start changed last left : Event × σ}

theorem runInOrder_cons_of_called
    (called : listener.checksCancellation = false ∨ start.1.isCanceled = false)
    (ended : host.run listener.body start = (.ok (), changed))
    (rest : List (Listener β))
    (index ran : Nat) :
    host.runInOrder (listener :: rest) index ran start =
      host.runInOrder rest (index + 1) (ran + 1) changed := by
  have isCalled : listener.runsFor start.1 = true := by
    rw [Listener.runsFor, Bool.not_eq_true', Bool.and_eq_false_iff]
    exact called
  simp only [runInOrder_cons, isCalled, if_true, ended]

theorem runInOrder_cons_of_failed
    (called : listener.checksCancellation = false ∨ start.1.isCanceled = false)
    (ended : host.run listener.body start = (.error stop, left))
    (rest : List (Listener β))
    (index ran : Nat) :
    host.runInOrder (listener :: rest) index ran start =
      (⟨ran + 1, some (index, listener, stop)⟩, left) := by
  have isCalled : listener.runsFor start.1 = true := by
    rw [Listener.runsFor, Bool.not_eq_true', Bool.and_eq_false_iff]
    exact called
  simp only [runInOrder_cons, isCalled, if_true, ended]

theorem runInOrder_cons_of_passed
    (checks : listener.checksCancellation = true)
    (canceled : start.1.isCanceled = true)
    (rest : List (Listener β))
    (index ran : Nat) :
    host.runInOrder (listener :: rest) index ran start =
      host.runInOrder rest (index + 1) ran start := by
  simp [runInOrder_cons, Listener.runsFor, checks, canceled]

/-- A run goes on behind the turns of the listeners that come first. -/
theorem Turns.runInOrder_append
    (turns : Turns host.run before start bodies last)
    (rest : List (Listener β))
    (index ran : Nat) :
    host.runInOrder (before ++ rest) index ran start =
      host.runInOrder rest (index + before.length) (ran + bodies.length) last := by
  induction turns generalizing index ran with
  | done state => rfl
  | runs called ended _ inductionHypothesis =>
      rw [List.cons_append, runInOrder_cons_of_called called ended, inductionHypothesis,
        List.length_cons, List.length_cons]
      congr 1 <;> omega
  | passes checks canceled _ inductionHypothesis =>
      rw [List.cons_append, runInOrder_cons_of_passed checks canceled, inductionHypothesis,
        List.length_cons]
      congr 1
      omega

theorem Turns.dispatch_eq
    (turns : Turns host.run listeners start bodies last) :
    host.dispatch listeners start =
      (.ok (), last.1, host.modify (fun bus => bus.recordPost bodies.length) last.2) := by
  have done := turns.runInOrder_append [] 0 0
  rw [List.append_nil, Nat.zero_add, Nat.zero_add] at done
  exact dispatch_of_done done

/-- The handler is told once, of the first failure. -/
theorem Fails.dispatch_eq
    (fails : Fails host.run listeners start before entry bodies stop left) :
    host.dispatch listeners start =
      afterTelling before.length entry stop left.1
        (host.handle ⟨left.1, listeners, before.length, stop.listenerError⟩
          (host.modify Bus.recordFailure
            (host.modify (fun bus => bus.recordPost (bodies.length + 1)) left.2))) := by
  obtain ⟨⟨after, rfl⟩, reached, turns, called, ended⟩ := fails
  have failed := turns.runInOrder_append (entry :: after) 0 0
  rw [runInOrder_cons_of_failed called ended, Nat.zero_add, Nat.zero_add] at failed
  exact dispatch_of_failed failed

end Running

/-! ## Posts that are not refused -/

theorem exists_nodeFor
    (host : Host σ β)
    {kind : Kind}
    (sound : kind.SoundChain)
    (state : σ) :
    ∃ id made, host.nodeFor kind state = (.ok id, made) := by
  obtain ⟨index, id, found⟩ := (host.bus state).index.exists_nodeFor sound
  unfold nodeFor Bus.nodeFor
  rw [found]
  exact ⟨id, _, rfl⟩

open Index.Reachable (drill)

/-- Some bodies cancel the event, the others fail. -/
def callOff (cancels : Bool) : Handler (Bus Bool × Nat) := fun (event, state) =>
  if cancels then (.ok (), (event.setFlag? true).getD event, state)
  else (.error (.raised (.customText "too late")), event, state)

/-- Position of the failing listener that a post names. -/
def failedAt? : Outcome BusError Unit → Option Nat
  | .error (.raised (.listenerFailed index _ _)) => some index
  | _ => none

end Host
end EventRelay
