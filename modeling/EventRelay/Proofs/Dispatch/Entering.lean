import EventRelay.Proofs.Dispatch.FailFast

/-!
# Listeners that are entered

A listener of an array is entered if those before it have had their turns without a failure and
it is not passed over. What it is entered with is what they have left.

The bodies that run in a dispatch are those of the listeners that are entered, in the same
order. So what is shown of every listener that is entered is shown of all that a post runs.
-/

namespace EventRelay
namespace Host

variable {σ β : Type}

/-- A listener is run by a dispatch, after those before it have had their turns. -/
structure Enters (run : β → Handler σ) (listeners : List (Listener β)) (start : Event × σ)
    (entry : Listener β) (entered : Event × σ) : Prop where
  called : entry.checksCancellation = false ∨ entered.1.isCanceled = false
  turns : ∃ before after bodies,
    listeners = before ++ entry :: after ∧ Turns run before start bodies entered

/-! ## One listener after the other -/

variable {run : β → Handler σ} {listener entry : Listener β} {listeners rest : List (Listener β)}
  {bodies : List β} {stop : Stop ListenerError} {start changed entered last left : Event × σ}

/-- The first listener of an array is entered at the start, if it runs, and others are entered
after its turn. -/
theorem enters_cons :
    Enters run (listener :: rest) start entry entered ↔
      (entry = listener ∧ entered = start ∧
        (listener.checksCancellation = false ∨ start.1.isCanceled = false)) ∨
      ∃ bodies changed, Turns run [listener] start bodies changed ∧
        Enters run rest changed entry entered := by
  constructor
  · rintro ⟨called, before, after, bodies, split, turns⟩
    cases before with
    | nil =>
        cases split
        cases turns
        exact .inl ⟨rfl, rfl, called⟩
    | cons first before =>
        cases split
        cases turns with
        | runs isCalled ended turns =>
            exact .inr ⟨_, _, .runs isCalled ended (.done _), called, before, after, _, rfl, turns⟩
        | passes checks canceled turns =>
            exact .inr ⟨_, _, .passes checks canceled (.done _), called, before, after, _, rfl,
              turns⟩
  · rintro (⟨rfl, rfl, called⟩ | ⟨_, _, first, called, before, after, bodies, rfl, turns⟩)
    · exact ⟨called, [], rest, [], rfl, .done _⟩
    · refine ⟨called, listener :: before, after, ?_⟩
      cases first with
      | runs isCalled ended nothing =>
          cases nothing
          exact ⟨_, rfl, .runs isCalled ended turns⟩
      | passes checks canceled nothing =>
          cases nothing
          exact ⟨_, rfl, .passes checks canceled turns⟩

theorem enters_cons_of_called
    (called : listener.checksCancellation = false ∨ start.1.isCanceled = false)
    (ended : run listener.body start = (.ok (), changed)) :
    Enters run (listener :: rest) start entry entered ↔
      (entry = listener ∧ entered = start) ∨ Enters run rest changed entry entered := by
  rw [enters_cons]
  constructor
  · rintro (⟨isFirst, atStart, -⟩ | ⟨_, _, first, enters⟩)
    · exact .inl ⟨isFirst, atStart⟩
    · cases first with
      | runs _ endedToo nothing =>
          cases nothing
          cases ended.symm.trans endedToo
          exact .inr enters
      | passes checks canceled _ => simp [checks, canceled] at called
  · rintro (⟨isFirst, atStart⟩ | enters)
    · exact .inl ⟨isFirst, atStart, called⟩
    · exact .inr ⟨_, changed, .runs called ended (.done _), enters⟩

/-- Nobody is entered after a failure. -/
theorem enters_cons_of_failed
    (called : listener.checksCancellation = false ∨ start.1.isCanceled = false)
    (ended : run listener.body start = (.error stop, left)) :
    Enters run (listener :: rest) start entry entered ↔ entry = listener ∧ entered = start := by
  rw [enters_cons]
  constructor
  · rintro (⟨isFirst, atStart, -⟩ | ⟨_, _, first, -⟩)
    · exact ⟨isFirst, atStart⟩
    · cases first with
      | runs _ endedToo _ => cases ended.symm.trans endedToo
      | passes checks canceled _ => simp [checks, canceled] at called
  · exact fun ⟨isFirst, atStart⟩ => .inl ⟨isFirst, atStart, called⟩

theorem enters_cons_of_passed
    (checks : listener.checksCancellation = true)
    (canceled : start.1.isCanceled = true) :
    Enters run (listener :: rest) start entry entered ↔ Enters run rest start entry entered := by
  rw [enters_cons]
  constructor
  · rintro (⟨-, -, called⟩ | ⟨_, _, first, enters⟩)
    · simp [checks, canceled] at called
    · cases first with
      | runs called _ _ => simp [checks, canceled] at called
      | passes _ _ nothing =>
          cases nothing
          exact enters
  · exact fun enters => .inr ⟨[], start, .passes checks canceled (.done _), enters⟩

/-! ## Whole dispatches -/

/-- The listeners that are entered, with what they are entered with, and the bodies that run. -/
structure EntersAll (run : β → Handler σ) (listeners : List (Listener β)) (start : Event × σ)
    (turns : List (Listener β × Event × σ)) (bodies : List β) : Prop where
  mem_iff : ∀ entry entered,
    (entry, entered) ∈ turns ↔ Enters run listeners start entry entered
  bodies_eq : turns.map (fun turn => turn.1.body) = bodies

/-- Turns come before what is entered after them. -/
theorem Turns.exists_entersAll
    (turns : Turns run listeners start bodies last)
    {later : List (Listener β × Event × σ)}
    {others : List β}
    (goesOn : EntersAll run rest last later others) :
    ∃ all, EntersAll run (listeners ++ rest) start all (bodies ++ others) := by
  induction turns with
  | done state => exact ⟨later, goesOn⟩
  | @runs listener _ _ state _ _ called ended _ inductionHypothesis =>
      obtain ⟨all, isAll, same⟩ := inductionHypothesis goesOn
      refine ⟨(listener, state) :: all, fun entry entered => ?_, congrArg _ same⟩
      rw [List.cons_append, enters_cons_of_called called ended, List.mem_cons, Prod.mk.injEq, isAll]
  | passes checks canceled _ inductionHypothesis =>
      obtain ⟨all, isAll, same⟩ := inductionHypothesis goesOn
      refine ⟨all, fun entry entered => ?_, same⟩
      rw [List.cons_append, enters_cons_of_passed checks canceled, isAll]

theorem entersAll_nil (start : Event × σ) : EntersAll run [] start [] [] := by
  refine ⟨fun entry entered => ⟨nofun, ?_⟩, rfl⟩
  rintro ⟨-, before, after, _, split, -⟩
  cases before <;> cases split

/-- How a post ends that has come to its dispatch, depending on the handler: all listeners have
their turns, or one of them is the first to fail. The bodies that run are those of the listeners
that are entered. -/
inductive Unfolds (host : Host σ β) (listeners : List (Listener β)) (start : Event × σ)
    (posted : (Incident β → Action σ Empty Unit) → Outcome BusError Unit × Event × σ) : Prop
  | done {turns : List (Listener β × Event × σ)} {bodies : List β} {last : Event × σ} :
      Turns host.run listeners start bodies last →
      EntersAll host.run listeners start turns bodies →
      (∀ handle, posted handle =
        (.ok (), last.1, host.modify (fun bus => bus.recordPost bodies.length) last.2)) →
      Unfolds host listeners start posted
  | failed {turns : List (Listener β × Event × σ)} {before : List (Listener β)}
      {entry : Listener β} {bodies : List β} {stop : Stop ListenerError} {left : Event × σ} :
      Fails host.run listeners start before entry bodies stop left →
      EntersAll host.run listeners start turns (bodies ++ [entry.body]) →
      (∀ handle, posted handle =
        afterTelling before.length entry stop left.1
          (handle ⟨left.1, listeners, before.length, stop.listenerError⟩
            (host.modify Bus.recordFailure
              (host.modify (fun bus => bus.recordPost (bodies.length + 1)) left.2)))) →
      Unfolds host listeners start posted

theorem unfolds_dispatch
    (host : Host σ β)
    (listeners : List (Listener β))
    (start : Event × σ) :
    host.Unfolds listeners start fun handle =>
      (host.withCode host.run handle).dispatch listeners start := by
  rcases turns_or_fails host.run listeners start with
    ⟨bodies, last, turns⟩ | ⟨before, entry, bodies, stop, left, fails⟩
  · obtain ⟨all, entersAll⟩ := turns.exists_entersAll (entersAll_nil last)
    rw [List.append_nil, List.append_nil] at entersAll
    refine .done turns entersAll fun handle => ?_
    have turnsToo : Turns (host.withCode host.run handle).run listeners start bodies last := turns
    exact turnsToo.dispatch_eq
  · obtain ⟨after, split⟩ := fails.split
    obtain ⟨reached, turns, called, ended⟩ := fails.turn
    have failing : EntersAll host.run (entry :: after) reached [(entry, reached)] [entry.body] := by
      refine ⟨fun other entered => ?_, rfl⟩
      rw [enters_cons_of_failed called ended, List.mem_singleton, Prod.mk.injEq]
    obtain ⟨all, entersAll⟩ := turns.exists_entersAll failing
    rw [← split] at entersAll
    refine .failed fails entersAll fun handle => ?_
    have failsToo : Fails (host.withCode host.run handle).run listeners start before entry bodies
        stop left := fails
    exact failsToo.dispatch_eq

end Host
end EventRelay
