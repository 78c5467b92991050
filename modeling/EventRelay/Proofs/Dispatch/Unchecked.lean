import EventRelay.Proofs.Declaration.DerivedEvents
import EventRelay.Proofs.Dispatch.FailFast
import EventRelay.Proofs.Dispatch.Order

/-!
# Dropping the check for cancellation

A kind whose events cannot be canceled is given all listeners in the form that does not check
for cancellation. For derived events this cannot be observed: such an event has no canceled
state, bodies cannot give it one, and so every check that was dropped would have passed.
-/

namespace EventRelay
namespace Host

variable {σ β : Type}

/-! ## Turns of unchecked listeners -/

section Unchecked

variable {run : β → Handler σ} {steady : Event → Prop} {listeners before : List (Listener β)}
  {entry : Listener β} {bodies : List β} {stop : Stop ListenerError}
  {start last left : Event × σ}

/-- While the event is never canceled, unchecked listeners have the same turns. -/
theorem Turns.unchecked
    (turns : Turns run listeners start bodies last)
    (keeps : ∀ body state, steady state.1 → steady (run body state).2.1)
    (never : ∀ event, steady event → event.isCanceled = false)
    (isSuch : steady start.1) :
    Turns run (listeners.map Listener.unchecked) start bodies last := by
  induction turns with
  | done state => exact .done state
  | @runs listener _ _ state changed _ _ ended _ inductionHypothesis =>
      have kept := keeps listener.body state isSuch
      rw [ended] at kept
      have sameBody : run listener.unchecked.body state = _ := ended
      exact .runs (.inl rfl) sameBody (inductionHypothesis kept)
  | passes _ canceled _ _ =>
      rw [never _ isSuch] at canceled
      cases canceled

theorem Fails.unchecked
    (fails : Fails run listeners start before entry bodies stop left)
    (keeps : ∀ body state, steady state.1 → steady (run body state).2.1)
    (never : ∀ event, steady event → event.isCanceled = false)
    (isSuch : steady start.1) :
    Fails run (listeners.map Listener.unchecked) start (before.map Listener.unchecked)
      entry.unchecked bodies stop left := by
  obtain ⟨⟨after, rfl⟩, reached, turns, -, ended⟩ := fails
  exact ⟨⟨after.map Listener.unchecked, by rw [List.map_append, List.map_cons]⟩, reached,
    turns.unchecked keeps never isSuch, .inl rfl, ended⟩

end Unchecked

/-! ## The array of an index -/

/-- The array of a kind has the entries of the buckets in the form for that kind, whatever was
done with the index before. -/
theorem flattened_of_reachable
    {host : Host σ β}
    {state : σ}
    (lawful : host.Lawful)
    (reachable : (host.bus state).index.Reachable)
    {kind : Kind}
    (consistent : Kind.Consistent fun other =>
      other ∈ (host.bus state).index.kinds ∨ other = kind)
    {id : Nat}
    {made : σ}
    (found : host.nodeFor kind state = (.ok id, made)) :
    host.flattened id made =
      (.ok (((host.bus made).index.gathered id).map (Listener.formFor kind)),
        host.refresh id made) := by
  obtain ⟨index, madeIndex, seen⟩ := exists_of_nodeFor lawful found
  have sameIndex : (host.bus made).index = index := congrArg (fun view => view.1.index) seen
  obtain ⟨grows, hasNode⟩ := Index.nodeFor_grows madeIndex
  have coherent : index.Coherent := (Index.Reachable.nodeFor reachable madeIndex).coherent
  have within : ∀ other ∈ index.kinds,
      Kind.Within (fun other => other ∈ (host.bus state).index.kinds ∨ other = kind) other := by
    intro other isKind
    rcases grows.mem_kinds isKind with old | above
    · exact .self (.inl old)
    · exact .of_mem_ancestors (.inr rfl) above
  obtain ⟨node, present, rfl⟩ :=
    coherent.arena.exists_kind_of_lookup? consistent within (.self (.inr rfl)) hasNode
  have form : index.declaresCancellable id = node.kind.isCancellable :=
    coherent.arena.declaresCancellable_eq (consistent.within.mono within) present
  rw [← sameIndex] at coherent present form
  rw [flattened_of_coherent lawful coherent present, Index.recomputed,
    Index.dispatchForm_eq_map _ form]

/-! ## Derived events -/

section Derived

open Declaration

variable {marker : Declaration.Path → Marker} {chain : TypeChain} {run : β → Handler σ}
  {listeners before : List (Listener β)} {entry : Listener β} {bodies : List β}
  {stop : Stop ListenerError} {event : Event} {state : σ} {last left : Event × σ}

theorem formFor_of_cancellable
    {kind : Kind}
    (cancellable : kind.isCancellable = true) :
    (Listener.formFor kind : Listener β → Listener β) = id := by
  funext entry
  exact if_pos cancellable

theorem formFor_of_steady
    {kind : Kind}
    (steady : kind.isCancellable = false) :
    (Listener.formFor kind : Listener β → Listener β) = Listener.unchecked := by
  funext entry
  exact if_neg (Bool.eq_false_iff.mp steady)

/-- Listeners in the form for the kind of a derived event have the turns of the originals. -/
theorem Turns.formFor
    (turns : Turns run listeners (event, state) bodies last)
    (isEvent : TypeChain.IsEvent marker chain event)
    (keeps : ∀ body start, TypeChain.IsEvent marker chain start.1 →
      TypeChain.IsEvent marker chain (run body start).2.1) :
    Turns run (listeners.map (Listener.formFor event.kind)) (event, state) bodies last := by
  rw [isEvent.kind_eq]
  cases form : (chain.kind marker).isCancellable with
  | true => rwa [formFor_of_cancellable form, List.map_id]
  | false =>
      rw [formFor_of_steady form]
      exact turns.unchecked keeps (fun _ isSuch => isSuch.isCanceled_eq_false form) isEvent

/-- What the poster is told does not show the form of a listener. -/
theorem afterTelling_formFor
    (index : Nat)
    (entry : Listener β)
    (kind : Kind)
    (stop : Stop ListenerError)
    (event : Event) :
    (afterTelling index (entry.formFor kind) stop event :
      Outcome Empty Unit × σ → Outcome BusError Unit × Event × σ) =
      afterTelling index entry stop event := by
  have sameResult : resume index (entry.formFor kind) stop = resume index entry stop := by
    cases stop with
    | raised error => rw [resume, resume, Listener.description_formFor]
    | panicked payload => rfl
  funext told
  unfold afterTelling
  rw [sameResult]

theorem Fails.formFor
    (fails : Fails run listeners (event, state) before entry bodies stop left)
    (isEvent : TypeChain.IsEvent marker chain event)
    (keeps : ∀ body start, TypeChain.IsEvent marker chain start.1 →
      TypeChain.IsEvent marker chain (run body start).2.1) :
    Fails run (listeners.map (Listener.formFor event.kind)) (event, state)
      (before.map (Listener.formFor event.kind)) (entry.formFor event.kind) bodies stop left := by
  rw [isEvent.kind_eq]
  cases form : (chain.kind marker).isCancellable with
  | true =>
      rw [formFor_of_cancellable form, List.map_id, List.map_id]
      exact fails
  | false =>
      rw [formFor_of_steady form]
      exact fails.unchecked keeps (fun _ isSuch => isSuch.isCanceled_eq_false form) isEvent

end Derived

open Declaration in
/-- A derived event has a canceled state exactly if its kind is cancellable. So whatever was
done with the index of a bus, the array for such an event and the same listeners in the form
in which they were registered run the same bodies in the same order, with the same results
and the same event in the end. Only the array that the handler is shown in case of a failure
has the listeners in another form. No body can change of which type an event is. -/
theorem dispatch_derived
    {marker : Declaration.Path → Marker}
    {chain : TypeChain}
    {event : Event}
    (isEvent : TypeChain.IsEvent marker chain event) :
    (event.flag?.isSome = true ↔ event.kind.isCancellable = true) ∧
      ∀ {σ β : Type} {host : Host σ β} {state made : σ} {id : Nat},
        host.Lawful →
        (host.bus state).index.Reachable →
        Kind.Consistent (fun other =>
          other ∈ (host.bus state).index.kinds ∨ other = event.kind) →
        (∀ body start, TypeChain.IsEvent marker chain start.1 →
          TypeChain.IsEvent marker chain (host.run body start).2.1) →
        host.nodeFor event.kind state = (.ok id, made) →
        ∃ originals listeners ready,
          originals = (host.bus made).index.gathered id ∧
          host.flattened id made = (.ok listeners, ready) ∧
          listeners = originals.map (Listener.formFor event.kind) ∧
          ((∃ bodies last, Turns host.run originals (event, ready) bodies last ∧
              Turns host.run listeners (event, ready) bodies last ∧
              host.dispatch listeners (event, ready) = host.dispatch originals (event, ready)) ∨
            ∃ before entry bodies stop left,
              Fails host.run originals (event, ready) before entry bodies stop left ∧
              Fails host.run listeners (event, ready)
                (before.map (Listener.formFor event.kind)) (entry.formFor event.kind) bodies stop
                left ∧
              ∀ array, array = originals ∨ array = listeners →
                host.dispatch array (event, ready) =
                  afterTelling before.length entry stop left.1
                    (host.handle ⟨left.1, array, before.length, stop.listenerError⟩
                      (host.modify Bus.recordFailure
                        (host.modify (fun bus => bus.recordPost (bodies.length + 1))
                          left.2)))) := by
  constructor
  · rw [isEvent.isSome_flag?, isEvent.kind_eq]
  · intro σ β host state made id lawful reachable consistent keeps found
    refine ⟨_, _, _, rfl, flattened_of_reachable lawful reachable consistent found, rfl, ?_⟩
    generalize (host.bus made).index.gathered id = originals
    generalize host.refresh id made = ready
    rcases turns_or_fails host.run originals (event, ready) with
      ⟨bodies, last, turns⟩ | ⟨before, entry, bodies, stop, left, fails⟩
    · have turnsToo := turns.formFor isEvent keeps
      exact .inl ⟨bodies, last, turns, turnsToo, turnsToo.dispatch_eq.trans turns.dispatch_eq.symm⟩
    · have failsToo := fails.formFor isEvent keeps
      refine .inr ⟨before, entry, bodies, stop, left, fails, failsToo, ?_⟩
      rintro array (rfl | rfl)
      · exact fails.dispatch_eq
      · have told := failsToo.dispatch_eq
        rw [List.length_map, afterTelling_formFor] at told
        exact told

/-! ### A late alarm -/

open Declaration.TypeChain (alarms lateAlarms lateAlarm isEvent_lateAlarm named)

/-- A bus with one listener for alarms, which does not want canceled events. -/
def alarmed : Bus Bool × Nat :=
  ((calm Bool).addListener (alarms.kind named) .normal false "" true
    (Bus.create {} false none, 0)).2

theorem reachable_alarmed : ((calm Bool).bus alarmed).index.Reachable := by
  have reaches : (calm Bool).Reaches (· = alarms.kind named) (Bus.create {} false none, 0)
      alarmed := .addListener _ _ _ _ _ rfl
  exact reaches.index_reachable (lawful_calm Bool) (stillChecker_calm Bool) rfl

theorem consistent_alarmed :
    Kind.Consistent fun other =>
      other ∈ ((calm Bool).bus alarmed).index.kinds ∨ other = lateAlarm.kind := by
  have kinds : ((calm Bool).bus alarmed).index.kinds = [alarms.kind named] := by decide +kernel
  rw [kinds]
  simp only [List.mem_singleton]
  rintro first second (rfl | rfl) (rfl | rfl) <;> decide

/-- The listener checks for cancellation, late alarms meet it without the check, and both
forms are dispatched alike. -/
theorem dispatch_derived_lateAlarm :
    ∃ id made originals listeners ready,
      (calm Bool).nodeFor lateAlarm.kind alarmed = (.ok id, made) ∧
      originals = made.1.index.gathered id ∧
      (calm Bool).flattened id made = (.ok listeners, ready) ∧
      originals.map Listener.checksCancellation = [true] ∧
      listeners.map Listener.checksCancellation = [false] ∧
      ∃ bodies last, Turns (calm Bool).run originals (lateAlarm, ready) bodies last ∧
        (calm Bool).dispatch listeners (lateAlarm, ready) =
          (calm Bool).dispatch originals (lateAlarm, ready) := by
  have answer : ((calm Bool).nodeFor lateAlarm.kind alarmed).1.toOption = some 1 := by
    decide +kernel
  have checks : (((calm Bool).nodeFor lateAlarm.kind alarmed).2.1.index.gathered 1).map
      Listener.checksCancellation = [true] := by
    decide +kernel
  obtain ⟨made, found⟩ := Action.exists_of_toOption answer
  obtain ⟨originals, listeners, ready, gathered, read, forms, result⟩ :=
    (dispatch_derived isEvent_lateAlarm).2 (lawful_calm Bool) reachable_alarmed
      consistent_alarmed (fun _ _ isEvent => isEvent) found
  have original : originals.map Listener.checksCancellation = [true] := by
    rw [found] at checks
    rw [gathered]
    exact checks
  refine ⟨1, made, originals, listeners, ready, found, gathered, read, original, ?_, ?_⟩
  · have sameForms : listeners.map Listener.checksCancellation =
        (originals.map Listener.checksCancellation).map
          (· && lateAlarm.kind.isCancellable) := by
      rw [forms, List.map_map, List.map_map]
      exact List.map_congr_left fun entry _ => entry.checksCancellation_formFor _
    rw [sameForms, original]
    decide
  · rcases result with
      ⟨bodies, last, turns, _, same⟩ | ⟨before, entry, bodies, stop, left, fails, _⟩
    · exact ⟨bodies, last, turns, same⟩
    · obtain ⟨reached, _, _, failed⟩ := fails.turn
      cases failed

end Host
end EventRelay
