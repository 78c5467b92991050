import EventRelay.Proofs.Bus.Ledger
import EventRelay.Proofs.Bus.Steps

/-!
# Relations that carry the operations of a bus

An operation on a bus makes nodes, issues identities and tells notices, and at some point it
changes the bus in one of a few ways. A relation between states that holds for each of these and
that can be composed holds for every operation, whatever the checker does in between, as long as
it holds for that as well.

Listeners that are registered together have been made ready one after the other. What a relation
has to say about registering them may therefore rest on how each of them was made.
-/

namespace EventRelay
namespace Host

variable {σ τ β : Type}

/-- Listeners are made one after the other, each with the identity that is issued to it. -/
inductive MadeAll (host : Host σ β) (related : σ → σ → Prop) : σ → Pending β → σ → Prop
  /-- There is none left to make. -/
  | nil {first last : σ} : related first last → MadeAll host related first [] last
  /-- One is made before the others. -/
  | cons {first middle last : σ} {entry : Nat × Listener β} {rest : Pending β} :
      host.Made (fun _ _ => True) related first entry middle →
      MadeAll host related middle rest last →
      MadeAll host related first (entry :: rest) last

/-- What operations on the bus come down to, apart from dispatches, is an instance of a relation
that can be composed. -/
structure Carries (host : Host σ β) (related : σ → σ → Prop) : Prop where
  unchanged : ∀ state, related state state
  composed : ∀ {first middle last}, related first middle → related middle last →
    related first last
  readies : host.Readies (fun _ => True) related
  refresh : ∀ id state, related state (host.modify (fun bus => bus.refresh id) state)
  unregister : ∀ key state, related state (host.modify (fun bus => bus.unregister key) state)
  start : ∀ state, related state (host.modify Bus.start state)
  /-- Listeners that have been made ready are registered. -/
  commit : ∀ {first pending made} key, host.MadeAll related first pending made →
    related first (host.modify (fun bus => bus.commit key pending) made)

section Batches

variable {host : Host σ β} {related : σ → σ → Prop} {sight : σ → Bus β × Nat}

theorem MadeAll.steps
    {first made : σ}
    {pending : Pending β}
    (madeAll : host.MadeAll related first pending made)
    (issue : ∀ state, related state (host.issueId state).2) :
    Relation.ReflTransGen related first made := by
  induction madeAll with
  | nil step => exact .single step
  | @cons first middle last entry rest isMade _ inductionHypothesis =>
      obtain ⟨-, before, steps, issues, -⟩ := isMade
      obtain rfl : (host.issueId before).2 = middle := congrArg Prod.snd issues
      exact (steps.tail (issue before)).trans inductionHypothesis

/-- Listeners that are made while the bus stays in order can be registered together. The bus may
be seen through whatever leaves its nodes and the number of identities as they are. -/
theorem MadeAll.batch
    {first made : σ}
    {pending : Pending β}
    (madeAll : host.MadeAll related first pending made)
    (evolves : ∀ {before after}, Relation.ReflTransGen related before after →
      Bus.Ledger (sight before) → Bus.Evolves (sight before) (sight after))
    (index : ∀ state, (sight state).1.index = (host.bus state).index)
    (issued : ∀ state, (sight state).2 = host.issued state)
    (issue : ∀ state, sight (host.issueId state).2 = ((sight state).1, (sight state).2 + 1))
    (ledger : Bus.Ledger (sight first)) :
    Bus.Batch (sight first) pending (sight made) := by
  induction madeAll with
  | nil steps => exact .nil (evolves (.single steps) ledger)
  | @cons first middle last entry rest isMade _ inductionHypothesis =>
      obtain ⟨-, before, steps, issues, hasNode⟩ := isMade
      have one : Bus.Batch (sight first) [entry] (sight middle) := by
        have next : entry.2.id.value = (sight before).2 + 1 := by
          rw [issued]
          exact (congrArg (fun made => made.1.value) issues).symm
        obtain rfl : (host.issueId before).2 = middle := congrArg Prod.snd issues
        rw [issue]
        exact .single (evolves steps ledger) next (by rw [index]; exact hasNode)
      exact one.append (inductionHypothesis one.evolves.ledger)

end Batches

namespace Carries

variable {host : Host σ β} {related : σ → σ → Prop}

theorem of_steps
    (carries : host.Carries related)
    {first last : σ}
    (steps : Relation.ReflTransGen related first last) :
    related first last := by
  induction steps with
  | refl => exact carries.unchanged first
  | tail _ step inductionHypothesis => exact carries.composed inductionHypothesis step

/-! ## Reading, starting and removing -/

theorem refreshing
    (carries : host.Carries related)
    (id : Nat)
    (state : σ) :
    related state (host.refresh id state) :=
  carries.composed (carries.refresh id state) (carries.of_steps (carries.readies.noteAll ..))

theorem listenerCount
    (carries : host.Carries related)
    (lawful : host.Lawful)
    (kind : Kind)
    (state : σ) :
    related state (host.listenerCount kind state).2 := by
  unfold Host.listenerCount
  exact carries.of_steps ((carries.readies.nodeFor lawful trivial state).steps_bind
    fun id made _ _ => .single (carries.refreshing id made))

theorem starting
    (carries : host.Carries related)
    (state : σ) :
    related state (host.start state) := by
  unfold Host.start
  split
  case isTrue => exact carries.composed (carries.start state) (carries.readies.note _ _)
  case isFalse => exact carries.unchanged state

theorem unregistering
    (carries : host.Carries related)
    (key : Key)
    (state : σ) :
    related state (host.unregister key state).2 := by
  unfold Host.unregister
  split
  case h_1 => exact carries.unchanged state
  case h_2 => exact carries.composed (carries.unregister key state) (carries.readies.note _ _)

/-! ## Registering -/

theorem committing
    (carries : host.Carries related)
    {first made : σ}
    {pending : Pending β}
    (madeAll : host.MadeAll related first pending made)
    (key : Key)
    (name : String) :
    related first (host.commit key name pending made).2 := by
  unfold Host.commit
  split
  case isTrue => exact carries.of_steps (madeAll.steps carries.readies.issue)
  case isFalse => exact carries.composed (carries.commit key madeAll) (carries.readies.note _ _)

variable (checks : ∀ kind state, related state (host.checker kind state).2)
include checks

/-- Whatever the checker does in between, the methods of a class are made ready one after the
other. -/
theorem forEach_prepareMethod
    (carries : host.Carries related)
    (lawful : host.Lawful)
    (subscriber : String)
    (object? : Option τ)
    (methods : List (ListenerMethod τ β))
    (state : σ) :
    (Action.forEach (host.prepareMethod subscriber object?) methods).Runs related state
      fun pending made => host.MadeAll related state pending made := by
  induction methods generalizing state with
  | nil => exact .pure (.nil (carries.unchanged state))
  | cons method rest inductionHypothesis =>
      have prepared : (host.prepareMethod subscriber object? method).Runs related state
          (host.Made (fun _ _ => True) related state) :=
        carries.readies.prepareMethod (fun kind state => .single (checks kind state)) lawful
          subscriber object? (fun _ _ _ _ => ⟨trivial, fun _ _ => trivial⟩) state
      refine prepared.bind fun entry changed _ isMade => ?_
      refine (inductionHypothesis changed).bind fun others ended _ areMade => ?_
      exact .pure (.cons isMade areMade)

theorem registerAs
    (carries : host.Carries related)
    (lawful : host.Lawful)
    (key : Key)
    (subscriber : SubscriberClass τ β)
    (shape : Shape)
    (object? : Option τ)
    (state : σ) :
    related state (host.registerAs key subscriber shape object? state).2 := by
  unfold Host.registerAs
  rw [Action.bind_of_ok (Action.look_apply _ state)]
  split
  case isTrue => exact carries.unchanged state
  case isFalse =>
    have selected : (Action.ofExcept (Admission.select subscriber shape) :
        Action σ BusError (List (ListenerMethod τ β))).Runs related state
          fun _ ended => ended = state := .ofExcept fun _ _ => rfl
    have prepared : (host.prepare subscriber shape object?).Runs related state
        fun pending made => host.MadeAll related state pending made :=
      selected.bind fun methods start _ same => same ▸
        carries.forEach_prepareMethod checks lawful subscriber.name object? methods start
    refine prepared.ends_bind (fun _ => carries.of_steps) fun pending made _ madeAll => ?_
    exact carries.committing madeAll key subscriber.name

theorem addListener
    (carries : host.Carries related)
    (lawful : host.Lawful)
    (kind : Kind)
    (priority : Priority)
    (receivesCanceled : Bool)
    (description : String)
    (body : β)
    (state : σ) :
    related state (host.addListener kind priority receivesCanceled description body state).2 := by
  have readies := carries.readies
  have checked := runs_checkTarget (fun kind state => .single (checks kind state)) kind state
  unfold Host.addListener
  refine checked.ends_bind (fun _ => carries.of_steps) fun _ passed steps _ => ?_
  refine (readies.nodeFor lawful trivial passed).ends_bind
    (fun _ nodeSteps => carries.of_steps (steps.trans nodeSteps))
    fun node made nodeSteps hasNode => ?_
  refine (readies.newListener (fun _ _ => True) _ _ _ trivial hasNode).ends_bind
    (fun _ issueSteps => carries.of_steps ((steps.trans nodeSteps).trans issueSteps))
    fun listener created _ isMade => ?_
  rw [Action.bind_of_ok (commit_eq_ok ..)]
  refine carries.committing ?_ _ _
  exact .cons (isMade.since (steps.trans nodeSteps)) (.nil (carries.unchanged created))

/-! ## Posting -/

theorem nodeForPost
    (carries : host.Carries related)
    (lawful : host.Lawful)
    (kind : Kind)
    (state : σ) :
    related state (host.nodeForPost kind state).2 :=
  carries.of_steps (carries.readies.nodeForPost (fun kind state => .single (checks kind state))
    lawful trivial state).steps

variable
  (recordPost : ∀ ran state, related state (host.modify (fun bus => bus.recordPost ran) state))
  (recordFailure : ∀ state, related state (host.modify Bus.recordFailure state))
include recordPost recordFailure

/-- A relation that holds for the counts of a dispatch as well holds for posts. -/
theorem follows
    (carries : host.Carries related)
    (lawful : host.Lawful)
    {known : Kind → Prop}
    {run : β → Handler σ}
    {handle : Incident β → Action σ Empty Unit}
    (keepsKnown : ∀ body event state, known event.kind →
      known (run body (event, state)).2.1.kind)
    (bodies : ∀ body event state, known event.kind → related state (run body (event, state)).2.2)
    (handler : ∀ incident state, known incident.event.kind →
      related state (handle incident state).2) :
    (host.withCode run handle).Follows known related where
  unchanged := carries.unchanged
  composed := carries.composed
  nodeForPost state _ := carries.nodeForPost checks lawful _ state
  refresh := carries.refreshing
  recordPost := recordPost
  recordFailure := recordFailure
  run := bodies
  kind := keepsKnown
  handle := handler

omit checks in
/-- It holds from the beginning of a run to its end if it holds for what is done besides. -/
theorem of_performs
    (carries : host.Carries related)
    (lawful : host.Lawful)
    {terms : Terms σ β}
    (aside : ∀ before after, terms.aside before after → host.bus after = host.bus before →
      related before after)
    {first last : σ}
    (performs : host.Performs terms first last) :
    related first last := by
  induction performs with
  | refl state => exact carries.unchanged state
  | trans _ _ earlier later => exact carries.composed earlier later
  | aside isAside sameBus => exact aside _ _ isAside sameBus
  | register key object state _ _ checks =>
      exact carries.registerAs checks lawful key _ _ _ state
  | registerType key state _ _ checks =>
      exact carries.registerAs checks lawful key _ _ _ state
  | addListener priority receivesCanceled description state _ _ _ checks =>
      exact carries.addListener checks lawful _ priority receivesCanceled description _ state
  | unregister key state => exact carries.unregistering key state
  | start state => exact carries.starting state
  | listenerCount state _ => exact carries.listenerCount lawful _ state
  | post state isKnown _ keepsKnown _ _ checks bodies handler =>
      exact (carries.follows checks recordPost recordFailure lawful keepsKnown bodies
        handler).post isKnown state
  | postPhase phase state isKnown _ keepsKnown _ _ checks bodies handler =>
      exact (carries.follows checks recordPost recordFailure lawful keepsKnown bodies
        handler).postPhase isKnown phase state

end Carries
end Host
end EventRelay
