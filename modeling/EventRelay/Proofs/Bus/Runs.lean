import EventRelay.Proofs.Bus.Reached

/-!
# Actions that go step by step

An action leads from a state to another by steps of some kind, and its result fits the state
that it leads to. Making listeners ready takes few different steps, so that what it comes to can
be said for all kinds of steps at once.
-/

namespace EventRelay

variable {σ τ β : Type}

namespace Action

variable {ε ε' α γ : Type} {step : σ → σ → Prop}

/-- From a state an action goes on by steps, and its result, if there is one, fits the state
in which the action ends. -/
structure Runs (step : σ → σ → Prop) (action : Action σ ε α) (state : σ)
    (fits : α → σ → Prop) : Prop where
  steps : Relation.ReflTransGen step state (action state).2
  fits : ∀ result, (action state).1 = .ok result → fits result (action state).2

namespace Runs

variable {state : σ} {fits : α → σ → Prop}

protected theorem pure
    {result : α}
    (fit : fits result state) :
    Runs step (pure result : Action σ ε α) state fits := by
  refine ⟨.refl, fun other same => ?_⟩
  cases same
  exact fit

theorem raise (error : ε) : Runs step (Action.raise error) state fits :=
  ⟨.refl, nofun⟩

/-- Only what the action does in this state matters. -/
theorem of_eq
    {action other : Action σ ε α}
    (same : action state = other state)
    (runs : Runs step other state fits) :
    Runs step action state fits :=
  ⟨by rw [same]; exact runs.steps, by rw [same]; exact runs.fits⟩

/-- The rest goes on from where the first part has led to. -/
protected theorem bind
    {action : Action σ ε α}
    {next : α → Action σ ε γ}
    {fitsToo : γ → σ → Prop}
    (first : Runs step action state fits)
    (rest : ∀ result changed, Relation.ReflTransGen step state changed → fits result changed →
      Runs step (next result) changed fitsToo) :
    Runs step (action >>= next) state fitsToo := by
  rcases bind_cases action next state with
    ⟨result, changed, ended, goesOn⟩ | ⟨stop, changed, ended, ends⟩
  · obtain ⟨steps, fit⟩ := first
    rw [ended] at steps fit
    obtain ⟨moreSteps, fitToo⟩ := rest result changed steps (fit result rfl)
    exact ⟨by rw [goesOn]; exact steps.trans moreSteps, by rwa [goesOn]⟩
  · have steps := first.steps
    rw [ended] at steps
    exact ⟨by rwa [ends], by rw [ends]; exact nofun⟩

/-- What holds wherever the first part leads, and wherever the rest goes on from there, holds
where both together end. -/
theorem ends_bind
    {good : σ → Prop}
    {action : Action σ ε α}
    {next : α → Action σ ε γ}
    (first : Runs step action state fits)
    (halts : ∀ changed, Relation.ReflTransGen step state changed → good changed)
    (rest : ∀ result changed, Relation.ReflTransGen step state changed → fits result changed →
      good (next result changed).2) :
    good ((action >>= next) state).2 := by
  obtain ⟨steps, fit⟩ := first
  rcases bind_cases action next state with
    ⟨result, changed, ended, goesOn⟩ | ⟨stop, changed, ended, ends⟩
  · rw [ended] at steps fit
    rw [goesOn]
    exact rest result changed steps (fit result rfl)
  · rw [ended] at steps
    rw [ends]
    exact halts changed steps

/-- The same for steps only. -/
theorem steps_bind
    {action : Action σ ε α}
    {next : α → Action σ ε γ}
    (first : Runs step action state fits)
    (rest : ∀ result changed, Relation.ReflTransGen step state changed → fits result changed →
      Relation.ReflTransGen step changed (next result changed).2) :
    Relation.ReflTransGen step state ((action >>= next) state).2 :=
  first.ends_bind (fun _ steps => steps) fun result changed steps fit =>
    steps.trans (rest result changed steps fit)

theorem ofExcept
    {outcome : Except ε α}
    (fit : ∀ result, outcome = .ok result → fits result state) :
    Runs step (Action.ofExcept outcome) state fits := by
  cases outcome with
  | ok result => exact .pure (fit result rfl)
  | error error => exact .raise error

theorem mapError
    {action : Action σ ε α}
    (runs : Runs step action state fits)
    (function : ε → ε') :
    Runs step (action.mapError function) state fits := by
  obtain ⟨steps, fit⟩ := runs
  unfold Action.mapError
  rcases apply_cases action state with ⟨result, changed, ended⟩ | ⟨stop, changed, ended⟩
  · rw [ended] at steps fit
    exact ⟨by rwa [ended], by rw [ended]; exact fun other same => fit other (by cases same; rfl)⟩
  · rw [ended] at steps
    cases stop <;> exact ⟨by rwa [ended], by rw [ended]; exact nofun⟩

/-- What fits once must go on fitting while the action runs for the elements that follow. -/
theorem forEach
    {good : γ → σ → Prop}
    {action : α → Action σ ε γ}
    {elements : List α}
    (stable : ∀ {result earlier later}, good result earlier →
      Relation.ReflTransGen step earlier later → good result later)
    (each : ∀ element ∈ elements, ∀ start, Runs step (action element) start good) :
    Runs step (Action.forEach action elements) state fun results ended =>
      ∀ result ∈ results, good result ended := by
  induction elements generalizing state with
  | nil => exact .pure fun _ isResult => nomatch isResult
  | cons element rest inductionHypothesis =>
      refine (each element List.mem_cons_self state).bind fun first changed _ isGood => ?_
      refine (inductionHypothesis fun other isOther =>
        each other (List.mem_cons_of_mem _ isOther)).bind fun others ended steps areGood => ?_
      refine .pure fun result isResult => ?_
      rcases List.mem_cons.mp isResult with rfl | isOther
      · exact stable isGood steps
      · exact areGood result isOther

/-- A result that fits in one way may fit in another as well. -/
theorem mono
    {action : Action σ ε α}
    {fitsToo : α → σ → Prop}
    (runs : Runs step action state fits)
    (weaker : ∀ result ended, Relation.ReflTransGen step state ended → fits result ended →
      fitsToo result ended) :
    Runs step action state fitsToo :=
  ⟨runs.steps, fun result isResult => weaker result _ runs.steps (runs.fits result isResult)⟩

end Runs
end Action

namespace Host

section Checking

variable {host : Host σ β} {step : σ → σ → Prop}
  (checks : ∀ kind state, Relation.ReflTransGen step state (host.checker kind state).2)
include checks

theorem runs_checkAccepted
    (kind : Kind)
    (state : σ) :
    (Admission.checkAccepted host.checker kind).Runs step state fun _ _ => True :=
  Action.Runs.mapError ⟨checks kind state, fun _ _ => trivial⟩ _

theorem runs_checkTarget
    (kind : Kind)
    (state : σ) :
    (Admission.checkTarget host.checker kind).Runs step state fun _ _ => True := by
  unfold Admission.checkTarget
  split
  case isTrue => exact .raise _
  case isFalse => exact runs_checkAccepted checks kind state

theorem runs_checkMethod
    (subscriber : String)
    {method : ListenerMethod τ β}
    {admitted : Kind → Prop}
    (admits : ∀ param ∈ method.params, ∀ kind, param.kind? = some kind → admitted kind)
    (state : σ) :
    (Admission.checkMethod host.checker subscriber method).Runs step state
      fun kind _ => admitted kind := by
  unfold Admission.checkMethod
  have declared : (Action.ofExcept (Admission.declaredKind subscriber method) :
      Action σ BusError Kind).Runs step state fun kind _ => admitted kind := by
    refine .ofExcept fun kind isDeclared => ?_
    obtain ⟨param, belongs, isEvent⟩ := exists_param_of_declaredKind isDeclared
    exact admits param belongs kind isEvent
  refine declared.bind fun kind changed _ isAdmitted => ?_
  exact (runs_checkTarget checks kind changed).bind fun _ _ _ _ => .pure isAdmitted

end Checking

/-- The steps that it takes to make listeners ready, apart from those of the checker, are among
these. -/
structure Readies (host : Host σ β) (known : Kind → Prop) (step : σ → σ → Prop) : Prop where
  note : ∀ notice state, step state (host.note notice state)
  /-- An identity is issued. -/
  issue : ∀ state, step state (host.issueId state).2
  /-- The node of a kind is found or made. -/
  grow : ∀ {kind bus id} state, known kind → (host.bus state).nodeFor kind = .ok (bus, id) →
    step state (host.withBus bus state)

/-- A listener has just been made for a node: it has got its identity after its kind had got the
node. -/
structure Made (host : Host σ β) (admitted : Kind → β → Prop) (step : σ → σ → Prop)
    (start : σ) (entry : Nat × Listener β) (made : σ) : Prop where
  admitted : admitted entry.2.kind entry.2.body
  last : ∃ before, Relation.ReflTransGen step start before ∧
    host.issueId before = (entry.2.id, made) ∧
    (host.bus before).index.lookup? entry.2.kind.id = some entry.1

/-- It does not matter what was done before. -/
theorem Made.since
    {host : Host σ β}
    {admitted : Kind → β → Prop}
    {step : σ → σ → Prop}
    {first start made : σ}
    {entry : Nat × Listener β}
    (isMade : host.Made admitted step start entry made)
    (steps : Relation.ReflTransGen step first start) :
    host.Made admitted step first entry made := by
  obtain ⟨isAdmitted, before, onward, issue, hasNode⟩ := isMade
  exact ⟨isAdmitted, before, steps.trans onward, issue, hasNode⟩

namespace Readies

variable {host : Host σ β} {known : Kind → Prop} {step : σ → σ → Prop}

theorem noteAll
    (readies : host.Readies known step)
    (notices : List Notice)
    (state : σ) :
    Relation.ReflTransGen step state (host.noteAll notices state) := by
  induction notices generalizing state with
  | nil => exact .refl
  | cons notice rest inductionHypothesis =>
      exact .head (readies.note notice state) (inductionHypothesis (host.note notice state))

theorem nodeFor
    (readies : host.Readies known step)
    (lawful : host.Lawful)
    {kind : Kind}
    (isKnown : known kind)
    (state : σ) :
    (host.nodeFor kind).Runs step state fun id made =>
      (host.bus made).index.lookup? kind.id = some id := by
  cases made : (host.bus state).nodeFor kind with
  | error error =>
      have refused : host.nodeFor kind state = (.error (.raised error), state) := by
        simp only [Host.nodeFor, made]
      exact .of_eq refused (.raise _)
  | ok result =>
      obtain ⟨bus, id⟩ := result
      have found : host.nodeFor kind state = (.ok id,
          host.noteAll ((host.bus state).index.createdSince bus.index)
            (host.withBus bus state)) := by
        simp only [Host.nodeFor, made]
      obtain ⟨index, madeIndex, seen⟩ := exists_of_nodeFor lawful found
      constructor
      case steps =>
        rw [found]
        exact .head (readies.grow state isKnown made) (readies.noteAll ..)
      case fits =>
        rw [found]
        intro other same
        cases same
        have sameBus := congrArg Prod.fst seen
        simp only [view] at sameBus
        simp only [sameBus, Bus.index_withIndex]
        exact (Index.nodeFor_grows madeIndex).2

theorem newListener
    (readies : host.Readies known step)
    (admitted : Kind → β → Prop)
    {kind : Kind}
    (priority : Priority)
    (receivesCanceled : Bool)
    (description : String)
    {body : β}
    (isAdmitted : admitted kind body)
    {node : Nat}
    {state : σ}
    (hasNode : (host.bus state).index.lookup? kind.id = some node) :
    (host.newListener kind priority receivesCanceled description body).Runs step state
      fun listener made => host.Made admitted step state (node, listener) made := by
  refine ⟨.single (readies.issue state), fun listener same => ?_⟩
  cases same
  exact ⟨isAdmitted, state, .refl, rfl, hasNode⟩

theorem prepareMethod
    (readies : host.Readies known step)
    (checks : ∀ kind state, Relation.ReflTransGen step state (host.checker kind state).2)
    (lawful : host.Lawful)
    (subscriber : String)
    (object? : Option τ)
    {method : ListenerMethod τ β}
    {admitted : Kind → β → Prop}
    (admits : ∀ param ∈ method.params, ∀ kind, param.kind? = some kind → known kind ∧
      ∀ body, method.bind subscriber object? = .ok body → admitted kind body)
    (state : σ) :
    (host.prepareMethod subscriber object? method).Runs step state
      (host.Made admitted step state) := by
  unfold Host.prepareMethod
  refine (runs_checkMethod checks subscriber admits state).bind
    fun kind asked checkSteps ⟨isKnown, suited⟩ => ?_
  refine (readies.nodeFor lawful isKnown asked).bind fun node made nodeSteps hasNode => ?_
  have bound : (Action.ofExcept (method.bind subscriber object?) : Action σ BusError β).Runs step
      made fun body ended => ended = made ∧ admitted kind body :=
    .ofExcept fun body isBound => ⟨rfl, suited body isBound⟩
  refine bound.bind fun body ended _ ⟨sameState, isAdmitted⟩ => ?_
  subst sameState
  refine (readies.newListener admitted _ _ _ isAdmitted hasNode).bind
    fun listener created _ isMade => ?_
  exact .pure (isMade.since (checkSteps.trans nodeSteps))

theorem nodeForPost
    (readies : host.Readies known step)
    (checks : ∀ kind state, Relation.ReflTransGen step state (host.checker kind state).2)
    (lawful : host.Lawful)
    {kind : Kind}
    (isKnown : known kind)
    (state : σ) :
    (host.nodeForPost kind).Runs step state fun id made =>
      (host.bus made).index.lookup? kind.id = some id := by
  cases isAbstract : kind.isAbstract with
  | true =>
      have refused : host.nodeForPost kind state = Action.raise (.abstractEvent kind.name) state :=
        nodeForPost_of_abstract isAbstract state
      exact .of_eq refused (.raise _)
  | false =>
      have goesOn : host.nodeForPost kind state = _ := nodeForPost_of_concrete isAbstract state
      split at goesOn
      case isTrue =>
        exact .of_eq goesOn ((runs_checkAccepted checks kind state).bind
          fun _ checked _ _ => readies.nodeFor lawful isKnown checked)
      case isFalse => exact .of_eq goesOn (readies.nodeFor lawful isKnown state)

end Readies
end Host
end EventRelay
