import EventRelay.Registration

/-!
# Errors of registrations

A registration can be refused at each of its stages, and each stage has its own kinds of
errors: the checker rejects a kind, an abstract kind is no target, the chain above a kind is
broken, a class or a method is not made as it should be. What a composed action raises, one
of its parts has raised.
-/

namespace EventRelay

variable {σ τ β : Type}

namespace Action

variable {ε ε' α γ : Type}

theorem eq_ok_of_ofExcept
    {outcome : Except ε α}
    {state after : σ}
    {result : α}
    (ended : ofExcept outcome state = (.ok result, after)) :
    outcome = .ok result := by
  cases outcome with
  | ok other =>
      cases ended
      rfl
  | error error => cases ended

/-- Whatever error the action raises is one of these. Panics are not looked at. -/
def RaisesOnly (allowed : ε → Prop) (action : Action σ ε α) : Prop :=
  ∀ state error after, action state = (.error (.raised error), after) → allowed error

namespace RaisesOnly

variable {allowed : ε → Prop}

protected theorem pure (result : α) : RaisesOnly allowed (pure result : Action σ ε α) :=
  fun _ _ _ raised => nomatch congrArg Prod.fst raised

theorem look (view : σ → α) : RaisesOnly allowed (Action.look view : Action σ ε α) :=
  fun _ _ _ raised => nomatch congrArg Prod.fst raised

theorem step (function : σ → α × σ) : RaisesOnly allowed (Action.step function : Action σ ε α) :=
  fun _ _ _ raised => nomatch congrArg Prod.fst raised

theorem raise
    {error : ε}
    (isAllowed : allowed error) :
    RaisesOnly allowed (Action.raise error : Action σ ε α) := by
  intro state other after raised
  cases raised
  exact isAllowed

theorem ofExcept
    {outcome : Except ε α}
    (areAllowed : ∀ error, outcome = .error error → allowed error) :
    RaisesOnly allowed (Action.ofExcept outcome : Action σ ε α) := by
  cases outcome with
  | ok result => exact .pure result
  | error error => exact .raise (areAllowed error rfl)

/-- The rest is looked at only for results that the first part can have. -/
theorem bind_of_results
    {action : Action σ ε α}
    {next : α → Action σ ε γ}
    (first : RaisesOnly allowed action)
    (rest : ∀ state result changed, action state = (.ok result, changed) →
      RaisesOnly allowed (next result)) :
    RaisesOnly allowed (action >>= next) := by
  intro state error after raised
  rcases bind_cases action next state with
    ⟨result, changed, ended, goesOn⟩ | ⟨stop, changed, ended, ends⟩
  · exact rest state result changed ended changed error after (goesOn.symm.trans raised)
  · rw [ends] at raised
    cases raised
    exact first state error after ended

protected theorem bind
    {action : Action σ ε α}
    {next : α → Action σ ε γ}
    (first : RaisesOnly allowed action)
    (rest : ∀ result, RaisesOnly allowed (next result)) :
    RaisesOnly allowed (action >>= next) :=
  first.bind_of_results fun _ result _ _ => rest result

theorem mapError
    {function : ε → ε'}
    {permitted : ε' → Prop}
    (arePermitted : ∀ error, permitted (function error))
    (action : Action σ ε α) :
    RaisesOnly permitted (action.mapError function) := by
  intro state error after raised
  unfold Action.mapError at raised
  split at raised
  case h_1 => cases raised
  case h_2 =>
    cases raised
    exact arePermitted _
  case h_3 => cases raised

theorem forEach
    {action : α → Action σ ε γ}
    {elements : List α}
    (each : ∀ element ∈ elements, RaisesOnly allowed (action element)) :
    RaisesOnly allowed (Action.forEach action elements) := by
  induction elements with
  | nil => exact .pure []
  | cons element rest inductionHypothesis =>
      refine (each element List.mem_cons_self).bind fun first => ?_
      refine (inductionHypothesis fun other isOther =>
        each other (List.mem_cons_of_mem _ isOther)).bind fun others => ?_
      exact .pure _

end RaisesOnly
end Action

/-- Where a node cannot be made, the chain above the kind is broken. -/
theorem Index.eq_brokenAbstractChain_of_nodeFor
    {index : Index β}
    {kind : Kind}
    {error : BusError}
    (refused : index.nodeFor kind = .error error) :
    ∃ event parent ancestor, error = .brokenAbstractChain event parent ancestor := by
  induction kind with
  | root own =>
      unfold nodeFor at refused
      split at refused <;> cases refused
  | child own parent inductionHypothesis =>
      unfold nodeFor at refused
      split at refused
      case h_1 => cases refused
      case h_2 =>
        split at refused
        case h_1 ancestor _ =>
          cases refused
          exact ⟨own.name, parent.name, ancestor.name, rfl⟩
        case h_2 =>
          split at refused
          case h_1 above =>
            cases refused
            exact inductionHypothesis above
          case h_2 => split at refused <;> cases refused

namespace Host

open EventRelay.Action (RaisesOnly)

variable {allowed : BusError → Prop}

theorem raisesOnly_checkAccepted
    (checker : Checker σ)
    (kind : Kind)
    (rejections : ∀ reason, allowed (.rejectedEvent kind.name reason)) :
    RaisesOnly allowed (Admission.checkAccepted checker kind) :=
  .mapError rejections (checker kind)

theorem raisesOnly_checkTarget
    (checker : Checker σ)
    (kind : Kind)
    (abstract : allowed (.abstractEvent kind.name))
    (rejections : ∀ reason, allowed (.rejectedEvent kind.name reason)) :
    RaisesOnly allowed (Admission.checkTarget checker kind) := by
  unfold Admission.checkTarget
  split
  case isTrue => exact .raise abstract
  case isFalse => exact raisesOnly_checkAccepted checker kind rejections

theorem raisesOnly_nodeFor
    (host : Host σ β)
    (kind : Kind)
    (broken : ∀ event parent ancestor, allowed (.brokenAbstractChain event parent ancestor)) :
    RaisesOnly allowed (host.nodeFor kind) := by
  intro state error after raised
  unfold nodeFor Bus.nodeFor at raised
  cases made : (host.bus state).index.nodeFor kind with
  | ok result =>
      simp only [made] at raised
      cases raised
  | error refusal =>
      simp only [made] at raised
      cases raised
      obtain ⟨event, parent, ancestor, rfl⟩ := Index.eq_brokenAbstractChain_of_nodeFor made
      exact broken event parent ancestor

theorem raisesOnly_newListener
    (host : Host σ β)
    (kind : Kind)
    (priority : Priority)
    (receivesCanceled : Bool)
    (description : String)
    (body : β) :
    RaisesOnly allowed (host.newListener kind priority receivesCanceled description body) :=
  (RaisesOnly.step host.issueId).bind fun _ => .pure _

theorem raisesOnly_commit
    (host : Host σ β)
    (key : Key)
    (name : String)
    (pending : Pending β) :
    RaisesOnly allowed (host.commit key name pending) := by
  intro state error after raised
  unfold commit at raised
  split at raised <;> cases raised

end Host
end EventRelay
