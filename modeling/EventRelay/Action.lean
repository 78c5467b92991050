import EventRelay.Failure

/-!
# Actions

An action changes a state and ends with a result, with an announced error, or with a
panic. The changes made before a bad end stay.
-/

namespace EventRelay

/-- How an action ends without a result. -/
inductive Stop (ε : Type)
  /-- With an error of the announced type. -/
  | raised (error : ε)
  | panicked (payload : Panic)

/-- The same end with another error. -/
def Stop.map {ε ε' : Type} (function : ε → ε') : Stop ε → Stop ε'
  | raised error => raised (function error)
  | panicked payload => panicked payload

/-- How an action ends. -/
abbrev Outcome (ε α : Type) := Except (Stop ε) α

/-- An action on states of type `σ` with errors of type `ε` and results of type `α`. -/
def Action (σ ε α : Type) := σ → Outcome ε α × σ

namespace Action

variable {σ τ ε ε' α β : Type}

/-- Ends with a result at once. -/
protected def pure (result : α) : Action σ ε α :=
  fun state => (.ok result, state)

/-- Goes on with the result of an action, if it has one. -/
protected def bind (action : Action σ ε α) (next : α → Action σ ε β) : Action σ ε β :=
  fun state =>
    match action state with
    | (.ok result, changed) => next result changed
    | (.error stop, changed) => (.error stop, changed)

instance : Monad (Action σ ε) where
  pure := Action.pure
  bind := Action.bind

/-- Ends with an error. -/
def raise (error : ε) : Action σ ε α :=
  fun state => (.error (.raised error), state)

/-- Ends with a panic. -/
def panicking (payload : Panic) : Action σ ε α :=
  fun state => (.error (.panicked payload), state)

/-- Ends as a computation without state ended. -/
def ofExcept : Except ε α → Action σ ε α
  | .ok result => Action.pure result
  | .error error => raise error

/-- Looks at the state. -/
def look (view : σ → α) : Action σ ε α :=
  fun state => (.ok (view state), state)

/-- Changes the state. -/
def change (function : σ → σ) : Action σ ε Unit :=
  fun state => (.ok (), function state)

/-- Changes the state and answers something about it. -/
def step (function : σ → α × σ) : Action σ ε α :=
  fun state => (.ok (function state).1, (function state).2)

/-- Replaces the error. -/
def mapError (function : ε → ε') (action : Action σ ε α) : Action σ ε' α :=
  fun state =>
    match action state with
    | (.ok result, changed) => (.ok result, changed)
    | (.error (.raised error), changed) => (.error (.raised (function error)), changed)
    | (.error (.panicked payload), changed) => (.error (.panicked payload), changed)

/-- Runs on the second component of a pair. -/
def onSecond (action : Action σ ε α) : Action (τ × σ) ε α :=
  fun state => ((action state.2).1, state.1, (action state.2).2)

/-- Runs an action for each element, up to the first bad end. -/
def forEach (action : α → Action σ ε β) : List α → Action σ ε (List β)
  | [] => Action.pure []
  | first :: rest => do
      let result ← action first
      let results ← forEach action rest
      return result :: results

@[simp] theorem pure_apply (result : α) (state : σ) :
    (pure result : Action σ ε α) state = (.ok result, state) := rfl

theorem bind_apply (action : Action σ ε α) (next : α → Action σ ε β) (state : σ) :
    (action >>= next) state =
      match action state with
      | (.ok result, changed) => next result changed
      | (.error stop, changed) => (.error stop, changed) := rfl

theorem bind_of_ok {action : Action σ ε α} {state changed : σ} {result : α}
    (ended : action state = (.ok result, changed)) (next : α → Action σ ε β) :
    (action >>= next) state = next result changed := by
  rw [bind_apply, ended]

theorem bind_of_error {action : Action σ ε α} {state changed : σ} {stop : Stop ε}
    (ended : action state = (.error stop, changed)) (next : α → Action σ ε β) :
    (action >>= next) state = (.error stop, changed) := by
  rw [bind_apply, ended]

@[simp] theorem ofExcept_ok_bind (result : α) (next : α → Action σ ε β) :
    (ofExcept (.ok result) >>= next) = next result := rfl

@[simp] theorem ofExcept_error_bind (error : ε) (next : α → Action σ ε β) (state : σ) :
    (ofExcept (.error error) >>= next) state = (.error (.raised error), state) := rfl

/-- An action ends with a result or in a bad way. -/
theorem apply_cases (action : Action σ ε α) (state : σ) :
    (∃ result changed, action state = (.ok result, changed)) ∨
      ∃ stop changed, action state = (.error stop, changed) := by
  cases ended : action state with
  | mk outcome changed =>
      cases outcome with
      | ok result => exact .inl ⟨result, changed, rfl⟩
      | error stop => exact .inr ⟨stop, changed, rfl⟩

theorem exists_of_toOption {action : Action σ ε α} {state : σ} {result : α}
    (answer : (action state).1.toOption = some result) :
    ∃ changed, action state = (.ok result, changed) := by
  rcases apply_cases action state with ⟨other, changed, ended⟩ | ⟨stop, changed, ended⟩
  · rw [ended] at answer
    cases answer
    exact ⟨changed, ended⟩
  · rw [ended] at answer
    cases answer

theorem eq_ok_of_toOption {action : Action σ ε α} {state : σ} {result : α}
    (answer : (action state).1.toOption = some result) :
    action state = (.ok result, (action state).2) := by
  obtain ⟨changed, ended⟩ := exists_of_toOption answer
  rw [ended]

/-- A composed action goes on from the result of its first part, or ends as that part ended. -/
theorem bind_cases (action : Action σ ε α) (next : α → Action σ ε β) (state : σ) :
    (∃ result changed, action state = (.ok result, changed) ∧
        (action >>= next) state = next result changed) ∨
      ∃ stop changed, action state = (.error stop, changed) ∧
        (action >>= next) state = (.error stop, changed) := by
  rcases apply_cases action state with ⟨result, changed, ended⟩ | ⟨stop, changed, ended⟩
  · exact .inl ⟨result, changed, ended, bind_of_ok ended next⟩
  · exact .inr ⟨stop, changed, ended, bind_of_error ended next⟩

@[simp] theorem raise_apply (error : ε) (state : σ) :
    (raise error : Action σ ε α) state = (.error (.raised error), state) := rfl

@[simp] theorem change_apply (function : σ → σ) (state : σ) :
    (change function : Action σ ε Unit) state = (.ok (), function state) := rfl

@[simp] theorem look_apply (view : σ → α) (state : σ) :
    (look view : Action σ ε α) state = (.ok (view state), state) := rfl

end Action
end EventRelay
