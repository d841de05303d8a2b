/-! # Actions with an ending

An action with an ending is followed by it whether it answers or fails. The ending does not change
the result, whatever it does itself.
-/

namespace FileGateway

variable {ε σ α : Type}

/-- Runs an action and then its ending. -/
def endingWith (ending : EStateM ε σ Unit) (action : EStateM ε σ α) : EStateM ε σ α := fun state =>
  match action state with
  | .ok value state =>
    match ending state with
    | .ok _ state | .error _ state => .ok value state
  | .error failure state =>
    match ending state with
    | .ok _ state | .error _ state => .error failure state

/-- Runs an action between an opening and an ending. If the opening fails, nothing follows. -/
def between (opening ending : EStateM ε σ Unit) (action : EStateM ε σ α) : EStateM ε σ α := do
  opening
  endingWith ending action

end FileGateway
