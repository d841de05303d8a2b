import FileGateway.Ending
import Mathlib.Tactic.Common

/-! # Actions within a bound

A bound relates the state before an action to the state after it, and counts something that may be used
up between them. It goes along with the parts of an action: each part uses up its share, whether it
answers or fails, and most parts use up nothing.
-/

namespace FileGateway

variable {ε σ α β : Type} {bound : Nat → σ → σ → Prop} {used more : Nat}

/-- The state after an action, whether it answers or fails. -/
def ended : EStateM.Result ε σ α → σ
  | .ok _ state | .error _ state => state

/-- What an action answers, if it does not fail. -/
@[simp] def answer? : EStateM.Result ε σ α → Option α
  | .ok value _ => some value
  | .error _ _ => none

/-- The same outcome, with another state. -/
def leaving (after : σ) : EStateM.Result ε σ α → EStateM.Result ε σ α
  | .ok value _ => .ok value after
  | .error failure _ => .error failure after

class Metered (bound : Nat → σ → σ → Prop) : Prop where
  refl : ∀ state, bound 0 state state
  trans : ∀ {first second before middle after}, bound first before middle → bound second middle after →
    bound (first + second) before after
  weaken : ∀ {used more before after}, bound used before after → used ≤ more → bound more before after

/-- An action stays within a bound from every state, and uses up so much. -/
def Within (bound : Nat → σ → σ → Prop) (used : Nat) (action : EStateM ε σ α) : Prop :=
  ∀ state, bound used state (ended (action state))

namespace Within

theorem of_same [Metered bound] {action : EStateM ε σ α} (same : ∀ state, ended (action state) = state) :
    Within bound 0 action := fun state => (same state).symm ▸ Metered.refl state

theorem pure [Metered bound] (value : α) : Within bound 0 (Pure.pure value : EStateM ε σ α) :=
  of_same fun _ => rfl

theorem throw [Metered bound] (failure : ε) :
    Within bound 0 (MonadExcept.throw failure : EStateM ε σ α) := of_same fun _ => rfl

theorem get [Metered bound] : Within bound 0 (MonadState.get : EStateM ε σ σ) := of_same fun _ => rfl

theorem modify {change : σ → σ} (changes : ∀ state, bound used state (change state)) :
    Within bound used (modify change : EStateM ε σ PUnit) := changes

/-- What looks at the state goes on from the state that it saw. -/
theorem reading {next : σ → EStateM ε σ β} (goesOn : ∀ state, bound used state (ended (next state state))) :
    Within bound used (MonadState.get >>= next) := goesOn

section Sequence

variable [Metered bound]

theorem weaken {action : EStateM ε σ α} (within : Within bound used action) (fewer : used ≤ more) :
    Within bound more action := fun state => Metered.weaken (within state) fewer

private theorem bind_at {action : EStateM ε σ α} {next : α → EStateM ε σ β} {state : σ}
    (first : bound used state (ended (action state))) (second : ∀ value, Within bound more (next value)) :
    bound (used + more) state (ended ((action >>= next) state)) := by
  change bound (used + more) state (ended (EStateM.bind action next state))
  rw [EStateM.bind]
  rcases ran : action state with ⟨value, middle⟩ | ⟨failure, middle⟩
  · rw [ran] at first
    exact Metered.trans first (second value middle)
  · rw [ran] at first
    exact Metered.weaken first (Nat.le_add_right used more)

/-- What uses up nothing may come first. -/
theorem after {action : EStateM ε σ α} {next : α → EStateM ε σ β} (first : Within bound 0 action)
    (second : ∀ value, Within bound used (next value)) : Within bound used (action >>= next) :=
  fun state => Nat.zero_add used ▸ bind_at (first state) second

/-- What uses up nothing may follow, from where the first action ended. -/
theorem followed {action : EStateM ε σ α} {next : α → EStateM ε σ β} {state : σ}
    (first : bound used state (ended (action state))) (second : ∀ value, Within bound 0 (next value)) :
    bound used state (ended ((action >>= next) state)) :=
  bind_at first second

theorem before {action : EStateM ε σ α} {next : α → EStateM ε σ β} (first : Within bound used action)
    (second : ∀ value, Within bound 0 (next value)) : Within bound used (action >>= next) :=
  fun state => followed (first state) second

/-- An action that is refused on some condition, and goes on otherwise. -/
theorem guarded {condition : Prop} {_ : Decidable condition} {refusal : EStateM ε σ PUnit}
    {next : PUnit → EStateM ε σ β} (refused : Within bound 0 refusal)
    (goesOn : Within bound used (next .unit)) :
    Within bound used (if condition then refusal >>= next else next .unit) := by
  split
  · exact after refused fun _ => goesOn
  · exact goesOn

theorem map {action : EStateM ε σ α} (within : Within bound used action) (read : α → β) :
    Within bound used (read <$> action) :=
  before within fun value => pure (read value)

theorem discard {action : EStateM ε σ α} (within : Within bound used action) :
    Within bound used (Functor.discard action) := map within fun _ => PUnit.unit

theorem forM {items : List α} {action : α → EStateM ε σ PUnit} (each : ∀ item, Within bound 0 (action item)) :
    Within bound 0 (items.forM action) := by
  induction items with
  | nil => exact pure _
  | cons item rest ih => exact after (each item) fun _ => ih

end Sequence

end Within

/-- What follows an answer goes on from it. -/
theorem bind_of_ok {action : EStateM ε σ α} {next : α → EStateM ε σ β} {value : α} {state middle : σ}
    (ran : action state = .ok value middle) : (action >>= next) state = next value middle := by
  change EStateM.bind action next state = _
  rw [EStateM.bind, ran]

theorem bind_of_error {action : EStateM ε σ α} {next : α → EStateM ε σ β} {failure : ε} {state middle : σ}
    (ran : action state = .error failure middle) : (action >>= next) state = .error failure middle := by
  change EStateM.bind action next state = _
  rw [EStateM.bind, ran]

theorem map_of_ok {action : EStateM ε σ α} {read : α → β} {value : α} {state after : σ}
    (ran : action state = .ok value after) : (read <$> action) state = .ok (read value) after := by
  change EStateM.map read action state = _
  rw [EStateM.map, ran]

theorem map_of_error {action : EStateM ε σ α} {read : α → β} {failure : ε} {state after : σ}
    (ran : action state = .error failure after) : (read <$> action) state = .error failure after := by
  change EStateM.map read action state = _
  rw [EStateM.map, ran]

theorem ended_discard (action : EStateM ε σ α) (state : σ) : ended (discard action state) = ended (action state) := by
  change ended (EStateM.map (fun _ => PUnit.unit) action state) = _
  rw [EStateM.map]
  cases action state <;> rfl

/-- An ending has the last word about the state, and none about the outcome. -/
theorem endingWith_run (ending : EStateM ε σ Unit) (action : EStateM ε σ α) (state : σ) :
    endingWith ending action state = leaving (ended (ending (ended (action state)))) (action state) := by
  rw [endingWith]
  rcases action state with ⟨value, after⟩ | ⟨failure, after⟩
  all_goals
    simp only [ended]
    rcases ending after with _ | _ <;> rfl

theorem bind_get (next : σ → EStateM ε σ β) (state : σ) : (get >>= next) state = next state state := rfl

/-- What answers did so in both its parts. -/
theorem ok_of_bind {action : EStateM ε σ α} {next : α → EStateM ε σ β} {value : β} {before after : σ}
    (ran : (action >>= next) before = .ok value after) :
    ∃ first middle, action before = .ok first middle ∧ next first middle = .ok value after := by
  change EStateM.bind action next before = _ at ran
  rw [EStateM.bind] at ran
  split at ran
  · next first middle done => exact ⟨first, middle, done, ran⟩
  · contradiction

theorem ok_of_endingWith {ending : EStateM ε σ Unit} {action : EStateM ε σ α} {value : α} {before after : σ}
    (ran : endingWith ending action before = .ok value after) :
    ∃ middle, action before = .ok value middle ∧ after = ended (ending middle) := by
  rw [endingWith_run] at ran
  rcases acted : action before with ⟨answer, middle⟩ | ⟨failure, middle⟩ <;> rw [acted] at ran
  · cases ran
    exact ⟨middle, rfl, rfl⟩
  · contradiction

/-! ## Where actions lead -/

/-- What an action answers from a state is as said, with the state that it leaves, and so is a failure. -/
def Leads (action : EStateM ε σ α) (state : σ) (answered : α → σ → Prop) (failed : ε → σ → Prop) : Prop :=
  match action state with
  | .ok value after => answered value after
  | .error failure after => failed failure after

namespace Leads

variable {action : EStateM ε σ α} {next : α → EStateM ε σ β} {state after : σ} {answered weaker : α → σ → Prop}
  {failed weakerFailed : ε → σ → Prop} {answeredNext : β → σ → Prop}

theorem of_ok {value : α} (ran : action state = .ok value after) (good : answered value after) :
    Leads action state answered failed := by
  rwa [Leads, ran]

theorem of_error {failure : ε} (ran : action state = .error failure after) (good : failed failure after) :
    Leads action state answered failed := by
  rwa [Leads, ran]

theorem answer {value : α} (leads : Leads action state answered failed) (ran : action state = .ok value after) :
    answered value after := by
  rwa [Leads, ran] at leads

theorem failure {failure : ε} (leads : Leads action state answered failed)
    (ran : action state = .error failure after) : failed failure after := by
  rwa [Leads, ran] at leads

theorem imp (leads : Leads action state answered failed)
    (answers : ∀ value after, answered value after → weaker value after)
    (fails : ∀ failure after, failed failure after → weakerFailed failure after) :
    Leads action state weaker weakerFailed := by
  rcases ran : action state with ⟨value, after⟩ | ⟨failure, after⟩
  · exact of_ok ran (answers value after (leads.answer ran))
  · exact of_error ran (fails failure after (leads.failure ran))

theorem bind (first : Leads action state answered failed)
    (second : ∀ value middle, answered value middle → Leads (next value) middle answeredNext failed) :
    Leads (action >>= next) state answeredNext failed := by
  rcases ran : action state with ⟨value, middle⟩ | ⟨failure, middle⟩
  · rw [Leads, bind_of_ok ran]
    exact second value middle (first.answer ran)
  · exact of_error (bind_of_error ran) (first.failure ran)

/-- What follows an answer leads on from it. -/
theorem after_ok {value : α} {middle : σ} (ran : action state = .ok value middle)
    (rest : Leads (next value) middle answeredNext failed) : Leads (action >>= next) state answeredNext failed := by
  rwa [Leads, bind_of_ok ran]

/-- A bound tells where an action leads. -/
theorem of_within (within : Within bound used action)
    (answers : ∀ value after, bound used state after → answered value after)
    (fails : ∀ failure after, bound used state after → failed failure after) :
    Leads action state answered failed := by
  have bounded := within state
  rcases ran : action state with ⟨value, after⟩ | ⟨failure, after⟩ <;> rw [ran] at bounded
  · exact of_ok ran (answers value after bounded)
  · exact of_error ran (fails failure after bounded)

end Leads

end FileGateway
