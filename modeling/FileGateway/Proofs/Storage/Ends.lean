import FileGateway.Proofs.Storage.Actions

/-! # Actions that end

`Ends` describes the result of an action: an answer is as described, and a failure is not that of a
call that never comes to an end. Parts of an action that end make the whole end, and a loop ends with
its invariant when every turn ends with it.
-/

namespace FileGateway.Storage

variable {α β : Type} {storage : Storage}

/-- An action answers as described, or fails for some other reason than going on for ever. -/
def Ends (result : EStateM.Result Failure Storage α) (answered : α → Storage → Prop) : Prop :=
  match result with
  | .ok value after => answered value after
  | .error failure _ => failure ≠ .endless

namespace Ends

theorem bind {action : Action α} {next : α → Action β} {middle : α → Storage → Prop}
    {answered : β → Storage → Prop} (first : Ends (action storage) middle)
    (second : ∀ value after, middle value after → Ends (next value after) answered) :
    Ends ((action >>= next) storage) answered := by
  rw [bind_run]
  cases ran : action storage with
  | ok value after =>
    rw [ran] at first
    exact second value after first
  | error failure after =>
    rw [ran] at first
    exact first

theorem imp {result : EStateM.Result Failure Storage α} {answered weaker : α → Storage → Prop}
    (ends : Ends result answered) (weakened : ∀ value after, answered value after → weaker value after) :
    Ends result weaker := by
  cases result with
  | ok value after => exact weakened value after ends
  | error failure after => exact ends

theorem raise {answered : α → Storage → Prop} (exception : Exception) :
    Ends (Storage.raise exception storage) answered :=
  show Failure.raised exception ≠ .endless by simp

theorem answerOf {outcome : Except Exception α} {answered : α → Storage → Prop}
    (succeeds : ∀ value, outcome = .ok value → answered value storage) :
    Ends (Storage.answerOf outcome storage) answered := by
  cases outcome with
  | ok value => exact succeeds value rfl
  | error exception => exact raise exception

/-- An ending that succeeds does not change the answer. -/
theorem endingWith {action : Action α} {ending : Action Unit} {answered : α → Storage → Prop}
    (ends : Ends (action storage) fun value after => ∃ last, ending after = .ok () last ∧ answered value last) :
    Ends (FileGateway.endingWith ending action storage) answered := by
  rw [FileGateway.endingWith]
  cases ran : action storage with
  | ok value after =>
    rw [ran] at ends
    obtain ⟨last, ended, holds⟩ := ends
    simp only [ended]
    exact holds
  | error failure after =>
    rw [ran] at ends
    simp only
    cases ending after <;> exact ends

theorem answerOf_any (outcome : Except Exception α) : Ends (Storage.answerOf outcome storage) fun _ _ => True :=
  answerOf fun _ _ => trivial

private theorem orUnknown (value : Option α) : Ends (Storage.orUnknown value storage) fun _ _ => True := by
  cases value with
  | some value => trivial
  | none => exact show Failure.unknown ≠ .endless by simp

theorem streamAt (stream : Nat) : Ends (Storage.streamAt stream storage) fun _ _ => True := orUnknown _

theorem clusterAt (number : Nat) : Ends (Storage.clusterAt number storage) fun _ _ => True := orUnknown _

/-- A script only answers or fails. -/
theorem scripted {script : Script} {call : Call} {read : Answer → Option α} {act : Action α}
    (ends : Ends (act storage) fun _ _ => True) :
    Ends (Storage.scripted script call read act storage) fun _ _ => True := by
  unfold Storage.scripted
  rcases script.reaction? call with _ | exception | words | answer
  · exact ends
  · exact raise exception
  · exact show Failure.crashed _ ≠ .endless by simp
  · simp only
    cases read answer with
    | none => exact ends
    | some value => trivial

theorem checkBuffer (bytes : Nat) : Ends (Storage.checkBuffer bytes storage) fun _ after => after = storage := by
  rw [Storage.checkBuffer]
  split
  · exact show Failure.crashed _ ≠ .endless by simp
  · exact rfl

/-- A loop whose turns keep an invariant of the entries passed so far. -/
theorem forIn {entries : List α} {turn : α → PUnit → Action (ForInStep PUnit)}
    (passed : List α → Storage → Prop) (start : passed [] storage)
    (step : ∀ done entry rest, entries = done ++ entry :: rest → ∀ middle, passed done middle →
      Ends (turn entry .unit middle) fun outcome after =>
        outcome = .yield .unit ∧ passed (done ++ [entry]) after) :
    Ends ((ForIn.forIn entries PUnit.unit turn : Action PUnit) storage) fun _ after => passed entries after := by
  induction entries generalizing storage passed with
  | nil => exact start
  | cons first rest ih =>
    rw [List.forIn_cons]
    apply bind (step [] first rest rfl storage start)
    rintro _ after ⟨rfl, reached⟩
    apply ih (fun done => passed (first :: done)) reached
    intro done entry later split middle
    exact step (first :: done) entry later (by rw [split, List.cons_append]) middle

end Ends

end FileGateway.Storage
