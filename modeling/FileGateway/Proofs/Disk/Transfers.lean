import FileGateway.Disk.Transfer
import Mathlib.Data.List.Infix
import Mathlib.Order.Basic

/-! # How far transfers get

A write gets as far as it says, in any number of transfers: all the way if it was not stopped, and not all the way if
it was. Only a transfer that is refused for good stops it.
-/

namespace FileGateway.Transfer

variable {transfers : List Transfer} {count : Nat} {error : SystemError}

/-- The system refuses one of the transfers, and not because it was interrupted. -/
def Stops (transfers : List Transfer) (error : SystemError) : Prop :=
  refused error ∈ transfers ∧ error.errorKind ≠ .interrupted

theorem Stops.of_suffix {rest : List Transfer} (stops : Stops rest error) (suffix : rest <:+ transfers) :
    Stops transfers error :=
  ⟨suffix.mem stops.1, stops.2⟩

theorem next_suffix (transfers : List Transfer) : (next transfers).2 <:+ transfers := by
  rcases transfers with _ | ⟨_ | _, rest⟩
  · exact List.suffix_rfl
  all_goals exact List.suffix_cons _ rest

/-- The next transfer moves something, or is refused. -/
theorem next_cases (transfers : List Transfer) (count : Nat) :
    (∃ most, (next transfers).1 = .ok most ∧ 0 < most ∧
      ((∀ bound, moved bound ∈ transfers → count ≤ bound) → min count limit ≤ most)) ∨
    ∃ error, (next transfers).1 = .error error ∧ refused error ∈ transfers := by
  rcases transfers with _ | ⟨most | error, rest⟩
  · exact .inl ⟨limit, rfl, by decide, fun _ => Nat.min_le_right ..⟩
  · refine .inl ⟨_, rfl, ?_, fun ample => ?_⟩
    · have : 0 < limit := by decide
      omega
    · have := ample most (List.mem_cons_self ..)
      omega
  · exact .inr ⟨error, rfl, List.mem_cons_self ..⟩

/-! ## Writing -/

theorem deliver_le (transfers : List Transfer) (count : Nat) : (deliver transfers count).arrived ≤ count := by
  fun_induction deliver transfers count with
  | case1 | case2 | case5 => simp
  | case3 most rest count positive step later ih =>
    have short : step ≤ count := Nat.min_le_left ..
    have behind : later.arrived ≤ count - step := ih
    change step + later.arrived ≤ count
    omega
  | case4 error rest count positive interrupted ih => exact ih

/-- Writing is stopped exactly if something is left. -/
theorem deliver_ok_iff (transfers : List Transfer) (count : Nat) :
    (deliver transfers count).outcome = .ok () ↔ (deliver transfers count).arrived = count := by
  fun_induction deliver transfers count with
  | case1 | case2 => simp
  | case3 most rest count positive step later ih =>
    have short : step ≤ count := Nat.min_le_left ..
    change later.outcome = .ok () ↔ step + later.arrived = count
    have behind : later.outcome = .ok () ↔ later.arrived = count - step := ih
    rw [behind]
    omega
  | case4 error rest count positive interrupted ih => exact ih
  | case5 error rest count positive stopped => simpa using Ne.symm positive

theorem deliver_suffix (transfers : List Transfer) (count : Nat) :
    (deliver transfers count).transfers <:+ transfers := by
  fun_induction deliver transfers count with
  | case1 | case2 => exact List.suffix_rfl
  | case3 most rest count positive step later ih | case4 error rest count positive interrupted ih =>
    exact ih.trans (List.suffix_cons _ rest)
  | case5 error rest => exact List.suffix_cons _ rest

/-- Writing is stopped by a transfer that was refused for good. -/
theorem deliver_error (stopped : (deliver transfers count).outcome = .error error) : Stops transfers error := by
  fun_induction deliver transfers count with
  | case1 | case2 => contradiction
  | case3 most rest count positive step later ih => exact (ih stopped).of_suffix (List.suffix_cons _ rest)
  | case4 other rest count positive interrupted ih => exact (ih stopped).of_suffix (List.suffix_cons _ rest)
  | case5 other rest count positive final =>
    obtain rfl := Except.error.inj stopped
    exact ⟨List.mem_cons_self .., final⟩

end FileGateway.Transfer
