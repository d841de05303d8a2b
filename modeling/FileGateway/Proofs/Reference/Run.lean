import FileGateway.Proofs.Reference.Table
import Mathlib.Data.List.Induction

/-! # Runs of a reference table

A run is any sequence of calls on a table, with references from anywhere. A reference is issued from the
insert that returns it on, until it is removed; what a table resolves is exactly what is issued. The
generation of a slot counts how often the slot was released, modulo what the field holds.
-/

namespace FileGateway

inductive TableCall (α : Type)
  | insert (object : α)
  | get (reference : Reference)
  | contains (reference : Reference)
  | remove (reference : Reference)
deriving DecidableEq, Repr

namespace ReferenceTable

variable {α : Type} {table : ReferenceTable α} {call : TableCall α} {calls : List (TableCall α)}
  {reference : Reference} {object : α} {scope : Scope} {index : Nat}

/-- The table after a call. -/
def after (table : ReferenceTable α) : TableCall α → ReferenceTable α
  | .insert object => ((table.insert object).map Prod.snd).getD table
  | .get _ | .contains _ => table
  | .remove reference => (table.remove reference).2

def run (table : ReferenceTable α) (calls : List (TableCall α)) : ReferenceTable α :=
  calls.foldl after table

@[simp] theorem run_concat (table : ReferenceTable α) (calls : List (TableCall α)) (call : TableCall α) :
    table.run (calls ++ [call]) = (table.run calls).after call := by
  rw [run, run, List.foldl_append, List.foldl_cons, List.foldl_nil]

theorem run_append (table : ReferenceTable α) (calls later : List (TableCall α)) :
    table.run (calls ++ later) = (table.run calls).run later :=
  List.foldl_append

/-- The slot that a call releases. -/
def released? (table : ReferenceTable α) : TableCall α → Option Nat
  | .remove reference => if (table.get? reference).isSome then reference.index? else none
  | .insert _ | .get _ | .contains _ => none

/-- How often a slot is released in a run. -/
def releases (index : Nat) : ReferenceTable α → List (TableCall α) → Nat
  | _, [] => 0
  | table, call :: rest =>
    (if table.released? call = some index then 1 else 0) + releases index (table.after call) rest

/-! ## One call -/

/-- A call stores an object, takes one out, or leaves the table alone. -/
theorem after_cases (table : ReferenceTable α) (call : TableCall α) :
    (∃ object reference, call = .insert object ∧
      table.insert object = some (reference, table.after call)) ∨
    (∃ reference object, call = .remove reference ∧
      table.remove reference = (some object, table.after call)) ∨
    (table.after call = table ∧ (∀ object, call = .insert object → table.insert object = none) ∧
      ∀ reference, call = .remove reference → table.get? reference = none) := by
  cases call with
  | insert object =>
    cases stored : table.insert object with
    | none => exact .inr (.inr ⟨by simp [after, stored], by simp_all, by simp⟩)
    | some result => exact .inl ⟨object, result.1, rfl, by simp [after, stored]⟩
  | get | contains => exact .inr (.inr ⟨rfl, by simp, by simp⟩)
  | remove reference =>
    cases found : table.get? reference with
    | none =>
      refine .inr (.inr ⟨?_, by simp, by simp_all⟩)
      rw [after, remove_of_none found]
    | some object =>
      refine .inr (.inl ⟨reference, object, rfl, ?_⟩)
      rw [after, ← found, ← remove_fst]

theorem Consistent.after (consistent : table.Consistent) (call : TableCall α) : (table.after call).Consistent := by
  rcases table.after_cases call with ⟨_, _, -, stored⟩ | ⟨_, _, -, taken⟩ | ⟨same, -⟩
  · exact (insert_stored consistent stored).2
  · exact (remove_taken consistent taken).2
  · rwa [same]

theorem scope_after (consistent : table.Consistent) (call : TableCall α) :
    (table.after call).scope = table.scope := by
  rcases table.after_cases call with ⟨_, _, -, stored⟩ | ⟨_, _, -, taken⟩ | ⟨same, -⟩
  · exact (insert_stored consistent stored).1.sameScope
  · exact (remove_taken consistent taken).1.sameScope
  · rw [same]

/-- What resolves after a call resolved before and is not removed, or was just inserted. -/
theorem get?_after (consistent : table.Consistent) : (table.after call).get? reference = some object ↔
    (table.get? reference = some object ∧ call ≠ .remove reference) ∨
      (call = .insert object ∧ table.insert object = some (reference, table.after call)) := by
  rcases table.after_cases call with
    ⟨stored, issued, rfl, ran⟩ | ⟨gone, taken, rfl, ran⟩ | ⟨same, notStored, notTaken⟩
  · rw [(insert_stored consistent ran).1.get?_iff]
    refine or_congr (by simp) ?_
    constructor
    · rintro ⟨rfl, rfl⟩
      exact ⟨rfl, ran⟩
    · rintro ⟨same, again⟩
      obtain rfl : stored = object := by simpa using same
      rw [ran, Option.some.injEq, Prod.mk.injEq] at again
      exact ⟨again.1.symm, rfl⟩
  · rw [(remove_taken consistent ran).1.get?_iff]
    simp [eq_comm]
  · rw [same]
    constructor
    · intro found
      refine .inl ⟨found, fun removing => ?_⟩
      rw [notTaken reference removing] at found
      contradiction
    · rintro (⟨found, -⟩ | ⟨storing, ran⟩)
      · exact found
      · rw [notStored object storing] at ran
        contradiction

/-- The generation of a slot goes up by one when the slot is released. -/
theorem generation_after (consistent : table.Consistent) (call : TableCall α) (index : Nat) :
    ((table.after call).slotAt index).generation =
      ((table.slotAt index).generation + if table.released? call = some index then 1 else 0) %
        Reference.generationCount := by
  have small := consistent.generations index
  rcases table.after_cases call with
    ⟨stored, issued, rfl, ran⟩ | ⟨gone, taken, rfl, ran⟩ | ⟨same, -, notTaken⟩
  · rw [(insert_stored consistent ran).1.generation, released?, if_neg (by simp), add_zero,
      Nat.mod_eq_of_lt small]
  · have found : table.get? gone = some taken := by rw [← remove_fst, ran]
    rw [(remove_taken consistent ran).1.generation, released?, found, Option.isSome_some, if_pos rfl]
    split
    · rfl
    · rw [add_zero, Nat.mod_eq_of_lt small]
  · have notReleased : table.released? call ≠ some index := by
      cases call with
      | insert | get | contains => simp [released?]
      | remove gone => simp [released?, notTaken gone rfl]
    rw [same, if_neg notReleased, add_zero, Nat.mod_eq_of_lt small]

/-- A call releases a slot exactly if it moves its generation on. -/
theorem released?_eq_some_iff (consistent : table.Consistent) (call : TableCall α) (index : Nat) :
    table.released? call = some index ↔
      ((table.after call).slotAt index).generation ≠ (table.slotAt index).generation := by
  have small := consistent.generations index
  rw [generation_after consistent]
  split
  · next released =>
    refine iff_of_true released fun same => ?_
    rw [Reference.generationCount] at same small
    omega
  · next kept => exact iff_of_false kept (not_not.mpr (Nat.mod_eq_of_lt small))

/-! ## Runs -/

theorem Consistent.run (consistent : table.Consistent) (calls : List (TableCall α)) :
    (table.run calls).Consistent := by
  induction calls generalizing table with
  | nil => exact consistent
  | cons call rest ih => exact ih (consistent.after call)

theorem scope_run (consistent : table.Consistent) (calls : List (TableCall α)) :
    (table.run calls).scope = table.scope := by
  induction calls generalizing table with
  | nil => rfl
  | cons call rest ih => exact (ih (consistent.after call)).trans (scope_after consistent call)

theorem generation_run (consistent : table.Consistent) (calls : List (TableCall α)) (index : Nat) :
    ((table.run calls).slotAt index).generation =
      ((table.slotAt index).generation + releases index table calls) % Reference.generationCount := by
  induction calls generalizing table with
  | nil =>
    rw [releases, add_zero, Nat.mod_eq_of_lt (consistent.generations index)]
    rfl
  | cons call rest ih =>
    rw [releases, ← add_assoc, Nat.add_mod, ← generation_after consistent call]
    refine (ih (consistent.after call)).trans ?_
    rw [Nat.add_mod, Nat.mod_eq_of_lt ((consistent.after call).generations index)]

theorem releases_append (index : Nat) (table : ReferenceTable α) (calls later : List (TableCall α)) :
    releases index table (calls ++ later) = releases index table calls + releases index (table.run calls) later := by
  induction calls generalizing table with
  | nil => rw [List.nil_append, releases, zero_add]; rfl
  | cons call rest ih =>
    rw [List.cons_append, releases, releases, ih, add_assoc]
    rfl

/-- A reference stands for an object: an insert of the object returned it, and it was not removed since. -/
def Issued (scope : Scope) (calls : List (TableCall α)) (reference : Reference) (object : α) : Prop :=
  ∃ before later stored, calls = before ++ .insert object :: later ∧
    ((empty scope).run before).insert object = some (reference, stored) ∧ .remove reference ∉ later

theorem not_issued_nil : ¬Issued scope [] reference object := by
  rintro ⟨before, later, stored, same, -⟩
  simp at same

theorem issued_concat : Issued scope (calls ++ [call]) reference object ↔
    (Issued scope calls reference object ∧ call ≠ .remove reference) ∨
      (call = .insert object ∧ ∃ stored, ((empty scope).run calls).insert object = some (reference, stored)) := by
  constructor
  · rintro ⟨before, later, stored, same, ran, kept⟩
    rcases List.eq_nil_or_concat later with rfl | ⟨initial, last, rfl⟩
    · obtain ⟨rfl, rfl⟩ : calls = before ∧ call = .insert object := by simpa using same
      exact .inr ⟨rfl, stored, ran⟩
    · rw [List.concat_eq_append] at same kept
      rw [← List.cons_append, ← List.append_assoc] at same
      obtain ⟨rfl, ended⟩ := List.append_inj' same rfl
      obtain rfl : call = last := List.singleton_inj.mp ended
      simp only [List.mem_append, List.mem_singleton, not_or] at kept
      exact .inl ⟨⟨before, initial, stored, rfl, ran, kept.1⟩, Ne.symm kept.2⟩
  · rintro (⟨⟨before, later, stored, rfl, ran, kept⟩, different⟩ | ⟨rfl, stored, ran⟩)
    · exact ⟨before, later ++ [call], stored, by simp, ran, by simp [kept, Ne.symm different]⟩
    · exact ⟨calls, [], stored, rfl, ran, by simp⟩

/-- A table resolves what is issued, and nothing else. -/
theorem get?_run_iff : ((empty scope).run calls).get? reference = some object ↔
    Issued scope calls reference object := by
  induction calls using List.reverseRecOn generalizing object with
  | nil =>
    refine iff_of_false (fun found => ?_) not_issued_nil
    obtain ⟨-, index, -, slot⟩ := get?_eq_some_iff.mp found
    simp [slotAt, run, empty] at slot
  | append_singleton calls call ih =>
    rw [run_concat, get?_after ((consistent_empty scope).run calls), ih, issued_concat]
    refine or_congr Iff.rfl (and_congr_right ?_)
    rintro rfl
    constructor
    · exact fun ran => ⟨_, ran⟩
    · rintro ⟨stored, ran⟩
      rw [after, ran]
      rfl

/-! ## Removed references -/

/-- What is not removed still resolves. -/
theorem get?_run_of_not_mem (consistent : table.Consistent) (found : table.get? reference = some object)
    (kept : .remove reference ∉ calls) : (table.run calls).get? reference = some object := by
  induction calls generalizing table with
  | nil => exact found
  | cons call rest ih =>
    rw [List.mem_cons, not_or] at kept
    obtain ⟨other, kept⟩ := kept
    exact ih (consistent.after call) ((get?_after consistent).mpr (.inl ⟨found, Ne.symm other⟩)) kept

/-- A reference that resolves is removed by the first call that asks for it. -/
theorem releases_pos (consistent : table.Consistent) (found : table.get? reference = some object)
    (atPlace : reference.index? = some index) (removed : .remove reference ∈ calls) :
    0 < releases index table calls := by
  induction calls generalizing table with
  | nil => simp at removed
  | cons call rest ih =>
    rw [releases]
    by_cases removing : call = .remove reference
    · have released : table.released? call = some index := by simp [removing, released?, found, atPlace]
      rw [if_pos released]
      omega
    · have inRest : .remove reference ∈ rest := (List.mem_cons.mp removed).resolve_left (Ne.symm removing)
      have kept : (table.after call).get? reference = some object :=
        (get?_after consistent).mpr (.inl ⟨found, removing⟩)
      have later := ih (consistent.after call) kept inRest
      omega

/-- As long as its slot was not released a full round, the slot of a removed reference has another
generation than the reference. -/
theorem generation_ne_of_removed (consistent : table.Consistent) (found : table.get? reference = some object)
    (atPlace : reference.index? = some index) (removed : .remove reference ∈ calls)
    (few : releases index table calls < Reference.generationCount) :
    ((table.run calls).slotAt index).generation ≠ reference.generation := by
  obtain ⟨-, place, otherPlace, slot⟩ := get?_eq_some_iff.mp found
  obtain rfl : place = index := Option.some.inj (otherPlace.symm.trans atPlace)
  have positive := releases_pos consistent found atPlace removed
  have small := reference.generation_lt
  have issued : (table.slotAt place).generation = reference.generation := by rw [slot]
  rw [generation_run consistent, issued]
  rw [Reference.generationCount] at few small ⊢
  omega

end ReferenceTable

end FileGateway
