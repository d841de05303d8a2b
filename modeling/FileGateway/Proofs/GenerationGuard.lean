import FileGateway.Proofs.Reference.Run

/-! # References that went stale

A reference resolves to the object that it was issued for, until it is removed. Afterwards it is told
from the references issued for the same slot by the generation alone, which is counted in 31 bits: it
does not resolve again before its slot was released as often as 31 bits can count. Nothing else that a
caller may pass resolves at all.
-/

namespace FileGateway.ReferenceTable

variable {α : Type} {table : ReferenceTable α} {reference : Reference} {index : Nat}

/-- A table takes a reference for nothing and does not hand it out. -/
structure Dead (table : ReferenceTable α) (reference : Reference) : Prop where
  get? : table.get? reference = none
  contains : table.contains reference = false
  remove : table.remove reference = (none, table)
  /-- The next reference is another one. -/
  insert : ∀ object issued stored, table.insert object = some (issued, stored) → issued ≠ reference

private theorem dead_of_generation (consistent : table.Consistent) (atPlace : reference.index? = some index)
    (different : (table.slotAt index).generation ≠ reference.generation) : Dead table reference := by
  have unresolved : table.get? reference = none := by
    by_contra found
    obtain ⟨object, found⟩ := Option.ne_none_iff_exists'.mp found
    obtain ⟨-, place, otherPlace, slot⟩ := get?_eq_some_iff.mp found
    obtain rfl : place = index := Option.some.inj (otherPlace.symm.trans atPlace)
    exact different (by rw [slot])
  refine ⟨unresolved, by rw [contains_eq, unresolved]; rfl, remove_of_none unresolved, ?_⟩
  rintro object issued stored ran rfl
  obtain ⟨-, -, place, otherPlace, vacant, -⟩ := (insert_stored consistent ran).1
  obtain rfl : place = index := Option.some.inj (otherPlace.symm.trans atPlace)
  exact different (by rw [vacant])

/-- In every run of a table, with references from anywhere: what resolves is what is issued; a reference
that was issued and removed is dead while its slot was released fewer times since than generations are
told apart; references of the other scope do not resolve; the table counts its objects, and its free
list holds each vacant slot once; and what cannot be removed changes nothing. -/
theorem generation_guard (scope : Scope) (calls : List (TableCall α)) :
    let table := (empty scope).run calls
    (∀ reference object, table.get? reference = some object ↔ Issued scope calls reference object) ∧
    (∀ reference, table.contains reference = true ↔ ∃ object, Issued scope calls reference object) ∧
    (∀ before later object reference stored index, calls = before ++ .insert object :: later →
      ((empty scope).run before).insert object = some (reference, stored) →
      .remove reference ∈ later → reference.index? = some index →
      releases index stored later < Reference.generationCount → Dead table reference) ∧
    (∀ reference, reference.scope ≠ scope →
      table.get? reference = none ∧ table.contains reference = false ∧
        table.remove reference = (none, table)) ∧
    table.live = table.slots.countP (·.object.isSome) ∧
    table.free.Nodup ∧
    (∀ index, index ∈ table.free ↔ ∃ generation, table.slots[index]? = some ⟨generation, none⟩) ∧
    (∀ reference, (table.remove reference).1 = none → (table.remove reference).2 = table) := by
  intro table
  have consistent : table.Consistent := (consistent_empty scope).run calls
  refine ⟨fun _ _ => get?_run_iff, ?_, ?_, ?_, consistent.live_eq, consistent.free_nodup, ?_, ?_⟩
  · intro reference
    rw [contains_eq, Option.isSome_iff_exists]
    exact exists_congr fun _ => get?_run_iff
  · rintro before later object reference stored index rfl ran removed atPlace few
    have earlier : Consistent ((empty scope).run before) := (consistent_empty scope).run before
    obtain ⟨isStored, consistentStored⟩ := insert_stored earlier ran
    have found : stored.get? reference = some object := isStored.get?_iff.mpr (.inr ⟨rfl, rfl⟩)
    have isLater : table = stored.run later := by
      have first : ((empty scope).run before).after (.insert object) = stored := by
        rw [after, ran]
        rfl
      exact (run_append ..).trans (congrArg (run · later) first)
    rw [isLater]
    exact dead_of_generation (consistentStored.run later) atPlace
      (generation_ne_of_removed consistentStored found atPlace removed few)
  · intro reference other
    have inScope : table.scope = scope := scope_run (consistent_empty scope) calls
    have unresolved : table.get? reference = none := get?_of_other_scope (inScope ▸ other)
    exact ⟨unresolved, by rw [contains_eq, unresolved]; rfl, remove_of_none unresolved⟩
  · intro index
    rw [consistent.mem_free_iff]
    constructor
    · rintro ⟨bound, vacant⟩
      refine ⟨table.slots[index].generation, ?_⟩
      rw [slotAt, List.getElem?_eq_getElem bound, Option.getD_some] at vacant
      rw [List.getElem?_eq_getElem bound, ← vacant]
    · rintro ⟨generation, present⟩
      exact ⟨(List.getElem?_eq_some_iff.mp present).1, by rw [slotAt, present]; rfl⟩
  · intro reference unresolved
    rw [remove_fst] at unresolved
    rw [remove_of_none unresolved]

/-- An object is stored and removed, and another one takes its slot: the first reference is dead. -/
theorem generation_guard_after_reuse :
    let first := Reference.make .globals 0 0
    Dead ((empty .globals).run [.insert 7, .remove first, .insert 8]) first := by
  intro first
  exact (generation_guard .globals [.insert 7, .remove first, .insert 8]).2.2.1 [] [.remove first, .insert 8] 7
    first _ 0 rfl rfl (by simp) (by decide) (by decide)

end FileGateway.ReferenceTable
