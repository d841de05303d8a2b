import FileGateway.Proofs.Reference.Encoding
import FileGateway.Reference.Table
import Mathlib.Data.List.Basic
import Mathlib.Logic.Function.Basic

/-! # What the operations of a reference table do

A table is told by what is at each index: a generation, and the object if there is one. Storing fills a
vacant slot under the generation it has, and taking out vacates a slot under the next one; every other
slot stays as it was. What the table keeps beside its slots agrees with them throughout.
-/

namespace FileGateway.ReferenceTable

open Function (update)

variable {α : Type} {table after : ReferenceTable α} {reference : Reference} {index : Nat} {object : α}

/-- The slot at an index. One that was never used is vacant. -/
def slotAt (table : ReferenceTable α) (index : Nat) : Slot α := (table.slots[index]?).getD ⟨0, none⟩

theorem slotAt_eq_some_iff {generation : Nat} : table.slotAt index = ⟨generation, some object⟩ ↔
    table.slots[index]? = some ⟨generation, some object⟩ := by
  rw [slotAt]
  cases table.slots[index]? with
  | none => simp
  | some slot => simp

/-! ## Resolving -/

theorem slot?_eq_some_iff {slot : Slot α} : table.slot? reference = some (index, slot) ↔
    reference.scope = table.scope ∧ reference.index? = some index ∧ table.slots[index]? = some slot ∧
      slot.generation = reference.generation ∧ slot.object.isSome = true := by
  rw [slot?]
  constructor
  · intro found
    split at found
    · contradiction
    · next inScope =>
      split at found
      · contradiction
      · next place atPlace =>
        split at found
        · contradiction
        · next held present =>
          split at found
          · next good =>
            obtain ⟨rfl, rfl⟩ : place = index ∧ held = slot := by simpa using found
            exact ⟨not_not.mp inScope, atPlace, present, good⟩
          · contradiction
  · rintro ⟨inScope, atPlace, present, good⟩
    simp only [inScope, ne_eq, not_true_eq_false, if_false, atPlace, present, good, and_self, if_true]

/-- A reference resolves to what its slot holds under its generation. -/
theorem get?_eq_some_iff : table.get? reference = some object ↔
    reference.scope = table.scope ∧ ∃ index, reference.index? = some index ∧
      table.slotAt index = ⟨reference.generation, some object⟩ := by
  rw [get?, Option.bind_eq_some_iff]
  constructor
  · rintro ⟨⟨index, generation, held⟩, found, same⟩
    obtain ⟨inScope, atPlace, present, rfl, -⟩ := slot?_eq_some_iff.mp found
    exact ⟨inScope, index, atPlace, slotAt_eq_some_iff.mpr (by rw [present]; congr)⟩
  · rintro ⟨inScope, index, atPlace, slot⟩
    exact ⟨_, slot?_eq_some_iff.mpr ⟨inScope, atPlace, slotAt_eq_some_iff.mp slot, rfl, rfl⟩, rfl⟩

theorem slot?_eq_none_iff : table.slot? reference = none ↔ table.get? reference = none := by
  rw [get?, Option.bind_eq_none_iff]
  constructor
  · intro absent entry found
    rw [absent] at found
    contradiction
  · intro unresolved
    by_contra present
    obtain ⟨⟨index, slot⟩, found⟩ := Option.ne_none_iff_exists'.mp present
    have occupied := (slot?_eq_some_iff.mp found).2.2.2.2
    rw [unresolved _ found] at occupied
    contradiction

theorem contains_eq (table : ReferenceTable α) (reference : Reference) :
    table.contains reference = (table.get? reference).isSome := by
  rw [contains, Bool.eq_iff_iff, Option.isSome_iff_ne_none, Option.isSome_iff_ne_none, ne_eq, ne_eq,
    slot?_eq_none_iff]

/-- The other table's references do not resolve. -/
theorem get?_of_other_scope (other : reference.scope ≠ table.scope) : table.get? reference = none := by
  rw [get?, slot?, if_pos other]
  rfl

/-- Taking out what does not resolve changes nothing. -/
theorem remove_of_none (unresolved : table.get? reference = none) : table.remove reference = (none, table) := by
  rw [remove, slot?_eq_none_iff.mpr unresolved]

/-! ## Consistency -/

structure Consistent (table : ReferenceTable α) : Prop where
  bounded : table.slots.length ≤ Reference.maxSlots
  generations : ∀ index, (table.slotAt index).generation < Reference.generationCount
  free_nodup : table.free.Nodup
  /-- The vacant slots are free. -/
  mem_free_iff : ∀ {index}, index ∈ table.free ↔
    index < table.slots.length ∧ (table.slotAt index).object = none
  live_eq : table.live = table.slots.countP (·.object.isSome)

theorem consistent_empty (scope : Scope) : Consistent (α := α) (empty scope) where
  bounded := Nat.zero_le _
  generations index := by simp [slotAt, empty, Reference.generationCount]
  free_nodup := List.nodup_nil
  mem_free_iff := by simp [empty]
  live_eq := rfl

private theorem slotAt_set {slot : Slot α} (bound : index < table.slots.length)
    (slots : after.slots = table.slots.set index slot) : after.slotAt = update table.slotAt index slot := by
  funext other
  rw [slotAt, slots, List.getElem?_set, Function.update_apply]
  by_cases same : other = index
  · simp [same, bound]
  · rw [if_neg (Ne.symm same), if_neg same, slotAt]

private theorem slotAt_concat {slot : Slot α} (slots : after.slots = table.slots ++ [slot]) :
    after.slotAt = update table.slotAt table.slots.length slot := by
  funext other
  rw [slotAt, slots, Function.update_apply, slotAt]
  split
  · next atEnd => rw [atEnd, List.getElem?_concat_length, Option.getD_some]
  · next elsewhere =>
    rcases Nat.lt_or_gt_of_ne elsewhere with before | beyond
    · rw [List.getElem?_append_left before]
    · rw [List.getElem?_eq_none (by simp; omega), List.getElem?_eq_none (by omega)]

private theorem slotAt_of_lt (bound : index < table.slots.length) : table.slotAt index = table.slots[index] := by
  rw [slotAt, List.getElem?_eq_getElem bound, Option.getD_some]

/-! ## Storing and taking out -/

/-- Another slot is filled, under the generation it has, by the object of a new reference. -/
structure Stored (table : ReferenceTable α) (object : α) (reference : Reference) (after : ReferenceTable α) :
    Prop where
  inScope : reference.scope = table.scope
  sameScope : after.scope = table.scope
  filled : ∃ index, reference.index? = some index ∧ table.slotAt index = ⟨reference.generation, none⟩ ∧
    after.slotAt = update table.slotAt index ⟨reference.generation, some object⟩

/-- The slot of a reference is vacated, under the next generation. -/
structure Taken (table : ReferenceTable α) (object : α) (reference : Reference) (after : ReferenceTable α) :
    Prop where
  inScope : reference.scope = table.scope
  sameScope : after.scope = table.scope
  vacated : ∃ index, reference.index? = some index ∧ table.slotAt index = ⟨reference.generation, some object⟩ ∧
    after.slotAt = update table.slotAt index
      ⟨(reference.generation + 1) % Reference.generationCount, none⟩

private theorem stored_of_make {generation : Nat} (bound : index < Reference.maxSlots)
    (small : generation < Reference.generationCount) (vacant : table.slotAt index = ⟨generation, none⟩)
    (sameScope : after.scope = table.scope)
    (filled : after.slotAt = update table.slotAt index ⟨generation, some object⟩) :
    Stored table object (.make table.scope index generation) after := by
  have sameGeneration : (Reference.make table.scope index generation).generation = generation := by
    rw [Reference.generation_make bound, Nat.mod_eq_of_lt small]
  refine ⟨Reference.scope_make bound, sameScope, index, Reference.index?_make bound, ?_, ?_⟩
  · rw [sameGeneration, vacant]
  · rw [sameGeneration, filled]

private theorem stored_in_vacated {rest : List Nat} (consistent : table.Consistent)
    (free : table.free = index :: rest) (sameScope : after.scope = table.scope)
    (slots : after.slots = table.slots.set index ⟨(table.slotAt index).generation, some object⟩)
    (left : after.free = rest) (live : after.live = table.live + 1) :
    Stored table object (.make table.scope index (table.slotAt index).generation) after ∧
      after.Consistent := by
  obtain ⟨bound, vacant⟩ := consistent.mem_free_iff.mp (free ▸ List.mem_cons_self)
  obtain ⟨fresh, nodup⟩ := List.nodup_cons.mp (free ▸ consistent.free_nodup)
  have atSlot : table.slotAt index = ⟨(table.slotAt index).generation, none⟩ := by rw [← vacant]
  have filled := slotAt_set bound slots
  refine ⟨stored_of_make (lt_of_lt_of_le bound consistent.bounded) (consistent.generations index) atSlot
    sameScope filled, ?_, ?_, left ▸ nodup, ?_, ?_⟩
  · rw [slots, List.length_set]
    exact consistent.bounded
  · intro other
    rw [filled, Function.update_apply]
    split
    · exact consistent.generations index
    · exact consistent.generations other
  · intro other
    rw [filled, Function.update_apply, slots, List.length_set, left]
    by_cases same : other = index
    · simp [same, fresh]
    · rw [if_neg same, ← consistent.mem_free_iff, free, List.mem_cons, or_iff_right same]
  · rw [live, slots, List.countP_set bound, ← slotAt_of_lt bound, vacant, consistent.live_eq]
    simp

private theorem stored_in_new (consistent : table.Consistent) (free : table.free = [])
    (room : table.slots.length < Reference.maxSlots) (sameScope : after.scope = table.scope)
    (slots : after.slots = table.slots ++ [⟨0, some object⟩]) (left : after.free = [])
    (live : after.live = table.live + 1) :
    Stored table object (.make table.scope table.slots.length 0) after ∧ after.Consistent := by
  have unused : table.slotAt table.slots.length = ⟨0, none⟩ := by
    rw [slotAt, List.getElem?_eq_none le_rfl, Option.getD_none]
  have filled := slotAt_concat slots
  refine ⟨stored_of_make room (by decide) unused sameScope filled, ?_, ?_, left ▸ List.nodup_nil, ?_, ?_⟩
  · rw [slots, List.length_append, List.length_singleton]
    exact room
  · intro other
    rw [filled, Function.update_apply]
    split
    · exact (by decide : 0 < Reference.generationCount)
    · exact consistent.generations other
  · intro other
    have before : other ∈ [] ↔ other < table.slots.length ∧ (table.slotAt other).object = none :=
      free ▸ consistent.mem_free_iff
    rw [filled, Function.update_apply, slots, List.length_append, List.length_singleton, left, before]
    by_cases same : other = table.slots.length
    · simp [same]
    · rw [if_neg same]
      have further : other < table.slots.length + 1 ↔ other < table.slots.length := by omega
      rw [further]
  · rw [live, slots, List.countP_append, ← consistent.live_eq]
    rfl

/-- The next object goes into the slot vacated last, or into a new one. -/
theorem insert_stored (consistent : table.Consistent) (stored : table.insert object = some (reference, after)) :
    Stored table object reference after ∧ after.Consistent := by
  rw [insert] at stored
  cases free : table.free with
  | cons index rest =>
    have fromSlots : ((table.slots[index]?).map Slot.generation).getD 0 = (table.slotAt index).generation := by
      rw [slotAt]
      cases table.slots[index]? <;> rfl
    simp only [free, fromSlots, Option.some.injEq, Prod.mk.injEq] at stored
    obtain ⟨rfl, rfl⟩ := stored
    exact stored_in_vacated consistent free rfl rfl rfl rfl
  | nil =>
    simp only [free] at stored
    split at stored
    · next room =>
      simp only [Option.some.injEq, Prod.mk.injEq] at stored
      obtain ⟨rfl, rfl⟩ := stored
      exact stored_in_new consistent free room rfl rfl rfl rfl
    · contradiction

theorem remove_taken (consistent : table.Consistent) (taken : table.remove reference = (some object, after)) :
    Taken table object reference after ∧ after.Consistent := by
  rw [remove] at taken
  split at taken
  · simp at taken
  · next index slot found =>
    obtain ⟨inScope, atPlace, present, sameGeneration, -⟩ := slot?_eq_some_iff.mp found
    obtain ⟨occupied, rfl⟩ := Prod.mk.inj taken
    obtain ⟨bound, atSlot⟩ := List.getElem?_eq_some_iff.mp present
    have slots : ({ table with
        slots := table.slots.set index ⟨(slot.generation + 1) % Reference.generationCount, none⟩
        free := index :: table.free, live := table.live - 1 } : ReferenceTable α).slotAt =
        update table.slotAt index ⟨(slot.generation + 1) % Reference.generationCount, none⟩ := slotAt_set bound rfl
    have isSlot : table.slotAt index = ⟨reference.generation, some object⟩ := by
      rw [slotAt_of_lt bound, atSlot, ← sameGeneration, ← occupied]
    have notFree : index ∉ table.free := by
      intro member
      have vacant := (consistent.mem_free_iff.mp member).2
      simp [isSlot] at vacant
    refine ⟨⟨inScope, rfl, index, atPlace, isSlot, sameGeneration ▸ slots⟩, ?_, ?_, ?_, ?_, ?_⟩
    · simpa using consistent.bounded
    · intro other
      rw [slots, Function.update_apply]
      split
      · exact Nat.mod_lt _ (by decide)
      · exact consistent.generations other
    · exact List.nodup_cons.mpr ⟨notFree, consistent.free_nodup⟩
    · intro other
      rw [slots, Function.update_apply, List.length_set, List.mem_cons, consistent.mem_free_iff]
      by_cases same : other = index
      · simp [same, bound]
      · rw [if_neg same, or_iff_right same]
    · change table.live - 1 = (table.slots.set index _).countP _
      rw [List.countP_set bound, ← slotAt_of_lt bound, isSlot, consistent.live_eq]
      simp

/-- What resolves can be taken out. -/
theorem remove_fst (table : ReferenceTable α) (reference : Reference) :
    (table.remove reference).1 = table.get? reference := by
  rw [remove, get?]
  cases table.slot? reference <;> rfl

/-! ## What resolves afterwards -/

variable {other : Reference} {held : α}

/-- A new reference resolves to its object, and what resolved before still does. -/
theorem Stored.get?_iff (stored : Stored table object reference after) :
    after.get? other = some held ↔ table.get? other = some held ∨ (other = reference ∧ held = object) := by
  obtain ⟨inScope, sameScope, index, atPlace, vacant, filled⟩ := stored
  rw [get?_eq_some_iff, get?_eq_some_iff, sameScope, filled]
  constructor
  · rintro ⟨otherScope, place, otherPlace, slot⟩
    by_cases same : place = index
    · subst same
      rw [Function.update_self, Slot.mk.injEq, Option.some.injEq] at slot
      exact .inr ⟨(Reference.eq_of_fields (inScope.trans otherScope.symm) atPlace otherPlace slot.1).symm,
        slot.2.symm⟩
    · rw [Function.update_of_ne same] at slot
      exact .inl ⟨otherScope, place, otherPlace, slot⟩
  · rintro (⟨otherScope, place, otherPlace, slot⟩ | ⟨rfl, rfl⟩)
    · have apart : place ≠ index := by
        rintro rfl
        simp [vacant] at slot
      exact ⟨otherScope, place, otherPlace, by rw [Function.update_of_ne apart, slot]⟩
    · exact ⟨inScope, index, atPlace, Function.update_self ..⟩

/-- A reference that is taken out resolves no longer, and all others go on as before. -/
theorem Taken.get?_iff (taken : Taken table object reference after) :
    after.get? other = some held ↔ table.get? other = some held ∧ other ≠ reference := by
  obtain ⟨inScope, sameScope, index, atPlace, occupied, vacated⟩ := taken
  rw [get?_eq_some_iff, get?_eq_some_iff, sameScope, vacated]
  constructor
  · rintro ⟨otherScope, place, otherPlace, slot⟩
    have apart : place ≠ index := by
      rintro rfl
      simp at slot
    rw [Function.update_of_ne apart] at slot
    refine ⟨⟨otherScope, place, otherPlace, slot⟩, ?_⟩
    rintro rfl
    exact apart (Option.some.inj (otherPlace.symm.trans atPlace))
  · rintro ⟨⟨otherScope, place, otherPlace, slot⟩, different⟩
    have apart : place ≠ index := by
      rintro rfl
      rw [occupied, Slot.mk.injEq] at slot
      exact different (Reference.eq_of_fields (otherScope.trans inScope.symm) otherPlace atPlace slot.1.symm)
    exact ⟨otherScope, place, otherPlace, by rw [Function.update_of_ne apart, slot]⟩

theorem Stored.generation (stored : Stored table object reference after) (index : Nat) :
    (after.slotAt index).generation = (table.slotAt index).generation := by
  obtain ⟨-, -, place, -, vacant, filled⟩ := stored
  rw [filled, Function.update_apply]
  split
  · next same => rw [same, vacant]
  · rfl

theorem Taken.generation (taken : Taken table object reference after) (index : Nat) :
    (after.slotAt index).generation =
      if reference.index? = some index then
        ((table.slotAt index).generation + 1) % Reference.generationCount
      else (table.slotAt index).generation := by
  obtain ⟨-, -, place, atPlace, occupied, vacated⟩ := taken
  rw [vacated, atPlace, Function.update_apply]
  by_cases same : index = place
  · rw [if_pos same, if_pos (by rw [same]), same, occupied]
  · rw [if_neg same, if_neg fun equal => same (Option.some.inj equal).symm]

end FileGateway.ReferenceTable
