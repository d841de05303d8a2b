import FileGateway.Proofs.Reference.Run
import FileGateway.Reference.Frames
import Mathlib.Data.List.Perm.Basic

/-! # Frames of local references

The frames of a thread mention exactly the references that its table resolves, each in one place. Every
operation changes both sides alike: storing adds a reference to the top frame, deleting one takes its mention
away wherever it is, and popping releases what the top frame mentions.
-/

namespace FileGateway

variable {α : Type}

namespace ReferenceTable

variable {table after : ReferenceTable α} {reference : Reference} {object : α} {index : Nat}

@[simp] theorem get?_empty (scope : Scope) (reference : Reference) :
    (empty scope : ReferenceTable α).get? reference = none := by
  by_contra found
  obtain ⟨object, found⟩ := Option.ne_none_iff_exists'.mp found
  obtain ⟨-, index, -, slot⟩ := get?_eq_some_iff.mp found
  simp [slotAt, empty] at slot

theorem insert_live (stored : table.insert object = some (reference, after)) : after.live = table.live + 1 := by
  rw [insert] at stored
  cases free : table.free with
  | cons index rest =>
    simp only [free, Option.some.injEq, Prod.mk.injEq] at stored
    rw [← stored.2]
  | nil =>
    simp only [free] at stored
    split at stored
    · simp only [Option.some.injEq, Prod.mk.injEq] at stored
      rw [← stored.2]
    · cases stored

/-- What resolves is counted. -/
theorem live_pos (consistent : table.Consistent) (found : table.get? reference = some object) : 0 < table.live := by
  obtain ⟨-, index, -, slot⟩ := get?_eq_some_iff.mp found
  rw [consistent.live_eq, List.countP_pos_iff]
  exact ⟨_, List.mem_of_getElem? (slotAt_eq_some_iff.mp slot), rfl⟩

theorem remove_live (consistent : table.Consistent) (taken : table.remove reference = (some object, after)) :
    after.live + 1 = table.live := by
  have found : table.get? reference = some object := by rw [← remove_fst, taken]
  have positive := live_pos consistent found
  rw [remove] at taken
  split at taken
  · cases taken
  · have fewer : after.live = table.live - 1 := by rw [← (Prod.mk.inj taken).2]
    omega

theorem remove_of_get? (found : table.get? reference = some object) :
    ∃ after, table.remove reference = (some object, after) :=
  ⟨(table.remove reference).2, Prod.ext ((remove_fst table reference).trans found) rfl⟩

theorem live_le (consistent : table.Consistent) : table.live ≤ Reference.maxSlots := by
  rw [consistent.live_eq]
  exact List.countP_le_length.trans consistent.bounded

/-- Only a table that uses every slot is full. -/
theorem live_of_full (consistent : table.Consistent) (full : table.insert object = none) :
    table.live = Reference.maxSlots := by
  rw [insert] at full
  cases free : table.free with
  | cons index rest => simp [free] at full
  | nil =>
    simp only [free, ite_eq_right_iff, reduceCtorEq, imp_false, Nat.not_lt] at full
    have occupied : table.slots.countP (·.object.isSome) = table.slots.length := by
      rw [List.countP_eq_length]
      intro slot member
      obtain ⟨index, bound, rfl⟩ := List.mem_iff_getElem.mp member
      have notFree : index ∉ table.free := free ▸ List.not_mem_nil
      rw [consistent.mem_free_iff, not_and, ← ne_eq, ← Option.isSome_iff_ne_none] at notFree
      have isSlot : table.slotAt index = table.slots[index] := by
        rw [slotAt, List.getElem?_eq_getElem bound, Option.getD_some]
      exact isSlot ▸ notFree bound
    have bounded := consistent.bounded
    rw [consistent.live_eq, occupied]
    omega

theorem mem_objects (found : table.get? reference = some object) : object ∈ table.objects := by
  obtain ⟨-, index, -, slot⟩ := get?_eq_some_iff.mp found
  exact List.mem_filterMap.mpr ⟨_, List.mem_of_getElem? (slotAt_eq_some_iff.mp slot), rfl⟩

/-- Every object in a table has a reference. -/
theorem exists_of_mem_objects (consistent : table.Consistent) (member : object ∈ table.objects) :
    ∃ reference, table.get? reference = some object := by
  obtain ⟨⟨generation, held⟩, inSlots, isObject⟩ := List.mem_filterMap.mp member
  obtain rfl : held = some object := isObject
  obtain ⟨index, bound, present⟩ := List.mem_iff_getElem.mp inSlots
  have small : index < Reference.maxSlots := lt_of_lt_of_le bound consistent.bounded
  have slot : table.slotAt index = ⟨generation, some object⟩ :=
    slotAt_eq_some_iff.mpr (by rw [List.getElem?_eq_getElem bound, present])
  have inRange : generation < Reference.generationCount := by
    have bounded := consistent.generations index
    rwa [slot] at bounded
  refine ⟨.make table.scope index generation, get?_eq_some_iff.mpr
    ⟨Reference.scope_make small, index, Reference.index?_make small, ?_⟩⟩
  rw [Reference.generation_make small, Nat.mod_eq_of_lt inRange, slot]

/-- A new reference did not resolve before. -/
theorem Stored.get?_eq_none (stored : Stored table object reference after) : table.get? reference = none := by
  obtain ⟨-, -, index, atPlace, vacant, -⟩ := stored
  by_contra found
  obtain ⟨held, found⟩ := Option.ne_none_iff_exists'.mp found
  obtain ⟨-, place, otherPlace, slot⟩ := get?_eq_some_iff.mp found
  obtain rfl : place = index := Option.some.inj (otherPlace.symm.trans atPlace)
  rw [vacant] at slot
  cases slot

end ReferenceTable

/-! ## Taking elements out of lists -/

/-- The last element is moved, and none but the one at the index is lost. -/
theorem swapRemove_perm {items : List α} {index : Nat} (bound : index < items.length) :
    (items[index] :: swapRemove items index).Perm items := by
  have isLast : items.getLast? = some items[items.length - 1] := by
    rw [List.getLast?_eq_getElem?, List.getElem?_eq_getElem]
  have stillLast : (items.set index items[items.length - 1]).getLast? = some items[items.length - 1] := by
    rw [List.getLast?_eq_getElem?, List.length_set, List.getElem?_set]
    split
    · rfl
    · rw [List.getElem?_eq_getElem]
  have split : swapRemove items index ++ [items[items.length - 1]] = items.set index items[items.length - 1] := by
    rw [swapRemove, isLast]
    exact List.dropLast_append_getLast? _ stillLast
  have moved : (items[items.length - 1] :: swapRemove items index).Perm
      (items[items.length - 1] :: items.eraseIdx index) :=
    (List.perm_append_singleton _ _).symm.trans (split ▸ List.set_perm_cons_eraseIdx bound _)
  exact (moved.cons_inv.cons _).trans (List.getElem_cons_eraseIdx_perm bound)

namespace Frames

variable {frames : Frames α} {reference : Reference} {object : α} {stack inner outer : List (List Reference)}

/-! ## What forgetting does to the frames -/

theorem forget_length (reference : Reference) (stack : List (List Reference)) :
    (forget reference stack).length = stack.length := by
  induction stack with
  | nil => rfl
  | cons frame rest ih =>
    rw [forget]
    split
    · rfl
    · rw [List.length_cons, List.length_cons, ih]

theorem forget_of_not_mem (absent : reference ∉ stack.flatten) : forget reference stack = stack := by
  induction stack with
  | nil => rfl
  | cons frame rest ih =>
    rw [List.flatten_cons, List.mem_append, not_or] at absent
    have unmentioned : frame.reverse.idxOf? reference = none := by
      rw [List.idxOf?_eq_none_iff]
      exact fun member => absent.1 (List.mem_reverse.mp member)
    rw [forget, unmentioned]
    simp only
    rw [ih absent.2]

/-- Only one mention is taken away. -/
theorem forget_perm (member : reference ∈ stack.flatten) :
    (reference :: (forget reference stack).flatten).Perm stack.flatten := by
  induction stack with
  | nil => cases member
  | cons frame rest ih =>
    rw [forget, List.flatten_cons]
    cases place : frame.reverse.idxOf? reference with
    | none =>
      have unmentioned : reference ∉ frame := by
        rw [List.idxOf?_eq_none_iff] at place
        exact fun inFrame => place (List.mem_reverse.mpr inFrame)
      rw [List.flatten_cons, List.mem_append, or_iff_right unmentioned] at member
      simp only [List.flatten_cons]
      exact (List.perm_middle.symm.trans ((ih member).append_left frame))
    | some fromEnd =>
      obtain ⟨bound, atPlace, -⟩ := List.idxOf?_eq_some_iff.mp place
      rw [List.length_reverse] at bound
      have isPlace : frame[frame.length - 1 - fromEnd] = reference := by
        rw [← atPlace, List.getElem_reverse]
      simp only [List.flatten_cons]
      rw [← isPlace, ← List.cons_append]
      exact (swapRemove_perm (by omega)).append_right _

/-- Upper frames are looked through first. -/
theorem forget_append_of_mem (member : reference ∈ inner.flatten) :
    forget reference (inner ++ outer) = forget reference inner ++ outer := by
  induction inner with
  | nil => cases member
  | cons frame rest ih =>
    rw [List.cons_append, forget, forget]
    split
    · rfl
    · next unmentioned =>
      have inRest : reference ∈ rest.flatten := by
        rw [List.flatten_cons, List.mem_append] at member
        rw [List.idxOf?_eq_none_iff, List.mem_reverse] at unmentioned
        exact member.resolve_left unmentioned
      rw [ih inRest]
      rfl

theorem forget_append_of_not_mem (absent : reference ∉ inner.flatten) :
    forget reference (inner ++ outer) = inner ++ forget reference outer := by
  induction inner with
  | nil => rfl
  | cons frame rest ih =>
    rw [List.flatten_cons, List.mem_append, not_or] at absent
    have unmentioned : frame.reverse.idxOf? reference = none := by
      rw [List.idxOf?_eq_none_iff, List.mem_reverse]
      exact absent.1
    rw [List.cons_append, forget, unmentioned]
    simp only
    rw [ih absent.2]
    rfl

/-- From frames that mention everything once, nothing else goes. -/
theorem mem_forget_iff {other : Reference} (once : stack.flatten.Nodup) :
    other ∈ (forget reference stack).flatten ↔ other ∈ stack.flatten ∧ other ≠ reference := by
  by_cases member : reference ∈ stack.flatten
  · have perm := forget_perm member
    have apart := (List.nodup_cons.mp (perm.nodup_iff.mpr once)).1
    rw [← perm.mem_iff, List.mem_cons]
    constructor
    · exact fun left => ⟨.inr left, fun same => apart (same ▸ left)⟩
    · exact fun ⟨mentioned, different⟩ => mentioned.resolve_left different
  · rw [forget_of_not_mem member]
    exact ⟨fun mentioned => ⟨mentioned, fun same => member (same ▸ mentioned)⟩, And.left⟩

/-! ## Removing one reference after the other -/

section Removing

open ReferenceTable

variable {table : ReferenceTable α} {references : List Reference} {held : α}

theorem removeAll_snd (table : ReferenceTable α) (references : List Reference) :
    (removeAll table references).2 = table.run (references.map .remove) := by
  induction references generalizing table with
  | nil => rfl
  | cons first rest ih => exact ih (table.remove first).2

theorem consistent_remove (consistent : table.Consistent) (reference : Reference) :
    (table.remove reference).2.Consistent := consistent.after (.remove reference)

theorem get?_remove (consistent : table.Consistent) (reference other : Reference) :
    (table.remove reference).2.get? other = if other = reference then none else table.get? other := by
  refine Option.ext fun held => ?_
  have afterCall := @get?_after _ _ (.remove reference) other held consistent
  simp only [after, TableCall.remove.injEq, ne_eq, reduceCtorEq, false_and, or_false] at afterCall
  rw [afterCall]
  split
  · next same => simp [same]
  · next different => simp [Ne.symm different]

/-- What is left resolves as before. -/
theorem get?_removeAll (consistent : table.Consistent) :
    (removeAll table references).2.get? reference = some held ↔
      table.get? reference = some held ∧ reference ∉ references := by
  induction references generalizing table with
  | nil => simp [removeAll]
  | cons first rest ih =>
    have step : (removeAll table (first :: rest)).2 = (removeAll (table.remove first).2 rest).2 := rfl
    rw [step, ih (consistent_remove consistent first), get?_remove consistent, List.mem_cons, not_or]
    split
    · next same => simp [same]
    · next different => simp [different]

theorem live_removeAll (consistent : table.Consistent) (once : references.Nodup)
    (found : ∀ reference ∈ references, ∃ object, table.get? reference = some object) :
    (removeAll table references).2.live + references.length = table.live := by
  induction references generalizing table with
  | nil => rfl
  | cons first rest ih =>
    obtain ⟨fresh, once⟩ := List.nodup_cons.mp once
    obtain ⟨object, isFirst⟩ := found first List.mem_cons_self
    obtain ⟨after, taken⟩ := remove_of_get? isFirst
    have fewer := remove_live consistent taken
    have step : (removeAll table (first :: rest)).2 = (removeAll after rest).2 := by rw [removeAll, taken]
    have kept : after.Consistent := (remove_taken consistent taken).2
    have others : ∀ reference ∈ rest, ∃ object, after.get? reference = some object := by
      intro reference member
      obtain ⟨object, isFound⟩ := found reference (List.mem_cons_of_mem _ member)
      have different : reference ≠ first := fun same => fresh (same ▸ member)
      exact ⟨object, (remove_taken consistent taken).1.get?_iff.mpr ⟨isFound, different⟩⟩
    have counted := ih kept once others
    rw [step, List.length_cons]
    omega

/-- The objects that come are those that the references stood for. -/
theorem exists_of_mem_removeAll (consistent : table.Consistent) (member : held ∈ (removeAll table references).1) :
    ∃ reference ∈ references, table.get? reference = some held := by
  induction references generalizing table with
  | nil => cases member
  | cons first rest ih =>
    have split : (removeAll table (first :: rest)).1 =
        (table.remove first).1.toList ++ (removeAll (table.remove first).2 rest).1 := rfl
    rw [split, List.mem_append, Option.mem_toList] at member
    rcases member with isFirst | inRest
    · exact ⟨first, List.mem_cons_self, (remove_fst table first).symm.trans isFirst⟩
    · obtain ⟨reference, isMember, found⟩ := ih (consistent_remove consistent first) inRest
      rw [get?_remove consistent] at found
      split at found
      · cases found
      · exact ⟨reference, List.mem_cons_of_mem _ isMember, found⟩

/-- A vacant slot stays under its generation. -/
theorem slotAt_removeAll_of_vacant {index : Nat} (consistent : table.Consistent)
    (vacant : (table.slotAt index).object = none) :
    (removeAll table references).2.slotAt index = table.slotAt index := by
  induction references generalizing table with
  | nil => rfl
  | cons first rest ih =>
    have same : (table.remove first).2.slotAt index = table.slotAt index := by
      rcases removed : table.remove first with ⟨_ | object, after⟩
      · rw [remove_of_none ((remove_fst table first).symm.trans (congrArg Prod.fst removed))] at removed
        rw [← (Prod.mk.inj removed).2]
      · obtain ⟨-, -, place, -, occupied, vacated⟩ := (remove_taken consistent removed).1
        have apart : index ≠ place := by
          rintro rfl
          rw [occupied] at vacant
          cases vacant
        simp only [vacated]
        exact Function.update_of_ne apart _ _
    have step : (removeAll table (first :: rest)).2 = (removeAll (table.remove first).2 rest).2 := rfl
    rw [step, ih (consistent_remove consistent first) (same ▸ vacant), same]

/-- A reference that was removed leaves its slot under another generation. -/
theorem generation_removeAll {index : Nat} (consistent : table.Consistent)
    (found : table.get? reference = some held) (atPlace : reference.index? = some index)
    (removed : reference ∈ references) :
    ((removeAll table references).2.slotAt index).generation ≠ reference.generation := by
  induction references generalizing table with
  | nil => cases removed
  | cons first rest ih =>
    have step : (removeAll table (first :: rest)).2 = (removeAll (table.remove first).2 rest).2 := rfl
    rw [step]
    by_cases same : first = reference
    · subst same
      obtain ⟨after, taken⟩ := remove_of_get? found
      obtain ⟨isTaken, kept⟩ := remove_taken consistent taken
      obtain ⟨-, -, place, otherPlace, -, vacated⟩ := isTaken
      obtain rfl : place = index := Option.some.inj (otherPlace.symm.trans atPlace)
      have small := first.generation_lt
      rw [taken]
      simp only
      rw [slotAt_removeAll_of_vacant kept (by rw [vacated, Function.update_self]), vacated, Function.update_self]
      change (first.generation + 1) % Reference.generationCount ≠ first.generation
      rw [Reference.generationCount] at small ⊢
      omega
    · have still : (table.remove first).2.get? reference = some held := by
        rw [get?_remove consistent, if_neg (Ne.symm same), found]
      exact ih (consistent_remove consistent first) still ((List.mem_cons.mp removed).resolve_left (Ne.symm same))

end Removing

/-! ## Frames and their table -/

/-- The frames mention what their table resolves, and each reference once. -/
structure Orderly (frames : Frames α) : Prop where
  consistent : frames.table.Consistent
  scope : frames.table.scope = .locals
  mem_iff : ∀ {reference}, reference ∈ frames.stack.flatten ↔ ∃ object, frames.table.get? reference = some object
  once : frames.stack.flatten.Nodup
  live_eq : frames.table.live = frames.stack.flatten.length
  grounded : frames.stack ≠ []

section Operations

open ReferenceTable

variable {table : ReferenceTable α} {top below : List Reference} {rest : List (List Reference)}

theorem orderly_empty : (empty : Frames α).Orderly where
  consistent := consistent_empty .locals
  scope := rfl
  mem_iff := by
    refine iff_of_false List.not_mem_nil ?_
    rintro ⟨object, found⟩
    cases (get?_empty ..).symm.trans found
  once := List.nodup_nil
  live_eq := rfl
  grounded := List.cons_ne_nil _ _

theorem Orderly.mentioned (orderly : frames.Orderly) (found : frames.table.get? reference = some object) :
    reference ∈ frames.stack.flatten := orderly.mem_iff.mpr ⟨object, found⟩

theorem Orderly.unmentioned (orderly : frames.Orderly) (unresolved : frames.table.get? reference = none) :
    reference ∉ frames.stack.flatten := by
  intro member
  obtain ⟨object, found⟩ := orderly.mem_iff.mp member
  rw [unresolved] at found
  cases found

theorem Orderly.stored (orderly : frames.Orderly) (stack : frames.stack = top :: rest)
    (stored : frames.table.insert object = some (reference, table)) :
    Orderly ⟨table, (top ++ [reference]) :: rest⟩ := by
  obtain ⟨isStored, consistent⟩ := insert_stored orderly.consistent stored
  have absent := orderly.unmentioned isStored.get?_eq_none
  have perm : ((top ++ [reference]) :: rest).flatten.Perm (reference :: frames.stack.flatten) := by
    rw [stack, List.flatten_cons, List.flatten_cons, List.append_assoc]
    exact List.perm_middle
  refine ⟨consistent, isStored.sameScope.trans orderly.scope, ?_, ?_, ?_, List.cons_ne_nil _ _⟩
  · intro other
    rw [perm.mem_iff, List.mem_cons, orderly.mem_iff]
    constructor
    · rintro (rfl | ⟨held, found⟩)
      · exact ⟨object, isStored.get?_iff.mpr (.inr ⟨rfl, rfl⟩)⟩
      · exact ⟨held, isStored.get?_iff.mpr (.inl found)⟩
    · rintro ⟨held, found⟩
      exact (isStored.get?_iff.mp found).elim (fun before => .inr ⟨held, before⟩) fun new => .inl new.1
  · exact perm.nodup_iff.mpr (List.nodup_cons.mpr ⟨absent, orderly.once⟩)
  · rw [perm.length_eq, List.length_cons, ← orderly.live_eq]
    exact insert_live stored

theorem Orderly.taken (orderly : frames.Orderly) (taken : frames.table.remove reference = (some object, table)) :
    Orderly ⟨table, forget reference frames.stack⟩ := by
  obtain ⟨isTaken, consistent⟩ := remove_taken orderly.consistent taken
  have found : frames.table.get? reference = some object := by rw [← remove_fst, taken]
  have perm := forget_perm (orderly.mentioned found)
  refine ⟨consistent, isTaken.sameScope.trans orderly.scope, ?_, ?_, ?_, ?_⟩
  · intro other
    rw [mem_forget_iff orderly.once, orderly.mem_iff]
    exact ⟨fun ⟨⟨held, before⟩, different⟩ => ⟨held, isTaken.get?_iff.mpr ⟨before, different⟩⟩,
      fun ⟨held, left⟩ => ⟨⟨held, (isTaken.get?_iff.mp left).1⟩, (isTaken.get?_iff.mp left).2⟩⟩
  · exact (List.nodup_cons.mp (perm.nodup_iff.mpr orderly.once)).2
  · have fewer := remove_live orderly.consistent taken
    have counted := perm.length_eq
    rw [List.length_cons, ← orderly.live_eq] at counted
    exact Nat.succ.inj (fewer.trans counted.symm)
  · have length := forget_length reference frames.stack
    intro none
    rw [show forget reference frames.stack = [] from none] at length
    exact orderly.grounded (List.length_eq_zero_iff.mp length.symm)

theorem Orderly.push (orderly : frames.Orderly) : frames.push.Orderly where
  consistent := orderly.consistent
  scope := orderly.scope
  mem_iff := orderly.mem_iff
  once := orderly.once
  live_eq := orderly.live_eq
  grounded := List.cons_ne_nil _ _

theorem Orderly.released (orderly : frames.Orderly) (stack : frames.stack = top :: below :: rest) :
    Orderly ⟨(removeAll frames.table top).2, below :: rest⟩ := by
  have flattened : frames.stack.flatten = top ++ (below :: rest).flatten := by rw [stack, List.flatten_cons]
  have once := orderly.once
  have counted := orderly.live_eq
  rw [flattened] at once counted
  obtain ⟨onceInTop, onceBelow, apart⟩ := List.nodup_append.mp once
  have ran := removeAll_snd frames.table top
  refine ⟨ran ▸ orderly.consistent.run _, (ran ▸ scope_run orderly.consistent _ : _ = _).trans orderly.scope, ?_,
    onceBelow, ?_, List.cons_ne_nil _ _⟩
  · intro other
    have mentioned : other ∈ (below :: rest).flatten ↔ other ∈ frames.stack.flatten ∧ other ∉ top := by
      rw [flattened, List.mem_append]
      exact ⟨fun member => ⟨.inr member, fun inTop => apart other inTop other member rfl⟩,
        fun ⟨either, outside⟩ => either.resolve_left outside⟩
    rw [mentioned, orderly.mem_iff]
    exact ⟨fun ⟨⟨held, found⟩, outside⟩ => ⟨held, (get?_removeAll orderly.consistent).mpr ⟨found, outside⟩⟩,
      fun ⟨held, left⟩ => ⟨⟨held, ((get?_removeAll orderly.consistent).mp left).1⟩,
        ((get?_removeAll orderly.consistent).mp left).2⟩⟩
  · have fewer := live_removeAll orderly.consistent onceInTop fun reference member =>
      orderly.mem_iff.mp (flattened ▸ List.mem_append_left _ member)
    rw [List.length_append] at counted
    change (removeAll frames.table top).2.live = (below :: rest).flatten.length
    omega

/-- The new reference for what is kept is none that was live before. -/
theorem Orderly.fresh (orderly : frames.Orderly)
    (stored : (removeAll frames.table top).2.insert object = some (reference, table)) :
    frames.table.get? reference = none := by
  have consistent : (removeAll frames.table top).2.Consistent :=
    removeAll_snd frames.table top ▸ orderly.consistent.run _
  obtain ⟨isStored, -⟩ := insert_stored consistent stored
  have unresolved := isStored.get?_eq_none
  obtain ⟨-, -, index, atPlace, vacant, -⟩ := isStored
  by_contra found
  obtain ⟨held, found⟩ := Option.ne_none_iff_exists'.mp found
  by_cases inTop : reference ∈ top
  · exact generation_removeAll orderly.consistent found atPlace inTop (by rw [vacant])
  · rw [(get?_removeAll orderly.consistent).mpr ⟨found, inTop⟩] at unresolved
    cases unresolved

/-- A frame that releases anything makes room. -/
theorem Orderly.top_eq_nil (orderly : frames.Orderly) (stack : frames.stack = top :: rest)
    (full : (removeAll frames.table top).2.insert object = none) : top = [] := by
  have flattened : frames.stack.flatten = top ++ rest.flatten := by rw [stack, List.flatten_cons]
  have consistent : (removeAll frames.table top).2.Consistent :=
    removeAll_snd frames.table top ▸ orderly.consistent.run _
  have once : top.Nodup := (List.nodup_append.mp (flattened ▸ orderly.once)).1
  have fewer := live_removeAll orderly.consistent once fun reference member =>
    orderly.mem_iff.mp (flattened ▸ List.mem_append_left _ member)
  have most := live_of_full consistent full
  have bound := live_le orderly.consistent
  exact List.length_eq_zero_iff.mp (by omega)

/-! ## What the operations give -/

theorem insert_of_none (full : frames.table.insert object = none) :
    frames.insert object = (.error .localsFull, frames) := by
  rw [insert, full]

theorem insert_of_some (stack : frames.stack = top :: rest)
    (stored : frames.table.insert object = some (reference, table)) :
    frames.insert object = (.ok reference, ⟨table, (top ++ [reference]) :: rest⟩) := by
  rw [insert, stored, stack]

theorem remove_of_none (unresolved : frames.table.get? reference = none) :
    frames.remove reference = (none, frames) := by
  rw [remove, ReferenceTable.remove_of_none unresolved]

theorem remove_of_some (taken : frames.table.remove reference = (some object, table)) :
    frames.remove reference = (some object, ⟨table, forget reference frames.stack⟩) := by
  rw [remove, taken]

theorem pop_of_base (stack : frames.stack = [top]) (kept : Option α) :
    frames.pop kept = (.error .noFrame, frames) := by
  rw [pop, stack]

theorem pop_of_none (stack : frames.stack = top :: below :: rest) :
    frames.pop none =
      (.ok (none, (removeAll frames.table top).1), ⟨(removeAll frames.table top).2, below :: rest⟩) := by
  rw [pop, stack]

theorem pop_of_some (stack : frames.stack = top :: below :: rest)
    (stored : (removeAll frames.table top).2.insert object = some (reference, table)) :
    frames.pop (some object) =
      (.ok (some reference, (removeAll frames.table top).1), ⟨table, (below ++ [reference]) :: rest⟩) := by
  rw [pop, stack]
  simp only
  rw [insert_of_some rfl stored]

theorem pop_of_full (stack : frames.stack = top :: below :: rest)
    (full : (removeAll frames.table top).2.insert object = none) :
    frames.pop (some object) = (.error .localsFull, ⟨(removeAll frames.table top).2, below :: rest⟩) := by
  rw [pop, stack]
  simp only
  rw [insert_of_none full]

end Operations

end Frames

end FileGateway
