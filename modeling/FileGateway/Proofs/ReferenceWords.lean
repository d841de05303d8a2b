import FileGateway.Proofs.Reference.Table

/-! # A word is its fields

Every word with an index in it is what its three fields pack to, and fields that fit come back out of the word they
were packed into. So words and fields stand for each other, and no two references are the same unless all three
fields are. A word without an index is not zero for its other fields alone, and no table has a slot for it.
-/

namespace FileGateway.Reference

variable {scope : Scope} {index generation : Nat} {reference other : Reference}

/-! ## From a word to its fields and back -/

theorem index?_eq_none_iff : reference.index? = none ↔ reference.raw >>> 32 = 0 := by
  rw [index?, ← UInt64.toNat_inj, UInt64.toNat_zero]
  cases (reference.raw >>> 32).toNat with
  | zero => simp
  | succ index => simp

/-- An index that is read off a word can be packed again. -/
theorem index_lt (atIndex : reference.index? = some index) : index < maxSlots := by
  have bound := reference.raw.toNat_lt
  rw [index?_eq_some_iff] at atIndex
  rw [maxSlots]
  omega

/-- The fields of a word pack to the word again. -/
theorem make_fields (atIndex : reference.index? = some index) :
    make reference.scope index reference.generation = reference := by
  have bound := index_lt atIndex
  refine eq_of_fields (scope_make bound) (index?_make bound) atIndex ?_
  rw [generation_make bound, Nat.mod_eq_of_lt reference.generation_lt]

/-- Also without an index, a reference is known by its fields. -/
theorem eq_iff_fields : reference = other ↔
    reference.scope = other.scope ∧ reference.index? = other.index? ∧ reference.generation = other.generation := by
  constructor
  · rintro rfl
    exact ⟨rfl, rfl, rfl⟩
  · rintro ⟨sameScope, sameIndex, sameGeneration⟩
    cases atIndex : reference.index? with
    | some index => exact eq_of_fields sameScope atIndex (sameIndex ▸ atIndex) sameGeneration
    | none =>
      have noIndex (low : Reference) (without : low.index? = none) : low.raw.toNat < 2 ^ 32 := by
        rw [index?_eq_none_iff, ← UInt64.toNat_inj, UInt64.toNat_shiftRight, UInt64.toNat_zero] at without
        exact Nat.lt_of_div_eq_zero (by decide) ((Nat.shiftRight_eq_div_pow _ 32).symm.trans without)
      have low := noIndex reference atIndex
      have otherLow := noIndex other (sameIndex ▸ atIndex)
      have bits : reference.raw.toNat % 2 = other.raw.toNat % 2 := by
        rw [← scopeBit_scope, ← scopeBit_scope, sameScope]
      rw [generation_eq, generation_eq, generationCount] at sameGeneration
      exact eq_of_raw (UInt64.toNat_inj.mp (by omega))

theorem make_eq_make_iff {scope' : Scope} {index' generation' : Nat} (bound : index < maxSlots)
    (bound' : index' < maxSlots) : make scope index generation = make scope' index' generation' ↔
      scope = scope' ∧ index = index' ∧ generation % generationCount = generation' % generationCount := by
  rw [eq_iff_fields, scope_make bound, scope_make bound', index?_make bound, index?_make bound',
    generation_make bound, generation_make bound', Option.some_inj]

/-- A reference without an index means no slot. -/
theorem slot?_of_noIndex {α : Type} (table : ReferenceTable α) (noIndex : reference.index? = none) :
    table.slot? reference = none := by
  rw [ReferenceTable.slot?, noIndex]
  exact ite_self _

/-- Of every scope, every index that a table can have and every generation, the word is not zero and holds just these,
the generation as far as 31 bits go; so words of such fields are the same only if the fields are, and no two references
at all have the same fields. Every word whose upper half is not zero is packed from an index that a table can have.
A word whose upper half is zero gets nothing from any table, of either scope, and takes nothing away. And any word but
zero is received as a reference that has this very word. -/
theorem words_hold_fields :
    (∀ (scope : Scope) (index generation : Nat), index < maxSlots →
      let made := make scope index generation
      made.raw = pack scope index generation ∧ pack scope index generation ≠ 0 ∧ made.scope = scope ∧
        made.index? = some index ∧ made.generation = generation % generationCount) ∧
    (∀ (scope scope' : Scope) (index index' generation generation' : Nat), index < maxSlots → index' < maxSlots →
      (make scope index generation = make scope' index' generation' ↔
        scope = scope' ∧ index = index' ∧ generation % generationCount = generation' % generationCount)) ∧
    (∀ reference other : Reference, reference = other ↔ reference.scope = other.scope ∧
      reference.index? = other.index? ∧ reference.generation = other.generation) ∧
    (∀ word : UInt64, word >>> 32 ≠ 0 → ∃ reference index, ofRaw? word = some reference ∧
      reference.index? = some index ∧ index < maxSlots ∧ pack reference.scope index reference.generation = word) ∧
    (∀ (word : UInt64) (reference : Reference), ofRaw? word = some reference → word >>> 32 = 0 →
      reference.index? = none ∧ ∀ (α : Type) (table : ReferenceTable α), table.get? reference = none ∧
        table.contains reference = false ∧ table.remove reference = (none, table)) ∧
    (∀ word : UInt64, ofRaw? word = none ↔ word = 0) ∧
    ∀ (word : UInt64) (reference : Reference), ofRaw? word = some reference ↔ reference.raw = word := by
  refine ⟨fun scope index generation bound => ?_, fun scope scope' index index' generation generation' bound bound' =>
    make_eq_make_iff bound bound', fun reference other => eq_iff_fields, fun word indexed => ?_,
    fun word reference received without => ?_, fun word => ?_, fun word reference => ofRaw?_eq_some_iff⟩
  · refine ⟨raw_make bound, ?_, scope_make bound, index?_make bound, generation_make bound⟩
    rw [← raw_make bound]
    exact nonzero _
  · have received : word ≠ 0 := by
      rintro rfl
      exact indexed rfl
    have index : (⟨word, received⟩ : Reference).index? ≠ none := mt index?_eq_none_iff.mp indexed
    obtain ⟨index, atIndex⟩ := Option.ne_none_iff_exists'.mp index
    refine ⟨⟨word, received⟩, index, ofRaw?_eq_some_iff.mpr rfl, atIndex, index_lt atIndex, ?_⟩
    rw [← raw_make (index_lt atIndex), make_fields atIndex]
  · obtain rfl := ofRaw?_eq_some_iff.mp received
    have noIndex := index?_eq_none_iff.mpr without
    refine ⟨noIndex, fun α table => ?_⟩
    have unresolved := slot?_of_noIndex table noIndex
    exact ⟨ReferenceTable.slot?_eq_none_iff.mp unresolved, by rw [ReferenceTable.contains, unresolved]; rfl,
      by rw [ReferenceTable.remove, unresolved]⟩
  · rw [ofRaw?]
    split
    · next nonzero => exact iff_of_false (Option.some_ne_none _) nonzero
    · next zero => exact iff_of_true rfl (not_not.mp zero)

/-- The last index under a generation beyond the last: all bits of the word are set, the generation is cut, and a
table with one object in its first slot does not give it out for a word without an index. -/
theorem words_hold_fields_to_the_end :
    (make .globals 0xfffffffe 0xffffffff).raw = 0xffffffffffffffff ∧
      (make .globals 0xfffffffe 0xffffffff).index? = some 0xfffffffe ∧
      (make .globals 0xfffffffe 0xffffffff).generation = 0x7fffffff ∧
      make .globals 0xfffffffe 0xffffffff = make .globals 0xfffffffe 0x7fffffff ∧
      make .locals 0 1 ≠ make .locals 0 2 ∧
      (∃ reference index, ofRaw? 0x100000001 = some reference ∧ reference.index? = some index ∧
        pack reference.scope index reference.generation = 0x100000001) ∧
      (⟨.globals, [⟨0, some "object"⟩], [], 1⟩ : ReferenceTable String).get? ⟨1, by decide⟩ = none := by
  obtain ⟨packed, same, -, indexed, unindexed, -⟩ := words_hold_fields
  obtain ⟨raw, -, -, atIndex, cut⟩ := packed .globals 0xfffffffe 0xffffffff (by decide)
  obtain ⟨reference, index, received, isIndex, -, again⟩ := indexed 0x100000001 (by decide)
  refine ⟨raw.trans (by decide), atIndex, cut, (same _ _ _ _ _ _ (by decide) (by decide)).mpr (by decide),
    mt (same _ _ _ _ _ _ (by decide) (by decide)).mp (by decide), ⟨reference, index, received, isIndex, again⟩, ?_⟩
  exact ((unindexed 1 ⟨1, by decide⟩ rfl (by decide)).2 String _).1

end FileGateway.Reference
