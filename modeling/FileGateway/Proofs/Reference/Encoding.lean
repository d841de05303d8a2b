import FileGateway.Reference
import Mathlib.Data.Nat.Bitwise
import Mathlib.Tactic.Common

/-! # The fields of a reference

A word is the sum of its three fields at their places, and the fields can be read off it by division.
So packing and reading are inverse to each other, and a reference is known by its fields.
-/

namespace FileGateway.Reference

variable {scope : Scope} {index generation : Nat} {reference other : Reference}

/-- The lowest bit of a word. -/
def scopeBit : Scope → Nat
  | .locals => 0
  | .globals => 1

theorem scopeBit_lt (scope : Scope) : scopeBit scope < 2 := by
  cases scope <;> decide

/-! ## Reading -/

theorem ofRaw?_eq_some_iff {word : UInt64} : ofRaw? word = some reference ↔ reference.raw = word := by
  obtain ⟨raw, nonzero⟩ := reference
  rw [ofRaw?]
  split
  · simp [eq_comm]
  · next zero =>
    refine iff_of_false nofun ?_
    rintro rfl
    exact zero nonzero

theorem eq_of_raw (same : reference.raw = other.raw) : reference = other :=
  Option.some.inj ((ofRaw?_eq_some_iff.mpr same).symm.trans (ofRaw?_eq_some_iff.mpr rfl))

theorem scope_eq (reference : Reference) :
    reference.scope = if reference.raw.toNat % 2 = 1 then .globals else .locals := by
  have bit : reference.raw &&& 1 = 1 ↔ reference.raw.toNat % 2 = 1 := by
    rw [← UInt64.toNat_inj, UInt64.toNat_and]
    exact Nat.and_one_is_mod _ ▸ Iff.rfl
  simp only [Reference.scope, bit]

theorem scopeBit_scope (reference : Reference) : scopeBit reference.scope = reference.raw.toNat % 2 := by
  rw [scope_eq]
  split
  · next isOne => exact isOne.symm
  · next notOne => exact (Nat.mod_two_ne_one.mp notOne).symm

theorem generation_eq (reference : Reference) :
    reference.generation = reference.raw.toNat / 2 % generationCount := by
  rw [Reference.generation, UInt64.toNat_and, UInt64.toNat_shiftRight]
  have mask : (0x7fffffff : UInt64).toNat = 2 ^ 31 - 1 := by decide
  rw [mask, Nat.and_two_pow_sub_one_eq_mod]
  rfl

theorem index?_eq_some_iff :
    reference.index? = some index ↔ reference.raw.toNat / 2 ^ 32 = index + 1 := by
  have field : (reference.raw >>> 32).toNat = reference.raw.toNat / 2 ^ 32 := by
    rw [UInt64.toNat_shiftRight]
    exact Nat.shiftRight_eq_div_pow _ 32
  rw [index?, field]
  cases reference.raw.toNat / 2 ^ 32 with
  | zero => simp
  | succ predecessor => simp

theorem generation_lt (reference : Reference) : reference.generation < generationCount := by
  rw [generation_eq]
  exact Nat.mod_lt _ (by decide)

/-- A reference is known by its fields. -/
theorem eq_of_fields (sameScope : reference.scope = other.scope) (atIndex : reference.index? = some index)
    (otherIndex : other.index? = some index) (sameGeneration : reference.generation = other.generation) :
    reference = other := by
  have bits : reference.raw.toNat % 2 = other.raw.toNat % 2 := by
    rw [← scopeBit_scope, ← scopeBit_scope, sameScope]
  rw [index?_eq_some_iff] at atIndex otherIndex
  rw [generation_eq, generation_eq, generationCount] at sameGeneration
  have word : reference.raw = other.raw := UInt64.toNat_inj.mp (by omega)
  cases reference
  cases other
  simpa using word

/-! ## Packing -/

private theorem toNat_shifted {value : Nat} (bits : Nat) (small : bits < 64)
    (fits : value * 2 ^ bits < 2 ^ 64) :
    (UInt64.ofNat value <<< UInt64.ofNat bits).toNat = value <<< bits := by
  have positive : 0 < 2 ^ bits := Nat.two_pow_pos bits
  have inWord : value < 2 ^ 64 := lt_of_le_of_lt (Nat.le_mul_of_pos_right value positive) fits
  have amount : (UInt64.ofNat bits).toNat % 64 = bits := by
    rw [UInt64.toNat_ofNat']
    omega
  rw [UInt64.toNat_shiftLeft, amount, UInt64.toNat_ofNat', Nat.mod_eq_of_lt inWord, Nat.shiftLeft_eq,
    Nat.mod_eq_of_lt fits]

/-- The fields do not overlap, so their words add up. -/
theorem toNat_pack (scope : Scope) (generation : Nat) (bound : index < maxSlots) :
    (pack scope index generation).toNat =
      (index + 1) * 2 ^ 32 + (generation % generationCount) * 2 + scopeBit scope := by
  have small : generation % generationCount < 2 ^ 31 := Nat.mod_lt _ (by decide)
  have bit := scopeBit_lt scope
  have word : pack scope index generation = UInt64.ofNat (index + 1) <<< 32 |||
      UInt64.ofNat (generation % generationCount) <<< 1 ||| UInt64.ofNat (scopeBit scope) := by
    cases scope <;> rfl
  have scopeWord : (UInt64.ofNat (scopeBit scope)).toNat = scopeBit scope := by
    cases scope <;> rfl
  have indexWord : (UInt64.ofNat (index + 1) <<< 32).toNat = (index + 1) <<< 32 :=
    toNat_shifted 32 (by decide) (by rw [maxSlots] at bound; omega)
  have generationWord : (UInt64.ofNat (generation % generationCount) <<< 1).toNat =
      (generation % generationCount) <<< 1 := toNat_shifted 1 (by decide) (by omega)
  rw [word, UInt64.toNat_or, UInt64.toNat_or, indexWord, generationWord, scopeWord, Nat.or_assoc,
    ← Nat.shiftLeft_add_eq_or_of_lt (i := 1) (by omega),
    ← Nat.shiftLeft_add_eq_or_of_lt (i := 32) (by rw [Nat.shiftLeft_eq]; omega)]
  rw [Nat.shiftLeft_eq, Nat.shiftLeft_eq]
  omega

/-- A packed word is not zero, so it is the word of the reference. -/
theorem raw_make (bound : index < maxSlots) : (make scope index generation).raw = pack scope index generation := by
  have nonzero : pack scope index generation ≠ 0 := by
    intro zero
    have value := toNat_pack scope generation bound
    rw [zero] at value
    change 0 = _ at value
    omega
  rw [make, ofRaw?, dif_pos nonzero]
  rfl

private theorem toNat_make (scope : Scope) (generation : Nat) (bound : index < maxSlots) :
    (make scope index generation).raw.toNat =
      (index + 1) * 2 ^ 32 + (generation % generationCount) * 2 + scopeBit scope := by
  rw [raw_make bound, toNat_pack scope generation bound]

theorem scope_make (bound : index < maxSlots) : (make scope index generation).scope = scope := by
  have value := toNat_make scope generation bound
  have same : scopeBit (make scope index generation).scope = scopeBit scope := by
    rw [scopeBit_scope, value]
    have bit := scopeBit_lt scope
    omega
  revert same
  cases (make scope index generation).scope <;> cases scope <;> simp [scopeBit]

theorem index?_make (bound : index < maxSlots) : (make scope index generation).index? = some index := by
  rw [index?_eq_some_iff, toNat_make scope generation bound]
  have small : generation % generationCount < 2 ^ 31 := Nat.mod_lt _ (by decide)
  have bit := scopeBit_lt scope
  omega

theorem generation_make (bound : index < maxSlots) :
    (make scope index generation).generation = generation % generationCount := by
  rw [generation_eq, toNat_make scope generation bound]
  have small : generation % generationCount < 2 ^ 31 := Nat.mod_lt _ (by decide)
  have bit := scopeBit_lt scope
  rw [generationCount] at small ⊢
  omega

end FileGateway.Reference
