/-! # References

A reference is a 64-bit word, never zero, that native code holds instead of an object. From the
least significant bit up it packs the scope (one bit), the generation of a slot (31 bits) and the
index of that slot plus one (32 bits).
-/

namespace FileGateway

/-- Which table a reference belongs to. -/
inductive Scope
  /-- One thread's table. -/
  | locals
  /-- The table shared by all threads. -/
  | globals
deriving DecidableEq, Repr

def Scope.text : Scope → String
  | .locals => "Local"
  | .globals => "Global"

structure Reference where
  raw : UInt64
  nonzero : raw ≠ 0
deriving DecidableEq, Repr

namespace Reference

/-- Generations are counted modulo this, which is what 31 bits hold. -/
def generationCount : Nat := 0x80000000

/-- Indices below this bound fit into the index field. -/
def maxSlots : Nat := 0xffffffff

/-- The word as received; zero is no reference. -/
def ofRaw? (raw : UInt64) : Option Reference :=
  if h : raw ≠ 0 then some ⟨raw, h⟩ else none

/-- The word of three fields. Only the low 31 bits of the generation are kept. -/
def pack (scope : Scope) (index generation : Nat) : UInt64 :=
  UInt64.ofNat (index + 1) <<< 32 ||| UInt64.ofNat (generation % generationCount) <<< 1
    ||| (match scope with | .locals => 0 | .globals => 1)

/-- A word with a non-empty index field is never zero, so the fallback is out of reach for an index
below `maxSlots`. -/
def make (scope : Scope) (index generation : Nat) : Reference :=
  (ofRaw? (pack scope index generation)).getD ⟨1, by decide⟩

def scope (reference : Reference) : Scope :=
  if reference.raw &&& 1 = 1 then .globals else .locals

def isGlobal (reference : Reference) : Bool := reference.scope == .globals

/-- The slot, if the index field is not zero. -/
def index? (reference : Reference) : Option Nat :=
  match (reference.raw >>> 32).toNat with
  | 0 => none
  | index + 1 => some index

def generation (reference : Reference) : Nat :=
  ((reference.raw >>> 1) &&& 0x7fffffff).toNat

def text (reference : Reference) : String :=
  let index := reference.index?.getD 0
  s!"Reference({reference.scope.text}, #{index}, gen {reference.generation})"

end Reference

end FileGateway
