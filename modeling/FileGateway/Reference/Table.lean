import FileGateway.Reference

/-! # Reference tables

A table holds objects in slots. Removing an object bumps the generation of its slot, so a reference
handed out earlier stops resolving instead of meeting whatever object uses the slot next. Vacant
slots are reused, the last vacated first.
-/

namespace FileGateway

structure Slot (α : Type) where
  generation : Nat
  object : Option α
deriving DecidableEq, Repr

structure ReferenceTable (α : Type) where
  scope : Scope
  slots : List (Slot α)
  /-- The vacant slots, the one to reuse first in front. -/
  free : List Nat
  live : Nat
deriving DecidableEq, Repr

namespace ReferenceTable

variable {α : Type}

def empty (scope : Scope) : ReferenceTable α := ⟨scope, [], [], 0⟩

/-- The slot that a reference means, if it still holds the object it was handed out for. -/
def slot? (table : ReferenceTable α) (reference : Reference) : Option (Nat × Slot α) :=
  if reference.scope ≠ table.scope then none
  else
    match reference.index? with
    | none => none
    | some index =>
      match table.slots[index]? with
      | none => none
      | some slot =>
        if slot.generation = reference.generation ∧ slot.object.isSome then some (index, slot)
        else none

def get? (table : ReferenceTable α) (reference : Reference) : Option α :=
  (table.slot? reference).bind (·.2.object)

def contains (table : ReferenceTable α) (reference : Reference) : Bool :=
  (table.slot? reference).isSome

/-- Stores an object and hands out a reference to it, unless the table is full. -/
def insert (table : ReferenceTable α) (object : α) : Option (Reference × ReferenceTable α) :=
  match table.free with
  | index :: free =>
    let generation := ((table.slots[index]?).map Slot.generation).getD 0
    some (Reference.make table.scope index generation,
      { table with
        slots := table.slots.set index ⟨generation, some object⟩
        free := free
        live := table.live + 1 })
  | [] =>
    if table.slots.length < Reference.maxSlots then
      some (Reference.make table.scope table.slots.length 0,
        { table with slots := table.slots ++ [⟨0, some object⟩], live := table.live + 1 })
    else none

/-- Takes an object out of the table. A reference that does not resolve changes nothing. -/
def remove (table : ReferenceTable α) (reference : Reference) :
    Option α × ReferenceTable α :=
  match table.slot? reference with
  | none => (none, table)
  | some (index, slot) =>
    (slot.object,
      { table with
        slots := table.slots.set index
          ⟨(slot.generation + 1) % Reference.generationCount, none⟩
        free := index :: table.free
        live := table.live - 1 })

/-- The objects in the table, in slot order. -/
def objects (table : ReferenceTable α) : List α := table.slots.filterMap Slot.object

end ReferenceTable

end FileGateway
