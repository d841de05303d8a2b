import FileGateway.Exception
import FileGateway.Reference.Table

/-! # Local frames

The local references of one thread are grouped into frames. Popping a frame releases its
references; the base frame is never popped. A frame lists its references in the order of their
creation, except that deleting one moves the last into its place.
-/

namespace FileGateway

structure Frames (α : Type) where
  table : ReferenceTable α
  /-- The frames, the top one first; the last is the base frame. -/
  stack : List (List Reference)
deriving DecidableEq, Repr

/-- A list without the element at an index; the last element takes its place. -/
def swapRemove {α : Type} (items : List α) (index : Nat) : List α :=
  match items.getLast? with
  | none => []
  | some last => (items.set index last).dropLast

namespace Frames

variable {α : Type}

def empty : Frames α := ⟨.empty .locals, [[]]⟩

instance : Inhabited (Frames α) := ⟨empty⟩

/-- Records an object in the top frame. -/
def insert (frames : Frames α) (object : α) : Except Exception Reference × Frames α :=
  match frames.table.insert object with
  | none => (.error .localsFull, frames)
  | some (reference, table) =>
    (.ok reference,
      { table := table
        stack := match frames.stack with
          | [] => []
          | top :: rest => (top ++ [reference]) :: rest })

/-- The stack without the last mention of a reference in the topmost frame that mentions it. -/
def forget (reference : Reference) : List (List Reference) → List (List Reference)
  | [] => []
  | frame :: rest =>
    match frame.reverse.idxOf? reference with
    | some fromEnd => swapRemove frame (frame.length - 1 - fromEnd) :: rest
    | none => frame :: forget reference rest

/-- Takes an object out of the table and its frame. -/
def remove (frames : Frames α) (reference : Reference) : Option α × Frames α :=
  match frames.table.remove reference with
  | (none, _) => (none, frames)
  | (some object, table) => (some object, ⟨table, forget reference frames.stack⟩)

def push (frames : Frames α) : Frames α := { frames with stack := [] :: frames.stack }

/-- Removes references one after the other; the objects come in the same order. -/
def removeAll (table : ReferenceTable α) : List Reference → List α × ReferenceTable α
  | [] => ([], table)
  | reference :: rest =>
    let (object, table) := table.remove reference
    let (objects, table) := removeAll table rest
    (object.toList ++ objects, table)

/-- Pops the top frame and releases its references. An object to keep gets a new reference in the
frame below. The released objects are returned as well. -/
def pop (frames : Frames α) (kept : Option α) :
    Except Exception (Option Reference × List α) × Frames α :=
  match frames.stack with
  | top :: below :: rest =>
    let (released, table) := removeAll frames.table top
    let popped : Frames α := ⟨table, below :: rest⟩
    match kept with
    | none => (.ok (none, released), popped)
    | some object =>
      match popped.insert object with
      | (.ok reference, frames) => (.ok (some reference, released), frames)
      | (.error exception, frames) => (.error exception, frames)
  | _ => (.error .noFrame, frames)

end Frames

end FileGateway
