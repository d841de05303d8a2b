import FileGateway.Exception

/-! # Advisory locks

A table of readers-or-one-writer locks by key. Locks belong to nobody: releasing drops one holder,
whoever took it. A key that is not held has no entry.
-/

namespace FileGateway

inductive Held
  /-- One shared holder and `others` more. -/
  | shared (others : Nat)
  | exclusive
deriving DecidableEq, Repr

structure LockTable (κ : Type) where
  held : List (κ × Held)
deriving DecidableEq, Repr, Inhabited

namespace LockTable

variable {κ : Type} [DecidableEq κ]

def empty : LockTable κ := ⟨[]⟩

def get? (table : LockTable κ) (key : κ) : Option Held := table.held.lookup key

def remove (table : LockTable κ) (key : κ) : LockTable κ :=
  ⟨table.held.filter (fun entry => entry.1 != key)⟩

def set (table : LockTable κ) (key : κ) (held : Held) : LockTable κ :=
  ⟨(key, held) :: (table.remove key).held⟩

def isLocked (table : LockTable κ) (key : κ) : Bool := (table.get? key).isSome

/-- Takes a lock. A shared lock joins other shared ones; everything else conflicts with any
holder. The path is what a conflict is reported on. -/
def acquire (table : LockTable κ) (key : κ) (shared : Bool) (path : Path) :
    Except Exception Unit × LockTable κ :=
  match table.get? key, shared with
  | none, true => (.ok (), table.set key (.shared 0))
  | none, false => (.ok (), table.set key .exclusive)
  | some (.shared others), true => (.ok (), table.set key (.shared (others + 1)))
  | some _, _ => (.error (.lockHeld path), table)

/-- Drops one holder. -/
def release (table : LockTable κ) (key : κ) (path : Path) :
    Except Exception Unit × LockTable κ :=
  match table.get? key with
  | some (.shared (others + 1)) => (.ok (), table.set key (.shared others))
  | some _ => (.ok (), table.remove key)
  | none => (.error (.notLocked path), table)

end LockTable

end FileGateway
