import FileGateway.Exception
import FileGateway.Path.Tree

/-! # The namespace of a cluster

A cluster keeps all its directories and files in one tree of locations. File contents are cut into
blocks, each replicated on a list of hosts.
-/

namespace FileGateway

structure Block where
  data : Bytes
  hosts : List String
deriving DecidableEq, Repr

structure FileNode where
  blocks : List Block
  replication : UInt16
  blockSize : UInt64
  modified : Int
  /-- An open writer may still extend the file. -/
  underConstruction : Bool
deriving DecidableEq, Repr

namespace FileNode

/-- The contents of a file. -/
def bytes (file : FileNode) : Bytes := file.blocks.flatMap Block.data

def size (file : FileNode) : Nat :=
  file.blocks.foldr (fun block rest => block.data.length + rest) 0

/-- The bytes on all hosts together. -/
def replicaBytes (file : FileNode) : Nat :=
  file.blocks.foldr (fun block rest => block.data.length * block.hosts.length + rest) 0

/-- Blocks of size zero hold one byte. -/
def blockBytes (file : FileNode) : Nat := max file.blockSize.toNat 1

theorem length_bytes (file : FileNode) : file.bytes.length = file.size := by
  simp only [bytes, size]
  induction file.blocks with
  | nil => rfl
  | cons block rest ih => simp only [List.flatMap_cons, List.length_append, List.foldr_cons, ih]

end FileNode

inductive Entry
  | directory (modified : Int)
  | file (node : FileNode)
deriving DecidableEq, Repr

namespace Entry

def file? : Entry → Option FileNode
  | .directory _ => none
  | .file node => some node

def isDirectory : Entry → Bool
  | .directory _ => true
  | .file _ => false

end Entry

abbrev Namespace := Tree Entry

namespace Namespace

/-- A namespace with the root directory alone. -/
def initial (now : Int) : Namespace := SortedMap.singleton Location.root (.directory now)

/-- The file at a location. -/
def file? (tree : Namespace) (location : Location) : Option FileNode :=
  (tree.get? location).bind Entry.file?

/-- Makes the missing ones of some directories, one after the other, until a file is in the way. -/
def makeDirectories (now : Int) : List Location → Namespace → Except Exception Unit × Namespace
  | [], tree => (.ok (), tree)
  | directory :: rest, tree =>
    match tree.get? directory with
    | some (.directory _) => makeDirectories now rest tree
    | some (.file _) => (.error (.taken (Location.toPath directory)), tree)
    | none => makeDirectories now rest (tree.insert directory (.directory now))

end Namespace

end FileGateway
