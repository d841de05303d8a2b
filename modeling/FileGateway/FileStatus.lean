import FileGateway.Configuration
import FileGateway.Path

/-! # What clients report about files, and what they are asked for -/

namespace FileGateway

inductive FileKind
  | file
  | directory
deriving DecidableEq, Repr

/-- What is known about one path at one moment. -/
structure FileStatus where
  path : Path
  kind : FileKind
  size : Nat
  /-- In seconds since the epoch. -/
  modified : Int
  replication : UInt16
  blockSize : UInt64
deriving DecidableEq, Repr

namespace FileStatus

/-- A directory has neither size nor blocks. -/
def ofDirectory (path : Path) (modified : Int) : FileStatus :=
  ⟨path, .directory, 0, modified, 0, 0⟩

def ofFile (path : Path) (size : Nat) (modified : Int) (replication : UInt16)
    (blockSize : UInt64) : FileStatus :=
  ⟨path, .file, size, modified, replication, blockSize⟩

def isDirectory (status : FileStatus) : Bool := status.kind == .directory

def kindText : FileKind → String
  | .file => "File"
  | .directory => "Directory"

/-- The status as a record text. -/
def text (status : FileStatus) : String :=
  recordText "FileStatus"
    [("path", Quoted.bytes status.path.bytes), ("kind", kindText status.kind),
     ("len", toString status.size), ("modification_time", toString status.modified),
     ("replication", toString status.replication), ("block_size", toString status.blockSize)]

end FileStatus

/-- A block of a file and the hosts that hold a replica of it. -/
structure BlockLocation where
  offset : Nat
  size : Nat
  hosts : List String
deriving DecidableEq, Repr

/-- How a file is to be created. Zero sizes and counts stand for the configured ones. -/
structure CreateOptions where
  overwrite : Bool
  bufferSize : UInt64
  replication : UInt16
  blockSize : UInt64
deriving DecidableEq, Repr

namespace CreateOptions

/-- Nothing asked for: no overwriting, configured sizes. -/
def none : CreateOptions := ⟨false, 0, 0, 0⟩

/-- Overwriting with configured sizes. -/
def overwriting : CreateOptions := { none with overwrite := true }

/-- The options as a record text. -/
def text (options : CreateOptions) : String :=
  recordText "CreateOptions"
    [("overwrite", toString options.overwrite), ("buffer_size", toString options.bufferSize),
     ("replication", toString options.replication), ("block_size", toString options.blockSize)]

end CreateOptions

end FileGateway
