import FileGateway.Gateway.Clients

/-! # Calls that hand out records

Statuses and hosts are handed out as arrays of native code. A text in them ends at a NUL byte, so
one that holds a NUL byte itself is refused. Host lists are arrays of arrays, each ended by a null.
-/

namespace FileGateway

/-- A status as native code gets it. -/
structure FileInfo where
  kind : FileKind
  name : String
  modified : Int
  size : Int64
  replicas : Int32
deriving DecidableEq, Repr

/-- A text for native code, which must not hold a NUL. -/
def nativeText (text : String) : Except CallError String :=
  if '\x00' ∈ text.toList then .error (.nulInText text) else .ok text

namespace FileInfo

/-- Sizes beyond 63 bits stop at the largest number. -/
def ofStatus (status : FileStatus) : Except CallError FileInfo :=
  (nativeText status.path.display).map fun name =>
    ⟨status.kind, name, status.modified, .ofNat (min status.size (Gateway.offsetLimit - 1)),
      .ofNat status.replication.toNat⟩

end FileInfo

/-- An array of arrays of texts. A null, here none, ends each row and the whole. -/
abbrev HostMatrix := List (Option (List (Option String)))

namespace HostMatrix

/-- An array of pointers with a null behind them. -/
def terminated {α : Type} (items : List α) : List (Option α) := items.map some ++ [none]

/-- One row for each block. -/
def ofBlocks (blocks : List BlockLocation) : Except CallError HostMatrix :=
  let row (block : BlockLocation) := (block.hosts.mapM nativeText).map terminated
  (blocks.mapM row).map terminated

/-- What a reader finds in front of the first null. -/
def upToNull {α : Type} : List (Option α) → List α
  | some item :: rest => item :: upToNull rest
  | _ => []

/-- The rows as a reader finds them. -/
def rows (matrix : HostMatrix) : List (List String) := (upToNull matrix).map upToNull

end HostMatrix

namespace Gateway

/-- Answers, or refuses. -/
def orRefuse {α : Type} : Except CallError α → CallAction α
  | .ok value => pure value
  | .error error => refuse error

/-- The status of one path as an array of one; null on failure. -/
def getPathInfo (thread : Nat) (fileSystem : UInt64) (path : Option Bytes) :
    EntryCall (Option (List FileInfo)) :=
  call thread .getPathInfo none do
    let reference ← fileSystemArgument fileSystem
    let path ← pathArgument "path" path
    let status ← onEngine (Engine.status thread reference path)
    let status ← onEngine (Engine.fileStatus thread status)
    return some [← orRefuse (FileInfo.ofStatus status)]

/-- The entries of a directory, or a file alone. Null on failure and for an empty directory. -/
def listEntries (thread : Nat) (fileSystem : UInt64) (path : Option Bytes) (counted : Bool) :
    EntryCall (Option (List FileInfo)) :=
  call thread .listDirectory none do
    if !counted then refuse (.nullArgument "numEntries")
    let reference ← fileSystemArgument fileSystem
    let path ← pathArgument "path" path
    let statuses ← onEngine (Engine.list thread reference path)
    let statuses ← onEngine (Engine.fileStatuses thread statuses)
    if statuses.isEmpty then return none
    if sizeLimit ≤ statuses.length then refuse .tooManyEntries
    return some (← orRefuse (statuses.mapM FileInfo.ofStatus))

/-- The entries of a directory, and their number if there is a place to store it. The number is
zero when the entries are null. -/
def listDirectory (thread : Nat) (fileSystem : UInt64) (path : Option Bytes) (counted : Bool) :
    EntryCall (Option Int32 × Option (List FileInfo)) := do
  let entries ← listEntries thread fileSystem path counted
  let count : Int32 := .ofNat ((entries.map List.length).getD 0)
  return (if counted then some count else none, entries)

/-- The hosts of the blocks that reach into a range of a file; null on failure. -/
def getHosts (thread : Nat) (fileSystem : UInt64) (path : Option Bytes) (start length : Int64) :
    EntryCall (Option HostMatrix) :=
  call thread .getHosts none do
    let reference ← fileSystemArgument fileSystem
    let path ← pathArgument "path" path
    let start ← sizeArgument "start" start.toInt
    let length ← sizeArgument "length" length.toInt
    let blocks ← onEngine
      (Engine.blockLocations thread reference path (.ofNat start) (.ofNat length))
    let blocks ← onEngine (Engine.blockLocationArray thread blocks)
    return some (← orRefuse (HostMatrix.ofBlocks blocks))

end Gateway

end FileGateway
