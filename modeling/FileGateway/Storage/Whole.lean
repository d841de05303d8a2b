import FileGateway.Storage.Copy

/-! # Whole files and whole trees

Shorthands for the usual sequences of calls: writing a file at once, reading a file to its end, and
walking a tree from the top.
-/

namespace FileGateway.Storage

/-- Creates a file, writes it in one call and closes it. Says how much was accepted. -/
def writeWhole (client : Nat) (path : Path) (options : CreateOptions) (data : Bytes) :
    Action Nat := do
  let stream ← createWriter client path options
  endingWith (dropStream stream) do
    let count ← write stream data
    closeStream stream
    return count

/-- Reads until nothing comes. Gives the bytes and the number of reads, the last one included. -/
def readRest (stream chunk : Nat) : Nat → Action (Bytes × Nat)
  | 0 => throw .endless
  | steps + 1 => do
    let result ← read stream chunk
    if result.count = 0 then return ([], 1)
    let (rest, reads) ← readRest stream chunk steps
    return (result.data ++ rest, reads + 1)

/-- Reads a file to its end, at most `chunk` bytes at a time. -/
def readWhole (client : Nat) (path : Path) (bufferSize : UInt64) (chunk : Nat) :
    Action (Bytes × Nat) := do
  let stream ← openReader client path bufferSize
  let result ← readRest stream chunk (← readsLeft stream)
  closeStream stream
  return result

/-- What listing finds at a path and below, each directory followed by its entries. -/
def walkLevels (client : Nat) : Nat → Path → Action (List FileStatus)
  | 0, _ => throw .endless
  | levels + 1, path => do
    let entries ← list client path
    let parts ← entries.mapM fun entry => do
      if entry.isDirectory then return entry :: (← walkLevels client levels entry.path)
      return [entry]
    return parts.flatten

/-- Walks the tree below a path. -/
def walkTree (client : Nat) (path : Path) : Action (List FileStatus) := do
  walkLevels client (deepest (← get)) path

end FileGateway.Storage
