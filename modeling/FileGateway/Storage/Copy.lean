import FileGateway.Ending
import FileGateway.Storage.Clients
import FileGateway.Storage.Streams

/-! # Copying trees between clients

A copy walks the source through one client and builds the target through another, file by file.
A move is a copy that removes the source in the end. The recursion is bounded by the depth that a
source can have, and the transfer of one file by its size, so a copy between plain clients ends.
-/

namespace FileGateway.Storage

/-- Runs an action and hands its exception over as a value. -/
def attempt {α : Type} (action : Action α) : Action (Except Exception α) := do
  try
    return .ok (← action)
  catch failure =>
    match failure with
    | .raised exception => return .error exception
    | _ => throw failure

/-- Reads and writes until nothing is left to read, in at most so many steps. -/
def pump (input output length : Nat) : Nat → Action Unit
  | 0 => throw .endless
  | steps + 1 => do
    let result ← read input length
    if result.count = 0 then return ()
    if length < result.count then
      throw (.crashed
        (some s!"range end index {result.count} out of range for slice of length {length}"))
    let _ ← write output
      (result.data ++ List.replicate (result.count - result.data.length) 0)
    pump input output length steps

/-- The reads that a stream needs to its end, one of them for the end itself. -/
def readsLeft (stream : Nat) : Action Nat := do
  match (← streamAt stream).channel with
  | .clusterReader number reader =>
    return (((← clusterAt number).tree.file? reader.location).map FileNode.size).getD 0 + 1
  | .diskReader reader => return reader.size (← get).disk + 1
  | _ => return 1

/-- Copies one file. Both streams are closed even if the transfer fails. -/
def copyFile (sourceClient : Nat) (source : Path) (targetClient : Nat) (target : Path)
    (conf : Configuration) : Action Unit := do
  let input ← openReader sourceClient source conf.bufferSize
  let replication ← defaultReplication targetClient
  let blockSize ← defaultBlockSize targetClient
  let output ← createWriter targetClient target ⟨false, conf.bufferSize, replication, blockSize⟩
  endingWith (dropStream output) do
    let length := max conf.bufferSize.toNat 1
    checkBuffer length
    let steps ← readsLeft input
    let copied ← attempt (pump input output length steps)
    let closedOutput ← attempt (closeStream output)
    let closedInput ← attempt (closeStream input)
    answerOf copied
    answerOf closedOutput
    answerOf closedInput

/-- Copies a file, or a directory with its entries, at most so many levels deep. -/
def copyTree (sourceClient targetClient : Nat) (conf : Configuration) :
    Nat → Path → Path → Action Unit
  | 0, _, _ => throw .endless
  | levels + 1, source, target => do
    let found ← status sourceClient source
    if found.isDirectory then
      let entries ← list sourceClient source
      createDirectories targetClient target
      for entry in entries do
        match entry.path.fileName? with
        | some name =>
          copyTree sourceClient targetClient conf levels entry.path (target.join ⟨name⟩)
        | none => pure ()
    else copyFile sourceClient source targetClient target conf

/-- No source is deeper: a path on the disk is too short for more names, and every name on a
cluster has an entry. -/
def deepest (storage : Storage) : Nat :=
  storage.clusters.foldr (fun cluster rest => cluster.tree.entries.length + rest)
    (Disk.pathLimit + 1)

/-- Copies what is at a path to a free path, and removes the source then if asked to. A target in
the source is refused where both clients work at one address. -/
def copy (sourceClient : Nat) (source : Path) (targetClient : Nat) (target : Path)
    (deleteSource : Bool) (conf : Configuration) : Action Unit := do
  if (← uri sourceClient) = (← uri targetClient) then
    let origin ← resolve sourceClient source
    let goal ← resolve targetClient target
    if goal.isWithin origin then raise (.copyIntoItself origin.toPath goal.toPath)
  if ← isPresent targetClient target then raise (.taken target)
  copyTree sourceClient targetClient conf (deepest (← get)) source target
  if deleteSource then delete sourceClient source

end FileGateway.Storage
