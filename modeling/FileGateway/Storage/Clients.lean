import FileGateway.Storage

/-! # What clients do

Every call resolves the path it is given in the client's own directory and then turns to the
backend. A client that has no rule of its own for a call treats every backend alike.
-/

namespace FileGateway.Storage

/-- The address that a client works at. -/
def uri (client : Nat) : Action String := do
  match (← clientAt client).backend with
  | .cluster number => return (← clusterAt number).uri
  | .disk _ => return "file:///"

/-- The directory of a client. -/
def directory (client : Nat) : Action Location := do
  return (← clientAt client).directory

/-- The place that a path means to a client. -/
def resolve (client : Nat) (path : Path) : Action Location := do
  return (← directory client).resolve path

/-- Moves a client to another directory, which need not exist. -/
def changeDirectory (client : Nat) (path : Path) : Action Unit := do
  let found ← clientAt client
  scripted found.script .changeDirectory noAnswer do
    setClient client { found with directory := found.directory.resolve path }

/-! ## Asking -/

def status (client : Nat) (path : Path) : Action FileStatus := do
  let found ← clientAt client
  scripted found.script .status Answer.status? do
    let location := found.directory.resolve path
    match found.backend with
    | .cluster number => askCluster number (·.status location)
    | .disk conf => askDisk (LocalDisk.status conf · location)

/-- Whether a path has a status. Any failure but a missing file is a failure here too. -/
def isPresent (client : Nat) (path : Path) : Action Bool := do
  try
    let _ ← status client path
    return true
  catch failure =>
    match failure with
    | .raised exception => if exception.kind = .fileNotFound then return false else throw failure
    | _ => throw failure

/-- The entries of a directory, or a file alone. -/
def list (client : Nat) (path : Path) : Action (List FileStatus) := do
  let found ← clientAt client
  scripted found.script .list Answer.statuses? do
    let location := found.directory.resolve path
    match found.backend with
    | .cluster number => askCluster number (·.list location)
    | .disk conf => askDisk (LocalDisk.list conf · location)

def blockLocations (client : Nat) (path : Path) (start length : UInt64) :
    Action (List BlockLocation) := do
  let found ← clientAt client
  scripted found.script .blockLocations noAnswer do
    let location := found.directory.resolve path
    match found.backend with
    | .cluster number => askCluster number (·.blockLocations location start length)
    | .disk conf => askDisk (LocalDisk.blockLocations conf · location start length)

def defaultBlockSize (client : Nat) : Action UInt64 := do
  let found ← clientAt client
  scripted found.script .defaultBlockSize (fun answer => answer.number?.map UInt64.ofNat) do
    match found.backend with
    | .cluster number => return (← clusterAt number).defaultBlockSize
    | .disk conf => return conf.localBlockSize

def defaultReplication (client : Nat) : Action UInt16 := do
  match (← clientAt client).backend with
  | .cluster number => return (← clusterAt number).defaultReplication
  | .disk _ => return 1

/-- In bytes. -/
def capacity (client : Nat) : Action Nat := do
  let found ← clientAt client
  scripted found.script .capacity Answer.number? do
    match found.backend with
    | .cluster number =>
      match (← clusterAt number).capacity (← get).overflowChecks with
      | some capacity => return capacity.toNat
      | none => throw (.crashed (some "attempt to multiply with overflow"))
    | .disk _ => return (← askDisk (LocalDisk.usage · found.directory)).1

/-- In bytes, replicas included. -/
def used (client : Nat) : Action Nat := do
  let found ← clientAt client
  scripted found.script .used Answer.number? do
    match found.backend with
    | .cluster number => return (← clusterAt number).used
    | .disk _ => return (← askDisk (LocalDisk.usage · found.directory)).2

/-! ## Changing -/

/-- Makes a directory and everything missing above it. -/
def createDirectories (client : Nat) (path : Path) : Action Unit := do
  let found ← clientAt client
  scripted found.script .createDirectories noAnswer do
    let location := found.directory.resolve path
    let storage ← get
    match found.backend with
    | .cluster number => onCluster number (·.createDirectories storage.seconds location)
    | .disk _ =>
      let (outcome, disk) := LocalDisk.createDirectories storage.disk storage.now location
      setDisk disk
      answerOf outcome

/-- Removes a file, or a directory with everything below it. -/
def delete (client : Nat) (path : Path) : Action Unit := do
  let found ← clientAt client
  scripted found.script .delete noAnswer do
    let location := found.directory.resolve path
    match found.backend with
    | .cluster number => onCluster number (·.delete location)
    | .disk _ =>
      let storage ← get
      setDisk (← answerOf (LocalDisk.delete storage.disk storage.now location))

def rename (client : Nat) (source target : Path) : Action Unit := do
  let found ← clientAt client
  scripted found.script .rename noAnswer do
    let source := found.directory.resolve source
    let target := found.directory.resolve target
    match found.backend with
    | .cluster number => onCluster number (·.rename source target)
    | .disk _ =>
      let storage ← get
      setDisk (← answerOf (LocalDisk.rename storage.disk storage.now source target))

def setReplication (client : Nat) (path : Path) (replication : UInt16) : Action Unit := do
  let found ← clientAt client
  scripted found.script .setReplication noAnswer do
    let location := found.directory.resolve path
    match found.backend with
    | .cluster number => onCluster number (·.setReplication location replication)
    | .disk conf => askDisk (LocalDisk.setReplication conf · location)

/-- Takes a lock on something that exists. -/
def lock (client : Nat) (path : Path) (shared : Bool) : Action Unit := do
  let found ← clientAt client
  scripted found.script .lock noAnswer do
    let location := found.directory.resolve path
    match found.backend with
    | .cluster number => onCluster number (·.lock location shared)
    | .disk _ =>
      let _ ← askDisk (LocalDisk.metadata · location)
      let storage ← get
      let (outcome, diskLocks) := storage.diskLocks.acquire location shared location.toPath
      set { storage with diskLocks }
      answerOf outcome

/-- Drops one holder of a lock. -/
def release (client : Nat) (path : Path) : Action Unit := do
  let found ← clientAt client
  scripted found.script .release noAnswer do
    let location := found.directory.resolve path
    match found.backend with
    | .cluster number => onCluster number (·.release location)
    | .disk _ =>
      let storage ← get
      let (outcome, diskLocks) := storage.diskLocks.release location location.toPath
      set { storage with diskLocks }
      answerOf outcome

/-- Says goodbye to a client. -/
def closeClient (client : Nat) : Action Unit := do
  let found ← clientAt client
  scripted found.script .close noAnswer (pure ())

/-! ## Opening streams -/

/-- A buffer that no memory could hold crashes the call. -/
def checkBuffer (bytes : Nat) : Action Unit :=
  if bufferLimit ≤ bytes then throw (.crashed (some "capacity overflow")) else pure ()

/-- What becomes of the transfers of the stream that is opened next. -/
def nextTransfers : Action (List Transfer) := do
  let storage ← get
  return storage.disk.transfersOf storage.streams.length

/-- Opens a file for reading and gives the number of the stream. -/
def openReader (client : Nat) (path : Path) (bufferSize : UInt64) : Action Nat := do
  let found ← clientAt client
  scripted found.script .openFile noAnswer do
    let location := found.directory.resolve path
    match found.backend with
    | .cluster number =>
      let reader ← askCluster number (ClusterReader.open · location bufferSize)
      addStream ⟨.clusterReader number reader, found.script⟩
    | .disk conf =>
      let reader ← askDisk (LocalDisk.openReader conf · location bufferSize)
      checkBuffer reader.capacity
      addStream ⟨.diskReader { reader with transfers := ← nextTransfers }, found.script⟩

/-- Creates a file for writing and gives the number of the stream. -/
def createWriter (client : Nat) (path : Path) (options : CreateOptions) : Action Nat := do
  let found ← clientAt client
  scripted found.script .createFile noAnswer do
    let location := found.directory.resolve path
    let storage ← get
    match found.backend with
    | .cluster number =>
      let writer ← onCluster number (ClusterWriter.create · storage.seconds location options)
      addStream ⟨.clusterWriter number writer, found.script⟩
    | .disk conf =>
      let (outcome, disk) :=
        LocalDisk.createWriter conf storage.disk storage.now location options
      setDisk disk
      let writer ← answerOf outcome
      checkBuffer writer.capacity
      addStream ⟨.diskWriter { writer with transfers := ← nextTransfers }, found.script⟩

end FileGateway.Storage
