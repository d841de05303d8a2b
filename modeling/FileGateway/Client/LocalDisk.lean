import FileGateway.Disk.Stream

/-! # What a local client does on the disk

A local client answers with whole seconds, one replica and blocks of the configured size on one
host. Errors of the disk are raised with the path they belong to.
-/

namespace FileGateway.LocalDisk

/-- The host of every block. -/
def host : String := "localhost"

/-- Whole seconds, the fraction dropped. -/
def seconds (nanoseconds : Int) : Int := nanoseconds.tdiv 1000000000

def fileStatus (conf : Configuration) (path : Path) (status : DiskStatus) : FileStatus :=
  match status.kind with
  | .directory => .ofDirectory path (seconds status.modified)
  | .file => .ofFile path status.size (seconds status.modified) 1 conf.localBlockSize

/-- Raises the errors of the disk on a path. -/
def raising {α : Type} (path : Path) : Except SystemError α → Except Exception α :=
  Except.mapError (.onPath path)

/-! ## Asking -/

def metadata (disk : Disk) (location : Location) : Except Exception DiskStatus :=
  raising location.toPath (disk.status location.toPath)

def status (conf : Configuration) (disk : Disk) (location : Location) :
    Except Exception FileStatus :=
  (metadata disk location).map (fileStatus conf location.toPath)

/-- The entries of a directory in order, each as it is by itself, or a file alone. -/
def list (conf : Configuration) (disk : Disk) (location : Location) :
    Except Exception (List FileStatus) := do
  let status ← metadata disk location
  if status.kind = .file then
    return [fileStatus conf location.toPath status]
  let entries ← raising location.toPath (disk.list location.toPath)
  return entries.map fun (name, status) =>
    fileStatus conf (Location.toPath (location ++ [name])) status

/-- The blocks of a file that reach into `length` bytes from `start` on. -/
def blocks (blockBytes size start length : Nat) : List BlockLocation :=
  if length = 0 ∨ size ≤ start then []
  else
    let stop := min (start + length) size
    let first := start / blockBytes
    let count := (stop + blockBytes - 1) / blockBytes - first
    (List.range count).map fun index =>
      let offset := (first + index) * blockBytes
      ⟨offset, min blockBytes (size - offset), [host]⟩

def blockLocations (conf : Configuration) (disk : Disk) (location : Location)
    (start length : UInt64) : Except Exception (List BlockLocation) := do
  let status ← status conf disk location
  if status.isDirectory then return []
  return blocks (max conf.localBlockSize.toNat 1) status.size start.toNat length.toNat

/-- A file has one replica whatever is asked for. -/
def setReplication (conf : Configuration) (disk : Disk) (location : Location) :
    Except Exception Unit := do
  let status ← status conf disk location
  if status.isDirectory then throw (.directory location.toPath)

/-- The size of the disk and the part in use, asked at a directory. -/
def usage (disk : Disk) (directory : Location) : Except Exception (Nat × Nat) :=
  let path := directory.toPath
  if 0 ∈ path.bytes then .error (.onPath path (.kind .invalidInput))
  else raising path (disk.usage path)

def openReader (conf : Configuration) (disk : Disk) (location : Location) (bufferSize : UInt64) :
    Except Exception DiskReader := do
  let path := location.toPath
  let status ← metadata disk location
  if status.kind = .directory then throw (.directory path)
  let file ← raising path (disk.openFile path)
  return .ofFile file path (conf.bufferSizeOr bufferSize).toNat

/-! ## Changing -/

/-- Whether something is in the way of a new file: a directory, or a file not to be overwritten. -/
def isTaken (disk : Disk) (location : Location) (overwrite : Bool) : Bool :=
  match disk.status location.toPath with
  | .ok status => status.kind == .directory || !overwrite
  | .error _ => false

/-- Makes the directories missing above a place. -/
def prepareParent (disk : Disk) (now : Int) (location : Location) :
    Except Exception Unit × Disk :=
  match location.parent? with
  | none => (.ok (), disk)
  | some parent =>
    let (made, disk) := disk.makeDirectories now parent
    (raising parent.toPath made, disk)

/-- Creates a file, with the directories missing above it. -/
def createWriter (conf : Configuration) (disk : Disk) (now : Int) (location : Location)
    (options : CreateOptions) : Except Exception DiskWriter × Disk :=
  let path := location.toPath
  if isTaken disk location options.overwrite then (.error (.taken path), disk)
  else
    match prepareParent disk now location with
    | (.error exception, disk) => (.error exception, disk)
    | (.ok (), disk) =>
      match disk.createFile now path with
      | .error error => (.error (.onPath path error), disk)
      | .ok (file, disk) =>
        (.ok (.ofFile file path (conf.bufferSizeOr options.bufferSize).toNat), disk)

def delete (disk : Disk) (now : Int) (location : Location) : Except Exception Disk := do
  let path := location.toPath
  let status ← metadata disk location
  raising path (match status.kind with
    | .directory => disk.removeTree now path
    | .file => disk.removeName now path)

def rename (disk : Disk) (now : Int) (source target : Location) : Except Exception Disk := do
  let _ ← metadata disk source
  if disk.isPresent target.toPath then throw (.taken target.toPath)
  raising source.toPath (disk.move now source.toPath target.toPath)

def createDirectories (disk : Disk) (now : Int) (location : Location) :
    Except Exception Unit × Disk :=
  let path := location.toPath
  match disk.status path with
  | .ok status => (if status.kind = .directory then .ok () else .error (.taken path), disk)
  | .error _ =>
    let (made, disk) := disk.makeDirectories now location
    (raising path made, disk)

end FileGateway.LocalDisk
