import FileGateway.Disk.Walk
import FileGateway.FileStatus

/-! # Disks

What a process asks of its disk, call by call. A call that fails changes nothing, but for the two
that work on whole subtrees: making a directory with all those above it may fail half way.
-/

namespace FileGateway

/-- What the disk knows about something. -/
structure DiskStatus where
  kind : FileKind
  size : Nat
  /-- In nanoseconds since the epoch. -/
  modified : Int
deriving DecidableEq, Repr

namespace Disk

/-- A disk with a working directory and those above it, all empty. -/
def new (now : Int) (workingDirectory : Location) (capacity used : Nat) : Disk :=
  { tree := workingDirectory.ancestors.foldl (fun tree place => tree.insert place (.directory now))
      .empty
    files := []
    workingDirectory := some workingDirectory
    capacity
    used }

/-! ## Asking -/

/-- The status of an entry. A link counts as a file that holds its target. -/
def statusOf (disk : Disk) : DiskEntry → DiskStatus
  | .directory modified => ⟨.directory, 0, modified⟩
  | .link target modified => ⟨.file, target.length, modified⟩
  | .file number =>
    match disk.files[number]? with
    | some file => ⟨.file, file.data.length, file.modified⟩
    | none => ⟨.file, 0, 0⟩

/-- The status of what a path leads to, links followed. -/
def status (disk : Disk) (path : Path) : Except SystemError DiskStatus :=
  (disk.find .follow path).map fun found => disk.statusOf found.2

/-- Whether a path leads to something. -/
def isPresent (disk : Disk) (path : Path) : Bool := (disk.status path).toOption.isSome

def isDirectory (disk : Disk) (path : Path) : Bool :=
  match disk.status path with
  | .ok status => status.kind == .directory
  | .error _ => false

/-- The names in a directory with the status of each, links not followed. -/
def list (disk : Disk) (path : Path) : Except SystemError (List (Name × DiskStatus)) :=
  match disk.find .follow path with
  | .error error => .error error
  | .ok (location, .directory _) =>
    .ok ((disk.tree.children location).filterMap fun (place, entry) =>
      place.getLast?.map fun name => (name, disk.statusOf entry))
  | .ok _ => .error .notADirectory

/-- The number of the file that a path leads to. -/
def openFile (disk : Disk) (path : Path) : Except SystemError Nat :=
  match disk.find .follow path with
  | .error error => .error error
  | .ok (_, .file number) => .ok number
  | .ok _ => .error .isADirectory

/-- The size of the disk and the part in use, asked at a path. -/
def usage (disk : Disk) (path : Path) : Except SystemError (Nat × Nat) :=
  (disk.find .follow path).map fun _ => (disk.capacity, disk.used)

def fileData (disk : Disk) (number : Nat) : Bytes :=
  ((disk.files[number]?).map DiskFile.data).getD []

/-- Up to `count` bytes of a file from a position on, in one transfer. -/
def readAt (disk : Disk) (number position count : Nat) : Bytes :=
  ((disk.fileData number).drop position).take (min count Transfer.limit)

/-- What becomes of the transfers of a stream. -/
def transfersOf (disk : Disk) (stream : Nat) : List Transfer := (disk.transfers[stream]?).getD []

/-! ## Changing -/

/-- Notes that the names in a directory changed. -/
def stamp (disk : Disk) (now : Int) (directory : Location) : Disk :=
  match disk.tree.get? directory with
  | some (.directory _) => { disk with tree := disk.tree.insert directory (.directory now) }
  | _ => disk

/-- Sets the entry of a place. -/
def place (disk : Disk) (now : Int) (location : Location) (entry : DiskEntry) : Disk :=
  { disk with tree := disk.tree.insert location entry }.stamp now location.dropLast

/-- Puts data at a position of a file. A gap before it is filled with zeros. -/
def overlay (old : Bytes) (position : Nat) (data : Bytes) : Bytes :=
  if data.isEmpty then old
  else
    old.take position ++ List.replicate (position - old.length) 0 ++ data
      ++ old.drop (position + data.length)

/-- Writes to a file at a position. -/
def writeAt (disk : Disk) (now : Int) (number position : Nat) (data : Bytes) : Disk :=
  match disk.files[number]? with
  | some file =>
    { disk with
      files := disk.files.set number
        ⟨overlay file.data position data, if data.isEmpty then file.modified else now⟩ }
  | none => disk

/-- Makes an empty file, or empties the one that is there, and gives its number. -/
def createFile (disk : Disk) (now : Int) (path : Path) : Except SystemError (Nat × Disk) :=
  match disk.locate .create path with
  | .error error => .error error
  | .ok location =>
    match disk.tree.get? location with
    | some (.directory _) => .error .isADirectory
    | some (.link _ _) => .error .tooManyLinks
    | some (.file number) => .ok (number, { disk with files := disk.files.set number ⟨[], now⟩ })
    | none =>
      let number := disk.files.length
      let disk := { disk with files := disk.files ++ [(⟨[], now⟩ : DiskFile)] }
      .ok (number, disk.place now location (.file number))

/-- Puts a new entry at the end of a path, where nothing may be, a link included. -/
def addEntry (disk : Disk) (now : Int) (path : Path) (entry : DiskEntry) :
    Except SystemError Disk :=
  match disk.locate .keep path with
  | .error error => .error error
  | .ok location =>
    match disk.tree.get? location with
    | some _ => .error .fileExists
    | none => .ok (disk.place now location entry)

def makeDirectory (disk : Disk) (now : Int) (path : Path) : Except SystemError Disk :=
  disk.addEntry now path (.directory now)

/-- Makes a link to any text. -/
def makeLink (disk : Disk) (now : Int) (target : Bytes) (path : Path) : Except SystemError Disk :=
  if 0 ∈ target then .error .nulInPath
  else if target = [] then .error .notFound
  else if pathLimit ≤ target.length then .error .nameTooLong
  else disk.addEntry now path (.link target now)

/-- Makes the first of some directories. Each one is in the next, and where it cannot be made for
lack of that, the rest of the list is made first. A directory that is there already will do. -/
def makeFirst (now : Int) : List Location → Disk → Except SystemError Unit × Disk
  | [], disk => (.ok (), disk)
  | location :: above, disk =>
    if location = .root then (.ok (), disk)
    else
      match disk.makeDirectory now location.toPath with
      | .ok made => (.ok (), made)
      | .error error =>
        if error.errorKind = .notFound then
          match makeFirst now above disk with
          | (.error error, disk) => (.error error, disk)
          | (.ok (), disk) =>
            match disk.makeDirectory now location.toPath with
            | .ok made => (.ok (), made)
            | .error error =>
              (if disk.isDirectory location.toPath then .ok () else .error error, disk)
        else (if disk.isDirectory location.toPath then .ok () else .error error, disk)

/-- Makes a directory and those missing above it. -/
def makeDirectories (disk : Disk) (now : Int) (location : Location) :
    Except SystemError Unit × Disk :=
  makeFirst now location.ancestors.reverse disk

/-- Where the working directory is after a place was removed with everything below it. -/
def withoutPlace (location : Location) (directory : Option Location) : Option Location :=
  directory.filter fun directory => !directory.isWithin location

/-- Removes a name that is no directory. -/
def removeName (disk : Disk) (now : Int) (path : Path) : Except SystemError Disk :=
  match disk.find .keep path with
  | .error error => .error error
  | .ok (_, .directory _) => .error .isADirectory
  | .ok (location, _) =>
    .ok ({ disk with tree := disk.tree.erase location }.stamp now location.dropLast)

/-- Removes a directory with everything below it. A link to a directory is removed alone. -/
def removeTree (disk : Disk) (now : Int) (path : Path) : Except SystemError Disk :=
  match disk.find .keep path with
  | .error error => .error error
  | .ok (_, .link _ _) => disk.removeName now path
  | .ok (_, .file _) => .error .notADirectory
  | .ok (location, .directory _) =>
    if location = .root then .error .busy
    else
      .ok ({ disk with
        tree := disk.tree.prune location
        workingDirectory := withoutPlace location disk.workingDirectory
        }.stamp now location.dropLast)

/-- The directory of the process after a move. -/
def movedPlace (source target : Location) (directory : Location) : Location :=
  if directory.isWithin source then target ++ directory.drop source.length else directory

/-- Moves an entry to a place whose own entry, if any, is lost. -/
def rehome (disk : Disk) (now : Int) (source target : Location) : Disk :=
  ({ disk with
    tree := Tree.graft (disk.tree.erase target) source target
    workingDirectory := (withoutPlace target disk.workingDirectory).map (movedPlace source target)
    }.stamp now source.dropLast).stamp now target.dropLast

/-- Moves an entry to another name. The new name may be in use by something that is no directory,
unless a directory moves; it is replaced. -/
def move (disk : Disk) (now : Int) (source target : Path) : Except SystemError Disk :=
  match disk.locate .keep source with
  | .error error => .error error
  | .ok source =>
    match disk.locate .keep target with
    | .error error => .error error
    | .ok target =>
      if source = .root ∨ target = .root then .error .busy
      else
        match disk.tree.get? source, disk.tree.get? target with
        | none, _ => .error .notFound
        | some moving, there =>
          if source = target then .ok disk
          else if target.isWithin source then .error .invalidArgument
          else if source.isWithin target then .error .notEmpty
          else
            match moving, there with
            | .directory _, some (.file _) | .directory _, some (.link _ _) =>
              .error .notADirectory
            | .file _, some (.directory _) | .link _ _, some (.directory _) =>
              .error .isADirectory
            | .directory _, some (.directory _) =>
              if (disk.tree.children target).isEmpty then .ok (disk.rehome now source target)
              else .error .notEmpty
            | _, _ => .ok (disk.rehome now source target)

/-- Sets the time of what a path leads to. -/
def touch (disk : Disk) (path : Path) (modified : Int) : Except SystemError Disk :=
  match disk.find .follow path with
  | .error error => .error error
  | .ok (location, .directory _) =>
    .ok { disk with tree := disk.tree.insert location (.directory modified) }
  | .ok (location, .link target _) =>
    .ok { disk with tree := disk.tree.insert location (.link target modified) }
  | .ok (_, .file number) =>
    .ok { disk with files := disk.files.set number ⟨disk.fileData number, modified⟩ }

end Disk

end FileGateway
