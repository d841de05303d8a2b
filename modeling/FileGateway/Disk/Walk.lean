import FileGateway.Disk.Transfer
import FileGateway.Path.Tree

/-! # Walking a disk

A disk holds directories, files and symbolic links in one tree. The contents of files are kept apart
under numbers, so an open file outlives its name. A path is walked step by step from the root or
the working directory, and every link on the way is replaced by the steps of its target.
-/

namespace FileGateway

/-- Something with a name on a disk. Times are in nanoseconds since the epoch. -/
inductive DiskEntry
  | directory (modified : Int)
  | file (number : Nat)
  | link (target : Bytes) (modified : Int)
deriving DecidableEq, Repr

structure DiskFile where
  data : Bytes
  modified : Int
deriving DecidableEq, Repr

structure Disk where
  tree : Tree DiskEntry
  /-- The contents of files by number, those without a name included. -/
  files : List DiskFile
  /-- The directory of the process, unless it was removed. -/
  workingDirectory : Option Location
  /-- In bytes. -/
  capacity : Nat
  /-- In bytes. -/
  used : Nat
  /-- What becomes of the transfers of the streams, by the number of the stream. -/
  transfers : List (List Transfer) := []
deriving DecidableEq, Repr

/-- A step on the way that a path describes. -/
inductive Step
  | enter (name : Name)
  | up
  | stay
  /-- A slash at the end: what was reached has to be a directory. -/
  | slash
deriving DecidableEq, Repr

namespace Step

def ofSegment (segment : Bytes) : Step :=
  if segment = [Path.dot] then .stay
  else if segment = [Path.dot, Path.dot] then .up
  else .enter segment

/-- The steps of a path text. -/
def ofBytes (bytes : Bytes) : List Step :=
  let segments := Path.segments bytes
  let inner := (segments.filter (· ≠ [])).map ofSegment
  if inner ≠ [] ∧ segments.getLast? = some [] then inner ++ [.slash] else inner

end Step

/-- How the last name of a path is treated. -/
inductive Ending
  /-- A link is followed. -/
  | follow
  /-- A link is taken as it is. -/
  | keep
  /-- A link is followed, and a file is to be there in the end. -/
  | create
deriving DecidableEq, Repr

/-- How far a walk gets without following a link. -/
inductive Stride
  | arrived (location : Location)
  | redirected (directory : Location) (target : Bytes) (rest : List Step)
deriving DecidableEq, Repr

namespace Disk

/-- The longest name in a directory, in bytes. -/
def maxName : Nat := 255

/-- Paths are shorter than this, in bytes. -/
def pathLimit : Nat := 4096

/-- The number of links that one walk follows at most. -/
def maxLinks : Nat := 40

/-- Walks up to the end or the next link. Only the last name may be missing, and it is looked up
only if it is a link. -/
def stride (disk : Disk) (ending : Ending) : Location → List Step → Except SystemError Stride
  | here, [] => .ok (.arrived here)
  | here, step :: rest =>
    match disk.tree.get? here with
    | none => .error .notFound
    | some (.file _) | some (.link _ _) => .error .notADirectory
    | some (.directory _) =>
      match step with
      | .stay | .slash => disk.stride ending here rest
      | .up => disk.stride ending here.dropLast rest
      | .enter name =>
        if ending = .create ∧ rest = [.slash] then .error .isADirectory
        else if maxName < name.length then .error .nameTooLong
        else
          match disk.tree.get? (here ++ [name]) with
          | some (.link target _) =>
            if ending = .keep ∧ rest = [] then .ok (.arrived (here ++ [name]))
            else .ok (.redirected here target rest)
          | _ => disk.stride ending (here ++ [name]) rest

/-- Walks with a budget of links. -/
def walk (disk : Disk) (ending : Ending) : Nat → Location → List Step → Except SystemError Location
  | links, here, steps =>
    match disk.stride ending here steps with
    | .error error => .error error
    | .ok (.arrived location) => .ok location
    | .ok (.redirected directory target rest) =>
      match links with
      | 0 => .error .tooManyLinks
      | links + 1 =>
        let start := if target.head? = some Path.slash then Location.root else directory
        disk.walk ending links start (Step.ofBytes target ++ rest)

/-- The place that a path leads to. Its directory exists; the place itself may be vacant. -/
def locate (disk : Disk) (ending : Ending) (path : Path) : Except SystemError Location :=
  if 0 ∈ path.bytes then .error .nulInPath
  else if path.bytes = [] then .error .notFound
  else if pathLimit ≤ path.bytes.length then .error .nameTooLong
  else
    let start := if path.isAbsolute then some Location.root else disk.workingDirectory
    match start with
    | none => .error .notFound
    | some start => disk.walk ending maxLinks start (Step.ofBytes path.bytes)

/-- What is at the end of a path. -/
def find (disk : Disk) (ending : Ending) (path : Path) :
    Except SystemError (Location × DiskEntry) :=
  match disk.locate ending path with
  | .error error => .error error
  | .ok location =>
    match disk.tree.get? location with
    | some entry => .ok (location, entry)
    | none => .error .notFound

end Disk

end FileGateway
