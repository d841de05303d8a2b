import FileGateway.Text.Utf8

/-! # Path texts

A path is what a caller wrote: any bytes, with slashes between segments. It is read as components,
of which the empty segment and the inner `.` leave no trace. Resolving a path against a directory
evaluates the components on a stack of names, where `..` at the bottom is ignored.
-/

namespace FileGateway

/-- A name in a directory: the bytes between two slashes. -/
abbrev Name := Bytes

structure Path where
  bytes : Bytes
deriving DecidableEq, Repr, Inhabited

/-- One step of a path. A leading `.` is kept only by a relative path. -/
inductive Component
  | root
  | current
  | parent
  | name (name : Name)
deriving DecidableEq, Repr

namespace Path

def slash : UInt8 := 0x2f

def dot : UInt8 := 0x2e

/-- The texts between slashes, the empty ones included. -/
def segments : Bytes → List Bytes
  | [] => [[]]
  | byte :: rest =>
    if byte = slash then [] :: segments rest
    else
      match segments rest with
      | [] => [[byte]]
      | segment :: more => (byte :: segment) :: more

end Path

namespace Component

/-- What a segment stands for, when it is not the first. -/
def ofSegment? (segment : Bytes) : Option Component :=
  if segment = [] ∨ segment = [Path.dot] then none
  else if segment = [Path.dot, Path.dot] then some .parent
  else some (.name segment)

end Component

namespace Path

def ofText (text : String) : Path := ⟨Utf8.encode text⟩

def isAbsolute (path : Path) : Bool := path.bytes.head? == some slash

def components (path : Path) : List Component :=
  let inner := (segments path.bytes).filterMap Component.ofSegment?
  if path.isAbsolute then .root :: inner
  else if (segments path.bytes).head? = some [dot] then .current :: inner
  else inner

/-- A path as it is shown in messages. -/
def display (path : Path) : String := Utf8.lossy path.bytes

/-- Appends a path to a directory. An absolute path replaces the directory. -/
def join (directory path : Path) : Path :=
  if path.isAbsolute then path
  else
    match directory.bytes.getLast? with
    | none => path
    | some last =>
      if last = slash then ⟨directory.bytes ++ path.bytes⟩
      else ⟨directory.bytes ++ slash :: path.bytes⟩

/-- The last component, if it is a name. -/
def fileName? (path : Path) : Option Name :=
  match path.components.getLast? with
  | some (.name name) => some name
  | _ => none

/-- The text of a list of names below the root, or below nothing. -/
def ofNames (absolute : Bool) (names : List Name) : Path :=
  ⟨(if absolute then [slash] else []) ++ List.intercalate [slash] names⟩

/-- One component evaluated on a stack of names, the last name on top. -/
def climb (names : List Name) : Component → List Name
  | .root => []
  | .current => names
  | .parent => names.dropLast
  | .name name => names ++ [name]

/-- The path without `.`, `..` and doubled slashes. -/
def normalize (path : Path) : Path :=
  ofNames path.isAbsolute (path.components.foldl climb [])

/-- The normal form of a path read in a directory. -/
def resolve (directory path : Path) : Path :=
  normalize (if path.isAbsolute then path else directory.join path)

end Path

end FileGateway
