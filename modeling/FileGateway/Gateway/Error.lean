import FileGateway.Exception
import FileGateway.Storage

/-! # Errors of gateway calls

A failed call records one error for its thread: a kind with a code and a system error number, and a
message. Most errors are exceptions of the engine; the rest are arguments and handles that the
gateway refuses itself, and results that do not fit their type.
-/

namespace FileGateway

/-- The calls that native code makes. -/
inductive EntryPoint
  | connect
  | disconnect
  | copy
  | move
  | delete
  | rename
  | exist
  | lock
  | releaseLock
  | getWorkingDirectory
  | setWorkingDirectory
  | createDirectory
  | setReplication
  | getDefaultBlockSize
  | getCapacity
  | getUsed
  | openFile
  | closeFile
  | read
  | pread
  | write
  | seek
  | tell
  | flush
  | available
  | getPathInfo
  | listDirectory
  | getHosts
  | convertToGlobalRef
  | deleteGlobalRef
deriving DecidableEq, Repr

namespace EntryPoint

/-- The name that native code calls. -/
def symbol : EntryPoint → String
  | .connect => "hdfsConnect"
  | .disconnect => "hdfsDisconnect"
  | .copy => "hdfsCopy"
  | .move => "hdfsMove"
  | .delete => "hdfsDelete"
  | .rename => "hdfsRename"
  | .exist => "hdfsExists"
  | .lock => "hdfsLock"
  | .releaseLock => "hdfsReleaseLock"
  | .getWorkingDirectory => "hdfsGetWorkingDirectory"
  | .setWorkingDirectory => "hdfsSetWorkingDirectory"
  | .createDirectory => "hdfsCreateDirectory"
  | .setReplication => "hdfsSetReplication"
  | .getDefaultBlockSize => "hdfsGetDefaultBlockSize"
  | .getCapacity => "hdfsGetCapacity"
  | .getUsed => "hdfsGetUsed"
  | .openFile => "hdfsOpenFile"
  | .closeFile => "hdfsCloseFile"
  | .read => "hdfsRead"
  | .pread => "hdfsPread"
  | .write => "hdfsWrite"
  | .seek => "hdfsSeek"
  | .tell => "hdfsTell"
  | .flush => "hdfsFlush"
  | .available => "hdfsAvailable"
  | .getPathInfo => "hdfsGetPathInfo"
  | .listDirectory => "hdfsListDirectory"
  | .getHosts => "hdfsGetHosts"
  | .convertToGlobalRef => "hdfsConvertToGlobalRef"
  | .deleteGlobalRef => "hdfsDeleteGlobalRef"

end EntryPoint

/-- What a file is open for. -/
inductive Direction
  | nothing
  | reading
  | writing
deriving DecidableEq, Repr

namespace Direction

def text : Direction → String
  | .nothing => "nothing"
  | .reading => "reading"
  | .writing => "writing"

def code : Direction → Nat
  | .nothing => 0
  | .reading => 1
  | .writing => 2

end Direction

inductive CallErrorKind
  | connectionFailure
  | invalidHandle
  | invalidState
  | ioFailure
  | notFound
  | permissionDenied
  | alreadyExists
  | invalidArgument
  | internalError
deriving DecidableEq, Repr

namespace CallErrorKind

def code : CallErrorKind → Int32
  | .connectionFailure => 1
  | .invalidHandle => 2
  | .invalidState => 3
  | .ioFailure => 4
  | .notFound => 5
  | .permissionDenied => 6
  | .alreadyExists => 7
  | .invalidArgument => 8
  | .internalError => 255

/-- The system error number that goes with a kind. -/
def errorNumber : CallErrorKind → Int32
  | .connectionFailure => 111
  | .invalidHandle => 9
  | .invalidState | .invalidArgument => 22
  | .ioFailure => 5
  | .notFound => 2
  | .permissionDenied => 13
  | .alreadyExists => 17
  | .internalError => 255

/-- The kind of an exception. -/
def ofClass : ExceptionClass → CallErrorKind
  | .connect | .unknownHost => .connectionFailure
  | .invalidReference | .classCast => .invalidHandle
  | .illegalState | .unsupportedOperation => .invalidState
  | .io => .ioFailure
  | .fileNotFound => .notFound
  | .accessControl => .permissionDenied
  | .fileAlreadyExists => .alreadyExists
  | .illegalArgument => .invalidArgument
  | .internal => .internalError

end CallErrorKind

inductive CallError
  | exception (exception : Exception)
  /-- The call stopped half way, with words if there are any. -/
  | crashed (entry : EntryPoint) (words : Option String)
  /-- The call never comes to an end. -/
  | endless (entry : EntryPoint)
  /-- The engine met a number that stands for nothing. -/
  | lost (entry : EntryPoint)
  | nullFileSystem
  | localFileSystem
  | nullFile
  /-- The file was closed or never opened. -/
  | deadFile
  | noStream
  | nullReference
  | wrongDirection (entry : EntryPoint) (expected found : Direction)
  | nullArgument (name : String)
  /-- The argument is not UTF-8. -/
  | notText (name : String)
  | negative (name : String)
  | notPositive (replication : Int16)
  /-- The flags of opening ask for neither direction, or for both. -/
  | badFlags (flags : Int32)
  | smallBuffer (needed : Nat) (size : UInt64)
  /-- The default filesystem is configured with its port. -/
  | portOfDefault (port : UInt16)
  | notThere (path : Path)
  /-- A number does not fit the named type. -/
  | overflow (value : Nat) (type : String)
  /-- A text cannot be handed out because of a NUL byte. -/
  | nulInText (text : String)
  | tooManyEntries
deriving DecidableEq, Repr

namespace CallError

def kind : CallError → CallErrorKind
  | .exception raised => .ofClass raised.kind
  | .nullFileSystem | .localFileSystem | .nullFile | .deadFile | .noStream | .nullReference =>
    .invalidHandle
  | .wrongDirection _ _ _ => .invalidState
  | .nullArgument _ | .notText _ | .negative _ | .notPositive _ | .badFlags _
  | .smallBuffer _ _ => .invalidArgument
  | .portOfDefault _ => .connectionFailure
  | .notThere _ => .notFound
  | .crashed _ _ | .endless _ | .lost _ | .overflow _ _ | .nulInText _ | .tooManyEntries =>
    .internalError

/-- The bits of a number in base sixteen. -/
def hexText (bits : UInt32) : String := "0x" ++ String.ofList (Nat.toDigits 16 bits.toNat)

def message : CallError → String
  | .exception raised => raised.text
  | .crashed entry (some words) => s!"{entry.symbol} panicked: {words}"
  | .crashed entry none => s!"{entry.symbol} panicked: unknown panic payload"
  | .endless entry => s!"{entry.symbol} does not end"
  | .lost entry => s!"{entry.symbol} lost track of an object"
  | .nullFileSystem => "hdfsFS is NULL"
  | .localFileSystem => "hdfsFS is not a connected filesystem"
  | .nullFile => "hdfsFile is NULL"
  | .deadFile => "hdfsFile is closed or was never opened"
  | .noStream => "hdfsFile has no stream"
  | .nullReference => "reference is NULL"
  | .wrongDirection entry expected found =>
    s!"{entry.symbol} needs a file open for {expected.text}, this one is open for {found.text}"
  | .nullArgument name => s!"{name} is NULL"
  | .notText name => s!"{name} is not valid UTF-8"
  | .negative name => s!"{name} is negative"
  | .notPositive replication => s!"replication {replication.toInt} is not positive"
  | .badFlags flags =>
    s!"flags {hexText flags.toUInt32} must hold exactly one of O_RDONLY and O_WRONLY"
  | .smallBuffer needed size =>
    s!"working directory needs {needed} bytes, the buffer holds {size}"
  | .portOfDefault port => s!"the default filesystem takes port 0, not {port}"
  | .notThere path => s!"{path.display} does not exist"
  | .overflow value type => s!"{value} overflows {type}"
  | .nulInText text => s!"{Quoted.text text} contains a NUL byte"
  | .tooManyEntries => "too many directory entries"

/-- The error of an engine failure in a call. -/
def ofFailure (entry : EntryPoint) : Failure → CallError
  | .raised raised => .exception raised
  | .crashed words => .crashed entry words
  | .endless => .endless entry
  | .unknown => .lost entry

end CallError

end FileGateway
