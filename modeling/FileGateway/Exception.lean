import FileGateway.Path
import FileGateway.Reference
import FileGateway.SystemError

/-! # Exceptions

An exception is the cause of a failed call. Callers branch on its class; its message is for people.
Class and message are functions of the cause, so the wording of each failure stands in one place.
-/

namespace FileGateway

inductive ExceptionClass
  | fileNotFound
  | accessControl
  | fileAlreadyExists
  | io
  | connect
  | unknownHost
  | illegalArgument
  | illegalState
  | unsupportedOperation
  | invalidReference
  | classCast
  | internal
deriving DecidableEq, Repr

namespace ExceptionClass

/-- Every class. -/
def all : List ExceptionClass :=
  [.fileNotFound, .accessControl, .fileAlreadyExists, .io, .connect, .unknownHost,
   .illegalArgument, .illegalState, .unsupportedOperation, .invalidReference, .classCast,
   .internal]

def name : ExceptionClass → String
  | .fileNotFound => "FileNotFoundException"
  | .accessControl => "AccessControlException"
  | .fileAlreadyExists => "FileAlreadyExistsException"
  | .io => "IOException"
  | .connect => "ConnectException"
  | .unknownHost => "UnknownHostException"
  | .illegalArgument => "IllegalArgumentException"
  | .illegalState => "IllegalStateException"
  | .unsupportedOperation => "UnsupportedOperationException"
  | .invalidReference => "InvalidReferenceException"
  | .classCast => "ClassCastException"
  | .internal => "InternalError"

/-- The class of a system error of some kind. -/
def ofErrorKind : ErrorKind → ExceptionClass
  | .notFound => .fileNotFound
  | .permissionDenied => .accessControl
  | .alreadyExists => .fileAlreadyExists
  | .connectionRefused | .connectionReset | .connectionAborted | .notConnected
  | .addrNotAvailable => .connect
  | .invalidInput => .illegalArgument
  | .unsupported => .unsupportedOperation
  | _ => .io

end ExceptionClass

inductive Exception
  /-- Nothing is at the path. -/
  | missing (path : Path)
  /-- The file an open writer belongs to is gone. -/
  | leaseLost (path : Path)
  /-- The directory that should hold the path is gone. -/
  | parentMissing (path : Path)
  /-- Something is at the path already. -/
  | taken (path : Path)
  /-- The file at the path has an open writer. -/
  | beingCreated (path : Path)
  | directory (path : Path)
  | lockHeld (path : Path)
  | notLocked (path : Path)
  | seekPastEnd (path : Path) (position : Nat)
  | closed (path : Path)
  | rootDeletion
  | moveBelowItself (path : Path)
  | copyIntoItself (source target : Path)
  | zeroReplication
  /-- A default name without a port. -/
  | noPort (name : String)
  | badPort (name : String)
  /-- Nobody answers at the authority. -/
  | refused (authority : String)
  /-- Only the base frame is left. -/
  | noFrame
  | deadReference (reference : Reference)
  | notLocal (reference : Reference)
  | deadLocal (reference : Reference)
  | alreadyGlobal (reference : Reference)
  | deadGlobal (reference : Reference)
  | localsFull
  | globalsFull
  /-- The object behind a reference is of another class. -/
  | wrongClass (expected found : String)
  /-- The operating system failed, on a path if one is known. -/
  | system (error : SystemError) (path : Option Path)
  /-- An exception with words of the raiser's choice. -/
  | raised (kind : ExceptionClass) (words : String)
deriving DecidableEq, Repr

namespace Exception

/-- The class of a cause. -/
def kind : Exception → ExceptionClass
  | .missing _ | .leaseLost _ | .parentMissing _ => .fileNotFound
  | .taken _ | .beingCreated _ => .fileAlreadyExists
  | .directory _ | .lockHeld _ | .seekPastEnd _ _ => .io
  | .notLocked _ | .closed _ | .noFrame => .illegalState
  | .rootDeletion | .moveBelowItself _ | .copyIntoItself _ _ | .zeroReplication =>
    .illegalArgument
  | .noPort _ | .badPort _ => .unknownHost
  | .refused _ => .connect
  | .deadReference _ | .notLocal _ | .deadLocal _ | .alreadyGlobal _ | .deadGlobal _ =>
    .invalidReference
  | .localsFull | .globalsFull => .internal
  | .wrongClass _ _ => .classCast
  | .system error _ => .ofErrorKind error.errorKind
  | .raised kind _ => kind

def message : Exception → String
  | .missing path => s!"{path.display} does not exist"
  | .leaseLost path =>
    s!"{path.display} (no lease, the file was removed while open) does not exist"
  | .parentMissing path => s!"parent of {path.display} does not exist"
  | .taken path => s!"{path.display} already exists"
  | .beingCreated path => s!"{path.display} (being created by another client) already exists"
  | .directory path => s!"{path.display} is a directory"
  | .lockHeld path => s!"{path.display}: lock is already held"
  | .notLocked path => s!"{path.display}: not locked"
  | .seekPastEnd path position =>
    s!"{path.display}: cannot seek to {position}, past end of file"
  | .closed path => s!"{path.display} is closed"
  | .rootDeletion => "cannot delete the root directory"
  | .moveBelowItself path => s!"cannot move {path.display} below itself"
  | .copyIntoItself source target =>
    s!"cannot copy {source.display} into itself ({target.display})"
  | .zeroReplication => "replication must be positive"
  | .noPort name => "`" ++ name ++ "` is not of the form host:port"
  | .badPort name => "bad port in `" ++ name ++ "`"
  | .refused authority =>
    s!"call to {authority} failed on connection exception: connection refused"
  | .noFrame => "no local frame to pop"
  | .deadReference reference => s!"{reference.text} is not a live reference"
  | .notLocal reference => s!"{reference.text} is not a local reference"
  | .deadLocal reference => s!"{reference.text} is not a live local reference"
  | .alreadyGlobal reference => s!"{reference.text} is already global"
  | .deadGlobal reference => s!"{reference.text} is not a live global reference"
  | .localsFull => "local reference table is full"
  | .globalsFull => "global reference table is full"
  | .wrongClass expected found => s!"{found} cannot be cast to {expected}"
  | .system error none => error.message
  | .system error (some path) => s!"{path.display}: {error.message}"
  | .raised _ words => words

/-- Class and message together. -/
def text (exception : Exception) : String := s!"{exception.kind.name}: {exception.message}"

/-- A system error on a path. -/
def onPath (path : Path) (error : SystemError) : Exception := .system error (some path)

end Exception

end FileGateway
