import FileGateway.Exception
import FileGateway.FileStatus

/-! # Scripted clients

A script makes a client and its streams misbehave on purpose: a scripted call does not act but
raises an exception, crashes, or gives an answer written down beforehand. A call that the script
does not name acts as always.
-/

namespace FileGateway

/-- The calls that a script can name. -/
inductive Call
  | connect
  | changeDirectory
  | openFile
  | createFile
  | delete
  | rename
  | createDirectories
  | status
  | list
  | blockLocations
  | setReplication
  | capacity
  | used
  | defaultBlockSize
  | lock
  | release
  | close
  | read
  | readAt
  | seek
  | position
  | available
  | closeReader
  | write
  | flush
  | closeWriter
deriving DecidableEq, Repr

/-- An answer in place of the real one. -/
inductive Answer
  | status (status : FileStatus)
  | statuses (statuses : List FileStatus)
  | number (value : Nat)
deriving DecidableEq, Repr

namespace Answer

def status? : Answer → Option FileStatus
  | .status given => some given
  | _ => none

def statuses? : Answer → Option (List FileStatus)
  | .statuses given => some given
  | _ => none

def number? : Answer → Option Nat
  | .number given => some given
  | _ => none

end Answer

inductive Reaction
  | raise (exception : Exception)
  /-- Crashes, with words if there are any. -/
  | crash (words : Option String)
  | answer (answer : Answer)
deriving DecidableEq, Repr

abbrev Script := List (Call × Reaction)

namespace Script

/-- Nothing is scripted. -/
def none : Script := []

def reaction? (script : Script) (call : Call) : Option Reaction := script.lookup call

end Script

end FileGateway
