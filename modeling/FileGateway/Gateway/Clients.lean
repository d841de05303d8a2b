import FileGateway.Gateway

/-! # Calls on filesystems

Connecting, disconnecting and everything that works on paths of one filesystem or two. Calls without
a value of their own give zero.
-/

namespace FileGateway.Gateway

/-- Runs the inside of a call and hands its exception over as a value. -/
def attempt {α : Type} (inside : CallAction α) : CallAction (Except Exception α) := do
  try
    return .ok (← inside)
  catch failure =>
    match failure with
    | .failed (.raised exception) => return .error exception
    | _ => throw failure

/-- Answers, or fails with an exception. -/
def answerOf {α : Type} : Except Exception α → CallAction α
  | .ok value => pure value
  | .error exception => throw (.failed (.raised exception))

/-! ## Connections -/

/-- The host name that means the configured filesystem. -/
def defaultHost : String := "default"

/-- The target that a host and a port mean; no host means the local disk. -/
def target (host : Option Bytes) (port : UInt16) : CallAction Target :=
  match host with
  | none => pure .local
  | some bytes =>
    match Utf8.decode? (cutText bytes) with
    | none => refuse (.notText "host")
    | some host =>
      if host ≠ defaultHost then pure (.remote host port)
      else if port = 0 then pure .default
      else refuse (.portOfDefault port)

/-- Connects, and gives the word of a global reference; null on failure. -/
def connect (thread : Nat) (host : Option Bytes) (port : UInt16) : EntryCall UInt64 :=
  call thread .connect 0 do
    let client ← onEngine (Engine.getFileSystem thread (← target host port))
    return (← onEngine (Engine.promote thread client)).raw

/-- Closes the client and gives up its reference. -/
def disconnect (thread : Nat) (fileSystem : UInt64) : EntryCall Int32 :=
  call thread .disconnect (-1) do
    let reference ← fileSystemArgument fileSystem
    let client ← onEngine (Engine.fileSystem thread reference)
    let closed ← attempt (onStorage (Storage.closeClient client))
    onEngine (Engine.deleteGlobal reference)
    answerOf closed
    return 0

/-! ## Two filesystems -/

/-- Copies a tree, or moves it. -/
def transfer (thread : Nat) (entry : EntryPoint) (deleteSource : Bool) (sourceSystem : UInt64)
    (source : Option Bytes) (targetSystem : UInt64) (target : Option Bytes) : EntryCall Int32 :=
  call thread entry (-1) do
    let sourceClient ← clientArgument thread sourceSystem
    let targetClient ← clientArgument thread targetSystem
    let source ← pathArgument "src" source
    let target ← pathArgument "dst" target
    let conf := (← get).engine.conf
    onStorage (Storage.copy sourceClient source targetClient target deleteSource conf)
    return 0

def copy (thread : Nat) (sourceSystem : UInt64) (source : Option Bytes) (targetSystem : UInt64)
    (target : Option Bytes) : EntryCall Int32 :=
  transfer thread .copy false sourceSystem source targetSystem target

def move (thread : Nat) (sourceSystem : UInt64) (source : Option Bytes) (targetSystem : UInt64)
    (target : Option Bytes) : EntryCall Int32 :=
  transfer thread .move true sourceSystem source targetSystem target

/-! ## One path -/

/-- A call on one path of one filesystem. -/
def onPath (thread : Nat) (entry : EntryPoint) (fileSystem : UInt64) (path : Option Bytes)
    (inside : Nat → Path → CallAction Unit) : EntryCall Int32 :=
  call thread entry (-1) do
    let client ← clientArgument thread fileSystem
    inside client (← pathArgument "path" path)
    return 0

def delete (thread : Nat) (fileSystem : UInt64) (path : Option Bytes) : EntryCall Int32 :=
  onPath thread .delete fileSystem path fun client path => onStorage (Storage.delete client path)

def rename (thread : Nat) (fileSystem : UInt64) (source target : Option Bytes) :
    EntryCall Int32 :=
  call thread .rename (-1) do
    let client ← clientArgument thread fileSystem
    let source ← pathArgument "oldPath" source
    let target ← pathArgument "newPath" target
    onStorage (Storage.rename client source target)
    return 0

/-- Fails if nothing is at the path. -/
def exist (thread : Nat) (fileSystem : UInt64) (path : Option Bytes) : EntryCall Int32 :=
  onPath thread .exist fileSystem path fun client path => do
    if ← onStorage (Storage.isPresent client path) then pure () else refuse (.notThere path)

def lock (thread : Nat) (fileSystem : UInt64) (path : Option Bytes) (shared : Int32) :
    EntryCall Int32 :=
  onPath thread .lock fileSystem path fun client path =>
    onStorage (Storage.lock client path (shared != 0))

def releaseLock (thread : Nat) (fileSystem : UInt64) (path : Option Bytes) : EntryCall Int32 :=
  onPath thread .releaseLock fileSystem path fun client path =>
    onStorage (Storage.release client path)

def setWorkingDirectory (thread : Nat) (fileSystem : UInt64) (path : Option Bytes) :
    EntryCall Int32 :=
  onPath thread .setWorkingDirectory fileSystem path fun client path =>
    onStorage (Storage.changeDirectory client path)

def createDirectory (thread : Nat) (fileSystem : UInt64) (path : Option Bytes) :
    EntryCall Int32 :=
  onPath thread .createDirectory fileSystem path fun client path =>
    onStorage (Storage.createDirectories client path)

def setReplication (thread : Nat) (fileSystem : UInt64) (path : Option Bytes)
    (replication : Int16) : EntryCall Int32 :=
  onPath thread .setReplication fileSystem path fun client path => do
    if replication.toInt ≤ 0 then refuse (.notPositive replication)
    onStorage (Storage.setReplication client path replication.toUInt16)

/-! ## One filesystem -/

/-- The working directory as a text with a NUL byte behind it, for a buffer of some size. Null if
there is no buffer or too small a one. -/
def getWorkingDirectory (thread : Nat) (fileSystem : UInt64) (buffered : Bool) (size : UInt64) :
    EntryCall (Option Bytes) :=
  call thread .getWorkingDirectory none do
    if !buffered then refuse (.nullArgument "buffer")
    let client ← clientArgument thread fileSystem
    let text := Utf8.encode (← onStorage (Storage.directory client)).display
    if size.toNat ≤ text.length then refuse (.smallBuffer (text.length + 1) size)
    return some (text ++ [0])

def getDefaultBlockSize (thread : Nat) (fileSystem : UInt64) : EntryCall Int64 :=
  call thread .getDefaultBlockSize (-1) do
    let client ← clientArgument thread fileSystem
    offsetResult (← onStorage (Storage.defaultBlockSize client)).toNat

def getCapacity (thread : Nat) (fileSystem : UInt64) : EntryCall Int64 :=
  call thread .getCapacity (-1) do
    let client ← clientArgument thread fileSystem
    offsetResult (← onStorage (Storage.capacity client))

def getUsed (thread : Nat) (fileSystem : UInt64) : EntryCall Int64 :=
  call thread .getUsed (-1) do
    let client ← clientArgument thread fileSystem
    offsetResult (← onStorage (Storage.used client))

end FileGateway.Gateway
