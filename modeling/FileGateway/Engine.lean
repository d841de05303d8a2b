import FileGateway.Reference.Frames
import FileGateway.Storage.Copy
import FileGateway.Target

/-! # The engine

The engine keeps objects for native code, which holds references only: local ones in the frames of
each thread, global ones in a table for all threads. It knows which cluster answers at which address
and makes the clients. An object lives as long as a reference to it; a stream that loses its last
reference is dropped.
-/

namespace FileGateway

/-- What a reference can stand for. Clients and streams are named by their numbers. -/
inductive Object
  | fileSystem (client : Nat)
  | inputStream (stream : Nat)
  | outputStream (stream : Nat)
  | fileStatus (status : FileStatus)
  | fileStatuses (statuses : List FileStatus)
  | blockLocations (blocks : List BlockLocation)
deriving DecidableEq, Repr

namespace Object

def className : Object → String
  | .fileSystem _ => "FileSystem"
  | .inputStream _ => "InputStream"
  | .outputStream _ => "OutputStream"
  | .fileStatus _ => "FileStatus"
  | .fileStatuses _ => "FileStatus[]"
  | .blockLocations _ => "BlockLocation[]"

/-- The stream that an object stands for. -/
def stream? : Object → Option Nat
  | .inputStream stream | .outputStream stream => some stream
  | _ => none

end Object

/-- What answers at an address: a cluster, whose clients may be scripted. -/
structure Factory where
  cluster : Nat
  script : Script
deriving DecidableEq, Repr

structure Engine where
  storage : Storage
  conf : Configuration
  /-- By address. -/
  factories : SortedMap String Factory
  globals : ReferenceTable Object
  /-- The local references by thread. A thread without an entry has none. -/
  locals : SortedMap Nat (Frames Object)
deriving DecidableEq, Repr

abbrev EngineAction := EStateM Failure Engine

namespace Engine

/-- An engine that knows no address and holds no object. -/
def new (storage : Storage) (conf : Configuration) : Engine :=
  ⟨storage, conf, .empty, .empty .globals, .empty⟩

def framesOf (engine : Engine) (thread : Nat) : Frames Object :=
  (engine.locals.get? thread).getD .empty

def setFrames (engine : Engine) (thread : Nat) (frames : Frames Object) : Engine :=
  { engine with locals := engine.locals.insert thread frames }

def liveLocals (engine : Engine) (thread : Nat) : Nat := (engine.framesOf thread).table.live

def liveGlobals (engine : Engine) : Nat := engine.globals.live

/-- Whether some reference stands for a stream. -/
def holds (engine : Engine) (stream : Nat) : Bool :=
  (engine.globals.objects ++ engine.locals.values.flatMap (·.table.objects)).any
    (·.stream? == some stream)

/-- The object that a reference stands for on a thread. -/
def object? (engine : Engine) (thread : Nat) (reference : Reference) : Option Object :=
  match reference.scope with
  | .locals => (engine.framesOf thread).table.get? reference
  | .globals => engine.globals.get? reference

/-! ## Actions -/

def raise {α : Type} (exception : Exception) : EngineAction α := throw (.raised exception)

/-- Answers, or raises. -/
def answerOf {α : Type} : Except Exception α → EngineAction α
  | .ok value => pure value
  | .error exception => raise exception

/-- Runs an action on the storage. -/
def onStorage {α : Type} (action : Action α) : EngineAction α := fun engine =>
  match action engine.storage with
  | .ok value storage => .ok value { engine with storage }
  | .error failure storage => .error failure { engine with storage }

/-- Drops the stream of an object that has no reference left. -/
def letGo (object : Object) : EngineAction Unit := do
  match object.stream? with
  | some stream => if (← get).holds stream then pure () else onStorage (Storage.dropStream stream)
  | none => pure ()

/-! ## References -/

def newLocal (thread : Nat) (object : Object) : EngineAction Reference := do
  let (outcome, frames) := ((← get).framesOf thread).insert object
  modify (·.setFrames thread frames)
  answerOf outcome

def resolve (thread : Nat) (reference : Reference) : EngineAction Object := do
  match (← get).object? thread reference with
  | some object => return object
  | none => raise (.deadReference reference)

def deleteLocal (thread : Nat) (reference : Reference) : EngineAction Unit := do
  if reference.isGlobal then raise (.notLocal reference)
  match ((← get).framesOf thread).remove reference with
  | (none, _) => raise (.deadLocal reference)
  | (some object, frames) =>
    modify (·.setFrames thread frames)
    letGo object

/-- A further reference to an object, good on every thread. -/
def newGlobal (thread : Nat) (reference : Reference) : EngineAction Reference := do
  let object ← resolve thread reference
  match (← get).globals.insert object with
  | none => raise .globalsFull
  | some (global, globals) =>
    modify fun engine => { engine with globals }
    return global

/-- Turns a local reference into a global one. -/
def promote (thread : Nat) (reference : Reference) : EngineAction Reference := do
  if reference.isGlobal then raise (.alreadyGlobal reference)
  let global ← newGlobal thread reference
  deleteLocal thread reference
  return global

def deleteGlobal (reference : Reference) : EngineAction Unit := do
  if !reference.isGlobal then raise (.deadGlobal reference)
  match (← get).globals.remove reference with
  | (none, _) => raise (.deadGlobal reference)
  | (some object, globals) =>
    modify fun engine => { engine with globals }
    letGo object

/-! ## Frames -/

def pushFrame (thread : Nat) : EngineAction Unit :=
  modify fun engine => engine.setFrames thread (engine.framesOf thread).push

/-- Pops the top frame. A reference to keep is replaced by a new one in the frame below. -/
def popFrame (thread : Nat) (kept : Option Reference) : EngineAction (Option Reference) := do
  let object ← kept.mapM (resolve thread)
  let (outcome, frames) := ((← get).framesOf thread).pop object
  modify (·.setFrames thread frames)
  let (reference, released) ← answerOf outcome
  released.forM letGo
  return reference

/-- Runs an action in a frame of its own, which is popped in the end whatever happens. -/
def withFrame {α : Type} (thread : Nat) (action : EngineAction α) : EngineAction α :=
  between (pushFrame thread) (discard (popFrame thread none)) action

/-- Ends a thread: its local references go, in the order of their slots. -/
def endThread (thread : Nat) : EngineAction Unit := do
  let objects := ((← get).framesOf thread).table.objects
  modify fun engine => { engine with locals := engine.locals.erase thread }
  objects.forM letGo

/-! ## Objects of a class -/

/-- The part of an object that a class has, or an exception for any other class. -/
def cast {α : Type} (expected : String) (read : Object → Option α) (thread : Nat)
    (reference : Reference) : EngineAction α := do
  let object ← resolve thread reference
  match read object with
  | some value => return value
  | none => raise (.wrongClass expected object.className)

def fileSystem : Nat → Reference → EngineAction Nat :=
  cast "FileSystem" fun | .fileSystem client => some client | _ => none

def inputStream : Nat → Reference → EngineAction Nat :=
  cast "InputStream" fun | .inputStream stream => some stream | _ => none

def outputStream : Nat → Reference → EngineAction Nat :=
  cast "OutputStream" fun | .outputStream stream => some stream | _ => none

def fileStatus : Nat → Reference → EngineAction FileStatus :=
  cast "FileStatus" fun | .fileStatus status => some status | _ => none

def fileStatuses : Nat → Reference → EngineAction (List FileStatus) :=
  cast "FileStatus[]" fun | .fileStatuses statuses => some statuses | _ => none

def blockLocationArray : Nat → Reference → EngineAction (List BlockLocation) :=
  cast "BlockLocation[]" fun | .blockLocations blocks => some blocks | _ => none

end Engine

end FileGateway
