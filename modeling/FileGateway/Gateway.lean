import FileGateway.Engine.Connect
import FileGateway.Gateway.Error

/-! # The gateway

Native code calls the engine through entry points that take and give words: encoded references,
addresses of open files, numbers. Every call runs in a local frame of its own. A call that fails
gives a sentinel, null or minus one, and records its error for the calling thread; a call that
succeeds leaves the recorded errors alone.
-/

namespace FileGateway

/-- An open file as native code sees it: the word of a global reference to the stream. -/
structure OpenFile where
  stream : UInt64
  direction : Direction
deriving DecidableEq, Repr

/-- What a thread knows of its failures. -/
structure ThreadErrors where
  last : Option CallError
  /-- The system error number, as the last recorded error set it. -/
  number : Int32
deriving DecidableEq, Repr

namespace ThreadErrors

def none : ThreadErrors := ⟨.none, 0⟩

/-- A new error replaces the last one. -/
def record (error : CallError) : ThreadErrors := ⟨some error, error.kind.errorNumber⟩

end ThreadErrors

structure Gateway where
  engine : Engine
  /-- The open files by address. -/
  files : SortedMap UInt64 OpenFile
  /-- By thread. -/
  errors : SortedMap Nat ThreadErrors
  /-- Whether something listens to the log already. -/
  tracing : Bool
deriving DecidableEq, Repr

/-- Why the inside of a call fails: the gateway refuses, or the engine fails. -/
inductive CallFailure
  | refused (error : CallError)
  | failed (failure : Failure)
deriving DecidableEq, Repr

/-- The inside of a call. -/
abbrev CallAction := EStateM CallFailure Gateway

/-- A call as native code makes it. -/
abbrev EntryCall := StateM Gateway

namespace Gateway

/-- A gateway before the first call. -/
def new (engine : Engine) : Gateway := ⟨engine, .empty, .empty, false⟩

def errorsOf (gateway : Gateway) (thread : Nat) : ThreadErrors :=
  (gateway.errors.get? thread).getD .none

def record (gateway : Gateway) (thread : Nat) (error : CallError) : Gateway :=
  { gateway with errors := gateway.errors.insert thread (.record error) }

/-! ## The inside of a call -/

def refuse {α : Type} (error : CallError) : CallAction α := throw (.refused error)

/-- Runs an action on the engine. -/
def onEngine {α : Type} (action : EngineAction α) : CallAction α := fun gateway =>
  match action gateway.engine with
  | .ok value engine => .ok value { gateway with engine }
  | .error failure engine => .error (.failed failure) { gateway with engine }

/-- Runs an action on the storage. -/
def onStorage {α : Type} (action : Action α) : CallAction α := onEngine (Engine.onStorage action)

/-- The error that a failure is recorded as. -/
def errorOf (entry : EntryPoint) : CallFailure → CallError
  | .refused error => error
  | .failed failure => .ofFailure entry failure

/-- Makes a call: its inside runs in a local frame, and a failure gives the sentinel and is
recorded. -/
def call {α : Type} (thread : Nat) (entry : EntryPoint) (sentinel : α) (inside : CallAction α) :
    EntryCall α := fun gateway =>
  let framed := between (onEngine (Engine.pushFrame thread))
    (onEngine (discard (Engine.popFrame thread none))) inside
  match framed gateway with
  | .ok value gateway => (value, gateway)
  | .error failure gateway => (sentinel, gateway.record thread (errorOf entry failure))

/-! ## Arguments -/

/-- A text argument ends at its first NUL byte. -/
def cutText (bytes : Bytes) : Bytes := bytes.takeWhile (· != 0)

/-- A path argument, which is UTF-8. -/
def pathArgument (name : String) : Option Bytes → CallAction Path
  | none => refuse (.nullArgument name)
  | some bytes =>
    if Utf8.isValid (cutText bytes) then pure ⟨cutText bytes⟩ else refuse (.notText name)

/-- A size or count argument. -/
def sizeArgument (name : String) (value : Int) : CallAction Nat :=
  if value < 0 then refuse (.negative name) else pure value.toNat

/-- A filesystem argument: the word of a global reference. -/
def fileSystemArgument (word : UInt64) : CallAction Reference :=
  match Reference.ofRaw? word with
  | none => refuse .nullFileSystem
  | some reference => if reference.isGlobal then pure reference else refuse .localFileSystem

/-- The client behind a filesystem argument. -/
def clientArgument (thread : Nat) (word : UInt64) : CallAction Nat := do
  onEngine (Engine.fileSystem thread (← fileSystemArgument word))

def referenceArgument (word : UInt64) : CallAction Reference :=
  match Reference.ofRaw? word with
  | none => refuse .nullReference
  | some reference => pure reference

/-! ## Results -/

/-- What 32 bits with a sign hold is below this. -/
def sizeLimit : Nat := 0x80000000

/-- What 64 bits with a sign hold is below this. -/
def offsetLimit : Nat := 0x8000000000000000

/-- A number that has to fit 32 bits with a sign. -/
def sizeResult (value : Nat) : CallAction Int32 :=
  if value < sizeLimit then pure (.ofNat value) else refuse (.overflow value "tSize")

/-- A number that has to fit 64 bits with a sign. -/
def offsetResult (value : Nat) : CallAction Int64 :=
  if value < offsetLimit then pure (.ofNat value) else refuse (.overflow value "tOffset")

/-! ## The last error of a thread -/

/-- The code of the last error, zero if there is none. -/
def lastErrorCode (thread : Nat) : EntryCall Int32 := do
  match ((← get).errorsOf thread).last with
  | some error => return error.kind.code
  | none => return 0

/-- Bytes and the NUL byte behind them, counted in 32 bits. -/
def terminatedLength (bytes : Bytes) : Int32 := .ofNat (min (bytes.length + 1) (sizeLimit - 1))

/-- The bytes that the message of the last error takes, its NUL byte included. -/
def lastErrorLength (thread : Nat) : EntryCall Int32 := do
  match ((← get).errorsOf thread).last with
  | some error => return terminatedLength (Utf8.encode error.message)
  | none => return 0

/-- The message of the last error for a buffer, and the count of its bytes. Nothing is written if
there is no error, no buffer, or too small a one. -/
def lastErrorMessage (thread : Nat) (buffered : Bool) (length : Int32) :
    EntryCall (Int32 × Option Bytes) := do
  if !buffered then return (-1, none)
  match ((← get).errorsOf thread).last with
  | none => return (0, none)
  | some error =>
    let bytes := Utf8.encode error.message
    if length.toInt ≤ bytes.length then return (-1, none)
    return (terminatedLength bytes, some (bytes ++ [0]))

/-- Forgets the last error and gives it. -/
def takeLastError (thread : Nat) : EntryCall (Option CallError) :=
  modifyGet fun gateway =>
    let errors := gateway.errorsOf thread
    (errors.last,
      { gateway with errors := gateway.errors.insert thread { errors with last := none } })

/-- Records an error that arose outside of a call. -/
def updateLastError (thread : Nat) (error : CallError) : EntryCall Unit :=
  modify (·.record thread error)

/-- Starts the log: zero at the first time, one if something listens already. -/
def setupTracing : EntryCall Int32 :=
  modifyGet fun gateway => (if gateway.tracing then 1 else 0, { gateway with tracing := true })

/-! ## References -/

/-- Turns a local reference of the thread into a global one; null on failure. -/
def convertToGlobalRef (thread : Nat) (word : UInt64) : EntryCall UInt64 :=
  call thread .convertToGlobalRef 0 do
    return (← onEngine (Engine.promote thread (← referenceArgument word))).raw

/-- Gives up a global reference. -/
def deleteGlobalRef (thread : Nat) (word : UInt64) : EntryCall Unit :=
  call thread .deleteGlobalRef () do
    onEngine (Engine.deleteGlobal (← referenceArgument word))

end Gateway

end FileGateway
