import FileGateway.Gateway.Clients

/-! # Calls on open files

A file is opened for reading or for writing and stays so until it is closed. Native code knows it by
its address; only the addresses of open files are good. A call checks the address, then the
direction, then the filesystem, and reaches the stream only if all three are right.
-/

namespace FileGateway.Gateway

/-- The flag that asks for reading. -/
def readFlag : Int32 := 1

/-- The flag that asks for writing. -/
def writeFlag : Int32 := 2

/-- The direction that flags ask for. -/
def directionOf? (flags : Int32) : Option Direction :=
  match flags &&& readFlag != 0, flags &&& writeFlag != 0 with
  | true, false => some .reading
  | false, true => some .writing
  | _, _ => none

/-- How many files are open. -/
def liveFiles (gateway : Gateway) : Nat := gateway.files.keys.length

/-- The open file at an address. -/
def lookup (address : UInt64) : CallAction OpenFile := do
  if address = 0 then refuse .nullFile
  match (← get).files.get? address with
  | some file => return file
  | none => refuse .deadFile

/-- The stream of a file that is open in a direction. -/
def streamArgument (thread : Nat) (entry : EntryPoint) (fileSystem address : UInt64)
    (expected : Direction) : CallAction Reference := do
  let file ← lookup address
  match Reference.ofRaw? file.stream with
  | none => refuse .noStream
  | some stream =>
    if file.direction ≠ expected then refuse (.wrongDirection entry expected file.direction)
    let _ ← clientArgument thread fileSystem
    return stream

/-- Opens a file. The address is the one that the allocator gives out for it; null on failure. -/
def openFile (thread : Nat) (address : UInt64) (fileSystem : UInt64) (path : Option Bytes)
    (flags : Int32) (bufferSize : Int32) (replication : Int16) (blockSize : Int32) :
    EntryCall UInt64 :=
  call thread .openFile 0 do
    let fileSystem ← fileSystemArgument fileSystem
    let path ← pathArgument "path" path
    let bufferSize ← sizeArgument "bufferSize" bufferSize.toInt
    let replication ← sizeArgument "replication" replication.toInt
    let blockSize ← sizeArgument "blocksize" blockSize.toInt
    match directionOf? flags with
    | some .reading =>
      register .reading
        (← onEngine (Engine.openReader thread fileSystem path (.ofNat bufferSize)))
    | some .writing =>
      let options : CreateOptions :=
        ⟨true, .ofNat bufferSize, .ofNat replication, .ofNat blockSize⟩
      register .writing (← onEngine (Engine.createWriter thread fileSystem path options))
    | _ => refuse (.badFlags flags)
where
  /-- Makes the stream global and the file known. -/
  register (direction : Direction) (stream : Reference) : CallAction UInt64 := do
    let global ← onEngine (Engine.promote thread stream)
    modify fun gateway =>
      { gateway with files := gateway.files.insert address ⟨global.raw, direction⟩ }
    return address

/-- Ends a stream by its direction. A writer is flushed and closed; the first failure counts. -/
def closeBy (thread : Nat) (stream : Reference) : Direction → CallAction Unit
  | .nothing => pure ()
  | .reading => do
    let number ← onEngine (Engine.inputStream thread stream)
    onStorage (Storage.closeStream number)
  | .writing => do
    let number ← onEngine (Engine.outputStream thread stream)
    let flushed ← attempt (onStorage (Storage.flush number))
    let closed ← attempt (onStorage (Storage.closeStream number))
    answerOf flushed
    answerOf closed

/-- Closes a file, whatever the filesystem. Its address is no good afterwards, even on failure. -/
def closeFile (thread : Nat) (address : UInt64) : EntryCall Int32 :=
  call thread .closeFile (-1) do
    let file ← lookup address
    modify fun gateway => { gateway with files := gateway.files.erase address }
    match Reference.ofRaw? file.stream with
    | none => refuse .noStream
    | some stream =>
      let closed ← attempt (closeBy thread stream file.direction)
      let released ← attempt (onEngine (Engine.deleteGlobal stream))
      answerOf closed
      answerOf released
      return 0

/-! ## Readers -/

/-- The bytes of a zeroed buffer after a read into it, up to the count that was given. -/
def bufferAfter (length : Nat) (result : Int32 × Bytes) : Bytes :=
  (result.2 ++ List.replicate length 0).take (min length result.1.toInt.toNat)

/-- Reads into a buffer. Zero bytes need none. -/
def readWith (thread : Nat) (buffered : Bool) (length : Nat) (stream : Reference)
    (action : Nat → Action ReadResult) : CallAction (Int32 × Bytes) := do
  if length = 0 then return (0, [])
  if !buffered then refuse (.nullArgument "buffer")
  let number ← onEngine (Engine.inputStream thread stream)
  let result ← onStorage (action number)
  return (← sizeResult result.count, result.data)

/-- Reads on; gives the count and the bytes. -/
def read (thread : Nat) (fileSystem address : UInt64) (buffered : Bool) (length : Int32) :
    EntryCall (Int32 × Bytes) :=
  call thread .read (-1, []) do
    let stream ← streamArgument thread .read fileSystem address .reading
    let length ← sizeArgument "length" length.toInt
    readWith thread buffered length stream (Storage.read · length)

/-- Reads at a position and stays where it is. -/
def pread (thread : Nat) (fileSystem address : UInt64) (position : Int64) (buffered : Bool)
    (length : Int32) : EntryCall (Int32 × Bytes) :=
  call thread .pread (-1, []) do
    let stream ← streamArgument thread .pread fileSystem address .reading
    let position ← sizeArgument "position" position.toInt
    let length ← sizeArgument "length" length.toInt
    readWith thread buffered length stream (Storage.readAt · position length)

def seek (thread : Nat) (fileSystem address : UInt64) (position : Int64) : EntryCall Int32 :=
  call thread .seek (-1) do
    let stream ← streamArgument thread .seek fileSystem address .reading
    let position ← sizeArgument "desiredPos" position.toInt
    let number ← onEngine (Engine.inputStream thread stream)
    onStorage (Storage.seek number position)
    return 0

def tell (thread : Nat) (fileSystem address : UInt64) : EntryCall Int64 :=
  call thread .tell (-1) do
    let stream ← streamArgument thread .tell fileSystem address .reading
    let number ← onEngine (Engine.inputStream thread stream)
    offsetResult (← onStorage (Storage.position number))

/-- The bytes that can be read without waiting, or the largest number if they are more. -/
def available (thread : Nat) (fileSystem address : UInt64) : EntryCall Int32 :=
  call thread .available (-1) do
    let stream ← streamArgument thread .available fileSystem address .reading
    let number ← onEngine (Engine.inputStream thread stream)
    return .ofNat (min (← onStorage (Storage.available number)) (sizeLimit - 1))

/-! ## Writers -/

/-- Writes the first bytes of a buffer; gives how many were accepted. Zero bytes need no buffer. -/
def write (thread : Nat) (fileSystem address : UInt64) (buffer : Option Bytes) (length : Int32) :
    EntryCall Int32 :=
  call thread .write (-1) do
    let stream ← streamArgument thread .write fileSystem address .writing
    let length ← sizeArgument "length" length.toInt
    if length = 0 then return 0
    match buffer with
    | none => refuse (.nullArgument "buffer")
    | some bytes =>
      let number ← onEngine (Engine.outputStream thread stream)
      sizeResult (← onStorage (Storage.write number (bytes.take length)))

def flush (thread : Nat) (fileSystem address : UInt64) : EntryCall Int32 :=
  call thread .flush (-1) do
    let stream ← streamArgument thread .flush fileSystem address .writing
    let number ← onEngine (Engine.outputStream thread stream)
    onStorage (Storage.flush number)
    return 0

end FileGateway.Gateway
