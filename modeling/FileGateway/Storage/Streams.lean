import FileGateway.Storage

/-! # What streams do

A stream is asked by its number. Readers do not write and writers do not read. What a call changes
in the stream stays changed when it fails.
-/

namespace FileGateway

/-- What a read gives: a number of bytes and the bytes. They differ only if the number comes from a
script. -/
structure ReadResult where
  count : Nat
  data : Bytes
deriving DecidableEq, Repr

namespace ReadResult

def ofData (data : Bytes) : ReadResult := ⟨data.length, data⟩

/-- The number alone, with no bytes to it. -/
def ofAnswer? (answer : Answer) : Option ReadResult :=
  answer.number?.map fun count => ⟨count, []⟩

end ReadResult

namespace Storage

/-! ## Readers -/

/-- Reads on, at most `count` bytes. -/
def read (stream count : Nat) : Action ReadResult := do
  let found ← streamAt stream
  scripted found.script .read ReadResult.ofAnswer? do
    match found.channel with
    | .clusterReader number reader =>
      let (outcome, reader) := reader.read (← clusterAt number) count
      setChannel stream (.clusterReader number reader)
      return .ofData (← answerOf outcome)
    | .diskReader reader =>
      let (outcome, reader) := reader.read (← get).disk count
      setChannel stream (.diskReader reader)
      return .ofData (← answerOf outcome)
    | _ => throw .unknown

/-- Reads at a position and stays where it is. -/
def readAt (stream position count : Nat) : Action ReadResult := do
  let found ← streamAt stream
  scripted found.script .readAt ReadResult.ofAnswer? do
    match found.channel with
    | .clusterReader number reader =>
      return .ofData (← askCluster number (reader.readAt · position count))
    | .diskReader reader =>
      let (outcome, reader) := reader.readAt (← get).disk position count
      setChannel stream (.diskReader reader)
      return .ofData (← answerOf outcome)
    | _ => throw .unknown

def seek (stream position : Nat) : Action Unit := do
  let found ← streamAt stream
  scripted found.script .seek noAnswer do
    match found.channel with
    | .clusterReader number reader =>
      let (outcome, reader) := reader.seek (← clusterAt number) position
      setChannel stream (.clusterReader number reader)
      answerOf outcome
    | .diskReader reader =>
      let (outcome, reader) := reader.seek (← get).disk position
      setChannel stream (.diskReader reader)
      answerOf outcome
    | _ => throw .unknown

/-- The position of a stream; only that of a reader can be scripted. -/
def position (stream : Nat) : Action Nat := do
  let found ← streamAt stream
  match found.channel with
  | .clusterReader _ reader =>
    scripted found.script .position Answer.number? (pure reader.position)
  | .diskReader reader => scripted found.script .position Answer.number? (pure reader.position)
  | .clusterWriter _ writer => return writer.position
  | .diskWriter writer => return writer.position

/-- The bytes that can be read without waiting. -/
def available (stream : Nat) : Action Nat := do
  let found ← streamAt stream
  scripted found.script .available Answer.number? do
    match found.channel with
    | .clusterReader number reader => askCluster number reader.available
    | .diskReader reader => return reader.available (← get).disk
    | _ => throw .unknown

/-! ## Writers -/

/-- Writes and says how much was accepted. -/
def write (stream : Nat) (data : Bytes) : Action Nat := do
  let found ← streamAt stream
  scripted found.script .write Answer.number? do
    let storage ← get
    match found.channel with
    | .clusterWriter number writer =>
      let (outcome, writer, cluster) :=
        writer.write (← clusterAt number) storage.seconds data
      setCluster number cluster
      setChannel stream (.clusterWriter number writer)
      answerOf outcome
    | .diskWriter writer =>
      let (outcome, writer, disk) := writer.write storage.disk storage.now data
      setDisk disk
      setChannel stream (.diskWriter writer)
      answerOf outcome
    | _ => throw .unknown

/-- Hands over what the stream holds back. -/
def flush (stream : Nat) : Action Unit := do
  let found ← streamAt stream
  scripted found.script .flush noAnswer do
    let storage ← get
    match found.channel with
    | .clusterWriter number writer =>
      let (outcome, writer, cluster) := writer.flush (← clusterAt number) storage.seconds
      setCluster number cluster
      setChannel stream (.clusterWriter number writer)
      answerOf outcome
    | .diskWriter writer =>
      let (outcome, writer, disk) := writer.flush storage.disk storage.now
      setDisk disk
      setChannel stream (.diskWriter writer)
      answerOf outcome
    | _ => throw .unknown

/-! ## The end of a stream -/

/-- Forgets a stream. A local writer still hands over what it holds back, and a failure of that goes
unnoticed; a writer on a cluster loses it, and its file stays under construction. -/
def dropStream (stream : Nat) : Action Unit := do
  match (← streamAt stream).channel with
  | .diskWriter writer =>
    let storage ← get
    let (writer, disk) := writer.drop storage.disk storage.now
    setDisk disk
    setChannel stream (.diskWriter writer)
  | _ => pure ()

/-- Closes a stream. A reader can still be used afterwards. -/
def closeStream (stream : Nat) : Action Unit := do
  let found ← streamAt stream
  match found.channel with
  | .clusterReader _ _ | .diskReader _ => scripted found.script .closeReader noAnswer (pure ())
  | .clusterWriter number writer =>
    scripted found.script .closeWriter noAnswer do
      let (outcome, writer, cluster) := writer.close (← clusterAt number) (← get).seconds
      setCluster number cluster
      setChannel stream (.clusterWriter number writer)
      answerOf outcome
  | .diskWriter writer =>
    scripted found.script .closeWriter noAnswer do
      let storage ← get
      let (outcome, writer, disk) := writer.close storage.disk storage.now
      setDisk disk
      setChannel stream (.diskWriter writer)
      answerOf outcome

end Storage

end FileGateway
