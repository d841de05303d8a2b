import FileGateway.Disk
import FileGateway.Exception

/-! # Buffered streams on a disk

A stream holds the number of its file, so it goes on when the name is gone. A reader keeps what it
read ahead; its cursor in the file is as far ahead of its position as that is long. A writer keeps
data back; its position is as far ahead of its cursor as that is long, unless a write failed half way.
A stream that the system refuses a transfer raises the error on its path.
-/

namespace FileGateway

/-- The system has numbers for the places of a file below this. -/
def positionLimit : Nat := 0x8000000000000000

structure DiskReader where
  file : Nat
  path : Path
  position : Nat
  /-- Where the next bytes of the file are read from. -/
  cursor : Nat
  /-- What was read ahead. -/
  ahead : Bytes
  capacity : Nat
  /-- What becomes of the next transfers. -/
  transfers : List Transfer
deriving DecidableEq, Repr

namespace DiskReader

def ofFile (file : Nat) (path : Path) (capacity : Nat) : DiskReader :=
  ⟨file, path, 0, 0, [], capacity, []⟩

/-- Reads from a place of the file in one transfer, which does not begin if the place behind what is
asked for has no number. -/
def fetch (reader : DiskReader) (disk : Disk) (place count : Nat) :
    Except SystemError Bytes × DiskReader :=
  if positionLimit ≤ place + count then (.error .invalidArgument, reader)
  else
    let (moved, transfers) := Transfer.next reader.transfers
    (moved.map fun most => disk.readAt reader.file place (min count most), { reader with transfers })

/-- Fills an empty buffer with one read. -/
def refill (reader : DiskReader) (disk : Disk) : Except SystemError Unit × DiskReader :=
  if reader.ahead.isEmpty then
    match reader.fetch disk reader.cursor reader.capacity with
    | (.error error, later) => (.error error, later)
    | (.ok data, later) =>
      (.ok (), { later with ahead := data, cursor := reader.cursor + data.length })
  else (.ok (), reader)

/-- Reads on. A large request with nothing read ahead bypasses the buffer; any other gets no more
than the buffer holds. -/
def read (reader : DiskReader) (disk : Disk) (count : Nat) : Except Exception Bytes × DiskReader :=
  if reader.ahead.isEmpty ∧ reader.capacity ≤ count then
    match reader.fetch disk reader.cursor count with
    | (.error error, later) => (.error (.onPath reader.path error), later)
    | (.ok data, later) =>
      (.ok data,
        { later with
          cursor := reader.cursor + data.length
          position := reader.position + data.length })
  else
    match reader.refill disk with
    | (.error error, later) => (.error (.onPath reader.path error), later)
    | (.ok (), filled) =>
      let data := filled.ahead.take count
      (.ok data,
        { filled with
          ahead := filled.ahead.drop count
          position := filled.position + data.length })

/-- Reads at a position of the file, past the buffer. -/
def readAt (reader : DiskReader) (disk : Disk) (position count : Nat) :
    Except Exception Bytes × DiskReader :=
  let (fetched, later) := reader.fetch disk position count
  (fetched.mapError (.onPath reader.path), later)

def size (reader : DiskReader) (disk : Disk) : Nat := (disk.fileData reader.file).length

/-- Moves to a position up to the end of the file and forgets what was read ahead. -/
def seek (reader : DiskReader) (disk : Disk) (position : Nat) :
    Except Exception Unit × DiskReader :=
  if reader.size disk < position then (.error (.seekPastEnd reader.path position), reader)
  else (.ok (), { reader with position, cursor := position, ahead := [] })

/-- The bytes between the position and the end of the file. -/
def available (reader : DiskReader) (disk : Disk) : Nat := reader.size disk - reader.position

end DiskReader

structure DiskWriter where
  file : Nat
  path : Path
  position : Nat
  /-- Where the next bytes go in the file. -/
  cursor : Nat
  /-- What was accepted but is not in the file. -/
  pending : Bytes
  capacity : Nat
  closed : Bool
  /-- What becomes of the next transfers. -/
  transfers : List Transfer
deriving DecidableEq, Repr

namespace DiskWriter

def ofFile (file : Nat) (path : Path) (capacity : Nat) : DiskWriter :=
  ⟨file, path, 0, 0, [], capacity, false, []⟩

/-- Puts data into the file as far as the system takes it, and gives what is left. -/
def pour (writer : DiskWriter) (disk : Disk) (now : Int) (data : Bytes) :
    Except SystemError Unit × Bytes × DiskWriter × Disk :=
  let ⟨arrived, outcome, transfers⟩ := Transfer.deliver writer.transfers data.length
  (outcome, data.drop arrived, { writer with cursor := writer.cursor + arrived, transfers },
    disk.writeAt now writer.file writer.cursor (data.take arrived))

/-- Puts what is pending into the file. What the system does not take stays pending. -/
def drain (writer : DiskWriter) (disk : Disk) (now : Int) :
    Except SystemError Unit × DiskWriter × Disk :=
  let (outcome, left, poured, disk) := writer.pour disk now writer.pending
  (outcome, { poured with pending := left }, disk)

/-- Accepts data. What does not fit behind the pending bytes drains them first, and what does not
fit into the whole buffer goes straight to the file. What the system does not take of that is lost. -/
def accept (writer : DiskWriter) (disk : Disk) (now : Int) (data : Bytes) :
    Except SystemError Unit × DiskWriter × Disk :=
  let spare := writer.capacity - writer.pending.length
  if data.length < spare then (.ok (), { writer with pending := writer.pending ++ data }, disk)
  else
    match if spare < data.length then writer.drain disk now else (.ok (), writer, disk) with
    | (.error error, drained, disk) => (.error error, drained, disk)
    | (.ok (), drained, disk) =>
      if writer.capacity ≤ data.length then
        let (outcome, _, poured, disk) := drained.pour disk now data
        (outcome, poured, disk)
      else (.ok (), { drained with pending := drained.pending ++ data }, disk)

/-- Writes all of the data or fails. A write that fails may have put a part of it into the file, but
does not move the position. -/
def write (writer : DiskWriter) (disk : Disk) (now : Int) (data : Bytes) :
    Except Exception Nat × DiskWriter × Disk :=
  if writer.closed then (.error (.closed writer.path), writer, disk)
  else
    match writer.accept disk now data with
    | (.error error, later, disk) => (.error (.onPath writer.path error), later, disk)
    | (.ok (), accepted, disk) =>
      (.ok data.length, { accepted with position := writer.position + data.length }, disk)

def flush (writer : DiskWriter) (disk : Disk) (now : Int) :
    Except Exception Unit × DiskWriter × Disk :=
  if writer.closed then (.error (.closed writer.path), writer, disk)
  else
    let (outcome, drained, disk) := writer.drain disk now
    (outcome.mapError (.onPath writer.path), drained, disk)

/-- Ends the stream. What is pending goes to the file if the system takes it, and is lost otherwise. -/
def drop (writer : DiskWriter) (disk : Disk) (now : Int) : DiskWriter × Disk :=
  if writer.closed then (writer, disk)
  else
    let (_, drained, disk) := writer.drain disk now
    ({ drained with pending := [], closed := true }, disk)

/-- Flushes and then drops the buffer, which tries once more to put into the file what the flush left.
Closing again does nothing. -/
def close (writer : DiskWriter) (disk : Disk) (now : Int) :
    Except Exception Unit × DiskWriter × Disk :=
  if writer.closed then (.ok (), writer, disk)
  else
    let (outcome, flushed, disk) := writer.flush disk now
    let (ended, disk) := flushed.drop disk now
    (outcome, ended, disk)

end DiskWriter

end FileGateway
