import FileGateway.Cluster

/-! # Cluster streams

A stream on a cluster knows the location of its file and looks it up at every call. A reader gets
at most one buffer from one block per call. A writer keeps its bytes until they fill its buffer.
-/

namespace FileGateway

structure ClusterReader where
  location : Location
  position : Nat
  bufferSize : UInt64
deriving DecidableEq, Repr

namespace ClusterReader

def «open» (cluster : Cluster) (location : Location) (bufferSize : UInt64) :
    Except Exception ClusterReader :=
  (cluster.requireFile location).map fun _ =>
    ⟨location, 0, cluster.conf.bufferSizeOr bufferSize⟩

/-- Up to `count` bytes at a position. -/
def readAt (reader : ClusterReader) (cluster : Cluster) (position count : Nat) :
    Except Exception Bytes :=
  (cluster.requireFile reader.location).map fun node => Block.readFrom node.blocks position count

/-- The most that one call reads: the buffer, but one byte at least. -/
def limit (reader : ClusterReader) : Nat := max reader.bufferSize.toNat 1

/-- Reads on from the current position. -/
def read (reader : ClusterReader) (cluster : Cluster) (count : Nat) :
    Except Exception Bytes × ClusterReader :=
  match reader.readAt cluster reader.position (min count reader.limit) with
  | .ok data => (.ok data, { reader with position := reader.position + data.length })
  | .error exception => (.error exception, reader)

/-- Something that is no file counts as missing when a stream asks for its size. -/
def requireNode (reader : ClusterReader) (cluster : Cluster) : Except Exception FileNode :=
  match cluster.tree.file? reader.location with
  | some node => .ok node
  | none => .error (.missing reader.location.toPath)

def seek (reader : ClusterReader) (cluster : Cluster) (position : Nat) :
    Except Exception Unit × ClusterReader :=
  match reader.requireNode cluster with
  | .error exception => (.error exception, reader)
  | .ok node =>
    if node.size < position then
      (.error (.seekPastEnd reader.location.toPath position), reader)
    else (.ok (), { reader with position })

/-- The bytes left in the current block. -/
def available (reader : ClusterReader) (cluster : Cluster) : Except Exception Nat :=
  (reader.requireNode cluster).map fun node => Block.remaining node.blocks reader.position

end ClusterReader

structure ClusterWriter where
  location : Location
  pending : Bytes
  bufferSize : UInt64
  position : Nat
  closed : Bool
deriving DecidableEq, Repr

namespace ClusterWriter

/-- Creates a file and opens it for writing. -/
def create (cluster : Cluster) (now : Int) (location : Location) (options : CreateOptions) :
    Except Exception ClusterWriter × Cluster :=
  match cluster.startFile now location options with
  | (.ok (), after) =>
    (.ok ⟨location, [], cluster.conf.bufferSizeOr options.bufferSize, 0, false⟩, after)
  | (.error exception, after) => (.error exception, after)

/-- Hands the pending bytes to the cluster. They stay pending if that fails. -/
def flush (writer : ClusterWriter) (cluster : Cluster) (now : Int) :
    Except Exception Unit × ClusterWriter × Cluster :=
  if writer.closed then (.error (.closed writer.location.toPath), writer, cluster)
  else if writer.pending.isEmpty then (.ok (), writer, cluster)
  else
    match cluster.append now writer.location writer.pending with
    | (.ok (), after) => (.ok (), { writer with pending := [] }, after)
    | (.error exception, after) => (.error exception, writer, after)

/-- Accepts data, and flushes when the buffer is full. Data whose flush fails is not kept. -/
def write (writer : ClusterWriter) (cluster : Cluster) (now : Int) (data : Bytes) :
    Except Exception Nat × ClusterWriter × Cluster :=
  if writer.closed then (.error (.closed writer.location.toPath), writer, cluster)
  else
    let filled := { writer with pending := writer.pending ++ data }
    if filled.pending.length < writer.bufferSize.toNat then
      (.ok data.length, { filled with position := writer.position + data.length }, cluster)
    else
      match filled.flush cluster now with
      | (.ok (), flushed, after) =>
        (.ok data.length, { flushed with position := writer.position + data.length }, after)
      | (.error exception, failed, after) =>
        (.error exception,
          { failed with pending := failed.pending.take writer.pending.length }, after)

/-- Flushes and ends the construction of the file, also when the flush fails. Closing again does
nothing. -/
def close (writer : ClusterWriter) (cluster : Cluster) (now : Int) :
    Except Exception Unit × ClusterWriter × Cluster :=
  if writer.closed then (.ok (), writer, cluster)
  else
    let (outcome, flushed, after) := writer.flush cluster now
    (outcome, { flushed with closed := true }, after.complete flushed.location)

end ClusterWriter

end FileGateway
