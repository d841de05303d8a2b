import FileGateway.Client.LocalDisk
import FileGateway.Client.Script
import FileGateway.Cluster.Stream

/-! # Storage

Everything that clients and streams share: the disk, the clusters, the locks, and the clients and
streams themselves, each known by the number it got when it was made. An action runs on the storage
and either answers or fails; what it changed before failing stays changed.
-/

namespace FileGateway

inductive Backend
  | cluster (number : Nat)
  /-- The local disk, with the configuration of the moment of connecting. -/
  | disk (conf : Configuration)
deriving DecidableEq, Repr

/-- A client works on its backend from a directory of its own. -/
structure Client where
  backend : Backend
  directory : Location
  script : Script
deriving DecidableEq, Repr

inductive Channel
  | clusterReader (cluster : Nat) (reader : ClusterReader)
  | clusterWriter (cluster : Nat) (writer : ClusterWriter)
  | diskReader (reader : DiskReader)
  | diskWriter (writer : DiskWriter)
deriving DecidableEq, Repr

structure Stream where
  channel : Channel
  script : Script
deriving DecidableEq, Repr

structure Storage where
  /-- The clock, in nanoseconds since the epoch. -/
  now : Int
  disk : Disk
  /-- The locks of all local clients together. -/
  diskLocks : LockTable Location
  clusters : List Cluster
  clients : List Client
  streams : List Stream
  /-- Whether arithmetic that leaves its type crashes the call; it wraps around otherwise. -/
  overflowChecks : Bool := true
deriving DecidableEq, Repr

inductive Failure
  | raised (exception : Exception)
  /-- The call stopped half way, with words if there are any. -/
  | crashed (words : Option String)
  /-- The call never comes to an end. -/
  | endless
  /-- The number names no client, cluster or stream of the kind asked for. -/
  | unknown
deriving DecidableEq, Repr

abbrev Action := EStateM Failure Storage

namespace Storage

/-- Storage with a disk and nothing else, where overflows are checked. -/
def new (now : Int) (disk : Disk) : Storage := ⟨now, disk, .empty, [], [], [], true⟩

/-- The clock in whole seconds. -/
def seconds (storage : Storage) : Int := LocalDisk.seconds storage.now

/-- Buffers are shorter than this, in bytes. -/
def bufferLimit : Nat := 0x8000000000000000

/-! ## Actions -/

def raise {α : Type} (exception : Exception) : Action α := throw (.raised exception)

/-- Answers, or raises. -/
def answerOf {α : Type} : Except Exception α → Action α
  | .ok value => pure value
  | .error exception => raise exception

def orUnknown {α : Type} : Option α → Action α
  | some value => pure value
  | none => throw .unknown

def clusterAt (number : Nat) : Action Cluster := do
  orUnknown (← get).clusters[number]?

def clientAt (number : Nat) : Action Client := do
  orUnknown (← get).clients[number]?

def streamAt (number : Nat) : Action Stream := do
  orUnknown (← get).streams[number]?

def setCluster (number : Nat) (cluster : Cluster) : Action Unit :=
  modify fun storage => { storage with clusters := storage.clusters.set number cluster }

def setClient (number : Nat) (client : Client) : Action Unit :=
  modify fun storage => { storage with clients := storage.clients.set number client }

def setChannel (number : Nat) (channel : Channel) : Action Unit :=
  modify fun storage =>
    { storage with streams := storage.streams.modify number ({ · with channel }) }

def setDisk (disk : Disk) : Action Unit := modify fun storage => { storage with disk }

def addCluster (cluster : Cluster) : Action Nat :=
  modifyGet fun storage =>
    (storage.clusters.length, { storage with clusters := storage.clusters ++ [cluster] })

def addClient (client : Client) : Action Nat :=
  modifyGet fun storage =>
    (storage.clients.length, { storage with clients := storage.clients ++ [client] })

def addStream (stream : Stream) : Action Nat :=
  modifyGet fun storage =>
    (storage.streams.length, { storage with streams := storage.streams ++ [stream] })

/-- Asks a cluster. -/
def askCluster {α : Type} (number : Nat) (question : Cluster → Except Exception α) :
    Action α := do
  answerOf (question (← clusterAt number))

/-- Changes a cluster, also when the change fails. -/
def onCluster {α : Type} (number : Nat) (change : Cluster → Except Exception α × Cluster) :
    Action α := do
  let (outcome, cluster) := change (← clusterAt number)
  setCluster number cluster
  answerOf outcome

def askDisk {α : Type} (question : Disk → Except Exception α) : Action α := do
  answerOf (question (← get).disk)

/-- Does what the script says instead of acting, if it names the call. -/
def scripted {α : Type} (script : Script) (call : Call) (read : Answer → Option α)
    (act : Action α) : Action α :=
  match script.reaction? call with
  | none => act
  | some (.raise exception) => raise exception
  | some (.crash words) => throw (.crashed words)
  | some (.answer answer) =>
    match read answer with
    | some value => pure value
    | none => act

/-- For calls that have no answer to be given. -/
def noAnswer {α : Type} : Answer → Option α := fun _ => none

/-! ## New clusters and clients -/

/-- Starts a cluster. -/
def startCluster (authority : String) (conf : Configuration) (datanodes : List String)
    (capacityEach : UInt64) : Action Nat := do
  addCluster (.new (← get).seconds authority conf datanodes capacityEach)

/-- A new client of a cluster, in the root directory. -/
def clusterClient (cluster : Nat) (script : Script) : Action Nat :=
  addClient ⟨.cluster cluster, .root, script⟩

/-- Connects to a cluster by an address, which has to be the cluster's own. -/
def connectCluster (cluster : Nat) (authority : String) (script : Script) : Action Nat :=
  scripted script .connect noAnswer do
    let found ← clusterAt cluster
    if found.authority ≠ authority then raise (.refused authority)
    clusterClient cluster script

/-- A new local client, in the working directory of the process. -/
def localClient (conf : Configuration) : Action Nat := do
  match (← get).disk.workingDirectory with
  | none => raise (.system .notFound none)
  | some directory => addClient ⟨.disk conf, directory, .none⟩

end Storage

end FileGateway
