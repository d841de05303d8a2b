import FileGateway.Cluster.Placement
import FileGateway.FileStatus
import FileGateway.LockTable

/-! # Clusters

A cluster holds one namespace for all its clients, the locks on it, and the cursor of its block
placement. Operations take locations; resolving what a caller wrote is the clients' part. An
operation that may change the cluster returns it together with its outcome, also when it fails.
-/

namespace FileGateway

structure Cluster where
  /-- The address that the cluster answers at. -/
  authority : String
  conf : Configuration
  datanodes : List String
  /-- In bytes, for each datanode. -/
  capacityEach : UInt64
  tree : Namespace
  locks : LockTable Location
  cursor : UInt64
deriving DecidableEq, Repr

namespace Cluster

def defaultCapacity : UInt64 := 1099511627776

/-- A new cluster with nothing but the root directory. -/
def new (now : Int) (authority : String) (conf : Configuration) (datanodes : List String)
    (capacityEach : UInt64) : Cluster :=
  ⟨authority, conf, datanodes, capacityEach, .initial now, .empty, 0⟩

def uri (cluster : Cluster) : String := s!"hdfs://{cluster.authority}"

/-! ## Asking -/

def statusOf (location : Location) : Entry → FileStatus
  | .directory modified => .ofDirectory location.toPath modified
  | .file node => .ofFile location.toPath node.size node.modified node.replication node.blockSize

def status (cluster : Cluster) (location : Location) : Except Exception FileStatus :=
  match cluster.tree.get? location with
  | some entry => .ok (statusOf location entry)
  | none => .error (.missing location.toPath)

/-- The children of a directory in order, or a file alone. -/
def list (cluster : Cluster) (location : Location) : Except Exception (List FileStatus) :=
  match cluster.tree.get? location with
  | none => .error (.missing location.toPath)
  | some (.file node) => .ok [statusOf location (.file node)]
  | some (.directory _) =>
    .ok ((cluster.tree.children location).map fun entry => statusOf entry.1 entry.2)

/-- The file at a location; a directory is no file. -/
def requireFile (cluster : Cluster) (location : Location) : Except Exception FileNode :=
  match cluster.tree.get? location with
  | some (.file node) => .ok node
  | some (.directory _) => .error (.directory location.toPath)
  | none => .error (.missing location.toPath)

/-- The blocks that reach into `length` bytes from `start` on. A sum beyond 64 bits stops at the
largest number. -/
def blockLocations (cluster : Cluster) (location : Location) (start length : UInt64) :
    Except Exception (List BlockLocation) :=
  match cluster.tree.get? location with
  | none => .error (.missing location.toPath)
  | some (.directory _) => .ok []
  | some (.file node) =>
    if length = 0 then .ok []
    else
      let stop := min (start.toNat + length.toNat) (UInt64.size - 1)
      .ok ((Block.overlapping start.toNat stop 0 node.blocks).map fun (offset, block) =>
        ⟨offset, block.data.length, block.hosts⟩)

def defaultBlockSize (cluster : Cluster) : UInt64 := cluster.conf.blockSize

def defaultReplication (cluster : Cluster) : UInt16 := cluster.conf.replication

/-- What all datanodes could hold. -/
def total (cluster : Cluster) : Nat := cluster.capacityEach.toNat * cluster.datanodes.length

/-- The capacity of all datanodes, as a 64-bit product. That the product leaves its type is noticed
only if overflows are checked; otherwise it wraps around. -/
def capacity (cluster : Cluster) (overflowChecks : Bool) : Option UInt64 :=
  if overflowChecks ∧ UInt64.size ≤ cluster.total then none
  else some (cluster.capacityEach * UInt64.ofNat cluster.datanodes.length)

/-- The bytes held by all datanodes. -/
def used (cluster : Cluster) : Nat :=
  (cluster.tree.values.filterMap Entry.file?).foldr (fun file rest => file.replicaBytes + rest) 0

/-! ## Changing -/

/-- Makes a directory and everything missing above it. -/
def createDirectories (cluster : Cluster) (now : Int) (location : Location) :
    Except Exception Unit × Cluster :=
  let (outcome, tree) := cluster.tree.makeDirectories now location.ancestors
  (outcome, { cluster with tree })

/-- Removes a file, or a directory with everything below it. -/
def delete (cluster : Cluster) (location : Location) : Except Exception Unit × Cluster :=
  if location = .root then (.error .rootDeletion, cluster)
  else if cluster.tree.contains location then
    (.ok (), { cluster with tree := cluster.tree.prune location })
  else (.error (.missing location.toPath), cluster)

/-- Moves a file, or a directory with everything below it, to a free place in a directory. -/
def rename (cluster : Cluster) (source target : Location) : Except Exception Unit × Cluster :=
  if !cluster.tree.contains source then (.error (.missing source.toPath), cluster)
  else if cluster.tree.contains target then (.error (.taken target.toPath), cluster)
  else if target.isWithin source then (.error (.moveBelowItself source.toPath), cluster)
  else
    match target.parent?.bind cluster.tree.get? with
    | some (.directory _) =>
      (.ok (), { cluster with tree := cluster.tree.graft source target })
    | _ => (.error (.parentMissing target.toPath), cluster)

/-- Changes the number of replicas of a file. -/
def setReplication (cluster : Cluster) (location : Location) (replication : UInt16) :
    Except Exception Unit × Cluster :=
  if replication = 0 then (.error .zeroReplication, cluster)
  else
    match cluster.requireFile location with
    | .error exception => (.error exception, cluster)
    | .ok node =>
      let (blocks, cursor) :=
        Block.replicateAll cluster.datanodes replication node.blocks cluster.cursor
      let node := { node with blocks, replication }
      (.ok (), { cluster with tree := cluster.tree.insert location (.file node), cursor })

/-- Takes a lock on something that exists. -/
def lock (cluster : Cluster) (location : Location) (shared : Bool) :
    Except Exception Unit × Cluster :=
  if cluster.tree.contains location then
    let (outcome, locks) := cluster.locks.acquire location shared location.toPath
    (outcome, { cluster with locks })
  else (.error (.missing location.toPath), cluster)

/-- Drops one holder of a lock, whether or not the place still exists. -/
def release (cluster : Cluster) (location : Location) : Except Exception Unit × Cluster :=
  let (outcome, locks) := cluster.locks.release location location.toPath
  (outcome, { cluster with locks })

/-! ## What writers do -/

/-- Why a file cannot be created at a place that holds an entry. -/
def creationConflict? (location : Location) (overwrite : Bool) : Option Entry → Option Exception
  | some (.directory _) => some (.taken location.toPath)
  | some (.file node) =>
    if node.underConstruction then some (.beingCreated location.toPath)
    else if overwrite then none
    else some (.taken location.toPath)
  | none => none

/-- Puts an empty file under construction at a location, with everything missing above it. -/
def startFile (cluster : Cluster) (now : Int) (location : Location) (options : CreateOptions) :
    Except Exception Unit × Cluster :=
  match creationConflict? location options.overwrite (cluster.tree.get? location) with
  | some exception => (.error exception, cluster)
  | none =>
    let above := match location.parent? with
      | some parent => parent.ancestors
      | none => []
    match cluster.tree.makeDirectories now above with
    | (.error exception, tree) => (.error exception, { cluster with tree })
    | (.ok (), tree) =>
      let node : FileNode :=
        { blocks := []
          replication := cluster.conf.replicationOr options.replication
          blockSize := cluster.conf.blockSizeOr options.blockSize
          modified := now
          underConstruction := true }
      (.ok (), { cluster with tree := tree.insert location (.file node) })

/-- Appends to the file under construction at a location. -/
def append (cluster : Cluster) (now : Int) (location : Location) (data : Bytes) :
    Except Exception Unit × Cluster :=
  match cluster.tree.file? location with
  | some node =>
    if node.underConstruction then
      let layout := Layout.append cluster.datanodes node.blockBytes node.replication data
        ⟨node.blocks, cluster.cursor⟩
      let node := { node with blocks := layout.blocks, modified := now }
      (.ok (),
        { cluster with
          tree := cluster.tree.insert location (.file node)
          cursor := layout.cursor })
    else (.error (.leaseLost location.toPath), cluster)
  | none => (.error (.leaseLost location.toPath), cluster)

/-- Ends the construction of the file at a location, if there is a file. -/
def complete (cluster : Cluster) (location : Location) : Cluster :=
  match cluster.tree.file? location with
  | some node =>
    { cluster with
      tree := cluster.tree.insert location (.file { node with underConstruction := false }) }
  | none => cluster

end Cluster

end FileGateway
