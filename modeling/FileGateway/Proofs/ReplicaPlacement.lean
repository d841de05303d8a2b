import FileGateway.Proofs.Cluster.Replicas
import FileGateway.Proofs.Storage.Operations

/-! # Replicas are where they should be

In every state of a run every block of every file is on distinct datanodes, as many as the file wants and the
cluster has. Blocks come by appending and change their hosts when the number of replicas changes; all other
operations move files or remove them, with their blocks as they are. What a run needs for that is that the
cursor does not overflow: `placements` counts what moves it.
-/

namespace FileGateway

/-- Every block of every file of a cluster has its replicas. -/
def Cluster.Replicated (cluster : Cluster) : Prop :=
  ∀ location node, cluster.tree.file? location = some node →
    ∀ block ∈ node.blocks, block.Placed cluster.datanodes node.replication

/-- The blocks of the file at a place, if there is a file. -/
def Cluster.blocksAt (cluster : Cluster) (location : Location) : List Block :=
  ((cluster.tree.file? location).map FileNode.blocks).getD []

/-- How many placements an operation makes. -/
def Operation.placements (cluster : Cluster) (operation : Operation) : Nat :=
  let later := (operation.perform cluster).2
  match operation with
  | setReplication location _ => Block.placedSince (cluster.blocksAt location) (later.blocksAt location)
  | call writer _ _ => Block.placedSince (cluster.blocksAt writer.location) (later.blocksAt writer.location)
  | _ => 0

namespace Cluster

variable {cluster after : Cluster} {location : Location} {node changed : FileNode} {cursor : UInt64}

/-- What changes by so many placements keeps its replicas, and its cursor moves no further than that. -/
structure Places (cluster : Cluster) (count : Nat) (after : Cluster) : Prop where
  datanodes : after.datanodes = cluster.datanodes
  replicated : cluster.datanodes.Nodup → cluster.Replicated → cluster.cursor.toNat + count < placementLimit →
    after.Replicated ∧ after.cursor.toNat ≤ cluster.cursor.toNat + count

namespace Places

protected theorem refl (cluster : Cluster) : cluster.Places 0 cluster :=
  ⟨rfl, fun _ replicated _ => ⟨replicated, le_rfl⟩⟩

theorem weaken {count more : Nat} (places : cluster.Places count after) (fewer : count ≤ more) :
    cluster.Places more after where
  datanodes := places.datanodes
  replicated distinct replicated few := by
    obtain ⟨later, moved⟩ := places.replicated distinct replicated (by omega)
    exact ⟨later, by omega⟩

theorem of_carries (carries : cluster.Carries after) : cluster.Places 0 after where
  datanodes := carries.datanodes
  replicated _ replicated _ := by
    refine ⟨fun location node found block member => ?_, by rw [carries.cursor, Nat.add_zero]⟩
    rcases carries.files location node found with empty | ⟨place, was⟩
    · simp [empty] at member
    · rw [carries.datanodes]
      exact replicated place node was block member

end Places

theorem blocksAt_of_file (found : cluster.tree.file? location = some node) :
    cluster.blocksAt location = node.blocks := by
  rw [blocksAt, found]
  rfl

/-- A file whose new blocks are placed takes the place of one. -/
theorem Places.of_withFile {count : Nat} (found : cluster.tree.file? location = some node)
    (placed : cluster.datanodes.Nodup → (∀ block ∈ node.blocks, block.Placed cluster.datanodes node.replication) →
      cluster.cursor.toNat + count < placementLimit →
      (∀ block ∈ changed.blocks, block.Placed cluster.datanodes changed.replication) ∧
        cursor.toNat ≤ cluster.cursor.toNat + count) :
    cluster.Places count (cluster.withFile location changed cursor) where
  datanodes := rfl
  replicated distinct replicated few := by
    obtain ⟨blocks, moved⟩ := placed distinct (replicated location node found) few
    refine ⟨fun other file isFile => ?_, moved⟩
    rw [withFile_tree, Namespace.file?, SortedMap.get?_insert] at isFile
    split at isFile
    · obtain rfl : changed = file := Option.some.inj isFile
      exact blocks
    · exact replicated other file isFile

/-! ## Operations -/

/-- The blocks of a file before and after its number of replicas has changed: with the data as it was, and with
the first replicas, as many as were wanted and still are, where they were. -/
def KeepsReplicas (kept : Nat) (old new : Block) : Prop :=
  new.data = old.data ∧ new.hosts.take kept = old.hosts.take kept

theorem setReplication_keeps {replication : UInt16} (distinct : cluster.datanodes.Nodup)
    (replicated : cluster.Replicated)
    (done : cluster.setReplication location replication = (.ok (), after)) :
    ∃ node changed, cluster.tree.file? location = some node ∧ after.tree.file? location = some changed ∧
      changed.replication = replication ∧
      List.Forall₂ (KeepsReplicas (min node.replication.toNat replication.toNat)) node.blocks changed.blocks := by
  obtain ⟨node, found, -, rfl⟩ := setReplication_run done
  exact ⟨node, _, found, withFile_file? .., rfl,
    Block.replicateAll_keeps distinct replication (replicated location node found) cluster.cursor⟩

/-- The same number of replicas once more changes nothing, not even the cursor. -/
theorem setReplication_self {replication : UInt16} (distinct : cluster.datanodes.Nodup)
    (replicated : cluster.Replicated) (found : cluster.tree.file? location = some node)
    (same : node.replication = replication) (notZero : replication ≠ 0) :
    cluster.setReplication location replication = (.ok (), cluster) := by
  have isFile : cluster.requireFile location = .ok node := by
    rw [requireFile, Namespace.file?_eq_some_iff.mp found]
  subst same
  rw [setReplication, if_neg notZero, isFile]
  simp only [Block.replicateAll_self distinct (replicated location node found) cluster.cursor]
  exact congrArg _ (withFile_self found)

theorem placements_setReplication {replication : UInt16} (found : cluster.tree.file? location = some node)
    (ran : cluster.setReplication location replication = (.ok (), cluster.withFile location changed cursor)) :
    (Operation.setReplication location replication).placements cluster =
      Block.placedSince node.blocks changed.blocks := by
  rw [Operation.placements, Operation.perform, ran, blocksAt_of_file found, blocksAt_of_file (withFile_file? ..)]

theorem setReplication_places (cluster : Cluster) (location : Location) (replication : UInt16) :
    cluster.Places ((Operation.setReplication location replication).placements cluster)
      (cluster.setReplication location replication).2 := by
  rcases ran : cluster.setReplication location replication with ⟨exception | ⟨⟩, after⟩
  · rw [setReplication_error ran]
    exact (Places.refl cluster).weaken (Nat.zero_le _)
  · obtain ⟨node, found, -, rfl⟩ := setReplication_run ran
    rw [placements_setReplication found ran]
    refine .of_withFile found fun distinct placed few => ?_
    obtain ⟨blocks, moved⟩ := Block.replicateAll_placed distinct replication placed few
    exact ⟨blocks, moved.le⟩

theorem placements_call {writer : ClusterWriter} {now : Int} {asked : WriterCall}
    (found : cluster.tree.file? writer.location = some node)
    (ran : (writer.answer cluster now asked).2.2 = cluster.withFile writer.location changed cursor)
    (blocks : changed.blocks = (cluster.laid node (writer.handed asked)).blocks) :
    (Operation.call writer now asked).placements cluster = changed.blocks.length - node.blocks.length := by
  have longer : Layout.Extends _ _ ⟨node.blocks, cluster.cursor⟩ (cluster.laid node (writer.handed asked)) :=
    Layout.appendSteps_extends ..
  rw [Operation.placements, Operation.perform, ran, blocksAt_of_file found, blocksAt_of_file (withFile_file? ..),
    blocks, Block.placedSince_of_prefix longer.hosts]

theorem Appended.places (appended : cluster.Appended location after) :
    cluster.Places (Block.placedSince (cluster.blocksAt location) (after.blocksAt location)) after := by
  obtain ⟨node, changed, cursor, found, rfl, same, longer⟩ := appended
  rw [blocksAt_of_file found, blocksAt_of_file (withFile_file? ..), Block.placedSince_of_prefix longer.hosts]
  refine .of_withFile found fun distinct placed few => ?_
  rw [same]
  exact longer.placed distinct placed few

theorem call_places (cluster : Cluster) (writer : ClusterWriter) (now : Int) (asked : WriterCall) :
    cluster.Places ((Operation.call writer now asked).placements cluster)
      (writer.answer cluster now asked).2.2 := by
  rcases writer.answer_same_or_appended cluster now asked with same | appended
  · rw [same]
    exact (Places.refl cluster).weaken (Nat.zero_le _)
  · exact appended.places

end Cluster

/-- An operation makes the placements that are counted, and no more. -/
theorem Operation.places {cluster : Cluster} (isTree : cluster.tree.IsTree) (operation : Operation) :
    cluster.Places (operation.placements cluster) (operation.perform cluster).2 := by
  rcases operation.carries_or isTree with carries | ⟨location, replication, rfl⟩ | ⟨writer, now, asked, rfl⟩
  · exact (Cluster.Places.of_carries carries).weaken (Nat.zero_le _)
  · exact cluster.setReplication_places location replication
  · exact cluster.call_places writer now asked

/-! ## Bytes on all hosts -/

/-- A file whose blocks have their replicas takes its size so many times. -/
theorem FileNode.replicaBytes_of_placed {node : FileNode} {datanodes : List String}
    (placed : ∀ block ∈ node.blocks, block.Placed datanodes node.replication) :
    node.replicaBytes = node.size * min node.replication.toNat datanodes.length := by
  rw [replicaBytes, size]
  generalize node.blocks = blocks at placed
  induction blocks with
  | nil => simp
  | cons block rest ih =>
    rw [List.foldr_cons, List.foldr_cons, ih fun other member => placed other (List.mem_cons_of_mem _ member),
      (placed block (List.mem_cons_self ..)).count, Nat.add_mul]

namespace Cluster

/-- The sizes of all files, each as many times as it has replicas. -/
def replicatedBytes (cluster : Cluster) : Nat :=
  (cluster.tree.values.filterMap Entry.file?).foldr
    (fun file rest => file.size * min file.replication.toNat cluster.datanodes.length + rest) 0

theorem Replicated.used {cluster : Cluster} (replicated : cluster.Replicated) :
    cluster.used = cluster.replicatedBytes := by
  have files : ∀ file ∈ cluster.tree.values.filterMap Entry.file?,
      file.replicaBytes = file.size * min file.replication.toNat cluster.datanodes.length := by
    intro file member
    obtain ⟨entry, isValue, isFile⟩ := List.mem_filterMap.mp member
    obtain ⟨⟨location, _⟩, isEntry, rfl⟩ := List.mem_map.mp isValue
    refine FileNode.replicaBytes_of_placed (replicated location file ?_)
    rw [Namespace.file?, SortedMap.get?_eq_some_iff.mpr isEntry, Option.bind_some, isFile]
  rw [Cluster.used, replicatedBytes]
  generalize cluster.tree.values.filterMap Entry.file? = list at files
  induction list with
  | nil => rfl
  | cons file rest ih =>
    rw [List.foldr_cons, List.foldr_cons, files file (List.mem_cons_self ..),
      ih fun other member => files other (List.mem_cons_of_mem _ member)]

end Cluster

/-! ## Runs -/

namespace Storage

variable {storage : Storage} {number client : Nat} {request : Request} {directory : Location} {cluster : Cluster}

/-- How many placements of a cluster a request makes. -/
def placementsBy (storage : Storage) (number : Nat) (request : Request) : Nat :=
  match storage.clusters[number]?, storage.operation? number request with
  | some cluster, some operation => operation.placements cluster
  | _, _ => 0

/-- How many placements of a cluster a run makes. -/
def placements (number : Nat) : Storage → List Request → Nat
  | _, [] => 0
  | storage, request :: rest => storage.placementsBy number request + placements number (storage.after request) rest

/-- A cluster with distinct datanodes has its replicas after so many placements. -/
def Tallied (storage : Storage) (number placements : Nat) : Prop :=
  ∀ cluster, storage.clusters[number]? = some cluster → cluster.datanodes.Nodup →
    cluster.Replicated ∧ cluster.cursor.toNat ≤ placements

theorem Sound.tallied_after (sound : storage.Sound) {made : Nat} (tallied : storage.Tallied number made)
    (request : Request) (few : made + storage.placementsBy number request < placementLimit) :
    (storage.after request).Tallied number (made + storage.placementsBy number request) := by
  intro later present distinct
  rcases sound.cluster_cases request present with ⟨now, _, _, _, _, -, rfl⟩ | ⟨known, noOperation⟩ |
    ⟨cluster, operation, known, isOperation, rfl⟩
  · refine ⟨fun location node found => ?_, Nat.zero_le _⟩
    rw [Namespace.file?_eq_some_iff, Cluster.new, Namespace.initial, SortedMap.get?_singleton] at found
    split at found <;> simp at found
  · obtain ⟨replicated, moved⟩ := tallied later known distinct
    exact ⟨replicated, by omega⟩
  · have places := operation.places (sound.trees cluster (List.mem_of_getElem? known))
    rw [placementsBy, known, isOperation] at few ⊢
    rw [places.datanodes] at distinct
    obtain ⟨replicated, moved⟩ := tallied cluster known distinct
    obtain ⟨later, movedOn⟩ := places.replicated distinct replicated (by simp only at few; omega)
    exact ⟨later, by simp only; omega⟩

theorem Sound.tallied_run (sound : storage.Sound) {made : Nat} (tallied : storage.Tallied number made)
    (requests : List Request) (few : made + placements number storage requests < placementLimit) :
    (storage.run requests).Tallied number (made + placements number storage requests) := by
  induction requests generalizing storage made with
  | nil => exact tallied
  | cons request rest ih =>
    rw [placements, ← Nat.add_assoc] at few ⊢
    exact ih (sound.serve request) (sound.tallied_after tallied request (by omega)) few

/-- What a client of a cluster did who changed the number of replicas of a file. -/
private theorem setReplication_done {path : Path} {replication : UInt16} {after : Storage}
    (found : storage.clients[client]? = some ⟨.cluster number, directory, .none⟩)
    (present : storage.clusters[number]? = some cluster)
    (done : setReplication client path replication storage = .ok () after) :
    ∃ later, cluster.setReplication (directory.resolve path) replication = (.ok (), later) ∧
      after = storage.withCluster number later := by
  rw [setReplication_of_cluster found, onCluster_of_some present] at done
  rcases ran : cluster.setReplication (directory.resolve path) replication with ⟨exception | ⟨⟩, later⟩
  · rw [ran] at done
    contradiction
  · rw [ran] at done
    exact ⟨later, rfl, (EStateM.Result.ok.inj done).2.symm⟩

/-- Setting the number of replicas that a file has changes nothing. -/
private theorem setReplication_same {path : Path} {replication : UInt16} {node : FileNode}
    (found : storage.clients[client]? = some ⟨.cluster number, directory, .none⟩)
    (present : storage.clusters[number]? = some cluster) (distinct : cluster.datanodes.Nodup)
    (replicated : cluster.Replicated) (isFile : cluster.tree.file? (directory.resolve path) = some node)
    (same : node.replication = replication) (notZero : replication ≠ 0) :
    setReplication client path replication storage = .ok () storage := by
  rw [setReplication_of_cluster found, onCluster_of_some present,
    Cluster.setReplication_self distinct replicated isFile same notZero, withCluster_self present]
  rfl

/-- In every run with fewer placements than the cursor can count, the blocks of all files of a cluster with
distinct datanodes are on distinct ones of them, as many as the file wants and there are, and the cluster uses
so many times the sizes of its files. Who changes the number of replicas of a file keeps those that were wanted
and still are, and changes nothing by doing it again. -/
theorem replicas_placed (now : Int) (disk : Disk) (requests : List Request) (number : Nat) (cluster : Cluster)
    (present : ((new now disk).run requests).clusters[number]? = some cluster) (distinct : cluster.datanodes.Nodup)
    (few : placements number (new now disk) requests < placementLimit) :
    let last := (new now disk).run requests
    (∀ location node, cluster.tree.file? location = some node →
      ∀ block ∈ node.blocks, block.Placed cluster.datanodes node.replication) ∧
    ∀ client directory, last.clients[client]? = some ⟨.cluster number, directory, .none⟩ →
      used client last = .ok cluster.replicatedBytes last ∧
      ∀ path replication after, setReplication client path replication last = .ok () after →
        placements number (new now disk) requests +
          last.placementsBy number (.setReplication client path replication) < placementLimit →
        (∃ node changed later, cluster.tree.file? (directory.resolve path) = some node ∧
          after.clusters[number]? = some later ∧ later.tree.file? (directory.resolve path) = some changed ∧
          changed.replication = replication ∧
          List.Forall₂ (Cluster.KeepsReplicas (min node.replication.toNat replication.toNat))
            node.blocks changed.blocks) ∧
        setReplication client path replication after = .ok () after := by
  intro last
  have start : (new now disk).Tallied number 0 := fun _ none => by simp [new] at none
  have sound : last.Sound := (sound_new now disk).run requests
  have tallied : last.Tallied number (placements number (new now disk) requests) := by
    have tallied := (sound_new now disk).tallied_run start requests (by omega)
    rwa [Nat.zero_add] at tallied
  obtain ⟨replicated, -⟩ := tallied cluster present distinct
  refine ⟨replicated, fun client directory found => ⟨?_, fun path replication after done fewMore => ?_⟩⟩
  · rw [used_of_cluster found present, replicated.used]
  · obtain ⟨later, ran, rfl⟩ := setReplication_done found present done
    have isLater : (last.withCluster number later).clusters[number]? = some later :=
      List.getElem?_set_self (List.getElem?_eq_some_iff.mp present).1
    have served : last.after (.setReplication client path replication) = last.withCluster number later := by
      rw [Storage.after, serve, done, final]
    have talliedLater := sound.tallied_after tallied (.setReplication client path replication) fewMore
    rw [served] at talliedLater
    obtain ⟨_, -, notZero, laterIs⟩ := Cluster.setReplication_run ran
    have distinctLater : later.datanodes.Nodup := by rwa [laterIs]
    obtain ⟨node, changed, isFile, isChanged, same, kept⟩ :=
      Cluster.setReplication_keeps distinct replicated ran
    have replicatedLater := (talliedLater later isLater distinctLater).1
    exact ⟨⟨node, changed, later, isFile, isLater, isChanged, same, kept⟩,
      setReplication_same found isLater distinctLater replicatedLater isChanged same notZero⟩

/-- Three bytes are written in blocks of two bytes, for two of three datanodes. -/
def replication : List Request :=
  [.startCluster "nn:1" .default ["a", "b", "c"] 1, .joinCluster 0, .createFile 0 ⟨[47, 102]⟩ ⟨false, 1, 2, 2⟩,
    .call 0 (.write [1, 2, 3])]

/-- Then six bytes are used, and whoever wants five replicas can want them again. -/
theorem replicas_placed_on_three : ∃ after, let storage := (new 0 (.new 0 .root 0 0)).run replication
    used 0 storage = .ok 6 storage ∧ setReplication 0 ⟨[47, 102]⟩ 5 storage = .ok () after ∧
      used 0 after = .ok 9 after ∧ setReplication 0 ⟨[47, 102]⟩ 5 after = .ok () after := by
  obtain ⟨-, clients⟩ := replicas_placed 0 (.new 0 .root 0 0) replication 0 _ rfl (by decide) (by decide)
  obtain ⟨used, again⟩ := clients 0 .root rfl
  exact ⟨_, used, rfl, rfl, (again ⟨[47, 102]⟩ 5 _ rfl (by decide)).2⟩

end Storage

end FileGateway
