import FileGateway.Proofs.Cluster.Cuts
import FileGateway.Proofs.Cluster.Files
import FileGateway.Proofs.Storage.Operations

/-! # Blocks are laid out by the bytes alone

All files of a run have canonical blocks: only appending makes blocks, and it fills the last one first. So the bytes
of a file tell its blocks. Where the blocks are placed they tell too, as long as nobody else places any: a writer
hands over what it was given in some pieces, and pieces appended one after the other are laid as if they were one.
-/

namespace FileGateway

/-- The blocks of every file are canonical. -/
def Cluster.LaidOut (cluster : Cluster) : Prop :=
  ∀ location node, cluster.tree.file? location = some node → Block.Canonical node.blockBytes node.blocks

namespace Cluster

variable {cluster after : Cluster} {location : Location} {node changed : FileNode} {cursor : UInt64}

theorem LaidOut.of_carries (laidOut : cluster.LaidOut) (carries : cluster.Carries after) : after.LaidOut := by
  intro location node found
  rcases carries.files location node found with empty | ⟨place, was⟩
  · rw [empty]
    exact .nil _
  · exact laidOut place node was

theorem LaidOut.withFile (laidOut : cluster.LaidOut) (canonical : Block.Canonical changed.blockBytes changed.blocks) :
    (cluster.withFile location changed cursor).LaidOut := by
  intro other file found
  rw [withFile_tree, Namespace.file?, SortedMap.get?_insert] at found
  split at found
  · obtain rfl : changed = file := Option.some.inj found
    exact canonical
  · exact laidOut other file found

theorem laidOut_new (now : Int) (authority : String) (conf : Configuration) (datanodes : List String)
    (capacityEach : UInt64) : (Cluster.new now authority conf datanodes capacityEach).LaidOut := by
  intro location node found
  rw [Namespace.file?_eq_some_iff, Cluster.new, Namespace.initial, SortedMap.get?_singleton] at found
  split at found <;> simp at found

theorem LaidOut.setReplication (laidOut : cluster.LaidOut) (location : Location) (replication : UInt16) :
    (cluster.setReplication location replication).2.LaidOut := by
  rcases ran : cluster.setReplication location replication with ⟨exception | ⟨⟩, after⟩
  · rwa [setReplication_error ran]
  · obtain ⟨node, found, -, rfl⟩ := setReplication_run ran
    exact laidOut.withFile ((laidOut location node found).of_map_data (Block.replicateAll_map_data ..))

theorem LaidOut.call (laidOut : cluster.LaidOut) (writer : ClusterWriter) (now : Int) (asked : WriterCall) :
    (writer.answer cluster now asked).2.2.LaidOut := by
  rcases writer.answer_same_or_lays cluster now asked with same | ⟨node, changed, found, ran, blocks, -, blockSize⟩
  · rwa [same]
  · rw [ran]
    refine laidOut.withFile ?_
    rw [blocks, FileNode.blockBytes, blockSize]
    exact Layout.append_canonical node.blockBytes_pos _ (laidOut _ node found)

end Cluster

theorem Cluster.LaidOut.perform {cluster : Cluster} (laidOut : cluster.LaidOut) (isTree : cluster.tree.IsTree)
    (operation : Operation) : (operation.perform cluster).2.LaidOut := by
  rcases operation.carries_or isTree with carries | ⟨location, replication, rfl⟩ | ⟨writer, now, asked, rfl⟩
  · exact laidOut.of_carries carries
  · exact laidOut.setReplication location replication
  · exact laidOut.call writer now asked

/-- In every run the blocks of all files are canonical. -/
theorem Storage.laidOut_run (now : Int) (disk : Disk) (requests : List Request) {number : Nat} {cluster : Cluster}
    (present : ((new now disk).run requests).clusters[number]? = some cluster) : cluster.LaidOut :=
  (sound_new now disk).clusters_run Cluster.laidOut_new
    (fun _ operation isTree laidOut => laidOut.perform isTree operation)
    (fun _ _ none => by simp [new] at none) requests number cluster present

/-! ## Appending in pieces -/

namespace Cluster

variable {cluster : Cluster} {location : Location} {node : FileNode}

/-- A file with more data in it is laid on as if all had come at once. -/
theorem laid_laid (cluster : Cluster) (node changed : FileNode) (first second : Bytes)
    (blocks : changed.blocks = (cluster.laid node first).blocks) (replication : changed.replication = node.replication)
    (blockSize : changed.blockSize = node.blockSize) :
    (cluster.withFile location changed (cluster.laid node first).cursor).laid changed second =
      cluster.laid node (first ++ second) := by
  rw [laid, FileNode.blockBytes, blocks, replication, blockSize]
  exact Layout.append_append node.blockBytes_pos first second _

/-- Appending one run of bytes and then another leaves the cluster as appending both at once. -/
theorem append_append (cluster : Cluster) (earlier later : Int) (location : Location) (first second : Bytes) :
    (cluster.append earlier location first).2.append later location second =
      cluster.append later location (first ++ second) := by
  by_cases leased : cluster.Leased location
  · obtain ⟨bytes, view⟩ := leased
    obtain ⟨node, found, same⟩ := Option.map_eq_some_iff.mp view
    have isLeased : node.underConstruction = true := congrArg FileView.leased same
    let extended : FileNode := { node with blocks := (cluster.laid node first).blocks, modified := earlier }
    have extendedThere :
        (cluster.withFile location extended (cluster.laid node first).cursor).tree.file? location = some extended :=
      withFile_file? ..
    have onward := append_run extendedThere isLeased later second
    rw [laid_laid cluster node extended first second rfl rfl rfl, withFile_withFile] at onward
    rw [append_run found isLeased earlier, append_run found isLeased later]
    exact onward
  · rw [append_of_not_leased earlier first leased, append_of_not_leased later _ leased,
      append_of_not_leased later _ leased]

end Cluster

namespace Storage

variable {storage : Storage} {number stream : Nat} {cluster : Cluster} {writer : ClusterWriter} {node : FileNode}

/-- After a call on an open writer, with a file under construction at its place. -/
private theorem call_lays (found : storage.streams[stream]? = some ⟨.clusterWriter number writer, .none⟩)
    (present : storage.clusters[number]? = some cluster) (isOpen : writer.closed = false)
    (isFile : cluster.tree.file? writer.location = some node) (leased : node.underConstruction = true)
    (asked : WriterCall) :
    let after := storage.after (.call stream asked)
    let laid := cluster.laid node (writer.handed asked)
    ∃ changed, after.clusters[number]? = some (cluster.withFile writer.location changed laid.cursor) ∧
      after.streams[stream]? = some ⟨.clusterWriter number (writer.advance asked), .none⟩ ∧
      changed.blocks = laid.blocks ∧ changed.replication = node.replication ∧
      changed.blockSize = node.blockSize ∧ changed.underConstruction = !asked.isClose := by
  intro after laid
  obtain ⟨changed, ran, blocks, replication, blockSize, lease⟩ :=
    writer.answer_lays storage.seconds isOpen isFile leased asked
  have view : cluster.tree.view writer.location = some ⟨node.bytes, true⟩ := by
    rw [Namespace.view, isFile, Option.map_some, FileNode.view, leased]
  obtain ⟨_, _, _, -, answered, -⟩ := ClusterWriter.answer_of_leased isOpen view storage.seconds asked
  have later : after = final (call stream asked storage) := rfl
  rw [call_of_clusterWriter found present, final_answerOf, ran, answered] at later
  refine ⟨changed, ?_, ?_, blocks, replication, blockSize, lease⟩
  · rw [later]
    exact List.getElem?_set_self (List.getElem?_eq_some_iff.mp present).1
  · rw [later]
    simp [found]

/-- A writer that is closed or flushed in the end has laid what it had pending and what it was given, in whatever
pieces. -/
private theorem calls_lay (found : storage.streams[stream]? = some ⟨.clusterWriter number writer, .none⟩)
    (present : storage.clusters[number]? = some cluster) (isOpen : writer.closed = false)
    (isFile : cluster.tree.file? writer.location = some node) (leased : node.underConstruction = true)
    {calls : List WriterCall} (going : ∀ call ∈ calls, call.isClose = false) {last : WriterCall}
    (ending : last = .flush ∨ last = .close) :
    let laid := cluster.laid node (writer.pending ++ calls.flatMap WriterCall.data)
    ∃ changed, changed.blocks = laid.blocks ∧
      (storage.run ((calls ++ [last]).map (.call stream))).clusters[number]? =
        some (cluster.withFile writer.location changed laid.cursor) := by
  induction calls generalizing storage cluster writer node with
  | nil =>
    obtain ⟨changed, later, -, blocks, -⟩ := call_lays found present isOpen isFile leased last
    -- the last call hands over what is pending and has no bytes of its own
    have handed : writer.handed last = writer.pending := by rcases ending with rfl | rfl <;> rfl
    rw [handed] at later blocks
    rw [List.flatMap_nil, List.append_nil]
    exact ⟨changed, blocks, later⟩
  | cons call rest ih =>
    obtain ⟨changed, later, stays, blocks, replication, blockSize, lease⟩ :=
      call_lays found present isOpen isFile leased call
    have notClose := going call (List.mem_cons_self ..)
    obtain ⟨last, same, ran⟩ := ih stays later notClose (Cluster.withFile_file? ..) (by rw [lease, notClose]; rfl)
      fun other member => going other (List.mem_cons_of_mem _ member)
    rw [Cluster.laid_laid cluster node changed _ _ blocks replication blockSize, ← List.append_assoc,
      ClusterWriter.handed_append_pending] at same ran
    rw [ClusterWriter.advance_location, Cluster.withFile_withFile] at ran
    rw [List.flatMap_cons, ← List.append_assoc]
    exact ⟨last, same, ran⟩

/-- In every run, of every cluster: no block of a file is empty, all blocks but the last hold exactly what a block
holds, one byte at least, and the last no more, so the blocks are the chunks of the file. The loop of an append to a
file under construction comes to an end, whatever the size of its blocks; two appends leave just the cluster that
one append of all the bytes leaves; and a writer that is flushed or closed in the end has laid its bytes as one append
lays them, with the same hosts and the same cursor, however they were cut and flushed and whatever its buffer. -/
theorem layout_of_bytes (now : Int) (disk : Disk) (requests : List Request) (number : Nat) (cluster : Cluster)
    (location : Location) (node : FileNode) :
    let storage := (new now disk).run requests
    storage.clusters[number]? = some cluster → cluster.tree.file? location = some node →
    Block.Canonical (max node.blockSize.toNat 1) node.blocks ∧
    node.blocks.map Block.data = chunks (max node.blockSize.toNat 1) node.bytes ∧
    (node.underConstruction = true →
      (∀ data after, Layout.Appends cluster.datanodes (max node.blockSize.toNat 1) node.replication data
        ⟨node.blocks, cluster.cursor⟩ after ↔ after = cluster.laid node data) ∧
      (∀ now data, cluster.append now location data = (.ok (), cluster.withFile location
        { node with blocks := (cluster.laid node data).blocks, modified := now } (cluster.laid node data).cursor)) ∧
      (∀ earlier later first second, (cluster.append earlier location first).2.append later location second =
        cluster.append later location (first ++ second)) ∧
      ∀ stream writer, storage.streams[stream]? = some ⟨.clusterWriter number writer, .none⟩ →
        writer.closed = false → writer.location = location →
        ∀ calls : List WriterCall, (∀ call ∈ calls, call.isClose = false) →
        ∀ last, last = .flush ∨ last = .close →
          let laid := cluster.laid node (writer.pending ++ calls.flatMap WriterCall.data)
          ∃ changed, changed.blocks = laid.blocks ∧
            (storage.run ((calls ++ [last]).map (.call stream))).clusters[number]? =
              some (cluster.withFile location changed laid.cursor)) := by
  intro storage present isFile
  have canonical := laidOut_run now disk requests present location node isFile
  refine ⟨canonical, canonical.map_data node.blockBytes_pos, fun leased => ⟨fun data after => ?_, fun now data => ?_,
    fun earlier later first second => ?_, ?_⟩⟩
  · exact Layout.appends_iff node.blockBytes_pos
  · exact Cluster.append_run isFile leased now data
  · exact cluster.append_append earlier later location first second
  · rintro stream writer found isOpen rfl calls going last ending
    exact calls_lay found present isOpen isFile leased going ending

/-- A writer with a buffer of three bytes has one pending, for a file whose blocks have size zero. -/
def cuts : List Request :=
  [.startCluster "nn:1" { (default : Configuration) with blockSize := 0 } ["a", "b"] 1, .joinCluster 0,
    .createFile 0 ⟨[47, 102]⟩ ⟨false, 3, 1, 0⟩, .call 0 (.write [1])]

/-- Every byte gets a block of its own, on the datanodes in turn, though the bytes come in two writes. -/
theorem layout_of_bytes_of_cuts : ∃ later node, let storage := (new 0 (.new 0 .root 0 0)).run cuts
    (storage.run [.call 0 (.write [2]), .call 0 (.write [3, 4]), .call 0 .flush]).clusters[0]? = some later ∧
      later.tree.file? [[102]] = some node ∧ later.cursor = 4 ∧
      node.blocks = [⟨[1], ["a"]⟩, ⟨[2], ["b"]⟩, ⟨[3], ["a"]⟩, ⟨[4], ["b"]⟩] := by
  obtain ⟨-, -, appending⟩ := layout_of_bytes 0 (.new 0 .root 0 0) cuts 0 _ [[102]] _ rfl rfl
  obtain ⟨-, -, -, writing⟩ := appending rfl
  obtain ⟨node, same, ran⟩ := writing 0 _ rfl rfl rfl [.write [2], .write [3, 4]] (by decide) .flush (.inl rfl)
  exact ⟨_, node, ran, Cluster.withFile_file? .., rfl, same⟩

end Storage

end FileGateway
