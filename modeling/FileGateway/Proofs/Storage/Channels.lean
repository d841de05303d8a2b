import FileGateway.Proofs.Storage.DeviceCalls

/-! # Streams between devices

`Readable` and `Writable` say what a stream has still to hand out and what it was given so far, for
the streams of every device alike. A read that is answered hands out a part, and nothing only at the
end; a write that is answered was accepted as a whole, wherever the bytes are kept for the moment; and
what was written is what stands in the file once the stream was closed without a failure. Clusters
answer all of these calls; the disk refuses what the system refuses.
-/

namespace FileGateway.Storage

variable {storage before after : Storage} {client number stream input output count : Nat} {device : Device}
  {directory place location : Location} {path : Path} {rest written : Bytes}

theorem withChannel_self {channel former : Channel}
    (found : storage.streams[stream]? = some ⟨former, .none⟩) :
    (storage.withChannel stream channel).streams[stream]? = some ⟨channel, .none⟩ := by
  simp [withChannel, found]

theorem withChannel_ne {channel : Channel} {other : Nat} (different : other ≠ stream) :
    (storage.withChannel stream channel).streams[other]? = storage.streams[other]? := by
  simp [withChannel, Ne.symm different]

/-- Nothing changes with the channel that is there. -/
theorem withChannel_of_same {channel : Channel} (found : storage.streams[stream]? = some ⟨channel, .none⟩) :
    storage.withChannel stream channel = storage := by
  have same : storage.streams.modify stream ({ · with channel }) = storage.streams := by
    refine List.ext_getElem? fun other => ?_
    rw [List.getElem?_modify]
    by_cases own : stream = other
    · subst own
      simp [found]
    · simp [own]
  rw [withChannel, same]

/-! ## Readers -/

/-- A stream has bytes of the file at a place still to hand out. -/
inductive Readable (storage : Storage) (stream : Nat) : Device → Location → Bytes → Prop
  | cluster {number : Nat} {reader : ClusterReader} {bytes rest : Bytes}
      (channel : storage.streams[stream]? = some ⟨.clusterReader number reader, .none⟩)
      (file : storage.look (.cluster number) reader.location = some (.file bytes))
      (left : bytes.drop reader.position = rest) :
      Readable storage stream (.cluster number) reader.location rest
  | disk {reader : DiskReader} {location : Location} {rest : Bytes}
      (channel : storage.streams[stream]? = some ⟨.diskReader reader, .none⟩)
      (file : storage.disk.tree.get? location = some (.file reader.file))
      (left : reader.rest storage.disk = rest)
      (short : rest.length ≤ (storage.disk.fileData reader.file).length) :
      Readable storage stream .disk location rest

/-- A reader does not notice what happens beside its file. -/
theorem Readable.frame (readable : Readable before stream device place rest)
    (streams : after.streams[stream]? = before.streams[stream]?)
    (look : ∀ {bytes}, before.look device place = some (.file bytes) →
      after.look device place = some (.file bytes))
    (numbers : ∀ {number}, before.disk.tree.get? place = some (.file number) →
      after.disk.tree.get? place = some (.file number)) : Readable after stream device place rest := by
  cases readable with
  | cluster channel file left => exact .cluster (streams.trans channel) (look file) left
  | @disk reader _ _ channel file left short =>
    have same : after.disk.fileData reader.file = before.disk.fileData reader.file := by
      have seen := look (Disk.look_eq_file_iff.mpr ⟨_, file, rfl⟩)
      obtain ⟨number, there, data⟩ := Disk.look_eq_file_iff.mp seen
      obtain rfl : number = reader.file := by simpa [numbers file] using there.symm
      exact data
    refine .disk (streams.trans channel) (numbers file) ?_ (same ▸ short)
    rw [DiskReader.rest, same]
    exact left

theorem Readable.lt (readable : Readable storage stream device place rest) :
    stream < storage.streams.length := by
  cases readable with
  | cluster channel | disk channel => exact (List.getElem?_eq_some_iff.mp channel).1

private theorem requireFile_of_look {cluster : Cluster} {bytes : Bytes}
    (file : cluster.tree.look location = some (.file bytes)) :
    ∃ node, cluster.requireFile location = .ok node ∧ node.bytes = bytes := by
  obtain ⟨node, found, same⟩ := Namespace.look_eq_file_iff.mp file
  exact ⟨node, by rw [Cluster.requireFile, found], same⟩

/-- A cluster shows a file only if it is there. -/
private theorem cluster_of_look {bytes : Bytes}
    (file : storage.look (.cluster number) place = some (.file bytes)) :
    ∃ cluster, storage.clusters[number]? = some cluster ∧ cluster.tree.look place = some (.file bytes) :=
  Option.bind_eq_some_iff.mp file

/-- A read that was answered handed out a part of what was left, and nothing only at the end. -/
def Reads (before : Storage) (stream : Nat) (device : Device) (place : Location) (count : Nat) (rest : Bytes)
    (result : ReadResult) (after : Storage) : Prop :=
  ∃ data later channel, result = .ofData data ∧ after = before.withChannel stream channel ∧ data ++ later = rest ∧
    data.length ≤ count ∧ (data = [] → rest = []) ∧ Readable after stream device place later

/-- A cluster answers every read. -/
theorem read_ok (readable : Readable storage stream (.cluster number) place rest) (positive : 0 < count) :
    ∃ result after, read stream count storage = .ok result after ∧
      Reads storage stream (.cluster number) place count rest result after := by
  cases readable with
  | @cluster number reader bytes _ channel file left =>
    obtain ⟨cluster, present, seen⟩ := cluster_of_look file
    obtain ⟨node, required, rfl⟩ := requireFile_of_look seen
    let data := Block.readFrom node.blocks reader.position (min count reader.limit)
    have run : data <+: (node.bytes.drop reader.position).take (min count reader.limit) :=
      Block.readFrom_prefix node.blocks reader.position _
    have whole : data <+: node.bytes.drop reader.position := run.trans (List.take_prefix ..)
    refine ⟨_, _, ?_, data, node.bytes.drop (reader.position + data.length),
      .clusterReader number { reader with position := reader.position + data.length }, rfl, rfl, ?_, ?_, ?_, ?_⟩
    · rw [read, bind_run, streamAt_of_some channel]
      simp only [scripted, Script.reaction?, Script.none, List.lookup_nil, bind_run,
        clusterAt_of_some present, ClusterReader.read, ClusterReader.readAt, required, Except.map]
      rfl
    · rw [← List.drop_drop, List.prefix_iff_eq_append.mp whole, left]
    · have short := run.length_le
      rw [List.length_take] at short
      omega
    · intro nothing
      rcases Block.readFrom_eq_nil_iff.mp nothing with none | atEnd
      · have one : 0 < reader.limit := by rw [ClusterReader.limit]; omega
        omega
      · rw [← left, List.drop_eq_nil_iff, FileNode.bytes_eq]
        exact atEnd
    · exact @Readable.cluster _ _ number { reader with position := reader.position + data.length } _ _
        (withChannel_self channel) file rfl

/-- A read hands out a part of what is left, and nothing only at the end, or fails. -/
theorem read_ends (readable : Readable storage stream device place rest) (positive : 0 < count) :
    Ends (read stream count storage) (Reads storage stream device place count rest) := by
  cases readable with
  | cluster channel file left =>
    obtain ⟨result, after, ran, reads⟩ := read_ok (.cluster channel file left) positive
    rw [ran]
    exact reads
  | @disk reader _ _ channel file left short =>
    rw [read_of_diskReader channel]
    rcases reader.read_cases storage.disk count with ⟨data, later, ran, progress⟩ | ⟨-, error, later, -, ran⟩ <;>
      rw [ran]
    · refine ⟨data, later.rest storage.disk, .diskReader later, rfl, rfl, progress.whole.trans left, progress.short,
        fun nothing => ?_, .disk (withChannel_self channel) (progress.file ▸ file) rfl ?_⟩
      · exact left ▸ (progress.atEnd nothing).resolve_left positive.ne'
      · rw [progress.file]
        refine le_trans ?_ short
        rw [← left, ← progress.whole, List.length_append]
        exact Nat.le_add_left ..
    · exact .raise _

/-- The bound on the reads of a stream is beyond the bytes it has left. -/
theorem readsLeft_ok (readable : Readable storage stream device place rest) :
    ∃ steps, readsLeft stream storage = .ok steps storage ∧ rest.length < steps := by
  cases readable with
  | @cluster number reader bytes _ channel file left =>
    obtain ⟨cluster, present, seen⟩ := cluster_of_look file
    obtain ⟨node, found, rfl⟩ := Namespace.look_eq_file_iff.mp seen
    have isFile : cluster.tree.file? reader.location = some node := Namespace.file?_eq_some_iff.mpr found
    refine ⟨node.size + 1, ?_, ?_⟩
    · rw [readsLeft, bind_run, streamAt_of_some channel]
      simp only [bind_run, clusterAt_of_some present, isFile, Option.map_some, Option.getD_some]
      rfl
    · rw [← left, List.length_drop, FileNode.length_bytes]
      omega
  | @disk reader _ _ channel file left short =>
    refine ⟨(storage.disk.fileData reader.file).length + 1, ?_, by omega⟩
    rw [readsLeft, bind_run, streamAt_of_some channel]
    rfl

/-- Closing a reader does nothing. -/
theorem closeReader_ok (readable : Readable storage stream device place rest) :
    closeStream stream storage = .ok () storage := by
  cases readable with
  | cluster channel | disk channel =>
    rw [closeStream, bind_run, streamAt_of_some channel]
    rfl

theorem openReader_ends (attached : storage.Attached client device directory)
    (path : Path) (bufferSize : UInt64) {bytes : Bytes}
    (file : storage.look device (directory.resolve path) = some (.file bytes)) :
    Ends (openReader client path bufferSize storage) fun stream after =>
      (∃ streams, after = { storage with streams }) ∧
        Readable after stream device (directory.resolve path) bytes := by
  have proper := Location.proper_resolve attached.proper path
  cases attached with
  | @cluster number _ cluster found present isTree =>
    obtain ⟨node, required, -⟩ := requireFile_of_look (look_of_cluster present ▸ file)
    rw [openReader_of_cluster found present, ClusterReader.open, required]
    let reader : ClusterReader := ⟨directory.resolve path, 0, cluster.conf.bufferSizeOr bufferSize⟩
    exact ⟨⟨_, rfl⟩, @Readable.cluster _ _ number reader _ _ List.getElem?_concat_length file List.drop_zero⟩
  | disk found regular =>
    rw [openReader_of_disk found]
    split
    · next reader done =>
      obtain ⟨file', there, rfl⟩ := LocalDisk.openReader_ok regular proper done
      obtain ⟨file'', there', rfl⟩ := Disk.look_eq_file_iff.mp file
      obtain rfl : file' = file'' := by simpa [there] using there'
      split
      · exact show Failure.crashed _ ≠ .endless by simp
      · refine ⟨⟨_, rfl⟩, .disk List.getElem?_concat_length there ?_ le_rfl⟩
        simp [DiskReader.rest, DiskReader.ofFile]
    · exact .raise _

/-! ## Writers -/

/-- A stream writes the file at a place, and was given some bytes so far. -/
inductive Writable (storage : Storage) (stream : Nat) : Device → Location → Bytes → Prop
  | cluster {number : Nat} {writer : ClusterWriter} {cluster : Cluster} {node : FileNode} {written : Bytes}
      (channel : storage.streams[stream]? = some ⟨.clusterWriter number writer, .none⟩)
      (isOpen : writer.closed = false) (present : storage.clusters[number]? = some cluster)
      (file : cluster.tree.get? writer.location = some (.file node)) (leased : node.underConstruction = true)
      (replication : node.replication = cluster.defaultReplication)
      (blockSize : node.blockSize = cluster.defaultBlockSize)
      (given : node.bytes ++ writer.pending = written) :
      Writable storage stream (.cluster number) writer.location written
  | disk {writer : DiskWriter} {location : Location} {written : Bytes}
      (channel : storage.streams[stream]? = some ⟨.diskWriter writer, .none⟩)
      (isOpen : writer.closed = false)
      (named : ∀ query, storage.disk.tree.get? query = some (.file writer.file) ↔ query = location)
      (atEnd : writer.AtEnd storage.disk)
      (given : storage.disk.fileData writer.file ++ writer.pending = written) :
      Writable storage stream .disk location written

/-- A writer is not a reader. -/
theorem Readable.ne_of_writable {other : Device} {elsewhere : Location}
    (readable : Readable storage input device place rest)
    (writable : Writable storage output other elsewhere written) : input ≠ output := by
  rintro rfl
  cases readable with
  | cluster read | disk read => cases writable with
    | cluster write | disk write => simp [read] at write

theorem Writable.withChannel (writable : Writable storage stream device place written) {other : Nat}
    (different : stream ≠ other) (channel : Channel) :
    Writable (storage.withChannel other channel) stream device place written := by
  cases writable with
  | cluster found isOpen present file leased replication blockSize given =>
    exact .cluster ((withChannel_ne different).trans found) isOpen present file leased replication blockSize given
  | disk found isOpen named atEnd given =>
    exact .disk ((withChannel_ne different).trans found) isOpen named atEnd given

/-- What a writer does beside its file: nothing. -/
structure Besides (device : Device) (place : Location) (before after : Storage) : Prop
    extends Evolved device (some place) before after where
  look : ∀ {query}, query ≠ place → after.look device query = before.look device query
  tree : after.disk.tree = before.disk.tree
  count : after.disk.files.length = before.disk.files.length

namespace Besides

theorem refl (device : Device) (place : Location) (storage : Storage) (streams : List Stream) :
    Besides device place storage { storage with streams } :=
  ⟨.of_streams device (some place) storage streams, fun _ => by rw [look_withStreams], rfl, rfl⟩

theorem trans {middle : Storage} (first : Besides device place before middle)
    (second : Besides device place middle after) : Besides device place before after :=
  ⟨first.toEvolved.trans second.toEvolved, fun apart => (second.look apart).trans (first.look apart),
    second.tree.trans first.tree, second.count.trans first.count⟩

theorem numbers (besides : Besides device place before after) {query : Location} {number : Nat}
    (found : before.disk.tree.get? query = some (.file number)) : after.disk.tree.get? query = some (.file number) :=
  besides.tree ▸ found

/-- The file of a cluster at the place is another one. -/
theorem of_withFile {cluster : Cluster} (present : storage.clusters[number]? = some cluster) {node : FileNode}
    (file : cluster.tree.get? place = some (.file node)) (changed : FileNode) (cursor : UInt64)
    (streams : List Stream) : Besides (.cluster number) place storage
      { storage.withCluster number (cluster.withFile place changed cursor) with streams } := by
  have isFile : cluster.tree.file? place = some node := Namespace.file?_eq_some_iff.mpr file
  refine ⟨.of_cluster present (cluster.withFile place changed cursor) rfl (fun isTree => ?_)
    (fun query notDraft settled => ?_) streams, fun {query} apart => ?_, rfl, rfl⟩
  · exact Cluster.withFile_isTree isTree isFile changed cursor
  · intro other found
    rw [Cluster.withFile_tree, SortedMap.get?_insert,
      if_neg fun same => notDraft (congrArg some same)] at found
    exact settled other found
  · rw [look_withCluster present, look_of_cluster present, Cluster.withFile_tree, Namespace.look_insert,
      if_neg apart]

/-- The file of the disk at the place was extended. -/
theorem of_extended {disk : Disk} {number : Nat} {data : Bytes}
    (extended : storage.disk.Extended number data disk)
    (named : ∀ query, storage.disk.tree.get? query = some (.file number) ↔ query = place)
    (streams : List Stream) : Besides .disk place storage { storage with disk, streams } := by
  exact ⟨.of_disk extended.regular streams,
    fun {query} apart => extended.look_of_ne fun found => apart ((named query).mp found), extended.tree, extended.count⟩

end Besides

/-- A call on an open writer of a cluster whose file is under construction at its place. -/
private theorem answer_file {writer : ClusterWriter} {cluster : Cluster} {node : FileNode}
    (isOpen : writer.closed = false) (file : cluster.tree.get? writer.location = some (.file node))
    (leased : node.underConstruction = true) (now : Int) (asked : WriterCall) :
    ∃ changed cursor, writer.answer cluster now asked =
        (.ok (), writer.advance asked, cluster.withFile writer.location changed cursor) ∧
      changed.bytes = node.bytes ++ writer.handed asked ∧ changed.underConstruction = !asked.isClose ∧
      changed.replication = node.replication ∧ changed.blockSize = node.blockSize := by
  have view : cluster.tree.view writer.location = some ⟨node.bytes, true⟩ :=
    Namespace.view_eq_some_iff.mpr ⟨node, file, by rw [FileNode.view, leased]⟩
  obtain ⟨former, changed, cursor, found, ran, viewed, replication, blockSize⟩ :=
    writer.answer_of_leased isOpen view now asked
  have same : Entry.file former = .file node :=
    Option.some.inj ((Namespace.file?_eq_some_iff.mp found).symm.trans file)
  obtain rfl := Entry.file.inj same
  exact ⟨changed, cursor, ran, congrArg FileView.bytes viewed, congrArg FileView.leased viewed, replication,
    blockSize⟩

/-- A stream was written to, and nothing happened beside its file. -/
structure Wrote (device : Device) (place : Location) (before : Storage) (stream : Nat) (written : Bytes)
    (after : Storage) : Prop where
  writable : Writable after stream device place written
  besides : Besides device place before after
  others : ∀ other ≠ stream, after.streams[other]? = before.streams[other]?

/-- A write is accepted as a whole, or fails. -/
theorem write_ends (writable : Writable storage stream device place written) (data : Bytes) :
    Ends (write stream data storage) fun _ after => Wrote device place storage stream (written ++ data) after := by
  cases writable with
  | @cluster number writer cluster node _ channel isOpen present file leased replication blockSize given =>
    obtain ⟨changed, cursor, ran, bytes, stillLeased, sameReplication, sameBlockSize⟩ :=
      answer_file isOpen file leased storage.seconds (.write data)
    have outcome : (writer.write cluster storage.seconds data).1 = .ok data.length := by
      rw [ClusterWriter.write_outcome, ran]
      rfl
    have moved : (writer.write cluster storage.seconds data).2 =
        (writer.advance (.write data), cluster.withFile writer.location changed cursor) :=
      congrArg Prod.snd ran
    have bound : number < storage.clusters.length := (List.getElem?_eq_some_iff.mp present).1
    rw [write_of_clusterWriter channel present, outcome, moved]
    refine ⟨@Writable.cluster _ _ number (writer.advance (.write data)) _ changed _ (withChannel_self channel) rfl
      (List.getElem?_set_self bound) ?_ stillLeased (sameReplication.trans replication)
      (sameBlockSize.trans blockSize) ?_, .of_withFile present file changed cursor _, fun other => withChannel_ne⟩
    · simp
    · rw [bytes, List.append_assoc, ClusterWriter.handed_append_pending, ← given, List.append_assoc]
      rfl
  | @disk writer _ _ channel isOpen named atEnd given =>
    have serves := writer.answer_serves isOpen atEnd storage.now (.write data)
    rw [write_of_diskWriter channel, writer.write_outcome]
    rcases answered : writer.answer storage.disk storage.now (.write data) with ⟨_ | _, later, disk⟩
    · exact .raise _
    · have moved : (writer.write storage.disk storage.now data).2 = (later, disk) := congrArg Prod.snd answered
      rw [answered] at serves
      rw [moved]
      obtain ⟨taken, lost, served⟩ := serves.served
      obtain rfl : taken = data := served.all rfl
      obtain rfl : lost = [] := served.spared (.inl rfl)
      obtain ⟨bytes, whole, extended, -⟩ := served.handed
      refine ⟨.disk (withChannel_self channel) served.closed (fun query => ?_) (served.atEnd atEnd) ?_,
        .of_extended extended named _, fun other => withChannel_ne⟩
      · exact served.file ▸ extended.tree ▸ named query
      · have content : disk.fileData later.file = storage.disk.fileData writer.file ++ bytes := by
          rw [served.file, extended.fileData, if_pos rfl]
        rw [List.append_nil] at whole
        rw [← given, List.append_assoc, ← whole, ← List.append_assoc, ← content]
        rfl

/-- A stream was closed, and left a complete file of all that was written. Dropping it then does nothing. -/
structure Closed (device : Device) (place : Location) (before : Storage) (stream : Nat) (written : Bytes)
    (after : Storage) : Prop where
  content : after.look device place = some (.file written)
  settled : after.Settled device place
  besides : Besides device place before after
  others : ∀ other ≠ stream, after.streams[other]? = before.streams[other]?
  dropped : ∃ streams, dropStream stream after = .ok () { after with streams }

/-- A writer is closed, or fails to put all that it was given into its file. -/
theorem closeWriter_ends (writable : Writable storage stream device place written) :
    Ends (closeStream stream storage) fun _ after => Closed device place storage stream written after := by
  have isCall : closeStream stream = call stream .close := rfl
  cases writable with
  | @cluster number writer cluster node _ channel isOpen present file leased replication blockSize given =>
    obtain ⟨changed, cursor, ran, bytes, complete, sameReplication, sameBlockSize⟩ :=
      answer_file isOpen file leased storage.seconds .close
    let after := (storage.withCluster number (cluster.withFile writer.location changed cursor)).withChannel
      stream (.clusterWriter number (writer.advance .close))
    have bound : number < storage.clusters.length := (List.getElem?_eq_some_iff.mp present).1
    have there : after.clusters[number]? = some (cluster.withFile writer.location changed cursor) :=
      List.getElem?_set_self bound
    have called : closeStream stream storage = .ok () after := by
      rw [isCall, call_of_clusterWriter channel present, ran]
      rfl
    rw [called]
    refine ⟨?_, ?_, .of_withFile present file changed cursor _, fun other => withChannel_ne, after.streams, ?_⟩
    · rw [look_of_cluster there, Cluster.withFile_tree, Namespace.look_insert, if_pos rfl, Entry.occupant, bytes,
        ← given]
      rfl
    · intro other same node found
      obtain rfl := Option.some.inj (there.symm.trans same)
      rw [Cluster.withFile_tree, SortedMap.get?_insert, if_pos rfl, Option.some.injEq, Entry.file.injEq] at found
      obtain rfl := found
      exact ⟨complete, sameReplication.trans replication, sameBlockSize.trans blockSize⟩
    · have closed : after.streams[stream]? = some ⟨.clusterWriter number (writer.advance .close), .none⟩ :=
        withChannel_self channel
      rw [dropStream, bind_run, streamAt_of_some closed]
      rfl
  | @disk writer _ _ channel isOpen named atEnd given =>
    have serves := writer.answer_serves isOpen atEnd storage.now .close
    rw [isCall, call_of_diskWriter channel]
    rcases answered : writer.answer storage.disk storage.now .close with ⟨_ | _, later, disk⟩
    · exact .raise _
    · rw [answered] at serves
      obtain ⟨taken, lost, served⟩ := serves.served
      obtain rfl : taken = [] := served.all rfl
      obtain rfl : lost = [] := served.spared (.inl rfl)
      obtain ⟨bytes, whole, extended, -⟩ := served.handed
      have emptied : later.pending = [] := served.emptied (.inr rfl)
      let after := { storage with disk }.withChannel stream (.diskWriter later)
      have there : after.streams[stream]? = some ⟨.diskWriter later, .none⟩ := withChannel_self channel
      refine ⟨?_, trivial, .of_extended extended named _, fun other => withChannel_ne,
        (after.withChannel stream (.diskWriter later)).streams, ?_⟩
      · have content := extended.look_of_named ((named place).mpr rfl)
        rw [emptied, List.nil_append, List.append_nil, List.append_nil] at whole
        rw [whole, given] at content
        exact content
      · apply (dropStream_of_diskWriter there).trans
        rw [later.drop_of_closed served.closed]
        rfl

/-! ## Creating a file -/

/-- What a client writes with on its device. -/
theorem defaults_run (attached : storage.Attached client device directory) : ∃ replication blockSize,
    defaultReplication client storage = .ok replication storage ∧
    defaultBlockSize client storage = .ok blockSize storage ∧
    ∀ number cluster, device = .cluster number → storage.clusters[number]? = some cluster →
      replication = cluster.defaultReplication ∧ blockSize = cluster.defaultBlockSize := by
  cases attached with
  | @cluster number _ cluster found present isTree =>
    refine ⟨cluster.defaultReplication, cluster.defaultBlockSize, ?_, ?_, ?_⟩
    · rw [defaultReplication, bind_run, clientAt_of_some found]
      simp only [bind_run, clusterAt_of_some present]
      rfl
    · rw [defaultBlockSize, bind_run, clientAt_of_some found]
      simp only [scripted, Script.reaction?, Script.none, List.lookup_nil, bind_run, clusterAt_of_some present]
      rfl
    · intro own other same there
      obtain rfl := Device.cluster.inj same
      obtain rfl := Option.some.inj (present.symm.trans there)
      exact ⟨rfl, rfl⟩
  | @disk conf _ found regular =>
    refine ⟨1, conf.localBlockSize, ?_, ?_, by simp⟩
    · rw [defaultReplication, bind_run, clientAt_of_some found]
      rfl
    · rw [defaultBlockSize, bind_run, clientAt_of_some found]
      rfl

/-- An empty file of a cluster under construction, in directories made for it where they were missing. -/
private structure Started (cluster : Cluster) (location : Location) (options : CreateOptions) (node : FileNode)
    (after : Cluster) : Prop where
  conf : after.conf = cluster.conf
  isTree : after.tree.IsTree
  file : after.tree.get? location = some (.file node)
  bytes : node.bytes = []
  leased : node.underConstruction = true
  replication : node.replication = cluster.conf.replicationOr options.replication
  blockSize : node.blockSize = cluster.conf.blockSizeOr options.blockSize
  look : ∀ query, after.tree.look query =
    if query = location then some (.file []) else filled cluster.tree.look location.dropLast query
  settled : ∀ {query}, query ≠ location → cluster.Settled query → after.Settled query

private theorem startFile_started {cluster : Cluster} (isTree : cluster.tree.IsTree) (proper : location.Proper)
    (now : Int) (options : CreateOptions) :
    (∃ exception, cluster.startFile now location options = (.error exception, cluster)) ∨
    ∃ node after, cluster.startFile now location options = (.ok (), after) ∧
      Started cluster location options node after := by
  have grown := Cluster.startFile_isTree isTree proper now options
  rcases Cluster.startFile_cases isTree now location options with
    ⟨exception, ran, -⟩ | ⟨-, -, -, made, ran, shape⟩
  · exact .inl ⟨exception, ran⟩
  · rw [ran] at grown
    let node : FileNode :=
      ⟨[], cluster.conf.replicationOr options.replication, cluster.conf.blockSizeOr options.blockSize, now, true⟩
    have file : SortedMap.get? (SortedMap.insert made location (.file node)) location = some (.file node) := by
      rw [SortedMap.get?_insert, if_pos rfl]
    refine .inr ⟨node, _, ran, rfl, grown, file, rfl, rfl, rfl, rfl, fun query => ?_,
      fun {query} apart settled => ?_⟩
    · rw [Namespace.look_insert, Namespace.look_fill shape]
      rfl
    · intro node found
      rw [SortedMap.get?_insert, if_neg apart] at found
      have settledMade : Cluster.Settled { cluster with tree := made } query := settled.fill rfl shape
      exact settledMade node found

/-- A stream writes a new file, which stands in directories made for it where they were missing. -/
structure Opened (device : Device) (place : Location) (before : Storage) (stream : Nat) (after : Storage) : Prop
    extends Evolved device (some place) before after where
  writable : Writable after stream device place []
  look : ∀ query, after.look device query =
    if query = place then some (.file []) else filled (before.look device) place.dropLast query
  numbers : ∀ {query number}, before.disk.tree.get? query = some (.file number) →
    after.disk.tree.get? query = some (.file number)
  others : ∀ other < before.streams.length, after.streams[other]? = before.streams[other]?

private theorem Started.opened {cluster changed : Cluster} {options : CreateOptions} {node : FileNode}
    (started : Started cluster place options node changed)
    (present : storage.clusters[number]? = some cluster)
    (replication : options.replication = cluster.defaultReplication)
    (blockSize : options.blockSize = cluster.defaultBlockSize) (writer : ClusterWriter)
    (atPlace : writer.location = place) (nothing : writer.pending = []) (isOpen : writer.closed = false) :
    Opened (.cluster number) place storage storage.streams.length
      { storage.withCluster number changed with
        streams := storage.streams ++ [⟨.clusterWriter number writer, .none⟩] } := by
  subst atPlace
  have bound : number < storage.clusters.length := (List.getElem?_eq_some_iff.mp present).1
  have sameReplication : node.replication = changed.defaultReplication := by
    rw [started.replication, replication]
    exact (ite_self _).trans (congrArg Configuration.replication started.conf.symm)
  have sameBlockSize : node.blockSize = changed.defaultBlockSize := by
    rw [started.blockSize, blockSize]
    exact (ite_self _).trans (congrArg Configuration.blockSize started.conf.symm)
  refine ⟨.of_cluster present changed started.conf (fun _ => started.isTree)
    (fun query notDraft settled => ?_) _, ?_, fun query => ?_, id, fun other => List.getElem?_append_left⟩
  · exact started.settled (fun same => notDraft (congrArg some same)) settled
  · apply Writable.cluster List.getElem?_concat_length isOpen (List.getElem?_set_self bound) started.file
      started.leased sameReplication sameBlockSize
    rw [started.bytes, nothing]
    rfl
  · rw [look_withCluster present, look_of_cluster present]
    exact started.look query

private theorem opened_of_disk {middle disk : Disk} (filled : storage.disk.Filled place.dropLast middle)
    (created : middle.Created place number disk) (path : Path) (capacity : Nat) (transfers : List Transfer) :
    Opened .disk place storage storage.streams.length
      { storage with
        disk, streams := storage.streams ++
          [⟨.diskWriter { DiskWriter.ofFile number path capacity with transfers }, .none⟩] } := by
  have there : disk.tree.get? place = some (.file number) := created.named.mpr rfl
  have empty : disk.fileData number = [] := by
    have seen := created.look place
    rw [if_pos rfl] at seen
    obtain ⟨other, found, data⟩ := Disk.look_eq_file_iff.mp seen
    obtain rfl : number = other := by simpa [there] using found
    exact data
  refine ⟨.of_disk (fun _ => created.regular) _, ?_, fun query => ?_,
    fun found => created.numbers (filled.numbers found), fun other => List.getElem?_append_left⟩
  · apply Writable.disk List.getElem?_concat_length rfl fun _ => created.named
    · exact ⟨by rw [DiskWriter.ofFile, empty]; rfl, created.regular.allotted there⟩
    · rw [DiskWriter.ofFile, empty]
      rfl
  · apply (created.look query).trans
    rw [filled.look]
    rfl

theorem createWriter_ends (attached : storage.Attached client device directory)
    (path : Path) (options : CreateOptions)
    (defaults : ∀ number cluster, device = .cluster number → storage.clusters[number]? = some cluster →
      options.replication = cluster.defaultReplication ∧ options.blockSize = cluster.defaultBlockSize)
    (free : storage.look device (directory.resolve path) = none) :
    Ends (createWriter client path options storage) (Opened device (directory.resolve path) storage) := by
  have proper := Location.proper_resolve attached.proper path
  cases attached with
  | @cluster number _ cluster found present isTree =>
    obtain ⟨replication, blockSize⟩ := defaults number cluster rfl present
    rw [createWriter_of_cluster found present, ClusterWriter.create]
    rcases startFile_started isTree proper storage.seconds options with
      ⟨exception, ran⟩ | ⟨node, changed, ran, started⟩
    · rw [ran]
      exact .raise exception
    · rw [ran]
      exact started.opened present replication blockSize _ rfl rfl rfl
  | disk found regular =>
    rw [createWriter_of_disk found]
    split
    · next writer disk done =>
      obtain ⟨middle, number, filled, created, rfl⟩ :=
        LocalDisk.createWriter_ok regular proper free done
      split
      · exact show Failure.crashed _ ≠ .endless by simp
      · exact opened_of_disk filled created ..
    · exact .raise _

end FileGateway.Storage
