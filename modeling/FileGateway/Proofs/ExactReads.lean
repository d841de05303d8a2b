import FileGateway.Proofs.BlockLayout
import FileGateway.Proofs.Storage.Channels
import FileGateway.Proofs.Storage.Sparing
import FileGateway.Storage.Whole

/-! # Reads are exact

A reader on a cluster keeps a position and looks its file up at every call, so the file may go on between two reads.
A read ends where its buffer, the block or the file ends, but it gives nothing only at the end of the file. While
nobody takes the file away, what a reader was given is a run of the contents from where it started, and all of them
once it has read on to the end.
-/

namespace FileGateway

/-- The bytes left in the block at a position, where blocks begin at the multiples of their size. -/
def FileNode.leftInBlock (node : FileNode) (position : Nat) : Nat :=
  min (max node.blockSize.toNat 1 - position % max node.blockSize.toNat 1) (node.size - position)

namespace Block.Canonical

variable {node : FileNode}

theorem remaining_blocks (canonical : Canonical node.blockBytes node.blocks) (position : Nat) :
    remaining node.blocks position = node.leftInBlock position := by
  rw [canonical.remaining_eq, ← FileNode.bytes_eq, FileNode.length_bytes]
  rfl

/-- A read gives the bytes at its position, to the end of the block at most. -/
theorem readFrom_blocks (canonical : Canonical node.blockBytes node.blocks) (position count : Nat) :
    (readFrom node.blocks position count).length = min count (node.leftInBlock position) ∧
      readFrom node.blocks position count <+: node.bytes.drop position := by
  refine ⟨by rw [length_readFrom, canonical.remaining_blocks], ?_⟩
  have fromPosition : _ <+: (node.bytes.drop position).take count := readFrom_prefix node.blocks position count
  exact fromPosition.trans (List.take_prefix ..)

end Block.Canonical

theorem Cluster.requireFile_of_file {cluster : Cluster} {location : Location} {node : FileNode}
    (isFile : cluster.tree.file? location = some node) : cluster.requireFile location = .ok node := by
  rw [requireFile, Namespace.file?_eq_some_iff.mp isFile]

namespace Storage

variable {storage : Storage} {stream number : Nat} {reader : ClusterReader} {cluster : Cluster} {node : FileNode}

/-! ## Calls on a reader -/

section Reader

variable (found : storage.streams[stream]? = some ⟨.clusterReader number reader, .none⟩)
include found

theorem position_of_clusterReader : position stream storage = .ok reader.position storage := by
  rw [position, bind_run, streamAt_of_some found]
  rfl

variable (present : storage.clusters[number]? = some cluster)
  (isFile : cluster.tree.file? reader.location = some node)
include present isFile

theorem available_of_clusterReader :
    available stream storage = .ok (Block.remaining node.blocks reader.position) storage := by
  rw [available, bind_run, streamAt_of_some found]
  simp only [scripted, Script.reaction?, Script.none, List.lookup_nil, askCluster_of_some present,
    ClusterReader.available, ClusterReader.requireNode, isFile]
  rfl

theorem readAt_of_clusterReader (place count : Nat) : readAt stream place count storage =
    .ok (.ofData (Block.readFrom node.blocks place count)) storage := by
  rw [readAt, bind_run, streamAt_of_some found]
  simp only [scripted, Script.reaction?, Script.none, List.lookup_nil, bind_run, askCluster_of_some present,
    ClusterReader.readAt, Cluster.requireFile_of_file isFile]
  rfl

theorem read_of_clusterReader (count : Nat) :
    let data := Block.readFrom node.blocks reader.position (min count reader.limit)
    read stream count storage = .ok (.ofData data) (storage.withChannel stream
      (.clusterReader number { reader with position := reader.position + data.length })) := by
  rw [read, bind_run, streamAt_of_some found]
  simp only [scripted, Script.reaction?, Script.none, List.lookup_nil, bind_run, clusterAt_of_some present,
    ClusterReader.read, ClusterReader.readAt, Cluster.requireFile_of_file isFile]
  rfl

theorem seek_of_clusterReader (target : Nat) : seek stream target storage =
    if node.size < target then .error (.raised (.seekPastEnd reader.location.toPath target)) storage
    else .ok () (storage.withChannel stream (.clusterReader number { reader with position := target })) := by
  rw [seek, bind_run, streamAt_of_some found]
  simp only [scripted, Script.reaction?, Script.none, List.lookup_nil, bind_run, clusterAt_of_some present,
    ClusterReader.seek, ClusterReader.requireNode, isFile]
  by_cases past : node.size < target
  · simp only [past, if_true]
    exact congrArg (EStateM.Result.error _) (withChannel_of_same found)
  · simp only [past, if_false]
    rfl

end Reader

/-! ## Reading on while the file goes on -/

/-- What a request gives to the reader that a stream is. -/
def delivered (stream : Nat) (storage : Storage) : Request → Bytes
  | .read other count =>
    if other = stream then
      match read stream count storage with
      | .ok result _ => result.data
      | .error _ _ => []
    else []
  | _ => []

/-- All that a reader is given in a run. -/
def received (stream : Nat) : Storage → List Request → Bytes
  | _, [] => []
  | storage, request :: rest => delivered stream storage request ++ received stream (storage.after request) rest

/-- A stream reads a file that is there. -/
structure Reading (storage : Storage) (stream number : Nat) (reader : ClusterReader) (node : FileNode) : Prop where
  channel : storage.streams[stream]? = some ⟨.clusterReader number reader, .none⟩
  file : ∃ cluster, storage.clusters[number]? = some cluster ∧ cluster.tree.file? reader.location = some node

theorem scene_eq_some_iff {place : Location} {view : FileView} :
    (storage.scene number).files place = some view ↔ ∃ cluster node, storage.clusters[number]? = some cluster ∧
      cluster.tree.file? place = some node ∧ node.view = view := by
  simp only [scene, Option.bind_eq_some_iff, Namespace.view, Option.map_eq_some_iff, exists_and_left]

/-- The log of a run goes on with the log of what follows. -/
theorem log_append (number : Nat) (storage : Storage) (before later : List Request) :
    log number storage (before ++ later) = log number storage before ++ log number (storage.run before) later := by
  induction before generalizing storage with
  | nil => rfl
  | cons request rest ih => rw [List.cons_append, log, log, ih, List.append_assoc]; rfl

variable {request : Request} {more : List Request}

/-- A read gives a run of the contents from the position on and moves the position behind it; nothing else moves the
position, and the file only goes on. -/
theorem Sound.reading_after (sound : storage.Sound) (reading : storage.Reading stream number reader node)
    (untouched : ∀ event ∈ storage.events number request, ¬event.Touches reader.location)
    (noSeek : ∀ position, request ≠ .seek stream position) :
    let given := delivered stream storage request
    given <+: node.bytes.drop reader.position ∧ ∃ later, node.bytes <+: later.bytes ∧
      (storage.after request).Reading stream number { reader with position := reader.position + given.length }
        later := by
  intro given
  obtain ⟨cluster, present, isFile⟩ := reading.file
  obtain ⟨view, seen, longer⟩ := (sound.step request number).grows untouched
    (scene_eq_some_iff.mpr ⟨cluster, node, present, isFile, rfl⟩)
  obtain ⟨grown, later, stillPresent, stillFile, rfl⟩ := scene_eq_some_iff.mp seen
  by_cases isRead : ∃ count, request = .read stream count
  · obtain ⟨count, rfl⟩ := isRead
    have ran := read_of_clusterReader reading.channel present isFile count
    have run : given = Block.readFrom node.blocks reader.position (min count reader.limit) := by
      simp only [given, delivered, if_true, ran]
      rfl
    have after : storage.after (.read stream count) = final (read stream count storage) := final_discard _
    have fromPosition : given <+: (node.bytes.drop reader.position).take (min count reader.limit) := by
      rw [run]
      exact Block.readFrom_prefix ..
    refine ⟨fromPosition.trans (List.take_prefix ..), later, longer, ?_, grown, stillPresent, stillFile⟩
    rw [run, after, ran]
    exact withChannel_self reading.channel
  · simp only [not_exists] at isRead
    have nothing : given = [] := by
      cases request with
      | read other count => exact if_neg fun same => isRead count (by rw [same])
      | _ => rfl
    rw [nothing]
    exact ⟨List.nil_prefix, later, longer, streams_after reading.channel isRead noSeek, grown, stillPresent, stillFile⟩

/-- While nobody touches the file, what a reader was given is a run of the contents from where it started. -/
theorem Sound.reading_run (sound : storage.Sound) (reading : storage.Reading stream number reader node)
    (untouched : ∀ event ∈ log number storage more, ¬event.Touches reader.location)
    (noSeek : ∀ position, .seek stream position ∉ more) :
    let given := received stream storage more
    ∃ later, node.bytes <+: later.bytes ∧ given <+: later.bytes.drop reader.position ∧
      (storage.run more).Reading stream number { reader with position := reader.position + given.length } later := by
  induction more generalizing storage reader node with
  | nil => exact ⟨node, List.prefix_rfl, List.nil_prefix, reading⟩
  | cons request rest ih =>
    rw [log] at untouched
    obtain ⟨first, middle, longer, onward⟩ := sound.reading_after reading
      (fun event member => untouched event (List.mem_append_left _ member))
      fun position same => noSeek position (same ▸ List.mem_cons_self ..)
    obtain ⟨last, longest, second, stillReading⟩ := ih (sound.serve request) onward
      (fun event member => untouched event (List.mem_append_right _ member))
      fun position member => noSeek position (List.mem_cons_of_mem _ member)
    refine ⟨last, longer.trans longest, ?_, ?_⟩
    · -- what the request gave lies between the old position and the new one
      have whole := first.trans ((longer.trans longest).drop reader.position)
      rw [← List.drop_drop] at second
      rw [received, ← List.prefix_iff_eq_append.mp whole]
      exact (List.prefix_append_right_inj _).mpr second
    · rw [received, List.length_append, ← Nat.add_assoc]
      exact stillReading

/-- Reading on until nothing comes gives all that is left. -/
theorem readRest_ok {place : Location} {rest : Bytes} {chunk steps : Nat}
    (readable : Readable storage stream (.cluster number) place rest) (positive : 0 < chunk)
    (enough : rest.length < steps) :
    ∃ reads after, readRest stream chunk steps storage = .ok (rest, reads) after := by
  induction steps generalizing storage rest with
  | zero => omega
  | succ steps ih =>
    obtain ⟨_, _, ran, data, later, channel, rfl, rfl, rfl, -, atEnd, onward⟩ := read_ok readable positive
    rw [List.length_append] at enough
    rw [readRest, bind_run, ran]
    by_cases nothing : data = []
    · rw [atEnd nothing, nothing]
      exact ⟨1, _, rfl⟩
    · have given := List.length_pos_iff.mpr nothing
      obtain ⟨reads, after, goesOn⟩ := ih onward (by omega)
      have going : ¬(ReadResult.ofData data).count = 0 := given.ne'
      simp only [going, if_false]
      rw [bind_run, goesOn]
      exact ⟨reads + 1, after, rfl⟩

theorem Reading.readable (reading : storage.Reading stream number reader node) :
    Readable storage stream (.cluster number) reader.location (node.bytes.drop reader.position) := by
  obtain ⟨cluster, present, isFile⟩ := reading.file
  have seen := Namespace.look_eq_file_iff.mpr ⟨node, Namespace.file?_eq_some_iff.mp isFile, rfl⟩
  exact .cluster reading.channel (look_of_cluster present ▸ seen) rfl

/-- After every run, of a reader on a cluster whose file is there: a read gives as much as was asked for, as the buffer
holds and as is left in the block, which are the bytes at its position, and moves the position behind them; it gives
nothing only if nothing was asked for or nothing is left. A read at some place gives what was asked for and is left in
the block there, and moves nothing. The reader can go to every place up to the end, and to no other. However requests
of all clients go on from there, as long as none takes the file away or moves the reader: every read succeeds, all
that they give together is a run of the later contents from the position on, and who then reads until nothing comes
has all of it. -/
theorem reads_are_exact (now : Int) (disk : Disk) (requests : List Request) (stream number : Nat)
    (reader : ClusterReader) (cluster : Cluster) (node : FileNode) :
    let storage := (new now disk).run requests
    let standing (position : Nat) := storage.withChannel stream (.clusterReader number { reader with position })
    storage.streams[stream]? = some ⟨.clusterReader number reader, .none⟩ →
    storage.clusters[number]? = some cluster → cluster.tree.file? reader.location = some node →
    position stream storage = .ok reader.position storage ∧
    available stream storage = .ok (node.leftInBlock reader.position) storage ∧
    (∀ count, ∃ data, read stream count storage = .ok (.ofData data) (standing (reader.position + data.length)) ∧
      position stream (standing (reader.position + data.length)) =
        .ok (reader.position + data.length) (standing (reader.position + data.length)) ∧
      data.length = min count (min (max reader.bufferSize.toNat 1) (node.leftInBlock reader.position)) ∧
      data <+: node.bytes.drop reader.position ∧
      (data.length = 0 ↔ count = 0 ∨ node.size ≤ reader.position)) ∧
    (∀ place count, ∃ data, readAt stream place count storage = .ok (.ofData data) storage ∧
      data.length = min count (node.leftInBlock place) ∧ data <+: node.bytes.drop place) ∧
    (∀ target, if target ≤ node.size then seek stream target storage = .ok () (standing target) ∧
        position stream (standing target) = .ok target (standing target)
      else ∃ exception, seek stream target storage = .error (.raised exception) storage) ∧
    ∀ more : List Request, (∀ event ∈ log number storage more, ¬event.Touches reader.location) →
      (∀ position, .seek stream position ∉ more) →
      (∀ before count later, more = before ++ .read stream count :: later →
        ∃ data after, read stream count (storage.run before) = .ok (.ofData data) after) ∧
      ∃ last later, (storage.run more).clusters[number]? = some last ∧
        last.tree.file? reader.location = some later ∧ node.bytes <+: later.bytes ∧
        received stream storage more <+: later.bytes.drop reader.position ∧
        ∀ chunk steps, 0 < chunk → later.size < steps → ∃ rest reads after,
          readRest stream chunk steps (storage.run more) = .ok (rest, reads) after ∧
            received stream storage more ++ rest = later.bytes.drop reader.position := by
  intro storage standing channel present isFile
  have sound : storage.Sound := (sound_new now disk).run requests
  have canonical := laidOut_run now disk requests present reader.location node isFile
  have reading : storage.Reading stream number reader node := ⟨channel, cluster, present, isFile⟩
  have stands (position : Nat) :
      (standing position).streams[stream]? = some ⟨.clusterReader number { reader with position }, .none⟩ :=
    withChannel_self channel
  refine ⟨position_of_clusterReader channel, ?_, fun count => ?_, fun place count => ?_, fun target => ?_,
    fun more untouched noSeek => ⟨?_, ?_⟩⟩
  · rw [available_of_clusterReader channel present isFile, canonical.remaining_blocks]
  · obtain ⟨length, run⟩ := canonical.readFrom_blocks reader.position (min count reader.limit)
    refine ⟨_, read_of_clusterReader channel present isFile count, position_of_clusterReader (stands _), ?_, run, ?_⟩
    · rw [length, ClusterReader.limit, Nat.min_assoc]
    · have one : 0 < reader.limit := by rw [ClusterReader.limit]; omega
      rw [List.length_eq_zero_iff, Block.readFrom_eq_nil_iff, ← FileNode.bytes_eq, FileNode.length_bytes,
        Nat.min_eq_zero_iff]
      omega
  · exact ⟨_, readAt_of_clusterReader channel present isFile place count, canonical.readFrom_blocks place count⟩
  · have ran := seek_of_clusterReader channel present isFile target
    split
    · next within =>
      rw [if_neg (by omega)] at ran
      exact ⟨ran, position_of_clusterReader (stands target)⟩
    · next past =>
      rw [if_pos (by omega)] at ran
      exact ⟨_, ran⟩
  · rintro before count later rfl
    rw [log_append] at untouched
    obtain ⟨middle, -, -, goesOn⟩ := sound.reading_run reading
      (fun event member => untouched event (List.mem_append_left _ member))
      fun position member => noSeek position (List.mem_append_left _ member)
    obtain ⟨_, stillPresent, stillFile⟩ := goesOn.file
    exact ⟨_, _, read_of_clusterReader goesOn.channel stillPresent stillFile count⟩
  · obtain ⟨later, longer, given, goesOn⟩ := sound.reading_run reading untouched noSeek
    obtain ⟨last, stillPresent, stillFile⟩ := goesOn.file
    refine ⟨last, later, stillPresent, stillFile, longer, given, fun chunk steps positive enough => ?_⟩
    have short : (later.bytes.drop (reader.position + (received stream storage more).length)).length < steps := by
      rw [List.length_drop, FileNode.length_bytes]
      omega
    obtain ⟨reads, after, ran⟩ := readRest_ok goesOn.readable positive short
    refine ⟨_, reads, after, ran, ?_⟩
    rw [← List.drop_drop]
    exact List.prefix_iff_eq_append.mp given

/-- A file of three bytes in blocks of two bytes, still being written, and a reader that has no buffer. -/
def following : List Request :=
  [.startCluster "nn:1" { (default : Configuration) with bufferSize := 0 } ["dn"] 1, .joinCluster 0,
    .createFile 0 ⟨[47, 102]⟩ ⟨false, 1, 1, 2⟩, .call 0 (.write [1, 2, 3]), .openFile 0 ⟨[47, 102]⟩ 0]

/-- The reader reads one byte before the file goes on and one after, and then the rest. -/
theorem reads_are_exact_of_following : let storage := (new 0 (.new 0 .root 0 0)).run following
    let more : List Request := [.read 1 5, .call 0 (.write [4]), .read 1 5, .read 1 0]
    available 1 storage = .ok 2 storage ∧
    received 1 storage more = [1, 2] ∧
    ∃ reads after, readRest 1 9 5 (storage.run more) = .ok ([3, 4], reads) after := by
  intro storage more
  obtain ⟨-, left, -, -, -, goesOn⟩ := reads_are_exact 0 (.new 0 .root 0 0) following 1 0
    ⟨[[102]], 0, 0⟩ _ _ rfl rfl rfl
  have untouched : ∀ event ∈ log 0 storage more, ¬event.Touches [[102]] := by
    have only : log 0 storage more = [.called 0 (.write [4]) true] := rfl
    simp [only, Event.Touches, Event.vacated?]
  obtain ⟨-, last, later, present, isFile, -, -, onward⟩ := goesOn more untouched (by simp [more])
  have whole : later.bytes = [1, 2, 3, 4] := by
    obtain rfl := Option.some.inj (present.symm.trans (rfl : _ = some _))
    exact congrArg (·.elim [] FileNode.bytes) isFile.symm
  obtain ⟨rest, reads, after, ran, all⟩ := onward 9 5 (by decide) (by rw [← FileNode.length_bytes, whole]; decide)
  have given : received 1 ((new 0 (.new 0 .root 0 0)).run following) more = [1, 2] := rfl
  obtain rfl : rest = [3, 4] := by simpa [whole, given] using all
  exact ⟨left, given, reads, after, ran⟩

end Storage

end FileGateway
