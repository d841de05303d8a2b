import FileGateway.Proofs.Disk.Writers
import FileGateway.Storage.Copy

/-! # Running actions

Each action of an unscripted client or stream comes down to what its backend does, with the storage
around the backend as it was. `final` is the storage after an action, whether it answers or fails.
-/

namespace FileGateway.Storage

variable {α β : Type} {storage : Storage} {client number : Nat} {path source target : Path}
  {directory : Location} {conf : Configuration} {cluster : Cluster}

/-- The storage after an action. -/
def final : EStateM.Result Failure Storage α → Storage
  | .ok _ after | .error _ after => after

def withCluster (storage : Storage) (number : Nat) (cluster : Cluster) : Storage :=
  { storage with clusters := storage.clusters.set number cluster }

/-- A storage after the channel of a stream was changed. -/
def withChannel (storage : Storage) (stream : Nat) (channel : Channel) : Storage :=
  { storage with streams := storage.streams.modify stream ({ · with channel }) }

/-! ## Parts of actions -/

theorem bind_run (action : Action α) (next : α → Action β) :
    (action >>= next) storage =
      match action storage with
      | .ok value after => next value after
      | .error failure after => .error failure after := by
  simp only [bind, EStateM.bind]
  rcases action storage with ⟨_, _⟩ | ⟨_, _⟩ <;> rfl

@[simp] theorem final_answerOf (outcome : Except Exception α) :
    final (answerOf outcome storage) = storage := by
  cases outcome <;> rfl

/-- Dropping an answer changes no storage. -/
theorem final_discard (action : Action α) :
    final ((do let _ ← action : Action Unit) storage) = final (action storage) := by
  rw [bind_run]
  rcases action storage with _ | _ <;> rfl

theorem clientAt_of_some {found : Client} (present : storage.clients[client]? = some found) :
    clientAt client storage = .ok found storage := by
  rw [clientAt, bind_run]
  simp only [get, getThe, MonadStateOf.get, EStateM.get, present]
  rfl

theorem clientAt_of_none (absent : storage.clients[client]? = none) :
    clientAt client storage = .error .unknown storage := by
  rw [clientAt, bind_run]
  simp only [get, getThe, MonadStateOf.get, EStateM.get, absent]
  rfl

theorem streamAt_of_some {stream : Nat} {found : Stream} (present : storage.streams[stream]? = some found) :
    streamAt stream storage = .ok found storage := by
  rw [streamAt, bind_run]
  simp only [get, getThe, MonadStateOf.get, EStateM.get, present]
  rfl

theorem streamAt_of_none {stream : Nat} (absent : storage.streams[stream]? = none) :
    streamAt stream storage = .error .unknown storage := by
  rw [streamAt, bind_run]
  simp only [get, getThe, MonadStateOf.get, EStateM.get, absent]
  rfl

theorem clusterAt_of_some (present : storage.clusters[number]? = some cluster) :
    clusterAt number storage = .ok cluster storage := by
  rw [clusterAt, bind_run]
  simp only [get, getThe, MonadStateOf.get, EStateM.get, present]
  rfl

theorem clusterAt_of_none (absent : storage.clusters[number]? = none) :
    clusterAt number storage = .error .unknown storage := by
  rw [clusterAt, bind_run]
  simp only [get, getThe, MonadStateOf.get, EStateM.get, absent]
  rfl

theorem askCluster_of_some (present : storage.clusters[number]? = some cluster)
    (question : Cluster → Except Exception α) :
    askCluster number question storage = answerOf (question cluster) storage := by
  rw [askCluster, bind_run, clusterAt_of_some present]

theorem onCluster_of_some (present : storage.clusters[number]? = some cluster)
    (change : Cluster → Except Exception α × Cluster) :
    onCluster number change storage =
      answerOf (change cluster).1 (storage.withCluster number (change cluster).2) := by
  rw [onCluster, bind_run, clusterAt_of_some present]
  rfl

theorem onCluster_of_none (absent : storage.clusters[number]? = none)
    (change : Cluster → Except Exception α × Cluster) :
    onCluster number change storage = .error .unknown storage := by
  rw [onCluster, bind_run, clusterAt_of_none absent]

/-! ## Parts that answer -/

section Answers

variable {after : Storage}

theorem ok_of_clientAt {found : Client} (ran : clientAt client storage = .ok found after) :
    storage.clients[client]? = some found ∧ after = storage := by
  cases present : storage.clients[client]? with
  | none =>
    rw [clientAt_of_none present] at ran
    cases ran
  | some held =>
    rw [clientAt_of_some present] at ran
    cases ran
    exact ⟨rfl, rfl⟩

theorem ok_of_answerOf {outcome : Except Exception α} {value : α}
    (ran : answerOf outcome storage = .ok value after) : outcome = .ok value ∧ storage = after := by
  cases outcome with
  | error exception => contradiction
  | ok answer =>
    cases ran
    exact ⟨rfl, rfl⟩

theorem ok_of_askCluster {question : Cluster → Except Exception α} {value : α}
    (ran : askCluster number question storage = .ok value after) :
    ∃ cluster, storage.clusters[number]? = some cluster ∧ question cluster = .ok value := by
  cases present : storage.clusters[number]? with
  | none =>
    rw [askCluster, bind_run, clusterAt_of_none present] at ran
    cases ran
  | some cluster =>
    rw [askCluster_of_some present] at ran
    exact ⟨cluster, rfl, (ok_of_answerOf ran).1⟩

/-- An action that a script may stand in for answers as the script says, or by itself. -/
theorem ok_of_scripted {script : Script} {call : Call} {read : Answer → Option α} {act : Action α} {value : α}
    (ran : scripted script call read act storage = .ok value after) :
    (∃ answer, script.reaction? call = some (.answer answer) ∧ read answer = some value) ∨
      act storage = .ok value after := by
  rw [scripted] at ran
  rcases reacts : script.reaction? call with _ | exception | words | answer <;> simp only [reacts] at ran
  · exact .inr ran
  · cases ran
  · cases ran
  · cases reads : read answer with
    | none =>
      simp only [reads] at ran
      exact .inr ran
    | some given =>
      simp only [reads] at ran
      cases ran
      exact .inl ⟨answer, rfl, reads⟩

end Answers

/-! ## Clients of clusters -/

section Cluster

variable (found : storage.clients[client]? = some ⟨.cluster number, directory, .none⟩)

include found

theorem createDirectories_of_cluster : createDirectories client path storage =
    onCluster number (·.createDirectories storage.seconds (directory.resolve path)) storage := by
  rw [createDirectories, bind_run, clientAt_of_some found]
  rfl

theorem delete_of_cluster : delete client path storage =
    onCluster number (·.delete (directory.resolve path)) storage := by
  rw [delete, bind_run, clientAt_of_some found]
  rfl

theorem rename_of_cluster : rename client source target storage =
    onCluster number (·.rename (directory.resolve source) (directory.resolve target)) storage := by
  rw [rename, bind_run, clientAt_of_some found]
  rfl

theorem setReplication_of_cluster (replication : UInt16) : setReplication client path replication storage =
    onCluster number (·.setReplication (directory.resolve path) replication) storage := by
  rw [setReplication, bind_run, clientAt_of_some found]
  rfl

theorem lock_of_cluster (shared : Bool) : lock client path shared storage =
    onCluster number (·.lock (directory.resolve path) shared) storage := by
  rw [lock, bind_run, clientAt_of_some found]
  rfl

theorem release_of_cluster : release client path storage =
    onCluster number (·.release (directory.resolve path)) storage := by
  rw [release, bind_run, clientAt_of_some found]
  rfl

theorem status_of_cluster (present : storage.clusters[number]? = some cluster) :
    status client path storage = answerOf (cluster.status (directory.resolve path)) storage := by
  rw [status, bind_run, clientAt_of_some found]
  exact askCluster_of_some present _

theorem list_of_cluster (present : storage.clusters[number]? = some cluster) :
    list client path storage = answerOf (cluster.list (directory.resolve path)) storage := by
  rw [list, bind_run, clientAt_of_some found]
  exact askCluster_of_some present _

theorem used_of_cluster (present : storage.clusters[number]? = some cluster) :
    used client storage = .ok cluster.used storage := by
  rw [used, bind_run, clientAt_of_some found]
  simp only [scripted, Script.reaction?, Script.none, List.lookup_nil, bind_run, clusterAt_of_some present]
  rfl

theorem openReader_of_cluster (present : storage.clusters[number]? = some cluster) (bufferSize : UInt64) :
    openReader client path bufferSize storage =
      match ClusterReader.open cluster (directory.resolve path) bufferSize with
      | .ok reader => .ok storage.streams.length { storage with
          streams := storage.streams ++ [⟨.clusterReader number reader, .none⟩] }
      | .error exception => .error (.raised exception) storage := by
  rw [openReader, bind_run, clientAt_of_some found]
  simp only [scripted, Script.reaction?, Script.none, List.lookup_nil]
  rw [bind_run, askCluster_of_some present]
  cases ClusterReader.open cluster (directory.resolve path) bufferSize <;> rfl

theorem createWriter_of_cluster (present : storage.clusters[number]? = some cluster)
    (options : CreateOptions) :
    createWriter client path options storage =
      match ClusterWriter.create cluster storage.seconds (directory.resolve path) options with
      | (.ok writer, after) => .ok storage.streams.length { storage.withCluster number after with
          streams := storage.streams ++ [⟨.clusterWriter number writer, .none⟩] }
      | (.error exception, after) => .error (.raised exception) (storage.withCluster number after) := by
  rw [createWriter, bind_run, clientAt_of_some found]
  simp only [scripted, Script.reaction?, Script.none, List.lookup_nil]
  rw [bind_run]
  simp only [get, getThe, MonadStateOf.get, EStateM.get]
  rw [bind_run, onCluster_of_some present]
  rcases ClusterWriter.create cluster storage.seconds (directory.resolve path) options with
    ⟨_ | _, _⟩ <;> rfl

theorem openReader_of_no_cluster (absent : storage.clusters[number]? = none) (bufferSize : UInt64) :
    openReader client path bufferSize storage = .error .unknown storage := by
  rw [openReader, bind_run, clientAt_of_some found]
  simp only [scripted, Script.reaction?, Script.none, List.lookup_nil, askCluster, bind_run, clusterAt_of_none absent]

theorem createWriter_of_no_cluster (absent : storage.clusters[number]? = none) (options : CreateOptions) :
    createWriter client path options storage = .error .unknown storage := by
  rw [createWriter, bind_run, clientAt_of_some found]
  simp only [scripted, Script.reaction?, Script.none, List.lookup_nil, bind_run, get, getThe, MonadStateOf.get,
    EStateM.get, onCluster_of_none absent]

end Cluster

/-! ## Clients of the disk -/

section Disk

variable (found : storage.clients[client]? = some ⟨.disk conf, directory, .none⟩)

include found

theorem status_of_disk : status client path storage =
    answerOf (LocalDisk.status conf storage.disk (directory.resolve path)) storage := by
  rw [status, bind_run, clientAt_of_some found]
  rfl

theorem list_of_disk : list client path storage =
    answerOf (LocalDisk.list conf storage.disk (directory.resolve path)) storage := by
  rw [list, bind_run, clientAt_of_some found]
  rfl

theorem createDirectories_of_disk : createDirectories client path storage =
    answerOf (LocalDisk.createDirectories storage.disk storage.now (directory.resolve path)).1
      { storage with
        disk := (LocalDisk.createDirectories storage.disk storage.now (directory.resolve path)).2 } := by
  rw [createDirectories, bind_run, clientAt_of_some found]
  rfl

theorem delete_of_disk : delete client path storage =
    match LocalDisk.delete storage.disk storage.now (directory.resolve path) with
    | .ok disk => .ok () { storage with disk }
    | .error exception => .error (.raised exception) storage := by
  rw [delete, bind_run, clientAt_of_some found]
  simp only [scripted, Script.reaction?, Script.none, List.lookup_nil]
  rw [bind_run]
  simp only [get, getThe, MonadStateOf.get, EStateM.get]
  rw [bind_run]
  cases LocalDisk.delete storage.disk storage.now (directory.resolve path) <;> rfl

theorem rename_of_disk : rename client source target storage =
    match LocalDisk.rename storage.disk storage.now (directory.resolve source)
      (directory.resolve target) with
    | .ok disk => .ok () { storage with disk }
    | .error exception => .error (.raised exception) storage := by
  rw [rename, bind_run, clientAt_of_some found]
  simp only [scripted, Script.reaction?, Script.none, List.lookup_nil]
  rw [bind_run]
  simp only [get, getThe, MonadStateOf.get, EStateM.get]
  rw [bind_run]
  cases LocalDisk.rename storage.disk storage.now (directory.resolve source) (directory.resolve target) <;>
    rfl

theorem setReplication_of_disk (replication : UInt16) : setReplication client path replication storage =
    answerOf (LocalDisk.setReplication conf storage.disk (directory.resolve path)) storage := by
  rw [setReplication, bind_run, clientAt_of_some found]
  rfl

theorem lock_of_disk (path : Path) (shared : Bool) : ∃ diskLocks,
    final (lock client path shared storage) = { storage with diskLocks } := by
  rw [lock, bind_run, clientAt_of_some found]
  simp only [scripted, Script.reaction?, Script.none, List.lookup_nil]
  rw [bind_run]
  simp only [askDisk, bind_run, get, getThe, MonadStateOf.get, EStateM.get]
  cases LocalDisk.metadata storage.disk (directory.resolve path) with
  | error exception => exact ⟨storage.diskLocks, rfl⟩
  | ok status => exact ⟨_, final_answerOf _⟩

theorem release_of_disk (path : Path) : ∃ diskLocks,
    final (release client path storage) = { storage with diskLocks } := by
  rw [release, bind_run, clientAt_of_some found]
  exact ⟨_, final_answerOf _⟩

theorem openReader_of_disk (bufferSize : UInt64) : openReader client path bufferSize storage =
    match LocalDisk.openReader conf storage.disk (directory.resolve path) bufferSize with
    | .ok reader =>
      if bufferLimit ≤ reader.capacity then .error (.crashed (some "capacity overflow")) storage
      else .ok storage.streams.length { storage with
        streams := storage.streams ++
          [⟨.diskReader { reader with transfers := storage.disk.transfersOf storage.streams.length }, .none⟩] }
    | .error exception => .error (.raised exception) storage := by
  rw [openReader, bind_run, clientAt_of_some found]
  simp only [scripted, Script.reaction?, Script.none, List.lookup_nil]
  rw [bind_run]
  simp only [askDisk, bind_run, get, getThe, MonadStateOf.get, EStateM.get]
  cases LocalDisk.openReader conf storage.disk (directory.resolve path) bufferSize with
  | error exception => rfl
  | ok reader =>
    simp only [answerOf, pure, EStateM.pure, checkBuffer]
    split_ifs <;> rfl

theorem createWriter_of_disk (options : CreateOptions) : createWriter client path options storage =
    match LocalDisk.createWriter conf storage.disk storage.now (directory.resolve path) options with
    | (.ok writer, disk) =>
      if bufferLimit ≤ writer.capacity then
        .error (.crashed (some "capacity overflow")) { storage with disk }
      else .ok storage.streams.length { storage with
        disk
        streams := storage.streams ++
          [⟨.diskWriter { writer with transfers := disk.transfersOf storage.streams.length }, .none⟩] }
    | (.error exception, disk) => .error (.raised exception) { storage with disk } := by
  rw [createWriter, bind_run, clientAt_of_some found]
  simp only [scripted, Script.reaction?, Script.none, List.lookup_nil]
  rw [bind_run]
  simp only [bind_run, get, getThe, MonadStateOf.get, EStateM.get, setDisk, modify, modifyGet,
    MonadStateOf.modifyGet, EStateM.modifyGet]
  rcases LocalDisk.createWriter conf storage.disk storage.now (directory.resolve path) options with
    ⟨_ | writer, disk⟩
  · rfl
  · simp only [answerOf, pure, EStateM.pure, checkBuffer]
    split_ifs <;> rfl

end Disk

/-! ## Writers -/

/-- A call on a stream, without the count of accepted bytes. -/
def call (stream : Nat) : WriterCall → Action Unit
  | .write data => do
    let _ ← write stream data
  | .flush => flush stream
  | .close => closeStream stream

section Stream

variable {stream : Nat}

theorem call_of_none (absent : storage.streams[stream]? = none) (asked : WriterCall) :
    call stream asked storage = .error .unknown storage := by
  cases asked <;>
    simp only [call, write, flush, closeStream, bind_run, streamAt_of_none absent]

theorem call_of_clusterWriter {writer : ClusterWriter}
    (found : storage.streams[stream]? = some ⟨.clusterWriter number writer, .none⟩)
    (present : storage.clusters[number]? = some cluster) (asked : WriterCall) :
    call stream asked storage =
      answerOf (writer.answer cluster storage.seconds asked).1
        { storage.withCluster number (writer.answer cluster storage.seconds asked).2.2 with
          streams := storage.streams.modify stream
            ({ · with channel := .clusterWriter number (writer.answer cluster storage.seconds asked).2.1 }) } := by
  cases asked with
  | write data =>
    rw [call, bind_run, write, bind_run, streamAt_of_some found]
    simp only [scripted, Script.reaction?, Script.none, List.lookup_nil, bind_run, get, getThe,
      MonadStateOf.get, EStateM.get, clusterAt_of_some present, ClusterWriter.answer]
    rcases writer.write cluster storage.seconds data with ⟨_ | _, _, _⟩ <;> rfl
  | flush =>
    rw [call, flush, bind_run, streamAt_of_some found]
    simp only [scripted, Script.reaction?, Script.none, List.lookup_nil, bind_run, get, getThe,
      MonadStateOf.get, EStateM.get, clusterAt_of_some present, ClusterWriter.answer]
    rcases writer.flush cluster storage.seconds with ⟨_ | _, _, _⟩ <;> rfl
  | close =>
    rw [call, closeStream, bind_run, streamAt_of_some found]
    simp only [scripted, Script.reaction?, Script.none, List.lookup_nil, bind_run, get, getThe,
      MonadStateOf.get, EStateM.get, clusterAt_of_some present, ClusterWriter.answer]
    rcases writer.close cluster storage.seconds with ⟨_ | _, _, _⟩ <;> rfl

theorem write_of_clusterWriter {writer : ClusterWriter}
    (found : storage.streams[stream]? = some ⟨.clusterWriter number writer, .none⟩)
    (present : storage.clusters[number]? = some cluster) (data : Bytes) :
    write stream data storage =
      answerOf (writer.write cluster storage.seconds data).1
        { storage.withCluster number (writer.write cluster storage.seconds data).2.2 with
          streams := storage.streams.modify stream
            ({ · with channel := .clusterWriter number (writer.write cluster storage.seconds data).2.1 }) } := by
  rw [write, bind_run, streamAt_of_some found]
  simp only [scripted, Script.reaction?, Script.none, List.lookup_nil, bind_run, get, getThe,
    MonadStateOf.get, EStateM.get, clusterAt_of_some present]
  rcases writer.write cluster storage.seconds data with ⟨_ | _, _, _⟩ <;> rfl

theorem position_of_clusterWriter {writer : ClusterWriter}
    (found : storage.streams[stream]? = some ⟨.clusterWriter number writer, .none⟩) :
    position stream storage = .ok writer.position storage := by
  rw [position, bind_run, streamAt_of_some found]
  rfl

theorem read_of_diskReader {reader : DiskReader}
    (found : storage.streams[stream]? = some ⟨.diskReader reader, .none⟩) (count : Nat) :
    read stream count storage = answerOf ((reader.read storage.disk count).1.map .ofData)
      (storage.withChannel stream (.diskReader (reader.read storage.disk count).2)) := by
  rw [read, bind_run, streamAt_of_some found]
  simp only [scripted, Script.reaction?, Script.none, List.lookup_nil, bind_run, get, getThe,
    MonadStateOf.get, EStateM.get]
  rcases reader.read storage.disk count with ⟨_ | _, _⟩ <;> rfl

theorem write_of_diskWriter {writer : DiskWriter}
    (found : storage.streams[stream]? = some ⟨.diskWriter writer, .none⟩) (data : Bytes) :
    write stream data storage = answerOf (writer.write storage.disk storage.now data).1
      ({ storage with disk := (writer.write storage.disk storage.now data).2.2 }.withChannel stream
        (.diskWriter (writer.write storage.disk storage.now data).2.1)) := by
  rw [write, bind_run, streamAt_of_some found]
  simp only [scripted, Script.reaction?, Script.none, List.lookup_nil, bind_run, get, getThe,
    MonadStateOf.get, EStateM.get]
  rcases writer.write storage.disk storage.now data with ⟨_ | _, _, _⟩ <;> rfl

theorem call_of_diskWriter {writer : DiskWriter}
    (found : storage.streams[stream]? = some ⟨.diskWriter writer, .none⟩) (asked : WriterCall) :
    call stream asked storage = answerOf (writer.answer storage.disk storage.now asked).1
      ({ storage with disk := (writer.answer storage.disk storage.now asked).2.2 }.withChannel stream
        (.diskWriter (writer.answer storage.disk storage.now asked).2.1)) := by
  cases asked with
  | write data =>
    rw [call, bind_run, write_of_diskWriter found, DiskWriter.answer]
    rcases writer.write storage.disk storage.now data with ⟨_ | _, _, _⟩ <;> rfl
  | flush =>
    rw [call, flush, bind_run, streamAt_of_some found]
    simp only [scripted, Script.reaction?, Script.none, List.lookup_nil, bind_run, get, getThe,
      MonadStateOf.get, EStateM.get, DiskWriter.answer]
    rcases writer.flush storage.disk storage.now with ⟨_ | _, _, _⟩ <;> rfl
  | close =>
    rw [call, closeStream, bind_run, streamAt_of_some found]
    simp only [scripted, Script.reaction?, Script.none, List.lookup_nil, bind_run, get, getThe,
      MonadStateOf.get, EStateM.get, DiskWriter.answer]
    rcases writer.close storage.disk storage.now with ⟨_ | _, _, _⟩ <;> rfl

theorem dropStream_of_diskWriter {writer : DiskWriter}
    (found : storage.streams[stream]? = some ⟨.diskWriter writer, .none⟩) :
    dropStream stream storage = .ok ()
      ({ storage with disk := (writer.drop storage.disk storage.now).2 }.withChannel stream
        (.diskWriter (writer.drop storage.disk storage.now).1)) := by
  rw [dropStream, bind_run, streamAt_of_some found]
  rfl

end Stream

end FileGateway.Storage
