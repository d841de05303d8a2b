import FileGateway.Proofs.Disk.Writers
import FileGateway.Proofs.Storage.Channels
import FileGateway.Proofs.Storage.Run
import FileGateway.Proofs.Storage.Sparing

/-! # What requests uphold

A request writes to one file of the disk at most: the one that it creates, or that of the open writer it goes
through. All other files keep their bytes, whatever becomes of their names, and clients and the process stay in
proper places. `Upheld` says so of the storage before and after, and every request upholds it.
-/

namespace FileGateway.Storage

open LocalDisk (created?)

variable {storage before after : Storage} {client stream : Nat} {path : Path} {written : Option Nat}

/-- The file of the disk that a request may write to. -/
def written? (storage : Storage) : Request → Option Nat
  | .createFile client path options =>
    match storage.clients[client]? with
    | some ⟨.disk conf, directory, _⟩ =>
      created? (LocalDisk.createWriter conf storage.disk storage.now (directory.resolve path) options).1
    | _ => none
  | .call stream _ | .drop stream =>
    match storage.streams[stream]? with
    | some ⟨.diskWriter writer, _⟩ => writer.target?
    | _ => none
  | _ => none

/-- The clients and the process are in proper places. -/
structure Placed (storage : Storage) : Prop where
  clients : ∀ client ∈ storage.clients, client.directory.Proper
  process : storage.disk.Stands

/-- The disk goes on, and everybody stays in proper places. -/
structure Upheld (written : Option Nat) (before after : Storage) : Prop where
  disk : Disk.Continued written before.disk after.disk
  placed : before.Placed → after.Placed

namespace Upheld

theorem of_disk (disk : Disk.Continued written before.disk after.disk) (clients : after.clients = before.clients) :
    Upheld written before after :=
  ⟨disk, fun placed => ⟨clients ▸ placed.clients, disk.stands placed.process⟩⟩

theorem of_same (disk : after.disk = before.disk) (clients : after.clients = before.clients) :
    Upheld written before after :=
  of_disk (disk ▸ .refl written before.disk) clients

protected theorem refl (written : Option Nat) (storage : Storage) : Upheld written storage storage :=
  of_same rfl rfl

/-- A client came, or moved to a proper place. -/
theorem of_clients (disk : after.disk = before.disk)
    (clients : before.Placed → ∀ client ∈ after.clients, client ∈ before.clients ∨ client.directory.Proper) :
    Upheld written before after where
  disk := disk ▸ .refl written before.disk
  placed placed := by
    refine ⟨fun client member => ?_, disk ▸ placed.process⟩
    rcases clients placed client member with was | proper
    · exact placed.clients client was
    · exact proper

end Upheld

/-- Whether an action answers or fails, it leaves the disk and all clients. -/
private theorem upheld_of_leaves {α : Type} {action : Action α}
    (leaves : Leaves (fun storage => (storage.disk, storage.clients)) action) :
    Upheld written storage (final (action storage)) := by
  have same := leaves storage
  rw [← final_eq_ended] at same
  exact .of_same (congrArg Prod.fst same) (congrArg Prod.snd same)

private theorem blind : BlindToStreams fun storage => (storage.disk, storage.clients) := fun _ _ => rfl

/-- Asking a cluster to change leaves the disk and all clients. -/
private theorem onCluster_upheld {α : Type} (number : Nat) (change : Cluster → Except Exception α × Cluster) :
    Upheld written storage (final (onCluster number change storage)) := by
  cases present : storage.clusters[number]? with
  | none => rw [onCluster_of_none present]; exact .refl written storage
  | some cluster => rw [onCluster_of_some present, final_answerOf]; exact .of_same rfl rfl

/-! ## Requests to clients -/

private theorem changeDirectory_upheld (plain : storage.Plain) (client : Nat) (path : Path) :
    Upheld none storage (final (changeDirectory client path storage)) := by
  cases present : storage.clients[client]? with
  | none =>
    rw [changeDirectory, bind_run, clientAt_of_none present]
    exact .refl none storage
  | some found =>
    rw [plain.changeDirectory_run present]
    refine .of_clients rfl fun placed other member => ?_
    rcases List.mem_or_eq_of_mem_set member with was | rfl
    · exact .inl was
    · exact .inr (Location.proper_resolve (placed.clients found (List.mem_of_getElem? present)) path)

private theorem createDirectories_upheld (plain : storage.Plain) (client : Nat) (path : Path) :
    Upheld none storage (final (createDirectories client path storage)) := by
  rcases plain.client_cases client with absent | ⟨number, directory, found, -⟩ | ⟨conf, directory, found⟩
  · rw [createDirectories, bind_run, clientAt_of_none absent]
    exact .refl none storage
  · rw [createDirectories_of_cluster found]
    exact onCluster_upheld ..
  · rw [createDirectories_of_disk found, final_answerOf]
    exact .of_disk (LocalDisk.createDirectories_continued ..) rfl

private theorem delete_upheld (plain : storage.Plain) (client : Nat) (path : Path) :
    Upheld none storage (final (delete client path storage)) := by
  rcases plain.client_cases client with absent | ⟨number, directory, found, -⟩ | ⟨conf, directory, found⟩
  · rw [delete, bind_run, clientAt_of_none absent]
    exact .refl none storage
  · rw [delete_of_cluster found]
    exact onCluster_upheld ..
  · rw [delete_of_disk found]
    split
    · next deleted => exact .of_disk (LocalDisk.delete_continued deleted) rfl
    · exact .refl none storage

private theorem rename_upheld (plain : storage.Plain) (client : Nat) (source target : Path) :
    Upheld none storage (final (rename client source target storage)) := by
  rcases plain.client_cases client with absent | ⟨number, directory, found, -⟩ | ⟨conf, directory, found⟩
  · rw [rename, bind_run, clientAt_of_none absent]
    exact .refl none storage
  · rw [rename_of_cluster found]
    exact onCluster_upheld ..
  · rw [rename_of_disk found]
    split
    · next renamed => exact .of_disk (LocalDisk.rename_continued renamed) rfl
    · exact .refl none storage

private theorem createWriter_upheld (plain : storage.Plain) (client : Nat) (path : Path) (options : CreateOptions) :
    Upheld (storage.written? (.createFile client path options)) storage
      (final (createWriter client path options storage)) := by
  rcases plain.client_cases client with absent | ⟨number, directory, found, -⟩ | ⟨conf, directory, found⟩
  · rw [createWriter, bind_run, clientAt_of_none absent]
    exact .refl _ storage
  · cases present : storage.clusters[number]? with
    | none =>
      rw [createWriter_of_no_cluster found present]
      exact .refl _ storage
    | some cluster =>
      rw [createWriter_of_cluster found present]
      split <;> exact .of_same rfl rfl
  · have continued :=
      LocalDisk.createWriter_continued conf storage.disk storage.now (directory.resolve path) options
    rw [createWriter_of_disk found, written?]
    simp only [found]
    rcases ran : LocalDisk.createWriter conf storage.disk storage.now (directory.resolve path) options with
      ⟨exception | writer, disk⟩ <;> rw [ran] at continued
    · exact .of_disk continued rfl
    · simp only
      split <;> exact .of_disk continued rfl

private theorem setReplication_upheld (plain : storage.Plain) (client : Nat) (path : Path) (replication : UInt16) :
    Upheld none storage (final (setReplication client path replication storage)) := by
  rcases plain.client_cases client with absent | ⟨number, directory, found, -⟩ | ⟨conf, directory, found⟩
  · rw [setReplication, bind_run, clientAt_of_none absent]
    exact .refl none storage
  · rw [setReplication_of_cluster found]
    exact onCluster_upheld ..
  · rw [setReplication_of_disk found, final_answerOf]
    exact .refl none storage

private theorem lock_upheld (plain : storage.Plain) (client : Nat) (path : Path) (shared : Bool) :
    Upheld none storage (final (lock client path shared storage)) := by
  rcases plain.client_cases client with absent | ⟨number, directory, found, -⟩ | ⟨conf, directory, found⟩
  · rw [lock, bind_run, clientAt_of_none absent]
    exact .refl none storage
  · rw [lock_of_cluster found]
    exact onCluster_upheld ..
  · obtain ⟨diskLocks, ran⟩ := lock_of_disk found path shared
    rw [ran]
    exact .of_same rfl rfl

private theorem release_upheld (plain : storage.Plain) (client : Nat) (path : Path) :
    Upheld none storage (final (release client path storage)) := by
  rcases plain.client_cases client with absent | ⟨number, directory, found, -⟩ | ⟨conf, directory, found⟩
  · rw [release, bind_run, clientAt_of_none absent]
    exact .refl none storage
  · rw [release_of_cluster found]
    exact onCluster_upheld ..
  · obtain ⟨diskLocks, ran⟩ := release_of_disk found path
    rw [ran]
    exact .of_same rfl rfl

/-- Clients come in the root directory of a cluster, or where the process stands. -/
private theorem upheld_of_new {directory : Location} {backend : Backend} {script : Script}
    (proper : storage.Placed → directory.Proper) :
    Upheld none storage { storage with clients := storage.clients ++ [⟨backend, directory, script⟩] } := by
  refine .of_clients rfl fun placed client member => ?_
  rcases List.mem_append.mp member with was | new
  · exact .inl was
  · rw [List.mem_singleton.mp new]
    exact .inr (proper placed)

private theorem localClient_upheld (conf : Configuration) :
    Upheld none storage (final (localClient conf storage)) := by
  rw [localClient, bind_get]
  cases stands : storage.disk.workingDirectory with
  | none => exact .refl none storage
  | some directory => exact upheld_of_new fun placed => placed.process directory stands

/-! ## Requests to streams -/

private theorem call_upheld (plain : storage.Plain) (stream : Nat) (asked : WriterCall) :
    Upheld (storage.written? (.call stream asked)) storage (final (call stream asked storage)) := by
  rcases plain.stream_cases stream with absent | ⟨channel, found⟩
  · rw [call_of_none absent]
    exact .refl _ storage
  · cases channel with
    | clusterWriter number writer =>
      cases present : storage.clusters[number]? with
      | none =>
        have ran : final (call stream asked storage) = storage := by
          cases asked <;> simp only [call, write, flush, closeStream, bind_run, streamAt_of_some found, scripted,
            Script.reaction?, Script.none, List.lookup_nil, get, getThe, MonadStateOf.get, EStateM.get,
            clusterAt_of_none present] <;> rfl
        rw [ran]
        exact .refl _ storage
      | some cluster =>
        rw [call_of_clusterWriter found present, final_answerOf]
        exact .of_same rfl rfl
    | clusterReader | diskReader =>
      have ran : final (call stream asked storage) = storage := (after_of_idle found rfl).1 asked
      rw [ran]
      exact .refl _ storage
    | diskWriter writer =>
      rw [call_of_diskWriter found, final_answerOf, written?]
      simp only [found]
      exact .of_disk (writer.answer_continued ..) rfl

/-- Dropping a writer of the disk ends it, and dropping anything else changes nothing. -/
private theorem dropStream_upheld (plain : storage.Plain) (stream : Nat) :
    Upheld (storage.written? (.drop stream)) storage (final (dropStream stream storage)) := by
  rcases plain.stream_cases stream with absent | ⟨channel, found⟩
  · rw [dropStream, bind_run, streamAt_of_none absent]
    exact .refl _ storage
  · cases channel with
    | clusterWriter | clusterReader | diskReader =>
      rw [dropStream, bind_run, streamAt_of_some found]
      exact .refl _ storage
    | diskWriter writer =>
      rw [dropStream_of_diskWriter found, written?]
      simp only [found]
      exact .of_disk (writer.drop_continued ..) rfl

/-! ## Requests -/

/-- A request upholds all but the file that it writes to. -/
theorem Plain.upheld (plain : storage.Plain) (request : Request) :
    Upheld (storage.written? request) storage (storage.after request) := by
  cases request with
  | passTime now => exact .of_same rfl rfl
  | startCluster authority conf datanodes capacityEach => exact .of_same rfl rfl
  | joinCluster number => exact upheld_of_new fun _ => Location.proper_root
  | joinDisk conf =>
    have ran : storage.after (.joinDisk conf) = final (localClient conf storage) := final_discard _
    exact ran ▸ localClient_upheld conf
  | changeDirectory client path => exact changeDirectory_upheld plain client path
  | createDirectories client path => exact createDirectories_upheld plain client path
  | delete client path => exact delete_upheld plain client path
  | rename client source target => exact rename_upheld plain client source target
  | setReplication client path replication => exact setReplication_upheld plain client path replication
  | lock client path shared => exact lock_upheld plain client path shared
  | release client path => exact release_upheld plain client path
  | openFile client path bufferSize =>
    have ran : storage.after (.openFile client path bufferSize) =
      final (openReader client path bufferSize storage) := final_discard _
    exact ran ▸ upheld_of_leaves (openReader_leaves blind client path bufferSize)
  | createFile client path options =>
    have ran : storage.after (.createFile client path options) =
      final (createWriter client path options storage) := final_discard _
    exact ran ▸ createWriter_upheld plain client path options
  | read stream count =>
    have ran : storage.after (.read stream count) = final (read stream count storage) := final_discard _
    exact ran ▸ upheld_of_leaves (read_leaves blind stream count)
  | readAt stream position count =>
    have ran : storage.after (.readAt stream position count) = final (readAt stream position count storage) :=
      final_discard _
    exact ran ▸ upheld_of_leaves (readAt_leaves blind stream position count)
  | seek stream position => exact upheld_of_leaves (seek_leaves blind stream position)
  | call stream asked => exact call_upheld plain stream asked
  | drop stream => exact dropStream_upheld plain stream

/-! ## Runs -/

/-- What every request keeps is kept by a run. -/
private theorem Sound.kept_run {kept : Storage → Prop}
    (step : ∀ storage : Storage, storage.Sound → kept storage → ∀ request, kept (storage.after request))
    (sound : storage.Sound) (holds : kept storage) (requests : List Request) : kept (storage.run requests) := by
  induction requests generalizing storage with
  | nil => exact holds
  | cons request rest ih => exact ih (sound.serve request) (step storage sound holds request)

theorem Sound.placed (sound : storage.Sound) (placed : storage.Placed) (requests : List Request) :
    (storage.run requests).Placed :=
  Sound.kept_run (fun _ sound placed request => (sound.plain.upheld request).placed placed) sound placed requests

theorem Sound.allotted (sound : storage.Sound) (allotted : storage.disk.Allotted) (requests : List Request) :
    (storage.run requests).disk.Allotted :=
  Sound.kept_run (fun _ sound allotted request => (sound.plain.upheld request).disk.allotted allotted)
    sound allotted requests

end FileGateway.Storage
