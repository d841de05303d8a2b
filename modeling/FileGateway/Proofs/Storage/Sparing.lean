import FileGateway.Proofs.Storage.Leaves
import FileGateway.Proofs.Storage.Requests

/-! # Streams that a request is not about

A request goes through one stream or none, and opens one at most. All other streams are afterwards what they were,
with the same script, position and buffer. A reader on a cluster notices not even every request that is about it: it
cannot be written to, and it can be closed and dropped as often as one likes.
-/

namespace FileGateway

/-- The stream that a request goes through. -/
def Request.stream? : Request → Option Nat
  | .read stream _ | .readAt stream _ _ | .seek stream _ | .call stream _ | .drop stream => some stream
  | _ => none

namespace Storage

variable {α : Type} {storage : Storage} {stream other : Nat} {script : Script} {request : Request}

/-- An action leaves a stream as it is, if it is there. -/
abbrev Spares (stream : Nat) (action : Action α) : Prop :=
  Within (fun _ (before after : Storage) =>
    ∀ found, before.streams[stream]? = some found → after.streams[stream]? = some found) 0 action

instance (stream : Nat) : Metered (fun _ (before after : Storage) =>
    ∀ found, before.streams[stream]? = some found → after.streams[stream]? = some found) where
  refl _ _ := id
  trans one two found present := two found (one found present)
  weaken same _ := same

/-! ## Parts of actions -/

/-- What only asks spares every stream. -/
theorem Leaves.spares {action : Action α} (leaves : Leaves id action) : Spares stream action :=
  .of_same leaves

private theorem clientAt_spares (client : Nat) : Spares stream (clientAt client) := (clientAt_leaves client).spares

private theorem clusterAt_spares (number : Nat) : Spares stream (clusterAt number) := (clusterAt_leaves number).spares

private theorem streamAt_spares (other : Nat) : Spares stream (streamAt other) := (streamAt_leaves other).spares

private theorem answerOf_spares (outcome : Except Exception α) : Spares stream (answerOf outcome) :=
  (answerOf_leaves outcome).spares

private theorem askDisk_spares (question : Disk → Except Exception α) : Spares stream (askDisk question) :=
  .after .get fun _ => answerOf_spares _

private theorem scripted_spares {asked : Call} {read : Answer → Option α} {act : Action α} (acts : Spares stream act) :
    Spares stream (scripted script asked read act) := by
  unfold scripted
  split
  · exact acts
  · exact .throw _
  · exact .throw _
  · split
    · exact .pure _
    · exact acts

private theorem nextTransfers_spares : Spares stream nextTransfers := .after .get fun _ => .pure _

private theorem setCluster_spares (number : Nat) (cluster : Cluster) : Spares stream (setCluster number cluster) :=
  .modify fun _ _ => id

private theorem setDisk_spares (disk : Disk) : Spares stream (setDisk disk) := .modify fun _ _ => id

private theorem setChannel_spares (apart : other ≠ stream) (channel : Channel) :
    Spares stream (setChannel other channel) :=
  .modify fun _ _ present => by rw [List.getElem?_modify, present, Option.map_eq_map, Option.map_some, if_neg apart]

private theorem addStream_spares (new : Stream) : Spares stream (addStream new) := fun _ _ present =>
  (List.getElem?_append_left (List.getElem?_eq_some_iff.mp present).1).trans present

private theorem onCluster_spares (number : Nat) (change : Cluster → Except Exception α × Cluster) :
    Spares stream (onCluster number change) :=
  .after (clusterAt_spares number) fun _ => .after (setCluster_spares _ _) fun _ => answerOf_spares _

/-! ## Clients -/

theorem createDirectories_spares (client : Nat) (path : Path) : Spares stream (createDirectories client path) := by
  refine .after (clientAt_spares client) fun found => scripted_spares (.after .get fun seen => ?_)
  split
  · exact onCluster_spares _ _
  · exact .after (setDisk_spares _) fun _ => answerOf_spares _

theorem delete_spares (client : Nat) (path : Path) : Spares stream (delete client path) := by
  refine .after (clientAt_spares client) fun found => scripted_spares ?_
  split
  · exact onCluster_spares _ _
  · exact .after .get fun seen => .after (answerOf_spares _) fun _ => setDisk_spares _

theorem rename_spares (client : Nat) (source target : Path) : Spares stream (rename client source target) := by
  refine .after (clientAt_spares client) fun found => scripted_spares ?_
  split
  · exact onCluster_spares _ _
  · exact .after .get fun seen => .after (answerOf_spares _) fun _ => setDisk_spares _

theorem setReplication_spares (client : Nat) (path : Path) (replication : UInt16) :
    Spares stream (setReplication client path replication) := by
  refine .after (clientAt_spares client) fun found => scripted_spares ?_
  split
  · exact onCluster_spares _ _
  · exact askDisk_spares _

theorem lock_spares (client : Nat) (path : Path) (shared : Bool) : Spares stream (lock client path shared) := by
  refine .after (clientAt_spares client) fun found => scripted_spares ?_
  split
  · exact onCluster_spares _ _
  · refine .after (askDisk_spares _) fun _ => .reading fun seen => ?_
    rcases seen.diskLocks.acquire (found.directory.resolve path) shared _ with ⟨outcome, diskLocks⟩
    exact answerOf_spares outcome { seen with diskLocks }

theorem release_spares (client : Nat) (path : Path) : Spares stream (release client path) := by
  refine .after (clientAt_spares client) fun found => scripted_spares ?_
  split
  · exact onCluster_spares _ _
  · refine .reading fun seen => ?_
    rcases seen.diskLocks.release (found.directory.resolve path) _ with ⟨outcome, diskLocks⟩
    exact answerOf_spares outcome { seen with diskLocks }

theorem changeDirectory_spares (client : Nat) (path : Path) : Spares stream (changeDirectory client path) :=
  .after (clientAt_spares client) fun _ => scripted_spares (.modify fun _ _ => id)

theorem openReader_spares (client : Nat) (path : Path) (bufferSize : UInt64) :
    Spares stream (openReader client path bufferSize) := by
  refine .after (clientAt_spares client) fun found => scripted_spares ?_
  split
  · exact .after (.after (clusterAt_spares _) fun _ => answerOf_spares _) fun _ => addStream_spares _
  · exact .after (askDisk_spares _) fun reader => .after (checkBuffer_leaves _).spares fun _ =>
      .after nextTransfers_spares fun _ => addStream_spares _

theorem createWriter_spares (client : Nat) (path : Path) (options : CreateOptions) :
    Spares stream (createWriter client path options) := by
  refine .after (clientAt_spares client) fun found => scripted_spares (.after .get fun seen => ?_)
  split
  · exact .after (onCluster_spares _ _) fun _ => addStream_spares _
  · exact .after (setDisk_spares _) fun _ => .after (answerOf_spares _) fun writer =>
      .after (checkBuffer_leaves _).spares fun _ => .after nextTransfers_spares fun _ => addStream_spares _

theorem localClient_spares (conf : Configuration) : Spares stream (localClient conf) := by
  refine .after .get fun seen => ?_
  split
  · exact .throw _
  · exact fun _ _ => id

/-! ## Other streams -/

section Apart

variable (apart : other ≠ stream)
include apart

/-- What a call did to its stream and to what is behind it. -/
private theorem moved_spares {behind : Action Unit} (spares : Spares stream behind) (channel : Channel)
    (outcome : Except Exception α) :
    Spares stream (do
      behind
      setChannel other channel
      answerOf outcome) :=
  .after spares fun _ => .after (setChannel_spares apart _) fun _ => answerOf_spares _

theorem read_spares (count : Nat) : Spares stream (read other count) := by
  refine .after (streamAt_spares other) fun found => scripted_spares ?_
  split
  · exact .after (clusterAt_spares _) fun cluster => .after (setChannel_spares apart _) fun _ =>
      .after (answerOf_spares _) fun _ => .pure _
  · exact .after .get fun seen => .after (setChannel_spares apart _) fun _ =>
      .after (answerOf_spares _) fun _ => .pure _
  · exact .throw _

theorem readAt_spares (position count : Nat) : Spares stream (readAt other position count) := by
  refine .after (streamAt_spares other) fun found => scripted_spares ?_
  split
  · exact .after (.after (clusterAt_spares _) fun _ => answerOf_spares _) fun _ => .pure _
  · exact .after .get fun seen => .after (setChannel_spares apart _) fun _ =>
      .after (answerOf_spares _) fun _ => .pure _
  · exact .throw _

theorem seek_spares (position : Nat) : Spares stream (seek other position) := by
  refine .after (streamAt_spares other) fun found => scripted_spares ?_
  split
  · exact .after (clusterAt_spares _) fun cluster => .after (setChannel_spares apart _) fun _ => answerOf_spares _
  · exact .after .get fun seen => .after (setChannel_spares apart _) fun _ => answerOf_spares _
  · exact .throw _

/-- A call that a writer serves, with what is behind it. -/
private theorem served_spares {asked : Call} {read : Answer → Option α}
    (onCluster : ClusterWriter → Cluster → Int → Except Exception α × ClusterWriter × Cluster)
    (onDisk : DiskWriter → Disk → Int → Except Exception α × DiskWriter × Disk) :
    Spares stream (do
      let found ← streamAt other
      scripted found.script asked read do
        let storage ← get
        match found.channel with
        | .clusterWriter number writer =>
          let (outcome, writer, cluster) := onCluster writer (← clusterAt number) storage.seconds
          setCluster number cluster
          setChannel other (.clusterWriter number writer)
          answerOf outcome
        | .diskWriter writer =>
          let (outcome, writer, disk) := onDisk writer storage.disk storage.now
          setDisk disk
          setChannel other (.diskWriter writer)
          answerOf outcome
        | _ => throw .unknown) := by
  refine .after (streamAt_spares other) fun found => scripted_spares (.after .get fun seen => ?_)
  split
  · exact .after (clusterAt_spares _) fun cluster => moved_spares apart (setCluster_spares _ _) _ _
  · exact moved_spares apart (setDisk_spares _) _ _
  · exact .throw _

theorem write_spares (data : Bytes) : Spares stream (write other data) :=
  served_spares apart (·.write · · data) (·.write · · data)

theorem flush_spares : Spares stream (flush other) := served_spares apart ClusterWriter.flush DiskWriter.flush

theorem dropStream_spares : Spares stream (dropStream other) := by
  refine .after (streamAt_spares other) fun found => ?_
  split
  · exact .after .get fun seen => .after (setDisk_spares _) fun _ => setChannel_spares apart _
  · exact .pure _

theorem closeStream_spares : Spares stream (closeStream other) := by
  refine .after (streamAt_spares other) fun found => ?_
  split
  · exact scripted_spares (.pure _)
  · exact scripted_spares (.pure _)
  · exact scripted_spares (.after (clusterAt_spares _) fun cluster => .after .get fun seen =>
      moved_spares apart (setCluster_spares _ _) _ _)
  · exact scripted_spares (.after .get fun seen => moved_spares apart (setDisk_spares _) _ _)

theorem call_spares (asked : WriterCall) : Spares stream (call other asked) := by
  cases asked with
  | write data => exact .after (write_spares apart data) fun _ => .pure _
  | flush => exact flush_spares apart
  | close => exact closeStream_spares apart

end Apart

/-! ## Requests -/

/-- A request spares every stream but the one it goes through. -/
theorem serve_spares (apart : request.stream? ≠ some stream) : Spares stream (serve request) := by
  cases request with
  | passTime now => exact .modify fun _ _ => id
  | startCluster authority conf datanodes capacityEach =>
    exact .after (.after .get fun _ => fun _ _ => id) fun _ => .pure _
  | joinCluster number => exact .after (fun _ _ => id) fun _ => .pure _
  | joinDisk conf => exact .after (localClient_spares conf) fun _ => .pure _
  | changeDirectory client path => exact changeDirectory_spares client path
  | createDirectories client path => exact createDirectories_spares client path
  | delete client path => exact delete_spares client path
  | rename client source target => exact rename_spares client source target
  | setReplication client path replication => exact setReplication_spares client path replication
  | lock client path shared => exact lock_spares client path shared
  | release client path => exact release_spares client path
  | openFile client path bufferSize => exact .after (openReader_spares client path bufferSize) fun _ => .pure _
  | createFile client path options => exact .after (createWriter_spares client path options) fun _ => .pure _
  | read other count => exact .after (read_spares (apart <| congrArg some ·) count) fun _ => .pure _
  | readAt other position count =>
    exact .after (readAt_spares (apart <| congrArg some ·) position count) fun _ => .pure _
  | seek other position => exact seek_spares (apart <| congrArg some ·) position
  | call other asked => exact call_spares (apart <| congrArg some ·) asked
  | drop other => exact dropStream_spares (apart <| congrArg some ·)

/-- A reader is neither written to nor closed nor dropped. -/
theorem after_of_idle {channel : Channel} (found : storage.streams[stream]? = some ⟨channel, .none⟩)
    (reads : channel.writes = false) :
    (∀ asked, storage.after (.call stream asked) = storage) ∧ storage.after (.drop stream) = storage := by
  have present := streamAt_of_some found
  cases channel with
  | clusterWriter | diskWriter => contradiction
  | clusterReader | diskReader =>
    refine ⟨fun asked => ?_, ?_⟩
    · rw [after, serve]
      cases asked with
      | write data => rw [call, bind_run, write, bind_run, present]; rfl
      | flush => rw [call, flush, bind_run, present]; rfl
      | close => rw [call, closeStream, bind_run, present]; rfl
    · rw [after, serve, dropStream, bind_run, present]
      rfl

/-- A read at a place does not move a reader on a cluster, nor anything else. -/
theorem after_readAt_of_clusterReader {number : Nat} {reader : ClusterReader}
    (found : storage.streams[stream]? = some ⟨.clusterReader number reader, .none⟩) (position count : Nat) :
    storage.after (.readAt stream position count) = storage := by
  have ran : storage.after (.readAt stream position count) = final (readAt stream position count storage) :=
    final_discard _
  rw [ran, readAt, bind_run, streamAt_of_some found]
  simp only [scripted, Script.reaction?, Script.none, List.lookup_nil, bind_run]
  cases present : storage.clusters[number]? with
  | none =>
    rw [askCluster, bind_run, clusterAt_of_none present]
    rfl
  | some cluster =>
    rw [askCluster_of_some present]
    cases reader.readAt cluster position count <;> rfl

/-- Only reads and seeks move a reader on a cluster. -/
theorem streams_after {number : Nat} {reader : ClusterReader}
    (found : storage.streams[stream]? = some ⟨.clusterReader number reader, .none⟩)
    (noRead : ∀ count, request ≠ .read stream count) (noSeek : ∀ position, request ≠ .seek stream position) :
    (storage.after request).streams[stream]? = some ⟨.clusterReader number reader, .none⟩ := by
  by_cases apart : request.stream? = some stream
  · obtain ⟨called, dropped⟩ := after_of_idle found rfl
    cases request <;> simp only [Request.stream?, Option.some.injEq, reduceCtorEq] at apart <;> subst apart
    case read other count => exact absurd rfl (noRead count)
    case readAt other position count =>
      rwa [after_readAt_of_clusterReader found]
    case seek other position => exact absurd rfl (noSeek position)
    case call other asked => rwa [called asked]
    case drop other => rwa [dropped]
  · rw [after, final_eq_ended]
    exact serve_spares apart storage _ found

end Storage

end FileGateway
