import FileGateway.Proofs.Storage.Requests
import FileGateway.Proofs.Within

/-! # What storage keeps

Nothing that storage numbers ever goes away: clusters, clients and streams keep their numbers, and a stream
stays what it was opened as. Where nothing is scripted, nothing becomes scripted by itself, and every stream
has its cluster. And overflows are checked as before, or not. Every action keeps that, whether it answers or fails.
-/

namespace FileGateway

/-- The cluster that a channel goes to. -/
def Channel.cluster? : Channel → Option Nat
  | clusterReader number _ | clusterWriter number _ => some number
  | diskReader _ | diskWriter _ => none

namespace Storage

variable {α β : Type} {storage before after : Storage} {client stream number : Nat} {script : Script}

/-- No client or stream is scripted, and every stream to a cluster has one. -/
structure Sturdy (storage : Storage) : Prop where
  clients : ∀ client ∈ storage.clients, client.script = .none
  streams : ∀ stream ∈ storage.streams, stream.script = .none ∧
    ∀ number, stream.channel.cluster? = some number → number < storage.clusters.length

/-- Every stream is still there, as what it was opened as. -/
structure Kept (before after : Storage) : Prop where
  clusters : before.clusters.length ≤ after.clusters.length
  streams : ∀ {number : Nat} {stream : Stream}, before.streams[number]? = some stream → ∃ channel : Channel,
    after.streams[number]? = some ⟨channel, stream.script⟩ ∧
      channel.cluster? = stream.channel.cluster? ∧ channel.writes = stream.channel.writes
  sturdy : before.Sturdy → after.Sturdy
  checks : after.overflowChecks = before.overflowChecks

/-- An action keeps what storage keeps. -/
abbrev Keeps (action : Action α) : Prop := Within (fun _ => Kept) 0 action

namespace Kept

protected theorem refl (storage : Storage) : Kept storage storage :=
  ⟨le_rfl, fun {_ stream} found => ⟨stream.channel, found, rfl, rfl⟩, id, rfl⟩

protected theorem trans {middle : Storage} (one : Kept before middle) (two : Kept middle after) :
    Kept before after := by
  refine ⟨one.clusters.trans two.clusters, fun found => ?_, fun sturdy => two.sturdy (one.sturdy sturdy),
    two.checks.trans one.checks⟩
  obtain ⟨channel, isMiddle, sameCluster, sameWay⟩ := one.streams found
  obtain ⟨last, isLast, stillCluster, stillWay⟩ := two.streams isMiddle
  exact ⟨last, isLast, stillCluster.trans sameCluster, stillWay.trans sameWay⟩

instance : Metered (fun _ => Kept) where
  refl := Kept.refl
  trans := Kept.trans
  weaken kept _ := kept

/-- What keeps everything may follow. -/
theorem followed {action : Action α} {next : α → Action β} (first : Kept storage (ended (action storage)))
    (second : ∀ value, Keeps (next value)) : Kept storage (ended ((action >>= next) storage)) :=
  @Within.followed _ _ _ _ (fun _ => Kept) 0 _ _ _ _ first second

theorem of_same (clusters : after.clusters = before.clusters) (clients : after.clients = before.clients)
    (streams : after.streams = before.streams) (checks : after.overflowChecks = before.overflowChecks) :
    Kept before after where
  clusters := by rw [clusters]
  streams {_ stream} found := ⟨stream.channel, by rw [streams, found], rfl, rfl⟩
  sturdy sturdy := ⟨clients ▸ sturdy.clients, streams ▸ clusters ▸ sturdy.streams⟩
  checks := checks

/-- A cluster has changed, or come. -/
theorem of_clusters (clusters : before.clusters.length ≤ after.clusters.length)
    (clients : after.clients = before.clients) (streams : after.streams = before.streams)
    (checks : after.overflowChecks = before.overflowChecks) : Kept before after where
  clusters := clusters
  streams {_ stream} found := ⟨stream.channel, by rw [streams, found], rfl, rfl⟩
  sturdy sturdy := ⟨clients ▸ sturdy.clients, fun stream member =>
    have was := sturdy.streams stream (streams ▸ member)
    ⟨was.1, fun number isCluster => (was.2 number isCluster).trans_le clusters⟩⟩
  checks := checks

/-- The clients that came, or changed, are not scripted. -/
theorem of_clients (clusters : after.clusters = before.clusters) (streams : after.streams = before.streams)
    (checks : after.overflowChecks = before.overflowChecks)
    (unscripted : before.Sturdy → ∀ client ∈ after.clients, client.script = .none) : Kept before after where
  clusters := by rw [clusters]
  streams {_ stream} found := ⟨stream.channel, by rw [streams, found], rfl, rfl⟩
  sturdy sturdy := ⟨unscripted sturdy, streams ▸ clusters ▸ sturdy.streams⟩
  checks := checks

/-- Something has gone through a stream. -/
theorem of_channel {found : Stream} {channel : Channel} (present : before.streams[number]? = some found)
    (sameCluster : channel.cluster? = found.channel.cluster?) (sameWay : channel.writes = found.channel.writes)
    (streams : after.streams = before.streams.modify number ({ · with channel }))
    (clusters : after.clusters.length = before.clusters.length) (clients : after.clients = before.clients)
    (checks : after.overflowChecks = before.overflowChecks) : Kept before after where
  clusters := clusters.ge
  streams {other stream} isStream := by
    rw [streams, List.getElem?_modify, isStream]
    by_cases same : number = other
    · subst same
      obtain rfl : found = stream := Option.some.inj (present.symm.trans isStream)
      exact ⟨channel, by simp, sameCluster, sameWay⟩
    · exact ⟨stream.channel, by simp [same], rfl, rfl⟩
  sturdy sturdy := by
    refine ⟨clients ▸ sturdy.clients, fun stream member => ?_⟩
    obtain ⟨other, isStream⟩ := List.mem_iff_getElem?.mp member
    rw [streams, List.getElem?_modify, Option.map_eq_map, Option.map_eq_some_iff] at isStream
    obtain ⟨old, was, rfl⟩ := isStream
    have kept := sturdy.streams old (List.mem_of_getElem? was)
    rw [clusters]
    by_cases same : number = other
    · subst same
      obtain rfl : found = old := Option.some.inj (present.symm.trans was)
      exact ⟨by simpa using kept.1, by simpa [sameCluster] using kept.2⟩
    · simpa [same] using kept
  checks := checks

/-- A client has opened a stream. -/
theorem of_stream {found : Client} {channel : Channel} (present : before.clients[client]? = some found)
    (placed : ∀ number, channel.cluster? = some number → number < before.clusters.length)
    (streams : after.streams = before.streams ++ [⟨channel, found.script⟩])
    (clusters : after.clusters.length = before.clusters.length) (clients : after.clients = before.clients)
    (checks : after.overflowChecks = before.overflowChecks) : Kept before after where
  clusters := clusters.ge
  streams {number stream} isStream :=
    ⟨stream.channel, by rw [streams, List.getElem?_append_left (List.getElem?_eq_some_iff.mp isStream).1, isStream],
      rfl, rfl⟩
  sturdy sturdy := by
    refine ⟨clients ▸ sturdy.clients, fun stream member => ?_⟩
    rw [streams, List.mem_append, List.mem_singleton] at member
    rw [clusters]
    rcases member with member | rfl
    · exact sturdy.streams stream member
    · exact ⟨sturdy.clients found (List.mem_of_getElem? present), placed⟩
  checks := checks

end Kept

/-! ## Parts of actions -/

@[simp] theorem ended_answerOf (outcome : Except Exception α) (storage : Storage) :
    ended (answerOf outcome storage) = storage := by
  cases outcome <;> rfl

theorem answerOf_keeps (outcome : Except Exception α) : Keeps (answerOf outcome) :=
  .of_same fun storage => ended_answerOf outcome storage

theorem orUnknown_keeps (value : Option α) : Keeps (orUnknown value) := by
  cases value with
  | some value => exact .pure value
  | none => exact .throw _

theorem clusterAt_keeps (number : Nat) : Keeps (clusterAt number) := .after .get fun _ => orUnknown_keeps _

theorem clientAt_keeps (client : Nat) : Keeps (clientAt client) := .after .get fun _ => orUnknown_keeps _

theorem streamAt_keeps (stream : Nat) : Keeps (streamAt stream) := .after .get fun _ => orUnknown_keeps _

theorem askCluster_keeps (number : Nat) (question : Cluster → Except Exception α) :
    Keeps (askCluster number question) := .after (clusterAt_keeps number) fun _ => answerOf_keeps _

theorem askDisk_keeps (question : Disk → Except Exception α) : Keeps (askDisk question) :=
  .after .get fun _ => answerOf_keeps _

theorem onCluster_keeps (number : Nat) (change : Cluster → Except Exception α × Cluster) :
    Keeps (onCluster number change) := by
  refine .after (clusterAt_keeps number) fun cluster => ?_
  exact .after (.modify fun storage => .of_clusters (by simp) rfl rfl rfl) fun _ => answerOf_keeps _

theorem setDisk_keeps (disk : Disk) : Keeps (setDisk disk) := .modify fun _ => .of_same rfl rfl rfl rfl

theorem ended_checkBuffer (bytes : Nat) (storage : Storage) : ended (checkBuffer bytes storage) = storage := by
  rw [checkBuffer]
  split <;> rfl

theorem checkBuffer_keeps (bytes : Nat) : Keeps (checkBuffer bytes) := .of_same (ended_checkBuffer bytes)

/-- A script may keep an action from acting. -/
theorem kept_scripted {call : Call} {read : Answer → Option α} {act : Action α}
    (acts : Kept storage (ended (act storage))) : Kept storage (ended (scripted script call read act storage)) := by
  have nothing : Kept storage storage := .refl storage
  rw [scripted]
  rcases script.reaction? call with _ | exception | words | answer
  · exact acts
  · exact nothing
  · exact nothing
  · simp only
    cases read answer with
    | none => exact acts
    | some value => exact nothing

theorem scripted_keeps {call : Call} {read : Answer → Option α} {act : Action α} (acts : Keeps act) :
    Keeps (scripted script call read act) := fun storage => kept_scripted (acts storage)

/-- What looks something up goes on with it, if it is there. -/
theorem kept_found {γ : Type} {look : Storage → Option γ} {next : γ → Action β}
    (goesOn : ∀ found, look storage = some found → Kept storage (ended (next found storage))) :
    Kept storage (ended (((get >>= fun seen => orUnknown (look seen)) >>= next) storage)) := by
  cases present : look storage with
  | none =>
    have missed : (get >>= fun seen => orUnknown (look seen)) storage = .error .unknown storage := by
      rw [bind_get, present]
      rfl
    rw [bind_of_error missed]
    exact .refl storage
  | some found =>
    have looked : (get >>= fun seen => orUnknown (look seen)) storage = .ok found storage := by
      rw [bind_get, present]
      rfl
    rw [bind_of_ok looked]
    exact goesOn found present

theorem kept_clientAt {next : Client → Action β}
    (goesOn : ∀ found, storage.clients[client]? = some found → Kept storage (ended (next found storage))) :
    Kept storage (ended ((clientAt client >>= next) storage)) := kept_found goesOn

theorem kept_streamAt {next : Stream → Action β}
    (goesOn : ∀ found, storage.streams[stream]? = some found → Kept storage (ended (next found storage))) :
    Kept storage (ended ((streamAt stream >>= next) storage)) := kept_found goesOn

theorem kept_clusterAt {next : Cluster → Action β}
    (goesOn : ∀ found, storage.clusters[number]? = some found → Kept storage (ended (next found storage))) :
    Kept storage (ended ((clusterAt number >>= next) storage)) := kept_found goesOn

/-! ## Streams -/

/-- Something goes through a stream, its cluster or the disk changes, and the outcome is answered. -/
theorem kept_through {found : Stream} {channel : Channel} {clusters : List Cluster} {disk : Disk}
    (present : storage.streams[stream]? = some found) (sameCluster : channel.cluster? = found.channel.cluster?)
    (sameWay : channel.writes = found.channel.writes) (sameCount : clusters.length = storage.clusters.length)
    (outcome : Except Exception α) :
    Kept storage (ended (answerOf outcome { storage with
      clusters, disk, streams := storage.streams.modify stream ({ · with channel }) })) := by
  rw [ended_answerOf]
  exact .of_channel present sameCluster sameWay rfl sameCount rfl rfl

/-- A reader was asked for bytes, and what came is answered. -/
private theorem kept_reading {found : Stream} {channel : Channel} (present : storage.streams[stream]? = some found)
    (sameCluster : channel.cluster? = found.channel.cluster?) (sameWay : channel.writes = found.channel.writes)
    (outcome : Except Exception Bytes) :
    Kept storage (ended ((do
      setChannel stream channel
      return .ofData (← answerOf outcome) : Action ReadResult) storage)) := by
  have moved : Kept storage { storage with streams := storage.streams.modify stream ({ · with channel }) } :=
    .of_channel present sameCluster sameWay rfl rfl rfl rfl
  exact .followed moved fun _ => .after (answerOf_keeps _) fun _ => .pure _

theorem read_keeps (stream count : Nat) : Keeps (read stream count) := by
  refine fun storage => kept_streamAt fun found present => kept_scripted ?_
  cases isChannel : found.channel with
  | clusterReader number reader =>
    refine kept_clusterAt fun cluster _ => ?_
    rcases reader.read cluster count with ⟨outcome, later⟩
    exact kept_reading present (by rw [isChannel]; rfl) (by rw [isChannel]; rfl) outcome
  | diskReader reader => exact kept_reading present (by rw [isChannel]; rfl) (by rw [isChannel]; rfl) _
  | clusterWriter number writer | diskWriter writer => exact .refl storage

theorem readAt_keeps (stream position count : Nat) : Keeps (readAt stream position count) := by
  refine fun storage => kept_streamAt fun found present => kept_scripted ?_
  cases isChannel : found.channel with
  | clusterReader number reader => exact Within.after (askCluster_keeps _ _) (fun _ => .pure _) storage
  | diskReader reader => exact kept_reading present (by rw [isChannel]; rfl) (by rw [isChannel]; rfl) _
  | clusterWriter number writer | diskWriter writer => exact .refl storage

theorem seek_keeps (stream position : Nat) : Keeps (seek stream position) := by
  refine fun storage => kept_streamAt fun found present => kept_scripted ?_
  cases isChannel : found.channel with
  | clusterReader number reader =>
    refine kept_clusterAt fun cluster _ => ?_
    rcases reader.seek cluster position with ⟨outcome, later⟩
    exact kept_through present (by rw [isChannel]; rfl) (by rw [isChannel]; rfl) rfl outcome
  | diskReader reader =>
    refine kept_through present ?_ ?_ rfl _ <;>
      rw [isChannel] <;> rfl
  | clusterWriter number writer | diskWriter writer => exact .refl storage

theorem position_keeps (stream : Nat) : Keeps (position stream) := by
  refine .after (streamAt_keeps stream) fun found => ?_
  split
  · exact scripted_keeps (.pure _)
  · exact scripted_keeps (.pure _)
  · exact .pure _
  · exact .pure _

theorem available_keeps (stream : Nat) : Keeps (available stream) := by
  refine .after (streamAt_keeps stream) fun found => scripted_keeps ?_
  split
  · exact askCluster_keeps _ _
  · exact .after .get fun _ => .pure _
  · exact .throw _

/-- A call that a writer serves, with what is behind it. -/
private theorem served_keeps {asked : Call} {read : Answer → Option α}
    (onCluster : ClusterWriter → Cluster → Int → Except Exception α × ClusterWriter × Cluster)
    (onDisk : DiskWriter → Disk → Int → Except Exception α × DiskWriter × Disk) :
    Keeps (do
      let found ← streamAt stream
      scripted found.script asked read do
        let storage ← get
        match found.channel with
        | .clusterWriter number writer =>
          let (outcome, writer, cluster) := onCluster writer (← clusterAt number) storage.seconds
          setCluster number cluster
          setChannel stream (.clusterWriter number writer)
          answerOf outcome
        | .diskWriter writer =>
          let (outcome, writer, disk) := onDisk writer storage.disk storage.now
          setDisk disk
          setChannel stream (.diskWriter writer)
          answerOf outcome
        | _ => throw .unknown) := by
  refine fun storage => kept_streamAt fun found present => kept_scripted ?_
  rw [bind_get]
  cases isChannel : found.channel with
  | clusterWriter number writer =>
    refine kept_clusterAt fun cluster _ => ?_
    rcases onCluster writer cluster storage.seconds with ⟨outcome, later, changed⟩
    exact kept_through present (by rw [isChannel]; rfl) (by rw [isChannel]; rfl) (List.length_set ..) outcome
  | diskWriter writer =>
    simp only
    rcases onDisk writer storage.disk storage.now with ⟨outcome, later, disk⟩
    exact kept_through present (by rw [isChannel]; rfl) (by rw [isChannel]; rfl) rfl outcome
  | clusterReader number reader | diskReader reader => exact .refl storage

theorem write_keeps (stream : Nat) (data : Bytes) : Keeps (write stream data) :=
  served_keeps (·.write · · data) (·.write · · data)

theorem flush_keeps (stream : Nat) : Keeps (flush stream) := served_keeps ClusterWriter.flush DiskWriter.flush

theorem dropStream_keeps (stream : Nat) : Keeps (dropStream stream) := by
  refine fun storage => kept_streamAt fun found present => ?_
  cases isChannel : found.channel with
  | diskWriter writer =>
    exact .of_channel present (by rw [isChannel]; rfl) (by rw [isChannel]; rfl) rfl rfl rfl rfl
  | clusterReader number reader | diskReader reader | clusterWriter number writer => exact .refl storage

theorem closeStream_keeps (stream : Nat) : Keeps (closeStream stream) := by
  refine fun storage => kept_streamAt fun found present => ?_
  cases isChannel : found.channel with
  | clusterReader number reader | diskReader reader => exact kept_scripted (.refl storage)
  | clusterWriter number writer =>
    refine kept_scripted (kept_clusterAt fun cluster _ => ?_)
    rw [bind_get]
    rcases writer.close cluster storage.seconds with ⟨outcome, later, changed⟩
    exact kept_through present (by rw [isChannel]; rfl) (by rw [isChannel]; rfl) (List.length_set ..) outcome
  | diskWriter writer =>
    refine kept_scripted ?_
    rw [bind_get]
    rcases writer.close storage.disk storage.now with ⟨outcome, later, disk⟩
    exact kept_through present (by rw [isChannel]; rfl) (by rw [isChannel]; rfl) rfl outcome

/-! ## Clients -/

theorem uri_keeps (client : Nat) : Keeps (uri client) := by
  refine .after (clientAt_keeps client) fun found => ?_
  split
  · exact .after (clusterAt_keeps _) fun _ => .pure _
  · exact .pure _

theorem directory_keeps (client : Nat) : Keeps (directory client) := .after (clientAt_keeps client) fun _ => .pure _

theorem resolve_keeps (client : Nat) (path : Path) : Keeps (resolve client path) :=
  .after (directory_keeps client) fun _ => .pure _

theorem changeDirectory_keeps (client : Nat) (path : Path) : Keeps (changeDirectory client path) := by
  refine fun storage => kept_clientAt fun found present => kept_scripted ?_
  refine .of_clients rfl rfl rfl fun sturdy other member => ?_
  rcases List.mem_or_eq_of_mem_set member with was | rfl
  · exact sturdy.clients other was
  · exact sturdy.clients found (List.mem_of_getElem? present)

theorem status_keeps (client : Nat) (path : Path) : Keeps (status client path) := by
  refine .after (clientAt_keeps client) fun found => scripted_keeps ?_
  split
  · exact askCluster_keeps _ _
  · exact askDisk_keeps _

theorem list_keeps (client : Nat) (path : Path) : Keeps (list client path) := by
  refine .after (clientAt_keeps client) fun found => scripted_keeps ?_
  split
  · exact askCluster_keeps _ _
  · exact askDisk_keeps _

theorem blockLocations_keeps (client : Nat) (path : Path) (start length : UInt64) :
    Keeps (blockLocations client path start length) := by
  refine .after (clientAt_keeps client) fun found => scripted_keeps ?_
  split
  · exact askCluster_keeps _ _
  · exact askDisk_keeps _

theorem defaultBlockSize_keeps (client : Nat) : Keeps (defaultBlockSize client) := by
  refine .after (clientAt_keeps client) fun found => scripted_keeps ?_
  split
  · exact .after (clusterAt_keeps _) fun _ => .pure _
  · exact .pure _

theorem defaultReplication_keeps (client : Nat) : Keeps (defaultReplication client) := by
  refine .after (clientAt_keeps client) fun found => ?_
  split
  · exact .after (clusterAt_keeps _) fun _ => .pure _
  · exact .pure _

theorem capacity_keeps (client : Nat) : Keeps (capacity client) := by
  refine .after (clientAt_keeps client) fun found => scripted_keeps ?_
  split
  · refine .after (clusterAt_keeps _) fun cluster => .after .get fun seen => ?_
    cases cluster.capacity seen.overflowChecks with
    | some capacity => exact .pure _
    | none => exact .throw _
  · exact .after (askDisk_keeps _) fun _ => .pure _

theorem used_keeps (client : Nat) : Keeps (used client) := by
  refine .after (clientAt_keeps client) fun found => scripted_keeps ?_
  split
  · exact .after (clusterAt_keeps _) fun _ => .pure _
  · exact .after (askDisk_keeps _) fun _ => .pure _

theorem createDirectories_keeps (client : Nat) (path : Path) : Keeps (createDirectories client path) := by
  refine .after (clientAt_keeps client) fun found => scripted_keeps (.after .get fun seen => ?_)
  split
  · exact onCluster_keeps _ _
  · exact .after (setDisk_keeps _) fun _ => answerOf_keeps _

theorem delete_keeps (client : Nat) (path : Path) : Keeps (delete client path) := by
  refine .after (clientAt_keeps client) fun found => scripted_keeps ?_
  split
  · exact onCluster_keeps _ _
  · exact .after .get fun _ => .after (answerOf_keeps _) fun _ => setDisk_keeps _

theorem rename_keeps (client : Nat) (source target : Path) : Keeps (rename client source target) := by
  refine .after (clientAt_keeps client) fun found => scripted_keeps ?_
  split
  · exact onCluster_keeps _ _
  · exact .after .get fun _ => .after (answerOf_keeps _) fun _ => setDisk_keeps _

theorem setReplication_keeps (client : Nat) (path : Path) (replication : UInt16) :
    Keeps (setReplication client path replication) := by
  refine .after (clientAt_keeps client) fun found => scripted_keeps ?_
  split
  · exact onCluster_keeps _ _
  · exact askDisk_keeps _

theorem lock_keeps (client : Nat) (path : Path) (shared : Bool) : Keeps (lock client path shared) := by
  refine .after (clientAt_keeps client) fun found => scripted_keeps ?_
  split
  · exact onCluster_keeps _ _
  · refine .after (askDisk_keeps _) fun _ storage => ?_
    rw [bind_get]
    rcases storage.diskLocks.acquire _ shared _ with ⟨outcome, diskLocks⟩
    have kept : Kept storage { storage with diskLocks } := .of_same rfl rfl rfl rfl
    exact .followed kept fun _ => answerOf_keeps _

theorem release_keeps (client : Nat) (path : Path) : Keeps (release client path) := by
  refine .after (clientAt_keeps client) fun found => scripted_keeps ?_
  split
  · exact onCluster_keeps _ _
  · refine fun storage => ?_
    rw [bind_get]
    rcases storage.diskLocks.release _ _ with ⟨outcome, diskLocks⟩
    have kept : Kept storage { storage with diskLocks } := .of_same rfl rfl rfl rfl
    exact .followed kept fun _ => answerOf_keeps _

/-! ## Opening streams -/

/-- What only looks answers, or nothing more happens. -/
theorem kept_asked {middle : Storage} {action : Action α} {next : α → Action β}
    (same : ended (action middle) = middle) (nothing : Kept storage middle)
    (goesOn : ∀ value, Kept storage (ended (next value middle))) :
    Kept storage (ended ((action >>= next) middle)) := by
  rcases ran : action middle with ⟨value, after⟩ | ⟨failure, after⟩
  · obtain rfl : after = middle := by rw [← same, ran]; rfl
    rw [bind_of_ok ran]
    exact goesOn value
  · obtain rfl : after = middle := by rw [← same, ran]; rfl
    rw [bind_of_error ran]
    exact nothing

/-- The stream of a reader goes to the cluster of its client. -/
theorem openReader_keeps (client : Nat) (path : Path) (bufferSize : UInt64) :
    Keeps (openReader client path bufferSize) := by
  refine fun storage => kept_clientAt fun found present => kept_scripted ?_
  cases isBackend : found.backend with
  | cluster number =>
    simp only
    cases isCluster : storage.clusters[number]? with
    | none =>
      rw [askCluster, bind_of_error (bind_of_error (clusterAt_of_none isCluster))]
      exact .refl storage
    | some cluster =>
      refine kept_asked ?_ (.refl storage) fun reader => .of_stream present (fun other same => ?_) rfl rfl rfl rfl
      · rw [askCluster_of_some isCluster, ended_answerOf]
      · obtain rfl : number = other := Option.some.inj same
        exact (List.getElem?_eq_some_iff.mp isCluster).1
  | disk conf =>
    refine kept_asked (ended_answerOf _ storage) (.refl storage) fun reader => ?_
    refine kept_asked (ended_checkBuffer _ storage) (.refl storage) fun _ => ?_
    exact .of_stream present (fun _ other => by cases other) rfl rfl rfl rfl

/-- The stream of a writer goes to the cluster of its client, where its file is already. -/
theorem createWriter_keeps (client : Nat) (path : Path) (options : CreateOptions) :
    Keeps (createWriter client path options) := by
  refine fun storage => kept_clientAt fun found present => kept_scripted ?_
  rw [bind_get]
  cases isBackend : found.backend with
  | cluster number =>
    simp only
    cases isCluster : storage.clusters[number]? with
    | none =>
      rw [bind_of_error (onCluster_of_none isCluster _)]
      exact .refl storage
    | some cluster =>
      rw [bind_run, onCluster_of_some isCluster, ← bind_run]
      have changed : Kept storage (storage.withCluster number
          (ClusterWriter.create cluster storage.seconds (found.directory.resolve path) options).2) :=
        .of_clusters (List.length_set ..).ge rfl rfl rfl
      refine kept_asked (ended_answerOf _ _) changed fun writer =>
        .of_stream present (fun other same => ?_) rfl (List.length_set ..) rfl rfl
      obtain rfl : number = other := Option.some.inj same
      exact (List.getElem?_eq_some_iff.mp isCluster).1
  | disk conf =>
    simp only
    rcases LocalDisk.createWriter conf storage.disk storage.now (found.directory.resolve path) options with
      ⟨outcome, disk⟩
    have changed : Kept storage { storage with disk } := .of_same rfl rfl rfl rfl
    change Kept storage (ended ((answerOf outcome >>= fun writer => checkBuffer writer.capacity >>= fun _ =>
      nextTransfers >>= fun transfers => addStream ⟨.diskWriter { writer with transfers }, found.script⟩)
        { storage with disk }))
    refine kept_asked (ended_answerOf _ _) changed fun writer => ?_
    refine kept_asked (ended_checkBuffer _ _) changed fun _ => ?_
    exact .of_stream present (fun _ other => by cases other) rfl rfl rfl rfl

/-! ## New clusters and clients -/

theorem startCluster_keeps (authority : String) (conf : Configuration) (datanodes : List String)
    (capacityEach : UInt64) : Keeps (startCluster authority conf datanodes capacityEach) := by
  refine .after .get fun seen storage => .of_clusters ?_ rfl rfl rfl
  change storage.clusters.length ≤ (storage.clusters ++ [_]).length
  exact (List.sublist_append_left _ _).length_le

theorem kept_addClient {found : Client} (unscripted : found.script = .none) :
    Keeps (addClient found) := by
  refine fun storage => .of_clients rfl rfl rfl fun sturdy other member => ?_
  rcases List.mem_append.mp member with was | new
  · exact sturdy.clients other was
  · rw [List.mem_singleton.mp new, unscripted]

theorem connectCluster_keeps (cluster : Nat) (authority : String) (unscripted : script = .none) :
    Keeps (connectCluster cluster authority script) :=
  scripted_keeps (.after (clusterAt_keeps cluster) fun _ => .guarded (.throw _) (kept_addClient unscripted))

theorem localClient_keeps (conf : Configuration) : Keeps (localClient conf) := by
  refine .after .get fun seen => ?_
  split
  · exact .throw _
  · exact kept_addClient rfl

theorem call_keeps (stream : Nat) (asked : WriterCall) : Keeps (call stream asked) := by
  cases asked with
  | write data => exact .after (write_keeps stream data) fun _ => .pure _
  | flush => exact flush_keeps stream
  | close => exact closeStream_keeps stream

/-- Whatever is asked of it, storage keeps. -/
theorem serve_keeps (request : Request) : Keeps (serve request) := by
  cases request with
  | passTime now => exact .modify fun _ => .of_same rfl rfl rfl rfl
  | startCluster authority conf datanodes capacityEach =>
    exact .after (startCluster_keeps authority conf datanodes capacityEach) fun _ => .pure _
  | joinCluster number => exact .after (kept_addClient rfl) fun _ => .pure _
  | joinDisk conf => exact .after (localClient_keeps conf) fun _ => .pure _
  | changeDirectory client path => exact changeDirectory_keeps client path
  | createDirectories client path => exact createDirectories_keeps client path
  | delete client path => exact delete_keeps client path
  | rename client source target => exact rename_keeps client source target
  | setReplication client path replication => exact setReplication_keeps client path replication
  | lock client path shared => exact lock_keeps client path shared
  | release client path => exact release_keeps client path
  | openFile client path bufferSize => exact .after (openReader_keeps client path bufferSize) fun _ => .pure _
  | createFile client path options => exact .after (createWriter_keeps client path options) fun _ => .pure _
  | read stream count => exact .after (read_keeps stream count) fun _ => .pure _
  | readAt stream position count => exact .after (readAt_keeps stream position count) fun _ => .pure _
  | seek stream position => exact seek_keeps stream position
  | call stream asked => exact call_keeps stream asked
  | drop stream => exact dropStream_keeps stream

/-! ## Copying -/

theorem attempt_keeps {action : Action α} (acts : Keeps action) : Keeps (attempt action) := by
  intro storage
  have acted := acts storage
  unfold attempt
  simp only [bind, EStateM.bind, tryCatch, tryCatchThe, MonadExceptOf.tryCatch, EStateM.tryCatch]
  rcases ran : action storage with ⟨value, after⟩ | ⟨_ | _ | _ | _, after⟩ <;> rw [ran] at acted <;> exact acted

theorem isPresent_keeps (client : Nat) (path : Path) : Keeps (isPresent client path) := by
  intro storage
  have acted := status_keeps client path storage
  unfold isPresent
  simp only [bind, EStateM.bind, tryCatch, tryCatchThe, MonadExceptOf.tryCatch, EStateM.tryCatch]
  rcases ran : status client path storage with ⟨value, after⟩ | ⟨exception | _ | _ | _, after⟩ <;> rw [ran] at acted
  case error.raised =>
    simp only [throw, throwThe, MonadExceptOf.throw]
    split_ifs <;> exact acted
  all_goals exact acted

theorem endingWith_keeps {action : Action α} {ending : Action Unit} (acts : Keeps action) (ends : Keeps ending) :
    Keeps (endingWith ending action) := by
  intro storage
  have acted := acts storage
  rw [endingWith]
  rcases ran : action storage with ⟨value, middle⟩ | ⟨failure, middle⟩ <;> rw [ran] at acted
  all_goals
    have last := acted.trans (ends middle)
    simp only
    rcases ran : ending middle with ⟨_, after⟩ | ⟨_, after⟩ <;> rw [ran] at last <;> exact last

theorem pump_keeps (input output length steps : Nat) : Keeps (pump input output length steps) := by
  induction steps with
  | zero => exact .throw _
  | succ steps ih =>
    refine .after (read_keeps input length) fun result => ?_
    split
    · exact .pure _
    · exact .guarded (.throw _) (.after (write_keeps output _) fun _ => ih)

theorem readsLeft_keeps (stream : Nat) : Keeps (readsLeft stream) := by
  refine .after (streamAt_keeps stream) fun found => ?_
  split
  · exact .after (clusterAt_keeps _) fun _ => .pure _
  · exact .after .get fun _ => .pure _
  · exact .pure _

theorem copyFile_keeps (sourceClient : Nat) (source : Path) (targetClient : Nat) (target : Path)
    (conf : Configuration) : Keeps (copyFile sourceClient source targetClient target conf) := by
  refine .after (openReader_keeps sourceClient source conf.bufferSize) fun input =>
    .after (defaultReplication_keeps targetClient) fun _ => .after (defaultBlockSize_keeps targetClient) fun _ =>
    .after (createWriter_keeps targetClient target _) fun output => endingWith_keeps ?_ (dropStream_keeps output)
  exact .after (checkBuffer_keeps _) fun _ => .after (readsLeft_keeps input) fun _ =>
    .after (attempt_keeps (pump_keeps _ _ _ _)) fun _ => .after (attempt_keeps (closeStream_keeps output)) fun _ =>
    .after (attempt_keeps (closeStream_keeps input)) fun _ => .after (answerOf_keeps _) fun _ =>
    .after (answerOf_keeps _) fun _ => answerOf_keeps _

theorem forIn_keeps {γ : Type} {items : List β} {turn : β → γ → Action (ForInStep γ)} (first : γ)
    (turns : ∀ item value, Keeps (turn item value)) : Keeps (forIn items first turn) := by
  induction items generalizing first with
  | nil => exact .pure _
  | cons item rest ih =>
    rw [List.forIn_cons]
    refine .after (turns item first) fun step => ?_
    cases step with
    | done value => exact .pure _
    | yield value => exact ih value

theorem copyTree_keeps (sourceClient targetClient : Nat) (conf : Configuration) (levels : Nat) (source target : Path) :
    Keeps (copyTree sourceClient targetClient conf levels source target) := by
  induction levels generalizing source target with
  | zero => exact .throw _
  | succ levels ih =>
    refine .after (status_keeps sourceClient source) fun found => ?_
    split
    · refine .after (list_keeps sourceClient source) fun entries =>
        .after (createDirectories_keeps targetClient target) fun _ => .after (forIn_keeps _ fun entry _ => ?_) fun _ =>
        .pure _
      split
      · exact .after (ih _ _) fun _ => .pure _
      · exact .pure _
    · exact copyFile_keeps sourceClient source targetClient target conf

/-- What a copy does once the target may be built. -/
private theorem unguarded_keeps (sourceClient : Nat) (source : Path) (targetClient : Nat) (target : Path)
    (deleteSource : Bool) (conf : Configuration) :
    Keeps (do
      if ← isPresent targetClient target then raise (.taken target)
      copyTree sourceClient targetClient conf (deepest (← get)) source target
      if deleteSource then delete sourceClient source : Action Unit) := by
  refine .after (isPresent_keeps targetClient target) fun present => .guarded (.throw _) (.after .get fun seen =>
    .after (copyTree_keeps sourceClient targetClient conf _ source target) fun _ => ?_)
  cases deleteSource with
  | true => exact delete_keeps sourceClient source
  | false => exact .pure _

theorem copy_keeps (sourceClient : Nat) (source : Path) (targetClient : Nat) (target : Path)
    (deleteSource : Bool) (conf : Configuration) :
    Keeps (copy sourceClient source targetClient target deleteSource conf) := by
  refine .after (uri_keeps sourceClient) fun one => .after (uri_keeps targetClient) fun two => ?_
  by_cases oneAddress : one = two
  · rw [if_pos oneAddress]
    exact .after (resolve_keeps sourceClient source) fun _ => .after (resolve_keeps targetClient target) fun _ =>
      .guarded (.throw _) (unguarded_keeps sourceClient source targetClient target deleteSource conf)
  · rw [if_neg oneAddress]
    exact unguarded_keeps sourceClient source targetClient target deleteSource conf

end Storage

end FileGateway
