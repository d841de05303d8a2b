import FileGateway.Proofs.Cluster.Files
import FileGateway.Proofs.Storage.Leaves
import FileGateway.Proofs.Storage.Run

/-! # What requests come down to

A request is at most one operation on a cluster: on the cluster of its client, at the place that its path
means there, or on the cluster that its writer writes to. Every cluster that was there is afterwards what
its operation made of it, and a cluster that was not there is new.
-/

namespace FileGateway

/-- What can be done to a cluster. -/
inductive Operation
  | createDirectories (now : Int) (location : Location)
  | delete (location : Location)
  | rename (source target : Location)
  | setReplication (location : Location) (replication : UInt16)
  | lock (location : Location) (shared : Bool)
  | release (location : Location)
  | startFile (now : Int) (location : Location) (options : CreateOptions)
  | call (writer : ClusterWriter) (now : Int) (asked : WriterCall)
deriving DecidableEq, Repr

/-- The outcome of an operation and the cluster after it. -/
def Operation.perform (cluster : Cluster) : Operation → Except Exception Unit × Cluster
  | createDirectories now location => cluster.createDirectories now location
  | delete location => cluster.delete location
  | rename source target => cluster.rename source target
  | setReplication location replication => cluster.setReplication location replication
  | lock location shared => cluster.lock location shared
  | release location => cluster.release location
  | startFile now location options => cluster.startFile now location options
  | call writer now asked => ((writer.answer cluster now asked).1, (writer.answer cluster now asked).2.2)

/-- An operation carries all files over, or it is one of the two that do not. -/
theorem Operation.carries_or {cluster : Cluster} (isTree : cluster.tree.IsTree) (operation : Operation) :
    cluster.Carries (operation.perform cluster).2 ∨
      (∃ location replication, operation = .setReplication location replication) ∨
      ∃ writer now asked, operation = .call writer now asked := by
  cases operation with
  | createDirectories now location => exact .inl (Cluster.createDirectories_carries isTree now location)
  | delete location => exact .inl (cluster.delete_carries location)
  | rename source target => exact .inl (Cluster.rename_carries isTree source target)
  | setReplication location replication => exact .inr (.inl ⟨location, replication, rfl⟩)
  | lock location shared => exact .inl (cluster.lock_carries location shared)
  | release location => exact .inl (cluster.release_carries location)
  | startFile now location options => exact .inl (Cluster.startFile_carries isTree now location options)
  | call writer now asked => exact .inr (.inr ⟨writer, now, asked, rfl⟩)

namespace Storage

variable {α : Type} {storage : Storage} {client number : Nat} {path : Path} {cluster later : Cluster}
  {request : Request} {operation : Operation}

/-- The operation on a cluster that a request comes down to. -/
def operation? (storage : Storage) (number : Nat) : Request → Option Operation
  | .createDirectories client path =>
    (storage.placeOn? number client path).map (.createDirectories storage.seconds)
  | .delete client path => (storage.placeOn? number client path).map .delete
  | .rename client source target =>
    match storage.placeOn? number client source, storage.placeOn? number client target with
    | some source, some target => some (.rename source target)
    | _, _ => none
  | .setReplication client path replication =>
    (storage.placeOn? number client path).map (.setReplication · replication)
  | .lock client path shared => (storage.placeOn? number client path).map (.lock · shared)
  | .release client path => (storage.placeOn? number client path).map .release
  | .createFile client path options =>
    (storage.placeOn? number client path).map (.startFile storage.seconds · options)
  | .call stream asked => (storage.writers number stream).map (.call · storage.seconds asked)
  | _ => none

/-! ## Requests that are operations -/

/-- What a request does that is an operation on a cluster: it answers as the operation does, and changes
the cluster as the operation does. -/
def Performs (storage : Storage) (number : Nat) (cluster : Cluster) (request : Request) (operation : Operation) :
    Prop :=
  serve request storage = answerOf (operation.perform cluster).1 (storage.after request) ∧
    (storage.after request).clusters = storage.clusters.set number (operation.perform cluster).2

private theorem performs_of_onCluster (present : storage.clusters[number]? = some cluster)
    (ran : serve request storage = onCluster number (operation.perform ·) storage) :
    storage.Performs number cluster request operation := by
  rw [onCluster_of_some present] at ran
  have later : storage.after request = storage.withCluster number (operation.perform cluster).2 := by
    rw [after, ran, final_answerOf]
  exact ⟨by rw [ran, later], by rw [later, withCluster]⟩

private theorem performs_createFile (sound : storage.Sound) (present : storage.clusters[number]? = some cluster)
    {options : CreateOptions} {location : Location} (atPlace : storage.placeOn? number client path = some location) :
    storage.Performs number cluster (.createFile client path options)
      (.startFile storage.seconds location options) := by
  obtain ⟨directory, found, rfl⟩ := sound.client_of_place atPlace
  have ran : createWriter client path options storage = _ := createWriter_of_cluster found present options
  rw [ClusterWriter.create] at ran
  rw [Performs, after, serve, bind_run, ran, Operation.perform]
  rcases cluster.startFile storage.seconds (directory.resolve path) options with ⟨_ | ⟨⟩, _⟩ <;> exact ⟨rfl, rfl⟩

private theorem performs_call (sound : storage.Sound) (present : storage.clusters[number]? = some cluster)
    {stream : Nat} {writer : ClusterWriter} (found : storage.writers number stream = some writer)
    (asked : WriterCall) :
    storage.Performs number cluster (.call stream asked) (.call writer storage.seconds asked) := by
  have ran := call_of_clusterWriter (sound.stream_of_writer found) present asked
  rw [Performs, after, serve, ran, final_answerOf]
  exact ⟨rfl, rfl⟩

theorem Sound.performs (sound : storage.Sound) (present : storage.clusters[number]? = some cluster)
    (isOperation : storage.operation? number request = some operation) :
    storage.Performs number cluster request operation := by
  cases request with
  | createDirectories client path =>
    obtain ⟨location, atPlace, rfl⟩ := Option.map_eq_some_iff.mp isOperation
    obtain ⟨directory, found, rfl⟩ := sound.client_of_place atPlace
    exact performs_of_onCluster present (createDirectories_of_cluster found)
  | delete client path =>
    obtain ⟨location, atPlace, rfl⟩ := Option.map_eq_some_iff.mp isOperation
    obtain ⟨directory, found, rfl⟩ := sound.client_of_place atPlace
    exact performs_of_onCluster present (delete_of_cluster found)
  | rename client source target =>
    simp only [operation?] at isOperation
    split at isOperation
    · next origin goal atSource atTarget =>
      obtain rfl := Option.some.inj isOperation
      obtain ⟨directory, found, rfl⟩ := sound.client_of_place atSource
      obtain ⟨same, known, rfl⟩ := sound.client_of_place atTarget
      obtain rfl : same = directory := by simpa [found, eq_comm] using known
      exact performs_of_onCluster present (rename_of_cluster found)
    · contradiction
  | setReplication client path replication =>
    obtain ⟨location, atPlace, rfl⟩ := Option.map_eq_some_iff.mp isOperation
    obtain ⟨directory, found, rfl⟩ := sound.client_of_place atPlace
    exact performs_of_onCluster present (setReplication_of_cluster found replication)
  | lock client path shared =>
    obtain ⟨location, atPlace, rfl⟩ := Option.map_eq_some_iff.mp isOperation
    obtain ⟨directory, found, rfl⟩ := sound.client_of_place atPlace
    exact performs_of_onCluster present (lock_of_cluster found shared)
  | release client path =>
    obtain ⟨location, atPlace, rfl⟩ := Option.map_eq_some_iff.mp isOperation
    obtain ⟨directory, found, rfl⟩ := sound.client_of_place atPlace
    exact performs_of_onCluster present (release_of_cluster found)
  | createFile client path options =>
    obtain ⟨location, atPlace, rfl⟩ := Option.map_eq_some_iff.mp isOperation
    exact performs_createFile sound present atPlace
  | call stream asked =>
    obtain ⟨writer, found, rfl⟩ := Option.map_eq_some_iff.mp isOperation
    exact performs_call sound present found asked
  | _ => simp [operation?] at isOperation

/-! ## Requests that are none -/

private theorem blind_clusters : Blind Storage.clusters := fun _ _ _ => rfl

private theorem changeDirectory_leaves (client : Nat) (path : Path) :
    Leaves Storage.clusters (changeDirectory client path) :=
  .after (clientAt_leaves client) fun _ => scripted_leaves (.modify fun _ => rfl)

private theorem localClient_leaves (conf : Configuration) : Leaves Storage.clusters (localClient conf) := by
  refine .after .get fun seen => ?_
  split
  · exact .throw _
  · exact fun _ => rfl

/-! ### Operations on other clusters -/

private theorem spared_of_onCluster {own : Nat} (different : own ≠ number)
    (change : Cluster → Except Exception α × Cluster) :
    (final (onCluster own change storage)).clusters[number]? = storage.clusters[number]? := by
  cases present : storage.clusters[own]? with
  | none =>
    rw [onCluster_of_none present]
    rfl
  | some cluster =>
    rw [onCluster_of_some present, final_answerOf, withCluster, List.getElem?_set_ne different]

/-- What a client asks of its own cluster, or of the disk, spares all other clusters. -/
private theorem spared_of_client (sound : storage.Sound) {action : Action α} {next : Client → Action α}
    (asks : action = clientAt client >>= next)
    (onOwn : ∀ {own directory}, storage.clients[client]? = some ⟨.cluster own, directory, .none⟩ → own ≠ number →
      (final (action storage)).clusters[number]? = storage.clusters[number]?)
    (onDisk : ∀ {conf directory}, storage.clients[client]? = some ⟨.disk conf, directory, .none⟩ →
      (final (action storage)).clusters = storage.clusters)
    (elsewhere : storage.placeOn? number client path = none) :
    (final (action storage)).clusters[number]? = storage.clusters[number]? := by
  rcases sound.plain.client_cases client with absent | ⟨own, directory, found, -⟩ | ⟨conf, directory, found⟩
  · rw [asks, bind_of_error (clientAt_of_none absent)]
    rfl
  · refine onOwn found fun same => ?_
    simp [placeOn?_of_cluster found, same] at elsewhere
  · rw [onDisk found]

/-- A change of the client's own cluster spares all others. -/
private theorem spared_of_change (sound : storage.Sound) {action : Action α} {next : Client → Action α}
    (asks : action = clientAt client >>= next)
    (onOwn : ∀ {own directory}, storage.clients[client]? = some ⟨.cluster own, directory, .none⟩ →
      ∃ change, action storage = onCluster own change storage)
    (onDisk : ∀ {conf directory}, storage.clients[client]? = some ⟨.disk conf, directory, .none⟩ →
      (final (action storage)).clusters = storage.clusters)
    (elsewhere : storage.placeOn? number client path = none) :
    (final (action storage)).clusters[number]? = storage.clusters[number]? := by
  refine spared_of_client sound asks (fun found different => ?_) onDisk elsewhere
  obtain ⟨change, ran⟩ := onOwn found
  rw [ran]
  exact spared_of_onCluster different change

private theorem spared_createFile (sound : storage.Sound) (options : CreateOptions)
    (elsewhere : storage.placeOn? number client path = none) :
    (final (createWriter client path options storage)).clusters[number]? = storage.clusters[number]? := by
  refine spared_of_client sound rfl (fun {own directory} found different => ?_)
    (fun {conf directory} found => ?_) elsewhere
  · cases present : storage.clusters[own]? with
    | none =>
      have ran : createWriter client path options storage = .error .unknown storage := by
        rw [createWriter, bind_run, clientAt_of_some found]
        simp only [scripted, Script.reaction?, Script.none, List.lookup_nil, bind_run, get, getThe,
          MonadStateOf.get, EStateM.get, onCluster_of_none present]
      rw [ran]
      rfl
    | some cluster =>
      rw [createWriter_of_cluster found present]
      rcases ClusterWriter.create cluster storage.seconds (directory.resolve path) options with ⟨_ | _, _⟩ <;>
        exact List.getElem?_set_ne different
  · rw [createWriter_of_disk found]
    rcases LocalDisk.createWriter conf storage.disk storage.now (directory.resolve path) options with ⟨_ | _, _⟩
    · rfl
    · simp only
      split <;> rfl

private theorem spared_call (sound : storage.Sound) {stream : Nat} (asked : WriterCall)
    (elsewhere : storage.writers number stream = none) :
    (final (call stream asked storage)).clusters[number]? = storage.clusters[number]? := by
  rcases sound.plain.stream_cases stream with absent | ⟨channel, found⟩
  · rw [call_of_none absent]
    rfl
  · cases channel with
    | clusterWriter own writer =>
      have known : storage.writers own stream = some writer := by
        rw [writers, found, Option.bind_some, Channel.writer?, if_pos rfl]
      have different : own ≠ number := by
        rintro rfl
        simp [known] at elsewhere
      obtain ⟨cluster, present⟩ := sound.founded own stream (by simp [known])
      rw [call_of_clusterWriter found present, final_answerOf]
      exact List.getElem?_set_ne different
    | clusterReader own reader | diskReader reader =>
      have ran : final (call stream asked storage) = storage := by
        cases asked <;> simp only [call, write, flush, closeStream, bind_run, streamAt_of_some found] <;> rfl
      rw [ran]
    | diskWriter writer =>
      rw [call_of_diskWriter found, final_answerOf]
      rfl

/-- What is no operation on a cluster leaves the cluster alone. -/
theorem Sound.spared (sound : storage.Sound) (present : storage.clusters[number]? = some cluster)
    (noOperation : storage.operation? number request = none) :
    (storage.after request).clusters[number]? = some cluster := by
  rw [← present]
  have left {β : Type} {action : Action β} (leaves : Leaves Storage.clusters action) :
      (final (action storage)).clusters[number]? = storage.clusters[number]? :=
    congrArg (·[number]?) (final_eq_ended (action storage) ▸ leaves storage)
  cases request with
  | passTime now => rfl
  | startCluster authority conf datanodes capacityEach =>
    exact List.getElem?_append_left (List.getElem?_eq_some_iff.mp present).1
  | joinCluster number => rfl
  | joinDisk conf =>
    exact (congrArg (·.clusters[number]?) (final_discard _)).trans (left (localClient_leaves conf))
  | changeDirectory client path => exact left (changeDirectory_leaves client path)
  | createDirectories client path =>
    refine spared_of_change sound rfl (fun found => ⟨_, createDirectories_of_cluster found⟩) (fun found => ?_)
      (Option.map_eq_none_iff.mp noOperation)
    rw [Storage.serve, createDirectories_of_disk found, final_answerOf]
  | delete client path =>
    refine spared_of_change sound rfl (fun found => ⟨_, delete_of_cluster found⟩) (fun found => ?_)
      (Option.map_eq_none_iff.mp noOperation)
    rw [Storage.serve, delete_of_disk found]
    split <;> rfl
  | rename client source target =>
    have elsewhere : storage.placeOn? number client source = none := by
      simp only [operation?] at noOperation
      split at noOperation
      · contradiction
      · next noPlaces =>
        cases atSource : storage.placeOn? number client source with
        | none => rfl
        | some place =>
          obtain ⟨directory, found, -⟩ := sound.client_of_place atSource
          have atTarget : storage.placeOn? number client target = _ := placeOn?_of_cluster found number
          rw [if_pos rfl] at atTarget
          exact (noPlaces _ _ atSource atTarget).elim
    refine spared_of_change sound rfl (fun found => ⟨_, rename_of_cluster found⟩) (fun found => ?_) elsewhere
    rw [Storage.serve, rename_of_disk found]
    split <;> rfl
  | setReplication client path replication =>
    refine spared_of_change sound rfl (fun found => ⟨_, setReplication_of_cluster found replication⟩)
      (fun found => ?_) (Option.map_eq_none_iff.mp noOperation)
    rw [Storage.serve, setReplication_of_disk found, final_answerOf]
  | lock client path shared =>
    refine spared_of_change sound rfl (fun found => ⟨_, lock_of_cluster found shared⟩) (fun found => ?_)
      (Option.map_eq_none_iff.mp noOperation)
    obtain ⟨diskLocks, ran⟩ := lock_of_disk found path shared
    rw [Storage.serve, ran]
  | release client path =>
    refine spared_of_change sound rfl (fun found => ⟨_, release_of_cluster found⟩) (fun found => ?_)
      (Option.map_eq_none_iff.mp noOperation)
    obtain ⟨diskLocks, ran⟩ := release_of_disk found path
    rw [Storage.serve, ran]
  | openFile client path bufferSize =>
    exact (congrArg (·.clusters[number]?) (final_discard _)).trans
      (left (openReader_leaves blind_clusters.toStreams client path bufferSize))
  | createFile client path options =>
    exact (congrArg (·.clusters[number]?) (final_discard _)).trans
      (spared_createFile sound options (Option.map_eq_none_iff.mp noOperation))
  | read stream count =>
    exact (congrArg (·.clusters[number]?) (final_discard _)).trans
      (left (read_leaves blind_clusters.toStreams stream count))
  | readAt stream position count =>
    exact (congrArg (·.clusters[number]?) (final_discard _)).trans
      (left (readAt_leaves blind_clusters.toStreams stream position count))
  | seek stream position => exact left (seek_leaves blind_clusters.toStreams stream position)
  | call stream asked => exact spared_call sound asked (Option.map_eq_none_iff.mp noOperation)
  | drop stream => exact left (dropStream_leaves blind_clusters stream)

/-! ## One request -/

/-- A cluster that was not there is new. -/
private theorem Deed.fresh {events : Nat → List Event} {after : Storage} (deed : Deed storage events after)
    (absent : storage.clusters[number]? = none) (present : after.clusters[number]? = some later) :
    ∃ now authority conf datanodes capacityEach, later = .new now authority conf datanodes capacityEach := by
  have notSet {own : Nat} {changed : Cluster} (clusters : after.clusters = storage.clusters.set own changed) :
      False := by
    rw [clusters, List.getElem?_eq_none (by simpa using absent)] at present
    contradiction
  cases deed with
  | aside clusters => simp [clusters, absent] at present
  | started now authority conf datanodes capacityEach clusters =>
    rw [clusters, List.getElem?_append_right (List.getElem?_eq_none_iff.mp absent)] at present
    exact ⟨now, authority, conf, datanodes, capacityEach, List.mem_singleton.mp (List.mem_of_getElem? present)⟩
  | changed _ _ clusters | created _ _ _ _ _ clusters | called _ _ _ _ clusters => exact (notSet clusters).elim

/-- After a request a cluster is new, or as it was, or what an operation made of it. -/
theorem Sound.cluster_cases (sound : storage.Sound) (request : Request)
    (present : (storage.after request).clusters[number]? = some later) :
    (∃ now authority conf datanodes capacityEach, storage.clusters[number]? = none ∧
        later = .new now authority conf datanodes capacityEach) ∨
      (storage.clusters[number]? = some later ∧ storage.operation? number request = none) ∨
      ∃ cluster operation, storage.clusters[number]? = some cluster ∧
        storage.operation? number request = some operation ∧ later = (operation.perform cluster).2 := by
  cases before : storage.clusters[number]? with
  | none =>
    obtain ⟨deed, -⟩ := deed_of_request sound.plain sound.founded request
    obtain ⟨now, authority, conf, datanodes, capacityEach, isNew⟩ := deed.fresh before present
    exact .inl ⟨now, authority, conf, datanodes, capacityEach, rfl, isNew⟩
  | some cluster =>
    cases isOperation : storage.operation? number request with
    | none =>
      rw [sound.spared before isOperation] at present
      exact .inr (.inl ⟨present, rfl⟩)
    | some operation =>
      rw [(sound.performs before isOperation).2,
        List.getElem?_set_self (List.getElem?_eq_some_iff.mp before).1] at present
      exact .inr (.inr ⟨cluster, operation, rfl, rfl, (Option.some.inj present).symm⟩)

/-- What new clusters have and every operation keeps, all clusters of a run have. -/
theorem Sound.clusters_run (sound : storage.Sound) {holds : Cluster → Prop}
    (fresh : ∀ now authority conf datanodes capacityEach, holds (.new now authority conf datanodes capacityEach))
    (kept : ∀ (cluster : Cluster) (operation : Operation), cluster.tree.IsTree → holds cluster →
      holds (operation.perform cluster).2)
    (start : ∀ (number : Nat) (cluster : Cluster), storage.clusters[number]? = some cluster → holds cluster)
    (requests : List Request) :
    ∀ (number : Nat) (cluster : Cluster), (storage.run requests).clusters[number]? = some cluster → holds cluster := by
  induction requests generalizing storage with
  | nil => exact start
  | cons request rest ih =>
    refine ih (sound.serve request) fun number later present => ?_
    rcases sound.cluster_cases request present with ⟨now, authority, conf, datanodes, capacityEach, -, rfl⟩ |
      ⟨known, -⟩ | ⟨cluster, operation, known, -, rfl⟩
    · exact fresh now authority conf datanodes capacityEach
    · exact start number later known
    · exact kept cluster operation (sound.trees cluster (List.mem_of_getElem? known)) (start number cluster known)

end Storage

end FileGateway
