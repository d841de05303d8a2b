import FileGateway.Proofs.Cluster.Change
import FileGateway.Proofs.Storage.Actions

/-! # What one request does

Requests are all that can be asked of storage, by any number of clients and streams. `Deed` says what
one request does to clusters and their writers, whether it is served or refused; what runs keep is
derived from that alone. What succeeds in a cluster enters the log of that cluster.
-/

namespace FileGateway

open Function (update)

/-- What can be asked of storage: by whoever sets it up, of clients, and of streams. -/
inductive Request
  | passTime (now : Int)
  | startCluster (authority : String) (conf : Configuration) (datanodes : List String)
    (capacityEach : UInt64)
  | joinCluster (number : Nat)
  | joinDisk (conf : Configuration)
  | changeDirectory (client : Nat) (path : Path)
  | createDirectories (client : Nat) (path : Path)
  | delete (client : Nat) (path : Path)
  | rename (client : Nat) (source target : Path)
  | setReplication (client : Nat) (path : Path) (replication : UInt16)
  | lock (client : Nat) (path : Path) (shared : Bool)
  | release (client : Nat) (path : Path)
  | openFile (client : Nat) (path : Path) (bufferSize : UInt64)
  | createFile (client : Nat) (path : Path) (options : CreateOptions)
  | read (stream count : Nat)
  | readAt (stream position count : Nat)
  | seek (stream position : Nat)
  | call (stream : Nat) (call : WriterCall)
  | drop (stream : Nat)
deriving DecidableEq, Repr

def Channel.writes : Channel → Bool
  | clusterWriter _ _ | diskWriter _ => true
  | clusterReader _ _ | diskReader _ => false

/-- The writer on a cluster that a channel is. -/
def Channel.writer? (number : Nat) : Channel → Option ClusterWriter
  | clusterWriter cluster writer => if cluster = number then some writer else none
  | clusterReader _ _ | diskReader _ | diskWriter _ => none

namespace Storage

variable {storage : Storage} {client stream number : Nat} {path : Path}

/-- Serves a request and drops the answer. -/
def serve : Request → Action Unit
  | .passTime now => modify ({ · with now })
  | .startCluster authority conf datanodes capacityEach => do
    let _ ← startCluster authority conf datanodes capacityEach
  | .joinCluster number => do
    let _ ← clusterClient number .none
  | .joinDisk conf => do
    let _ ← localClient conf
  | .changeDirectory client path => changeDirectory client path
  | .createDirectories client path => createDirectories client path
  | .delete client path => delete client path
  | .rename client source target => rename client source target
  | .setReplication client path replication => setReplication client path replication
  | .lock client path shared => lock client path shared
  | .release client path => release client path
  | .openFile client path bufferSize => do
    let _ ← openReader client path bufferSize
  | .createFile client path options => do
    let _ ← createWriter client path options
  | .read stream count => do
    let _ ← read stream count
  | .readAt stream position count => do
    let _ ← readAt stream position count
  | .seek stream position => seek stream position
  | .call stream asked => call stream asked
  | .drop stream => dropStream stream

/-- The storage after a request, served or refused. -/
def after (storage : Storage) (request : Request) : Storage := final (serve request storage)

/-! ## The log of a cluster -/

/-- The writers on a cluster, by stream. -/
def writers (storage : Storage) (number stream : Nat) : Option ClusterWriter :=
  (storage.streams[stream]?).bind fun found => found.channel.writer? number

/-- What a cluster holds for its writers; nothing before it is started. -/
def scene (storage : Storage) (number : Nat) : Scene :=
  ⟨fun place => (storage.clusters[number]?).bind (·.tree.view place), storage.writers number⟩

/-- The place that a path means to a client of a cluster. -/
def placeOn? (storage : Storage) (number client : Nat) (path : Path) : Option Location :=
  match storage.clients[client]? with
  | some ⟨.cluster own, directory, _⟩ => if own = number then some (directory.resolve path) else none
  | _ => none

def succeeded {α : Type} : EStateM.Result Failure Storage α → Bool
  | .ok _ _ => true
  | .error _ _ => false

/-- What a request adds to the log of a cluster. -/
def events (storage : Storage) (number : Nat) : Request → List Event
  | .createFile client path options =>
    match createWriter client path options storage with
    | .ok stream _ => (storage.placeOn? number client path).toList.map (.created · stream)
    | .error _ _ => []
  | .delete client path =>
    if succeeded (delete client path storage) then
      (storage.placeOn? number client path).toList.map .deleted
    else []
  | .rename client source target =>
    if succeeded (rename client source target storage) then
      match storage.placeOn? number client source, storage.placeOn? number client target with
      | some source, some target => [.renamed source target]
      | _, _ => []
    else []
  | .call stream asked =>
    if (storage.writers number stream).isSome then
      [.called stream asked (succeeded (call stream asked storage))]
    else []
  | _ => []

/-! ## Deeds -/

/-- No client or stream is scripted, and clients of clusters stay in proper places. -/
structure Plain (storage : Storage) : Prop where
  clients : ∀ client ∈ storage.clients, client.script = .none ∧
    ∀ number, client.backend = .cluster number → client.directory.Proper
  streams : ∀ stream ∈ storage.streams, stream.script = .none

inductive Deed (storage : Storage) : (Nat → List Event) → Storage → Prop
  | aside {after : Storage} (clusters : after.clusters = storage.clusters)
      (writers : after.writers = storage.writers) : Deed storage (fun _ => []) after
  | started {after : Storage} (now : Int) (authority : String) (conf : Configuration)
      (datanodes : List String) (capacityEach : UInt64)
      (clusters : after.clusters = storage.clusters ++ [.new now authority conf datanodes capacityEach])
      (writers : after.writers = storage.writers) : Deed storage (fun _ => []) after
  | changed {number : Nat} {cluster changed : Cluster} {events : List Event} {after : Storage}
      (present : storage.clusters[number]? = some cluster) (change : cluster.Change events changed)
      (clusters : after.clusters = storage.clusters.set number changed)
      (writers : after.writers = storage.writers) :
      Deed storage (update (fun _ => []) number events) after
  | created {number stream : Nat} {cluster changed : Cluster} {now : Int} {location : Location}
      {options : CreateOptions} {after : Storage}
      (present : storage.clusters[number]? = some cluster) (proper : location.Proper)
      (done : cluster.startFile now location options = (.ok (), changed))
      (new : ∀ other, storage.writers other stream = none) (bufferSize : UInt64)
      (clusters : after.clusters = storage.clusters.set number changed)
      (writers : after.writers = update storage.writers number
        (update (storage.writers number) stream (some ⟨location, [], bufferSize, 0, false⟩))) :
      Deed storage (update (fun _ => []) number [.created location stream]) after
  | called {number stream : Nat} {cluster : Cluster} {writer : ClusterWriter} {after : Storage}
      (present : storage.clusters[number]? = some cluster)
      (found : storage.writers number stream = some writer) (now : Int) (asked : WriterCall)
      (clusters : after.clusters =
        storage.clusters.set number (writer.answer cluster now asked).2.2)
      (writers : after.writers = update storage.writers number
        (update (storage.writers number) stream (some (writer.answer cluster now asked).2.1))) :
      Deed storage (update (fun _ => []) number
        [.called stream asked (writer.answer cluster now asked).1.toBool]) after

namespace Deed

theorem of_same {after : Storage} (clusters : after.clusters = storage.clusters)
    (streams : after.streams = storage.streams) : Deed storage (fun _ => []) after :=
  .aside clusters (by funext number stream; rw [writers, writers, streams])

end Deed

private theorem writers_concat {after : Storage} {found : Stream}
    (streams : after.streams = storage.streams ++ [found]) (number : Nat) :
    after.writers number =
      update (storage.writers number) storage.streams.length (found.channel.writer? number) := by
  funext stream
  rw [writers, streams, Function.update_apply, writers]
  split
  · next atEnd => rw [atEnd, List.getElem?_concat_length, Option.bind_some]
  · next elsewhere =>
    rcases Nat.lt_or_gt_of_ne elsewhere with before | beyond
    · rw [List.getElem?_append_left before]
    · rw [List.getElem?_eq_none (by simp; omega), List.getElem?_eq_none (by omega)]

private theorem writers_modify {after : Storage} {old : Stream} {channel : Channel}
    (found : storage.streams[stream]? = some old)
    (streams : after.streams = storage.streams.modify stream ({ · with channel })) (number : Nat) :
    after.writers number = update (storage.writers number) stream (channel.writer? number) := by
  funext other
  rw [writers, streams, Function.update_apply, writers, List.getElem?_modify]
  split
  · next same =>
    subst same
    simp [found]
  · next different => simp [Ne.symm different]

private theorem writers_length (storage : Storage) (number : Nat) :
    storage.writers number storage.streams.length = none := by
  rw [writers, List.getElem?_eq_none le_rfl, Option.bind_none]

private theorem Plain.concat {after : Storage} {channel : Channel} (plain : storage.Plain)
    (clients : after.clients = storage.clients)
    (streams : after.streams = storage.streams ++ [⟨channel, .none⟩]) : after.Plain where
  clients := by rw [clients]; exact plain.clients
  streams found member := by
    rw [streams] at member
    rcases List.mem_append.mp member with member | member
    · exact plain.streams found member
    · rw [List.mem_singleton.mp member]

private theorem Plain.modify {after : Storage} {channel : Channel} (plain : storage.Plain)
    (clients : after.clients = storage.clients)
    (streams : after.streams = storage.streams.modify stream ({ · with channel })) : after.Plain where
  clients := by rw [clients]; exact plain.clients
  streams found member := by
    rw [streams] at member
    obtain ⟨position, atPosition⟩ := List.mem_iff_getElem?.mp member
    rw [List.getElem?_modify, Option.map_eq_map, Option.map_eq_some_iff] at atPosition
    obtain ⟨old, present, rfl⟩ := atPosition
    have unscripted := plain.streams old (List.mem_of_getElem? present)
    split <;> exact unscripted

/-- A stream is opened that writes on no cluster. -/
private theorem Deed.opened {after : Storage} {found : Stream} (clusters : after.clusters = storage.clusters)
    (streams : after.streams = storage.streams ++ [found])
    (other : ∀ number, found.channel.writer? number = none) : Deed storage (fun _ => []) after := by
  refine .aside clusters ?_
  funext number
  rw [writers_concat streams, other, ← writers_length storage number, Function.update_eq_self]

/-- A stream moves on that writes on no cluster. -/
private theorem Deed.moved {after : Storage} {old : Stream} {channel : Channel}
    (found : storage.streams[stream]? = some old) (clusters : after.clusters = storage.clusters)
    (streams : after.streams = storage.streams.modify stream ({ · with channel }))
    (before : ∀ number, old.channel.writer? number = none)
    (later : ∀ number, channel.writer? number = none) : Deed storage (fun _ => []) after := by
  refine .aside clusters ?_
  funext number
  have nothing : storage.writers number stream = none := by
    rw [writers, found, Option.bind_some, before]
  rw [writers_modify found streams, later, ← nothing, Function.update_eq_self]

/-! ## Requests to clients -/

theorem placeOn?_of_cluster {directory : Location}
    (found : storage.clients[client]? = some ⟨.cluster number, directory, .none⟩) (other : Nat) :
    storage.placeOn? other client path = if number = other then some (directory.resolve path) else none := by
  rw [placeOn?, found]

theorem placeOn?_of_disk {conf : Configuration} {directory : Location}
    (found : storage.clients[client]? = some ⟨.disk conf, directory, .none⟩) (other : Nat) :
    storage.placeOn? other client path = none := by
  rw [placeOn?, found]

/-- A client is unknown, or works on a cluster or on the disk. -/
theorem Plain.client_cases (plain : storage.Plain) (client : Nat) :
    storage.clients[client]? = none ∨
    (∃ number directory, storage.clients[client]? = some ⟨.cluster number, directory, .none⟩ ∧
      directory.Proper) ∨
    (∃ conf directory, storage.clients[client]? = some ⟨.disk conf, directory, .none⟩) := by
  cases found : storage.clients[client]? with
  | none => exact .inl rfl
  | some known =>
    obtain ⟨unscripted, proper⟩ := plain.clients known (List.mem_of_getElem? found)
    obtain ⟨backend, directory, script⟩ := known
    obtain rfl : script = .none := unscripted
    cases backend with
    | cluster number => exact .inr (.inl ⟨number, directory, rfl, proper number rfl⟩)
    | disk conf => exact .inr (.inr ⟨conf, directory, rfl⟩)

theorem withCluster_self {cluster : Cluster} (present : storage.clusters[number]? = some cluster) :
    storage.withCluster number cluster = storage := by
  obtain ⟨bound, rfl⟩ := List.getElem?_eq_some_iff.mp present
  rw [withCluster, List.set_getElem_self]

@[simp] theorem withCluster_withCluster (first second : Cluster) :
    (storage.withCluster number first).withCluster number second = storage.withCluster number second := by
  simp only [withCluster, List.set_set]

theorem clusters_withCluster {cluster : Cluster} (present : storage.clusters[number]? = some cluster)
    (changed : Cluster) : (storage.withCluster number changed).clusters[number]? = some changed :=
  List.getElem?_set_self (List.getElem?_eq_some_iff.mp present).1

/-- An entry in the log of one cluster. -/
private theorem entry_at (number : Nat) (location : Location) (entry : Location → Event) :
    (fun other => (if number = other then some location else none).toList.map entry) =
      update (fun _ => []) number [entry location] := by
  funext other
  rw [Function.update_apply]
  by_cases same : number = other
  · simp [same]
  · simp [same, Ne.symm same]

/-- A change that leaves no trace in the log. -/
private theorem deed_onCluster (plain : storage.Plain) (number : Nat)
    {change : Cluster → Except Exception Unit × Cluster}
    (changes : ∀ cluster : Cluster, cluster.Change [] (change cluster).2) :
    Deed storage (fun _ => []) (final (onCluster number change storage)) ∧
      Plain (final (onCluster number change storage)) := by
  cases present : storage.clusters[number]? with
  | none =>
    rw [onCluster_of_none present]
    exact ⟨.of_same rfl rfl, plain⟩
  | some cluster =>
    rw [onCluster_of_some present, final_answerOf]
    refine ⟨?_, plain.clients, plain.streams⟩
    have deed : Deed storage _ (storage.withCluster number (change cluster).2) :=
      .changed present (changes cluster) rfl rfl
    rwa [Function.update_eq_self] at deed

private theorem deed_createDirectories (plain : storage.Plain) (client : Nat) (path : Path) :
    Deed storage (fun _ => []) (final (createDirectories client path storage)) ∧
      Plain (final (createDirectories client path storage)) := by
  rcases plain.client_cases client with absent | ⟨number, directory, found, proper⟩ | ⟨conf, directory, found⟩
  · rw [createDirectories, bind_run, clientAt_of_none absent]
    exact ⟨.of_same rfl rfl, plain⟩
  · rw [createDirectories_of_cluster found]
    exact deed_onCluster plain number fun cluster => .filled _ (Location.proper_resolve proper path)
  · rw [createDirectories_of_disk found, final_answerOf]
    exact ⟨.of_same rfl rfl, plain.clients, plain.streams⟩

private theorem deed_setReplication (plain : storage.Plain) (client : Nat) (path : Path)
    (replication : UInt16) :
    Deed storage (fun _ => []) (final (setReplication client path replication storage)) ∧
      Plain (final (setReplication client path replication storage)) := by
  rcases plain.client_cases client with absent | ⟨number, directory, found, proper⟩ | ⟨conf, directory, found⟩
  · rw [setReplication, bind_run, clientAt_of_none absent]
    exact ⟨.of_same rfl rfl, plain⟩
  · rw [setReplication_of_cluster found]
    apply deed_onCluster plain number
    intro cluster
    rcases same : cluster.setReplication (directory.resolve path) replication with
      ⟨exception | ⟨⟩, changed⟩
    · rw [Cluster.setReplication_error same]
      exact .none
    · exact .replicated same
  · rw [setReplication_of_disk found, final_answerOf]
    exact ⟨.of_same rfl rfl, plain⟩

private theorem deed_lock (plain : storage.Plain) (client : Nat) (path : Path) (shared : Bool) :
    Deed storage (fun _ => []) (final (lock client path shared storage)) ∧
      Plain (final (lock client path shared storage)) := by
  rcases plain.client_cases client with absent | ⟨number, directory, found, proper⟩ | ⟨conf, directory, found⟩
  · rw [lock, bind_run, clientAt_of_none absent]
    exact ⟨.of_same rfl rfl, plain⟩
  · rw [lock_of_cluster found]
    apply deed_onCluster plain number
    intro cluster
    rw [Cluster.lock]
    split
    · exact .locked _
    · exact .none
  · obtain ⟨diskLocks, ran⟩ := lock_of_disk found path shared
    rw [ran]
    exact ⟨.of_same rfl rfl, plain.clients, plain.streams⟩

private theorem deed_release (plain : storage.Plain) (client : Nat) (path : Path) :
    Deed storage (fun _ => []) (final (release client path storage)) ∧
      Plain (final (release client path storage)) := by
  rcases plain.client_cases client with absent | ⟨number, directory, found, proper⟩ | ⟨conf, directory, found⟩
  · rw [release, bind_run, clientAt_of_none absent]
    exact ⟨.of_same rfl rfl, plain⟩
  · rw [release_of_cluster found]
    exact deed_onCluster plain number fun cluster => .locked _
  · obtain ⟨diskLocks, ran⟩ := release_of_disk found path
    rw [ran]
    exact ⟨.of_same rfl rfl, plain.clients, plain.streams⟩

/-- A client moves to wherever the path leads, whether anything is there or not. -/
theorem Plain.changeDirectory_run (plain : storage.Plain) {found : Client}
    (present : storage.clients[client]? = some found) (path : Path) :
    changeDirectory client path storage = .ok () { storage with
      clients := storage.clients.set client { found with directory := found.directory.resolve path } } := by
  rw [changeDirectory, bind_run, clientAt_of_some present]
  simp only [(plain.clients found (List.mem_of_getElem? present)).1]
  rfl

private theorem deed_changeDirectory (plain : storage.Plain) (client : Nat) (path : Path) :
    Deed storage (fun _ => []) (final (changeDirectory client path storage)) ∧
      Plain (final (changeDirectory client path storage)) := by
  cases present : storage.clients[client]? with
  | none =>
    rw [changeDirectory, bind_run, clientAt_of_none present]
    exact ⟨.of_same rfl rfl, plain⟩
  | some found =>
    obtain ⟨unscripted, proper⟩ := plain.clients found (List.mem_of_getElem? present)
    rw [plain.changeDirectory_run present]
    refine ⟨.of_same rfl rfl, fun other member => ?_, plain.streams⟩
    rcases List.mem_or_eq_of_mem_set member with member | rfl
    · exact plain.clients other member
    · exact ⟨unscripted, fun number same => Location.proper_resolve (proper number same) path⟩

private theorem deed_openReader (plain : storage.Plain) (client : Nat) (path : Path) (bufferSize : UInt64) :
    Deed storage (fun _ => []) (final (openReader client path bufferSize storage)) ∧
      Plain (final (openReader client path bufferSize storage)) := by
  rcases plain.client_cases client with absent | ⟨number, directory, found, proper⟩ | ⟨conf, directory, found⟩
  · rw [openReader, bind_run, clientAt_of_none absent]
    exact ⟨.of_same rfl rfl, plain⟩
  · cases present : storage.clusters[number]? with
    | none =>
      rw [openReader_of_no_cluster found present]
      exact ⟨.of_same rfl rfl, plain⟩
    | some cluster =>
      rw [openReader_of_cluster found present]
      split
      · exact ⟨.opened rfl rfl fun _ => rfl, plain.concat rfl rfl⟩
      · exact ⟨.of_same rfl rfl, plain⟩
  · rw [openReader_of_disk found]
    split
    · split
      · exact ⟨.of_same rfl rfl, plain⟩
      · exact ⟨.opened rfl rfl fun _ => rfl, plain.concat rfl rfl⟩
    · exact ⟨.of_same rfl rfl, plain⟩

/-! ## Requests that enter the log -/

private theorem deed_delete (plain : storage.Plain) (client : Nat) (path : Path) :
    Deed storage (fun number => storage.events number (.delete client path))
        (final (delete client path storage)) ∧ Plain (final (delete client path storage)) := by
  rcases plain.client_cases client with absent | ⟨number, directory, found, proper⟩ | ⟨conf, directory, found⟩
  · simp only [events, delete, bind_run, clientAt_of_none absent, succeeded, Bool.false_eq_true, if_false]
    exact ⟨.of_same rfl rfl, plain⟩
  · simp only [events, placeOn?_of_cluster found, delete_of_cluster found]
    cases present : storage.clusters[number]? with
    | none =>
      simp only [onCluster_of_none present, succeeded, Bool.false_eq_true, if_false]
      exact ⟨.of_same rfl rfl, plain⟩
    | some cluster =>
      rw [onCluster_of_some present, final_answerOf]
      refine ⟨?_, plain.clients, plain.streams⟩
      rcases done : cluster.delete (directory.resolve path) with ⟨exception | ⟨⟩, changed⟩
      · rw [Cluster.delete_error done, withCluster_self present]
        exact .of_same rfl rfl
      · simp only [answerOf, pure, EStateM.pure, succeeded, if_true, entry_at]
        exact .changed present (.deleted done) rfl rfl
  · simp only [events, placeOn?_of_disk found, Option.toList_none, List.map_nil, ite_self]
    rw [delete_of_disk found]
    split <;> exact ⟨.of_same rfl rfl, plain.clients, plain.streams⟩

private theorem deed_rename (plain : storage.Plain) (client : Nat) (source target : Path) :
    Deed storage (fun number => storage.events number (.rename client source target))
        (final (rename client source target storage)) ∧
      Plain (final (rename client source target storage)) := by
  rcases plain.client_cases client with absent | ⟨number, directory, found, proper⟩ | ⟨conf, directory, found⟩
  · simp only [events, rename, bind_run, clientAt_of_none absent, succeeded, Bool.false_eq_true, if_false]
    exact ⟨.of_same rfl rfl, plain⟩
  · simp only [events, placeOn?_of_cluster found, rename_of_cluster found]
    cases present : storage.clusters[number]? with
    | none =>
      simp only [onCluster_of_none present, succeeded, Bool.false_eq_true, if_false]
      exact ⟨.of_same rfl rfl, plain⟩
    | some cluster =>
      rw [onCluster_of_some present, final_answerOf]
      refine ⟨?_, plain.clients, plain.streams⟩
      rcases done : cluster.rename (directory.resolve source) (directory.resolve target) with
        ⟨exception | ⟨⟩, changed⟩
      · rw [Cluster.rename_error done, withCluster_self present]
        exact .of_same rfl rfl
      · have deed : Deed storage _ (storage.withCluster number changed) :=
          .changed present (.renamed (Location.proper_resolve proper target) done) rfl rfl
        rw [← entry_at number (directory.resolve source) (.renamed · (directory.resolve target))] at deed
        convert deed using 2 with other
        by_cases same : number = other <;> simp [same, succeeded, answerOf, pure, EStateM.pure]
  · simp only [events, placeOn?_of_disk found, ite_self]
    rw [rename_of_disk found]
    split <;> exact ⟨.of_same rfl rfl, plain.clients, plain.streams⟩

private theorem deed_createWriter (plain : storage.Plain) (client : Nat) (path : Path)
    (options : CreateOptions) :
    Deed storage (fun number => storage.events number (.createFile client path options))
        (final (createWriter client path options storage)) ∧
      Plain (final (createWriter client path options storage)) := by
  rcases plain.client_cases client with absent | ⟨number, directory, found, proper⟩ | ⟨conf, directory, found⟩
  · simp only [events, createWriter, bind_run, clientAt_of_none absent]
    exact ⟨.of_same rfl rfl, plain⟩
  · cases present : storage.clusters[number]? with
    | none =>
      simp only [events, createWriter_of_no_cluster found present]
      exact ⟨.of_same rfl rfl, plain⟩
    | some cluster =>
      simp only [events, placeOn?_of_cluster found, createWriter_of_cluster found present,
        ClusterWriter.create]
      rcases done : cluster.startFile storage.seconds (directory.resolve path) options with
        ⟨exception | ⟨⟩, changed⟩
      · have deed : Deed storage _ (storage.withCluster number changed) :=
          .changed present (.refused done) rfl rfl
        rw [Function.update_eq_self] at deed
        exact ⟨deed, plain.clients, plain.streams⟩
      · simp only [entry_at number (directory.resolve path) (.created · storage.streams.length)]
        refine ⟨.created present (Location.proper_resolve proper path) done
          (writers_length storage) (cluster.conf.bufferSizeOr options.bufferSize) rfl ?_,
          plain.concat rfl rfl⟩
        funext other
        rw [writers_concat rfl, Function.update_apply]
        split
        · next same => rw [same, Channel.writer?, if_pos rfl]
        · next different =>
          rw [Channel.writer?, if_neg (Ne.symm different), ← writers_length storage other,
            Function.update_eq_self]
  · simp only [events, placeOn?_of_disk found, Option.toList_none, List.map_nil]
    rw [createWriter_of_disk found]
    have quiet (after : EStateM.Result Failure Storage Nat) :
        (match after with | .ok _ _ => [] | .error _ _ => ([] : List Event)) = [] := by
      cases after <;> rfl
    simp only [quiet]
    split
    · split
      · exact ⟨.of_same rfl rfl, plain.clients, plain.streams⟩
      · exact ⟨.opened rfl rfl fun _ => rfl, plain.concat rfl rfl⟩
    · exact ⟨.of_same rfl rfl, plain.clients, plain.streams⟩

/-! ## Requests to streams -/

theorem Plain.stream_cases (plain : storage.Plain) (stream : Nat) :
    storage.streams[stream]? = none ∨
      ∃ channel, storage.streams[stream]? = some ⟨channel, .none⟩ := by
  cases found : storage.streams[stream]? with
  | none => exact .inl rfl
  | some known =>
    obtain ⟨channel, script⟩ := known
    obtain rfl : script = .none := plain.streams _ (List.mem_of_getElem? found)
    exact .inr ⟨channel, rfl⟩

private theorem deed_read (plain : storage.Plain) (stream count : Nat) :
    Deed storage (fun _ => []) (final (read stream count storage)) ∧
      Plain (final (read stream count storage)) := by
  rcases plain.stream_cases stream with absent | ⟨channel, found⟩
  · rw [read, bind_run, streamAt_of_none absent]
    exact ⟨.of_same rfl rfl, plain⟩
  · rw [read, bind_run, streamAt_of_some found]
    simp only [scripted, Script.reaction?, Script.none, List.lookup_nil]
    cases channel with
    | clusterWriter | diskWriter => exact ⟨.of_same rfl rfl, plain⟩
    | diskReader reader =>
      simp only [bind_run, get, getThe, MonadStateOf.get, EStateM.get]
      rcases reader.read storage.disk count with ⟨_ | _, _⟩ <;>
        exact ⟨.moved found rfl rfl (fun _ => rfl) fun _ => rfl, plain.modify rfl rfl⟩
    | clusterReader number reader =>
      simp only [bind_run]
      cases present : storage.clusters[number]? with
      | none =>
        simp only [clusterAt_of_none present]
        exact ⟨.of_same rfl rfl, plain⟩
      | some cluster =>
        simp only [clusterAt_of_some present]
        rcases reader.read cluster count with ⟨_ | _, _⟩ <;>
          exact ⟨.moved found rfl rfl (fun _ => rfl) fun _ => rfl, plain.modify rfl rfl⟩

private theorem deed_readAt (plain : storage.Plain) (stream position count : Nat) :
    Deed storage (fun _ => []) (final (readAt stream position count storage)) ∧
      Plain (final (readAt stream position count storage)) := by
  rcases plain.stream_cases stream with absent | ⟨channel, found⟩
  · rw [readAt, bind_run, streamAt_of_none absent]
    exact ⟨.of_same rfl rfl, plain⟩
  · rw [readAt, bind_run, streamAt_of_some found]
    simp only [scripted, Script.reaction?, Script.none, List.lookup_nil]
    cases channel with
    | clusterWriter | diskWriter => exact ⟨.of_same rfl rfl, plain⟩
    | diskReader reader =>
      simp only [bind_run, get, getThe, MonadStateOf.get, EStateM.get]
      rcases reader.readAt storage.disk position count with ⟨_ | _, _⟩ <;>
        exact ⟨.moved found rfl rfl (fun _ => rfl) fun _ => rfl, plain.modify rfl rfl⟩
    | clusterReader number reader =>
      simp only [bind_run]
      cases present : storage.clusters[number]? with
      | none =>
        simp only [askCluster, bind_run, clusterAt_of_none present]
        exact ⟨.of_same rfl rfl, plain⟩
      | some cluster =>
        rw [askCluster_of_some present]
        cases reader.readAt cluster position count <;> exact ⟨.of_same rfl rfl, plain⟩

private theorem deed_seek (plain : storage.Plain) (stream position : Nat) :
    Deed storage (fun _ => []) (final (seek stream position storage)) ∧
      Plain (final (seek stream position storage)) := by
  rcases plain.stream_cases stream with absent | ⟨channel, found⟩
  · rw [seek, bind_run, streamAt_of_none absent]
    exact ⟨.of_same rfl rfl, plain⟩
  · rw [seek, bind_run, streamAt_of_some found]
    simp only [scripted, Script.reaction?, Script.none, List.lookup_nil]
    cases channel with
    | clusterWriter | diskWriter => exact ⟨.of_same rfl rfl, plain⟩
    | diskReader reader =>
      simp only [bind_run, get, getThe, MonadStateOf.get, EStateM.get]
      rcases reader.seek storage.disk position with ⟨_ | _, _⟩ <;>
        exact ⟨.moved found rfl rfl (fun _ => rfl) fun _ => rfl, plain.modify rfl rfl⟩
    | clusterReader number reader =>
      simp only [bind_run]
      cases present : storage.clusters[number]? with
      | none =>
        simp only [clusterAt_of_none present]
        exact ⟨.of_same rfl rfl, plain⟩
      | some cluster =>
        simp only [clusterAt_of_some present]
        rcases reader.seek cluster position with ⟨_ | _, _⟩ <;>
          exact ⟨.moved found rfl rfl (fun _ => rfl) fun _ => rfl, plain.modify rfl rfl⟩

private theorem deed_dropStream (plain : storage.Plain) (stream : Nat) :
    Deed storage (fun _ => []) (final (dropStream stream storage)) ∧
      Plain (final (dropStream stream storage)) := by
  rcases plain.stream_cases stream with absent | ⟨channel, found⟩
  · rw [dropStream, bind_run, streamAt_of_none absent]
    exact ⟨.of_same rfl rfl, plain⟩
  · rw [dropStream, bind_run, streamAt_of_some found]
    cases channel with
    | clusterWriter | clusterReader | diskReader => exact ⟨.of_same rfl rfl, plain⟩
    | diskWriter writer => exact ⟨.moved found rfl rfl (fun _ => rfl) fun _ => rfl, plain.modify rfl rfl⟩

/-- Writers are on clusters that were started. -/
def Founded (storage : Storage) : Prop :=
  ∀ number stream, storage.writers number stream ≠ none → ∃ cluster, storage.clusters[number]? = some cluster

/-- A call on a writer of a cluster is an event of that cluster alone. -/
private theorem deed_call_of_clusterWriter (plain : storage.Plain) (founded : storage.Founded)
    {stream number : Nat} {writer : ClusterWriter}
    (found : storage.streams[stream]? = some ⟨.clusterWriter number writer, .none⟩) (asked : WriterCall) :
    Deed storage (fun number => storage.events number (.call stream asked))
        (final (call stream asked storage)) ∧ Plain (final (call stream asked storage)) := by
  have own : storage.writers number stream = some writer := by
    rw [writers, found, Option.bind_some, Channel.writer?, if_pos rfl]
  have others {other : Nat} (different : other ≠ number) : storage.writers other stream = none := by
    rw [writers, found, Option.bind_some, Channel.writer?, if_neg (Ne.symm different)]
  obtain ⟨cluster, present⟩ := founded number stream (by simp [own])
  have outcome (after : Storage) : succeeded (answerOf (writer.answer cluster storage.seconds asked).1
      after) = (writer.answer cluster storage.seconds asked).1.toBool := by
    rcases (writer.answer cluster storage.seconds asked).1 with _ | _ <;> rfl
  have entry (event : Event) :
      (fun other => if (storage.writers other stream).isSome then [event] else []) =
        update (fun _ => []) number [event] := by
    funext other
    rw [Function.update_apply]
    by_cases same : other = number
    · simp [same, own]
    · simp [same, others same]
  simp only [events]
  rw [call_of_clusterWriter found present, final_answerOf]
  simp only [outcome, entry]
  refine ⟨.called present own storage.seconds asked rfl ?_, plain.modify rfl rfl⟩
  funext other
  rw [writers_modify found rfl, Function.update_apply]
  split
  · next same => rw [same, Channel.writer?, if_pos rfl]
  · next different =>
    rw [Channel.writer?, if_neg (Ne.symm different), ← others different, Function.update_eq_self]

private theorem deed_call (plain : storage.Plain) (founded : storage.Founded) (stream : Nat)
    (asked : WriterCall) :
    Deed storage (fun number => storage.events number (.call stream asked))
        (final (call stream asked storage)) ∧ Plain (final (call stream asked storage)) := by
  rcases plain.stream_cases stream with absent | ⟨channel, found⟩
  · rw [call_of_none absent]
    simp only [events, writers, absent, Option.bind_none, Option.isSome_none, Bool.false_eq_true, if_false]
    exact ⟨.of_same rfl rfl, plain⟩
  · cases channel with
    | clusterWriter number writer => exact deed_call_of_clusterWriter plain founded found asked
    | clusterReader number reader | diskReader reader =>
      have ran : final (call stream asked storage) = storage := by
        cases asked <;> simp only [call, write, flush, closeStream, bind_run, streamAt_of_some found] <;> rfl
      simp only [events, writers, found, Option.bind_some]
      rw [ran]
      exact ⟨.of_same rfl rfl, plain⟩
    | diskWriter writer =>
      simp only [events, writers, found, Option.bind_some]
      rw [call_of_diskWriter found, final_answerOf]
      exact ⟨.moved found rfl rfl (fun _ => rfl) fun _ => rfl, plain.modify rfl rfl⟩

/-- Every request does one deed, and leaves all clients and streams plain. -/
theorem deed_of_request (plain : storage.Plain) (founded : storage.Founded) (request : Request) :
    Deed storage (fun number => storage.events number request) (storage.after request) ∧
      (storage.after request).Plain := by
  cases request with
  | passTime now => exact ⟨.of_same rfl rfl, plain.clients, plain.streams⟩
  | startCluster authority conf datanodes capacityEach =>
    exact ⟨.started storage.seconds authority conf datanodes capacityEach rfl rfl, plain.clients, plain.streams⟩
  | joinCluster number =>
    refine ⟨.of_same rfl rfl, fun client member => ?_, plain.streams⟩
    rcases List.mem_append.mp member with member | member
    · exact plain.clients client member
    · rw [List.mem_singleton.mp member]
      exact ⟨rfl, fun _ _ => Location.proper_root⟩
  | joinDisk conf =>
    have ran : storage.after (.joinDisk conf) = final (localClient conf storage) := final_discard _
    rw [ran, localClient, bind_run]
    simp only [get, getThe, MonadStateOf.get, EStateM.get]
    cases storage.disk.workingDirectory with
    | none => exact ⟨.of_same rfl rfl, plain⟩
    | some directory =>
      refine ⟨.of_same rfl rfl, fun client member => ?_, plain.streams⟩
      rcases List.mem_append.mp member with member | member
      · exact plain.clients client member
      · rw [List.mem_singleton.mp member]
        exact ⟨rfl, fun _ same => by simp at same⟩
  | changeDirectory client path => exact deed_changeDirectory plain client path
  | createDirectories client path => exact deed_createDirectories plain client path
  | delete client path => exact deed_delete plain client path
  | rename client source target => exact deed_rename plain client source target
  | setReplication client path replication => exact deed_setReplication plain client path replication
  | lock client path shared => exact deed_lock plain client path shared
  | release client path => exact deed_release plain client path
  | openFile client path bufferSize =>
    have ran : storage.after (.openFile client path bufferSize) =
      final (openReader client path bufferSize storage) := final_discard _
    exact ran ▸ deed_openReader plain client path bufferSize
  | createFile client path options =>
    have ran : storage.after (.createFile client path options) =
      final (createWriter client path options storage) := final_discard _
    exact ran ▸ deed_createWriter plain client path options
  | read stream count =>
    have ran : storage.after (.read stream count) = final (read stream count storage) := final_discard _
    exact ran ▸ deed_read plain stream count
  | readAt stream position count =>
    have ran : storage.after (.readAt stream position count) = final (readAt stream position count storage) :=
      final_discard _
    exact ran ▸ deed_readAt plain stream position count
  | seek stream position => exact deed_seek plain stream position
  | call stream asked => exact deed_call plain founded stream asked
  | drop stream => exact deed_dropStream plain stream

end Storage

end FileGateway
