import FileGateway.Proofs.Cluster.Change
import FileGateway.Proofs.Disk.Local
import FileGateway.Proofs.Storage.Devices

/-! # What clients do to their devices

Clients of clusters and of the disk answer alike: by what the device looks like. Each call that copying
a tree needs is described once here, in terms of looks, and the two kinds of devices are not told
apart after that.
-/

namespace FileGateway

/-! ## Clusters -/

namespace Cluster

variable {cluster after : Cluster} {location : Location} {now : Int}

private theorem occupant_directory_iff (entry : Entry) :
    (statusOf location entry).isDirectory = true ↔ entry.occupant = .directory := by
  cases entry <;> simp [statusOf, FileStatus.ofDirectory, FileStatus.ofFile, FileStatus.isDirectory,
    Entry.occupant]

private theorem status_cases (cluster : Cluster) (location : Location) :
    (∃ found node, cluster.status location = .ok found ∧ cluster.tree.look location = some node ∧
      (found.isDirectory = true ↔ node = .directory)) ∨
    (∃ exception, cluster.status location = .error exception ∧ cluster.tree.look location = none) := by
  rw [status, Namespace.look]
  cases cluster.tree.get? location with
  | none => exact .inr ⟨_, rfl, rfl⟩
  | some entry => exact .inl ⟨_, _, rfl, rfl, occupant_directory_iff entry⟩

private theorem list_ok {entries : List FileStatus} (directory : cluster.tree.look location = some .directory)
    (done : cluster.list location = .ok entries) :
    ∃ names, Listed cluster.tree.look location names entries := by
  obtain ⟨modified, found⟩ := Namespace.look_eq_directory_iff.mp directory
  obtain ⟨names, nodup, keys, members⟩ := Tree.exists_names cluster.tree location
  rw [list, found] at done
  obtain rfl := Except.ok.inj done
  refine ⟨names, nodup, ?_, fun name => by rw [members, Ne, Ne, Namespace.look_eq_none_iff]⟩
  have paths : (cluster.tree.children location).map (fun entry => (statusOf entry.1 entry.2).path) =
      ((cluster.tree.children location).map (·.1)).map Location.toPath := by
    rw [List.map_map]
    apply List.map_congr_left
    intro entry _
    rcases entry with ⟨place, _ | _⟩ <;> rfl
  rw [List.map_map]
  exact paths.trans (by rw [keys, List.map_map]; rfl)

theorem createDirectories_ok (isTree : cluster.tree.IsTree)
    (done : cluster.createDirectories now location = (.ok (), after)) :
    after.conf = cluster.conf ∧ ∀ query, after.tree.get? query =
      (cluster.tree.get? query).or (if query <+: location then some (.directory now) else none) := by
  by_cases blocked : ∃ above node, above <+: location ∧ cluster.tree.get? above = some (.file node)
  · obtain ⟨above, node, within, found⟩ := blocked
    simp [createDirectories_of_file isTree now within found] at done
  · simp only [not_exists, not_and] at blocked
    obtain ⟨made, ran, shape⟩ :=
      cluster.createDirectories_of_noFile now fun above within node => blocked above node within
    obtain rfl := congrArg Prod.snd (ran.symm.trans done)
    exact ⟨rfl, shape⟩

/-- Directories unsettle nothing. -/
theorem Settled.fill (settled : cluster.Settled location) (conf : after.conf = cluster.conf) {place : Location}
    (shape : ∀ query, after.tree.get? query =
      (cluster.tree.get? query).or (if query <+: place then some (.directory now) else none)) :
    after.Settled location := by
  intro node found
  rw [shape, Option.or_eq_some_iff] at found
  rcases found with found | ⟨-, added⟩
  · rw [defaultReplication, defaultBlockSize, conf]
    exact settled node found
  · split at added <;> simp at added

end Cluster

namespace Storage

variable {storage : Storage} {client : Nat} {device : Device} {directory : Location} {path : Path}

/-! ## Asking -/

/-- The address of a device. -/
def address (storage : Storage) : Device → Option String
  | .cluster number => (storage.clusters[number]?).map Cluster.uri
  | .disk => some "file:///"

theorem uri_run (attached : storage.Attached client device directory) :
    ∃ address, uri client storage = .ok address storage ∧ storage.address device = some address := by
  cases attached with
  | cluster found present =>
    refine ⟨_, ?_, by rw [address, present, Option.map_some]⟩
    rw [uri, bind_run, clientAt_of_some found]
    simp only
    rw [bind_run, clusterAt_of_some present]
    rfl
  | disk found =>
    refine ⟨_, ?_, rfl⟩
    rw [uri, bind_run, clientAt_of_some found]
    rfl

theorem resolve_run (attached : storage.Attached client device directory) (path : Path) :
    resolve client path storage = .ok (directory.resolve path) storage := by
  cases attached with
  | cluster found present =>
    rw [resolve, bind_run, Storage.directory, bind_run, clientAt_of_some found]
    rfl
  | disk found =>
    rw [resolve, bind_run, Storage.directory, bind_run, clientAt_of_some found]
    rfl

/-- A status is known of what is there; what is denied as missing is not. -/
theorem status_run (attached : storage.Attached client device directory) (path : Path) :
    ∃ outcome, status client path storage = answerOf outcome storage ∧
      (∀ found, outcome = .ok found → ∃ node, storage.look device (directory.resolve path) = some node ∧
        (found.isDirectory = true ↔ node = .directory) ∧
        (device = .disk → (directory.resolve path).length < Disk.pathLimit)) ∧
      (∀ exception, outcome = .error exception → exception.kind = .fileNotFound →
        storage.look device (directory.resolve path) = none) := by
  have proper := Location.proper_resolve attached.proper path
  cases attached with
  | @cluster number _ cluster found present isTree =>
    refine ⟨cluster.status (directory.resolve path), ?_, ?_⟩
    · rw [status, bind_run, clientAt_of_some found]
      simp only [scripted, Script.reaction?, Script.none, List.lookup_nil]
      rw [askCluster_of_some present]
    · rw [look_of_cluster present]
      rcases cluster.status_cases (directory.resolve path) with
        ⟨known, node, ran, there, kind⟩ | ⟨exception, ran, missing⟩
      · refine ⟨fun other same => ⟨node, there, ?_, by simp⟩, fun other same => ?_⟩
        · obtain rfl : known = other := Except.ok.inj (ran.symm.trans same)
          exact kind
        · simp [ran] at same
      · exact ⟨fun other same => by simp [ran] at same, fun _ _ _ => missing⟩
  | @disk conf _ found regular =>
    refine ⟨LocalDisk.status conf storage.disk (directory.resolve path), ?_, fun known ran => ?_,
      fun exception ran => ?_⟩
    · rw [status, bind_run, clientAt_of_some found]
      rfl
    · rw [LocalDisk.status] at ran
      cases search : LocalDisk.metadata storage.disk (directory.resolve path) with
      | error exception => simp [search, Except.map] at ran
      | ok raw =>
        obtain rfl : LocalDisk.fileStatus conf (directory.resolve path).toPath raw = known := by
          simpa [search, Except.map] using ran
        obtain ⟨node, there, kind, short⟩ := LocalDisk.metadata_ok regular proper search
        refine ⟨node, there, ?_, fun _ => short⟩
        rw [← kind, LocalDisk.fileStatus]
        split <;> simp_all [FileStatus.ofDirectory, FileStatus.ofFile, FileStatus.isDirectory]
    · rw [LocalDisk.status] at ran
      cases search : LocalDisk.metadata storage.disk (directory.resolve path) with
      | ok raw => simp [search, Except.map] at ran
      | error raised =>
        obtain rfl : raised = exception := by simpa [search, Except.map] using ran
        exact LocalDisk.metadata_missing regular proper search

theorem status_ends (attached : storage.Attached client device directory) (path : Path) :
    Ends (status client path storage) fun found after => after = storage ∧
      ∃ node, storage.look device (directory.resolve path) = some node ∧
        (found.isDirectory = true ↔ node = .directory) ∧
        (device = .disk → (directory.resolve path).length < Disk.pathLimit) := by
  obtain ⟨outcome, ran, known, -⟩ := status_run attached path
  rw [ran]
  exact .answerOf fun found same => ⟨rfl, known found same⟩

theorem isPresent_ends (attached : storage.Attached client device directory)
    (path : Path) :
    Ends (isPresent client path storage) fun present after => after = storage ∧
      (present = false → storage.look device (directory.resolve path) = none) := by
  obtain ⟨outcome, ran, -, missing⟩ := status_run attached path
  have caught : isPresent client path storage =
      match outcome with
      | .ok _ => .ok true storage
      | .error exception =>
        if exception.kind = .fileNotFound then .ok false storage
        else .error (.raised exception) storage := by
    simp only [isPresent, tryCatch, tryCatchThe, MonadExceptOf.tryCatch, EStateM.tryCatch, bind_run, ran]
    cases outcome with
    | ok found => rfl
    | error exception =>
      simp only [answerOf, Storage.raise, throw, throwThe, MonadExceptOf.throw, EStateM.throw]
      split_ifs <;> rfl
  rw [caught]
  cases outcome with
  | ok found => exact ⟨rfl, by simp⟩
  | error exception =>
    simp only
    split_ifs with kind
    · exact ⟨rfl, fun _ => missing exception rfl kind⟩
    · exact .raise exception

/-- What a directory holds is listed, each name once. -/
theorem list_ends (attached : storage.Attached client device directory) (path : Path)
    (isDirectory : storage.look device (directory.resolve path) = some .directory) :
    Ends (list client path storage) fun entries after => after = storage ∧
      ∃ names, Listed (storage.look device) (directory.resolve path) names entries := by
  have proper := Location.proper_resolve attached.proper path
  cases attached with
  | cluster found present =>
    rw [list, bind_run, clientAt_of_some found]
    simp only [scripted, Script.reaction?, Script.none, List.lookup_nil]
    rw [askCluster_of_some present]
    rw [look_of_cluster present] at isDirectory ⊢
    exact .answerOf fun entries ran => ⟨rfl, Cluster.list_ok isDirectory ran⟩
  | disk found regular =>
    rw [list, bind_run, clientAt_of_some found]
    exact .answerOf fun entries ran => ⟨rfl, LocalDisk.list_ok regular proper isDirectory ran⟩

/-! ## Changing -/

theorem createDirectories_ends (attached : storage.Attached client device directory)
    (path : Path) :
    Ends (createDirectories client path storage) fun _ after => Evolved device none storage after ∧
      after.look device = filled (storage.look device) (directory.resolve path) := by
  have proper := Location.proper_resolve attached.proper path
  cases attached with
  | @cluster number _ cluster found present isTree =>
    rw [createDirectories_of_cluster found, onCluster_of_some present]
    refine .answerOf fun _ done => ?_
    obtain ⟨conf, shape⟩ := Cluster.createDirectories_ok isTree (Prod.ext done rfl)
    refine ⟨.of_cluster present _ conf (fun isTree => ?_) (fun place _ settled => ?_) storage.streams, ?_⟩
    · exact Cluster.createDirectories_isTree isTree _ proper
    · exact settled.fill conf shape
    · rw [look_of_cluster present]
      exact (look_withCluster present _ storage.streams).trans (Namespace.look_fill shape)
  | disk found regular =>
    rw [createDirectories_of_disk found]
    refine .answerOf fun _ done => ?_
    have made := LocalDisk.createDirectories_ok regular proper (Prod.ext done rfl)
    exact ⟨.of_disk (fun _ => made.regular) storage.streams, made.look⟩

theorem delete_ends (attached : storage.Attached client device directory) (path : Path) :
    Ends (delete client path storage) fun _ after => Evolved device none storage after ∧
      ∀ query, after.look device query =
        if directory.resolve path <+: query then none else storage.look device query := by
  have proper := Location.proper_resolve attached.proper path
  cases attached with
  | @cluster number _ cluster found present isTree =>
    rw [delete_of_cluster found, onCluster_of_some present]
    refine .answerOf fun _ done => ?_
    obtain ⟨notRoot, -, same⟩ := Cluster.delete_ok_iff.mp (Prod.ext done rfl)
    simp only [same]
    refine ⟨.of_cluster present { cluster with tree := cluster.tree.prune (directory.resolve path) } rfl
      (fun isTree => isTree.prune notRoot) (fun place _ settled => ?_) storage.streams, fun query => ?_⟩
    · intro node there
      rw [Tree.get?_prune] at there
      split at there
      · contradiction
      · exact settled node there
    · rw [look_of_cluster present]
      apply (congrFun (look_withCluster present _ storage.streams) query).trans
      exact Namespace.look_prune
  | disk found regular =>
    rw [delete_of_disk found]
    split
    · next disk done =>
      have removed := LocalDisk.delete_ok regular proper done
      exact ⟨.of_disk (fun _ => removed.regular) storage.streams, removed.look⟩
    · exact .raise _

end Storage

end FileGateway
