import FileGateway.Proofs.Disk.Missing
import FileGateway.Proofs.Storage.DeviceCalls
import FileGateway.Proofs.Storage.Run

/-! # What clients say of missing paths

Clients of clusters and of the disk agree on what is missing and what is in the way, but for one case: below
a file. A cluster looks the whole path up, finds nothing there and calls it missing, and it goes through the
directories one by one when it makes them, so it names the file that is in the way. The disk says that a name
on the way is no directory, which is an input or output error like any other.
-/

namespace FileGateway

/-- The class of what is raised where directories cannot be made for a file above them. -/
def Device.barredKind : Device → ExceptionClass
  | .cluster _ => .fileAlreadyExists
  | .disk => .io

namespace Storage

variable {α : Type} {storage : Storage} {client number : Nat} {device : Device} {directory : Location} {path : Path}
  {conf : Configuration} {cluster : Cluster} {exception : Exception} {kind : ExceptionClass}

/-- An action is denied with an exception of a class, and changes nothing. -/
def Denied (kind : ExceptionClass) (action : Action α) (storage : Storage) : Prop :=
  ∃ exception, action storage = .error (.raised exception) storage ∧ exception.kind = kind

/-- All is denied that takes something to be at a path. -/
structure DeniedAt (storage : Storage) (client : Nat) (path : Path) (kind : ExceptionClass) : Prop where
  status : Denied kind (status client path) storage
  openReader : ∀ bufferSize, Denied kind (openReader client path bufferSize) storage
  delete : Denied kind (delete client path) storage
  rename : ∀ target, Denied kind (rename client path target) storage

/-- Whether something is at a path is denied if its status is, unless it is missing. -/
theorem isPresent_of_denied (denied : Denied kind (status client path) storage) :
    (kind = .fileNotFound → isPresent client path storage = .ok false storage) ∧
      (kind ≠ .fileNotFound → Denied kind (isPresent client path) storage) := by
  obtain ⟨exception, ran, rfl⟩ := denied
  have caught : isPresent client path storage =
      if exception.kind = .fileNotFound then .ok false storage else .error (.raised exception) storage := by
    simp only [isPresent, tryCatch, tryCatchThe, MonadExceptOf.tryCatch, EStateM.tryCatch, bind_run, ran, throw,
      throwThe, MonadExceptOf.throw]
    split_ifs <;> rfl
  rw [caught]
  exact ⟨fun missing => if_pos missing, fun other => ⟨exception, by rw [caught, if_neg other], rfl⟩⟩

/-! ## Clusters -/

private theorem denied_onCluster (change : Cluster → Except Exception α × Cluster)
    (present : storage.clusters[number]? = some cluster) (failed : change cluster = (.error exception, cluster)) :
    Denied exception.kind (onCluster number change) storage := by
  refine ⟨exception, ?_, rfl⟩
  rw [onCluster_of_some present, failed, withCluster_self present]
  rfl

private theorem deniedAt_of_cluster
    (found : storage.clients[client]? = some ⟨.cluster number, directory, .none⟩)
    (present : storage.clusters[number]? = some cluster) (isTree : cluster.tree.IsTree)
    (free : cluster.tree.get? (directory.resolve path) = none) : storage.DeniedAt client path .fileNotFound where
  status := by
    refine ⟨.missing (directory.resolve path).toPath, ?_, rfl⟩
    rw [status, bind_run, clientAt_of_some found]
    simp only [scripted, Script.reaction?, Script.none, List.lookup_nil]
    rw [askCluster_of_some present, Cluster.status, free]
    rfl
  openReader bufferSize := by
    refine ⟨.missing (directory.resolve path).toPath, ?_, rfl⟩
    rw [openReader_of_cluster found present, ClusterReader.open, Cluster.requireFile, free]
    rfl
  delete := by
    have notRoot : directory.resolve path ≠ .root := by
      intro atRoot
      obtain ⟨entry, isEntry, -⟩ := isTree.root
      rw [atRoot, isEntry] at free
      contradiction
    have failed : cluster.delete (directory.resolve path) =
        (.error (.missing (directory.resolve path).toPath), cluster) := by
      simp [Cluster.delete, notRoot, SortedMap.contains_eq_false_iff.mpr free]
    rw [Denied, delete_of_cluster found]
    exact denied_onCluster (·.delete _) present failed
  rename target := by
    have failed : cluster.rename (directory.resolve path) (directory.resolve target) =
        (.error (.missing (directory.resolve path).toPath), cluster) := by
      simp [Cluster.rename, SortedMap.contains_eq_false_iff.mpr free]
    rw [Denied, rename_of_cluster found]
    exact denied_onCluster (·.rename _ _) present failed

/-! ## The disk -/

private theorem deniedAt_of_disk
    (found : storage.clients[client]? = some ⟨.disk conf, directory, .none⟩)
    (failed : LocalDisk.metadata storage.disk (directory.resolve path) = .error exception) :
    storage.DeniedAt client path exception.kind where
  status := by
    refine ⟨exception, ?_, rfl⟩
    rw [status, bind_run, clientAt_of_some found]
    simp only [scripted, Script.reaction?, Script.none, List.lookup_nil]
    change answerOf (LocalDisk.status conf storage.disk (directory.resolve path)) storage = _
    rw [LocalDisk.status, failed]
    rfl
  openReader bufferSize := by
    refine ⟨exception, ?_, rfl⟩
    rw [openReader_of_disk found, LocalDisk.openReader, failed]
    rfl
  delete := by
    refine ⟨exception, ?_, rfl⟩
    rw [delete_of_disk found, LocalDisk.delete, failed]
    rfl
  rename target := by
    refine ⟨exception, ?_, rfl⟩
    rw [rename_of_disk found, LocalDisk.rename, failed]
    rfl

/-- What cannot be found has no status but the error of the search. -/
private theorem metadata_of_find {disk : Disk} {location : Location} {error : SystemError}
    (failed : disk.find .follow location.toPath = .error error) :
    LocalDisk.metadata disk location = .error (.onPath location.toPath error) := by
  rw [LocalDisk.metadata, Disk.status, failed]
  rfl

/-- Where no file is in the way, the directories stand afterwards. -/
private theorem createDirectories_of_clear (attached : storage.Attached client .disk directory)
    (legible : Disk.Legible (directory.resolve path))
    (clear : ∀ above bytes, above <+: directory.resolve path → storage.disk.look above ≠ some (.file bytes)) :
    ∃ made, LocalDisk.createDirectories storage.disk storage.now (directory.resolve path) = (.ok (), made) := by
  have proper := Location.proper_resolve attached.proper path
  cases attached with
  | disk found regular =>
    rw [LocalDisk.createDirectories]
    cases status : storage.disk.status (directory.resolve path).toPath with
    | error error =>
      obtain ⟨made, ran⟩ := Disk.makeDirectories_of_clear regular proper legible clear storage.now
      simp only [ran]
      exact ⟨made, rfl⟩
    | ok status' =>
      have known : LocalDisk.metadata storage.disk (directory.resolve path) = .ok status' := by
        rw [LocalDisk.metadata, status]
        rfl
      obtain ⟨node, standing, kind, -⟩ := LocalDisk.metadata_ok regular proper known
      have isDirectory : node = .directory := by
        cases node with
        | directory => rfl
        | file bytes => exact absurd standing (clear _ bytes List.prefix_rfl)
        | link target => exact absurd standing (regular.look_ne_link _ target)
      simp only [kind.mpr isDirectory, if_true]
      exact ⟨storage.disk, rfl⟩

private theorem createDirectories_denied (found : storage.clients[client]? = some ⟨.disk conf, directory, .none⟩)
    (failed : LocalDisk.createDirectories storage.disk storage.now (directory.resolve path) =
      (.error exception, storage.disk)) :
    Denied exception.kind (createDirectories client path) storage :=
  ⟨exception, by rw [createDirectories_of_disk found, failed]; rfl, rfl⟩

/-! ## Both -/

section Attached

variable (attached : storage.Attached client device directory)
  (legible : device = .disk → Disk.Legible (directory.resolve path))
include attached legible

/-- What is missing is called missing, but for what is below a file of the disk. -/
private theorem deniedAt_of_free (free : storage.look device (directory.resolve path) = none)
    (clear : ¬(device = .disk ∧ Barred (storage.look device) (directory.resolve path))) :
    storage.DeniedAt client path .fileNotFound := by
  have proper := Location.proper_resolve attached.proper path
  cases attached with
  | cluster found present isTree =>
    rw [look_of_cluster present, Namespace.look_eq_none_iff] at free
    exact deniedAt_of_cluster found present isTree free
  | disk found regular =>
    have search := Disk.find_of_none regular .follow proper (legible rfl) free fun barred => clear ⟨rfl, barred⟩
    exact deniedAt_of_disk found (metadata_of_find search)

private theorem createDirectories_of_noFile
    (clear : ∀ above bytes, above <+: directory.resolve path → storage.look device above ≠ some (.file bytes)) :
    ∃ after, createDirectories client path storage = .ok () after := by
  cases attached with
  | @cluster number _ cluster found present isTree =>
    rw [look_of_cluster present] at clear
    obtain ⟨made, ran, -⟩ := cluster.createDirectories_of_noFile storage.seconds fun above within node isFile =>
      clear above node.bytes within (Namespace.look_eq_file_iff.mpr ⟨node, isFile, rfl⟩)
    rw [createDirectories_of_cluster found, onCluster_of_some present, ran]
    exact ⟨_, rfl⟩
  | disk found regular proper =>
    obtain ⟨made, ran⟩ := createDirectories_of_clear (.disk found regular proper) (legible rfl) clear
    rw [createDirectories_of_disk found, ran]
    exact ⟨_, rfl⟩

private theorem createDirectories_of_isFile {bytes : Bytes}
    (isFile : storage.look device (directory.resolve path) = some (.file bytes)) :
    Denied .fileAlreadyExists (createDirectories client path) storage := by
  cases attached with
  | @cluster number _ cluster found present isTree =>
    rw [look_of_cluster present] at isFile
    obtain ⟨node, there, -⟩ := Namespace.look_eq_file_iff.mp isFile
    rw [Denied, createDirectories_of_cluster found]
    exact denied_onCluster (·.createDirectories _ _) present
      (Cluster.createDirectories_of_file isTree storage.seconds List.prefix_rfl there)
  | disk found regular =>
    obtain ⟨number, there, -⟩ := Disk.look_eq_file_iff.mp isFile
    have isKind : (storage.disk.statusOf (.file number)).kind = .file := by
      rw [Disk.statusOf]
      split <;> rfl
    have failed : LocalDisk.createDirectories storage.disk storage.now (directory.resolve path) =
        (.error (.taken (directory.resolve path).toPath), storage.disk) := by
      rw [LocalDisk.createDirectories, Disk.status, Disk.find_of_some regular .follow (legible rfl) there]
      simp [Except.map, isKind]
    exact createDirectories_denied found failed

private theorem createDirectories_of_barred (barred : Barred (storage.look device) (directory.resolve path)) :
    Denied device.barredKind (createDirectories client path) storage := by
  have proper := Location.proper_resolve attached.proper path
  cases attached with
  | @cluster number _ cluster found present isTree =>
    obtain ⟨above, bytes, within, -, isFile⟩ := barred
    rw [look_of_cluster present] at isFile
    obtain ⟨node, there, -⟩ := Namespace.look_eq_file_iff.mp isFile
    rw [Denied, createDirectories_of_cluster found]
    exact denied_onCluster (·.createDirectories _ _) present
      (Cluster.createDirectories_of_file isTree storage.seconds within there)
  | disk found regular =>
    have search := Disk.find_of_barred regular .follow proper (legible rfl) barred
    have failed : LocalDisk.createDirectories storage.disk storage.now (directory.resolve path) =
        (.error (.onPath (directory.resolve path).toPath .notADirectory), storage.disk) := by
      rw [LocalDisk.createDirectories, Disk.status, search,
        Disk.makeDirectories_of_barred regular proper (legible rfl) barred]
      rfl
    exact createDirectories_denied found failed

end Attached

/-- What clients of clusters and of the disk say of missing paths and of files in the way. -/
theorem missing_paths_denied (attached : storage.Attached client device directory) (path : Path)
    (legible : device = .disk → Disk.Legible (directory.resolve path)) :
    (storage.look device (directory.resolve path) = none →
      ¬(device = .disk ∧ Barred (storage.look device) (directory.resolve path)) →
        storage.DeniedAt client path .fileNotFound ∧ isPresent client path storage = .ok false storage) ∧
    (device = .disk → Barred (storage.look device) (directory.resolve path) →
      storage.look device (directory.resolve path) = none ∧ storage.DeniedAt client path .io ∧
        Denied .io (isPresent client path) storage) ∧
    ((∀ above bytes, above <+: directory.resolve path → storage.look device above ≠ some (.file bytes)) →
      ∃ after, createDirectories client path storage = .ok () after ∧
        after.look device = filled (storage.look device) (directory.resolve path)) ∧
    (∀ bytes, storage.look device (directory.resolve path) = some (.file bytes) →
      Denied .fileAlreadyExists (createDirectories client path) storage) ∧
    (Barred (storage.look device) (directory.resolve path) →
      Denied device.barredKind (createDirectories client path) storage) := by
  refine ⟨fun free clear => ?_, fun onDisk barred => ?_, fun clear => ?_, fun bytes isFile => ?_, fun barred => ?_⟩
  · have denied := deniedAt_of_free attached legible free clear
    exact ⟨denied, (isPresent_of_denied denied.status).1 rfl⟩
  · have free := attached.hierarchy.free_of_barred barred
    have proper := Location.proper_resolve attached.proper path
    subst onDisk
    cases attached with
    | disk found regular =>
      have search := Disk.find_of_barred regular .follow proper (legible rfl) barred
      have denied : storage.DeniedAt client path .io := deniedAt_of_disk found (metadata_of_find search)
      exact ⟨free, denied, (isPresent_of_denied denied.status).2 (by decide)⟩
  · obtain ⟨after, ran⟩ := createDirectories_of_noFile attached legible clear
    have ended := createDirectories_ends attached path
    rw [ran] at ended
    exact ⟨after, ran, ended.2⟩
  · exact createDirectories_of_isFile attached legible isFile
  · exact createDirectories_of_barred attached legible barred

/-- A local client creates a file in the root directory. -/
def blockade : List Request := [.joinDisk .default, .createFile 0 ⟨[47, 102]⟩ .none]

/-- Below the file there is nothing, but asking for it and making directories there fail in another way. -/
theorem below_file_not_missing :
    let storage := (new 0 (.new 0 .root 0 0)).run blockade
    storage.disk.look [[102]] = some (.file []) ∧ storage.disk.look [[102], [120]] = none ∧
      ∃ exception, exception.kind = .io ∧ status 0 ⟨[47, 102, 47, 120]⟩ storage = .error (.raised exception) storage ∧
        isPresent 0 ⟨[47, 102, 47, 120]⟩ storage = .error (.raised exception) storage ∧
        createDirectories 0 ⟨[47, 102, 47, 120]⟩ storage = .error (.raised exception) storage := by
  intro storage
  exact ⟨by decide +kernel, by decide +kernel, .system .notADirectory (some ⟨[47, 102, 47, 120]⟩), rfl, rfl, rfl, rfl⟩

/-- Below the file all is denied, and beside it a missing directory is called missing until it is made. -/
theorem missing_paths_denied_at_file :
    let storage := (new 0 (.new 0 .root 0 0)).run blockade
    storage.DeniedAt 0 ⟨[47, 102, 47, 120]⟩ .io ∧ storage.DeniedAt 0 ⟨[47, 103]⟩ .fileNotFound ∧
      Denied .fileAlreadyExists (createDirectories 0 ⟨[47, 102]⟩) storage ∧
      ∃ after, createDirectories 0 ⟨[47, 103]⟩ storage = .ok () after ∧ after.look .disk [[103]] = some .directory := by
  intro storage
  have joined : storage.clients[0]? = some ⟨.disk .default, .root, .none⟩ := by decide +kernel
  have isFile : storage.disk.look [[102]] = some (.file []) := by decide +kernel
  have free : storage.disk.look [[103]] = none := by decide +kernel
  have ran : Disk.createFile (.new 0 .root 0 0) 0 (Location.toPath [[102]]) = .ok (0, storage.disk) := by
    decide +kernel
  clear_value storage
  have regular : storage.disk.Regular :=
    (Disk.createFile_ok (Disk.regular_new 0 Location.proper_root 0 0) (by decide) (by decide +kernel) ran).regular
  have attached : storage.Attached 0 .disk .root := .disk joined regular Location.proper_root
  have barred : Barred storage.disk.look [[102], [120]] := ⟨[[102]], [], by decide, by decide, isFile⟩
  have clear (above : Location) (bytes : Bytes) (within : above <+: [[103]]) :
      storage.disk.look above ≠ some (.file bytes) := by
    rcases List.prefix_cons_iff.mp within with rfl | ⟨rest, rfl, nothing⟩
    · have atRoot : storage.disk.look [] = some .directory := regular.hierarchy.root
      simp [atRoot]
    · rw [List.prefix_nil.mp nothing, free]
      simp
  have below := missing_paths_denied attached ⟨[47, 102, 47, 120]⟩ fun _ => by decide +kernel
  have here := missing_paths_denied attached ⟨[47, 102]⟩ fun _ => by decide +kernel
  have beside := missing_paths_denied attached ⟨[47, 103]⟩ fun _ => by decide +kernel
  obtain ⟨after, ran, look⟩ := beside.2.2.1 clear
  refine ⟨(below.2.1 rfl barred).2.1, (beside.1 free ?_).1, here.2.2.2.1 [] isFile, after, ran, ?_⟩
  · rintro ⟨-, above, bytes, within, -, isFile⟩
    exact clear above bytes within isFile
  · rw [look, filled]
    simp only [Storage.look, free, Option.none_or]
    rfl

end Storage

end FileGateway
