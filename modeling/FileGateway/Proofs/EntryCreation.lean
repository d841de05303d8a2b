import FileGateway.Proofs.MissingPaths

/-! # Creating files and directories

A create looks at its place, then walks down from the root and makes what is missing until a file is in the way. The
walk changes the namespace while it checks, but in a tree nothing is below a file and nothing below what is missing:
a walk that meets a file has made nothing before, and one that makes something meets no file after. So `Admits`
alone decides a create, and the walk adds just what is missing.
-/

namespace FileGateway

/-- An empty file under construction. Hints that are zero leave the choice to the cluster. -/
def FileNode.started (conf : Configuration) (options : CreateOptions) (now : Int) : FileNode where
  blocks := []
  replication := if options.replication = 0 then conf.replication else options.replication
  blockSize := if options.blockSize = 0 then conf.blockSize else options.blockSize
  modified := now
  underConstruction := true

namespace Cluster

variable {cluster : Cluster} {location : Location} {options : CreateOptions}

/-- A file is created exactly where one may be. -/
theorem startFile_ok_iff (isTree : cluster.tree.IsTree) (now : Int) :
    (∃ after, cluster.startFile now location options = (.ok (), after)) ↔
      cluster.Admits location options.overwrite := by
  refine ⟨fun ⟨after, done⟩ => ?_, fun admits => startFile_of_admits isTree admits now⟩
  rcases startFile_cases isTree now location options with ⟨exception, ran, -⟩ | ⟨-, free, clear, -⟩
  · simp [ran] at done
  · rw [creationConflict?_eq_none_iff] at free
    rcases free with absent | ⟨node, found, isComplete, overwrite⟩
    · exact ⟨by simp [absent], by simp [absent], by simp [absent], clear⟩
    · refine ⟨by simp [found], fun other present => ?_, fun _ _ => overwrite, clear⟩
      obtain rfl : node = other := by simpa [found] using present
      exact isComplete

/-- Creating a file puts it at its place, and directories where something was missing above it. -/
theorem startFile_of_ok {after : Cluster} {now : Int} (isTree : cluster.tree.IsTree)
    (done : cluster.startFile now location options = (.ok (), after)) :
    ∃ tree, after = { cluster with tree } ∧
      tree.get? location = some (.file (.started cluster.conf options now)) ∧
      ∀ key, key ≠ location → tree.get? key =
        (cluster.tree.get? key).or (if key <+: location then some (.directory now) else none) := by
  rcases startFile_cases isTree now location options with ⟨exception, ran, -⟩ | ⟨notRoot, -, -, made, ran, shape⟩
  · simp [ran] at done
  · obtain rfl := (congrArg Prod.snd (ran.symm.trans done) :)
    refine ⟨_, rfl, by rw [SortedMap.get?_insert, if_pos rfl]; rfl, fun key elsewhere => ?_⟩
    have above : key <+: location.dropLast ↔ key <+: location := by
      rw [Location.prefix_dropLast_iff notRoot]
      exact and_iff_left elsewhere
    rw [SortedMap.get?_insert, if_neg elsewhere, shape]
    simp only [above]

end Cluster

namespace Storage

variable {storage : Storage} {client number : Nat} {directory place : Location} {cluster : Cluster} {path : Path}

private theorem createWriter_cases (sound : storage.Sound)
    (found : storage.clients[client]? = some ⟨.cluster number, directory, .none⟩)
    (present : storage.clusters[number]? = some cluster) (resolved : directory.resolve path = place)
    (options : CreateOptions) :
    (¬cluster.Admits place options.overwrite ∧
      Denied .fileAlreadyExists (createWriter client path options) storage) ∨
    (cluster.Admits place options.overwrite ∧ ∃ tree,
      createWriter client path options storage = .ok storage.streams.length
        { storage.withCluster number { cluster with tree } with
          streams := storage.streams ++ [⟨.clusterWriter number
            ⟨place, [], cluster.conf.bufferSizeOr options.bufferSize, 0, false⟩, .none⟩] } ∧
      tree.get? place = some (.file (.started cluster.conf options storage.seconds)) ∧
      ∀ key, key ≠ place → tree.get? key =
        (cluster.tree.get? key).or (if key <+: place then some (.directory storage.seconds) else none)) := by
  have isTree := sound.trees cluster (List.mem_of_getElem? present)
  have decided : _ ↔ cluster.Admits place options.overwrite := Cluster.startFile_ok_iff isTree storage.seconds
  have ran : createWriter client path options storage = _ := createWriter_of_cluster found present options
  rw [resolved, ClusterWriter.create] at ran
  rcases started : cluster.startFile storage.seconds place options with ⟨exception | ⟨⟩, after⟩
  · obtain ⟨rfl, kind⟩ := Cluster.startFile_error isTree started
    refine .inl ⟨fun admits => ?_, exception, ?_, kind⟩
    · obtain ⟨after, done⟩ := decided.mpr admits
      simp [done] at started
    · simpa only [started, withCluster_self present] using ran
  · obtain ⟨tree, rfl, atPlace, elsewhere⟩ := Cluster.startFile_of_ok isTree started
    exact .inr ⟨decided.mp ⟨_, started⟩, tree, by rw [ran, started], atPlace, elsewhere⟩

/-- After every run, on a cluster: a file is created exactly where there is no directory, no file under construction,
no file that may not be overwritten, and no file above. Then an empty file under construction is at the place, of the
sizes that were asked for or else configured, what was missing above it has become directories, and nothing else has
changed. Directories are made exactly where no file is at the place or above it; then what was missing there and above
has become directories, and nothing else has changed. Otherwise a file is said to exist already, and nothing has
changed. -/
theorem creation_fills_what_is_missing (now : Int) (disk : Disk) (requests : List Request) (client number : Nat)
    (directory : Location) (cluster : Cluster) (path : Path) :
    let storage := (new now disk).run requests
    let place := directory.resolve path
    let filled (key : Location) : Option Entry :=
      (cluster.tree.get? key).or (if key <+: place then some (.directory storage.seconds) else none)
    storage.clients[client]? = some ⟨.cluster number, directory, .none⟩ →
    storage.clusters[number]? = some cluster →
    (∀ options : CreateOptions,
      ((∃ stream after, createWriter client path options storage = .ok stream after) ↔
        cluster.Admits place options.overwrite) ∧
      (¬cluster.Admits place options.overwrite →
        Denied .fileAlreadyExists (createWriter client path options) storage) ∧
      ∀ stream after, createWriter client path options storage = .ok stream after →
        stream = storage.streams.length ∧ ∃ tree,
          after = { storage.withCluster number { cluster with tree } with
            streams := storage.streams ++ [⟨.clusterWriter number
              ⟨place, [], cluster.conf.bufferSizeOr options.bufferSize, 0, false⟩, .none⟩] } ∧
          tree.get? place = some (.file (.started cluster.conf options storage.seconds)) ∧
          ∀ key, key ≠ place → tree.get? key = filled key) ∧
    ((∃ after, createDirectories client path storage = .ok () after) ↔
      ∀ above, above <+: place → ∀ node, cluster.tree.get? above ≠ some (.file node)) ∧
    ((∃ above node, above <+: place ∧ cluster.tree.get? above = some (.file node)) →
      Denied .fileAlreadyExists (createDirectories client path) storage) ∧
    ∀ after, createDirectories client path storage = .ok () after →
      ∃ tree, after = storage.withCluster number { cluster with tree } ∧ ∀ key, tree.get? key = filled key := by
  intro storage place filled found present
  have sound : storage.Sound := (sound_new now disk).run requests
  have isTree := sound.trees cluster (List.mem_of_getElem? present)
  refine ⟨fun options => ?_, ?_⟩
  · rcases createWriter_cases sound found present rfl options with
      ⟨refused, denied⟩ | ⟨admits, tree, ran, atPlace, elsewhere⟩
    · obtain ⟨exception, ran, -⟩ := id denied
      refine ⟨iff_of_false (fun ⟨_, _, done⟩ => ?_) refused, fun _ => denied, fun _ _ done => ?_⟩ <;>
        simp [ran] at done
    · refine ⟨iff_of_true ⟨_, _, ran⟩ admits, (absurd admits ·), fun stream after done => ?_⟩
      obtain ⟨rfl, rfl⟩ := EStateM.Result.ok.inj (ran.symm.trans done)
      exact ⟨rfl, tree, rfl, atPlace, elsewhere⟩
  · have ran : createDirectories client path storage = _ :=
      (createDirectories_of_cluster found).trans (onCluster_of_some present _)
    by_cases blocked : ∃ above node, above <+: place ∧ cluster.tree.get? above = some (.file node)
    · obtain ⟨above, node, within, atFile⟩ := id blocked
      rw [Cluster.createDirectories_of_file isTree storage.seconds within atFile, withCluster_self present] at ran
      refine ⟨iff_of_false (fun ⟨_, done⟩ => ?_) fun noFile => noFile above within node atFile,
        fun _ => ⟨_, ran, rfl⟩, fun _ done => ?_⟩ <;> cases ran.symm.trans done
    · simp only [not_exists, not_and] at blocked
      have noFile := fun above within node => blocked above node within
      obtain ⟨tree, made, shape⟩ := cluster.createDirectories_of_noFile storage.seconds noFile
      rw [made] at ran
      refine ⟨iff_of_true ⟨_, ran⟩ noFile, fun ⟨above, node, within, atFile⟩ => ?_, fun after done => ?_⟩
      · exact absurd atFile (noFile above within node)
      · obtain ⟨-, rfl⟩ := EStateM.Result.ok.inj (ran.symm.trans done)
        exact ⟨tree, rfl, shape⟩

/-- A complete file in a directory. -/
def furnished : List Request :=
  [.startCluster "nn:1" .default ["dn"] 1, .joinCluster 0, .createFile 0 ⟨[47, 97, 47, 102]⟩ .none, .call 0 .close]

/-- Beside the file a directory and a file in it can be made, with the configured sizes; below it nothing can. -/
theorem creation_fills_what_is_missing_of_furnished : let storage := (new 0 (.new 0 .root 0 0)).run furnished
    (∃ stream after tree, createWriter 0 ⟨[47, 97, 47, 98, 47, 103]⟩ .none storage = .ok stream after ∧
      after.clusters.map (·.tree) = [tree] ∧ tree.get? [[97], [98]] = some (.directory 0) ∧
      tree.get? [[97], [98], [103]] = some (.file ⟨[], 3, 67108864, 0, true⟩)) ∧
    Denied .fileAlreadyExists (createWriter 0 ⟨[47, 97, 47, 102, 47, 103]⟩ .none) storage ∧
    Denied .fileAlreadyExists (createDirectories 0 ⟨[47, 97, 47, 102, 47, 103]⟩) storage := by
  intro storage
  obtain ⟨beside, -⟩ := creation_fills_what_is_missing 0 (.new 0 .root 0 0) furnished 0 0 .root _
    ⟨[47, 97, 47, 98, 47, 103]⟩ rfl rfl
  obtain ⟨below, -, refused, -⟩ := creation_fills_what_is_missing 0 (.new 0 .root 0 0) furnished 0 0 .root _
    ⟨[47, 97, 47, 102, 47, 103]⟩ rfl rfl
  obtain ⟨-, tree, same, atPlace, elsewhere⟩ := (beside .none).2.2 1 _ rfl
  refine ⟨⟨1, _, tree, rfl, congrArg (·.clusters.map Cluster.tree) same, elsewhere _ (by decide), atPlace⟩,
    (below .none).2.1 fun admits => ?_, refused ⟨[[97], [102]], _, by decide, rfl⟩⟩
  exact admits.clear [[97], [102]] (by decide) (by decide) _ rfl

end Storage

end FileGateway
