import FileGateway.Proofs.Storage.Run

/-! # Namespaces stay trees

Whatever clients ask, in whatever order and with whatever bytes for paths, the namespace of every
cluster stays a tree of directories with files at its ends.
-/

namespace FileGateway.Storage

/-- In every run the root of every cluster is a directory, every key is the text of proper names below
the root, every entry stands in a directory, and nothing is below a file. -/
theorem namespace_of_run (now : Int) (disk : Disk) (requests : List Request) {cluster : Cluster}
    (member : cluster ∈ ((new now disk).run requests).clusters) :
    (∃ modified, cluster.tree.get? .root = some (.directory modified)) ∧
    (∀ location entry, cluster.tree.get? location = some entry →
      location.Proper ∧ location.toPath.isAbsolute = true ∧
        location.toPath.components = .root :: location.map .name) ∧
    (∀ location entry parent, cluster.tree.get? location = some entry →
      location.parent? = some parent →
        ∃ modified, cluster.tree.get? parent = some (.directory modified)) ∧
    (∀ location node below, cluster.tree.get? location = some (.file node) → location <+: below →
      below ≠ location → cluster.tree.get? below = none) := by
  have isTree := ((sound_new now disk).run requests).trees cluster member
  have ofDirectory {location : Location} (holder : ∃ entry, cluster.tree.get? location = some entry ∧
      entry.isDirectory = true) : ∃ modified, cluster.tree.get? location = some (.directory modified) := by
    obtain ⟨entry, found, isDirectory⟩ := holder
    cases entry with
    | directory modified => exact ⟨modified, found⟩
    | file node => simp [Entry.isDirectory] at isDirectory
  refine ⟨ofDirectory isTree.root, ?_, ?_, ?_⟩
  · intro location entry found
    have proper := isTree.proper found
    refine ⟨proper, Location.isAbsolute_toPath location, ?_⟩
    rw [← Location.steps_toPath proper]
    rfl
  · intro location entry parent found isParent
    exact ofDirectory (isTree.parent found isParent)
  · intro location node below found within different
    refine isTree.none_below (fun holder present isDirectory => ?_) within different.symm
    rw [found, Option.some.injEq] at present
    simp [← present, Entry.isDirectory] at isDirectory

/-- A file is created two levels down in an empty cluster, so its parent is a directory. -/
theorem namespace_of_run_creating :
    ∃ cluster ∈ ((new 0 (.new 0 .root 0 0)).run
        [.startCluster "nn:1" .default ["dn"] 1, .joinCluster 0,
          .createFile 0 ⟨[47, 97, 47, 98]⟩ .none]).clusters,
      cluster.tree.contains [[97], [98]] = true ∧
        ∃ modified, cluster.tree.get? [[97]] = some (.directory modified) := by
  refine ⟨_, List.mem_singleton_self _, rfl, ?_⟩
  exact (namespace_of_run 0 (.new 0 .root 0 0)
    [.startCluster "nn:1" .default ["dn"] 1, .joinCluster 0, .createFile 0 ⟨[47, 97, 47, 98]⟩ .none]
    (List.mem_singleton_self _)).2.2.1 [[97], [98]] _ [[97]] rfl rfl

end FileGateway.Storage
