import FileGateway.Proofs.Storage.Run

/-! # Deleting removes a subtree

A delete on a cluster erases what a scan from the place finds before the first stranger. The scan finds all that is
at the place and below it, in order and once, since no stranger comes in between: a sibling whose name merely begins
like the name of the place comes after all of it, whatever byte follows. What is left takes as many bytes on the
datanodes less as the files took that are gone.
-/

namespace FileGateway

namespace Tree

variable {ν : Type}

/-- The scan from a place meets the places in order. -/
theorem ascending_descendants (tree : Tree ν) (location : Location) :
    (tree.descendants location).Pairwise (fun first second => compare first.1 second.1 = .lt) := by
  rw [descendants_eq_filter]
  exact SortedMap.ascending_filter _ tree

/-- Removing a subtree keeps the entries outside it. -/
theorem entries_prune (tree : Tree ν) (location : Location) :
    (tree.prune location).entries = tree.entries.filter fun entry => !entry.1.isWithin location := by
  refine SortedMap.eq_of_mem_iff (tree.prune location).ascending (SortedMap.ascending_filter _ tree) ?_
  rintro ⟨place, entry⟩
  rw [← SortedMap.get?_eq_some_iff, get?_prune, List.mem_filter, ← SortedMap.get?_eq_some_iff, Bool.not_eq_true',
    Bool.eq_false_iff, ne_eq, Location.isWithin_iff]
  split
  · next within => simp [within]
  · next outside => simp [outside]

end Tree

/-- The bytes that the files among some entries take on all hosts together. -/
def Namespace.replicaBytes (entries : List (Location × Entry)) : Nat :=
  (entries.map fun entry => entry.2.file?.elim 0 FileNode.replicaBytes).sum

namespace Cluster

variable {cluster after : Cluster} {location : Location}

theorem used_eq_replicaBytes (cluster : Cluster) :
    cluster.used = Namespace.replicaBytes cluster.tree.entries := by
  rw [used, SortedMap.values, Namespace.replicaBytes]
  induction cluster.tree.entries with
  | nil => rfl
  | cons first rest ih =>
    rw [List.map_cons, List.filterMap_cons, List.map_cons, List.sum_cons, ← ih]
    cases first.2.file? with
    | none => exact (Nat.zero_add _).symm
    | some node => rfl

/-- A removed subtree takes the bytes of its files with it. -/
theorem used_prune (cluster : Cluster) (location : Location) :
    cluster.used = { cluster with tree := cluster.tree.prune location }.used +
      Namespace.replicaBytes (cluster.tree.descendants location) := by
  rw [used_eq_replicaBytes, used_eq_replicaBytes, Tree.entries_prune, Tree.descendants_eq_filter, Nat.add_comm]
  simp only [Namespace.replicaBytes]
  rw [← List.sum_append, ← List.map_append]
  exact ((List.filter_append_perm _ cluster.tree.entries).map _).sum_eq.symm

end Cluster

namespace Storage

/-- After every run, on a cluster, the scan from a place finds in order and once what is at the place and below it.
A client can delete exactly what exists, but not the root. Then just what the scan finds is gone, nothing else has
changed, and what the cluster uses is less by the bytes that the removed files took on all hosts. Who is refused has
changed nothing. -/
theorem delete_removes_subtree (now : Int) (disk : Disk) (requests : List Request) (client number : Nat)
    (directory : Location) (cluster : Cluster) (path : Path) :
    let storage := (new now disk).run requests
    let place := directory.resolve path
    storage.clients[client]? = some ⟨.cluster number, directory, .none⟩ →
    storage.clusters[number]? = some cluster →
    ((cluster.tree.descendants place).Pairwise (fun first second => compare first.1 second.1 = .lt) ∧
      ∀ key entry, (key, entry) ∈ cluster.tree.descendants place ↔
        cluster.tree.get? key = some entry ∧ place <+: key) ∧
    ((∃ after, delete client path storage = .ok () after) ↔
      cluster.tree.contains place = true ∧ place ≠ .root) ∧
    (∀ failure after, delete client path storage = .error failure after → after = storage) ∧
    ∀ after, delete client path storage = .ok () after →
      ∃ tree, after = storage.withCluster number { cluster with tree } ∧
        (∀ key, tree.get? key = if place <+: key then none else cluster.tree.get? key) ∧
        ∃ rest, used client after = .ok rest after ∧
          used client storage = .ok (rest + Namespace.replicaBytes (cluster.tree.descendants place)) storage := by
  intro storage place found present
  refine ⟨⟨cluster.tree.ascending_descendants place, fun key entry => Tree.mem_descendants⟩, ?_⟩
  rw [delete_of_cluster found, onCluster_of_some present]
  rcases ran : cluster.delete place with ⟨exception | ⟨⟩, changed⟩
  · refine ⟨iff_of_false (fun ⟨_, done⟩ => nomatch done) fun conditions => ?_, fun failure after failed => ?_, ?_⟩
    · have done := Cluster.delete_ok_iff.mpr ⟨conditions.2, conditions.1, rfl⟩
      simp [ran] at done
    · obtain ⟨-, rfl⟩ := EStateM.Result.error.inj failed
      rw [Cluster.delete_error ran, withCluster_self present]
    · exact fun _ done => nomatch done
  · obtain ⟨notRoot, standing, rfl⟩ := Cluster.delete_ok_iff.mp ran
    refine ⟨iff_of_true ⟨_, rfl⟩ ⟨standing, notRoot⟩, fun _ _ failed => (nomatch failed), fun after done => ?_⟩
    obtain ⟨-, rfl⟩ := EStateM.Result.ok.inj done
    have joined : (storage.withCluster number { cluster with tree := cluster.tree.prune place }).clients[client]? =
        some ⟨.cluster number, directory, .none⟩ := found
    refine ⟨cluster.tree.prune place, rfl, Tree.get?_prune cluster.tree place, _,
      used_of_cluster joined (clusters_withCluster present _), ?_⟩
    rw [used_of_cluster found present, ← Cluster.used_prune]

/-- A directory with a file of three bytes, and siblings of one byte whose names begin like its own. -/
def crowd : List Request :=
  [.startCluster "nn:1" .default ["dn"] 1, .joinCluster 0, .createFile 0 ⟨[47, 97, 47, 102]⟩ .none,
    .call 0 (.write [1, 2, 3]), .call 0 .close, .createFile 0 ⟨[47, 97, 45, 98]⟩ .none, .call 1 (.write [4]),
    .call 1 .close, .createFile 0 ⟨[47, 97, 98]⟩ .none, .call 2 (.write [5]), .call 2 .close]

/-- Deleting the directory takes its three bytes and leaves the siblings, whichever byte follows in their names. -/
theorem delete_removes_subtree_of_crowd : ∃ after rest, let storage := (new 0 (.new 0 .root 0 0)).run crowd
    delete 0 ⟨[47, 97]⟩ storage = .ok () after ∧
      after.clusters.map (·.tree.keys) = [[[], [[97, 45, 98]], [[97, 98]]]] ∧
      used 0 storage = .ok (rest + 3) storage ∧ used 0 after = .ok rest after := by
  obtain ⟨-, -, -, removes⟩ := delete_removes_subtree 0 (.new 0 .root 0 0) crowd 0 0 .root _ ⟨[47, 97]⟩ rfl rfl
  obtain ⟨tree, -, -, rest, usedAfter, usedBefore⟩ := removes _ rfl
  exact ⟨_, rest, rfl, rfl, usedBefore, usedAfter⟩

end Storage

end FileGateway
