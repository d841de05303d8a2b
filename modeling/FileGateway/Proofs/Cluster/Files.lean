import FileGateway.Proofs.Cluster.Change

/-! # Where files come from

No operation makes up a file with bytes in it. Directories come and go, files move and vanish, new ones are empty,
and all that time the blocks of a file are as they were: such an operation carries the files over. The two that do
not are told exactly: another number of replicas, and what an open writer hands over.
-/

namespace FileGateway

namespace Cluster

variable {cluster after : Cluster} {location : Location} {node : FileNode}

/-- Every file is empty or was there, wherever it was, and nothing has been placed. -/
structure Carries (cluster after : Cluster) : Prop where
  datanodes : after.datanodes = cluster.datanodes
  cursor : after.cursor = cluster.cursor
  files : ∀ location node, after.tree.file? location = some node →
    node.blocks = [] ∨ ∃ place, cluster.tree.file? place = some node

protected theorem Carries.refl (cluster : Cluster) : cluster.Carries cluster :=
  ⟨rfl, rfl, fun location _ found => .inr ⟨location, found⟩⟩

theorem createDirectories_carries (isTree : cluster.tree.IsTree) (now : Int) (location : Location) :
    cluster.Carries (cluster.createDirectories now location).2 := by
  by_cases blocked : ∃ above node, above <+: location ∧ cluster.tree.get? above = some (.file node)
  · obtain ⟨above, node, within, found⟩ := blocked
    rw [createDirectories_of_file isTree now within found]
    exact .refl cluster
  · simp only [not_exists, not_and] at blocked
    obtain ⟨made, ran, shape⟩ :=
      cluster.createDirectories_of_noFile now fun above within node => blocked above node within
    rw [ran]
    exact ⟨rfl, rfl, fun place node found => .inr ⟨place, Namespace.file?_fill shape ▸ found⟩⟩

theorem delete_carries (cluster : Cluster) (location : Location) :
    cluster.Carries (cluster.delete location).2 := by
  rcases ran : cluster.delete location with ⟨exception | ⟨⟩, after⟩
  · rw [delete_error ran]
    exact .refl cluster
  · obtain ⟨-, -, rfl⟩ := delete_ok_iff.mp ran
    refine ⟨rfl, rfl, fun place node found => .inr ⟨place, ?_⟩⟩
    rw [Namespace.file?_eq_some_iff] at found ⊢
    rw [Tree.get?_prune] at found
    split at found
    · contradiction
    · exact found

theorem rename_carries (isTree : cluster.tree.IsTree) (source target : Location) :
    cluster.Carries (cluster.rename source target).2 := by
  rcases ran : cluster.rename source target with ⟨exception | ⟨⟩, after⟩
  · rw [rename_error ran]
    exact .refl cluster
  · have free (place : Location) (within : target <+: place) := rename_free isTree ran within
    obtain ⟨-, -, notBelow, -, rfl⟩ := rename_ok_iff.mp ran
    refine ⟨rfl, rfl, fun place node found => .inr ?_⟩
    rw [Namespace.file?_eq_some_iff, Tree.get?_graft cluster.tree notBelow free] at found
    split_ifs at found
    · exact ⟨_, Namespace.file?_eq_some_iff.mpr found⟩
    · exact ⟨place, Namespace.file?_eq_some_iff.mpr found⟩

theorem startFile_carries (isTree : cluster.tree.IsTree) (now : Int) (location : Location)
    (options : CreateOptions) : cluster.Carries (cluster.startFile now location options).2 := by
  rcases startFile_cases isTree now location options with
    ⟨exception, ran, -⟩ | ⟨-, -, -, made, ran, shape⟩
  · rw [ran]
    exact .refl cluster
  · rw [ran]
    refine ⟨rfl, rfl, fun place node found => ?_⟩
    simp only [Namespace.file?, SortedMap.get?_insert] at found
    split at found
    · obtain rfl := Option.some.inj found
      exact .inl rfl
    · exact .inr ⟨place, Namespace.file?_fill shape ▸ found⟩

theorem lock_carries (cluster : Cluster) (location : Location) (shared : Bool) :
    cluster.Carries (cluster.lock location shared).2 := by
  rw [lock]
  split
  · exact ⟨rfl, rfl, fun place _ found => .inr ⟨place, found⟩⟩
  · exact .refl cluster

theorem release_carries (cluster : Cluster) (location : Location) :
    cluster.Carries (cluster.release location).2 :=
  ⟨rfl, rfl, fun place _ found => .inr ⟨place, found⟩⟩

/-- What a change of the number of replicas leaves. -/
theorem setReplication_run {replication : UInt16}
    (done : cluster.setReplication location replication = (.ok (), after)) :
    ∃ node, cluster.tree.file? location = some node ∧ replication ≠ 0 ∧
      let replicated := Block.replicateAll cluster.datanodes replication node.blocks cluster.cursor
      after = cluster.withFile location { node with blocks := replicated.1, replication } replicated.2 := by
  rw [setReplication] at done
  split_ifs at done with zero
  · simp at done
  split at done
  · simp at done
  · next node found =>
    refine ⟨node, ?_, zero, (congrArg Prod.snd done).symm⟩
    rw [requireFile] at found
    rw [Namespace.file?_eq_some_iff]
    split at found <;> simp_all

/-! ## Appending -/

/-- The layout of a file of the cluster, and what appending makes of it. -/
def laid (cluster : Cluster) (node : FileNode) (data : Bytes) : Layout :=
  Layout.append cluster.datanodes node.blockBytes node.replication data ⟨node.blocks, cluster.cursor⟩

theorem append_run (found : cluster.tree.file? location = some node) (leased : node.underConstruction = true)
    (now : Int) (data : Bytes) :
    cluster.append now location data = (.ok (), cluster.withFile location
      { node with blocks := (cluster.laid node data).blocks, modified := now } (cluster.laid node data).cursor) := by
  rw [append, found]
  simp only [leased, if_true]
  rfl

end Cluster

namespace ClusterWriter

variable {writer : ClusterWriter} {cluster : Cluster} {node : FileNode}

private theorem flush_cluster (writer : ClusterWriter) (cluster : Cluster) (now : Int)
    (isOpen : writer.closed = false) : (writer.flush cluster now).2.2 =
      if writer.pending = [] then cluster else (cluster.append now writer.location writer.pending).2 := by
  rw [flush, if_neg (by simp [isOpen])]
  by_cases empty : writer.pending = []
  · simp [empty]
  · rw [if_neg (by simp [empty]), if_neg empty]
    rcases cluster.append now writer.location writer.pending with ⟨_ | _, _⟩ <;> rfl

private theorem flush_location (writer : ClusterWriter) (cluster : Cluster) (now : Int) :
    (writer.flush cluster now).2.1.location = writer.location := by
  rw [flush]
  split_ifs
  · rfl
  · rfl
  · split <;> rfl

/-- An open writer appends what it hands over, and completes the file when it is closed. -/
theorem answer_cluster (writer : ClusterWriter) (cluster : Cluster) (now : Int) (isOpen : writer.closed = false)
    (call : WriterCall) :
    let appended := if writer.handed call = [] then cluster
      else (cluster.append now writer.location (writer.handed call)).2
    (writer.answer cluster now call).2.2 = if call.isClose then appended.complete writer.location else appended := by
  intro appended
  have notClosed : ¬writer.closed = true := by simp [isOpen]
  cases call with
  | write data =>
    by_cases short : (writer.pending ++ data).length < writer.bufferSize.toNat
    · simp only [answer, write, if_neg notClosed, appended, handed, WriterCall.isClose, short, if_true,
        Bool.false_eq_true, if_false]
    · have flushed := flush_cluster { writer with pending := writer.pending ++ data } cluster now isOpen
      simp only [answer, write, if_neg notClosed, appended, handed, WriterCall.isClose, short, if_false,
        Bool.false_eq_true]
      rw [← flushed]
      rcases flush { writer with pending := writer.pending ++ data } cluster now with ⟨_ | _, _, _⟩ <;> rfl
  | flush => exact flush_cluster writer cluster now isOpen
  | close =>
    rw [answer, close, if_neg notClosed]
    simp only [flush_location, flush_cluster writer cluster now isOpen]
    rfl

/-- A call on an open writer lays what it hands over behind the blocks of the file. -/
theorem answer_lays (now : Int) (isOpen : writer.closed = false)
    (found : cluster.tree.file? writer.location = some node) (leased : node.underConstruction = true)
    (call : WriterCall) :
    ∃ changed, (writer.answer cluster now call).2.2 =
        cluster.withFile writer.location changed (cluster.laid node (writer.handed call)).cursor ∧
      changed.blocks = (cluster.laid node (writer.handed call)).blocks ∧
      changed.replication = node.replication ∧ changed.blockSize = node.blockSize ∧
      changed.underConstruction = !call.isClose := by
  have appended : ∃ changed, (if writer.handed call = [] then cluster
        else (cluster.append now writer.location (writer.handed call)).2) =
        cluster.withFile writer.location changed (cluster.laid node (writer.handed call)).cursor ∧
      changed.blocks = (cluster.laid node (writer.handed call)).blocks ∧
      changed.replication = node.replication ∧ changed.blockSize = node.blockSize ∧
      changed.underConstruction = true := by
    split
    · next nothing =>
      rw [nothing]
      exact ⟨node, (Cluster.withFile_self found).symm, rfl, rfl, rfl, leased⟩
    · rw [Cluster.append_run found leased]
      exact ⟨_, rfl, rfl, rfl, rfl, leased⟩
  obtain ⟨changed, same, blocks, replication, blockSize, stillLeased⟩ := appended
  rw [answer_cluster writer cluster now isOpen call, same]
  cases call.isClose with
  | false => exact ⟨changed, rfl, blocks, replication, blockSize, stillLeased⟩
  | true => exact ⟨_, Cluster.complete_withFile .., blocks, replication, blockSize, rfl⟩

/-- A call leaves the cluster as it is, or lays what it hands over behind the blocks of the file. -/
theorem answer_same_or_lays (writer : ClusterWriter) (cluster : Cluster) (now : Int) (call : WriterCall) :
    (writer.answer cluster now call).2.2 = cluster ∨
      ∃ node changed, cluster.tree.file? writer.location = some node ∧
        (writer.answer cluster now call).2.2 =
          cluster.withFile writer.location changed (cluster.laid node (writer.handed call)).cursor ∧
        changed.blocks = (cluster.laid node (writer.handed call)).blocks ∧
        changed.replication = node.replication ∧ changed.blockSize = node.blockSize := by
  by_cases isClosed : writer.closed = true
  · exact .inl (by rw [answer_of_closed isClosed])
  · rw [Bool.not_eq_true] at isClosed
    by_cases leased : cluster.Leased writer.location
    · obtain ⟨bytes, view⟩ := leased
      obtain ⟨node, found, same⟩ := Option.map_eq_some_iff.mp view
      obtain ⟨changed, ran, blocks, replication, blockSize, -⟩ :=
        writer.answer_lays now isClosed found (congrArg FileView.leased same) call
      exact .inr ⟨node, changed, found, ran, blocks, replication, blockSize⟩
    · left
      rw [answer_of_not_leased isClosed leased]
      split <;> rfl

end ClusterWriter

end FileGateway
