import FileGateway.Cluster.Stream
import FileGateway.Proofs.Cluster.Contents
import FileGateway.Proofs.Cluster.Namespace

/-! # What each operation does to a cluster

Each operation is described once: when it succeeds, what it then leaves at every place, and that it
changes nothing when it fails. Of a file, `FileView` keeps what writers care about: its bytes and
whether it is under construction. No operation but those of writers changes the view of a file that
stays where it is.
-/

namespace FileGateway

/-- A file as its writers see it. -/
structure FileView where
  bytes : Bytes
  /-- The file is under construction. -/
  leased : Bool
deriving DecidableEq, Repr

def FileNode.view (node : FileNode) : FileView := ⟨node.bytes, node.underConstruction⟩

namespace Namespace

variable {tree : Namespace} {location query : Location} {node : FileNode}

/-- The view of the file at a place. -/
def view (tree : Namespace) (location : Location) : Option FileView :=
  (tree.file? location).map FileNode.view

theorem view_eq_some_iff {view : FileView} :
    tree.view location = some view ↔ ∃ node, tree.get? location = some (.file node) ∧ node.view = view := by
  simp only [Namespace.view, Option.map_eq_some_iff, file?_eq_some_iff]

theorem view_eq_none_iff :
    tree.view location = none ↔ ∀ node, tree.get? location ≠ some (.file node) := by
  simp only [Namespace.view, Option.map_eq_none_iff, file?_eq_none_iff]

theorem view_insert_file :
    Namespace.view (SortedMap.insert tree location (.file node)) query =
      if query = location then some node.view else tree.view query := by
  rw [view, file?, SortedMap.get?_insert]
  split <;> rfl

/-- Directories that are filled in are no files. -/
theorem file?_fill {made : Namespace} {now : Int}
    (shape : ∀ query, made.get? query =
      (tree.get? query).or (if query <+: location then some (.directory now) else none)) :
    made.file? = tree.file? := by
  funext query
  rw [file?, file?, shape]
  cases tree.get? query with
  | none => simp only [Option.none_or]; split <;> rfl
  | some entry => rfl

theorem view_fill {made : Namespace} {now : Int}
    (shape : ∀ query, made.get? query =
      (tree.get? query).or (if query <+: location then some (.directory now) else none)) :
    made.view = tree.view := by
  funext query
  rw [view, view, file?_fill shape]

end Namespace

namespace LockTable

variable {κ : Type} [DecidableEq κ] {table after : LockTable κ} {key : κ} {path : Path}
  {exception : Exception}

theorem acquire_error {shared : Bool}
    (failed : table.acquire key shared path = (.error exception, after)) : after = table := by
  unfold acquire at failed
  split at failed <;> simp_all

theorem release_error (failed : table.release key path = (.error exception, after)) :
    after = table := by
  unfold release at failed
  split at failed <;> simp_all

end LockTable

namespace Cluster

variable {cluster after : Cluster} {location source target : Location} {now : Int}
  {exception : Exception}

/-- A cluster with another file at a place, after some placements of blocks. -/
def withFile (cluster : Cluster) (location : Location) (node : FileNode) (cursor : UInt64) : Cluster :=
  { cluster with tree := cluster.tree.insert location (.file node), cursor }

@[simp] theorem withFile_tree (node : FileNode) (cursor : UInt64) :
    (cluster.withFile location node cursor).tree = cluster.tree.insert location (.file node) := rfl

theorem withFile_view (node : FileNode) (cursor : UInt64) (query : Location) :
    (cluster.withFile location node cursor).tree.view query =
      if query = location then some node.view else cluster.tree.view query :=
  Namespace.view_insert_file

theorem withFile_isTree (isTree : cluster.tree.IsTree) {node : FileNode}
    (found : cluster.tree.file? location = some node) (changed : FileNode) (cursor : UInt64) :
    (cluster.withFile location changed cursor).tree.IsTree :=
  isTree.replace (Namespace.file?_eq_some_iff.mp found) fun isDirectory => by
    simp [Entry.isDirectory] at isDirectory

theorem withFile_self {node : FileNode} (found : cluster.tree.file? location = some node) :
    cluster.withFile location node cluster.cursor = cluster := by
  rw [withFile, SortedMap.insert_of_get? (Namespace.file?_eq_some_iff.mp found)]

theorem withFile_withFile (cluster : Cluster) (first second : FileNode) (cursor later : UInt64) :
    (cluster.withFile location first cursor).withFile location second later =
      cluster.withFile location second later := by
  simp only [withFile, SortedMap.insert_insert]

theorem withFile_file? (node : FileNode) (cursor : UInt64) :
    (cluster.withFile location node cursor).tree.file? location = some node := by
  simp [Namespace.file?_eq_some_iff]

/-! ## Directories -/

theorem createDirectories_of_noFile (cluster : Cluster) (now : Int) {location : Location}
    (noFile : ∀ above, above <+: location → ∀ node, cluster.tree.get? above ≠ some (.file node)) :
    ∃ made, cluster.createDirectories now location = (.ok (), { cluster with tree := made }) ∧
      ∀ query, made.get? query =
        (cluster.tree.get? query).or (if query <+: location then some (.directory now) else none) := by
  obtain ⟨made, ran, shape⟩ := Namespace.makeDirectories_ancestors cluster.tree now location noFile
  exact ⟨made, by rw [createDirectories, ran], shape⟩

theorem createDirectories_of_file (isTree : cluster.tree.IsTree) (now : Int) {above : Location}
    {node : FileNode} (within : above <+: location) (found : cluster.tree.get? above = some (.file node)) :
    cluster.createDirectories now location = (.error (.taken above.toPath), cluster) := by
  rw [createDirectories, Namespace.makeDirectories_ancestors_of_file isTree now within found]

theorem createDirectories_error (isTree : cluster.tree.IsTree)
    (failed : cluster.createDirectories now location = (.error exception, after)) : after = cluster := by
  by_cases blocked : ∃ above node, above <+: location ∧ cluster.tree.get? above = some (.file node)
  · obtain ⟨above, node, within, found⟩ := blocked
    rw [createDirectories_of_file isTree now within found] at failed
    exact (congrArg Prod.snd failed).symm
  · simp only [not_exists, not_and] at blocked
    obtain ⟨made, ran, -⟩ :=
      cluster.createDirectories_of_noFile now fun above within node => blocked above node within
    simp [ran] at failed

/-! ## Removing and moving -/

theorem delete_ok_iff : cluster.delete location = (.ok (), after) ↔
    location ≠ .root ∧ cluster.tree.contains location = true ∧
      after = { cluster with tree := cluster.tree.prune location } := by
  rw [delete]
  split_ifs with atRoot present
  · simp [atRoot]
  · simp only [Prod.mk.injEq, true_and, atRoot, present, not_false_eq_true, ne_eq]
    exact eq_comm
  · simp [present]

theorem delete_error (failed : cluster.delete location = (.error exception, after)) :
    after = cluster := by
  rw [delete] at failed
  split_ifs at failed <;> simp_all

theorem rename_ok_iff : cluster.rename source target = (.ok (), after) ↔
    cluster.tree.contains source = true ∧ cluster.tree.contains target = false ∧
      ¬source <+: target ∧
      (∃ above modified, target.parent? = some above ∧
        cluster.tree.get? above = some (.directory modified)) ∧
      after = { cluster with tree := cluster.tree.graft source target } := by
  rw [rename, ← Location.isWithin_iff]
  constructor
  · intro done
    split_ifs at done with absent taken below
    · simp at done
    · simp at done
    · simp at done
    · split at done
      · next modified found =>
        obtain ⟨above, isParent, atParent⟩ := Option.bind_eq_some_iff.mp found
        simp only [Prod.mk.injEq, true_and] at done
        exact ⟨by simpa using absent, by simpa using taken, below,
          ⟨above, modified, isParent, atParent⟩, done.symm⟩
      · simp at done
  · rintro ⟨present, free, notBelow, ⟨above, modified, isParent, atParent⟩, rfl⟩
    simp [present, free, notBelow, isParent, atParent]

theorem rename_error (failed : cluster.rename source target = (.error exception, after)) :
    after = cluster := by
  rw [rename] at failed
  split_ifs at failed
  · simp_all
  · simp_all
  · simp_all
  · split at failed <;> simp_all

/-! ## Replicas and locks -/

theorem setReplication_ok {replication : UInt16}
    (done : cluster.setReplication location replication = (.ok (), after)) :
    ∃ node changed cursor, cluster.tree.file? location = some node ∧ changed.view = node.view ∧
      after = cluster.withFile location changed cursor := by
  rw [setReplication] at done
  split_ifs at done
  · simp at done
  split at done
  · simp at done
  · next node found =>
    have isFile : cluster.tree.file? location = some node := by
      rw [requireFile] at found
      rw [Namespace.file?_eq_some_iff]
      split at found <;> simp_all
    have same := (congrArg Prod.snd done).symm
    refine ⟨node, _, _, isFile, ?_, same⟩
    simp only [FileNode.view, FileNode.bytes_eq, Block.replicateAll_contents]

theorem setReplication_error {replication : UInt16}
    (failed : cluster.setReplication location replication = (.error exception, after)) :
    after = cluster := by
  rw [setReplication] at failed
  split_ifs at failed
  · simp_all
  · split at failed <;> simp_all

/-! ## Locks -/

theorem lock_error {shared : Bool} (failed : cluster.lock location shared = (.error exception, after)) :
    after = cluster := by
  rw [lock] at failed
  split at failed
  · rcases acquired : cluster.locks.acquire location shared location.toPath with ⟨_ | _, locks⟩
    · simp only [acquired, LockTable.acquire_error acquired] at failed
      exact (congrArg Prod.snd failed).symm
    · simp [acquired] at failed
  · exact (congrArg Prod.snd failed).symm

theorem release_error (failed : cluster.release location = (.error exception, after)) :
    after = cluster := by
  rw [release] at failed
  rcases released : cluster.locks.release location location.toPath with ⟨_ | _, locks⟩
  · simp only [released, LockTable.release_error released] at failed
    exact (congrArg Prod.snd failed).symm
  · simp [released] at failed

/-! ## Files under construction -/

/-- A file is under construction at a place. -/
def Leased (cluster : Cluster) (location : Location) : Prop :=
  ∃ bytes, cluster.tree.view location = some ⟨bytes, true⟩

theorem creationConflict?_eq_none_iff {overwrite : Bool} {entry : Option Entry} :
    creationConflict? location overwrite entry = none ↔
      entry = none ∨ ∃ node, entry = some (.file node) ∧ node.underConstruction = false ∧
        overwrite = true := by
  rcases entry with _ | (modified | node)
  · simp [creationConflict?]
  · simp [creationConflict?]
  · cases leased : node.underConstruction <;> cases overwrite <;> simp [creationConflict?, leased]

theorem creationConflict?_kind {overwrite : Bool} {entry : Option Entry}
    (conflict : creationConflict? location overwrite entry = some exception) :
    exception.kind = .fileAlreadyExists := by
  rcases entry with _ | (modified | node)
  · simp [creationConflict?] at conflict
  · simp only [creationConflict?, Option.some.injEq] at conflict
    rw [← conflict, Exception.kind]
  · simp only [creationConflict?] at conflict
    split_ifs at conflict <;> rw [← Option.some.inj conflict, Exception.kind]

/-- Creating a file fails for want of a place, and then changes nothing, or leaves an empty file under
construction there, and directories where they were missing above it. -/
theorem startFile_cases (isTree : cluster.tree.IsTree) (now : Int) (location : Location)
    (options : CreateOptions) :
    (∃ exception, cluster.startFile now location options = (.error exception, cluster) ∧
      exception.kind = .fileAlreadyExists) ∨
    (location ≠ .root ∧
      creationConflict? location options.overwrite (cluster.tree.get? location) = none ∧
      (∀ above, above <+: location → above ≠ location →
        ∀ node, cluster.tree.get? above ≠ some (.file node)) ∧
      ∃ made, cluster.startFile now location options = (.ok (), { cluster with
          tree := SortedMap.insert made location (.file
            { blocks := []
              replication := cluster.conf.replicationOr options.replication
              blockSize := cluster.conf.blockSizeOr options.blockSize
              modified := now
              underConstruction := true }) }) ∧
        ∀ query, made.get? query =
          (cluster.tree.get? query).or
            (if query <+: location.dropLast then some (.directory now) else none)) := by
  rw [startFile]
  split
  · next exception conflict => exact .inl ⟨exception, rfl, creationConflict?_kind conflict⟩
  · next free =>
    have notRoot : location ≠ .root := by
      rintro rfl
      obtain ⟨entry, found, isDirectory⟩ := isTree.root
      cases entry with
      | directory modified => simp [found, creationConflict?] at free
      | file node => simp [Entry.isDirectory] at isDirectory
    have isParent : location.parent? = some location.dropLast :=
      Location.parent?_eq_some_iff.mpr ⟨notRoot, rfl⟩
    simp only [isParent]
    by_cases blocked : ∃ above node, above <+: location.dropLast ∧ cluster.tree.get? above = some (.file node)
    · obtain ⟨above, node, within, found⟩ := blocked
      rw [Namespace.makeDirectories_ancestors_of_file isTree now within found]
      exact .inl ⟨_, rfl, rfl⟩
    · simp only [not_exists, not_and] at blocked
      obtain ⟨made, ran, shape⟩ := Namespace.makeDirectories_ancestors cluster.tree now
        location.dropLast fun above within node => blocked above node within
      rw [ran]
      refine .inr ⟨notRoot, free, fun above within different node => ?_, made, rfl, shape⟩
      exact blocked above node ((Location.prefix_dropLast_iff notRoot).mpr ⟨within, different⟩)

/-- A file may be created at a place: there is nothing yet, or a complete file that may be overwritten, and no
file stands above. -/
structure Admits (cluster : Cluster) (location : Location) (overwrite : Bool) : Prop where
  noDirectory : ∀ modified, cluster.tree.get? location ≠ some (.directory modified)
  complete : ∀ node, cluster.tree.get? location = some (.file node) → node.underConstruction = false
  replaceable : ∀ node, cluster.tree.get? location = some (.file node) → overwrite = true
  clear : ∀ above, above <+: location → above ≠ location →
    ∀ node, cluster.tree.get? above ≠ some (.file node)

/-- Where a file may be created it is. -/
theorem startFile_of_admits (isTree : cluster.tree.IsTree) {options : CreateOptions}
    (admits : cluster.Admits location options.overwrite) (now : Int) :
    ∃ after, cluster.startFile now location options = (.ok (), after) := by
  have free : creationConflict? location options.overwrite (cluster.tree.get? location) = none := by
    rw [creationConflict?_eq_none_iff]
    rcases found : cluster.tree.get? location with _ | (modified | node)
    · exact .inl rfl
    · exact absurd found (admits.noDirectory modified)
    · exact .inr ⟨node, rfl, admits.complete node found, admits.replaceable node found⟩
  have notRoot : location ≠ .root := by
    rintro rfl
    obtain ⟨entry, atRoot, isDirectory⟩ := isTree.root
    cases entry with
    | directory modified => exact admits.noDirectory modified atRoot
    | file node => simp [Entry.isDirectory] at isDirectory
  have noFile (above : Location) (within : above <+: location.dropLast) :
      ∀ node, cluster.tree.get? above ≠ some (.file node) := by
    obtain ⟨within, different⟩ := (Location.prefix_dropLast_iff notRoot).mp within
    exact admits.clear above within different
  obtain ⟨made, ran, -⟩ := Namespace.makeDirectories_ancestors cluster.tree now location.dropLast noFile
  have isParent : location.parent? = some location.dropLast :=
    Location.parent?_eq_some_iff.mpr ⟨notRoot, rfl⟩
  rw [startFile, free]
  simp only [isParent, ran]
  exact ⟨_, rfl⟩

/-- A complete file can always be overwritten. -/
theorem startFile_of_complete (isTree : cluster.tree.IsTree) {node : FileNode} {options : CreateOptions}
    (found : cluster.tree.get? location = some (.file node)) (isComplete : node.underConstruction = false)
    (overwrite : options.overwrite = true) (now : Int) :
    ∃ after, cluster.startFile now location options = (.ok (), after) := by
  refine startFile_of_admits isTree ⟨?_, ?_, fun _ _ => overwrite, ?_⟩ now
  · simp [found]
  · intro other present
    obtain rfl : node = other := by simpa [found] using present
    exact isComplete
  · intro above within different other same
    obtain ⟨holder, present, isDirectory⟩ := isTree.above found within different
    obtain rfl : holder = .file other := Option.some.inj (present.symm.trans same)
    simp [Entry.isDirectory] at isDirectory

theorem append_of_leased (now : Int) (data : Bytes) {bytes : Bytes}
    (leased : cluster.tree.view location = some ⟨bytes, true⟩) :
    ∃ node extended cursor, cluster.tree.file? location = some node ∧
      cluster.append now location data = (.ok (), cluster.withFile location extended cursor) ∧
      extended.view = ⟨bytes ++ data, true⟩ ∧ extended.replication = node.replication ∧
      extended.blockSize = node.blockSize := by
  obtain ⟨node, found, same⟩ := Option.map_eq_some_iff.mp leased
  obtain ⟨rfl, isLeased⟩ : node.bytes = bytes ∧ node.underConstruction = true := by
    simpa [FileNode.view] using same
  let layout := Layout.append cluster.datanodes node.blockBytes node.replication data
    ⟨node.blocks, cluster.cursor⟩
  refine ⟨node, { node with blocks := layout.blocks, modified := now }, layout.cursor, found, ?_, ?_,
    rfl, rfl⟩
  · simp only [append, found, isLeased, if_true, layout, withFile]
  · simp only [FileNode.view, FileNode.bytes_eq, layout, Layout.append_contents node.blockBytes_pos,
      isLeased]

theorem append_of_not_leased (now : Int) (data : Bytes) (notLeased : ¬cluster.Leased location) :
    cluster.append now location data = (.error (.leaseLost location.toPath), cluster) := by
  rw [append]
  cases found : cluster.tree.file? location with
  | none => rfl
  | some node =>
    have free : node.underConstruction ≠ true := fun leased =>
      notLeased ⟨node.bytes, by rw [Namespace.view, found, Option.map_some, FileNode.view, leased]⟩
    simp [free]

/-- Completing touches the file at the place alone and ends its construction. -/
theorem complete_cases (cluster : Cluster) (location : Location) :
    (cluster.tree.view location = none ∧ cluster.complete location = cluster) ∨
    (∃ node, cluster.tree.file? location = some node ∧ cluster.complete location =
      cluster.withFile location { node with underConstruction := false } cluster.cursor) := by
  rw [complete]
  cases found : cluster.tree.file? location with
  | none => exact .inl ⟨by rw [Namespace.view, found, Option.map_none], rfl⟩
  | some node => exact .inr ⟨node, rfl, rfl⟩

theorem complete_withFile (node : FileNode) (cursor : UInt64) :
    (cluster.withFile location node cursor).complete location =
      cluster.withFile location { node with underConstruction := false } cursor := by
  simp only [complete, withFile_file?]
  exact withFile_withFile cluster node _ cursor cursor

/-- Where nothing is under construction there is nothing to complete. -/
theorem complete_of_not_leased (notLeased : ¬cluster.Leased location) :
    cluster.complete location = cluster := by
  rcases complete_cases cluster location with ⟨-, same⟩ | ⟨node, found, same⟩
  · exact same
  · have isComplete : node.underConstruction = false := by
      by_contra leased
      rw [Bool.not_eq_false] at leased
      exact notLeased ⟨node.bytes, by rw [Namespace.view, found, Option.map_some, FileNode.view, leased]⟩
    rw [same, ← isComplete, withFile_self found]

end Cluster

end FileGateway
