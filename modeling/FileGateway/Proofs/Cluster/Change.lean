import FileGateway.Proofs.Cluster.Scene

/-! # What one request changes in a cluster

`Change` names every way in which a client can change its cluster, creates that succeed apart, for
those also bring a writer. Each of them keeps the namespace a tree, and each is a step of the scene.
-/

namespace FileGateway.Cluster

variable {cluster after : Cluster} {location source target : Location} {events : List Event} {now : Int}

open Function (update)

/-! ## What happens to files -/

theorem createDirectories_isTree (isTree : cluster.tree.IsTree) (now : Int)
    (proper : location.Proper) : (cluster.createDirectories now location).2.tree.IsTree := by
  by_cases blocked : ∃ above node, above <+: location ∧ cluster.tree.get? above = some (.file node)
  · obtain ⟨above, node, within, found⟩ := blocked
    rwa [createDirectories_of_file isTree now within found]
  · simp only [not_exists, not_and] at blocked
    have noFile := fun above within node => blocked above node within
    obtain ⟨made, ran, shape⟩ := cluster.createDirectories_of_noFile now noFile
    rw [ran]
    exact isTree.fill proper noFile shape

theorem createDirectories_view (isTree : cluster.tree.IsTree) (now : Int) (location : Location) :
    (cluster.createDirectories now location).2.tree.view = cluster.tree.view := by
  by_cases blocked : ∃ above node, above <+: location ∧ cluster.tree.get? above = some (.file node)
  · obtain ⟨above, node, within, found⟩ := blocked
    rw [createDirectories_of_file isTree now within found]
  · simp only [not_exists, not_and] at blocked
    obtain ⟨made, ran, shape⟩ :=
      cluster.createDirectories_of_noFile now fun above within node => blocked above node within
    rw [ran]
    exact Namespace.view_fill shape

theorem delete_view (done : cluster.delete location = (.ok (), after)) (place : Location) :
    after.tree.view place = if location <+: place then none else cluster.tree.view place := by
  obtain ⟨-, -, rfl⟩ := delete_ok_iff.mp done
  rw [Namespace.view, Namespace.file?, Tree.get?_prune]
  split <;> rfl

theorem rename_free (isTree : cluster.tree.IsTree)
    (done : cluster.rename source target = (.ok (), after)) {place : Location}
    (within : target <+: place) : cluster.tree.get? place = none := by
  obtain ⟨-, free, -⟩ := rename_ok_iff.mp done
  exact isTree.none_of_free (SortedMap.contains_eq_false_iff.mp free) within

theorem rename_view (isTree : cluster.tree.IsTree)
    (done : cluster.rename source target = (.ok (), after)) (place : Location) :
    after.tree.view place =
      if target <+: place then cluster.tree.view (source ++ place.drop target.length)
      else if source <+: place then none
      else cluster.tree.view place := by
  have free (place : Location) (within : target <+: place) := rename_free isTree done within
  obtain ⟨-, -, notBelow, -, rfl⟩ := rename_ok_iff.mp done
  rw [Namespace.view, Namespace.file?, Tree.get?_graft cluster.tree notBelow free]
  split
  · rfl
  · split <;> rfl

theorem rename_isTree (isTree : cluster.tree.IsTree) (proper : target.Proper)
    (done : cluster.rename source target = (.ok (), after)) : after.tree.IsTree := by
  obtain ⟨-, free, notBelow, ⟨above, modified, isParent, atParent⟩, rfl⟩ := rename_ok_iff.mp done
  apply isTree.graft notBelow (SortedMap.contains_eq_false_iff.mp free) proper
  intro other same
  obtain rfl : above = other := Option.some.inj (isParent.symm.trans same)
  exact ⟨_, atParent, rfl⟩

theorem startFile_isTree (isTree : cluster.tree.IsTree) (proper : location.Proper) (now : Int)
    (options : CreateOptions) : (cluster.startFile now location options).2.tree.IsTree := by
  rcases startFile_cases isTree now location options with
    ⟨exception, ran, -⟩ | ⟨notRoot, free, noFile, made, ran, shape⟩
  · rwa [ran]
  · rw [ran]
    have above {place} (within : place <+: location.dropLast) (node : FileNode) :
        cluster.tree.get? place ≠ some (.file node) := by
      obtain ⟨within, different⟩ := (Location.prefix_dropLast_iff notRoot).mp within
      exact noFile place within different node
    have filled : Namespace.IsTree made :=
      isTree.fill (proper.of_prefix (List.dropLast_prefix _)) (fun place within => above within) shape
    refine filled.insert proper (fun parent isParent => ?_) ?_
    · obtain ⟨-, rfl⟩ := Location.parent?_eq_some_iff.mp isParent
      rw [shape, if_pos List.prefix_rfl]
      cases found : cluster.tree.get? location.dropLast with
      | none => exact ⟨_, rfl, rfl⟩
      | some entry =>
        cases entry with
        | directory modified => exact ⟨_, rfl, rfl⟩
        | file node => exact absurd found (above List.prefix_rfl node)
    · rintro (atRoot | ⟨name, occupied⟩)
      · exact absurd atRoot notRoot
      · -- a file is created where nothing is or where a file is, so nothing is below
        refine absurd (filled.none_below (fun holder present isDirectory => ?_)
          (List.prefix_append location [name]) (by simp)) occupied
        have same : made.get? location = cluster.tree.get? location := by
          rw [shape, if_neg (Location.not_prefix_dropLast notRoot), Option.or_none]
        rw [same] at present
        rcases creationConflict?_eq_none_iff.mp free with absent | ⟨node, found, -⟩
        · rw [absent] at present
          contradiction
        · rw [found, Option.some.injEq] at present
          simp [← present, Entry.isDirectory] at isDirectory

theorem startFile_view (isTree : cluster.tree.IsTree) {options : CreateOptions}
    (done : cluster.startFile now location options = (.ok (), after)) :
    (∀ bytes, cluster.tree.view location ≠ some ⟨bytes, true⟩) ∧
      after.tree.view = update cluster.tree.view location (some ⟨[], true⟩) := by
  rcases startFile_cases isTree now location options with
    ⟨exception, ran, -⟩ | ⟨-, free, -, made, ran, shape⟩
  · simp [ran] at done
  · obtain rfl := (congrArg Prod.snd (ran.symm.trans done) :)
    constructor
    · intro bytes leased
      obtain ⟨node, found, viewed⟩ := Namespace.view_eq_some_iff.mp leased
      rcases creationConflict?_eq_none_iff.mp free with absent | ⟨other, present, isComplete, -⟩
      · rw [absent] at found
        contradiction
      · obtain rfl : other = node := by simpa [present] using found
        simp [FileNode.view, isComplete] at viewed
    · funext place
      rw [Namespace.view_insert_file, Namespace.view_fill shape, Function.update_apply]
      rfl

theorem startFile_error (isTree : cluster.tree.IsTree) {options : CreateOptions} {exception : Exception}
    (failed : cluster.startFile now location options = (.error exception, after)) :
    after = cluster ∧ exception.kind = .fileAlreadyExists := by
  rcases startFile_cases isTree now location options with
    ⟨other, ran, kind⟩ | ⟨-, -, -, made, ran, -⟩
  · obtain ⟨same, rfl⟩ := Prod.mk.inj (ran.symm.trans failed)
    exact ⟨rfl, Except.error.inj same ▸ kind⟩
  · simp [ran] at failed

/-- Where a file is under construction no other is created. -/
theorem startFile_of_leased (leased : cluster.Leased location) (now : Int) (options : CreateOptions) :
    cluster.startFile now location options = (.error (.beingCreated location.toPath), cluster) := by
  obtain ⟨bytes, view⟩ := leased
  obtain ⟨node, found, same⟩ := Namespace.view_eq_some_iff.mp view
  have isLeased : node.underConstruction = true := congrArg FileView.leased same
  simp [startFile, creationConflict?, found, isLeased]

/-! ## Changes -/

inductive Change (cluster : Cluster) : List Event → Cluster → Prop
  | none : Change cluster [] cluster
  | locked (locks : LockTable Location) : Change cluster [] { cluster with locks }
  | filled (now : Int) {location : Location} (proper : location.Proper) :
      Change cluster [] (cluster.createDirectories now location).2
  | replicated {location : Location} {replication : UInt16} {after : Cluster}
      (done : cluster.setReplication location replication = (.ok (), after)) : Change cluster [] after
  | refused {now : Int} {location : Location} {options : CreateOptions} {exception : Exception}
      {after : Cluster} (failed : cluster.startFile now location options = (.error exception, after)) :
      Change cluster [] after
  | deleted {location : Location} {after : Cluster} (done : cluster.delete location = (.ok (), after)) :
      Change cluster [.deleted location] after
  | renamed {source target : Location} {after : Cluster} (proper : target.Proper)
      (done : cluster.rename source target = (.ok (), after)) :
      Change cluster [.renamed source target] after

/-- Every change keeps the namespace a tree. -/
theorem Change.isTree (change : cluster.Change events after) (isTree : cluster.tree.IsTree) :
    after.tree.IsTree := by
  cases change with
  | none | locked => exact isTree
  | filled now proper => exact createDirectories_isTree isTree now proper
  | replicated done =>
    obtain ⟨node, changed, cursor, found, -, rfl⟩ := setReplication_ok done
    exact withFile_isTree isTree found changed cursor
  | refused failed =>
    rwa [(startFile_error isTree failed).1]
  | deleted done =>
    obtain ⟨notRoot, -, rfl⟩ := delete_ok_iff.mp done
    exact isTree.prune notRoot
  | renamed proper done => exact rename_isTree isTree proper done

/-- Every change is a step of the scene. -/
theorem Change.step (change : cluster.Change events after) (isTree : cluster.tree.IsTree)
    (writers : Nat → Option ClusterWriter) :
    Scene.Step ⟨cluster.tree.view, writers⟩ events ⟨after.tree.view, writers⟩ := by
  cases change with
  | none | locked => exact .still _
  | filled now proper =>
    rw [createDirectories_view isTree]
    exact .still _
  | @replicated location _ _ done =>
    obtain ⟨node, changed, cursor, found, same, rfl⟩ := setReplication_ok done
    have kept : (cluster.withFile location changed cursor).tree.view = cluster.tree.view := by
      funext place
      rw [withFile_view, same]
      split
      · next atFile => rw [atFile, Namespace.view, found, Option.map_some]
      · rfl
    rw [kept]
    exact .still _
  | refused failed =>
    rw [(startFile_error isTree failed).1]
    exact .still _
  | deleted done =>
    rw [funext (delete_view done)]
    exact .deleted ⟨cluster.tree.view, writers⟩ _
  | @renamed source target _ proper done =>
    rw [funext (rename_view isTree done)]
    refine @Scene.Step.renamed ⟨cluster.tree.view, writers⟩ target source fun place within => ?_
    exact Namespace.view_eq_none_iff.mpr fun node => by rw [rename_free isTree done within]; simp

end FileGateway.Cluster
