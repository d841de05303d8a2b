import FileGateway.Proofs.Storage.Run

/-! # Renaming moves a subtree

A rename on a cluster puts another place for one place in the name of all that is at and below it. Entries move
one by one, but none arrives where another one stands: nothing is at the target or below it, and the target is not
below the source. So the entries are the old ones under their new names, and renaming back meets the same
conditions and undoes it all.
-/

namespace FileGateway

/-- The name of a place after all that is at and below `source` has gone to `target`. -/
def Location.moved (location source target : Location) : Location :=
  if source <+: location then target ++ location.drop source.length else location

namespace Tree

variable {ν : Type} {tree after : Tree ν} {source target : Location}

/-- All that was at and below one place is at and below another instead, and nothing else has changed. -/
structure Moved (source target : Location) (tree after : Tree ν) : Prop where
  arrived : ∀ suffix, after.get? (target ++ suffix) = tree.get? (source ++ suffix)
  left : ∀ suffix, after.get? (source ++ suffix) = none
  elsewhere : ∀ place, ¬source <+: place → ¬target <+: place → after.get? place = tree.get? place
  entries : after.entries.Perm (tree.entries.map fun entry => (entry.1.moved source target, entry.2))

private theorem moved_append (suffix : Location) :
    (source ++ suffix).moved source target = target ++ suffix := by
  rw [Location.moved, if_pos (List.prefix_append ..), List.drop_left]

/-- Two entries have different names after a move, if nothing stood where entries arrive. -/
private theorem moved_injective (free : ∀ place, target <+: place → tree.get? place = none)
    {first second : Location × ν} (firstIn : first ∈ tree.entries) (secondIn : second ∈ tree.entries)
    (same : first.1.moved source target = second.1.moved source target) : first.1 = second.1 := by
  have outside {entry : Location × ν} (member : entry ∈ tree.entries) : ¬target <+: entry.1 := by
    intro within
    have found := SortedMap.get?_eq_some_iff.mpr member
    rw [free _ within] at found
    contradiction
  simp only [Location.moved] at same
  split_ifs at same with firstMoves secondMoves secondMoves
  · obtain ⟨firstSuffix, firstIs⟩ := firstMoves
    obtain ⟨secondSuffix, secondIs⟩ := secondMoves
    rw [← firstIs, ← secondIs, List.drop_left, List.drop_left, List.append_cancel_left_eq] at same
    rw [← firstIs, ← secondIs, same]
  · exact absurd ⟨_, same⟩ (outside secondIn)
  · exact absurd ⟨_, same.symm⟩ (outside firstIn)
  · exact same

/-- What is where after a move says which entries there are. -/
private theorem entries_perm (free : ∀ place, target <+: place → tree.get? place = none)
    (arrived : ∀ suffix, after.get? (target ++ suffix) = tree.get? (source ++ suffix))
    (left : ∀ suffix, after.get? (source ++ suffix) = none)
    (elsewhere : ∀ place, ¬source <+: place → ¬target <+: place → after.get? place = tree.get? place) :
    after.entries.Perm (tree.entries.map fun entry => (entry.1.moved source target, entry.2)) := by
  have nodup : (tree.entries.map fun entry => (entry.1.moved source target, entry.2)).Nodup := by
    refine (SortedMap.nodup_entries tree).map_on fun first firstIn second secondIn same => ?_
    obtain ⟨places, entries⟩ := Prod.mk.inj same
    exact Prod.ext (moved_injective free firstIn secondIn places) entries
  refine (List.perm_ext_iff_of_nodup (SortedMap.nodup_entries after) nodup).mpr fun ⟨place, entry⟩ => ?_
  rw [← SortedMap.get?_eq_some_iff, List.mem_map]
  constructor
  · intro found
    by_cases inTarget : target <+: place
    · obtain ⟨suffix, rfl⟩ := inTarget
      rw [arrived, SortedMap.get?_eq_some_iff] at found
      exact ⟨_, found, by rw [moved_append]⟩
    · by_cases inSource : source <+: place
      · obtain ⟨suffix, rfl⟩ := inSource
        rw [left] at found
        contradiction
      · rw [elsewhere place inSource inTarget, SortedMap.get?_eq_some_iff] at found
        exact ⟨_, found, by rw [Location.moved, if_neg inSource]⟩
  · rintro ⟨⟨old, _⟩, member, same⟩
    obtain ⟨rfl, rfl⟩ := Prod.mk.inj same
    have found := SortedMap.get?_eq_some_iff.mpr member
    by_cases inSource : source <+: old
    · obtain ⟨suffix, rfl⟩ := inSource
      rw [moved_append, arrived, found]
    · have outside : ¬target <+: old := fun within => by
        rw [free _ within] at found
        contradiction
      rw [Location.moved, if_neg inSource, elsewhere old inSource outside, found]

/-- A subtree moves to a free place that is neither below it nor above it. -/
theorem graft_moved (notBelow : ¬source <+: target) (notAbove : ¬target <+: source)
    (free : ∀ place, target <+: place → tree.get? place = none) :
    Moved source target tree (tree.graft source target) := by
  have shape := get?_graft tree notBelow free
  have arrived (suffix : Location) : (tree.graft source target).get? (target ++ suffix) =
      tree.get? (source ++ suffix) := by
    rw [shape, if_pos (List.prefix_append ..), List.drop_left]
  have left (suffix : Location) : (tree.graft source target).get? (source ++ suffix) = none := by
    rw [shape, if_neg, if_pos (List.prefix_append ..)]
    intro within
    rcases List.prefix_or_prefix_of_prefix within (List.prefix_append source suffix) with above | below
    · exact notAbove above
    · exact notBelow below
  have elsewhere (place : Location) (notSource : ¬source <+: place) (notTarget : ¬target <+: place) :
      (tree.graft source target).get? place = tree.get? place := by
    rw [shape, if_neg notTarget, if_neg notSource]
  exact ⟨arrived, left, elsewhere, entries_perm free arrived left elsewhere⟩

/-- Two moves, there and back, leave all as it was. -/
theorem Moved.back {last : Tree ν} (there : Moved source target tree after) (back : Moved target source after last)
    (free : ∀ place, target <+: place → tree.get? place = none) : last = tree := by
  apply SortedMap.ext_get?
  intro place
  by_cases inSource : source <+: place
  · obtain ⟨suffix, rfl⟩ := inSource
    rw [back.arrived, there.arrived]
  · by_cases inTarget : target <+: place
    · obtain ⟨suffix, rfl⟩ := inTarget
      rw [back.left, free _ (List.prefix_append ..)]
    · rw [back.elsewhere place inTarget inSource, there.elsewhere place inSource inTarget]

end Tree

namespace Cluster

variable {cluster after : Cluster} {source target : Location}

/-- What a successful rename leaves. -/
theorem rename_moved (isTree : cluster.tree.IsTree) (done : cluster.rename source target = (.ok (), after)) :
    Tree.Moved source target cluster.tree after.tree ∧ after = { cluster with tree := after.tree } := by
  have free (place : Location) (within : target <+: place) := rename_free isTree done within
  obtain ⟨present, -, notBelow, -, rfl⟩ := rename_ok_iff.mp done
  obtain ⟨entry, found⟩ := Option.isSome_iff_exists.mp present
  refine ⟨Tree.graft_moved notBelow (fun above => ?_) free, rfl⟩
  rw [free source above] at found
  contradiction

/-- Who renamed can rename back, and then all is as it was. -/
theorem rename_back (isTree : cluster.tree.IsTree) (done : cluster.rename source target = (.ok (), after)) :
    after.rename target source = (.ok (), cluster) := by
  have free (place : Location) (within : target <+: place) := rename_free isTree done within
  obtain ⟨there, same⟩ := rename_moved isTree done
  obtain ⟨present, -, notBelow, -, -⟩ := rename_ok_iff.mp done
  obtain ⟨entry, found⟩ := Option.isSome_iff_exists.mp present
  have notAbove : ¬target <+: source := fun above => by
    rw [free source above] at found
    contradiction
  have vacated (place : Location) (within : source <+: place) : after.tree.get? place = none := by
    obtain ⟨suffix, rfl⟩ := within
    exact there.left suffix
  have restored : after.tree.graft target source = cluster.tree :=
    there.back (Tree.graft_moved notAbove notBelow vacated) free
  -- the directory that held the source is neither below the source nor below the target
  have notRoot : source ≠ .root := by
    rintro rfl
    exact notBelow List.nil_prefix
  have isParent : source.parent? = some source.dropLast := Location.parent?_eq_some_iff.mpr ⟨notRoot, rfl⟩
  obtain ⟨holder, atParent, isDirectory⟩ := isTree.parent found isParent
  have stays : after.tree.get? source.dropLast = some holder := by
    rw [there.elsewhere _ (Location.not_prefix_dropLast notRoot), atParent]
    exact fun within => notAbove (within.trans (List.dropLast_prefix _))
  have isHolder : ∃ modified, holder = .directory modified := by
    cases holder with
    | directory modified => exact ⟨modified, rfl⟩
    | file node => simp [Entry.isDirectory] at isDirectory
  obtain ⟨modified, rfl⟩ := isHolder
  refine rename_ok_iff.mpr ⟨?_, ?_, notAbove, ⟨_, modified, isParent, stays⟩, ?_⟩
  · have arrived := there.arrived []
    rw [List.append_nil, List.append_nil] at arrived
    rw [SortedMap.contains, arrived, found, Option.isSome_some]
  · exact SortedMap.contains_eq_false_iff.mpr (vacated source List.prefix_rfl)
  · rw [restored, same]

end Cluster

namespace Storage

/-- After every run a client of a cluster can rename exactly where the source exists, the target is free and not
below the source, and a directory holds the target. Then each entry at and below the source has the target instead
of the source in front of its name, and nothing else has changed; renaming back succeeds and leaves storage as it
was. Who is refused has changed nothing. -/
theorem rename_moves_subtree (now : Int) (disk : Disk) (requests : List Request) (client number : Nat)
    (directory : Location) (cluster : Cluster) (source target : Path) :
    let storage := (new now disk).run requests
    let origin := directory.resolve source
    let goal := directory.resolve target
    storage.clients[client]? = some ⟨.cluster number, directory, .none⟩ →
    storage.clusters[number]? = some cluster →
    ((∃ after, rename client source target storage = .ok () after) ↔
      cluster.tree.contains origin = true ∧ cluster.tree.contains goal = false ∧ ¬origin <+: goal ∧
        ∃ holder modified, goal.parent? = some holder ∧
          cluster.tree.get? holder = some (.directory modified)) ∧
    (∀ failure after, rename client source target storage = .error failure after → after = storage) ∧
    ∀ after, rename client source target storage = .ok () after →
      ∃ tree, after = storage.withCluster number { cluster with tree } ∧
        Tree.Moved origin goal cluster.tree tree ∧ rename client target source after = .ok () storage := by
  intro storage origin goal found present
  have isTree : cluster.tree.IsTree :=
    ((sound_new now disk).run requests).trees cluster (List.mem_of_getElem? present)
  rw [rename_of_cluster found, onCluster_of_some present]
  rcases ran : cluster.rename origin goal with ⟨exception | ⟨⟩, changed⟩
  · refine ⟨iff_of_false (fun ⟨_, done⟩ => nomatch done) fun conditions => ?_, fun failure after failed => ?_, ?_⟩
    · obtain ⟨standing, free, notBelow, held⟩ := conditions
      have done := Cluster.rename_ok_iff.mpr ⟨standing, free, notBelow, held, rfl⟩
      simp [ran] at done
    · obtain ⟨-, rfl⟩ := EStateM.Result.error.inj failed
      rw [Cluster.rename_error ran, withCluster_self present]
    · exact fun _ done => nomatch done
  · obtain ⟨moved, same⟩ := Cluster.rename_moved isTree ran
    obtain ⟨standing, free, notBelow, held, -⟩ := Cluster.rename_ok_iff.mp ran
    refine ⟨iff_of_true ⟨_, rfl⟩ ⟨standing, free, notBelow, held⟩, fun _ _ failed => (nomatch failed), ?_⟩
    intro after done
    obtain ⟨-, rfl⟩ := EStateM.Result.ok.inj done
    refine ⟨changed.tree, by rw [← same], moved, ?_⟩
    have joined : (storage.withCluster number changed).clients[client]? =
        some ⟨.cluster number, directory, .none⟩ := found
    rw [rename_of_cluster joined, onCluster_of_some (clusters_withCluster present changed),
      Cluster.rename_back isTree ran, withCluster_withCluster, withCluster_self present]
    rfl

/-- A directory and two siblings whose names begin like its own. -/
def siblings : List Request :=
  [.startCluster "nn:1" .default ["dn"] 1, .joinCluster 0, .createFile 0 ⟨[47, 97, 47, 102]⟩ .none,
    .createFile 0 ⟨[47, 97, 45, 98]⟩ .none, .createFile 0 ⟨[47, 97, 98]⟩ .none]

/-- Renaming the directory moves its file and leaves the siblings, and renaming back restores all. -/
theorem rename_moves_subtree_of_siblings : ∃ after, let storage := (new 0 (.new 0 .root 0 0)).run siblings
    rename 0 ⟨[47, 97]⟩ ⟨[47, 122]⟩ storage = .ok () after ∧
      after.clusters.map (·.tree.keys) = [[[], [[97, 45, 98]], [[97, 98]], [[122]], [[122], [102]]]] ∧
      rename 0 ⟨[47, 122]⟩ ⟨[47, 97]⟩ after = .ok () storage := by
  obtain ⟨-, -, moves⟩ := rename_moves_subtree 0 (.new 0 .root 0 0) siblings 0 0 .root _ ⟨[47, 97]⟩ ⟨[47, 122]⟩
    rfl rfl
  obtain ⟨tree, same, -, back⟩ := moves _ rfl
  exact ⟨_, rfl, rfl, back⟩

end Storage

end FileGateway
