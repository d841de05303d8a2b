import FileGateway.Storage.Whole
import FileGateway.Proofs.SubtreeMoves
import FileGateway.Proofs.SubtreeRemoval
import FileGateway.Proofs.TreeCopy

/-! # Listing and walking a tree

Listing a directory of a cluster picks the children out of a scan through all that is below. What is below a
directory is what is at and below its children, child after child: every name on the way has an entry, and the
subtrees follow one another in the order of their names. So a walk that lists one directory after the other goes
through everything below the first in the order of the namespace.
-/

namespace FileGateway

namespace Location

/-- Places in one directory compare as what is left of them. -/
theorem compare_append (directory first second : Location) :
    compare (directory ++ first) (directory ++ second) = compare first second := by
  induction directory with
  | nil => rfl
  | cons name rest ih => simpa [List.compare_eq_compareLex] using ih

/-- Places in two directories with one parent are in the order of the directories' names. -/
theorem compare_of_names (directory : Location) {first second : Name} (before : compare first second = .lt)
    (firstRest secondRest : Location) :
    compare (directory ++ [first] ++ firstRest) (directory ++ [second] ++ secondRest) = .lt := by
  rw [List.append_assoc, List.append_assoc, compare_append, List.singleton_append, List.singleton_append,
    List.compare_eq_compareLex, List.compareLex_cons_cons, before]
  rfl

end Location

namespace Tree

variable {ν : Type} {directory : ν → Prop} {tree : Tree ν} {location : Location}

/-- The entries below a place, in order. -/
def below (tree : Tree ν) (location : Location) : List (Location × ν) :=
  tree.entries.filter fun entry => entry.1.isWithin location && entry.1 != location

theorem mem_below {place : Location} {entry : ν} :
    (place, entry) ∈ tree.below location ↔
      tree.get? place = some entry ∧ location <+: place ∧ place ≠ location := by
  rw [below, List.mem_filter, SortedMap.get?_eq_some_iff, Bool.and_eq_true, Location.isWithin_iff, bne_iff_ne]

/-- A scan finds the place itself first. -/
theorem descendants_eq_cons {entry : ν} (present : tree.get? location = some entry) :
    tree.descendants location = (location, entry) :: tree.below location := by
  have after : ∀ other ∈ tree.below location, compare location other.1 = .lt := by
    rintro ⟨place, other⟩ member
    obtain ⟨-, ⟨suffix, rfl⟩, different⟩ := mem_below.mp member
    cases suffix with
    | nil => simp at different
    | cons name rest =>
      have order := Location.compare_append location [] (name :: rest)
      rw [List.append_nil] at order
      rw [order]
      rfl
  refine SortedMap.eq_of_mem_iff (ascending_descendants tree location)
    (.cons after (SortedMap.ascending_filter _ tree)) fun ⟨place, other⟩ => ?_
  rw [mem_descendants, List.mem_cons, mem_below, Prod.mk.injEq]
  constructor
  · rintro ⟨found, within⟩
    by_cases same : place = location
    · subst same
      exact .inl ⟨rfl, Option.some.inj (found.symm.trans present)⟩
    · exact .inr ⟨found, within, same⟩
  · rintro (⟨rfl, rfl⟩ | ⟨found, within, -⟩)
    · exact ⟨present, List.prefix_rfl⟩
    · exact ⟨found, within⟩

/-- The children of a place by name, in the order of their names. -/
theorem children_ascending (tree : Tree ν) (location : Location) :
    ∃ names : List Name, names.Pairwise (fun first second => compare first second = .lt) ∧
      (tree.children location).map (·.1) = names.map (fun name => location ++ [name]) ∧
      ∀ name, name ∈ names ↔ tree.get? (location ++ [name]) ≠ none := by
  obtain ⟨names, -, keys, members⟩ := exists_names tree location
  refine ⟨names, ?_, keys, members⟩
  have ascending : ((tree.children location).map (·.1)).Pairwise (fun first second => compare first second = .lt) :=
    List.pairwise_map.mpr ((ascending_descendants tree location).filter _)
  rw [keys, List.pairwise_map] at ascending
  apply ascending.imp
  intro first second before
  rw [Location.compare_append, List.compare_eq_compareLex, List.compareLex_cons_cons, Ordering.then_eq_lt] at before
  rcases before with before | ⟨-, impossible⟩
  · exact before
  · exact nomatch impossible

private theorem children_named {names : List Name}
    (keys : (tree.children location).map (·.1) = names.map fun name => location ++ [name]) :
    List.Forall₂ (fun name child => child.1 = location ++ [name] ∧ tree.get? child.1 = some child.2) names
      (tree.children location) := by
  have each : List.Forall₂ (fun place child => child.1 = place ∧ tree.get? child.1 = some child.2)
      ((tree.children location).map (·.1)) (tree.children location) := by
    rw [List.forall₂_map_left_iff, List.forall₂_same]
    exact fun child member => ⟨rfl, (mem_children.mp member).1⟩
  rwa [keys, List.forall₂_map_left_iff] at each

/-- Nothing is below what is no directory. -/
theorem Rooted.below_eq_nil (rooted : tree.Rooted directory)
    (noDirectory : ∀ holder, tree.get? location = some holder → ¬directory holder) : tree.below location = [] := by
  rw [List.eq_nil_iff_forall_not_mem]
  rintro ⟨place, entry⟩ member
  obtain ⟨found, within, different⟩ := mem_below.mp member
  rw [rooted.none_below noDirectory within different.symm] at found
  contradiction

/-- In a rooted tree what is below a place is what is at and below its children, child after child. -/
theorem Rooted.below_eq_flatMap (rooted : tree.Rooted directory) (location : Location) :
    tree.below location = (tree.children location).flatMap fun child => tree.descendants child.1 := by
  refine SortedMap.eq_of_mem_iff (SortedMap.ascending_filter _ tree) (List.pairwise_flatMap.mpr ⟨?_, ?_⟩) ?_
  · exact fun child _ => ascending_descendants tree child.1
  · obtain ⟨names, ascending, keys, -⟩ := children_ascending tree location
    have apart : ((tree.children location).map (·.1)).Pairwise fun first second =>
        ∀ one rest, compare (first ++ one) (second ++ rest) = .lt := by
      rw [keys, List.pairwise_map]
      exact ascending.imp fun before one rest => Location.compare_of_names location before one rest
    refine (List.pairwise_map.mp apart).imp fun before one oneIn other otherIn => ?_
    obtain ⟨-, suffix, same⟩ := mem_descendants.mp (show (one.1, one.2) ∈ _ from oneIn)
    obtain ⟨-, otherSuffix, otherSame⟩ := mem_descendants.mp (show (other.1, other.2) ∈ _ from otherIn)
    rw [← same, ← otherSame]
    exact before suffix otherSuffix
  · rintro ⟨place, entry⟩
    rw [mem_below, List.mem_flatMap]
    constructor
    · rintro ⟨found, ⟨suffix, rfl⟩, different⟩
      cases suffix with
      | nil => simp at different
      | cons name rest =>
        -- the name right below the place has an entry, be it on the way or at the end
        have within : location ++ [name] <+: location ++ name :: rest := ⟨rest, by simp⟩
        have standing : ∃ child, tree.get? (location ++ [name]) = some child := by
          by_cases same : location ++ [name] = location ++ name :: rest
          · exact ⟨entry, same ▸ found⟩
          · obtain ⟨child, standing, -⟩ := rooted.above found within same
            exact ⟨child, standing⟩
        obtain ⟨child, standing⟩ := standing
        exact ⟨(location ++ [name], child), mem_children.mpr ⟨standing, name, rfl⟩,
          mem_descendants.mpr ⟨found, within⟩⟩
    · rintro ⟨⟨_, child⟩, isChild, member⟩
      obtain ⟨-, name, rfl⟩ := mem_children.mp isChild
      obtain ⟨found, suffix, rfl⟩ := mem_descendants.mp member
      exact ⟨found, ⟨name :: suffix, by simp⟩, by simp⟩

end Tree

namespace Storage

variable {storage : Storage} {client number : Nat} {path : Path} {directory : Location} {cluster : Cluster}
  {modified : Int}

/-! ## Walks -/

/-- Actions that change nothing, one after the other. -/
private theorem mapM_run {α β : Type} {action : α → Action β} {answer : α → β} {list : List α}
    (each : ∀ element ∈ list, action element storage = .ok (answer element) storage) :
    list.mapM action storage = .ok (list.map answer) storage := by
  induction list with
  | nil => rfl
  | cons first rest ih =>
    rw [List.mapM_cons, bind_run, each first (List.mem_cons_self ..)]
    simp only [bind_run]
    rw [ih fun element member => each element (List.mem_cons_of_mem _ member)]
    rfl

/-- What a walk does with one record of a listing. -/
def visit (client levels : Nat) (record : FileStatus) : Action (List FileStatus) := do
  if record.isDirectory then return record :: (← walkLevels client levels record.path)
  return [record]

theorem walkLevels_succ (client levels : Nat) (path : Path) : walkLevels client (levels + 1) path = (do
    let records ← list client path
    let parts ← records.mapM (visit client levels)
    return parts.flatten) := rfl

theorem visit_of_directory {levels : Nat} {record : FileStatus} {visited : List FileStatus}
    (isDirectory : record.isDirectory = true)
    (walked : walkLevels client levels record.path storage = .ok visited storage) :
    visit client levels record storage = .ok (record :: visited) storage := by
  rw [visit, if_pos isDirectory, bind_run, walked]
  rfl

theorem visit_of_file {levels : Nat} {record : FileStatus} (isFile : record.isDirectory = false) :
    visit client levels record storage = .ok [record] storage := by
  rw [visit, if_neg (by simp [isFile])]
  rfl

section Client

variable (found : storage.clients[client]? = some ⟨.cluster number, directory, .none⟩)
  (present : storage.clusters[number]? = some cluster)

include found present

theorem list_of_directory (isDirectory : cluster.tree.get? (directory.resolve path) = some (.directory modified)) :
    list client path storage = .ok ((cluster.tree.children (directory.resolve path)).map fun entry =>
      Cluster.statusOf entry.1 entry.2) storage := by
  rw [list_of_cluster found present, Cluster.list, isDirectory]
  rfl

theorem status_of_entry {entry : Entry} (isEntry : cluster.tree.get? (directory.resolve path) = some entry) :
    status client path storage = .ok (Cluster.statusOf (directory.resolve path) entry) storage := by
  rw [status_of_cluster found present, Cluster.status, isEntry]
  rfl

/-- A walk with levels to the bottom goes through all that is below a directory. -/
theorem walkLevels_run (isTree : cluster.tree.IsTree) (levels : Nat)
    (isDirectory : cluster.tree.get? (directory.resolve path) = some (.directory modified))
    (deep : ∀ place entry, cluster.tree.get? place = some entry → directory.resolve path <+: place →
      place.length < (directory.resolve path).length + levels) :
    walkLevels client levels path storage =
      .ok ((cluster.tree.below (directory.resolve path)).map fun entry => Cluster.statusOf entry.1 entry.2)
        storage := by
  induction levels generalizing path modified with
  | zero =>
    have := deep _ _ isDirectory List.prefix_rfl
    omega
  | succ levels ih =>
    -- each child answers with what is at it and below it
    have each : ∀ child ∈ cluster.tree.children (directory.resolve path),
        (visit client levels ∘ fun entry => Cluster.statusOf entry.1 entry.2) child storage =
          .ok ((cluster.tree.descendants child.1).map fun entry => Cluster.statusOf entry.1 entry.2) storage := by
      rintro ⟨place, entry⟩ member
      obtain ⟨standing, name, rfl⟩ := Tree.mem_children.mp member
      rw [Tree.descendants_eq_cons standing, List.map_cons]
      cases entry with
      | directory modified =>
        have resolved := Location.resolve_toPath directory (isTree.proper standing)
        rw [← resolved] at standing
        have walked := ih standing fun place entry isEntry within => by
          rw [resolved] at within ⊢
          have short := deep place entry isEntry ((List.prefix_append ..).trans within)
          rw [List.length_append, List.length_singleton]
          omega
        rw [resolved] at walked
        exact visit_of_directory rfl walked
      | file node =>
        have bottom := isTree.below_eq_nil fun holder isHolder isDirectory => by
          rw [standing, Option.some.injEq] at isHolder
          simp [← isHolder, Entry.isDirectory] at isDirectory
        rw [bottom]
        exact visit_of_file rfl
    rw [walkLevels_succ, bind_run, list_of_directory found present isDirectory]
    simp only [bind_run]
    rw [List.mapM_map, mapM_run each, isTree.below_eq_flatMap, List.map_flatMap, List.flatMap_def]
    rfl

end Client

/-- After every run listing a directory of a cluster gives its children in the order of their names, bytewise, each
with what its own status is; listing a file gives the status of the file. A walk with enough levels, as many as
there are entries, and the walk that counts its levels itself both come to an end and go through all that is below
the directory, once and in the order of the namespace. -/
theorem listing_and_walk (now : Int) (disk : Disk) (requests : List Request) (client number : Nat)
    (directory : Location) (cluster : Cluster) (path : Path) :
    let storage := (new now disk).run requests
    let place := directory.resolve path
    storage.clients[client]? = some ⟨.cluster number, directory, .none⟩ →
    storage.clusters[number]? = some cluster →
    (∀ modified, cluster.tree.get? place = some (.directory modified) →
      (∃ names listed, list client path storage = .ok listed storage ∧
        names.Pairwise (fun first second => compare first second = .lt) ∧
        (∀ name, name ∈ names ↔ cluster.tree.get? (place ++ [name]) ≠ none) ∧
        List.Forall₂ (fun name (record : FileStatus) => record.path.fileName? = some name ∧
          directory.resolve record.path = place ++ [name] ∧
          ∀ child, directory.resolve child = place ++ [name] → status client child storage = .ok record storage)
          names listed) ∧
      let visited := (cluster.tree.below place).map fun entry => Cluster.statusOf entry.1 entry.2
      (∀ levels, cluster.tree.entries.length ≤ levels →
        walkLevels client levels path storage = .ok visited storage) ∧
      walkTree client path storage = .ok visited storage) ∧
    ∀ node, cluster.tree.get? place = some (.file node) →
      ∃ record, status client path storage = .ok record storage ∧ list client path storage = .ok [record] storage := by
  intro storage place found present
  have isTree : cluster.tree.IsTree :=
    ((sound_new now disk).run requests).trees cluster (List.mem_of_getElem? present)
  refine ⟨fun modified isDirectory => ⟨?_, ?_⟩, fun node isFile => ?_⟩
  · obtain ⟨names, ascending, keys, members⟩ := Tree.children_ascending cluster.tree place
    refine ⟨names, _, list_of_directory found present isDirectory, ascending, members, ?_⟩
    refine List.forall₂_map_right_iff.mpr ((Tree.children_named keys).imp ?_)
    rintro name ⟨_, entry⟩ ⟨rfl, standing⟩
    have proper := isTree.proper standing
    have isPath : (Cluster.statusOf (place ++ [name]) entry).path = (place ++ [name]).toPath := by
      cases entry <;> rfl
    refine ⟨?_, ?_, fun child same => ?_⟩
    · rw [isPath, Location.fileName?_toPath proper, List.getLast?_concat]
    · rw [isPath, Location.resolve_toPath directory proper]
    · rw [status_of_entry found present (same ▸ standing), same]
  · have walks (levels : Nat) (enough : cluster.tree.entries.length ≤ levels) :=
      walkLevels_run found present isTree levels isDirectory fun below entry isEntry _ => by
        have short := isTree.length_lt isEntry
        omega
    refine ⟨walks, ?_⟩
    have reach := (le_deepest storage.clusters).2 cluster (List.mem_of_getElem? present)
    exact walks (deepest storage) (by rw [deepest]; omega)
  · refine ⟨_, status_of_entry found present isFile, ?_⟩
    rw [list_of_cluster found present, Cluster.list, isFile]
    rfl

/-- Below the root stand a directory with a file in it and two files whose names begin like the directory's. -/
theorem listing_and_walk_of_siblings : ∃ listed visited, let storage := (new 0 (.new 0 .root 0 0)).run siblings
    list 0 ⟨[47]⟩ storage = .ok listed storage ∧ walkTree 0 ⟨[47]⟩ storage = .ok visited storage ∧
      listed.map (·.path.bytes) = [[47, 97], [47, 97, 45, 98], [47, 97, 98]] ∧
      visited.map (·.path.bytes) = [[47, 97], [47, 97, 47, 102], [47, 97, 45, 98], [47, 97, 98]] := by
  obtain ⟨directories, -⟩ := listing_and_walk 0 (.new 0 .root 0 0) siblings 0 0 .root _ ⟨[47]⟩ rfl rfl
  obtain ⟨⟨names, listed, ran, -⟩, -, walked⟩ := directories 0 rfl
  obtain ⟨rfl, -⟩ := EStateM.Result.ok.inj ran
  exact ⟨_, _, ran, walked, rfl, rfl⟩

end Storage

end FileGateway
