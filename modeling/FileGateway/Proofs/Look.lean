import FileGateway.Disk
import FileGateway.Proofs.Cluster.Operations

/-! # What a tree looks like

Copying cares for kinds and contents alone. `Occupant` keeps these of what stands at a place, of a cluster
and of a disk alike, and a look is what stands at every place. The looks of well-formed trees are
hierarchies: whatever is anywhere stands in directories all the way up.
-/

namespace FileGateway

inductive Occupant
  | directory
  | file (bytes : Bytes)
  | link (target : Bytes)
deriving DecidableEq, Repr

def Entry.occupant : Entry → Occupant
  | .directory _ => .directory
  | .file node => .file node.bytes

def Namespace.look (tree : Namespace) (location : Location) : Option Occupant :=
  (tree.get? location).map Entry.occupant

namespace Disk

def occupantOf (disk : Disk) : DiskEntry → Occupant
  | .directory _ => .directory
  | .file number => .file (disk.fileData number)
  | .link target _ => .link target

def look (disk : Disk) (location : Location) : Option Occupant := (disk.tree.get? location).map disk.occupantOf

end Disk

/-! ## Hierarchies -/

/-- Whatever is anywhere but at the root stands in a directory, and the root is one. -/
structure Hierarchy (look : Location → Option Occupant) : Prop where
  root : look .root = some .directory
  proper : ∀ {location node}, look location = some node → location.Proper
  above : ∀ {location place node}, look place = some node → location <+: place → location ≠ place →
    look location = some .directory

namespace Hierarchy

variable {look : Location → Option Occupant} {location below : Location}

theorem none_below (hierarchy : Hierarchy look) (noDirectory : look location ≠ some .directory)
    (within : location <+: below) (different : location ≠ below) : look below = none := by
  by_contra present
  obtain ⟨node, present⟩ := Option.ne_none_iff_exists'.mp present
  exact noDirectory (hierarchy.above present within different)

theorem none_of_free (hierarchy : Hierarchy look) (free : look location = none)
    (within : location <+: below) : look below = none := by
  by_cases same : location = below
  · exact same ▸ free
  · exact hierarchy.none_below (by simp [free]) within same

theorem ne_root_of_free (hierarchy : Hierarchy look) (free : look location = none) : location ≠ .root := by
  rintro rfl
  rw [hierarchy.root] at free
  contradiction

/-- Everything on the way down to a directory is a directory. -/
theorem directory_of_prefix (hierarchy : Hierarchy look) (found : look below = some .directory)
    (within : location <+: below) : look location = some .directory := by
  by_cases same : location = below
  · exact same ▸ found
  · exact hierarchy.above found within same

end Hierarchy

/-- A look with the directories missing on the way to a place, the place included. -/
def filled (look : Location → Option Occupant) (location query : Location) : Option Occupant :=
  (look query).or (if query <+: location then some .directory else none)

theorem filled_of_directory {look : Location → Option Occupant} {location : Location}
    (hierarchy : Hierarchy look) (found : look location = some .directory) :
    filled look location = look := by
  funext query
  rw [filled]
  split
  · next within => rw [hierarchy.directory_of_prefix found within, Option.some_or]
  · rw [Option.or_none]

/-! ## Listings -/

/-- Entries list the names in a directory, each once. -/
structure Listed (look : Location → Option Occupant) (location : Location) (names : List Name)
    (entries : List FileStatus) : Prop where
  nodup : names.Nodup
  paths : entries.map (·.path) = names.map fun name => Location.toPath (location ++ [name])
  members : ∀ name, name ∈ names ↔ look (location ++ [name]) ≠ none

namespace Listed

variable {look : Location → Option Occupant} {location : Location} {names : List Name}
  {entries done rest : List FileStatus} {entry : FileStatus}

theorem length_eq (listed : Listed look location names entries) : entries.length = names.length := by
  have lengths := congrArg List.length listed.paths
  rwa [List.length_map, List.length_map] at lengths

/-- The entry behind some others has a name that none of them has. -/
theorem next (listed : Listed look location names entries) (split : entries = done ++ entry :: rest) :
    ∃ name, entry.path = Location.toPath (location ++ [name]) ∧ look (location ++ [name]) ≠ none ∧
      name ∉ names.take done.length ∧
      names.take (done ++ [entry]).length = names.take done.length ++ [name] := by
  have nth := congrArg (·[done.length]?) listed.paths
  simp only [split, List.getElem?_map, List.getElem?_append_right le_rfl, Nat.sub_self,
    List.getElem?_cons_zero, Option.map_some] at nth
  obtain ⟨name, here, same⟩ := Option.map_eq_some_iff.mp nth.symm
  refine ⟨name, same.symm, (listed.members name).mp (List.mem_of_getElem? here), fun before => ?_, ?_⟩
  · obtain ⟨index, earlier, equal⟩ := List.mem_take_iff_getElem.mp before
    have bound := (List.getElem?_eq_some_iff.mp here).1
    refine List.nodup_iff_getElem?_ne_getElem?.mp listed.nodup index done.length (by omega) bound ?_
    rw [here, ← equal, List.getElem?_eq_getElem]
  · rw [List.length_append, List.length_singleton, List.take_add_one, here, Option.toList_some]

end Listed

/-! ## Looks of clusters -/

namespace Namespace

variable {tree : Namespace} {location query : Location}

theorem look_eq_directory_iff : tree.look location = some .directory ↔
    ∃ modified, tree.get? location = some (.directory modified) := by
  rw [look, Option.map_eq_some_iff]
  constructor
  · rintro ⟨entry, found, same⟩
    cases entry with
    | directory modified => exact ⟨modified, found⟩
    | file node => simp [Entry.occupant] at same
  · rintro ⟨modified, found⟩
    exact ⟨_, found, rfl⟩

theorem look_eq_file_iff {bytes : Bytes} : tree.look location = some (.file bytes) ↔
    ∃ node, tree.get? location = some (.file node) ∧ node.bytes = bytes := by
  rw [look, Option.map_eq_some_iff]
  constructor
  · rintro ⟨entry, found, same⟩
    cases entry with
    | directory modified => simp [Entry.occupant] at same
    | file node => exact ⟨node, found, Occupant.file.inj same⟩
  · rintro ⟨node, found, rfl⟩
    exact ⟨_, found, rfl⟩

theorem look_eq_none_iff : tree.look location = none ↔ tree.get? location = none :=
  Option.map_eq_none_iff

theorem look_insert {entry : Entry} : Namespace.look (SortedMap.insert tree location entry) query =
    if query = location then some entry.occupant else tree.look query := by
  rw [look, SortedMap.get?_insert]
  split <;> rfl

theorem look_prune : Namespace.look (Tree.prune tree location) query =
    if location <+: query then none else tree.look query := by
  rw [look, Tree.get?_prune]
  split <;> rfl

theorem look_fill {made : Namespace} {now : Int}
    (shape : ∀ query, made.get? query =
      (tree.get? query).or (if query <+: location then some (.directory now) else none)) :
    made.look = filled tree.look location := by
  funext query
  rw [look, shape, filled, look]
  cases tree.get? query with
  | none => simp only [Option.none_or, Option.map_none]; split <;> rfl
  | some entry => rfl

theorem IsTree.hierarchy (isTree : tree.IsTree) : Hierarchy tree.look := by
  have directory {place : Location} (holder : ∃ entry, tree.get? place = some entry ∧
      entry.isDirectory = true) : tree.look place = some .directory := by
    obtain ⟨entry, found, isDirectory⟩ := holder
    cases entry with
    | directory modified => exact look_eq_directory_iff.mpr ⟨modified, found⟩
    | file node => simp [Entry.isDirectory] at isDirectory
  refine ⟨directory isTree.root, ?_, ?_⟩
  · intro place node found
    obtain ⟨entry, present, -⟩ := Option.map_eq_some_iff.mp found
    exact isTree.proper present
  · intro above place node found within different
    obtain ⟨entry, present, -⟩ := Option.map_eq_some_iff.mp found
    exact directory (isTree.above present within different)

end Namespace

/-! ## Looks of disks -/

namespace Disk

variable {disk : Disk} {location query : Location}

theorem look_eq_directory_iff : disk.look location = some .directory ↔
    ∃ modified, disk.tree.get? location = some (.directory modified) := by
  rw [look, Option.map_eq_some_iff]
  constructor
  · rintro ⟨entry, found, same⟩
    cases entry with
    | directory modified => exact ⟨modified, found⟩
    | file | link => simp [occupantOf] at same
  · rintro ⟨modified, found⟩
    exact ⟨_, found, rfl⟩

theorem look_eq_file_iff {bytes : Bytes} : disk.look location = some (.file bytes) ↔
    ∃ number, disk.tree.get? location = some (.file number) ∧ disk.fileData number = bytes := by
  rw [look, Option.map_eq_some_iff]
  constructor
  · rintro ⟨entry, found, same⟩
    cases entry with
    | directory | link => simp [occupantOf] at same
    | file number => exact ⟨number, found, Occupant.file.inj same⟩
  · rintro ⟨number, found, rfl⟩
    exact ⟨_, found, rfl⟩

theorem look_eq_link_iff {target : Bytes} : disk.look location = some (.link target) ↔
    ∃ modified, disk.tree.get? location = some (.link target modified) := by
  rw [look, Option.map_eq_some_iff]
  constructor
  · rintro ⟨entry, found, same⟩
    cases entry with
    | directory | file => simp [occupantOf] at same
    | link text modified => exact ⟨modified, Occupant.link.inj same ▸ found⟩
  · rintro ⟨modified, found⟩
    exact ⟨_, found, rfl⟩

theorem look_eq_none_iff : disk.look location = none ↔ disk.tree.get? location = none :=
  Option.map_eq_none_iff

/-- A disk of directories and files without symbolic links, every file of which has its contents. -/
structure Regular (disk : Disk) : Prop where
  rooted : disk.tree.Rooted fun entry => ∃ modified, entry = .directory modified
  noLink : ∀ {location target modified}, disk.tree.get? location ≠ some (.link target modified)
  allotted : ∀ {location number}, disk.tree.get? location = some (.file number) →
    number < disk.files.length

/-- A new disk has its working directory and those above it. -/
theorem regular_new (now : Int) {workingDirectory : Location} (proper : workingDirectory.Proper)
    (capacity used : Nat) : (new now workingDirectory capacity used).Regular := by
  have shape (places : List Location) (tree : Tree DiskEntry) (query : Location) :
      (places.foldl (fun tree place => tree.insert place (.directory now)) tree).get? query =
        if query ∈ places then some (.directory now) else tree.get? query := by
    induction places generalizing tree with
    | nil => simp
    | cons first rest ih =>
      rw [List.foldl_cons, ih, SortedMap.get?_insert]
      by_cases same : query = first <;> simp [same]
  have only {query : Location} {entry : DiskEntry}
      (found : (new now workingDirectory capacity used).tree.get? query = some entry) :
      query <+: workingDirectory ∧ entry = .directory now := by
    rw [new, shape] at found
    split at found
    · next member => exact ⟨Location.mem_ancestors.mp member, (Option.some.inj found).symm⟩
    · simp at found
  have standing {query : Location} (above : query <+: workingDirectory) :
      (new now workingDirectory capacity used).tree.get? query = some (.directory now) := by
    rw [new, shape, if_pos (Location.mem_ancestors.mpr above)]
  refine ⟨⟨?_, ?_, ?_⟩, fun found => ?_, fun found => ?_⟩
  · exact ⟨_, standing List.nil_prefix, now, rfl⟩
  · exact fun found => proper.of_prefix (only found).1
  · intro query entry above found isParent
    obtain ⟨-, rfl⟩ := Location.parent?_eq_some_iff.mp isParent
    exact ⟨_, standing ((List.dropLast_prefix query).trans (only found).1), now, rfl⟩
  · simpa using (only found).2
  · simpa using (only found).2

/-- The look of a tree whose entries stand in directories is a hierarchy, whatever links are in it. -/
theorem hierarchy_of_rooted (rooted : disk.tree.Rooted fun entry => ∃ modified, entry = .directory modified) :
    Hierarchy disk.look := by
  have directory {place : Location} (holder : ∃ entry, disk.tree.get? place = some entry ∧
      ∃ modified, entry = .directory modified) : disk.look place = some .directory := by
    obtain ⟨_, found, modified, rfl⟩ := holder
    exact look_eq_directory_iff.mpr ⟨modified, found⟩
  refine ⟨directory rooted.root, ?_, ?_⟩
  · intro place node found
    obtain ⟨entry, present, -⟩ := Option.map_eq_some_iff.mp found
    exact rooted.proper present
  · intro above place node found within different
    obtain ⟨entry, present, -⟩ := Option.map_eq_some_iff.mp found
    exact directory (rooted.above present within different)

theorem Regular.hierarchy (regular : disk.Regular) : Hierarchy disk.look := hierarchy_of_rooted regular.rooted

end Disk

end FileGateway
