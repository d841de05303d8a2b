import FileGateway.Cluster.Namespace
import FileGateway.Proofs.RootedTree

/-! # The namespace as a tree

A namespace is one flat map, and nothing in the map itself makes it a tree. `IsTree` says that it is
one: the root is a directory, every other entry is right below a directory, and all names are proper.
Making directories on the way to a place then either adds exactly the missing ones or meets a file
before it has added any.
-/

namespace FileGateway.Namespace

open Location

variable {tree : Namespace} {location : Location} {node : FileNode}

/-- Every entry but the root stands in a directory, and the root is one. -/
abbrev IsTree (tree : Namespace) : Prop := tree.Rooted (fun entry => entry.isDirectory = true)

theorem file?_eq_some_iff : tree.file? location = some node ↔ tree.get? location = some (.file node) := by
  simp only [file?, Option.bind_eq_some_iff]
  constructor
  · rintro ⟨entry, found, isFile⟩
    cases entry with
    | directory modified => simp [Entry.file?] at isFile
    | file other =>
      obtain rfl : other = node := by simpa [Entry.file?] using isFile
      exact found
  · intro found
    exact ⟨_, found, rfl⟩

theorem file?_eq_none_iff :
    tree.file? location = none ↔ ∀ node, tree.get? location ≠ some (.file node) := by
  rw [Option.eq_none_iff_forall_ne_some]
  simp only [ne_eq, file?_eq_some_iff]

theorem initial_isTree (now : Int) : (initial now).IsTree := Tree.rooted_singleton rfl

/-! ## Making directories -/

/-- Directories that are there already are passed over. -/
private theorem makeDirectories_append (now : Int) (directories rest : List Location)
    (present : ∀ directory ∈ directories, ∃ modified, tree.get? directory = some (.directory modified)) :
    tree.makeDirectories now (directories ++ rest) = tree.makeDirectories now rest := by
  induction directories with
  | nil => rfl
  | cons first others ih =>
    obtain ⟨modified, found⟩ := present first (List.mem_cons_self ..)
    rw [List.cons_append, makeDirectories, found]
    exact ih fun directory member => present directory (List.mem_cons_of_mem _ member)

private theorem makeDirectories_of_noFile (tree : Namespace) (now : Int) (directories : List Location)
    (noFile : ∀ directory ∈ directories, ∀ node, tree.get? directory ≠ some (.file node)) :
    ∃ made, tree.makeDirectories now directories = (.ok (), made) ∧
      ∀ query, made.get? query =
        (tree.get? query).or (if query ∈ directories then some (.directory now) else none) := by
  induction directories generalizing tree with
  | nil => exact ⟨tree, rfl, by simp⟩
  | cons first rest ih =>
    rw [makeDirectories]
    cases found : tree.get? first with
    | none =>
      obtain ⟨made, ran, shape⟩ := ih (tree.insert first (.directory now)) (by
        intro directory member node
        rw [SortedMap.get?_insert]
        split
        · simp
        · exact noFile directory (List.mem_cons_of_mem _ member) node)
      refine ⟨made, ran, fun query => ?_⟩
      rw [shape, SortedMap.get?_insert]
      by_cases same : query = first
      · simp [same, found]
      · simp [same]
    | some entry =>
      cases entry with
      | file node => exact absurd found (noFile first (List.mem_cons_self ..) node)
      | directory modified =>
        obtain ⟨made, ran, shape⟩ := ih tree fun directory member =>
          noFile directory (List.mem_cons_of_mem _ member)
        refine ⟨made, ran, fun query => ?_⟩
        rw [shape]
        by_cases same : query = first
        · simp [same, found]
        · simp [same]

/-- Without a file on the way, exactly the missing directories are made. -/
theorem makeDirectories_ancestors (tree : Namespace) (now : Int) (location : Location)
    (noFile : ∀ above, above <+: location → ∀ node, tree.get? above ≠ some (.file node)) :
    ∃ made, tree.makeDirectories now location.ancestors = (.ok (), made) ∧
      ∀ query, made.get? query =
        (tree.get? query).or (if query <+: location then some (.directory now) else none) := by
  obtain ⟨made, ran, shape⟩ := makeDirectories_of_noFile tree now location.ancestors
    fun above member => noFile above (mem_ancestors.mp member)
  exact ⟨made, ran, by simpa only [mem_ancestors] using shape⟩

/-- The ancestors of a place, cut where one of them stands. -/
private theorem ancestors_split {above : Location} (within : above <+: location) :
    ∃ before after, location.ancestors = before ++ above :: after ∧
      ∀ directory ∈ before, directory <+: above ∧ directory ≠ above := by
  obtain ⟨suffix, rfl⟩ := within
  induction suffix using List.reverseRecOn with
  | nil =>
    rcases List.eq_nil_or_concat above with rfl | ⟨initial, name, rfl⟩
    · exact ⟨[], [], rfl, by simp⟩
    · refine ⟨ancestors initial, [], by simp [ancestors_concat], fun directory member => ?_⟩
      rw [List.concat_eq_append]
      have shorter := mem_ancestors.mp member
      refine ⟨shorter.trans (List.prefix_append _ _), fun same => ?_⟩
      have length := shorter.length_le
      rw [same, List.length_append, List.length_singleton] at length
      omega
  | append_singleton initial name ih =>
    obtain ⟨before, after, same, shorter⟩ := ih
    refine ⟨before, after ++ [above ++ (initial ++ [name])], ?_, shorter⟩
    rw [← List.append_assoc above, ancestors_concat, same, List.append_assoc, List.cons_append]

/-- With a file on the way nothing is made: in a tree all that is above the file is there already. -/
theorem makeDirectories_ancestors_of_file (isTree : tree.IsTree) (now : Int) {above : Location}
    (within : above <+: location) (found : tree.get? above = some (.file node)) :
    tree.makeDirectories now location.ancestors = (.error (.taken above.toPath), tree) := by
  obtain ⟨before, after, same, shorter⟩ := ancestors_split within
  rw [same, makeDirectories_append now, makeDirectories, found]
  intro directory member
  obtain ⟨within, different⟩ := shorter directory member
  obtain ⟨entry, present, isDirectory⟩ := isTree.above found within different
  cases entry with
  | directory modified => exact ⟨modified, present⟩
  | file other => simp [Entry.isDirectory] at isDirectory

/-- A tree stays one when the directories missing on the way to a proper place are added. -/
theorem IsTree.fill {made : Namespace} {now : Int} (isTree : tree.IsTree) (proper : location.Proper)
    (noFile : ∀ above, above <+: location → ∀ node, tree.get? above ≠ some (.file node))
    (shape : ∀ query, made.get? query =
      (tree.get? query).or (if query <+: location then some (.directory now) else none)) :
    made.IsTree := by
  have kept {place entry} (present : tree.get? place = some entry) : made.get? place = some entry := by
    rw [shape, present, Option.some_or]
  refine ⟨?_, ?_, ?_⟩
  · obtain ⟨entry, found, isDirectory⟩ := isTree.root
    exact ⟨entry, kept found, isDirectory⟩
  · intro place entry present
    rw [shape, Option.or_eq_some_iff] at present
    rcases present with present | ⟨-, added⟩
    · exact isTree.proper present
    · split at added
      · next within => exact proper.of_prefix within
      · contradiction
  · intro place entry above present isParent
    rw [shape, Option.or_eq_some_iff] at present
    rcases present with present | ⟨-, added⟩
    · obtain ⟨holder, found, isDirectory⟩ := isTree.parent present isParent
      exact ⟨holder, kept found, isDirectory⟩
    · split at added
      · next within =>
        obtain ⟨-, rfl⟩ := parent?_eq_some_iff.mp isParent
        have within := (List.dropLast_prefix place).trans within
        rw [shape]
        cases found : tree.get? place.dropLast with
        | none => exact ⟨.directory now, by simp [within], rfl⟩
        | some holder =>
          cases holder with
          | directory modified => exact ⟨.directory modified, by simp, rfl⟩
          | file node => exact absurd found (noFile _ within node)
      · contradiction

end FileGateway.Namespace
