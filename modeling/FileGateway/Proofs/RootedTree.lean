import FileGateway.Proofs.Tree

/-! # Trees whose entries stand in directories

In a rooted tree the root is a directory and every other entry has a directory right above it, so
everything above an entry is a directory, and nothing is below a file or a free place. Setting an
entry in a directory, removing a subtree and moving one to a free place in a directory keep a tree
rooted.
-/

namespace FileGateway.Tree

open Location

variable {ν : Type} {directory : ν → Prop} {tree : Tree ν} {location place source target : Location}
  {entry : ν}

/-- The root is a directory, every other entry is in one, and all names are proper. -/
structure Rooted (directory : ν → Prop) (tree : Tree ν) : Prop where
  root : ∃ entry, tree.get? .root = some entry ∧ directory entry
  proper : ∀ {location entry}, tree.get? location = some entry → location.Proper
  parent : ∀ {location entry above}, tree.get? location = some entry →
    location.parent? = some above → ∃ holder, tree.get? above = some holder ∧ directory holder

theorem rooted_singleton (isDirectory : directory entry) :
    Rooted directory (SortedMap.singleton Location.root entry) := by
  have only {location : Location} {found : ν}
      (present : (SortedMap.singleton Location.root entry).get? location = some found) :
      location = .root := by
    rw [SortedMap.get?_singleton] at present
    split at present
    · assumption
    · contradiction
  refine ⟨⟨entry, by simp, isDirectory⟩, ?_, ?_⟩
  · intro location found present
    exact only present ▸ proper_root
  · intro location found above present isParent
    rw [only present] at isParent
    simp [parent?, Location.root] at isParent

namespace Rooted

theorem parent_concat (rooted : tree.Rooted directory) {name : Name}
    (present : tree.get? (location ++ [name]) = some entry) :
    ∃ holder, tree.get? location = some holder ∧ directory holder :=
  rooted.parent present (by simp [parent?])

/-- Everything above an entry is a directory. -/
theorem above (rooted : tree.Rooted directory) (present : tree.get? place = some entry)
    (within : location <+: place) (different : location ≠ place) :
    ∃ holder, tree.get? location = some holder ∧ directory holder := by
  obtain ⟨suffix, rfl⟩ := within
  induction suffix using List.reverseRecOn generalizing entry with
  | nil => simp at different
  | append_singleton initial name ih =>
    rw [← List.append_assoc] at present
    obtain ⟨holder, found, isDirectory⟩ := rooted.parent_concat present
    by_cases same : location = location ++ initial
    · exact ⟨holder, same ▸ found, isDirectory⟩
    · exact ih found same

/-- Nothing is below what is no directory. -/
theorem none_below (rooted : tree.Rooted directory)
    (noDirectory : ∀ holder, tree.get? location = some holder → ¬directory holder)
    (within : location <+: place) (different : location ≠ place) : tree.get? place = none := by
  by_contra present
  obtain ⟨entry, present⟩ := Option.ne_none_iff_exists'.mp present
  obtain ⟨holder, found, isDirectory⟩ := rooted.above present within different
  exact noDirectory holder found isDirectory

/-- Nothing is below a free place. -/
theorem none_of_free (rooted : tree.Rooted directory) (free : tree.get? location = none)
    (within : location <+: place) : tree.get? place = none := by
  by_cases same : location = place
  · exact same ▸ free
  · exact rooted.none_below (by simp [free]) within same

/-- Every name on the way to an entry has an entry of its own. -/
theorem length_lt (rooted : tree.Rooted directory) (present : tree.get? location = some entry) :
    location.length < tree.entries.length := by
  have standing : location.ancestors ⊆ tree.keys := by
    intro above member
    have within := mem_ancestors.mp member
    have found : ∃ holder, tree.get? above = some holder := by
      by_cases same : above = location
      · exact ⟨entry, same ▸ present⟩
      · obtain ⟨holder, found, -⟩ := rooted.above present within same
        exact ⟨holder, found⟩
    obtain ⟨holder, found⟩ := found
    exact List.mem_map_of_mem (SortedMap.get?_eq_some_iff.mp found)
  have fewer := ((nodup_ancestors location).subperm standing).length_le
  rwa [length_ancestors, SortedMap.keys, List.length_map] at fewer

/-- An entry is set in a directory. Only a directory may take the place of one that holds entries. -/
theorem insert (rooted : tree.Rooted directory) (proper : location.Proper)
    (inDirectory : ∀ above, location.parent? = some above →
      ∃ holder, tree.get? above = some holder ∧ directory holder)
    (holds : location = .root ∨ (∃ name, tree.get? (location ++ [name]) ≠ none) → directory entry) :
    Tree.Rooted directory (SortedMap.insert tree location entry) := by
  refine ⟨?_, ?_, ?_⟩
  · rw [SortedMap.get?_insert]
    split
    · next same => exact ⟨entry, rfl, holds (.inl same.symm)⟩
    · exact rooted.root
  · intro place found present
    rw [SortedMap.get?_insert] at present
    split at present
    · next same => exact same ▸ proper
    · exact rooted.proper present
  · intro place found above present isParent
    have holder : ∃ holder, tree.get? above = some holder ∧ directory holder := by
      rw [SortedMap.get?_insert] at present
      split at present
      · next same => exact inDirectory above (same ▸ isParent)
      · exact rooted.parent present isParent
    rw [SortedMap.get?_insert]
    split
    · next same =>
      subst same
      obtain ⟨notRoot, rfl⟩ := parent?_eq_some_iff.mp isParent
      refine ⟨entry, rfl, holds (.inr ⟨place.getLast notRoot, ?_⟩)⟩
      rw [List.dropLast_append_getLast notRoot]
      rw [SortedMap.get?_insert, if_neg] at present
      · simp [present]
      · intro same
        have length := congrArg List.length same
        have positive := List.length_pos_iff.mpr notRoot
        simp only [List.length_dropLast] at length
        omega
    · exact holder

/-- An entry is replaced, a directory by a directory. -/
theorem replace {old : ν} (rooted : tree.Rooted directory) (present : tree.get? location = some old)
    (keeps : directory old → directory entry) :
    Tree.Rooted directory (SortedMap.insert tree location entry) := by
  apply rooted.insert (rooted.proper present) (fun _ => rooted.parent present)
  rintro (rfl | ⟨name, occupied⟩)
  · obtain ⟨holder, found, isDirectory⟩ := rooted.root
    obtain rfl : holder = old := Option.some.inj (found.symm.trans present)
    exact keeps isDirectory
  · obtain ⟨other, found⟩ := Option.ne_none_iff_exists'.mp occupied
    obtain ⟨holder, atLocation, isDirectory⟩ := rooted.parent_concat found
    obtain rfl : holder = old := Option.some.inj (atLocation.symm.trans present)
    exact keeps isDirectory

/-- A subtree other than the whole tree is removed. -/
theorem prune (rooted : tree.Rooted directory) (notRoot : location ≠ .root) :
    Tree.Rooted directory (tree.prune location) := by
  have kept {place found} (present : (tree.prune location).get? place = some found) :
      ¬location <+: place ∧ tree.get? place = some found := by
    rw [get?_prune] at present
    split at present
    · contradiction
    · exact ⟨‹_›, present⟩
  refine ⟨?_, fun present => rooted.proper (kept present).2, ?_⟩
  · rw [get?_prune, if_neg (by simpa [Location.root] using notRoot)]
    exact rooted.root
  · intro place found above present isParent
    obtain ⟨outside, present⟩ := kept present
    rw [get?_prune, if_neg]
    · exact rooted.parent present isParent
    · obtain ⟨-, rfl⟩ := parent?_eq_some_iff.mp isParent
      exact fun within => outside (within.trans (List.dropLast_prefix _))

/-- A subtree is moved to a free place in a directory outside it. -/
theorem graft (rooted : tree.Rooted directory) (notBelow : ¬source <+: target)
    (free : tree.get? target = none) (proper : target.Proper)
    (inDirectory : ∀ above, target.parent? = some above →
      ∃ holder, tree.get? above = some holder ∧ directory holder) :
    Tree.Rooted directory (tree.graft source target) := by
  have free' : ∀ place, target <+: place → tree.get? place = none := fun place within =>
    rooted.none_of_free free within
  have notRoot : target ≠ .root := by
    rintro rfl
    obtain ⟨entry, found, -⟩ := rooted.root
    simp [found] at free
  have shape := get?_graft tree notBelow free'
  refine ⟨?_, ?_, ?_⟩
  · rw [shape, if_neg (by simpa [Location.root] using notRoot), if_neg]
    · exact rooted.root
    · intro within
      rw [Location.root, List.prefix_nil] at within
      exact notBelow (within ▸ List.nil_prefix)
  · intro place found present
    rw [shape] at present
    split at present
    · next within =>
      obtain ⟨suffix, rfl⟩ := within
      rw [List.drop_left] at present
      exact proper_append.mpr ⟨proper, (proper_append.mp (rooted.proper present)).2⟩
    · split at present
      · contradiction
      · exact rooted.proper present
  · intro place found above present isParent
    obtain ⟨placeNotRoot, rfl⟩ := parent?_eq_some_iff.mp isParent
    rw [shape] at present
    split at present
    · next within =>
      obtain ⟨suffix, rfl⟩ := within
      rw [List.drop_left] at present
      rcases List.eq_nil_or_concat suffix with rfl | ⟨initial, name, rfl⟩
      · -- the top of what moved stands in the directory at the target
        rw [List.append_nil] at isParent ⊢
        obtain ⟨holder, atParent, isDirectory⟩ := inDirectory _ isParent
        refine ⟨holder, ?_, isDirectory⟩
        rw [shape, if_neg, if_neg, atParent]
        · exact fun within => notBelow (within.trans (List.dropLast_prefix _))
        · intro within
          rw [free' _ within] at atParent
          contradiction
      · -- anything deeper stands where it stood before, seen from the top
        rw [List.concat_eq_append, ← List.append_assoc] at present ⊢
        obtain ⟨holder, atParent, isDirectory⟩ := rooted.parent_concat present
        refine ⟨holder, ?_, isDirectory⟩
        rw [List.dropLast_concat, shape, if_pos (List.prefix_append _ _), List.drop_left, atParent]
    · next outside =>
      split at present
      · contradiction
      · next notSource =>
        have upward : List.dropLast place <+: place := List.dropLast_prefix _
        rw [shape, if_neg fun within => outside (within.trans upward),
          if_neg fun within => notSource (within.trans upward)]
        exact rooted.parent present isParent

end Rooted

end FileGateway.Tree
