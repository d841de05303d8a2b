import FileGateway.Proofs.Disk.Walk

/-! # What changes on a disk

On a disk without links, making a directory adds exactly the directories missing on the way, creating
a file at a free place adds the file alone, and removing takes away a whole subtree. The times of
directories, which every one of these changes, are no part of a look.
-/

namespace FileGateway.Disk

variable {disk made : Disk} {now : Int} {location above query : Location} {entry : DiskEntry}

/-! ## Setting an entry -/

theorem stamp_cases (disk : Disk) (now : Int) (directory : Location) :
    disk.stamp now directory = disk ∨
    ∃ modified, disk.tree.get? directory = some (.directory modified) ∧
      disk.stamp now directory = { disk with tree := disk.tree.insert directory (.directory now) } := by
  rw [stamp]
  split
  · next modified found => exact .inr ⟨modified, found, rfl⟩
  · exact .inl rfl

@[simp] theorem stamp_files (disk : Disk) (now : Int) (directory : Location) :
    (disk.stamp now directory).files = disk.files := by
  rcases stamp_cases disk now directory with same | ⟨_, _, same⟩ <;> rw [same]

@[simp] theorem stamp_look (disk : Disk) (now : Int) (directory : Location) :
    (disk.stamp now directory).look = disk.look := by
  rcases stamp_cases disk now directory with same | ⟨modified, found, same⟩
  · rw [same]
  · funext query
    rw [same, look, look, SortedMap.get?_insert]
    split
    · next atDirectory =>
      rw [atDirectory, found]
      rfl
    · rfl

theorem stamp_number {directory : Location} {number : Nat} :
    (disk.stamp now directory).tree.get? query = some (.file number) ↔
      disk.tree.get? query = some (.file number) := by
  rcases stamp_cases disk now directory with same | ⟨modified, found, same⟩
  · rw [same]
  · rw [same, SortedMap.get?_insert]
    split
    · next atDirectory => simp [atDirectory, found]
    · rfl

theorem Regular.stamp (regular : disk.Regular) (now : Int) (directory : Location) :
    (disk.stamp now directory).Regular := by
  rcases stamp_cases disk now directory with same | ⟨modified, found, same⟩
  · rwa [same]
  · refine ⟨?_, fun {query _ _} isLink => ?_, fun {query number} isFile => ?_⟩
    · rw [same]
      exact regular.rooted.replace found fun _ => ⟨now, rfl⟩
    · rw [same, SortedMap.get?_insert] at isLink
      split at isLink
      · simp at isLink
      · exact regular.noLink isLink
    · rw [stamp_files]
      exact regular.allotted (stamp_number.mp isFile)

@[simp] theorem place_files (disk : Disk) (now : Int) (location : Location) (entry : DiskEntry) :
    (disk.place now location entry).files = disk.files := stamp_files ..

theorem place_look : (disk.place now location entry).look query =
    if query = location then some (disk.occupantOf entry) else disk.look query := by
  rw [place, stamp_look, look, SortedMap.get?_insert]
  split <;> rfl

theorem place_number {number : Nat} :
    (disk.place now location entry).tree.get? query = some (.file number) ↔
      if query = location then entry = .file number else disk.tree.get? query = some (.file number) := by
  rw [place, stamp_number, SortedMap.get?_insert]
  split <;> simp

theorem Regular.place (regular : disk.Regular) (proper : location.Proper)
    (free : disk.look location = none) (inDirectory : disk.look location.dropLast = some .directory)
    (notLink : ∀ target modified, entry ≠ .link target modified)
    (allotted : ∀ number, entry = .file number → number < disk.files.length) (now : Int) :
    (disk.place now location entry).Regular := by
  rw [Disk.place]
  refine Regular.stamp ⟨?_, fun {query _ _} isLink => ?_, fun {query number} isFile => ?_⟩ now _
  · refine regular.rooted.insert proper ?_ ?_
    · intro holder isParent
      obtain ⟨-, rfl⟩ := Location.parent?_eq_some_iff.mp isParent
      obtain ⟨modified, found⟩ := look_eq_directory_iff.mp inDirectory
      exact ⟨_, found, modified, rfl⟩
    · rintro (atRoot | ⟨name, occupied⟩)
      · exact absurd atRoot (regular.hierarchy.ne_root_of_free free)
      · have nothing := regular.hierarchy.none_of_free free (List.prefix_append location [name])
        exact absurd (look_eq_none_iff.mp nothing) occupied
  · rw [SortedMap.get?_insert] at isLink
    split at isLink
    · exact notLink _ _ (Option.some.inj isLink)
    · exact regular.noLink isLink
  · rw [SortedMap.get?_insert] at isFile
    split at isFile
    · exact allotted number (Option.some.inj isFile)
    · exact regular.allotted isFile

/-! ## Making directories -/

/-- The directories missing on the way to a place were made, and nothing else. -/
structure Filled (disk : Disk) (location : Location) (made : Disk) : Prop where
  regular : made.Regular
  look : made.look = filled disk.look location
  files : made.files = disk.files
  numbers : ∀ {query number}, disk.tree.get? query = some (.file number) →
    made.tree.get? query = some (.file number)

namespace Filled

/-- Nothing is missing on the way to a directory. -/
theorem of_directory (regular : disk.Regular) (found : disk.look location = some .directory) :
    disk.Filled location disk :=
  ⟨regular, (filled_of_directory regular.hierarchy found).symm, rfl, id⟩

theorem trans {mid : Disk} (first : disk.Filled above mid) (second : mid.Filled location made)
    (within : above <+: location) : disk.Filled location made := by
  refine ⟨second.regular, ?_, second.files.trans first.files,
    fun found => second.numbers (first.numbers found)⟩
  funext query
  rw [second.look, filled, first.look, filled, filled, Option.or_assoc]
  by_cases onTheWay : query <+: above
  · rw [if_pos onTheWay, if_pos (onTheWay.trans within), Option.some_or]
  · rw [if_neg onTheWay, Option.none_or]

end Filled

theorem directory_of_isDirectory (regular : disk.Regular) (proper : location.Proper)
    (isDirectory : disk.isDirectory location.toPath = true) : disk.look location = some .directory := by
  rw [Disk.isDirectory, status] at isDirectory
  cases search : disk.find .follow location.toPath with
  | error error => simp [search, Except.map] at isDirectory
  | ok found =>
    obtain ⟨-, present, -⟩ := find_ok regular proper search
    rcases found with ⟨place, _ | number | _⟩
    · exact look_eq_directory_iff.mpr ⟨_, present⟩
    · simp only [search, Except.map, statusOf] at isDirectory
      split at isDirectory <;> simp at isDirectory
    · exact absurd present regular.noLink

private theorem makeDirectory_ok (regular : disk.Regular) (proper : location.Proper)
    (done : disk.makeDirectory now location.toPath = .ok made) : disk.Filled location made := by
  rw [makeDirectory, addEntry] at done
  split at done
  · contradiction
  · next here arrived =>
    obtain ⟨rfl, -, inDirectory⟩ := locate_ok regular proper arrived
    split at done
    · contradiction
    · next free =>
      have free : disk.look here = none := look_eq_none_iff.mpr free
      have notRoot := regular.hierarchy.ne_root_of_free free
      have inDirectory := inDirectory notRoot
      obtain rfl := Except.ok.inj done
      refine ⟨?_, ?_, place_files .., fun {query number} found => ?_⟩
      · exact regular.place proper free inDirectory (by simp) (by simp) now
      · funext query
        rw [place_look, filled]
        split
        · next same =>
          rw [same, free, if_pos List.prefix_rfl]
          rfl
        · next different =>
          split
          · next onTheWay =>
            have above := (Location.prefix_dropLast_iff notRoot).mpr ⟨onTheWay, different⟩
            rw [regular.hierarchy.directory_of_prefix inDirectory above, Option.some_or]
          · rw [Option.or_none]
      · apply place_number.mpr
        rwa [if_neg]
        rintro rfl
        rw [look_eq_none_iff.mp free] at found
        contradiction

theorem makeDirectories_ok (regular : disk.Regular) (proper : location.Proper)
    (done : disk.makeDirectories now location = (.ok (), made)) : disk.Filled location made := by
  rw [makeDirectories] at done
  induction location using List.reverseRecOn generalizing made with
  | nil =>
    obtain rfl : disk = made := (Prod.mk.inj done).2
    exact .of_directory regular regular.hierarchy.root
  | append_singleton above name ih =>
    rw [Location.ancestors_concat, List.reverse_append, List.reverse_singleton, List.singleton_append,
      makeFirst, if_neg (by simp [Location.root])] at done
    have standing {mid : Disk} {error : SystemError} (midRegular : mid.Regular)
        (excused : (if mid.isDirectory (Location.toPath (above ++ [name])) then .ok () else .error error, mid) =
          ((.ok (), made) : Except SystemError Unit × Disk)) : mid.Filled (above ++ [name]) made := by
      obtain ⟨outcome, rfl⟩ := Prod.mk.inj excused
      split at outcome
      · next isDirectory => exact .of_directory midRegular (directory_of_isDirectory midRegular proper isDirectory)
      · contradiction
    split at done
    · next first ran =>
      obtain rfl := (Prod.mk.inj done).2
      exact makeDirectory_ok regular proper ran
    · next error failed =>
      split at done
      · split at done
        · simp at done
        · next mid ran =>
          have below := ih (proper.of_prefix (List.prefix_append _ _)) ran
          refine below.trans ?_ (List.prefix_append _ _)
          split at done
          · next last again =>
            obtain rfl := (Prod.mk.inj done).2
            exact makeDirectory_ok below.regular proper again
          · exact standing below.regular done
      · exact standing regular done

/-! ## Creating a file -/

/-- A new file has its own number, and is empty. -/
structure Created (disk : Disk) (location : Location) (number : Nat) (after : Disk) : Prop where
  regular : after.Regular
  look : ∀ query, after.look query = if query = location then some (.file []) else disk.look query
  numbers : ∀ {query other}, disk.tree.get? query = some (.file other) →
    after.tree.get? query = some (.file other)
  named : ∀ {query}, after.tree.get? query = some (.file number) ↔ query = location

private theorem fileData_append {number : Nat} (allotted : number < disk.files.length) (file : DiskFile) :
    fileData { disk with files := disk.files ++ [file] } number = disk.fileData number := by
  rw [fileData, fileData, List.getElem?_append_left allotted]

theorem createFile_ok {number : Nat} {after : Disk} (regular : disk.Regular) (proper : location.Proper)
    (free : disk.look location = none) (done : disk.createFile now location.toPath = .ok (number, after)) :
    disk.Created location number after := by
  rw [createFile] at done
  split at done
  · contradiction
  · next here arrived =>
    obtain ⟨rfl, -, inDirectory⟩ := locate_ok regular proper arrived
    have vacant : disk.tree.get? here = none := look_eq_none_iff.mp free
    rw [vacant] at done
    obtain ⟨rfl, rfl⟩ := Prod.mk.inj (Except.ok.inj done)
    have notRoot := regular.hierarchy.ne_root_of_free free
    let grown : Disk := { disk with files := disk.files ++ [⟨[], now⟩] }
    have sameLook : grown.look = disk.look := by
      funext query
      rw [look, look]
      apply Option.map_congr
      intro entry found
      cases entry with
      | directory | link => rfl
      | file other => exact congrArg Occupant.file (fileData_append (regular.allotted found) _)
    have grownRegular : grown.Regular :=
      ⟨regular.rooted, regular.noLink, fun found => by
        have := regular.allotted found
        simp only [grown, List.length_append]
        omega⟩
    refine ⟨?_, fun query => ?_, fun {query other} found => ?_, fun {query} => ?_⟩
    · refine grownRegular.place proper (sameLook ▸ free) (sameLook ▸ inDirectory notRoot) (by simp) ?_ now
      intro number same
      obtain rfl := DiskEntry.file.inj same
      simp [grown]
    · apply place_look.trans
      rw [sameLook]
      split
      · simp [occupantOf, fileData]
      · rfl
    · apply place_number.mpr
      rwa [if_neg]
      rintro rfl
      rw [vacant] at found
      contradiction
    · apply place_number.trans
      split
      · next same => simp [same]
      · next different =>
        refine iff_of_false (fun found => ?_) different
        exact absurd (regular.allotted found) (lt_irrefl _)

/-! ## Removing -/

/-- A subtree was removed, and nothing else. -/
structure Removed (disk : Disk) (location : Location) (after : Disk) : Prop where
  regular : after.Regular
  look : ∀ query, after.look query = if location <+: query then none else disk.look query

private theorem removed_prune (regular : disk.Regular) (notRoot : location ≠ .root) (now : Int)
    (workingDirectory : Option Location) :
    disk.Removed location
      ({ disk with tree := disk.tree.prune location, workingDirectory }.stamp now location.dropLast) := by
  have kept {query entry} (found : (disk.tree.prune location).get? query = some entry) :
      disk.tree.get? query = some entry := by
    rw [Tree.get?_prune] at found
    split at found
    · contradiction
    · exact found
  refine ⟨Regular.stamp ⟨regular.rooted.prune notRoot, ?_, ?_⟩ now _, fun query => ?_⟩
  · exact fun found => regular.noLink (kept found)
  · exact fun found => regular.allotted (kept found)
  · rw [stamp_look, look, Tree.get?_prune]
    split <;> rfl

theorem removeTree_ok {after : Disk} (regular : disk.Regular) (proper : location.Proper)
    (done : disk.removeTree now location.toPath = .ok after) : disk.Removed location after := by
  rw [removeTree] at done
  split at done
  · contradiction
  · next found =>
    exact absurd (find_ok regular proper found).2.1 regular.noLink
  · contradiction
  · next here modified found =>
    obtain ⟨rfl, -, -⟩ := find_ok regular proper found
    split at done
    · contradiction
    · next notRoot =>
      obtain rfl := Except.ok.inj done
      exact removed_prune regular notRoot now _

theorem removeName_ok {after : Disk} (regular : disk.Regular) (proper : location.Proper)
    (done : disk.removeName now location.toPath = .ok after) : disk.Removed location after := by
  rw [removeName] at done
  split at done
  · contradiction
  · contradiction
  · next here entry noDirectory found =>
    obtain ⟨rfl, present, -⟩ := find_ok regular proper found
    obtain rfl := Except.ok.inj done
    have notDirectory : ∀ modified, entry ≠ .directory modified := fun modified same =>
      noDirectory modified same
    have notRoot : here ≠ .root := by
      rintro rfl
      obtain ⟨holder, atRoot, modified, rfl⟩ := regular.rooted.root
      exact notDirectory modified (Option.some.inj (present.symm.trans atRoot))
    -- nothing is below a file, so the name alone is the whole subtree
    have same : disk.tree.erase here = disk.tree.prune here := by
      apply SortedMap.ext_get?
      intro query
      rw [SortedMap.get?_erase, Tree.get?_prune]
      by_cases atHere : query = here
      · rw [if_pos atHere, if_pos (atHere ▸ List.prefix_rfl)]
      · rw [if_neg atHere]
        split
        · next within =>
          refine regular.rooted.none_below (fun holder found isDirectory => ?_) within (Ne.symm atHere)
          obtain ⟨modified, rfl⟩ := isDirectory
          exact notDirectory modified (Option.some.inj (present.symm.trans found))
        · rfl
    rw [same]
    exact removed_prune regular notRoot now disk.workingDirectory

end FileGateway.Disk
