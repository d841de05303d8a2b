import FileGateway.Proofs.Disk.Local

/-! # What a disk says of missing paths

A walk down from the root stops at the first place that is no directory: a file bars the way, a gap ends it.
The two are told apart by the error of the disk, and nothing else can go wrong on a disk without links as long
as the names are short enough and the text has no zero byte. So every search is decided by the look of the
disk, and so is whether the directories missing on the way to a place can be made.
-/

namespace FileGateway

/-- A file stands above a place, so nothing can be there. -/
def Barred (look : Location → Option Occupant) (location : Location) : Prop :=
  ∃ above bytes, above <+: location ∧ above ≠ location ∧ look above = some (.file bytes)

/-- Below a file there is nothing. -/
theorem Hierarchy.free_of_barred {look : Location → Option Occupant} {location : Location}
    (hierarchy : Hierarchy look) (barred : Barred look location) : look location = none := by
  obtain ⟨above, bytes, within, different, isFile⟩ := barred
  exact hierarchy.none_below (by simp [isFile]) within different

/-- In a directory nothing bars the way. -/
theorem Hierarchy.not_barred_of_directory {look : Location → Option Occupant} {location : Location}
    (hierarchy : Hierarchy look) (inDirectory : location ≠ .root → look location.dropLast = some .directory) :
    ¬Barred look location := by
  rintro ⟨above, bytes, within, different, isFile⟩
  have notRoot : location ≠ .root := by
    rintro rfl
    exact different (List.prefix_nil.mp within)
  have higher := (Location.prefix_dropLast_iff notRoot).mpr ⟨within, different⟩
  simp [hierarchy.directory_of_prefix (inDirectory notRoot) higher] at isFile

/-- What bars the way is further up than what is missing. -/
theorem Hierarchy.not_barred_of_gap {look : Location → Option Occupant} {above location : Location}
    (hierarchy : Hierarchy look) (within : above <+: location) (gap : look above = none)
    (clear : ¬Barred look above) : ¬Barred look location := by
  rintro ⟨other, bytes, otherWithin, -, isFile⟩
  rcases List.prefix_or_prefix_of_prefix otherWithin within with higher | lower
  · refine clear ⟨other, bytes, higher, ?_, isFile⟩
    rintro rfl
    simp [gap] at isFile
  · rw [hierarchy.none_of_free gap lower] at isFile
    contradiction

namespace Location

private theorem prefix_intercalate {above location : Location} (within : above <+: location) :
    List.intercalate [Path.slash] above <+: List.intercalate [Path.slash] location := by
  induction above generalizing location with
  | nil => exact List.nil_prefix
  | cons name rest ih =>
    obtain ⟨more, rfl⟩ := within
    cases rest with
    | nil =>
      cases more with
      | nil => exact List.prefix_rfl
      | cons next more =>
        rw [List.cons_append, List.nil_append, List.intercalate_cons_cons, List.append_assoc]
        simp
    | cons next rest =>
      rw [List.cons_append, List.cons_append, List.intercalate_cons_cons, List.intercalate_cons_cons,
        List.prefix_append_right_inj]
      exact ih ⟨more, rfl⟩

/-- The text of a place begins with the text of any place above it. -/
theorem prefix_toPath {above location : Location} (within : above <+: location) :
    above.toPath.bytes <+: location.toPath.bytes := by
  rw [toPath, toPath, Path.ofNames, Path.ofNames]
  exact (List.prefix_append_right_inj _).mpr (prefix_intercalate within)

end Location

namespace Disk

variable {disk : Disk} {location above : Location}

/-- A place whose names and text are such as a disk takes. -/
structure Legible (location : Location) : Prop where
  names : ∀ name ∈ location, name.length ≤ maxName
  noNul : 0 ∉ location.toPath.bytes
  short : location.toPath.bytes.length < pathLimit

instance (location : Location) : Decidable (Legible location) :=
  decidable_of_iff ((∀ name ∈ location, name.length ≤ maxName) ∧ 0 ∉ location.toPath.bytes ∧
      location.toPath.bytes.length < pathLimit)
    ⟨fun ⟨names, noNul, short⟩ => ⟨names, noNul, short⟩, fun legible => ⟨legible.names, legible.noNul, legible.short⟩⟩

theorem Legible.of_prefix (legible : Legible location) (within : above <+: location) : Legible above where
  names name member := legible.names name (within.subset member)
  noNul member := legible.noNul ((Location.prefix_toPath within).subset member)
  short := (Location.prefix_toPath within).length_le.trans_lt legible.short

theorem Regular.look_ne_link (regular : disk.Regular) (location : Location) (target : Bytes) :
    disk.look location ≠ some (.link target) := by
  rw [Ne, look_eq_link_iff]
  rintro ⟨modified, found⟩
  exact regular.noLink found

/-- Without links there is a directory or nothing where there is no file. -/
private theorem Regular.directory_or_none (regular : disk.Regular)
    (noFile : ∀ bytes, disk.look location ≠ some (.file bytes)) :
    disk.look location = some .directory ∨ disk.look location = none := by
  cases found : disk.look location with
  | none => exact .inr rfl
  | some node =>
    cases node with
    | directory => exact .inl rfl
    | file bytes => exact absurd found (noFile bytes)
    | link target => exact absurd found (regular.look_ne_link location target)

/-! ## Searches -/

/-- A walk down some names arrives in a directory of the last, or a file bars the way, or there is a gap. -/
private theorem stride_outcome (regular : disk.Regular) (ending : Ending) (here : Location) {names : Location}
    (short : ∀ name ∈ names, name.length ≤ maxName) :
    (disk.stride ending here (names.map .enter) = .ok (.arrived (here ++ names))) ∨
    (disk.stride ending here (names.map .enter) = .error .notADirectory ∧
      ∃ rest bytes, rest <+: names ∧ rest ≠ names ∧ disk.look (here ++ rest) = some (.file bytes)) ∨
    (disk.stride ending here (names.map .enter) = .error .notFound ∧
      ∃ rest, rest <+: names ∧ rest ≠ names ∧ disk.look (here ++ rest) = none ∧
        ∀ above, above <+: rest → above ≠ rest → disk.look (here ++ above) = some .directory) := by
  induction names generalizing here with
  | nil => exact .inl (by simp [stride])
  | cons name more ih =>
    rw [List.map_cons, stride]
    have stopped (above : Location) (within : above <+: []) (different : above ≠ []) :
        disk.look (here ++ above) = some .directory := absurd (List.prefix_nil.mp within) different
    cases found : disk.tree.get? here with
    | none =>
      exact .inr (.inr ⟨rfl, [], List.nil_prefix, by simp, by simp [look, found], stopped⟩)
    | some entry =>
      cases entry with
      | file number =>
        exact .inr (.inl ⟨rfl, [], disk.fileData number, List.nil_prefix, by simp, by simp [look, found, occupantOf]⟩)
      | link target modified => exact absurd found regular.noLink
      | directory modified =>
        have notSlash : ¬(ending = .create ∧ more.map Step.enter = [.slash]) := by
          rintro ⟨-, same⟩
          cases more <;> simp at same
        have fits : ¬maxName < name.length := Nat.not_lt.mpr (short name (List.mem_cons_self ..))
        simp only [notSlash, if_false, fits]
        split
        · next target modified isLink => exact absurd isLink regular.noLink
        · -- the walk goes on below, and what stops it there is named from here
          rcases ih (here ++ [name]) fun other member => short other (List.mem_cons_of_mem _ member) with
            arrived | ⟨ran, rest, bytes, within, different, isFile⟩ | ⟨ran, rest, within, different, gap, clear⟩
          · exact .inl (by simpa using arrived)
          · exact .inr (.inl ⟨ran, name :: rest, bytes, List.cons_prefix_cons.mpr ⟨rfl, within⟩,
              by simpa using different, by simpa using isFile⟩)
          · refine .inr (.inr ⟨ran, name :: rest, List.cons_prefix_cons.mpr ⟨rfl, within⟩, by simpa using different,
              by simpa using gap, fun above belowHere notThere => ?_⟩)
            cases above with
            | nil => simpa [look_eq_directory_iff] using ⟨modified, found⟩
            | cons first above =>
              obtain ⟨rfl, belowThere⟩ := List.cons_prefix_cons.mp belowHere
              simpa using clear above belowThere (by simpa using notThere)

/-- The text of a place leads to the place, unless a file bars the way or the place above is missing. -/
private theorem locate_outcome (regular : disk.Regular) (ending : Ending) (proper : location.Proper)
    (legible : Legible location) :
    (disk.locate ending location.toPath = .ok location ∧
      (location ≠ .root → disk.look location.dropLast = some .directory)) ∨
    (disk.locate ending location.toPath = .error .notADirectory ∧ Barred disk.look location) ∨
    (disk.locate ending location.toPath = .error .notFound ∧ ¬Barred disk.look location ∧
      location ≠ .root ∧ disk.look location.dropLast = none) := by
  have walked : disk.locate ending location.toPath =
      disk.walk ending maxLinks .root (location.map .enter) := by
    rw [locate, if_neg legible.noNul, if_neg (by simp [Location.toPath, Path.ofNames]),
      if_neg (Nat.not_le.mpr legible.short)]
    simp only [Location.isAbsolute_toPath, if_true, Step.ofBytes_toPath proper]
  rcases stride_outcome regular ending .root legible.names with
    arrived | ⟨ran, above, bytes, within, different, isFile⟩ | ⟨ran, above, within, different, gap, clear⟩
  · have located : disk.locate ending location.toPath = .ok location := by
      rw [walked, maxLinks, walk, arrived]
      rfl
    exact .inl ⟨located, (locate_ok regular proper located).2.2⟩
  · have located : disk.locate ending location.toPath = .error .notADirectory := by
      rw [walked, maxLinks, walk, ran]
    exact .inr (.inl ⟨located, above, bytes, within, different, isFile⟩)
  · have located : disk.locate ending location.toPath = .error .notFound := by
      rw [walked, maxLinks, walk, ran]
    have notRoot : location ≠ .root := by
      rintro rfl
      exact different (List.prefix_nil.mp within)
    have clearAbove : ¬Barred disk.look above := by
      rintro ⟨higher, bytes, belowRoot, notThere, isFile⟩
      have isDirectory : disk.look higher = some .directory := clear higher belowRoot notThere
      simp [isDirectory] at isFile
    exact .inr (.inr ⟨located, regular.hierarchy.not_barred_of_gap within gap clearAbove, notRoot,
      regular.hierarchy.none_of_free gap ((Location.prefix_dropLast_iff notRoot).mpr ⟨within, different⟩)⟩)

theorem locate_of_directory (regular : disk.Regular) (ending : Ending) (proper : location.Proper)
    (legible : Legible location) (inDirectory : location ≠ .root → disk.look location.dropLast = some .directory) :
    disk.locate ending location.toPath = .ok location := by
  rcases locate_outcome regular ending proper legible with ⟨arrived, -⟩ | ⟨-, barred⟩ | ⟨-, -, notRoot, gap⟩
  · exact arrived
  · exact absurd barred (regular.hierarchy.not_barred_of_directory inDirectory)
  · simp [inDirectory notRoot] at gap

theorem locate_of_barred (regular : disk.Regular) (ending : Ending) (proper : location.Proper)
    (legible : Legible location) (barred : Barred disk.look location) :
    disk.locate ending location.toPath = .error .notADirectory := by
  rcases locate_outcome regular ending proper legible with ⟨-, inDirectory⟩ | ⟨stopped, -⟩ | ⟨-, clear, -⟩
  · exact absurd barred (regular.hierarchy.not_barred_of_directory inDirectory)
  · exact stopped
  · exact absurd barred clear

/-- What stands at a place is found there. -/
theorem find_of_some (regular : disk.Regular) (ending : Ending) (legible : Legible location) {entry : DiskEntry}
    (present : disk.tree.get? location = some entry) :
    disk.find ending location.toPath = .ok (location, entry) := by
  have found : disk.look location = some (disk.occupantOf entry) := by rw [look, present, Option.map_some]
  have inDirectory (notRoot : location ≠ .root) : disk.look location.dropLast = some .directory := by
    refine regular.hierarchy.above found (List.dropLast_prefix _) fun same => ?_
    exact Location.not_prefix_dropLast notRoot (by rw [same])
  rw [find, locate_of_directory regular ending (regular.hierarchy.proper found) legible inDirectory]
  simp only [present]

/-- Below a file the disk says that it is no directory. -/
theorem find_of_barred (regular : disk.Regular) (ending : Ending) (proper : location.Proper)
    (legible : Legible location) (barred : Barred disk.look location) :
    disk.find ending location.toPath = .error .notADirectory := by
  rw [find, locate_of_barred regular ending proper legible barred]

/-- Elsewhere the disk says of what is missing that it is. -/
theorem find_of_none (regular : disk.Regular) (ending : Ending) (proper : location.Proper)
    (legible : Legible location) (free : disk.look location = none) (clear : ¬Barred disk.look location) :
    disk.find ending location.toPath = .error .notFound := by
  rw [find]
  rcases locate_outcome regular ending proper legible with ⟨arrived, -⟩ | ⟨-, barred⟩ | ⟨stopped, -⟩
  · rw [arrived]
    simp only [look_eq_none_iff.mp free]
  · exact absurd barred clear
  · rw [stopped]

/-! ## Making directories -/

theorem isDirectory_of_look (regular : disk.Regular) (legible : Legible location)
    (found : disk.look location = some .directory) : disk.isDirectory location.toPath = true := by
  obtain ⟨modified, present⟩ := look_eq_directory_iff.mp found
  rw [isDirectory, status, find_of_some regular .follow legible present]
  rfl

private theorem makeDirectory_of_free (regular : disk.Regular) (proper : location.Proper)
    (legible : Legible location) (free : disk.look location = none)
    (inDirectory : disk.look location.dropLast = some .directory) (now : Int) :
    ∃ made, disk.makeDirectory now location.toPath = .ok made := by
  rw [makeDirectory, addEntry, locate_of_directory regular .keep proper legible fun _ => inDirectory]
  simp only [look_eq_none_iff.mp free]
  exact ⟨_, rfl⟩

private theorem makeDirectory_of_directory (regular : disk.Regular) (legible : Legible location)
    (found : disk.look location = some .directory) (now : Int) :
    disk.makeDirectory now location.toPath = .error .fileExists := by
  have inDirectory (_ : location ≠ .root) : disk.look location.dropLast = some .directory :=
    regular.hierarchy.directory_of_prefix found (List.dropLast_prefix _)
  obtain ⟨modified, present⟩ := look_eq_directory_iff.mp found
  rw [makeDirectory, addEntry, locate_of_directory regular .keep (regular.hierarchy.proper found) legible inDirectory]
  simp only [present]

private theorem makeDirectory_of_gap (regular : disk.Regular) (proper : location.Proper)
    (legible : Legible location) (clear : ¬Barred disk.look location) (gap : disk.look location.dropLast = none)
    (notRoot : location ≠ .root) (now : Int) : disk.makeDirectory now location.toPath = .error .notFound := by
  rw [makeDirectory, addEntry]
  rcases locate_outcome regular .keep proper legible with ⟨-, inDirectory⟩ | ⟨-, barred⟩ | ⟨stopped, -⟩
  · simp [inDirectory notRoot] at gap
  · exact absurd barred clear
  · rw [stopped]

/-- Once the directories above are made, a missing place is in a directory and still missing. -/
private theorem Filled.readies {name : Name} {made : Disk} (filled : disk.Filled above made)
    (free : disk.look (above ++ [name]) = none) (gap : disk.look above = none) :
    made.look (above ++ [name]) = none ∧ made.look above = some .directory := by
  have notAbove : ¬above ++ [name] <+: above := fun below => by simpa using below.length_le
  constructor
  · rw [filled.look, FileGateway.filled, free, if_neg notAbove, Option.none_or]
  · rw [filled.look, FileGateway.filled, gap, if_pos List.prefix_rfl, Option.none_or]

/-- Where no file stands at a place or above it, the directories missing on the way to it can be made. -/
theorem makeDirectories_of_clear (regular : disk.Regular) (proper : location.Proper) (legible : Legible location)
    (clear : ∀ above bytes, above <+: location → disk.look above ≠ some (.file bytes)) (now : Int) :
    ∃ made, disk.makeDirectories now location = (.ok (), made) := by
  induction location using List.reverseRecOn with
  | nil => exact ⟨disk, rfl⟩
  | append_singleton above name ih =>
    have within : above <+: above ++ [name] := List.prefix_append ..
    have notRoot : above ++ [name] ≠ Location.root := by simp [Location.root]
    have unbarred : ¬Barred disk.look (above ++ [name]) := by
      rintro ⟨place, bytes, below, -, isFile⟩
      exact clear place bytes below isFile
    have parent : (above ++ [name]).dropLast = above := List.dropLast_concat
    rw [makeDirectories, Location.ancestors_concat, List.reverse_append, List.reverse_singleton,
      List.singleton_append, makeFirst, if_neg notRoot]
    rcases regular.directory_or_none fun bytes => clear _ bytes List.prefix_rfl with isDirectory | free
    · rw [makeDirectory_of_directory regular legible isDirectory]
      simp only [isDirectory_of_look regular legible isDirectory]
      exact ⟨disk, rfl⟩
    · rcases regular.directory_or_none fun bytes => clear _ bytes within with aboveIs | gap
      · obtain ⟨made, ran⟩ := makeDirectory_of_free regular proper legible free (parent.symm ▸ aboveIs) now
        rw [ran]
        exact ⟨made, rfl⟩
      · -- the directories above are made first, and then this one stands in the last of them
        obtain ⟨mid, ranAbove⟩ := ih (proper.of_prefix within) (legible.of_prefix within)
          fun place bytes below => clear place bytes (below.trans within)
        have filled := makeDirectories_ok regular (proper.of_prefix within) ranAbove
        obtain ⟨stillFree, nowDirectory⟩ := filled.readies free gap
        obtain ⟨made, ran⟩ :=
          makeDirectory_of_free filled.regular proper legible stillFree (parent.symm ▸ nowDirectory) now
        rw [makeDirectories] at ranAbove
        rw [makeDirectory_of_gap regular proper legible unbarred (parent.symm ▸ gap) notRoot]
        simp only [ranAbove, ran]
        exact ⟨made, rfl⟩

/-- Below a file no directories can be made, and none are. -/
theorem makeDirectories_of_barred (regular : disk.Regular) (proper : location.Proper)
    (legible : Legible location) (barred : Barred disk.look location) (now : Int) :
    disk.makeDirectories now location = (.error .notADirectory, disk) := by
  have notDirectory : disk.isDirectory location.toPath = false := by
    rw [isDirectory, status, find_of_barred regular .follow proper legible barred]
    rfl
  have refused : disk.makeDirectory now location.toPath = .error .notADirectory := by
    rw [makeDirectory, addEntry, locate_of_barred regular .keep proper legible barred]
  obtain ⟨above, name, rfl⟩ : ∃ above name, location = above ++ [name] := by
    rcases List.eq_nil_or_concat location with rfl | ⟨above, name, same⟩
    · obtain ⟨above, bytes, within, different, -⟩ := barred
      exact absurd (List.prefix_nil.mp within) different
    · exact ⟨above, name, by rwa [List.concat_eq_append] at same⟩
  rw [makeDirectories, Location.ancestors_concat, List.reverse_append, List.reverse_singleton,
    List.singleton_append, makeFirst, if_neg (by simp [Location.root]), refused]
  simp only [notDirectory]
  rfl

end Disk

end FileGateway
