import FileGateway.Client.LocalDisk
import FileGateway.Proofs.Disk.Changes

/-! # What a local client finds and does

Seen through a local client, a disk without links answers by its look, and each change that succeeds
is one of the changes of the disk.
-/

namespace FileGateway.LocalDisk

variable {disk after : Disk} {conf : Configuration} {now : Int} {location : Location}
  {exception : Exception}

/-- Errors of the disk keep their kind when they are raised on a path. -/
theorem raising_ok {α : Type} {path : Path} {outcome : Except SystemError α} {value : α}
    (done : raising path outcome = .ok value) : outcome = .ok value := by
  cases outcome with
  | error error => simp [raising, Except.mapError] at done
  | ok found => simpa [raising, Except.mapError] using done

/-! ## Asking -/

theorem metadata_ok {status : DiskStatus} (regular : disk.Regular) (proper : location.Proper)
    (done : metadata disk location = .ok status) :
    ∃ node, disk.look location = some node ∧ (status.kind = .directory ↔ node = .directory) ∧
      location.length < Disk.pathLimit := by
  have done := raising_ok done
  rw [Disk.status] at done
  cases search : disk.find .follow location.toPath with
  | error error => simp [search, Except.map] at done
  | ok found =>
    obtain ⟨-, present, short⟩ := Disk.find_ok regular proper search
    have bound := (Location.length_le_toPath proper).trans_lt short
    obtain rfl : disk.statusOf found.2 = status := by simpa [search, Except.map] using done
    refine ⟨disk.occupantOf found.2, by rw [Disk.look, present, Option.map_some], ?_, bound⟩
    cases kind : found.2 with
    | directory modified => simp [Disk.statusOf, Disk.occupantOf]
    | file number =>
      rw [Disk.statusOf]
      split <;> simp [Disk.occupantOf]
    | link target modified => exact absurd (kind ▸ present) regular.noLink

/-- Whether the entry is a file or a directory, a status that is denied as missing is rightly so. -/
theorem metadata_missing (regular : disk.Regular) (proper : location.Proper)
    (failed : metadata disk location = .error exception) (kind : exception.kind = .fileNotFound) :
    disk.look location = none := by
  rw [metadata, Disk.status] at failed
  cases search : disk.find .follow location.toPath with
  | ok found => simp [search, Except.map, raising, Except.mapError] at failed
  | error error =>
    obtain rfl : Exception.onPath location.toPath error = exception := by
      simpa [search, Except.map, raising, Except.mapError] using failed
    apply Disk.find_notFound regular proper search
    rw [Exception.onPath, Exception.kind] at kind
    cases same : error.errorKind <;> simp [same, ExceptionClass.ofErrorKind] at kind ⊢

/-- The names in a directory, each listed once. -/
private theorem disk_list_ok {listed : List (Name × DiskStatus)} (regular : disk.Regular)
    (proper : location.Proper) (done : disk.list location.toPath = .ok listed) :
    (listed.map (·.1)).Nodup ∧ ∀ name, name ∈ listed.map (·.1) ↔ disk.look (location ++ [name]) ≠ none := by
  obtain ⟨place, modified, named, search, nodup, members, rfl⟩ := Disk.list_ok done
  obtain ⟨same, -, -⟩ := Disk.find_ok regular proper search
  obtain rfl : place = location := same
  have names : (named.map fun entry => (entry.1, disk.statusOf entry.2)).map (·.1) = named.map (·.1) := by simp
  rw [names]
  refine ⟨nodup, fun name => ?_⟩
  rw [Ne, Disk.look_eq_none_iff, ← Ne, Option.ne_none_iff_exists', List.mem_map]
  constructor
  · rintro ⟨⟨_, entry⟩, member, rfl⟩
    exact ⟨entry, (members _ _).mp member⟩
  · rintro ⟨entry, found⟩
    exact ⟨(name, entry), (members _ _).mpr found, rfl⟩

/-- The entries of a directory, each listed once. -/
theorem list_ok {entries : List FileStatus} (regular : disk.Regular) (proper : location.Proper)
    (directory : disk.look location = some .directory) (done : list conf disk location = .ok entries) :
    ∃ names, Listed disk.look location names entries := by
  simp only [list, bind, Except.bind] at done
  split at done
  · contradiction
  · next status known =>
    obtain ⟨node, found, kind, -⟩ := metadata_ok regular proper known
    obtain rfl : node = .directory := Option.some.inj (found.symm.trans directory)
    rw [if_neg (by simp [kind.mpr rfl])] at done
    split at done
    · contradiction
    · next listed ran =>
      obtain rfl := Except.ok.inj done
      obtain ⟨nodup, members⟩ := disk_list_ok regular proper (raising_ok ran)
      refine ⟨listed.map (·.1), nodup, ?_, members⟩
      rw [List.map_map, List.map_map]
      apply List.map_congr_left
      intro entry _
      simp only [Function.comp_apply, fileStatus]
      split <;> rfl

theorem openReader_ok {bufferSize : UInt64} {reader : DiskReader} (regular : disk.Regular)
    (proper : location.Proper)
    (done : openReader conf disk location bufferSize = .ok reader) :
    ∃ number, disk.tree.get? location = some (.file number) ∧
      reader = .ofFile number location.toPath (conf.bufferSizeOr bufferSize).toNat := by
  simp only [openReader, bind, Except.bind] at done
  split at done
  · contradiction
  · next status known =>
    split at done
    · contradiction
    · split at done
      · contradiction
      · next number ran =>
        obtain rfl := Except.ok.inj done
        have ran := raising_ok ran
        rw [Disk.openFile] at ran
        split at ran
        · contradiction
        · next place other search =>
          obtain ⟨-, present, -⟩ := Disk.find_ok regular proper search
          obtain rfl := Except.ok.inj ran
          exact ⟨_, present, rfl⟩
        · contradiction

/-! ## Changing -/

theorem createDirectories_ok (regular : disk.Regular) (proper : location.Proper)
    (done : createDirectories disk now location = (.ok (), after)) : disk.Filled location after := by
  rw [createDirectories] at done
  split at done
  · next status known =>
    obtain ⟨outcome, rfl⟩ := Prod.mk.inj done
    split at outcome
    · next isDirectory =>
      refine .of_directory regular (Disk.directory_of_isDirectory regular proper ?_)
      simp [Disk.isDirectory, known, isDirectory]
    · contradiction
  · obtain ⟨outcome, rfl⟩ := Prod.mk.inj done
    have made : disk.makeDirectories now location = (.ok (), (disk.makeDirectories now location).2) :=
      Prod.ext (raising_ok outcome) rfl
    exact Disk.makeDirectories_ok regular proper made

/-- A file created at a free place stands in directories made for it where they were missing. -/
theorem createWriter_ok {options : CreateOptions} {writer : DiskWriter} (regular : disk.Regular)
    (proper : location.Proper) (free : disk.look location = none)
    (done : createWriter conf disk now location options = (.ok writer, after)) :
    ∃ mid number, disk.Filled location.dropLast mid ∧ mid.Created location number after ∧
      writer = .ofFile number location.toPath (conf.bufferSizeOr options.bufferSize).toNat := by
  have notRoot := regular.hierarchy.ne_root_of_free free
  have isParent : location.parent? = some location.dropLast :=
    Location.parent?_eq_some_iff.mpr ⟨notRoot, rfl⟩
  rw [createWriter] at done
  split at done
  · simp at done
  · simp only [prepareParent, isParent] at done
    split at done
    · simp at done
    · next mid prepared =>
      obtain ⟨outcome, rfl⟩ := Prod.mk.inj prepared
      have filled : disk.Filled location.dropLast (disk.makeDirectories now location.dropLast).2 :=
        Disk.makeDirectories_ok regular (proper.of_prefix (List.dropLast_prefix _))
          (Prod.ext (raising_ok outcome) rfl)
      have stillFree : (disk.makeDirectories now location.dropLast).2.look location = none := by
        rw [filled.look, FileGateway.filled, free, if_neg (Location.not_prefix_dropLast notRoot), Option.none_or]
      split at done
      · simp at done
      · next number created ran =>
        obtain ⟨same, rfl⟩ := Prod.mk.inj done
        exact ⟨_, number, filled, Disk.createFile_ok filled.regular proper stillFree ran,
          (Except.ok.inj same).symm⟩

theorem delete_ok (regular : disk.Regular) (proper : location.Proper)
    (done : delete disk now location = .ok after) : disk.Removed location after := by
  simp only [delete, bind, Except.bind] at done
  split at done
  · contradiction
  · next status known =>
    have ran := raising_ok done
    split at ran
    · exact Disk.removeTree_ok regular proper ran
    · exact Disk.removeName_ok regular proper ran

end FileGateway.LocalDisk
