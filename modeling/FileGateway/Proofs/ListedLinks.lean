import FileGateway.Proofs.Disk.Linked
import FileGateway.Proofs.Storage.Actions

/-! # Listings and links

A listing of a directory tells what every entry is by itself, and a query for a path tells what the path leads to.
Of directories and files both tell the same. A link is listed as a file that holds its target, while a query, the
one that begins a listing included, follows it. So a link to a directory is listed as a file, a link that leads
nowhere is listed though no query and no removal finds it, and the two agree on a link only by chance.
-/

namespace FileGateway

namespace LocalDisk

open Disk

variable {disk : Disk} {conf : Configuration} {now : Int} {location above place : Location} {name : Name}
  {entry : DiskEntry} {record : FileStatus} {records : List FileStatus}

/-! ## Queries -/

private theorem fileStatus_eq_iff {path : Path} {first second : DiskStatus} :
    fileStatus conf path first = fileStatus conf path second ↔ first.kind = second.kind ∧
      seconds first.modified = seconds second.modified ∧ (first.kind = .file → first.size = second.size) := by
  obtain ⟨kind, size, modified⟩ := first
  obtain ⟨otherKind, otherSize, otherModified⟩ := second
  cases kind <;> cases otherKind <;> simp [fileStatus, FileStatus.ofDirectory, FileStatus.ofFile, and_comm]

theorem metadata_eq_ok_iff {status : DiskStatus} : metadata disk location = .ok status ↔
    ∃ found, disk.find .follow location.toPath = .ok found ∧ disk.statusOf found.2 = status := by
  rw [metadata, Disk.status]
  cases disk.find .follow location.toPath <;> simp [raising, Except.map, Except.mapError]

theorem status_eq_ok_iff : status conf disk location = .ok record ↔
    ∃ found, disk.find .follow location.toPath = .ok found ∧
      fileStatus conf location.toPath (disk.statusOf found.2) = record := by
  rw [status, metadata, Disk.status]
  cases disk.find .follow location.toPath <;> simp [raising, Except.map, Except.mapError]

/-- A query for the path of an entry tells what a listing tells of the entry: always of a directory or a file with
a legible path, and of a link only if it leads to a file that is as long as the target and, by the second, as old
as the link. -/
def ToldAlike (disk : Disk) (location : Location) : DiskEntry → Prop
  | .directory _ | .file _ => Legible location
  | .link target modified => ∃ place number file, disk.find .follow location.toPath = .ok (place, .file number) ∧
      disk.files[number]? = some file ∧ file.data.length = target.length ∧
      seconds file.modified = seconds modified

section Entry

variable (orderly : disk.Orderly) (proper : Location.Proper (above ++ [name]))
  (arrived : disk.locate .follow above.toPath = .ok place) (isDirectory : disk.look place = some .directory)
  (present : disk.tree.get? (place ++ [name]) = some entry)

/-- Through a link a query finds no other link. -/
private theorem status_of_link {target : Bytes} {modified : Int} (orderly : disk.Orderly) (proper : location.Proper) :
    status conf disk location = .ok (fileStatus conf location.toPath (disk.statusOf (.link target modified))) ↔
      ToldAlike disk location (.link target modified) := by
  rw [status_eq_ok_iff]
  constructor
  · rintro ⟨⟨there, other⟩, search, same⟩
    obtain ⟨reached, standing⟩ := find_eq_ok_iff.mp search
    obtain ⟨kinds, times, sizes⟩ := fileStatus_eq_iff.mp same
    cases other with
    | directory => cases kinds
    | link text changed =>
      have isLink : disk.look there = some (.link text) := look_of_find search
      exact absurd isLink (noLink_of_locate orderly proper reached text)
    | file number =>
      have known := List.getElem?_eq_getElem (orderly.allotted standing)
      simp only [statusOf, known] at times sizes
      exact ⟨there, number, _, search, known, sizes trivial, times⟩
  · rintro ⟨there, number, file, search, known, sizes, times⟩
    refine ⟨_, search, fileStatus_eq_iff.mpr ?_⟩
    simp only [statusOf, known]
    exact ⟨trivial, times, fun _ => sizes⟩

include proper arrived isDirectory present

/-- An entry that is no link is found by its path. -/
private theorem find_entry (legible : Legible (above ++ [name])) {ending : Ending}
    (unfollowed : ending = .keep ∨ ∀ target modified, entry ≠ .link target modified) :
    disk.find ending (Location.toPath (above ++ [name])) = .ok (place ++ [name], entry) := by
  refine find_eq_ok_iff.mpr ⟨locate_concat proper arrived legible.fits isDirectory
    (legible.names name (by simp)) (unfollowed.imp_right fun noLink target isLink => ?_), present⟩
  rw [look, present] at isLink
  cases entry with
  | directory | file => cases isLink
  | link other modified => exact noLink other modified rfl

include orderly in
/-- Whether a query for the path of an entry tells what a listing tells of it. -/
theorem status_eq_listed_iff (conf : Configuration) :
    status conf disk (above ++ [name]) =
        .ok (fileStatus conf (Location.toPath (above ++ [name])) (disk.statusOf entry)) ↔
      ToldAlike disk (above ++ [name]) entry := by
  have legibly (noLink : ∀ target modified, entry ≠ .link target modified) :
      status conf disk (above ++ [name]) =
          .ok (fileStatus conf (Location.toPath (above ++ [name])) (disk.statusOf entry)) ↔
        Legible (above ++ [name]) := by
    rw [status_eq_ok_iff]
    constructor
    · rintro ⟨found, search, -⟩
      exact legible_of_locate proper (find_eq_ok_iff.mp search).1
    · intro legible
      exact ⟨_, find_entry proper arrived isDirectory present legible (.inr noLink), rfl⟩
  cases entry with
  | directory | file => exact legibly (by simp)
  | link target modified => exact status_of_link orderly proper

/-- An entry that a query finds can be removed. -/
theorem delete_of_metadata {status : DiskStatus} (known : metadata disk (above ++ [name]) = .ok status) (now : Int) :
    ∃ after, delete disk now (above ++ [name]) = .ok after := by
  obtain ⟨⟨there, other⟩, search, rfl⟩ := metadata_eq_ok_iff.mp known
  have legible := legible_of_locate proper (find_eq_ok_iff.mp search).1
  have kept := find_entry proper arrived isDirectory present legible (.inl rfl)
  have followed (noLink : ∀ target modified, entry ≠ .link target modified) : other = entry :=
    (Prod.mk.inj (Except.ok.inj (search.symm.trans
      (find_entry proper arrived isDirectory present legible (.inr noLink))))).2
  simp only [delete, known, bind, Except.bind]
  cases entry with
  | directory modified =>
    obtain rfl := followed (by simp)
    simp [statusOf, removeTree, kept, Location.root, raising, Except.mapError]
  | file number =>
    obtain rfl := followed (by simp)
    have isFile : (disk.statusOf (.file number)).kind = .file := by
      rw [statusOf]
      split <;> rfl
    simp [isFile, removeName, kept, raising, Except.mapError]
  | link target modified =>
    -- what the link leads to says which removal is tried, and both take the link away
    split <;> simp [removeTree, removeName, kept, raising, Except.mapError]

end Entry

end LocalDisk

namespace Storage

variable {storage after : Storage} {client : Nat} {conf : Configuration} {directory : Location} {path : Path}
  {records : List FileStatus}

/-- What a listing tells of an entry, compared with what is told of the path that it gives. -/
structure Told (storage : Storage) (client : Nat) (location : Location) (entry : Name × DiskEntry)
    (record : FileStatus) : Prop where
  path : record.path = Location.toPath (location ++ [entry.1])
  queried : status client record.path storage = .ok record storage ↔
    LocalDisk.ToldAlike storage.disk (location ++ [entry.1]) entry.2
  /-- What a query finds can be removed, and what it does not find cannot, for the same reason. -/
  removed : ∀ found, status client record.path storage = .ok found storage →
    ∃ last, delete client record.path storage = .ok () last
  missed : ∀ exception, status client record.path storage = .error (.raised exception) storage →
    delete client record.path storage = .error (.raised exception) storage

/-- The record of an entry in a directory. -/
private theorem told_of_entry {location place : Location} {name : Name} {entry : DiskEntry}
    (found : storage.clients[client]? = some ⟨.disk conf, directory, .none⟩) (orderly : storage.disk.Orderly)
    (proper : Location.Proper (location ++ [name])) (arrived : storage.disk.locate .follow location.toPath = .ok place)
    (isDirectory : storage.disk.look place = some .directory)
    (present : storage.disk.tree.get? (place ++ [name]) = some entry) :
    storage.Told client location (name, entry)
      (LocalDisk.fileStatus conf (Location.toPath (location ++ [name])) (storage.disk.statusOf entry)) := by
  have itsPath := LocalDisk.fileStatus_path conf (Location.toPath (location ++ [name])) (storage.disk.statusOf entry)
  have resolved := Location.resolve_toPath directory proper
  refine ⟨itsPath, ?_, fun other known => ?_, fun exception failed => ?_⟩
  · rw [itsPath, status_of_disk found, resolved,
      ← LocalDisk.status_eq_listed_iff orderly proper arrived isDirectory present conf]
    exact ⟨fun ran => (ok_of_answerOf ran).1, fun known => by rw [known]; rfl⟩
  · rw [itsPath, status_of_disk found, resolved] at known
    rw [itsPath, delete_of_disk found, resolved]
    rcases asked : LocalDisk.metadata storage.disk (location ++ [name]) with exception | status
    · have failed : LocalDisk.status conf storage.disk (location ++ [name]) = .error exception := by
        rw [LocalDisk.status, asked]
        rfl
      cases failed.symm.trans (ok_of_answerOf known).1
    · obtain ⟨last, done⟩ :=
        LocalDisk.delete_of_metadata proper arrived isDirectory present asked storage.now
      rw [done]
      exact ⟨_, rfl⟩
  · rw [itsPath, status_of_disk found, resolved, LocalDisk.status] at failed
    rw [itsPath, delete_of_disk found, resolved, LocalDisk.delete]
    rcases asked : LocalDisk.metadata storage.disk (location ++ [name]) with other | status <;> rw [asked] at failed
    · cases failed
      rfl
    · cases failed

/-- A listing through a client of the disk tells of a file what a query tells, or it tells of every entry in a
directory, under its path, and then it agrees with queries on exactly the entries that are told alike. -/
theorem listing_agrees_iff (found : storage.clients[client]? = some ⟨.disk conf, directory, .none⟩)
    (proper : directory.Proper) (orderly : storage.disk.Orderly)
    (ran : list client path storage = .ok records after) : after = storage ∧
      ((∃ record, records = [record] ∧ record.kind = .file ∧ record.path = (directory.resolve path).toPath ∧
        status client record.path storage = .ok record storage) ∨
      ∃ place, ∃ named : List (Name × DiskEntry),
        storage.disk.locate .follow (directory.resolve path).toPath = .ok place ∧
        storage.disk.look place = some .directory ∧ (named.map (·.1)).Nodup ∧
        (∀ name entry, (name, entry) ∈ named ↔ storage.disk.tree.get? (place ++ [name]) = some entry) ∧
        List.Forall₂ (storage.Told client (directory.resolve path)) named records) := by
  have properPath := Location.proper_resolve proper path
  rw [list_of_disk found] at ran
  obtain ⟨done, rfl⟩ := ok_of_answerOf ran
  refine ⟨rfl, ?_⟩
  rcases LocalDisk.list_cases done with
    ⟨record, alone, isFile, itsPath, known⟩ | ⟨place, named, arrived, isDirectory, nodup, members, rfl⟩
  · refine .inl ⟨record, alone, isFile, itsPath, ?_⟩
    rw [status_of_disk found, itsPath, Location.resolve_toPath directory properPath, known]
    rfl
  · refine .inr ⟨place, named, arrived, isDirectory, nodup, members, ?_⟩
    rw [List.forall₂_map_right_iff, List.forall₂_same]
    rintro ⟨name, entry⟩ member
    have present := (members name entry).mp member
    exact told_of_entry found orderly (orderly.proper_entry properPath present) arrived isDirectory present

/-- A disk with a directory that holds two links: one leads back to the directory, the other nowhere. -/
def knotted : Disk :=
  let disk := Disk.new 0 .root 0 0
  { disk with
    tree := ((disk.tree.insert [[100]] (.directory 0)).insert [[100], [98]] (.link [47, 100] 0)).insert
      [[100], [110]] (.link [47, 120] 0) }

/-- The directory with the two links is listed. -/
theorem listing_agrees_iff_of_knotted :
    let storage := { new 0 knotted with clients := [⟨.disk .default, .root, .none⟩] }
    ∃ records after, list 0 ⟨[47, 100]⟩ storage = .ok records after ∧ records.length = 2 ∧ after = storage ∧
      ((∃ record, records = [record] ∧ record.kind = .file ∧ record.path = (Location.root.resolve ⟨[47, 100]⟩).toPath ∧
        status 0 record.path storage = .ok record storage) ∨
      ∃ place, ∃ named : List (Name × DiskEntry),
        storage.disk.locate .follow (Location.root.resolve ⟨[47, 100]⟩).toPath = .ok place ∧
        storage.disk.look place = some .directory ∧ (named.map (·.1)).Nodup ∧
        (∀ name entry, (name, entry) ∈ named ↔ storage.disk.tree.get? (place ++ [name]) = some entry) ∧
        List.Forall₂ (storage.Told 0 (Location.root.resolve ⟨[47, 100]⟩)) named records) := by
  intro storage
  have two : (match list 0 ⟨[47, 100]⟩ storage with
      | .ok records _ => records.length == 2
      | .error _ _ => false) = true := by decide +kernel
  have orderly : storage.disk.Orderly := by decide +kernel
  cases ran : list 0 ⟨[47, 100]⟩ storage with
  | ok records after =>
    rw [ran] at two
    exact ⟨records, after, rfl, by simpa using two,
      listing_agrees_iff rfl Location.proper_root orderly ran⟩
  | error failure after => simp [ran] at two

/-- The link back to the directory is listed as a file, and its path is that of a directory; the link that leads
nowhere is listed, and its path is missing to a query and to a removal. -/
theorem listed_links_not_as_queried :
    let storage := { new 0 knotted with clients := [⟨.disk .default, .root, .none⟩] }
    ∃ back nowhere, list 0 ⟨[47, 100]⟩ storage = .ok [back, nowhere] storage ∧
      back.kind = .file ∧ (∃ queried, status 0 back.path storage = .ok queried storage ∧ queried.kind = .directory) ∧
      ∃ exception, exception.kind = .fileNotFound ∧
        status 0 nowhere.path storage = .error (.raised exception) storage ∧
        delete 0 nowhere.path storage = .error (.raised exception) storage := by
  refine ⟨.ofFile ⟨[47, 100, 47, 98]⟩ 2 0 1 Configuration.default.localBlockSize,
    .ofFile ⟨[47, 100, 47, 110]⟩ 2 0 1 Configuration.default.localBlockSize, by rfl, rfl,
    ⟨.ofDirectory ⟨[47, 100, 47, 98]⟩ 0, by rfl, rfl⟩, .onPath ⟨[47, 100, 47, 110]⟩ .notFound, rfl, by rfl, by rfl⟩

end Storage

end FileGateway
