import FileGateway.Proofs.Storage.LinkedCopies

/-! # Moves on a disk with links

A move copies a tree and then removes its source. It is refused where the target is spelled as lying in the source,
but links give one place many spellings. What is removed in the end is the entry that the last name of the source
stands for, with everything below it. The copy stands in a new place, so it survives the removal, but it can only be
found if the way to it does not pass what is removed. So whether a move keeps or loses everything is decided by the
places on the way to its target.
-/

namespace FileGateway

namespace Disk

variable {before middle after : Disk} {goal place landing suffix : Location} {node : Occupant}

section Removal

variable (landed : Landed goal landing before middle) (occupied : before.look place ≠ none) (notRoot : place ≠ .root)
  (lacks : Lacks place middle after) (proper : Location.Proper (goal ++ suffix))

include landed occupied notRoot lacks proper

/-- What has come to stand at a new place is still found there after something was removed that is not on the way. -/
theorem shown_of_unpassed (orderly : before.Orderly) (enriched : Enriched before middle)
    (unpassed : place ∉ before.way goal) (seen : middle.shown (goal ++ suffix) = some node) :
    after.shown (goal ++ suffix) = some node := by
  have nothing (rest : Location) : before.look (landing ++ rest) = none :=
    orderly.hierarchy.none_of_free landed.vacant (List.prefix_append landing rest)
  have properGoal := proper.of_prefix (List.prefix_append goal suffix)
  obtain ⟨arrived, outside⟩ := lacks.locate_eq notRoot properGoal
    (fun passed => unpassed ((landed.way place occupied).mp passed)) landed.arrived
  refine shown_below (fun rest target isLink => ?_) landed.arrived (fun rest => lacks.look_of_apart fun within => ?_)
    arrived proper seen
  · cases (nothing rest).symm.trans (enriched.noLink isLink)
  · rcases List.prefix_or_prefix_of_prefix within (List.prefix_append landing rest) with above | ⟨more, rfl⟩
    · exact outside above
    · exact occupied (nothing more)

/-- What is found by a way that passes what was removed is lost. -/
theorem not_shown_of_passed (passed : place ∈ before.way goal) : after.shown (goal ++ suffix) = none :=
  lacks.shown_eq_none notRoot proper (way_subset middle goal suffix ((landed.way place occupied).mpr passed))

end Removal

end Disk

namespace LocalDisk

variable {disk : Disk} {location : Location} {bytes : Bytes}

/-- At the text of a place a file can be opened, and these bytes are there to be read. -/
def CanRead (disk : Disk) (location : Location) (bytes : Bytes) : Prop :=
  ∀ conf bufferSize, ∃ reader, openReader conf disk location bufferSize = .ok reader ∧ reader.rest disk = bytes

/-- What is shown as a file can be read. -/
theorem canRead_of_shown (seen : disk.shown location = some (.file bytes)) : CanRead disk location bytes := by
  intro conf bufferSize
  obtain ⟨place, arrived, isFile⟩ := Disk.shown_eq_some_iff.mp seen
  obtain ⟨number, present, rfl⟩ := Disk.look_eq_file_iff.mp isFile
  have search : disk.find .follow location.toPath = .ok (place, .file number) :=
    Disk.find_eq_ok_iff.mpr ⟨arrived, present⟩
  have noDirectory : (disk.statusOf (.file number)).kind ≠ .directory := by
    simp [disk.kind_statusOf, Disk.occupantOf]
  have known : metadata disk location = .ok (disk.statusOf (.file number)) := by
    rw [metadata, Disk.status, search]
    rfl
  refine ⟨.ofFile number location.toPath (conf.bufferSizeOr bufferSize).toNat, ?_, ?_⟩
  · simp only [openReader, known, bind, Except.bind, if_neg noDirectory, Disk.openFile, search]
    rfl
  · simp [DiskReader.rest, DiskReader.ofFile]

end LocalDisk

namespace Storage

open Disk

variable {storage after : Storage} {client sourceClient targetClient : Nat}
  {directory sourceDirectory targetDirectory : Location}

namespace OnDisk

variable (onDisk : storage.OnDisk client directory)
include onDisk

theorem uri_eq : uri client storage = .ok "file:///" storage := by
  obtain ⟨⟨conf, found⟩, -⟩ := onDisk
  rw [uri, bind_run, clientAt_of_some found]
  rfl

theorem resolve_eq (path : Path) : Storage.resolve client path storage = .ok (directory.resolve path) storage := by
  obtain ⟨⟨conf, found⟩, -⟩ := onDisk
  rw [Storage.resolve, bind_run, Storage.directory, bind_run, clientAt_of_some found]
  rfl

/-- What a client calls missing leads nowhere. -/
theorem not_shown {path : Path} (absent : isPresent client path storage = .ok false after) :
    storage.disk.shown (directory.resolve path) = none := by
  obtain ⟨⟨conf, found⟩, -⟩ := onDisk
  refine Option.eq_none_iff_forall_ne_some.mpr fun node seen => ?_
  obtain ⟨known, isKnown⟩ := status_of_shown seen
  have ran : status client path storage =
      .ok (LocalDisk.fileStatus conf (directory.resolve path).toPath known) storage := by
    rw [status_of_disk found, LocalDisk.status, LocalDisk.metadata, isKnown]
    rfl
  simp only [isPresent, tryCatch, tryCatchThe, MonadExceptOf.tryCatch, EStateM.tryCatch, bind_run, ran] at absent
  cases absent

end OnDisk

/-- What is left of a copy when its source was removed. -/
private theorem moved_of_doubled {copied : Storage} {sourcePath targetPath : Path}
    (fromSource : storage.OnDisk sourceClient sourceDirectory)
    (toTarget : storage.OnDisk targetClient targetDirectory) (orderly : storage.disk.Orderly)
    (unseen : storage.disk.shown (targetDirectory.resolve targetPath) = none)
    (doubled : Doubled (sourceDirectory.resolve sourcePath) (targetDirectory.resolve targetPath) storage copied)
    (removes : delete sourceClient sourcePath copied = .ok () after) :
    ∃ place, storage.disk.locate .keep (sourceDirectory.resolve sourcePath).toPath = .ok place ∧
      storage.disk.look place ≠ none ∧ after.disk.look place = none ∧
      (place ∉ storage.disk.way (targetDirectory.resolve targetPath) → ∀ suffix bytes, suffix.Proper →
        storage.disk.shown (sourceDirectory.resolve sourcePath ++ suffix) = some (.file bytes) →
          after.disk.shown (targetDirectory.resolve targetPath ++ suffix) = some (.file bytes)) ∧
      (place ∈ storage.disk.way (targetDirectory.resolve targetPath) → ∀ suffix, suffix.Proper →
        after.disk.shown (targetDirectory.resolve targetPath ++ suffix) = none) := by
  have properOrigin := Location.proper_resolve fromSource.proper sourcePath
  have properGoal := Location.proper_resolve toTarget.proper targetPath
  obtain ⟨node, seen⟩ := Option.ne_none_iff_exists'.mp doubled.present
  obtain ⟨place, atPlace, occupied⟩ := standing_of_shown properOrigin seen
  obtain ⟨landing, landed⟩ := doubled.landed unseen
  obtain ⟨conf, found⟩ := (doubled.onDisk fromSource).found
  rw [delete_of_disk found] at removes
  split at removes
  · next disk done =>
    cases removes
    obtain ⟨removed, removal⟩ := LocalDisk.delete_removal (doubled.orderly orderly) done
    -- the copy has added no link, so the source still stands for the same place
    obtain rfl : place = removed := Except.ok.inj
      ((doubled.enriched.passable.locate properOrigin atPlace).symm.trans removal.arrived)
    refine ⟨place, atPlace, occupied, removal.lacks.look_removed, fun unpassed suffix bytes proper found => ?_,
      fun passed suffix proper => ?_⟩
    · exact shown_of_unpassed landed occupied removal.notRoot removal.lacks
        (Location.proper_append.mpr ⟨properGoal, proper⟩) orderly doubled.enriched unpassed
        (doubled.duplicated suffix bytes proper found)
    · exact not_shown_of_passed landed occupied removal.notRoot removal.lacks
        (Location.proper_append.mpr ⟨properGoal, proper⟩) passed
  · contradiction

/-- A move on the disk is refused if the target is spelled as lying in the source, and then nothing changes. One that
answers has removed what the last name of the source stood for. If that is not on the way to the target, every file
that could be found below the source is found below the target with its bytes; if it is, nothing is found there. -/
theorem move_keeps_files_unless_on_way (fromSource : storage.OnDisk sourceClient sourceDirectory)
    (toTarget : storage.OnDisk targetClient targetDirectory) (orderly : storage.disk.Orderly)
    (sourcePath targetPath : Path) (conf : Configuration) :
    (sourceDirectory.resolve sourcePath <+: targetDirectory.resolve targetPath →
      copy sourceClient sourcePath targetClient targetPath true conf storage =
        .error (.raised (.copyIntoItself (sourceDirectory.resolve sourcePath).toPath
          (targetDirectory.resolve targetPath).toPath)) storage) ∧
    ∀ after, copy sourceClient sourcePath targetClient targetPath true conf storage = .ok () after →
      ∃ place, storage.disk.locate .keep (sourceDirectory.resolve sourcePath).toPath = .ok place ∧
        storage.disk.look place ≠ none ∧ after.disk.look place = none ∧
        (place ∉ storage.disk.way (targetDirectory.resolve targetPath) → ∀ suffix bytes, suffix.Proper →
          storage.disk.shown (sourceDirectory.resolve sourcePath ++ suffix) = some (.file bytes) →
            LocalDisk.CanRead after.disk (targetDirectory.resolve targetPath ++ suffix) bytes) ∧
        (place ∈ storage.disk.way (targetDirectory.resolve targetPath) → ∀ suffix, suffix.Proper →
          after.disk.shown (targetDirectory.resolve targetPath ++ suffix) = none) := by
  have properOrigin := Location.proper_resolve fromSource.proper sourcePath
  have properGoal := Location.proper_resolve toTarget.proper targetPath
  rw [copy, bind_of_ok fromSource.uri_eq, bind_of_ok toTarget.uri_eq, if_pos rfl,
    bind_of_ok (fromSource.resolve_eq sourcePath), bind_of_ok (toTarget.resolve_eq targetPath)]
  refine ⟨fun within => ?_, fun after ran => ?_⟩
  · rw [if_pos (Location.isWithin_iff.mpr within)]
    rfl
  · split at ran
    · contradiction
    · obtain ⟨present, _, asked, ran⟩ := ok_of_bind ran
      obtain rfl := (isPresent_leaves targetClient targetPath).eq_of_ok asked
      cases present with
      | true => contradiction
      | false =>
        have unseen := toTarget.not_shown asked
        simp only [Bool.false_eq_true, if_false, bind_get] at ran
        obtain ⟨_, copied, tree, removes⟩ := ok_of_bind ran
        obtain ⟨place, atPlace, occupied, gone, kept, lost⟩ := moved_of_doubled fromSource toTarget orderly unseen
          (doublesTrees _ _ _ _ _ _ fromSource toTarget orderly tree) removes
        exact ⟨place, atPlace, occupied, gone, fun unpassed suffix bytes proper seen =>
          LocalDisk.canRead_of_shown (kept unpassed suffix bytes proper seen), lost⟩

/-- A disk with a file in a directory and a link to the directory. -/
def entwined : Disk :=
  let disk := Disk.new 0 .root 0 0
  { disk with
    files := [⟨[120], 0⟩]
    tree := ((disk.tree.insert [[97]] (.directory 0)).insert [[97], [102]] (.file 0)).insert [[108]] (.link [97] 0) }

/-- Moved to a place beside the link, the directory keeps its file. -/
theorem move_keeps_files_unless_on_way_beside :
    let storage := { new 0 entwined with clients := [⟨.disk .default, .root, .none⟩] }
    ∃ after, copy 0 ⟨[47, 97]⟩ 0 ⟨[47, 98]⟩ true .default storage = .ok () after ∧
      LocalDisk.CanRead after.disk [[98], [102]] [120] := by
  intro storage
  have client : storage.OnDisk 0 .root := ⟨⟨.default, rfl⟩, Location.proper_root⟩
  have orderly : storage.disk.Orderly := by decide +kernel
  have answers : (match copy 0 ⟨[47, 97]⟩ 0 ⟨[47, 98]⟩ true .default storage with
      | .ok _ _ => true
      | .error _ _ => false) = true := by decide +kernel
  have atPlace : storage.disk.locate .keep (Location.resolve .root ⟨[47, 97]⟩).toPath = .ok [[97]] := by decide +kernel
  have unpassed : [[97]] ∉ storage.disk.way (Location.resolve .root ⟨[47, 98]⟩) := by decide +kernel
  have seen : storage.disk.shown (Location.resolve .root ⟨[47, 97]⟩ ++ [[102]]) = some (.file [120]) := by
    decide +kernel
  cases ran : copy 0 ⟨[47, 97]⟩ 0 ⟨[47, 98]⟩ true .default storage with
  | ok _ after =>
    obtain ⟨place, there, -, -, kept, -⟩ := (move_keeps_files_unless_on_way client client orderly _ _ _).2 after ran
    obtain rfl := Except.ok.inj (there.symm.trans atPlace)
    exact ⟨after, rfl, kept unpassed [[102]] [120] (by decide) seen⟩
  | error failure after => simp [ran] at answers

/-- Moved to a place that the link leads to, the directory is removed together with its copy. -/
theorem move_through_link_loses_files :
    let storage := { new 0 entwined with clients := [⟨.disk .default, .root, .none⟩] }
    storage.disk.shown [[97], [102]] = some (.file [120]) ∧
      ∃ after, copy 0 ⟨[47, 97]⟩ 0 ⟨[47, 108, 47, 98]⟩ true .default storage = .ok () after ∧
        after.disk.shown [[108], [98], [102]] = none ∧ after.disk.shown [[97], [102]] = none := by
  intro storage
  have loses : (match copy 0 ⟨[47, 97]⟩ 0 ⟨[47, 108, 47, 98]⟩ true .default storage with
      | .ok _ after => after.disk.shown [[108], [98], [102]] == none && after.disk.shown [[97], [102]] == none
      | .error _ _ => false) = true := by decide +kernel
  refine ⟨by decide +kernel, ?_⟩
  cases ran : copy 0 ⟨[47, 97]⟩ 0 ⟨[47, 108, 47, 98]⟩ true .default storage with
  | ok _ after =>
    rw [ran] at loses
    exact ⟨after, rfl, by simpa using loses⟩
  | error failure after => simp [ran] at loses

end Storage

end FileGateway
