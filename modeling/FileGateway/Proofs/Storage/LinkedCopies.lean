import FileGateway.Proofs.Disk.Linked
import FileGateway.Proofs.Storage.Leaves
import FileGateway.Proofs.Storage.Transfer

/-! # Copies on a disk with links

Clients of the disk copy what their paths lead to. Whatever links there are, a copy that answers has only added to
the disk, no links among it, and what can be found below the path of the target is every file that could be found
below the path of the source when the copy began.
-/

namespace FileGateway.Storage

open Disk

variable {α : Type} {storage before middle after : Storage} {client sourceClient targetClient : Nat}
  {directory sourceDirectory targetDirectory origin goal : Location} {path sourcePath targetPath : Path}
  {conf : Configuration}

/-- An unscripted client works on the disk from a proper directory. -/
structure OnDisk (storage : Storage) (client : Nat) (directory : Location) : Prop where
  found : ∃ conf, storage.clients[client]? = some ⟨.disk conf, directory, .none⟩
  proper : directory.Proper

/-- The clients are as they were, and what is new on the disk is no link. -/
structure Enlarged (before after : Storage) : Prop where
  clients : after.clients = before.clients
  orderly : before.disk.Orderly → after.disk.Orderly
  enriched : Enriched before.disk after.disk

namespace Enlarged

protected theorem refl (storage : Storage) : Enlarged storage storage := ⟨rfl, id, .refl _⟩

protected theorem trans (first : Enlarged before middle) (second : Enlarged middle after) : Enlarged before after :=
  ⟨second.clients.trans first.clients, second.orderly ∘ first.orderly, first.enriched.trans second.enriched⟩

theorem onDisk (enlarged : Enlarged before after) (onDisk : before.OnDisk client directory) :
    after.OnDisk client directory :=
  ⟨enlarged.clients ▸ onDisk.found, onDisk.proper⟩

end Enlarged

/-! ## Files -/

/-- What is read from is the file that the path leads to. -/
private theorem openReader_readable {bufferSize : UInt64} {input : Nat} (onDisk : storage.OnDisk client directory)
    (ran : openReader client path bufferSize storage = .ok input after) : ∃ place number,
      storage.disk.locate .follow (directory.resolve path).toPath = .ok place ∧
      storage.disk.tree.get? place = some (.file number) ∧ (∃ streams, after = { storage with streams }) ∧
      Readable after input .disk place (storage.disk.fileData number) := by
  obtain ⟨⟨conf, found⟩, -⟩ := onDisk
  rw [openReader_of_disk found] at ran
  split at ran
  · next reader opens =>
    obtain ⟨place, number, arrived, isFile, rfl⟩ := LocalDisk.openReader_found opens
    split at ran
    · contradiction
    · cases ran
      refine ⟨place, number, arrived, isFile, ⟨_, rfl⟩, .disk List.getElem?_concat_length isFile ?_ le_rfl⟩
      simp [DiskReader.rest, DiskReader.ofFile]
  · contradiction

/-- What is written to is a new file, which the path leads to. -/
private theorem createWriter_writable {options : CreateOptions} {output : Nat}
    (onDisk : storage.OnDisk client directory) (orderly : storage.disk.Orderly) (keeps : options.overwrite = false)
    (ran : createWriter client path options storage = .ok output after) : ∃ place,
      Arose (directory.resolve path) place storage.disk after.disk ∧ Writable after output .disk place [] ∧
      after.clients = storage.clients ∧
      ∀ other < storage.streams.length, after.streams[other]? = storage.streams[other]? := by
  obtain ⟨⟨conf, found⟩, proper⟩ := onDisk
  rw [createWriter_of_disk found] at ran
  split at ran
  · next writer disk creates =>
    obtain ⟨place, number, arose, begun, rfl⟩ :=
      LocalDisk.createWriter_arose orderly (Location.proper_resolve proper path) keeps creates
    split at ran
    · contradiction
    · cases ran
      have isFile : disk.tree.get? place = some (.file number) := (begun.named place).mpr rfl
      have empty : disk.fileData number = [] := by
        obtain ⟨other, there, data⟩ := look_eq_file_iff.mp begun.empty
        obtain rfl : number = other := by simpa [isFile] using there
        exact data
      refine ⟨place, arose, .disk List.getElem?_concat_length rfl begun.named ?_ ?_, rfl,
        fun other => List.getElem?_append_left⟩
      · exact ⟨by rw [DiskWriter.ofFile, empty]; rfl, arose.orderly.allotted isFile⟩
      · rw [DiskWriter.ofFile, empty]
        rfl
  · contradiction

/-- A file that was copied is found by the path of the target, where nothing was before. -/
theorem copyFile_arose (fromSource : storage.OnDisk sourceClient sourceDirectory)
    (toTarget : storage.OnDisk targetClient targetDirectory) (orderly : storage.disk.Orderly)
    (ran : copyFile sourceClient sourcePath targetClient targetPath conf storage = .ok () after) :
    after.clients = storage.clients ∧ ∃ place bytes,
      storage.disk.shown (sourceDirectory.resolve sourcePath) = some (.file bytes) ∧
      Arose (targetDirectory.resolve targetPath) place storage.disk after.disk ∧
      after.disk.look place = some (.file bytes) := by
  obtain ⟨input, opened, opens, ran⟩ := ok_of_bind ran
  obtain ⟨origin, number, arrived, isFile, ⟨streams, rfl⟩, readable⟩ := openReader_readable fromSource opens
  obtain ⟨replication, _, asked, ran⟩ := ok_of_bind ran
  obtain rfl := (defaultReplication_leaves targetClient).eq_of_ok asked
  obtain ⟨blockSize, _, asked, ran⟩ := ok_of_bind ran
  obtain rfl := (defaultBlockSize_leaves targetClient).eq_of_ok asked
  obtain ⟨output, created, creates, ran⟩ := ok_of_bind ran
  have toTarget : OnDisk { storage with streams } targetClient targetDirectory := ⟨toTarget.found, toTarget.proper⟩
  obtain ⟨place, arose, writable, clients, others⟩ := createWriter_writable toTarget orderly rfl creates
  have seen : storage.disk.look origin = some (.file (storage.disk.fileData number)) :=
    look_eq_file_iff.mpr ⟨number, isFile, rfl⟩
  have apart : Device.disk = Device.disk → origin ≠ place := by
    rintro - rfl
    cases arose.vacant.symm.trans seen
  have readable : Readable created input .disk origin (storage.disk.fileData number) :=
    readable.frame (others input readable.lt) arose.enriched.kept arose.enriched.numbers
  obtain ⟨closed, inner, rfl⟩ := ok_of_endingWith ran
  obtain ⟨_, _, asked, inner⟩ := ok_of_bind inner
  obtain rfl := (checkBuffer_leaves _).eq_of_ok asked
  have positive : 0 < max conf.bufferSize.toNat 1 := by omega
  have transferred := transfer_ends positive apart readable writable
  rw [inner] at transferred
  obtain ⟨pumped, pumping, closing⟩ := transferred
  obtain ⟨streams, dropped⟩ := closing.dropped
  have besides := pumping.trans (closing.besides.trans (.refl _ _ closed streams))
  have isLast : FileGateway.ended (dropStream output closed) = { closed with streams } := by rw [dropped]; rfl
  rw [isLast]
  refine ⟨besides.clients.trans clients, place, _, shown_eq_some_iff.mpr ⟨origin, arrived, seen⟩, ?_, closing.content⟩
  exact arose.fill (Location.proper_resolve toTarget.proper targetPath) besides.tree besides.count besides.look

/-! ## Trees -/

/-- Whatever file could be found below one place is found below another. -/
def Duplicated (origin goal : Location) (before after : Disk) : Prop :=
  ∀ suffix bytes, suffix.Proper → before.shown (origin ++ suffix) = some (.file bytes) →
    after.shown (goal ++ suffix) = some (.file bytes)

/-- What is found later is found below what is copied later. -/
private theorem Duplicated.widen {first made copied last : Disk} (duplicated : Duplicated origin goal made copied)
    (properOrigin : origin.Proper) (properGoal : goal.Proper) (earlier : Enriched first made)
    (later : Enriched copied last) : Duplicated origin goal first last := by
  intro suffix bytes proper seen
  have found := earlier.shown (Location.proper_append.mpr ⟨properOrigin, proper⟩) seen
  exact later.shown (Location.proper_append.mpr ⟨properGoal, proper⟩) (duplicated suffix bytes proper found)

/-- The turns of a loop come one after the other, each with what it does to its entry. -/
private theorem turns_enlarged (does : α → Storage → Storage → Prop) {entries : List α}
    {turn : α → PUnit → Action (ForInStep PUnit)}
    (turns : ∀ entry ∈ entries, ∀ middle, Enlarged storage middle → ∀ outcome later,
      turn entry .unit middle = .ok outcome later →
        outcome = .yield .unit ∧ Enlarged middle later ∧ does entry middle later)
    (ran : (forIn entries PUnit.unit turn : Action PUnit) storage = .ok .unit after) :
    Enlarged storage after ∧ ∀ entry ∈ entries, ∃ middle later,
      Enlarged storage middle ∧ does entry middle later ∧ Enlarged later after := by
  induction entries generalizing storage with
  | nil =>
    cases ran
    exact ⟨.refl _, by simp⟩
  | cons first rest ih =>
    rw [List.forIn_cons] at ran
    obtain ⟨outcome, middle, turned, ran⟩ := ok_of_bind ran
    obtain ⟨rfl, enlarged, done⟩ := turns first List.mem_cons_self storage (.refl _) outcome middle turned
    obtain ⟨onward, others⟩ := ih (fun entry member between reached => turns entry (List.mem_cons_of_mem _ member)
      between (enlarged.trans reached)) ran
    refine ⟨enlarged.trans onward, fun entry member => ?_⟩
    rcases List.mem_cons.mp member with rfl | inRest
    · exact ⟨storage, middle, .refl _, done, onward⟩
    · obtain ⟨between, later, reached, does, left⟩ := others entry inRest
      exact ⟨between, later, enlarged.trans reached, does, left⟩

/-- What a copy of a tree that answers has done. -/
structure Doubled (origin goal : Location) (before after : Storage) : Prop extends Enlarged before after where
  duplicated : Duplicated origin goal before.disk after.disk
  present : before.disk.shown origin ≠ none
  landed : before.disk.shown goal = none → ∃ place, Landed goal place before.disk after.disk

/-- A file by itself. -/
private theorem copyFile_doubled (fromSource : storage.OnDisk sourceClient sourceDirectory)
    (toTarget : storage.OnDisk targetClient targetDirectory) (orderly : storage.disk.Orderly)
    (ran : copyFile sourceClient sourcePath targetClient targetPath conf storage = .ok () after) :
    Doubled (sourceDirectory.resolve sourcePath) (targetDirectory.resolve targetPath) storage after := by
  obtain ⟨clients, place, bytes, seen, arose, content⟩ := copyFile_arose fromSource toTarget orderly ran
  have properOrigin := Location.proper_resolve fromSource.proper sourcePath
  refine ⟨⟨clients, fun _ => arose.orderly, arose.enriched⟩, fun suffix other proper found => ?_, by simp [seen],
    fun _ => ⟨place, arose.toLanded⟩⟩
  by_cases below : suffix = []
  · subst below
    rw [List.append_nil] at found ⊢
    obtain rfl : bytes = other := by simpa [seen] using found
    exact shown_eq_some_iff.mpr ⟨place, arose.arrived, content⟩
  · have above := directory_of_shown (Location.proper_append.mpr ⟨properOrigin, proper⟩) below found
    cases above.symm.trans seen

private theorem createDirectories_madeAt (onDisk : storage.OnDisk client directory) (orderly : storage.disk.Orderly)
    (ran : createDirectories client path storage = .ok () after) :
    after.clients = storage.clients ∧ MadeAt (directory.resolve path) storage.disk after.disk := by
  obtain ⟨⟨conf, found⟩, proper⟩ := onDisk
  rw [createDirectories_of_disk found] at ran
  obtain ⟨done, rfl⟩ := ok_of_answerOf ran
  exact ⟨rfl, LocalDisk.createDirectories_made orderly (Location.proper_resolve proper path) (Prod.ext done rfl)⟩

/-- What is found below a directory is found below one of its entries. -/
private theorem named_of_shown {disk : Disk} {place suffix : Location} {name : Name} {node : Occupant}
    (proper : Location.Proper (origin ++ name :: suffix)) (arrived : disk.locate .follow origin.toPath = .ok place)
    (seen : disk.shown (origin ++ name :: suffix) = some node) :
    ∃ entry, disk.tree.get? (place ++ [name]) = some entry := by
  have split : origin ++ name :: suffix = origin ++ [name] ++ suffix := by simp
  rw [split] at proper seen
  obtain ⟨other, isEntry⟩ : ∃ other, disk.shown (origin ++ [name]) = some other := by
    by_cases last : suffix = []
    · exact ⟨node, by simpa [last] using seen⟩
    · exact ⟨_, directory_of_shown proper last seen⟩
  obtain ⟨query, reached, there⟩ := shown_eq_some_iff.mp isEntry
  obtain ⟨holder, inHolder, -, -, onward⟩ := locate_concat_ok (proper.of_prefix (List.prefix_append ..)) reached
  obtain rfl := Except.ok.inj (inHolder.symm.trans arrived)
  refine Option.ne_none_iff_exists'.mp fun free => ?_
  have vacant := look_eq_none_iff.mpr free
  rcases onward with rfl | ⟨-, target, isLink⟩
  · simp [vacant] at there
  · simp [vacant] at isLink

/-- What copying with so many levels does, whatever is copied. -/
def DoublesTrees (sourceClient targetClient : Nat) (conf : Configuration) (sourceDirectory targetDirectory : Location)
    (levels : Nat) : Prop :=
  ∀ {storage after : Storage} {sourcePath targetPath : Path}, storage.OnDisk sourceClient sourceDirectory →
    storage.OnDisk targetClient targetDirectory → storage.disk.Orderly →
    copyTree sourceClient targetClient conf levels sourcePath targetPath storage = .ok () after →
    Doubled (sourceDirectory.resolve sourcePath) (targetDirectory.resolve targetPath) storage after

private theorem fileName_entry {name : Name} (proper : Location.Proper (origin ++ [name])) :
    (Location.toPath (origin ++ [name])).fileName? = some name := by
  rw [Location.fileName?_toPath proper, List.getLast?_concat]

/-- What a turn of the loop over a directory does to an entry: it copies what is below its name. -/
private def EntryCopied (origin goal : Location) (entry : FileStatus) (before after : Storage) : Prop :=
  ∀ name, entry.path.fileName? = some name →
    Duplicated (origin ++ [name]) (goal ++ [name]) before.disk after.disk

section Levels

variable {levels : Nat} (copies : DoublesTrees sourceClient targetClient conf sourceDirectory targetDirectory levels)
include copies

private theorem entry_doubled {name : Name} (fromSource : storage.OnDisk sourceClient sourceDirectory)
    (toTarget : storage.OnDisk targetClient targetDirectory) (orderly : storage.disk.Orderly)
    (proper : Location.Proper (origin ++ [name]))
    (ran : copyTree sourceClient targetClient conf levels (Location.toPath (origin ++ [name]))
      (targetPath.join ⟨name⟩) storage = .ok () after) :
    Doubled (origin ++ [name]) (targetDirectory.resolve targetPath ++ [name]) storage after := by
  have doubled := copies fromSource toTarget orderly ran
  rwa [Location.resolve_toPath sourceDirectory proper,
    Location.resolve_join_name _ _ (proper name (by simp))] at doubled

private theorem turn_copied {name : Name} {entry : FileStatus} {outcome : ForInStep PUnit}
    (fromSource : storage.OnDisk sourceClient sourceDirectory)
    (toTarget : storage.OnDisk targetClient targetDirectory) (orderly : storage.disk.Orderly)
    (proper : Location.Proper (origin ++ [name])) (itsPath : entry.path = Location.toPath (origin ++ [name]))
    (turned : (match entry.path.fileName? with
      | some name => do
        copyTree sourceClient targetClient conf levels entry.path (targetPath.join ⟨name⟩)
        pure (.yield .unit)
      | none => pure (.yield .unit) : Action (ForInStep PUnit)) storage = .ok outcome after) :
    outcome = .yield .unit ∧ Enlarged storage after ∧
      EntryCopied origin (targetDirectory.resolve targetPath) entry storage after := by
  have isName : entry.path.fileName? = some name := itsPath ▸ fileName_entry proper
  rw [isName, itsPath] at turned
  obtain ⟨_, copied, tree, turned⟩ := ok_of_bind turned
  cases turned
  have doubled := entry_doubled copies fromSource toTarget orderly proper tree
  refine ⟨rfl, doubled.toEnlarged, fun other same => ?_⟩
  obtain rfl := Option.some.inj (isName.symm.trans same)
  exact doubled.duplicated

/-- A directory: its entries are copied one after the other into a directory that is there or is made. -/
private theorem directory_doubled (fromSource : storage.OnDisk sourceClient sourceDirectory)
    (toTarget : storage.OnDisk targetClient targetDirectory) (orderly : storage.disk.Orderly) {place : Location}
    {named : List (Name × DiskEntry)} {record : Name × DiskEntry → FileStatus}
    (arrived : storage.disk.locate .follow (sourceDirectory.resolve sourcePath).toPath = .ok place)
    (isDirectory : storage.disk.look place = some .directory)
    (members : ∀ name entry, (name, entry) ∈ named ↔ storage.disk.tree.get? (place ++ [name]) = some entry)
    (paths : ∀ entry, (record entry).path = Location.toPath (sourceDirectory.resolve sourcePath ++ [entry.1]))
    (ran : (do
        createDirectories targetClient targetPath
        for entry in named.map record do
          match entry.path.fileName? with
          | some name => copyTree sourceClient targetClient conf levels entry.path (targetPath.join ⟨name⟩)
          | none => pure () : Action Unit) storage = .ok () after) :
    Doubled (sourceDirectory.resolve sourcePath) (targetDirectory.resolve targetPath) storage after := by
  have properOrigin := Location.proper_resolve fromSource.proper sourcePath
  have properGoal := Location.proper_resolve toTarget.proper targetPath
  have here : storage.disk.shown (sourceDirectory.resolve sourcePath) = some .directory :=
    shown_eq_some_iff.mpr ⟨place, arrived, isDirectory⟩
  have properEntry {name : Name} {entry : DiskEntry} (member : (name, entry) ∈ named) :
      Location.Proper (sourceDirectory.resolve sourcePath ++ [name]) :=
    orderly.proper_entry properOrigin ((members name entry).mp member)
  obtain ⟨_, made, creates, ran⟩ := ok_of_bind ran
  obtain ⟨clients, madeAt⟩ := createDirectories_madeAt toTarget orderly creates
  have making : Enlarged storage made := ⟨clients, madeAt.orderly, madeAt.enriched⟩
  obtain ⟨_, last, loop, ran⟩ := ok_of_bind ran
  cases ran
  -- the records are those of the listing before the loop; each turn works on a disk that has grown since
  obtain ⟨copying, each⟩ := turns_enlarged _ (fun entry member middle reached outcome later turned => by
    obtain ⟨⟨name, node⟩, isNamed, rfl⟩ := List.mem_map.mp member
    have enlarged := making.trans reached
    exact turn_copied copies (enlarged.onDisk fromSource) (enlarged.onDisk toTarget) (enlarged.orderly orderly)
      (properEntry isNamed) (paths _) turned) loop
  refine ⟨making.trans copying, fun suffix bytes proper seen => ?_, by simp [here], fun unseen => ?_⟩
  · cases suffix with
    | nil =>
      rw [List.append_nil, here] at seen
      cases seen
    | cons name rest =>
      obtain ⟨entry, standing⟩ := named_of_shown (Location.proper_append.mpr ⟨properOrigin, proper⟩) arrived seen
      have member := (members name entry).mpr standing
      obtain ⟨between, later, reached, copied, left⟩ := each _ (List.mem_map_of_mem member)
      have duplicated := (copied name (paths _ ▸ fileName_entry (properEntry member))).widen (properEntry member)
        (Location.proper_append.mpr ⟨properGoal, (Location.proper_append.mp (properEntry member)).2⟩)
        (making.trans reached).enriched left.enriched
      have found := duplicated rest bytes (fun other inRest => proper other (List.mem_cons_of_mem _ inRest))
      simp only [List.append_assoc, List.singleton_append] at found
      exact found seen
  · cases madeAt with
    | standing same seen => cases unseen.symm.trans seen
    | made goal arose => exact ⟨goal, arose.toLanded.trans properGoal copying.enriched⟩

/-- With one more level directories are copied whose entries the levels below copy. -/
private theorem doublesTrees_succ :
    DoublesTrees sourceClient targetClient conf sourceDirectory targetDirectory (levels + 1) := by
  intro storage after sourcePath targetPath fromSource toTarget orderly ran
  rw [copyTree] at ran
  obtain ⟨status, _, known, ran⟩ := ok_of_bind ran
  obtain rfl := (status_leaves sourceClient sourcePath).eq_of_ok known
  by_cases isDirectory : status.isDirectory = true
  · rw [if_pos isDirectory] at ran
    obtain ⟨entries, _, listed, ran⟩ := ok_of_bind ran
    obtain rfl := (list_leaves sourceClient sourcePath).eq_of_ok listed
    obtain ⟨own, found⟩ := fromSource.found
    rw [status_of_disk found] at known
    rw [list_of_disk found] at listed
    rcases LocalDisk.list_cases (ok_of_answerOf listed).1 with
      ⟨record, -, isFile, -, same⟩ | ⟨place, named, arrived, there, -, members, rfl⟩
    · obtain rfl := Except.ok.inj (same.symm.trans (ok_of_answerOf known).1)
      simp [FileStatus.isDirectory, isFile] at isDirectory
    · exact directory_doubled copies fromSource toTarget orderly arrived there members
        (fun entry => LocalDisk.fileStatus_path own _ _) ran
  · rw [if_neg isDirectory] at ran
    exact copyFile_doubled fromSource toTarget orderly ran

end Levels

/-- Whatever the levels, what a copy of a tree that answers found is found below its target. -/
theorem doublesTrees (sourceClient targetClient : Nat) (conf : Configuration)
    (sourceDirectory targetDirectory : Location) (levels : Nat) :
    DoublesTrees sourceClient targetClient conf sourceDirectory targetDirectory levels := by
  induction levels with
  | zero => exact fun _ _ _ ran => nomatch ran
  | succ levels ih => exact doublesTrees_succ ih

end FileGateway.Storage
