import FileGateway.Proofs.Disk.Local

/-! # What goes on through every call on a disk

Files are known by number, so what happens to names, links and directories leaves the contents of every file as
they were: only the one file that a call writes to changes. Numbers are never given out twice, every named file
has its contents, and the process stands in a proper place, wherever links lead. `Continued` says so of two
disks, and every call of the system and of a local client goes from one disk to another that continues it.
-/

namespace FileGateway

open FileGateway.Path

/-! ## Walks -/

namespace Step

/-- A name on the way is one that can stand in a location. -/
def Proper (step : Step) : Prop := ∀ name, step = .enter name → Location.ProperName name

/-- Whatever the bytes of a path or of the target of a link, its steps are proper. -/
theorem proper_of_mem_ofBytes {bytes : Bytes} {step : Step} (member : step ∈ ofBytes bytes) : step.Proper := by
  rintro name rfl
  have entered : .enter name ∈ ((segments bytes).filter (· ≠ [])).map ofSegment := by
    rw [ofBytes] at member
    split at member
    · simpa using member
    · exact member
  obtain ⟨segment, inside, stands⟩ := List.mem_map.mp entered
  obtain ⟨inSegments, nonempty⟩ := List.mem_filter.mp inside
  rw [ofSegment] at stands
  split_ifs at stands with current parent
  obtain rfl := Step.enter.inj stands
  exact ⟨of_decide_eq_true nonempty, slash_notMem_of_mem_segments inSegments, current, parent⟩

end Step

/-- A stride that stays in proper places, with proper steps left. -/
def Stride.Proper : Stride → Prop
  | .arrived location => location.Proper
  | .redirected directory _ rest => directory.Proper ∧ ∀ step ∈ rest, step.Proper

namespace Disk

variable {disk before middle after : Disk} {ending : Ending} {here location : Location} {steps : List Step}
  {path : Path} {now : Int} {written : Option Nat} {number : Nat}

private theorem stride_proper {stride : Stride} (proper : here.Proper) (properSteps : ∀ step ∈ steps, step.Proper)
    (went : disk.stride ending here steps = .ok stride) : stride.Proper := by
  induction steps generalizing here with
  | nil =>
    obtain rfl := Except.ok.inj went
    exact proper
  | cons step rest ih =>
    have properRest : ∀ step ∈ rest, step.Proper := fun step member => properSteps step (List.mem_cons_of_mem _ member)
    rw [Disk.stride.eq_def] at went
    simp only at went
    split at went
    · contradiction
    · contradiction
    · contradiction
    · split at went
      · exact ih proper properRest went
      · exact ih proper properRest went
      · exact ih (proper.of_prefix (List.dropLast_prefix here)) properRest went
      · next name =>
        have entered : Location.Proper (here ++ [name]) := Location.proper_append.mpr
          ⟨proper, by simpa [Location.Proper] using properSteps _ (List.mem_cons_self ..) name rfl⟩
        split at went
        · contradiction
        split at went
        · contradiction
        split at went
        · split at went
          · obtain rfl := Except.ok.inj went
            exact entered
          · obtain rfl := Except.ok.inj went
            exact ⟨proper, properRest⟩
        · exact ih entered properRest went

/-- Wherever links lead, a walk from a proper place arrives at a proper place. -/
theorem walk_proper {links : Nat} {here : Location} {steps : List Step} (proper : here.Proper)
    (properSteps : ∀ step ∈ steps, step.Proper) (arrived : disk.walk ending links here steps = .ok location) :
    location.Proper := by
  rw [walk.eq_def] at arrived
  rcases went : disk.stride ending here steps with error | reached | ⟨directory, target, rest⟩ <;>
    simp only [went] at arrived
  · contradiction
  · obtain rfl := Except.ok.inj arrived
    exact stride_proper proper properSteps went
  · obtain ⟨inProper, properRest⟩ := stride_proper proper properSteps went
    cases links with
    | zero => contradiction
    | succ links =>
      refine walk_proper ?_ (fun step member => ?_) arrived
      · split
        · exact Location.proper_root
        · exact inProper
      · rcases List.mem_append.mp member with ofTarget | ofRest
        · exact Step.proper_of_mem_ofBytes ofTarget
        · exact properRest step ofRest

/-- The process stands in a proper place. -/
def Stands (disk : Disk) : Prop := ∀ place, disk.workingDirectory = some place → place.Proper

theorem Stands.locate (stands : disk.Stands) (arrived : disk.locate ending path = .ok location) :
    location.Proper := by
  rw [Disk.locate] at arrived
  split at arrived
  · contradiction
  split at arrived
  · contradiction
  split at arrived
  · contradiction
  simp only at arrived
  split at arrived
  · contradiction
  · next start begins =>
    refine walk_proper ?_ (fun step member => Step.proper_of_mem_ofBytes member) arrived
    split_ifs at begins with absolute
    · obtain rfl := Option.some.inj begins
      exact Location.proper_root
    · exact stands start begins

/-! ## Continuing -/

/-- Every name of a file has its contents. -/
def Allotted (disk : Disk) : Prop :=
  ∀ ⦃place number⦄, disk.tree.get? place = some (.file number) → number < disk.files.length

/-- Files keep their numbers and all but one their contents; names and the process are in order if they were. -/
structure Continued (written : Option Nat) (before after : Disk) : Prop where
  count : before.files.length ≤ after.files.length
  fileData : ∀ {number}, number < before.files.length → written ≠ some number →
    after.fileData number = before.fileData number
  allotted : before.Allotted → after.Allotted
  stands : before.Stands → after.Stands

namespace Continued

protected theorem refl (written : Option Nat) (disk : Disk) : Continued written disk disk :=
  ⟨le_rfl, fun _ _ => rfl, id, id⟩

protected theorem trans (first : Continued written before middle) (second : Continued written middle after) :
    Continued written before after where
  count := first.count.trans second.count
  fileData known apart :=
    (second.fileData (known.trans_le first.count) apart).trans (first.fileData known apart)
  allotted := second.allotted ∘ first.allotted
  stands := second.stands ∘ first.stands

/-- What writes to no file may as well be allowed to. -/
theorem weaken (continued : Continued none before after) (written : Option Nat) : Continued written before after where
  count := continued.count
  fileData known _ := continued.fileData known (by simp)
  allotted := continued.allotted
  stands := continued.stands

/-- Only names and the place of the process have changed, and no file got a name that had none. -/
theorem of_names (files : after.files = before.files)
    (names : ∀ {place number}, after.tree.get? place = some (.file number) →
      ∃ origin, before.tree.get? origin = some (.file number))
    (stands : before.Stands → after.Stands) : Continued none before after where
  count := files ▸ le_rfl
  fileData _ _ := by rw [Disk.fileData, Disk.fileData, files]
  allotted allotted _ _ named := by
    obtain ⟨origin, was⟩ := names named
    rw [files]
    exact allotted was
  stands := stands

end Continued

/-! ## Calls of the system -/

@[simp] theorem stamp_workingDirectory (disk : Disk) (now : Int) (directory : Location) :
    (disk.stamp now directory).workingDirectory = disk.workingDirectory := by
  rcases stamp_cases disk now directory with same | ⟨_, _, same⟩ <;> rw [same]

theorem stamp_continued (disk : Disk) (now : Int) (directory : Location) :
    Continued none disk (disk.stamp now directory) :=
  .of_names (stamp_files ..) (fun named => ⟨_, stamp_number.mp named⟩)
    fun stands place isPlace => stands place (stamp_workingDirectory disk now directory ▸ isPlace)

theorem place_continued {entry : DiskEntry} (disk : Disk) (now : Int) (location : Location)
    (notFile : ∀ number, entry ≠ .file number) : Continued none disk (disk.place now location entry) := by
  refine .of_names (place_files ..) (fun {query number} named => ?_) fun stands place isPlace => ?_
  · rw [place_number] at named
    split at named
    · exact absurd named (notFile number)
    · exact ⟨query, named⟩
  · rw [Disk.place, stamp_workingDirectory] at isPlace
    exact stands place isPlace

theorem makeDirectory_continued (made : disk.makeDirectory now path = .ok after) : Continued none disk after := by
  rw [makeDirectory, addEntry] at made
  split at made
  · contradiction
  · split at made
    · contradiction
    · obtain rfl := Except.ok.inj made
      exact place_continued disk now _ (by simp)

/-- Also when it fails half way. -/
theorem makeDirectories_continued (disk : Disk) (now : Int) (location : Location) :
    Continued none disk (disk.makeDirectories now location).2 := by
  rw [makeDirectories]
  generalize location.ancestors.reverse = places
  induction places generalizing disk with
  | nil => exact .refl none disk
  | cons place above ih =>
    rw [makeFirst]
    split
    · exact .refl none disk
    · split
      · next made => exact makeDirectory_continued made
      · split
        · have ahead := ih disk
          rcases ran : makeFirst now above disk with ⟨_ | _, middle⟩ <;> rw [ran] at ahead <;> simp only
          · exact ahead
          · split
            · next made => exact ahead.trans (makeDirectory_continued made)
            · exact ahead
        · exact .refl none disk

/-- A name has gone, or a place with everything below it. -/
private theorem removed_continued {tree : Tree DiskEntry} {workingDirectory : Option Location}
    (fewer : ∀ {place entry}, tree.get? place = some entry → disk.tree.get? place = some entry)
    (stays : ∀ {place}, workingDirectory = some place → disk.workingDirectory = some place) (directory : Location) :
    Continued none disk ({ disk with tree, workingDirectory }.stamp now directory) := by
  have gone : Continued none disk { disk with tree, workingDirectory } :=
    .of_names rfl (fun named => ⟨_, fewer named⟩) fun stands _ isPlace => stands _ (stays isPlace)
  exact gone.trans (stamp_continued ..)

theorem removeName_continued (removed : disk.removeName now path = .ok after) : Continued none disk after := by
  rw [removeName] at removed
  split at removed
  · contradiction
  · contradiction
  · obtain rfl := Except.ok.inj removed
    refine removed_continued (fun found => ?_) id _
    rw [SortedMap.get?_erase] at found
    split at found
    · contradiction
    · exact found

theorem removeTree_continued (removed : disk.removeTree now path = .ok after) : Continued none disk after := by
  rw [removeTree] at removed
  split at removed
  · contradiction
  · exact removeName_continued removed
  · contradiction
  · split at removed
    · contradiction
    · obtain rfl := Except.ok.inj removed
      refine removed_continued (fun found => ?_) (fun isPlace => ?_) _
      · rw [Tree.get?_prune] at found
        split at found
        · contradiction
        · exact found
      · exact (Option.filter_eq_some_iff.mp isPlace).1

/-- What stands in a grafted tree stood in it before. -/
private theorem exists_of_graft {tree : Tree DiskEntry} {source target query : Location} {entry : DiskEntry}
    (found : (tree.graft source target).get? query = some entry) : ∃ origin, tree.get? origin = some entry := by
  rw [Tree.graft] at found
  generalize (tree.descendants source).map (·.1) = places at found
  induction places generalizing tree with
  | nil => exact ⟨query, found⟩
  | cons place rest ih =>
    obtain ⟨middle, moved⟩ := ih found
    rw [Tree.moveEntry] at moved
    split at moved
    · next moving isMoving =>
      rw [SortedMap.get?_insert, SortedMap.get?_erase] at moved
      split_ifs at moved
      · exact ⟨place, moved ▸ isMoving⟩
      · exact ⟨middle, moved⟩
    · exact ⟨middle, moved⟩

private theorem rehome_continued {source target : Location} (disk : Disk) (now : Int)
    (proper : disk.Stands → target.Proper) : Continued none disk (disk.rehome now source target) := by
  let moved : Disk := { disk with
    tree := Tree.graft (disk.tree.erase target) source target
    workingDirectory := (withoutPlace target disk.workingDirectory).map (movedPlace source target) }
  have gone : Continued none disk moved := by
    refine .of_names rfl (fun named => ?_) fun stands place isPlace => ?_
    · obtain ⟨origin, was⟩ := exists_of_graft named
      rw [SortedMap.get?_erase] at was
      split at was
      · contradiction
      · exact ⟨origin, was⟩
    · obtain ⟨start, kept, rfl⟩ := Option.map_eq_some_iff.mp isPlace
      have starts := stands start (Option.filter_eq_some_iff.mp kept).1
      rw [movedPlace]
      split
      · exact Location.proper_append.mpr ⟨proper stands, fun name member => starts name (List.mem_of_mem_drop member)⟩
      · exact starts
  exact (gone.trans (stamp_continued ..)).trans (stamp_continued ..)

theorem move_continued {source target : Path} (moved : disk.move now source target = .ok after) :
    Continued none disk after := by
  rw [move] at moved
  split at moved
  · contradiction
  split at moved
  · contradiction
  next arrived =>
    have rehomed {source : Location} (same : (.ok (disk.rehome now source _) : Except SystemError Disk) = .ok after) :
        Continued none disk after :=
      Except.ok.inj same ▸ rehome_continued disk now fun stands => stands.locate arrived
    split at moved
    · contradiction
    split at moved
    · contradiction
    split at moved
    · obtain rfl := Except.ok.inj moved
      exact .refl none disk
    split at moved
    · contradiction
    split at moved
    · contradiction
    split at moved
    · contradiction
    · contradiction
    · contradiction
    · contradiction
    · split at moved
      · exact rehomed moved
      · contradiction
    · exact rehomed moved

private theorem fileData_set (disk : Disk) {number other : Nat} (file : DiskFile) (apart : number ≠ other) :
    fileData { disk with files := disk.files.set number file } other = disk.fileData other := by
  rw [fileData, fileData, List.getElem?_set_ne apart]

/-- The file that is created is written to, if it was there; a new one has a number of its own. -/
theorem createFile_continued (created : disk.createFile now path = .ok (number, after)) :
    Continued (some number) disk after := by
  rw [createFile] at created
  split at created
  · contradiction
  next location arrived =>
    split at created
    · contradiction
    · contradiction
    · obtain ⟨rfl, rfl⟩ := Prod.mk.inj (Except.ok.inj created)
      refine ⟨by simp, fun _ apart => fileData_set disk _ (by simpa using apart), fun allotted _ _ named => ?_, id⟩
      rw [List.length_set]
      exact allotted named
    · obtain ⟨rfl, rfl⟩ := Prod.mk.inj (Except.ok.inj created)
      refine ⟨by simp, fun known _ => ?_, fun allotted query other named => ?_, fun stands place isPlace => ?_⟩
      · rw [fileData, place_files, List.getElem?_append_left known, fileData]
      · rw [place_files, List.length_append, List.length_singleton]
        rw [place_number] at named
        split at named
        · obtain rfl := DiskEntry.file.inj named
          exact Nat.lt_succ_self _
        · exact Nat.lt_succ_of_lt (allotted named)
      · rw [Disk.place, stamp_workingDirectory] at isPlace
        exact stands place isPlace

/-- A file that is created is empty, whether it was there or not. -/
theorem createFile_empty (allotted : disk.Allotted) (created : disk.createFile now path = .ok (number, after)) :
    number < after.files.length ∧ after.fileData number = [] := by
  rw [createFile] at created
  split at created
  · contradiction
  next location arrived =>
    split at created
    · contradiction
    · contradiction
    · next found =>
      obtain ⟨rfl, rfl⟩ := Prod.mk.inj (Except.ok.inj created)
      have bound := allotted found
      exact ⟨by simpa using bound, by rw [fileData, List.getElem?_set_self bound]; rfl⟩
    · obtain ⟨rfl, rfl⟩ := Prod.mk.inj (Except.ok.inj created)
      rw [fileData, place_files, List.getElem?_concat_length]
      exact ⟨by simp, rfl⟩

theorem writeAt_continued (disk : Disk) (now : Int) (number position : Nat) (data : Bytes) :
    Continued (some number) disk (disk.writeAt now number position data) := by
  rw [writeAt]
  split
  · refine ⟨by simp, fun _ apart => fileData_set disk _ (by simpa using apart), fun allotted _ _ named => ?_, id⟩
    rw [List.length_set]
    exact allotted named
  · exact .refl _ disk

end Disk

/-! ## Calls of a local client -/

namespace LocalDisk

open Disk

variable {disk after : Disk} {location source target : Location} {now : Int}

theorem createDirectories_continued (disk : Disk) (now : Int) (location : Location) :
    Continued none disk (createDirectories disk now location).2 := by
  rw [createDirectories]
  split
  · exact .refl none disk
  · exact makeDirectories_continued disk now location

theorem delete_continued (deleted : delete disk now location = .ok after) : Continued none disk after := by
  simp only [delete, bind, Except.bind] at deleted
  split at deleted
  · contradiction
  · have ran := raising_ok deleted
    split at ran
    · exact removeTree_continued ran
    · exact removeName_continued ran

theorem rename_continued (renamed : rename disk now source target = .ok after) : Continued none disk after := by
  simp only [rename, bind, Except.bind] at renamed
  split at renamed
  · contradiction
  split at renamed
  · contradiction
  · exact move_continued (raising_ok renamed)

theorem prepareParent_continued (disk : Disk) (now : Int) (location : Location) :
    Continued none disk (prepareParent disk now location).2 := by
  rw [prepareParent]
  split
  · exact .refl none disk
  · exact makeDirectories_continued disk now _

/-- The file that a new writer is to write to, if it is created. -/
def created? (outcome : Except Exception DiskWriter) : Option Nat := outcome.toOption.map (·.file)

theorem createWriter_continued (conf : Configuration) (disk : Disk) (now : Int) (location : Location)
    (options : CreateOptions) :
    Continued (created? (createWriter conf disk now location options).1) disk
      (createWriter conf disk now location options).2 := by
  rw [createWriter]
  split
  · exact .refl _ disk
  · have prepared := prepareParent_continued disk now location
    rcases ran : prepareParent disk now location with ⟨_ | _, middle⟩ <;> rw [ran] at prepared <;> simp only
    · exact prepared
    · split
      · exact prepared
      · next made => exact (prepared.weaken _).trans (createFile_continued made)

/-- A new writer is at the beginning of an empty file. -/
theorem createWriter_empty {conf : Configuration} {options : CreateOptions} {writer : DiskWriter}
    (allotted : disk.Allotted) (created : createWriter conf disk now location options = (.ok writer, after)) :
    ∃ number path capacity, writer = .ofFile number path capacity ∧
      number < after.files.length ∧ after.fileData number = [] := by
  rw [createWriter] at created
  split at created
  · simp at created
  · have prepared := prepareParent_continued disk now location
    rcases ran : prepareParent disk now location with ⟨_ | _, middle⟩ <;> rw [ran] at prepared created <;>
      simp only at created
    · simp at created
    · split at created
      · simp at created
      · next made =>
        obtain ⟨same, rfl⟩ := Prod.mk.inj created
        obtain rfl := Except.ok.inj same
        exact ⟨_, _, _, rfl, createFile_empty (prepared.allotted allotted) made⟩

end LocalDisk

end FileGateway
