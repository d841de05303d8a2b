import FileGateway.Proofs.Disk.Linked
import FileGateway.Proofs.Storage.Actions

/-! # Renaming on a disk with links

Before a local client renames, it asks whether the new path is in use, and that question follows links and takes
every error for a no. The call that renames looks at the last names alone and replaces what it finds under the new
one. So a link that leads nowhere is in nobody's way: a file or a link that is renamed to its path takes its place.
Nothing else is ever lost, and a rename that fails changes nothing.
-/

namespace FileGateway

namespace Disk

variable {disk after : Disk} {now : Int} {source target query : Location}

/-! ## Moving an entry -/

/-- What a place holds after everything at and below one place has gone to another. -/
def relocated (tree : Tree DiskEntry) (source target query : Location) : Option DiskEntry :=
  if target <+: query then tree.get? (source ++ query.drop target.length)
  else if source <+: query then none
  else tree.get? query

/-- Everything at and below one place is at and below another instead, and nothing else has changed but the times
of the two directories in which a name was taken away or set, and the place of the process if that was moved. -/
structure Renamed (source target : Location) (before after : Disk) : Prop where
  entries : ∀ query, after.tree.get? query = relocated before.tree source target query ∨
    (query = source.dropLast ∨ query = target.dropLast) ∧ ∃ modified changed,
      relocated before.tree source target query = some (.directory modified) ∧
      after.tree.get? query = some (.directory changed)
  rest : ∃ tree, after = { before with
    tree, workingDirectory := (withoutPlace target before.workingDirectory).map (movedPlace source target) }

theorem stamp_get? (disk : Disk) (now : Int) (directory query : Location) :
    (disk.stamp now directory).tree.get? query = disk.tree.get? query ∨
      query = directory ∧ ∃ modified, disk.tree.get? query = some (.directory modified) ∧
        (disk.stamp now directory).tree.get? query = some (.directory now) := by
  rcases stamp_cases disk now directory with same | ⟨modified, found, same⟩
  · exact .inl (by rw [same])
  · rw [same, SortedMap.get?_insert]
    split
    · next atDirectory => exact .inr ⟨atDirectory, modified, atDirectory ▸ found, rfl⟩
    · exact .inl rfl

theorem stamp_rest (disk : Disk) (now : Int) (directory : Location) :
    ∃ tree, disk.stamp now directory = { disk with tree } := by
  rcases stamp_cases disk now directory with same | ⟨modified, found, same⟩
  · exact ⟨disk.tree, same⟩
  · exact ⟨_, same⟩

/-- Nothing but the entry at the target, if there is one, makes way. -/
private theorem rehome_renamed (notBelow : ¬source <+: target)
    (empty : ∀ query, target <+: query → query ≠ target → disk.tree.get? query = none) (now : Int) :
    Renamed source target disk (disk.rehome now source target) := by
  have free (query : Location) (within : target <+: query) : (disk.tree.erase target).get? query = none := by
    rw [SortedMap.get?_erase]
    split
    · rfl
    · next different => exact empty query within different
  have shape (query : Location) :
      (Tree.graft (disk.tree.erase target) source target).get? query = relocated disk.tree source target query := by
    rw [Tree.get?_graft _ notBelow free, relocated]
    split
    · rw [SortedMap.get?_erase, if_neg fun same => notBelow ⟨_, same⟩]
    · next outside =>
      have different : query ≠ target := fun same => outside (same ▸ List.prefix_rfl)
      rw [SortedMap.get?_erase, if_neg different]
  rw [rehome]
  generalize moving : ({ disk with
    tree := Tree.graft (disk.tree.erase target) source target
    workingDirectory := (withoutPlace target disk.workingDirectory).map (movedPlace source target) } : Disk) = moved
  have entry (query : Location) : moved.tree.get? query = relocated disk.tree source target query := by
    rw [← moving, shape]
  refine ⟨fun query => ?_, ?_⟩
  · rcases stamp_get? (moved.stamp now source.dropLast) now target.dropLast query with
      same | ⟨atTarget, modified, found, stamped⟩
    · rw [same]
      rcases stamp_get? moved now source.dropLast query with same | ⟨atSource, modified, found, stamped⟩
      · exact .inl (same.trans (entry query))
      · exact .inr ⟨.inl atSource, modified, now, entry query ▸ found, stamped⟩
    · rcases stamp_get? moved now source.dropLast query with same | ⟨-, former, standing, -⟩
      · exact .inr ⟨.inr atTarget, modified, now, by rw [← entry query, ← same, found], stamped⟩
      · exact .inr ⟨.inr atTarget, former, now, by rw [← entry query, standing], stamped⟩
  · obtain ⟨first, isFirst⟩ := stamp_rest moved now source.dropLast
    obtain ⟨last, isLast⟩ := stamp_rest (moved.stamp now source.dropLast) now target.dropLast
    exact ⟨last, by rw [isLast, isFirst, ← moving]⟩

/-- What a move does to a place where nothing stands or a link. -/
private theorem move_eq (orderly : disk.Orderly) (now : Int) {origin goal : Path}
    (atSource : disk.locate .keep origin = .ok source) (atTarget : disk.locate .keep goal = .ok target)
    (occupied : disk.look source ≠ none)
    (unseen : disk.look target = none ∨ ∃ link, disk.look target = some (.link link)) :
    disk.move now origin goal =
      if source = .root then .error .busy
      else if source = target then .ok disk
      else if source <+: target then .error .invalidArgument
      else if disk.look target ≠ none ∧ disk.look source = some .directory then .error .notADirectory
      else .ok (disk.rehome now source target) := by
  have noDirectory : disk.look target ≠ some .directory := by
    rcases unseen with free | ⟨link, isLink⟩ <;> simp [*]
  have notRoot : target ≠ .root := fun atRoot => noDirectory (atRoot ▸ orderly.hierarchy.root)
  obtain ⟨moving, present⟩ : ∃ moving, disk.tree.get? source = some moving :=
    Option.ne_none_iff_exists'.mp fun none => occupied (look_eq_none_iff.mpr none)
  rw [move, atSource, atTarget]
  simp only [notRoot, or_false, present]
  by_cases root : source = .root
  · rw [if_pos root, if_pos root]
  by_cases same : source = target
  · rw [if_neg root, if_neg root, if_pos same, if_pos same]
  have notAbove : ¬source.isWithin target = true := fun within =>
    occupied (orderly.hierarchy.none_below noDirectory (Location.isWithin_iff.mp within) (Ne.symm same))
  simp only [if_neg root, if_neg same]
  by_cases below : source <+: target
  · rw [if_pos (Location.isWithin_iff.mpr below), if_pos below]
  rw [if_neg fun within => below (Location.isWithin_iff.mp within), if_neg below, if_neg notAbove]
  have seen : disk.look source = some .directory ↔ ∃ modified, moving = .directory modified := by
    rw [look_eq_directory_iff, present]
    simp
  rcases unseen with free | ⟨link, isLink⟩
  · have clear : ¬(disk.look target ≠ none ∧ disk.look source = some .directory) := fun both => both.1 free
    rw [look_eq_none_iff.mp free, if_neg clear]
    cases moving <;> rfl
  · obtain ⟨standing, there, isOccupant⟩ := Option.map_eq_some_iff.mp isLink
    cases standing with
    | directory | file => cases isOccupant
    | link text changed =>
      rw [there]
      cases moving <;> simp [seen, isLink]

theorem locate_of_move {origin goal : Path} (done : disk.move now origin goal = .ok after) :
    ∃ source target, disk.locate .keep origin = .ok source ∧ disk.locate .keep goal = .ok target := by
  rw [move] at done
  split at done
  · contradiction
  · next source atSource =>
    split at done
    · contradiction
    · next target atTarget => exact ⟨source, target, atSource, atTarget⟩

end Disk

/-! ## Through a local client -/

namespace LocalDisk

variable {disk after : Disk} {now : Int} {origin goal source target : Location}

theorem metadata_ok_iff : (∃ status, metadata disk origin = .ok status) ↔ disk.shown origin ≠ none := by
  rw [Option.ne_none_iff_exists']
  constructor
  · rintro ⟨status, known⟩
    obtain ⟨node, seen, -⟩ := Disk.status_eq_ok (raising_ok known)
    exact ⟨node, seen⟩
  · rintro ⟨node, seen⟩
    obtain ⟨status, known⟩ := Disk.status_of_shown seen
    exact ⟨status, by rw [metadata, known]; rfl⟩

/-- A rename goes on to the call that moves if the old path leads somewhere and the new one does not. -/
theorem rename_eq_ok_iff : rename disk now origin goal = .ok after ↔
    disk.shown origin ≠ none ∧ disk.shown goal = none ∧ disk.move now origin.toPath goal.toPath = .ok after := by
  have unused : disk.shown goal = none ↔ ¬disk.isPresent goal.toPath = true := by rw [Disk.isPresent_iff, not_not]
  rw [← metadata_ok_iff, unused]
  simp only [rename, bind, Except.bind]
  constructor
  · intro done
    split at done
    · contradiction
    · next status known =>
      split at done
      · contradiction
      · next free => exact ⟨⟨status, known⟩, free, raising_ok done⟩
  · rintro ⟨⟨status, known⟩, free, moved⟩
    rw [known]
    simp only [if_neg free, moved]
    rfl

section Places

variable (orderly : disk.Orderly) (properOrigin : origin.Proper) (properGoal : goal.Proper)
  (atSource : disk.locate .keep origin.toPath = .ok source) (atTarget : disk.locate .keep goal.toPath = .ok target)

/-- What the question whether a path is in use does not see is no entry or a link. -/
private theorem unseen (properGoal : goal.Proper) (atTarget : disk.locate .keep goal.toPath = .ok target)
    (unused : disk.shown goal = none) :
    disk.look target = none ∨ ∃ link, disk.look target = some (.link link) := by
  rcases found : disk.look target with _ | node
  · exact .inl rfl
  · refine .inr (by_contra fun noLink => ?_)
    have seen := Disk.shown_of_standing properGoal atTarget found fun link isLink => noLink ⟨link, by rw [isLink]⟩
    rw [unused] at seen
    contradiction

include orderly properOrigin properGoal

/-- A rename that succeeds moves one entry, or leaves an entry where it is. -/
theorem rename_renamed (done : rename disk now origin goal = .ok after) :
    ∃ source target, disk.locate .keep origin.toPath = .ok source ∧ disk.locate .keep goal.toPath = .ok target ∧
      disk.look source ≠ none ∧
      (source ≠ target ∧ Disk.Renamed source target disk after ∨ source = target ∧ after = disk) := by
  obtain ⟨used, unused, moved⟩ := rename_eq_ok_iff.mp done
  obtain ⟨node, seen⟩ := Option.ne_none_iff_exists'.mp used
  obtain ⟨source, atSource, occupied⟩ := Disk.standing_of_shown properOrigin seen
  obtain ⟨-, target, -, atTarget⟩ := Disk.locate_of_move moved
  have unseen := unseen properGoal atTarget unused
  refine ⟨source, target, atSource, atTarget, occupied, ?_⟩
  rw [Disk.move_eq orderly now atSource atTarget occupied unseen] at moved
  split_ifs at moved with root same below barred <;> cases moved
  · exact .inr ⟨same, rfl⟩
  · refine .inl ⟨same, Disk.rehome_renamed below (fun query within different => ?_) now⟩
    refine Disk.look_eq_none_iff.mp (orderly.hierarchy.none_below ?_ within (Ne.symm different))
    rcases unseen with free | ⟨link, isLink⟩ <;> simp [*]

include atSource atTarget

/-- An entry under the new path keeps a rename from succeeding, but for a link that leads nowhere, which does so only
for directories. -/
theorem rename_ok_iff (occupied : disk.look target ≠ none) (now : Int) :
    (∃ after, rename disk now origin goal = .ok after) ↔
      (∃ link, disk.look target = some (.link link)) ∧ disk.shown goal = none ∧ disk.shown origin ≠ none ∧
        disk.look source ≠ some .directory := by
  constructor
  · rintro ⟨after, done⟩
    obtain ⟨used, unused, moved⟩ := rename_eq_ok_iff.mp done
    have isLink := (unseen properGoal atTarget unused).resolve_left occupied
    refine ⟨isLink, unused, used, fun isDirectory => ?_⟩
    obtain ⟨node, seen⟩ := Option.ne_none_iff_exists'.mp used
    rw [Disk.move_eq orderly now atSource atTarget (by simp [isDirectory]) (.inr isLink)] at moved
    split_ifs at moved with root same below barred
    · obtain ⟨link, isLink⟩ := isLink
      cases isDirectory.symm.trans (same ▸ isLink)
    · exact barred ⟨occupied, isDirectory⟩
  · rintro ⟨isLink, unused, used, noDirectory⟩
    obtain ⟨node, seen⟩ := Option.ne_none_iff_exists'.mp used
    obtain ⟨place, atPlace, standing⟩ := Disk.standing_of_shown properOrigin seen
    obtain rfl := Except.ok.inj (atPlace.symm.trans atSource)
    have notRoot : place ≠ .root := fun atRoot => noDirectory (atRoot ▸ orderly.hierarchy.root)
    have moved := Disk.move_eq orderly now atSource atTarget standing (.inr isLink)
    rw [if_neg notRoot] at moved
    -- a directory cannot take the place of a link, so the old place is no directory and holds nothing
    by_cases same : place = target
    · exact ⟨_, rename_eq_ok_iff.mpr ⟨used, unused, moved.trans (if_pos same)⟩⟩
    · have apart : ¬place <+: target := fun within => occupied (orderly.hierarchy.none_below noDirectory within same)
      rw [if_neg same, if_neg apart, if_neg fun both => noDirectory both.2] at moved
      exact ⟨_, rename_eq_ok_iff.mpr ⟨used, unused, moved⟩⟩

end Places

end LocalDisk

namespace Storage

variable {storage : Storage} {client : Nat} {conf : Configuration} {directory : Location}

/-- A rename through a local client that fails changes nothing, and one that succeeds moves exactly one entry to
another place or leaves it where it is. Where an entry is under the new path already, it succeeds exactly if that is
a link that leads nowhere and no directory is renamed; unless it is renamed to itself, that link is lost. -/
theorem rename_loses_only_links (found : storage.clients[client]? = some ⟨.disk conf, directory, .none⟩)
    (proper : directory.Proper) (orderly : storage.disk.Orderly) (origin goal : Path) :
    (∀ failure after, rename client origin goal storage = .error failure after → after = storage) ∧
    (∀ after, rename client origin goal storage = .ok () after → ∃ disk source target,
      after = { storage with disk } ∧
      storage.disk.locate .keep (directory.resolve origin).toPath = .ok source ∧
      storage.disk.locate .keep (directory.resolve goal).toPath = .ok target ∧ storage.disk.look source ≠ none ∧
      (source ≠ target ∧ Disk.Renamed source target storage.disk disk ∨ source = target ∧ disk = storage.disk)) ∧
    ∀ source target, storage.disk.locate .keep (directory.resolve origin).toPath = .ok source →
      storage.disk.locate .keep (directory.resolve goal).toPath = .ok target → storage.disk.look target ≠ none →
      ((∃ after, rename client origin goal storage = .ok () after) ↔
        (∃ link, storage.disk.look target = some (.link link)) ∧ storage.disk.shown (directory.resolve goal) = none ∧
          storage.disk.shown (directory.resolve origin) ≠ none ∧ storage.disk.look source ≠ some .directory) := by
  have properOrigin := Location.proper_resolve proper origin
  have properGoal := Location.proper_resolve proper goal
  rw [rename_of_disk found]
  refine ⟨fun failure after failed => ?_, fun after done => ?_, fun source target atSource atTarget occupied => ?_⟩
  · split at failed
    · contradiction
    · cases failed
      rfl
  · split at done
    · next disk renamed =>
      cases done
      obtain ⟨source, target, atSource, atTarget, standing, outcome⟩ :=
        LocalDisk.rename_renamed orderly properOrigin properGoal renamed
      exact ⟨disk, source, target, rfl, atSource, atTarget, standing, outcome⟩
    · contradiction
  · rw [← LocalDisk.rename_ok_iff orderly properOrigin properGoal atSource atTarget occupied storage.now]
    constructor
    · rintro ⟨after, done⟩
      split at done
      · next disk renamed => exact ⟨disk, renamed⟩
      · contradiction
    · rintro ⟨disk, renamed⟩
      rw [renamed]
      exact ⟨_, rfl⟩

/-- A disk with a file and a link that leads nowhere. -/
def dangling : Disk :=
  let disk := Disk.new 0 .root 0 0
  { disk with
    files := [⟨[120], 0⟩]
    tree := (disk.tree.insert [[102]] (.file 0)).insert [[108]] (.link [47, 110] 0) }

/-- The file can be renamed to the link. -/
theorem rename_loses_only_links_of_dangling :
    let storage := { new 0 dangling with clients := [⟨.disk .default, .root, .none⟩] }
    storage.disk.look [[108]] = some (.link [47, 110]) ∧
      ∃ after, rename 0 ⟨[47, 102]⟩ ⟨[47, 108]⟩ storage = .ok () after := by
  intro storage
  have orderly : storage.disk.Orderly := by decide +kernel
  have isLink : storage.disk.look [[108]] = some (.link [47, 110]) := by decide +kernel
  have found : storage.clients[0]? = some ⟨.disk .default, .root, .none⟩ := rfl
  refine ⟨isLink, ((rename_loses_only_links found Location.proper_root orderly _ _).2.2 [[102]] [[108]]
    (by rfl) (by rfl) (by simp [isLink])).mpr ⟨⟨_, isLink⟩, ?_, ?_, ?_⟩⟩ <;> decide +kernel

/-- The link is gone then, and the file stands in its place. -/
theorem rename_replaces_link :
    let storage := { new 0 dangling with clients := [⟨.disk .default, .root, .none⟩] }
    storage.disk.look [[108]] = some (.link [47, 110]) ∧
      ∃ after, rename 0 ⟨[47, 102]⟩ ⟨[47, 108]⟩ storage = .ok () after ∧
        after.disk.look [[108]] = some (.file [120]) ∧ after.disk.look [[102]] = none :=
  ⟨by decide +kernel, _, rfl, by decide +kernel, by decide +kernel⟩

end Storage

end FileGateway
