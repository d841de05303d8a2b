import FileGateway.Proofs.Disk.Ways
import FileGateway.Proofs.Disk.Local

/-! # What changes on a disk with links

Making directories, creating a file and removing do on a disk with links what they do on one without, at the place
that the text leads to. What is new stands where nothing was, in a directory, and the text leads there; the way
there passes what it passed before. What is removed is the entry that the last name stands for, with everything
below it.
-/

namespace FileGateway

namespace Hierarchy

variable {look after : Location → Option Occupant} {holder : Location} {name : Name} {node : Occupant}

/-- Something new stands in a directory. -/
theorem added (hierarchy : Hierarchy look) (proper : Location.Proper (holder ++ [name]))
    (isDirectory : look holder = some .directory) (vacant : look (holder ++ [name]) = none)
    (shape : ∀ query, after query = if query = holder ++ [name] then some node else look query) : Hierarchy after := by
  have kept {query : Location} {other : Occupant} (found : look query = some other) : after query = some other := by
    rw [shape, if_neg, found]
    rintro rfl
    simp [vacant] at found
  refine ⟨kept hierarchy.root, fun {query _} found => ?_, fun {above query _} found within different => kept ?_⟩
  · rw [shape] at found
    split at found
    · next same => exact same ▸ proper
    · exact hierarchy.proper found
  · rw [shape] at found
    split at found
    · next same =>
      subst same
      rcases List.prefix_concat_iff.mp within with same | higher
      · exact absurd same different
      · exact hierarchy.directory_of_prefix isDirectory higher
    · exact hierarchy.above found within different

end Hierarchy

namespace Disk

variable {disk before middle after made : Disk} {ending : Ending} {here place location above holder : Location}
  {steps : List Step} {name : Name} {links : Nat} {now : Int} {entry : DiskEntry} {path : Path}

/-! ## Where walks end -/

/-- What holds of every place that a walk gets to: it is the root or in a directory, and no link if links are
followed. -/
private structure Attained (disk : Disk) (ending : Ending) (place : Location) : Prop where
  holder : place ≠ .root → disk.look place.dropLast = some .directory
  noLink : ending = .follow → ∀ target, disk.look place ≠ some (.link target)

private theorem attained_root (orderly : disk.Orderly) (ending : Ending) : disk.Attained ending .root :=
  ⟨fun notRoot => absurd rfl notRoot, fun _ target => by simp [orderly.hierarchy.root]⟩

private theorem stride_attained (orderly : disk.Orderly) (attained : disk.Attained ending here) {went : Stride}
    (ran : disk.stride ending here steps = .ok went) : disk.Attained ending went.place := by
  induction steps generalizing here with
  | nil =>
    cases ran
    exact attained
  | cons step rest ih =>
    by_cases isDirectory : disk.look here = some .directory
    · cases step with
      | stay | slash =>
        rw [stride_cons, isDirectory] at ran
        exact ih attained ran
      | up =>
        rw [stride_cons, isDirectory] at ran
        have above := orderly.hierarchy.directory_of_prefix isDirectory (List.dropLast_prefix here)
        refine ih ⟨fun _ => ?_, fun _ target => by simp [above]⟩ ran
        exact orderly.hierarchy.directory_of_prefix above (List.dropLast_prefix _)
      | enter name =>
        have entered : disk.look (here ++ [name]).dropLast = some .directory := by rwa [List.dropLast_concat]
        by_cases link : ∃ target, disk.look (here ++ [name]) = some (.link target)
        · obtain ⟨target, isLink⟩ := link
          rw [stride_through isDirectory isLink] at ran
          split_ifs at ran with _ _ kept <;> cases ran
          · exact ⟨fun _ => entered, fun follows => by simp [follows] at kept⟩
          · exact attained
        · rw [stride_into isDirectory (not_exists.mp link)] at ran
          split_ifs at ran
          exact ih ⟨fun _ => entered, fun _ => not_exists.mp link⟩ ran
    · obtain ⟨error, failed⟩ := stride_of_no_directory isDirectory ending step rest
      cases failed.symm.trans ran

private theorem walk_attained (orderly : disk.Orderly) (attained : disk.Attained ending here)
    (arrived : disk.walk ending links here steps = .ok place) : disk.Attained ending place := by
  refine walk_induct (motive := fun _ here _ => disk.Attained ending here → disk.Attained ending place)
    (fun went attained => stride_attained orderly attained went) (fun went _ further attained => further ?_)
    arrived attained
  rw [behind]
  split
  · exact attained_root orderly ending
  · exact stride_attained orderly attained went

/-- Where links are followed, the text of a place leads to none. -/
theorem noLink_of_locate (orderly : disk.Orderly) (proper : location.Proper)
    (arrived : disk.locate .follow location.toPath = .ok place) (target : Bytes) :
    disk.look place ≠ some (.link target) := by
  rw [locate_of_fits (fits_of_locate arrived) proper] at arrived
  exact (walk_attained orderly (attained_root orderly _) arrived).noLink rfl target

/-- Where the text of a place leads, something can be put. -/
theorem holder_of_locate (orderly : disk.Orderly) (proper : location.Proper)
    (arrived : disk.locate ending location.toPath = .ok place) (vacant : disk.look place = none) :
    ∃ holder name, place = holder ++ [name] ∧ disk.look holder = some .directory ∧ place.Proper := by
  have notRoot := orderly.hierarchy.ne_root_of_free vacant
  rw [locate_of_fits (fits_of_locate arrived) proper] at arrived
  refine ⟨place.dropLast, place.getLast notRoot, (List.dropLast_append_getLast notRoot).symm, ?_, ?_⟩
  · exact (walk_attained orderly (attained_root orderly _) arrived).holder notRoot
  · refine walk_proper Location.proper_root (fun step member => ?_) arrived
    obtain ⟨name, inside, rfl⟩ := List.mem_map.mp member
    rintro _ ⟨⟩
    exact proper name inside

/-- Where the text of a place leads to something, links followed, its last name stands for something by itself. -/
theorem standing_of_shown {node : Occupant} (proper : location.Proper) (seen : disk.shown location = some node) :
    ∃ place, disk.locate .keep location.toPath = .ok place ∧ disk.look place ≠ none := by
  obtain ⟨reached, arrived, there⟩ := shown_eq_some_iff.mp seen
  induction location using List.reverseRecOn with
  | nil =>
    obtain rfl := Except.ok.inj ((locate_root disk .follow).symm.trans arrived)
    exact ⟨_, locate_root disk .keep, by simp [there]⟩
  | append_singleton above name =>
    obtain ⟨holder, inHolder, isDirectory, short, onward⟩ := locate_concat_ok proper arrived
    refine ⟨_, locate_concat proper inHolder (fits_of_locate arrived) isDirectory short (.inl rfl), ?_⟩
    rcases onward with rfl | ⟨-, target, isLink⟩
    · simp [there]
    · simp [isLink]

/-- What stands at the end of the text of a place is shown, unless it is a link. -/
theorem shown_of_standing {node : Occupant} (proper : location.Proper)
    (arrived : disk.locate .keep location.toPath = .ok place) (found : disk.look place = some node)
    (noLink : ∀ target, node ≠ .link target) : disk.shown location = some node := by
  refine shown_eq_some_iff.mpr ⟨place, ?_, found⟩
  induction location using List.reverseRecOn with
  | nil =>
    obtain rfl := Except.ok.inj ((locate_root disk .keep).symm.trans arrived)
    exact locate_root disk .follow
  | append_singleton above name =>
    obtain ⟨holder, inHolder, isDirectory, short, rfl | ⟨follows, -⟩⟩ := locate_concat_ok proper arrived
    · refine locate_concat proper inHolder (fits_of_locate arrived) isDirectory short (.inr fun target isLink => ?_)
      exact noLink target (Option.some.inj (found.symm.trans isLink))
    · exact absurd rfl follows

theorem find_eq_ok_iff {found : Location × DiskEntry} : disk.find ending path = .ok found ↔
    disk.locate ending path = .ok found.1 ∧ disk.tree.get? found.1 = some found.2 := by
  obtain ⟨there, entry⟩ := found
  rw [find]
  rcases disk.locate ending path with error | place
  · simp
  · cases present : disk.tree.get? place with
    | none =>
      simp only [present, reduceCtorEq, Except.ok.injEq, false_iff, not_and]
      rintro rfl
      simp [present]
    | some standing =>
      simp only [present, Except.ok.injEq, Prod.mk.injEq, and_congr_right_iff]
      rintro rfl
      simp [present]

theorem look_of_find {found : Location × DiskEntry} (done : disk.find ending path = .ok found) :
    disk.look found.1 = some (disk.occupantOf found.2) := by
  rw [look, (find_eq_ok_iff.mp done).2, Option.map_some]

theorem kind_statusOf (disk : Disk) (entry : DiskEntry) :
    (disk.statusOf entry).kind = .directory ↔ disk.occupantOf entry = .directory := by
  cases entry with
  | directory | link => simp [statusOf, occupantOf]
  | file number =>
    rw [statusOf]
    split <;> simp [occupantOf]

/-- Something has a status if its place is shown. -/
theorem status_eq_ok {status : DiskStatus} (known : disk.status location.toPath = .ok status) :
    ∃ node, disk.shown location = some node ∧ (status.kind = .directory ↔ node = .directory) := by
  rw [Disk.status] at known
  rcases search : disk.find .follow location.toPath with error | found <;> rw [search] at known
  · contradiction
  · obtain rfl := Except.ok.inj known
    exact ⟨disk.occupantOf found.2, by rw [shown, search], disk.kind_statusOf found.2⟩

theorem status_of_shown {node : Occupant} (seen : disk.shown location = some node) :
    ∃ status, disk.status location.toPath = .ok status := by
  rw [shown] at seen
  split at seen
  · next found search => exact ⟨disk.statusOf found.2, by rw [Disk.status, search]; rfl⟩
  · contradiction

/-- Whatever is shown below a place is in a directory that is shown there. -/
theorem directory_of_shown {node : Occupant} {suffix : Location} (proper : Location.Proper (location ++ suffix))
    (below : suffix ≠ []) (seen : disk.shown (location ++ suffix) = some node) :
    disk.shown location = some .directory := by
  induction suffix using List.reverseRecOn generalizing node with
  | nil => exact absurd rfl below
  | append_singleton initial name ih =>
    rw [← List.append_assoc] at proper seen
    obtain ⟨place, arrived, -⟩ := shown_eq_some_iff.mp seen
    obtain ⟨holder, reached, isDirectory, -⟩ := locate_concat_ok proper arrived
    have above := shown_eq_some_iff.mpr ⟨holder, reached, isDirectory⟩
    by_cases last : initial = []
    · rwa [last, List.append_nil] at above
    · exact ih (proper.of_prefix (List.prefix_append ..)) last above

theorem isPresent_iff : disk.isPresent location.toPath = true ↔ disk.shown location ≠ none := by
  rw [isPresent, Option.ne_none_iff_exists']
  constructor
  · intro present
    rcases known : disk.status location.toPath with error | status
    · simp [known, Except.toOption] at present
    · obtain ⟨node, seen, -⟩ := status_eq_ok known
      exact ⟨node, seen⟩
  · rintro ⟨node, seen⟩
    obtain ⟨status, known⟩ := status_of_shown seen
    rw [known]
    rfl

theorem shown_of_isDirectory (isDirectory : disk.isDirectory location.toPath = true) :
    disk.shown location = some .directory := by
  rw [Disk.isDirectory] at isDirectory
  split at isDirectory
  · next status known =>
    obtain ⟨node, seen, kind⟩ := status_eq_ok known
    exact kind.mp (by simpa using isDirectory) ▸ seen
  · contradiction

/-! ## Setting an entry -/

/-- The text of a location leads to where nothing was. -/
structure Landed (location place : Location) (before after : Disk) : Prop where
  vacant : before.look place = none
  arrived : after.locate .follow location.toPath = .ok place
  /-- The way there passes what it passed before. -/
  way : ∀ passed, before.look passed ≠ none → (passed ∈ after.way location ↔ passed ∈ before.way location)

/-- A file, or an empty directory, stands where nothing was, and the text of a location leads there now. -/
structure Arose (location place : Location) (before after : Disk) : Prop
    extends Landed location place before after where
  orderly : after.Orderly
  enriched : Enriched before after
  nothing : ∀ query, place <+: query → query ≠ place → after.look query = none

theorem Landed.trans (landed : Landed location place before middle) (proper : location.Proper)
    (enriched : Enriched middle after) : Landed location place before after where
  vacant := landed.vacant
  arrived := enriched.passable.locate proper landed.arrived
  way passed occupied := by rw [enriched.passable.way proper landed.arrived, landed.way passed occupied]

/-- The contents of the new file are filled in. -/
theorem Arose.fill (arose : Arose location place before middle) (proper : location.Proper)
    (tree : after.tree = middle.tree) (count : after.files.length = middle.files.length)
    (look : ∀ {query}, query ≠ place → after.look query = middle.look query) : Arose location place before after where
  orderly := arose.orderly.of_tree tree count.ge
  enriched := by
    refine ⟨fun {query node} found => ?_, arose.enriched.noLink ∘ (Passable.of_tree tree).noLink,
      fun found => tree ▸ arose.enriched.numbers found⟩
    rw [look, arose.enriched.kept found]
    rintro rfl
    cases arose.vacant.symm.trans found
  vacant := arose.vacant
  arrived := (Passable.of_tree tree).locate proper arose.arrived
  nothing query within below := (look below).trans (arose.nothing query within below)
  way passed occupied := by rw [(Passable.of_tree tree).way proper arose.arrived, arose.way passed occupied]

/-- An entry that is no link was put where nothing was. -/
structure Placed (place : Location) (before after : Disk) : Prop where
  orderly : after.Orderly
  vacant : before.look place = none
  noLink : ∀ target, after.look place ≠ some (.link target)
  look : ∀ query, query ≠ place → after.look query = before.look query
  numbers : ∀ {query number},
    before.tree.get? query = some (.file number) → after.tree.get? query = some (.file number)

namespace Placed

variable (placed : Placed place before after)

include placed

theorem enriched : Enriched before after where
  kept {query node} found := by
    rw [placed.look, found]
    rintro rfl
    simp [placed.vacant] at found
  noLink {query target} isLink := by
    rwa [placed.look] at isLink
    rintro rfl
    exact placed.noLink target isLink
  numbers := placed.numbers

theorem nothing (orderly : before.Orderly) (query : Location) (within : place <+: query) (below : query ≠ place) :
    after.look query = none :=
  (placed.look query below).trans (orderly.hierarchy.none_of_free placed.vacant within)

/-- Where the text leads already, something was put. -/
theorem arose (orderly : before.Orderly) (proper : location.Proper)
    (arrived : before.locate .follow location.toPath = .ok place) : Arose location place before after where
  orderly := placed.orderly
  enriched := placed.enriched
  vacant := placed.vacant
  arrived := placed.enriched.passable.locate proper arrived
  nothing := placed.nothing orderly
  way passed _ := by rw [placed.enriched.passable.way proper arrived]

end Placed

/-- Something was put into a directory that was made just before. -/
theorem Arose.concat (arose : Arose above holder before middle) (isDirectory : middle.look holder = some .directory)
    (placed : Placed (holder ++ [name]) middle after) (proper : Location.Proper (above ++ [name]))
    (fits : Fits (above ++ [name])) (short : name.length ≤ maxName) :
    Arose (above ++ [name]) (holder ++ [name]) before after := by
  have properAbove := proper.of_prefix (List.prefix_append above [name])
  have unlinked (target : Bytes) : middle.look (holder ++ [name]) ≠ some (.link target) := by simp [placed.vacant]
  have arrived : middle.locate .follow (Location.toPath (above ++ [name])) = .ok (holder ++ [name]) :=
    locate_concat proper arose.arrived fits isDirectory short (.inr unlinked)
  have below := placed.arose arose.orderly proper arrived
  refine ⟨⟨?_, below.arrived, fun passed occupied => ?_⟩, placed.orderly, arose.enriched.trans placed.enriched,
    below.nothing⟩
  · by_contra occupied
    obtain ⟨node, found⟩ := Option.ne_none_iff_exists'.mp occupied
    have still := arose.enriched.kept found
    simp [placed.vacant] at still
  · have elsewhere : passed ≠ holder ++ [name] := by
      rintro rfl
      obtain ⟨node, found⟩ := Option.ne_none_iff_exists'.mp occupied
      have still := arose.enriched.kept found
      simp [placed.vacant] at still
    -- before, the way came to an end above: nothing was where the new directory is now
    have stopped : before.way (above ++ [name]) = before.way above := by
      refine way_concat_of_no_directory proper (fits.of_prefix (List.prefix_append ..)) fun place reached => ?_
      have same := arose.enriched.passable.locate properAbove reached
      obtain rfl := Except.ok.inj (same.symm.trans arose.arrived)
      simp [arose.vacant]
    rw [placed.enriched.passable.way proper arrived, way_concat proper arose.arrived isDirectory short unlinked,
      List.mem_append, List.mem_singleton, or_iff_left elsewhere, arose.way passed occupied, stopped]

theorem placed_place (orderly : disk.Orderly) (proper : Location.Proper (holder ++ [name]))
    (isDirectory : disk.look holder = some .directory) (vacant : disk.look (holder ++ [name]) = none)
    (noLink : ∀ target modified, entry ≠ .link target modified)
    (allotted : ∀ number, entry = .file number → number < disk.files.length) (now : Int) :
    Placed (holder ++ [name]) disk (disk.place now (holder ++ [name]) entry) where
  orderly := by
    refine ⟨orderly.hierarchy.added proper isDirectory vacant fun query => place_look, fun query number found => ?_⟩
    rw [place_number] at found
    rw [place_files]
    split at found
    · exact allotted number found
    · exact orderly.allotted found
  vacant := vacant
  noLink target := by
    rw [place_look, if_pos rfl]
    cases entry with
    | directory | file => simp [occupantOf]
    | link target modified => exact absurd rfl (noLink target modified)
  look query other := by rw [place_look, if_neg other]
  numbers {query number} found := by
    refine place_number.mpr ?_
    rwa [if_neg]
    rintro rfl
    cases (look_eq_none_iff.mp vacant).symm.trans found

/-! ## Making directories -/

private theorem makeDirectory_placed (orderly : disk.Orderly) (proper : Location.Proper (above ++ [name]))
    (done : disk.makeDirectory now (Location.toPath (above ++ [name])) = .ok made) :
    ∃ holder, Fits (above ++ [name]) ∧ disk.locate .follow above.toPath = .ok holder ∧
      disk.look holder = some .directory ∧ name.length ≤ maxName ∧
      Placed (holder ++ [name]) disk made ∧ made.look (holder ++ [name]) = some .directory := by
  rw [makeDirectory, addEntry] at done
  split at done
  · contradiction
  · next place arrived =>
    split at done
    · contradiction
    · next free =>
      obtain rfl := Except.ok.inj done
      obtain ⟨holder, reached, isDirectory, short, rfl | ⟨follows, -⟩⟩ := locate_concat_ok proper arrived
      · have properPlace : Location.Proper (holder ++ [name]) :=
          Location.proper_append.mpr ⟨orderly.hierarchy.proper isDirectory, (Location.proper_append.mp proper).2⟩
        refine ⟨holder, fits_of_locate arrived, reached, isDirectory, short,
          placed_place orderly properPlace isDirectory (look_eq_none_iff.mpr free) (by simp) (by simp) now, ?_⟩
        rw [place_look, if_pos rfl]
        rfl
      · exact absurd rfl follows

/-- A directory is where the text of a place leads: it was there and nothing has changed, or it is new. -/
inductive MadeAt (location : Location) (before after : Disk) : Prop
  | standing (same : after = before) (seen : before.shown location = some .directory)
  | made (place : Location) (arose : Arose location place before after)
    (isDirectory : after.look place = some .directory)

namespace MadeAt

theorem orderly (made : MadeAt location before after) (orderly : before.Orderly) : after.Orderly := by
  cases made with
  | standing same => exact same ▸ orderly
  | made place arose => exact arose.orderly

theorem enriched (made : MadeAt location before after) : Enriched before after := by
  cases made with
  | standing same => exact same ▸ .refl before
  | made place arose => exact arose.enriched

theorem shown (made : MadeAt location before after) : after.shown location = some .directory := by
  cases made with
  | standing same seen => exact same ▸ seen
  | made place arose isDirectory => exact shown_eq_some_iff.mpr ⟨place, arose.arrived, isDirectory⟩

/-- A directory made below one that was made just now. -/
private theorem concat (made : MadeAt above before middle) (orderly : before.Orderly)
    (proper : Location.Proper (above ++ [name])) {error : SystemError}
    (refused : before.makeDirectory now (Location.toPath (above ++ [name])) = .error error)
    (done : middle.makeDirectory now (Location.toPath (above ++ [name])) = .ok after) :
    MadeAt (above ++ [name]) before after := by
  cases made with
  | standing same =>
    subst same
    cases done.symm.trans refused
  | made holder arose isDirectory =>
    obtain ⟨place, fits, reached, -, short, placed, newDirectory⟩ := makeDirectory_placed arose.orderly proper done
    obtain rfl := Except.ok.inj (reached.symm.trans arose.arrived)
    exact .made _ (arose.concat isDirectory placed proper fits short) newDirectory

/-- In a new directory nothing is found. -/
private theorem of_found (made : MadeAt above before middle) (proper : Location.Proper (above ++ [name]))
    (isDirectory : middle.isDirectory (Location.toPath (above ++ [name])) = true) :
    MadeAt (above ++ [name]) before middle := by
  have seen := shown_of_isDirectory isDirectory
  cases made with
  | standing same => exact .standing same (same ▸ seen)
  | made holder arose =>
    obtain ⟨place, arrived, there⟩ := shown_eq_some_iff.mp seen
    obtain ⟨other, reached, -, -, onward⟩ := locate_concat_ok proper arrived
    obtain rfl := Except.ok.inj (reached.symm.trans arose.arrived)
    have vacant := arose.nothing (other ++ [name]) (List.prefix_append ..) (by simp)
    rcases onward with rfl | ⟨-, target, isLink⟩
    · simp [vacant] at there
    · simp [vacant] at isLink

end MadeAt

theorem makeDirectories_made (orderly : disk.Orderly) (proper : location.Proper)
    (done : disk.makeDirectories now location = (.ok (), made)) : MadeAt location disk made := by
  rw [makeDirectories] at done
  induction location using List.reverseRecOn generalizing made with
  | nil =>
    refine .standing (Prod.mk.inj done).2.symm ?_
    exact shown_eq_some_iff.mpr ⟨.root, locate_root disk .follow, orderly.hierarchy.root⟩
  | append_singleton above name ih =>
    have properAbove := proper.of_prefix (List.prefix_append above [name])
    rw [Location.ancestors_concat, List.reverse_append, List.reverse_singleton, List.singleton_append,
      makeFirst, if_neg (by simp [Location.root])] at done
    split at done
    · next first ran =>
      obtain rfl := (Prod.mk.inj done).2
      obtain ⟨holder, fits, reached, isDirectory, short, placed, newDirectory⟩ :=
        makeDirectory_placed orderly proper ran
      refine .made _ (placed.arose orderly proper ?_) newDirectory
      exact locate_concat proper reached fits isDirectory short (.inr (by simp [placed.vacant]))
    · next error refused =>
      split at done
      · split at done
        · cases (Prod.mk.inj done).1
        · next middle ran =>
          have below := ih properAbove ran
          split at done
          · next last again =>
            obtain rfl := (Prod.mk.inj done).2
            exact below.concat orderly proper refused again
          · obtain ⟨outcome, rfl⟩ := Prod.mk.inj done
            split at outcome
            · next isDirectory => exact below.of_found proper isDirectory
            · cases outcome
      · obtain ⟨outcome, rfl⟩ := Prod.mk.inj done
        split at outcome
        · next isDirectory => exact .standing rfl (shown_of_isDirectory isDirectory)
        · cases outcome

/-! ## Creating a file -/

private theorem stride_follow {went : Stride} (ran : disk.stride .create here steps = .ok went) :
    disk.stride .follow here steps = .ok went := by
  induction steps generalizing here with
  | nil => exact ran
  | cons step rest ih =>
    by_cases isDirectory : disk.look here = some .directory
    · cases step with
      | stay | slash | up =>
        rw [stride_cons, isDirectory] at ran ⊢
        exact ih ran
      | enter name =>
        have lastName : ¬((Ending.follow = .create) ∧ rest = [.slash]) := by simp
        by_cases trailing : rest = [.slash]
        · rw [stride_cons, isDirectory] at ran
          simp [trailing] at ran
        by_cases link : ∃ target, disk.look (here ++ [name]) = some (.link target)
        · obtain ⟨target, isLink⟩ := link
          rw [stride_through isDirectory isLink, if_neg fun both => trailing both.2] at ran
          rw [stride_through isDirectory isLink, if_neg lastName]
          exact ran
        · rw [stride_into isDirectory (not_exists.mp link), if_neg fun both => trailing both.2] at ran
          rw [stride_into isDirectory (not_exists.mp link), if_neg lastName]
          split_ifs at ran ⊢
          exact ih ran
    · obtain ⟨error, failed⟩ := stride_of_no_directory isDirectory .create step rest
      cases failed.symm.trans ran

/-- A file is created where a walk leads that follows links. -/
theorem locate_follow (proper : location.Proper) (arrived : disk.locate .create location.toPath = .ok place) :
    disk.locate .follow location.toPath = .ok place := by
  have fits := fits_of_locate arrived
  rw [locate_of_fits fits proper] at arrived ⊢
  refine walk_induct (motive := fun links here steps => disk.walk .follow links here steps = .ok place)
    (fun went => walk_of_arrived (stride_follow went)) (fun went _ further => ?_) arrived
  rw [walk_of_redirected (stride_follow went)]
  exact further

/-- A new file is empty and has a number of its own. -/
structure Begun (place : Location) (number : Nat) (after : Disk) : Prop where
  empty : after.look place = some (.file [])
  named : ∀ query, after.tree.get? query = some (.file number) ↔ query = place

private theorem createFile_located {number : Nat} (proper : location.Proper)
    (done : disk.createFile now location.toPath = .ok (number, after)) :
    ∃ place, disk.locate .follow location.toPath = .ok place := by
  rw [createFile] at done
  split at done
  · contradiction
  · next place created => exact ⟨place, locate_follow proper created⟩

/-- Where nothing was shown, a new file is created. -/
private theorem createFile_begun {number : Nat} (orderly : disk.Orderly) (proper : location.Proper)
    (arrived : disk.locate .follow location.toPath = .ok place) (vacant : disk.look place = none)
    (done : disk.createFile now location.toPath = .ok (number, after)) :
    Placed place disk after ∧ Begun place number after := by
  rw [createFile] at done
  split at done
  · contradiction
  · next here created =>
    obtain rfl := Except.ok.inj ((locate_follow proper created).symm.trans arrived)
    have free : disk.tree.get? here = none := look_eq_none_iff.mp vacant
    rw [free] at done
    obtain ⟨rfl, rfl⟩ := Prod.mk.inj (Except.ok.inj done)
    -- the contents come first, so that the new entry has a number to stand for
    let grown : Disk := { disk with files := disk.files ++ [⟨[], now⟩] }
    have sameLook : grown.look = disk.look := by
      funext query
      rw [look, look]
      refine Option.map_congr fun entry found => ?_
      cases entry with
      | directory | link => rfl
      | file other =>
        rw [occupantOf, occupantOf, fileData, fileData, List.getElem?_append_left (orderly.allotted found)]
    have orderlyGrown : grown.Orderly := by
      refine ⟨sameLook ▸ orderly.hierarchy, fun query other found => ?_⟩
      have known := orderly.allotted found
      simp only [grown, List.length_append]
      omega
    obtain ⟨holder, name, rfl, isDirectory, properPlace⟩ := holder_of_locate orderly proper created vacant
    have put : Placed (holder ++ [name]) grown (grown.place now (holder ++ [name]) (.file disk.files.length)) :=
      placed_place orderlyGrown properPlace (sameLook ▸ isDirectory) (sameLook ▸ vacant) (by simp)
        (by rintro _ ⟨⟩; simp [grown]) now
    refine ⟨⟨put.orderly, vacant, put.noLink, fun query other => (put.look query other).trans (by rw [sameLook]),
      put.numbers⟩, ?_, fun query => ?_⟩
    · exact place_look.trans (by simp [occupantOf, fileData])
    · refine place_number.trans ?_
      split
      · next same => simp [same]
      · next different => exact iff_of_false (fun found => absurd (orderly.allotted found) (lt_irrefl _)) different

/-- A file created where nothing was shown, in a directory that was there or was made for it. -/
theorem createFile_arose {number : Nat} (orderly : disk.Orderly) (proper : Location.Proper (above ++ [name]))
    (unseen : disk.shown (above ++ [name]) = none) (made : MadeAt above disk middle)
    (done : middle.createFile now (Location.toPath (above ++ [name])) = .ok (number, after)) :
    ∃ place, Arose (above ++ [name]) place disk after ∧ Begun place number after := by
  obtain ⟨place, arrived⟩ := createFile_located proper done
  cases made with
  | standing same =>
    subst same
    have vacant : middle.look place = none := by
      by_contra occupied
      obtain ⟨node, found⟩ := Option.ne_none_iff_exists'.mp occupied
      cases unseen.symm.trans (shown_eq_some_iff.mpr ⟨place, arrived, found⟩)
    obtain ⟨placed, begun⟩ := createFile_begun orderly proper arrived vacant done
    exact ⟨place, placed.arose orderly proper arrived, begun⟩
  | made holder arose =>
    obtain ⟨other, reached, isDirectory, short, onward⟩ := locate_concat_ok proper arrived
    obtain rfl := Except.ok.inj (reached.symm.trans arose.arrived)
    have vacant := arose.nothing (other ++ [name]) (List.prefix_append ..) (by simp)
    rcases onward with rfl | ⟨-, target, isLink⟩
    · obtain ⟨placed, begun⟩ := createFile_begun arose.orderly proper arrived vacant done
      exact ⟨_, arose.concat isDirectory placed proper (fits_of_locate arrived) short, begun⟩
    · simp [vacant] at isLink

/-! ## Removing -/

/-- What is removed is the entry that the last name stands for, links not followed, with everything below it. -/
structure Removal (location place : Location) (before after : Disk) : Prop where
  arrived : before.locate .keep location.toPath = .ok place
  occupied : before.look place ≠ none
  notRoot : place ≠ .root
  lacks : Lacks place before after

private theorem removeName_removal (orderly : disk.Orderly) (done : disk.removeName now location.toPath = .ok after) :
    ∃ place, Removal location place disk after := by
  rw [removeName] at done
  split at done
  · contradiction
  · contradiction
  · next place entry noDirectory search =>
    obtain rfl := Except.ok.inj done
    obtain ⟨arrived, present⟩ := find_eq_ok_iff.mp search
    have found : disk.look place = some (disk.occupantOf entry) := look_of_find search
    have notDirectory : disk.look place ≠ some .directory := by
      intro isDirectory
      obtain ⟨modified, standing⟩ := look_eq_directory_iff.mp isDirectory
      exact noDirectory modified (Option.some.inj (present.symm.trans standing))
    refine ⟨place, arrived, by simp [found], fun atRoot => ?_, fun query => ?_⟩
    · exact notDirectory (atRoot ▸ orderly.hierarchy.root)
    · rw [stamp_look, look, SortedMap.get?_erase]
      by_cases same : query = place
      · rw [if_pos same, if_pos (same ▸ List.prefix_rfl), Option.map_none]
      · rw [if_neg same]
        split
        · next within => exact orderly.hierarchy.none_below notDirectory within (Ne.symm same)
        · rfl

private theorem removeTree_removal (orderly : disk.Orderly) (done : disk.removeTree now location.toPath = .ok after) :
    ∃ place, Removal location place disk after := by
  rw [removeTree] at done
  split at done
  · contradiction
  · exact removeName_removal orderly done
  · contradiction
  · next place modified search =>
    obtain ⟨arrived, present⟩ := find_eq_ok_iff.mp search
    split at done
    · contradiction
    · next notRoot =>
      obtain rfl := Except.ok.inj done
      refine ⟨place, arrived, by simp [look_of_find search], notRoot, fun query => ?_⟩
      rw [stamp_look, look, Tree.get?_prune]
      split <;> rfl

end Disk

/-! ## Through a local client -/

namespace LocalDisk

variable {disk after : Disk} {conf : Configuration} {now : Int} {location : Location} {records : List FileStatus}

@[simp]
theorem fileStatus_path (conf : Configuration) (path : Path) (status : DiskStatus) :
    (fileStatus conf path status).path = path := by
  rw [fileStatus]
  split <;> rfl

/-- A listing tells of a file alone, or of every entry in a directory, each by itself. -/
theorem list_cases (done : list conf disk location = .ok records) :
    (∃ record, records = [record] ∧ record.kind = .file ∧ record.path = location.toPath ∧
      status conf disk location = .ok record) ∨
    ∃ place, ∃ named : List (Name × DiskEntry), disk.locate .follow location.toPath = .ok place ∧
      disk.look place = some .directory ∧ (named.map (·.1)).Nodup ∧
      (∀ name entry, (name, entry) ∈ named ↔ disk.tree.get? (place ++ [name]) = some entry) ∧
      records = named.map fun entry =>
        fileStatus conf (Location.toPath (location ++ [entry.1])) (disk.statusOf entry.2) := by
  simp only [list, bind, Except.bind] at done
  split at done
  · contradiction
  · next status known =>
    split at done
    · next isFile =>
      refine .inl ⟨_, (Except.ok.inj done).symm, ?_, ?_, ?_⟩
      · simp [fileStatus, isFile, FileStatus.ofFile]
      · simp [fileStatus, isFile, FileStatus.ofFile]
      · rw [LocalDisk.status, known]
        rfl
    · split at done
      · contradiction
      · next listed ran =>
        obtain ⟨place, modified, named, search, nodup, members, rfl⟩ := Disk.list_ok (raising_ok ran)
        refine .inr ⟨place, named, (Disk.find_eq_ok_iff.mp search).1, Disk.look_of_find search, nodup, members, ?_⟩
        rw [← Except.ok.inj done, List.map_map]
        rfl

/-- What is opened is the file that the path leads to. -/
theorem openReader_found {bufferSize : UInt64} {reader : DiskReader}
    (done : openReader conf disk location bufferSize = .ok reader) :
    ∃ place number, disk.locate .follow location.toPath = .ok place ∧
      disk.tree.get? place = some (.file number) ∧
      reader = .ofFile number location.toPath (conf.bufferSizeOr bufferSize).toNat := by
  simp only [openReader, bind, Except.bind] at done
  split at done
  · contradiction
  · split at done
    · contradiction
    · split at done
      · contradiction
      · next number ran =>
        obtain rfl := Except.ok.inj done
        have ran := raising_ok ran
        rw [Disk.openFile] at ran
        split at ran
        · contradiction
        · next place other search =>
          obtain rfl := Except.ok.inj ran
          obtain ⟨arrived, present⟩ := Disk.find_eq_ok_iff.mp search
          exact ⟨place, _, arrived, present, rfl⟩
        · contradiction

theorem createDirectories_made (orderly : disk.Orderly) (proper : location.Proper)
    (done : createDirectories disk now location = (.ok (), after)) : Disk.MadeAt location disk after := by
  rw [createDirectories] at done
  split at done
  · next status known =>
    obtain ⟨outcome, rfl⟩ := Prod.mk.inj done
    split at outcome
    · next isDirectory =>
      refine .standing rfl (Disk.shown_of_isDirectory ?_)
      rw [Disk.isDirectory, known]
      simp [isDirectory]
    · contradiction
  · obtain ⟨outcome, rfl⟩ := Prod.mk.inj done
    exact Disk.makeDirectories_made orderly proper (Prod.ext (raising_ok outcome) rfl)

/-- A file that is not to overwrite another is created where nothing was. -/
theorem createWriter_arose {options : CreateOptions} {writer : DiskWriter} (orderly : disk.Orderly)
    (proper : location.Proper) (keeps : options.overwrite = false)
    (done : createWriter conf disk now location options = (.ok writer, after)) :
    ∃ place number, Disk.Arose location place disk after ∧ Disk.Begun place number after ∧
      writer = .ofFile number location.toPath (conf.bufferSizeOr options.bufferSize).toNat := by
  rw [createWriter] at done
  split at done
  · cases (Prod.mk.inj done).1
  · next notTaken =>
    have unseen : disk.shown location = none := by
      refine Option.eq_none_iff_forall_ne_some.mpr fun node seen => notTaken ?_
      obtain ⟨status, known⟩ := Disk.status_of_shown seen
      simp [isTaken, known, keeps]
    have notRoot : location ≠ .root := by
      rintro rfl
      cases unseen.symm.trans (Disk.shown_eq_some_iff.mpr
        ⟨.root, Disk.locate_root disk .follow, orderly.hierarchy.root⟩)
    have split := (List.dropLast_append_getLast notRoot).symm
    have isParent := Location.parent?_eq_some_iff.mpr ⟨notRoot, rfl⟩
    generalize location.dropLast = above, location.getLast notRoot = name at split isParent
    subst split
    simp only [prepareParent, isParent] at done
    split at done
    · cases (Prod.mk.inj done).1
    · next middle prepared =>
      obtain ⟨outcome, rfl⟩ := Prod.mk.inj prepared
      have made := Disk.makeDirectories_made orderly (proper.of_prefix (List.prefix_append ..))
        (Prod.ext (raising_ok outcome) rfl)
      split at done
      · cases (Prod.mk.inj done).1
      · next number created ran =>
        obtain ⟨same, rfl⟩ := Prod.mk.inj done
        obtain ⟨place, arose, begun⟩ := Disk.createFile_arose orderly proper unseen made ran
        exact ⟨place, number, arose, begun, (Except.ok.inj same).symm⟩

theorem delete_removal (orderly : disk.Orderly) (done : delete disk now location = .ok after) :
    ∃ place, Disk.Removal location place disk after := by
  simp only [delete, bind, Except.bind] at done
  split at done
  · contradiction
  · have ran := raising_ok done
    split at ran
    · exact Disk.removeTree_removal orderly ran
    · exact Disk.removeName_removal orderly ran

end LocalDisk

end FileGateway
