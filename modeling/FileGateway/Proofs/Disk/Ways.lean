import FileGateway.Proofs.Disk.Links

/-! # Ways on a disk that changes

A walk that arrives goes on arriving there when things are added to the disk, links apart, and by the same way.
When a place is removed with all that is below it, the walks whose way does not enter it go on as before, and
those that enter it find nothing any more.
-/

namespace FileGateway

/-- How far a stride got. -/
def Stride.place : Stride → Location
  | .arrived location => location
  | .redirected directory _ _ => directory

namespace Disk

variable {disk before middle after : Disk} {ending : Ending} {here place location above removed suffix : Location}
  {steps rest : List Step} {name : Name} {links : Nat} {node : Occupant} {went : Stride}

/-! ## What is shown -/

/-- What the text of a place leads to, links followed. -/
def shown (disk : Disk) (location : Location) : Option Occupant :=
  match disk.find .follow location.toPath with
  | .ok found => some (disk.occupantOf found.2)
  | .error _ => none

theorem shown_eq_some_iff : disk.shown location = some node ↔
    ∃ place, disk.locate .follow location.toPath = .ok place ∧ disk.look place = some node := by
  rw [shown, find]
  rcases disk.locate .follow location.toPath with error | place
  · simp
  · simp only [Except.ok.injEq, exists_eq_left', look]
    cases disk.tree.get? place <;> simp

/-! ## Adding -/

/-- Directories and links are as they were, and no link is new. -/
structure Passable (before after : Disk) : Prop where
  directory : ∀ {location}, before.look location = some .directory → after.look location = some .directory
  link : ∀ {location target}, before.look location = some (.link target) → after.look location = some (.link target)
  noLink : ∀ {location target}, after.look location = some (.link target) → before.look location = some (.link target)

namespace Passable

variable (passable : Passable before after)

include passable

private theorem noLink_of_noLink (noLink : ∀ target, before.look location ≠ some (.link target)) (target : Bytes) :
    after.look location ≠ some (.link target) := fun isLink => noLink target (passable.noLink isLink)

/-- What a walk passes is there still. -/
private theorem stride_eq (ran : before.stride ending here steps = .ok went) :
    after.stride ending here steps = .ok went := by
  induction steps generalizing here with
  | nil => exact ran
  | cons step rest ih =>
    by_cases isDirectory : before.look here = some .directory
    · have still := passable.directory isDirectory
      cases step with
      | stay | slash | up =>
        rw [stride_cons, isDirectory] at ran
        rw [stride_cons, still]
        exact ih ran
      | enter name =>
        by_cases link : ∃ target, before.look (here ++ [name]) = some (.link target)
        · obtain ⟨target, isLink⟩ := link
          rwa [stride_through isDirectory isLink, ← stride_through still (passable.link isLink)] at ran
        · have noLink := not_exists.mp link
          rw [stride_into isDirectory noLink] at ran
          rw [stride_into still (passable.noLink_of_noLink noLink)]
          split_ifs at ran ⊢
          exact ih ran
    · obtain ⟨error, failed⟩ := stride_of_no_directory isDirectory ending step rest
      cases failed.symm.trans ran

private theorem met_eq (ran : before.stride .follow here steps = .ok went) :
    after.met here steps = before.met here steps := by
  induction steps generalizing here with
  | nil => rfl
  | cons step rest ih =>
    by_cases isDirectory : before.look here = some .directory
    · have still := passable.directory isDirectory
      cases step with
      | stay | slash | up =>
        rw [stride_cons, isDirectory] at ran
        rw [met_cons, met_cons, still, isDirectory]
        exact ih ran
      | enter name =>
        by_cases link : ∃ target, before.look (here ++ [name]) = some (.link target)
        · obtain ⟨target, isLink⟩ := link
          rw [met_through isDirectory isLink, met_through still (passable.link isLink)]
        · have noLink := not_exists.mp link
          rw [stride_into isDirectory noLink] at ran
          rw [met_into isDirectory noLink, met_into still (passable.noLink_of_noLink noLink)]
          split_ifs at ran ⊢
          rw [ih ran]
    · obtain ⟨error, failed⟩ := stride_of_no_directory isDirectory .follow step rest
      cases failed.symm.trans ran

private theorem walk_eq (arrived : before.walk ending links here steps = .ok place) :
    after.walk ending links here steps = .ok place := by
  refine walk_induct (motive := fun links here steps => after.walk ending links here steps = .ok place)
    (fun went => walk_of_arrived (passable.stride_eq went)) (fun went _ further => ?_) arrived
  rw [walk_of_redirected (passable.stride_eq went)]
  exact further

private theorem wayFrom_eq (arrived : before.walk .follow links here steps = .ok place) :
    after.wayFrom links here steps = before.wayFrom links here steps := by
  refine walk_induct
    (motive := fun links here steps => after.wayFrom links here steps = before.wayFrom links here steps)
    (fun went => ?_) (fun went _ further => ?_) arrived
  · rw [wayFrom_of_arrived went, wayFrom_of_arrived (passable.stride_eq went), passable.met_eq went]
  · rw [wayFrom_of_redirected went, wayFrom_of_redirected (passable.stride_eq went), passable.met_eq went]
    exact congrArg _ further

/-- What was found is found at the same place. -/
theorem locate (proper : location.Proper) (arrived : before.locate ending location.toPath = .ok place) :
    after.locate ending location.toPath = .ok place := by
  have fits := fits_of_locate arrived
  rw [locate_of_fits fits proper] at arrived ⊢
  exact passable.walk_eq arrived

theorem way (proper : location.Proper) (arrived : before.locate .follow location.toPath = .ok place) :
    after.way location = before.way location := by
  rw [locate_of_fits (fits_of_locate arrived) proper] at arrived
  exact passable.wayFrom_eq arrived

end Passable

/-- Everything is as it was, and what is new is no link. -/
structure Enriched (before after : Disk) : Prop where
  kept : ∀ {location node}, before.look location = some node → after.look location = some node
  noLink : ∀ {location target}, after.look location = some (.link target) → before.look location = some (.link target)
  /-- A file keeps its number. -/
  numbers : ∀ {location number},
    before.tree.get? location = some (.file number) → after.tree.get? location = some (.file number)

namespace Enriched

protected theorem refl (disk : Disk) : Enriched disk disk := ⟨id, id, id⟩

protected theorem trans (first : Enriched before middle) (second : Enriched middle after) : Enriched before after :=
  ⟨second.kept ∘ first.kept, first.noLink ∘ second.noLink, second.numbers ∘ first.numbers⟩

variable (enriched : Enriched before after)

include enriched

theorem passable : Passable before after := ⟨enriched.kept, enriched.kept, enriched.noLink⟩

theorem shown (proper : location.Proper) (seen : before.shown location = some node) :
    after.shown location = some node := by
  obtain ⟨place, arrived, there⟩ := shown_eq_some_iff.mp seen
  exact shown_eq_some_iff.mpr ⟨place, enriched.passable.locate proper arrived, enriched.kept there⟩

end Enriched

/-- Where only the contents of files have changed the same places can be passed. -/
theorem Passable.of_tree (tree : after.tree = before.tree) : Passable before after := by
  have directory (location : Location) :
      after.look location = some .directory ↔ before.look location = some .directory := by
    rw [look_eq_directory_iff, look_eq_directory_iff, tree]
  have link (location : Location) (target : Bytes) :
      after.look location = some (.link target) ↔ before.look location = some (.link target) := by
    rw [look_eq_link_iff, look_eq_link_iff, tree]
  exact ⟨(directory _).mpr, (link _ _).mpr, (link _ _).mp⟩

/-! ## Removing -/

/-- A place was removed with everything below it, and nothing else. -/
def Lacks (removed : Location) (before after : Disk) : Prop :=
  ∀ query, after.look query = if removed <+: query then none else before.look query

namespace Lacks

variable (lacks : Lacks removed before after)

theorem apart_concat (apart : ¬removed <+: here) (other : removed ≠ here ++ [name]) : ¬removed <+: here ++ [name] := by
  rw [List.prefix_concat_iff, not_or]
  exact ⟨other, apart⟩

include lacks

theorem look_of_apart (apart : ¬removed <+: here) : after.look here = before.look here := by
  rw [lacks, if_neg apart]

theorem look_removed : after.look removed = none := by
  rw [lacks, if_pos List.prefix_rfl]

/-- What does not enter the removed place goes on, outside of it. -/
private theorem stride_eq (apart : ¬removed <+: here) (unmet : removed ∉ before.met here steps) :
    after.stride .follow here steps = before.stride .follow here steps ∧
      ∀ went, before.stride .follow here steps = .ok went → ¬removed <+: went.place := by
  induction steps generalizing here with
  | nil =>
    refine ⟨rfl, fun went ran => ?_⟩
    cases ran
    exact apart
  | cons step rest ih =>
    have same := lacks.look_of_apart apart
    by_cases isDirectory : before.look here = some .directory
    · have still := same.trans isDirectory
      cases step with
      | stay | slash =>
        rw [met_cons, isDirectory] at unmet
        rw [stride_cons, stride_cons, isDirectory, still]
        exact ih apart unmet
      | up =>
        rw [met_cons, isDirectory] at unmet
        rw [stride_cons, stride_cons, isDirectory, still]
        exact ih (fun within => apart (within.trans (List.dropLast_prefix here))) unmet
      | enter name =>
        by_cases long : maxName < name.length
        · have failed (disk : Disk) (isDirectory : disk.look here = some .directory) :
              disk.stride .follow here (.enter name :: rest) = .error .nameTooLong := by
            rw [stride_cons, isDirectory]
            simp [long]
          rw [failed before isDirectory, failed after still]
          exact ⟨rfl, nofun⟩
        by_cases link : ∃ target, before.look (here ++ [name]) = some (.link target)
        · obtain ⟨target, isLink⟩ := link
          rw [met_through isDirectory isLink, if_neg long, List.mem_singleton] at unmet
          have stillLink := (lacks.look_of_apart (apart_concat apart unmet)).trans isLink
          rw [stride_through isDirectory isLink, stride_through still stillLink]
          refine ⟨rfl, fun went ran => ?_⟩
          simp only [reduceCtorEq, false_and, if_false, long, Except.ok.injEq] at ran
          exact ran ▸ apart
        · have noLink := not_exists.mp link
          rw [met_into isDirectory noLink, if_neg long, List.mem_cons, not_or] at unmet
          have apartBelow := apart_concat apart unmet.1
          have stillNoLink (target : Bytes) : after.look (here ++ [name]) ≠ some (.link target) := by
            rw [lacks.look_of_apart apartBelow]
            exact noLink target
          rw [stride_into isDirectory noLink, stride_into still stillNoLink]
          simp only [reduceCtorEq, false_and, if_false, long]
          exact ih apartBelow unmet.2
    · rw [stride_cons, stride_cons, same]
      rcases found : before.look here with _ | _ | _ | _
      · exact ⟨rfl, nofun⟩
      · exact absurd found isDirectory
      · exact ⟨rfl, nofun⟩
      · exact ⟨rfl, nofun⟩

/-- What enters the removed place gets no further. -/
private theorem stride_blocked (apart : ¬removed <+: here) (isMet : removed ∈ before.met here steps) :
    after.stride .follow here steps = .ok (.arrived removed) ∨
      ∃ error, after.stride .follow here steps = .error error := by
  induction steps generalizing here with
  | nil => cases isMet
  | cons step rest ih =>
    have same := lacks.look_of_apart apart
    by_cases isDirectory : before.look here = some .directory
    · have still := same.trans isDirectory
      cases step with
      | stay | slash =>
        rw [met_cons, isDirectory] at isMet
        rw [stride_cons, still]
        exact ih apart isMet
      | up =>
        rw [met_cons, isDirectory] at isMet
        rw [stride_cons, still]
        exact ih (fun within => apart (within.trans (List.dropLast_prefix here))) isMet
      | enter name =>
        by_cases long : maxName < name.length
        · exact .inr ⟨.nameTooLong, by rw [stride_cons, still]; simp [long]⟩
        by_cases entered : removed = here ++ [name]
        -- where the place was entered, the steps behind it find no directory
        · have gone := entered ▸ lacks.look_removed
          rw [stride_into still (by simp [gone])]
          simp only [reduceCtorEq, false_and, if_false, long]
          cases rest with
          | nil => exact .inl (by rw [entered]; rfl)
          | cons next rest => exact .inr (stride_of_no_directory (by simp [gone]) .follow next rest)
        · have apartBelow := apart_concat apart entered
          by_cases link : ∃ target, before.look (here ++ [name]) = some (.link target)
          · obtain ⟨target, isLink⟩ := link
            rw [met_through isDirectory isLink, if_neg long, List.mem_singleton] at isMet
            exact absurd isMet entered
          · have noLink := not_exists.mp link
            rw [met_into isDirectory noLink, if_neg long, List.mem_cons, or_iff_right entered] at isMet
            have stillNoLink (target : Bytes) : after.look (here ++ [name]) ≠ some (.link target) := by
              rw [lacks.look_of_apart apartBelow]
              exact noLink target
            rw [stride_into still stillNoLink]
            simp only [reduceCtorEq, false_and, if_false, long]
            exact ih apartBelow isMet
    · rw [met_of_no_directory isDirectory] at isMet
      cases isMet

variable (notRoot : removed ≠ .root)

omit lacks in
include notRoot in
private theorem apart_behind (apart : ¬removed <+: here) (target : Bytes) : ¬removed <+: behind here target := by
  rw [behind]
  split
  · exact fun within => notRoot (List.prefix_nil.mp within)
  · exact apart

include notRoot

private theorem walk_eq (apart : ¬removed <+: here) (unpassed : removed ∉ before.wayFrom links here steps) :
    after.walk .follow links here steps = before.walk .follow links here steps ∧
      ∀ place, before.walk .follow links here steps = .ok place → ¬removed <+: place := by
  -- a walk may fail as well, so this is by the links that are left and not by how it arrived
  induction links using Nat.strongRecOn generalizing here steps with | ind links ih => ?_
  have unmet : removed ∉ before.met here steps := by
    rw [wayFrom.eq_def] at unpassed
    exact fun isMet => unpassed (List.mem_append_left _ isMet)
  obtain ⟨same, outside⟩ := lacks.stride_eq apart unmet
  rcases ran : before.stride .follow here steps with error | place | ⟨directory, target, rest⟩
  · rw [walk_of_error ran, walk_of_error (same.trans ran)]
    exact ⟨rfl, fun place arrived => by cases arrived⟩
  · rw [walk_of_arrived ran, walk_of_arrived (same.trans ran)]
    refine ⟨rfl, fun location arrived => ?_⟩
    cases arrived
    exact outside _ ran
  · rw [wayFrom_of_redirected ran] at unpassed
    rw [walk_of_redirected ran, walk_of_redirected (same.trans ran)]
    cases links with
    | zero => exact ⟨rfl, fun place arrived => by cases arrived⟩
    | succ fewer =>
      exact ih fewer (Nat.lt_succ_self fewer) (apart_behind notRoot (outside _ ran) target)
        fun passed => unpassed (List.mem_append_right _ passed)

private theorem walk_blocked (apart : ¬removed <+: here) (passed : removed ∈ before.wayFrom links here steps)
    (arrived : after.walk .follow links here steps = .ok place) : after.look place = none := by
  induction links using Nat.strongRecOn generalizing here steps with | ind links ih => ?_
  by_cases isMet : removed ∈ before.met here steps
  · rcases lacks.stride_blocked apart isMet with ran | ⟨error, ran⟩
    · obtain rfl := Except.ok.inj ((walk_of_arrived ran).symm.trans arrived)
      exact lacks.look_removed
    · cases (walk_of_error ran).symm.trans arrived
  · obtain ⟨same, outside⟩ := lacks.stride_eq apart isMet
    rcases ran : before.stride .follow here steps with error | reached | ⟨directory, target, rest⟩
    · rw [wayFrom_of_error ran] at passed
      exact absurd passed isMet
    · rw [wayFrom_of_arrived ran] at passed
      exact absurd passed isMet
    · rw [wayFrom_of_redirected ran, List.mem_append, or_iff_right isMet] at passed
      rw [walk_of_redirected (same.trans ran)] at arrived
      cases links with
      | zero => contradiction
      | succ fewer =>
        exact ih fewer (Nat.lt_succ_self fewer) (apart_behind notRoot (outside _ ran) target) passed arrived

/-- What does not pass the removed place leads where it led, which is outside of it. -/
theorem locate_eq (proper : location.Proper) (unpassed : removed ∉ before.way location)
    (arrived : before.locate .follow location.toPath = .ok place) :
    after.locate .follow location.toPath = .ok place ∧ ¬removed <+: place := by
  have fits := fits_of_locate arrived
  rw [locate_of_fits fits proper] at arrived ⊢
  obtain ⟨same, outside⟩ :=
    lacks.walk_eq notRoot (fun within => notRoot (List.prefix_nil.mp within)) unpassed
  exact ⟨same.trans arrived, outside place arrived⟩

/-- What passes the removed place leads nowhere. -/
theorem shown_eq_none (proper : location.Proper) (passed : removed ∈ before.way location) :
    after.shown location = none := by
  refine Option.eq_none_iff_forall_ne_some.mpr fun node seen => ?_
  obtain ⟨place, arrived, there⟩ := shown_eq_some_iff.mp seen
  rw [locate_of_fits (fits_of_locate arrived) proper] at arrived
  have gone := lacks.walk_blocked notRoot (fun within => notRoot (List.prefix_nil.mp within)) passed arrived
  rw [gone] at there
  contradiction

end Lacks

/-- Whatever the way to a place passes, the ways further down pass too. -/
theorem way_subset (disk : Disk) (location suffix : Location) : disk.way location ⊆ disk.way (location ++ suffix) := by
  induction suffix using List.reverseRecOn with
  | nil => rw [List.append_nil]; exact List.Subset.refl _
  | append_singleton initial name ih =>
    refine List.Subset.trans ih ?_
    have further : (location ++ initial ++ [name]).map Step.enter = (location ++ initial).map .enter ++ [.enter name] :=
      List.map_append
    rw [← List.append_assoc, way, way, further]
    rcases disk.walk_enter maxLinks .root ((location ++ initial).map .enter) with
      ⟨error, -, more⟩ | ⟨place, left, -, more⟩
    · exact fun query member => (more name).2 ▸ member
    · exact fun query member => (more name).2 ▸ List.mem_append_left _ member

/-! ## Below a place without links -/

section Below

variable (noLink : ∀ suffix target, disk.look (place ++ suffix) ≠ some (.link target))
  (arrived : disk.locate .follow location.toPath = .ok place)

include noLink arrived

/-- From a place without links below it the names lead straight down. -/
theorem locate_below {query : Location} (proper : Location.Proper (location ++ suffix))
    (reached : disk.locate .follow (Location.toPath (location ++ suffix)) = .ok query) : query = place ++ suffix := by
  induction suffix using List.reverseRecOn generalizing query with
  | nil =>
    rw [List.append_nil] at reached ⊢
    exact (Except.ok.inj (arrived.symm.trans reached)).symm
  | append_singleton initial name ih =>
    rw [← List.append_assoc] at proper reached ⊢
    obtain ⟨above, reachedAbove, -, -, ⟨rfl⟩ | ⟨-, target, isLink⟩⟩ := locate_concat_ok proper reached
    · rw [ih (proper.of_prefix (List.prefix_append ..)) reachedAbove]
    · rw [ih (proper.of_prefix (List.prefix_append ..)) reachedAbove, List.append_assoc] at isLink
      exact absurd isLink (noLink _ target)

/-- Another disk that has the same below the place shows the same there. -/
theorem shown_below (same : ∀ suffix, after.look (place ++ suffix) = disk.look (place ++ suffix))
    (arrivedAfter : after.locate .follow location.toPath = .ok place) (proper : Location.Proper (location ++ suffix))
    (seen : disk.shown (location ++ suffix) = some node) : after.shown (location ++ suffix) = some node := by
  have reached : ∀ {query}, disk.locate .follow (Location.toPath (location ++ suffix)) = .ok query →
      after.locate .follow (Location.toPath (location ++ suffix)) = .ok (place ++ suffix) := by
    clear seen
    induction suffix using List.reverseRecOn with
    | nil => exact fun _ => by simpa using arrivedAfter
    | append_singleton initial name ih =>
      intro query reached
      have fits := fits_of_locate reached
      rw [← List.append_assoc] at proper reached fits ⊢
      have properAbove := proper.of_prefix (List.prefix_append ..)
      obtain ⟨above, reachedAbove, isDirectory, short, -⟩ := locate_concat_ok proper reached
      rw [locate_below noLink arrived properAbove reachedAbove, ← same] at isDirectory
      rw [← List.append_assoc]
      refine locate_concat proper (ih properAbove reachedAbove) fits isDirectory short (.inr fun target isLink => ?_)
      rw [List.append_assoc, same] at isLink
      exact noLink _ target isLink
  obtain ⟨query, arrivedBelow, there⟩ := shown_eq_some_iff.mp seen
  refine shown_eq_some_iff.mpr ⟨_, reached arrivedBelow, ?_⟩
  rw [same, ← locate_below noLink arrived proper arrivedBelow, there]

end Below

end Disk

end FileGateway
