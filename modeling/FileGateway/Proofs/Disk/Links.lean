import FileGateway.Proofs.Disk.Continuity
import FileGateway.Proofs.Disk.Missing

/-! # Walks through links

On a disk with symbolic links the text of a place may lead anywhere. A walk is decided by the look of the disk
alone, and it goes name by name: where the text of a place leads is found by walking to the place above and
entering one more name. The way of a walk is every place that it enters. What was added to a disk since does not
stop a walk that arrived, and what was taken away stops exactly those whose way leads there.
-/

namespace FileGateway

/-- The number of a file. -/
def DiskEntry.number? : DiskEntry → Option Nat
  | .file number => some number
  | .directory _ | .link _ _ => none

namespace Disk

variable {disk before middle after : Disk} {ending : Ending} {here place location above removed : Location}
  {steps rest : List Step} {name : Name} {links : Nat} {node : Occupant}

/-- Whatever is on a disk stands in directories, and every file has its contents. Links may be anywhere. -/
structure Orderly (disk : Disk) : Prop where
  hierarchy : Hierarchy disk.look
  allotted : disk.Allotted

/-- Whether a disk is orderly can be seen from its entries, one by one. -/
theorem orderly_iff : disk.Orderly ↔ disk.look .root = some .directory ∧ ∀ entry ∈ disk.tree.entries,
    entry.1.Proper ∧ (entry.1 = .root ∨ disk.look entry.1.dropLast = some .directory) ∧
      ∀ number ∈ entry.2.number?, number < disk.files.length := by
  constructor
  · rintro ⟨hierarchy, allotted⟩
    refine ⟨hierarchy.root, fun ⟨place, entry⟩ member => ?_⟩
    have present := SortedMap.get?_eq_some_iff.mpr member
    have found : disk.look place = some (disk.occupantOf entry) := by rw [look, present, Option.map_some]
    refine ⟨hierarchy.proper found, or_iff_not_imp_left.mpr fun notRoot => ?_, fun number isNumber => ?_⟩
    · exact hierarchy.above found (List.dropLast_prefix place)
        fun same => Location.not_prefix_dropLast notRoot (by rw [same])
    · cases entry with
      | directory | link => cases isNumber
      | file own =>
        cases isNumber
        exact allotted present
  · rintro ⟨root, each⟩
    have standing {place : Location} (found : disk.look place = some .directory) :
        ∃ holder, disk.tree.get? place = some holder ∧ ∃ modified, holder = .directory modified := by
      obtain ⟨modified, present⟩ := look_eq_directory_iff.mp found
      exact ⟨_, present, modified, rfl⟩
    refine ⟨hierarchy_of_rooted ⟨standing root, fun present => ?_, fun present isParent => ?_⟩,
      fun place number present => ?_⟩
    · exact (each _ (SortedMap.get?_eq_some_iff.mp present)).1
    · obtain ⟨notRoot, rfl⟩ := Location.parent?_eq_some_iff.mp isParent
      exact standing ((each _ (SortedMap.get?_eq_some_iff.mp present)).2.1.resolve_left notRoot)
    · exact (each _ (SortedMap.get?_eq_some_iff.mp present)).2.2 number rfl

/-- The name of an entry can stand at the end of any place. -/
theorem Orderly.proper_entry {entry : DiskEntry} (orderly : disk.Orderly) (proper : above.Proper)
    (present : disk.tree.get? (place ++ [name]) = some entry) : Location.Proper (above ++ [name]) := by
  have found : disk.look (place ++ [name]) = some (disk.occupantOf entry) := by rw [look, present, Option.map_some]
  exact Location.proper_append.mpr ⟨proper, (Location.proper_append.mp (orderly.hierarchy.proper found)).2⟩

/-- Orderliness is a matter of the entries, as long as every file has its contents. -/
theorem Orderly.of_tree (orderly : before.Orderly) (tree : after.tree = before.tree)
    (count : before.files.length ≤ after.files.length) : after.Orderly := by
  have directory (location : Location) :
      after.look location = some .directory ↔ before.look location = some .directory := by
    rw [look_eq_directory_iff, look_eq_directory_iff, tree]
  obtain ⟨root, each⟩ := orderly_iff.mp orderly
  refine orderly_iff.mpr ⟨(directory .root).mpr root, fun entry member => ?_⟩
  obtain ⟨proper, above, allotted⟩ := each entry (tree ▸ member)
  exact ⟨proper, above.imp_right (directory _).mpr, fun number isNumber => (allotted number isNumber).trans_le count⟩

instance (disk : Disk) : Decidable disk.Orderly := decidable_of_iff' _ orderly_iff

/-! ## One step of a walk -/

theorem stride_cons (disk : Disk) (ending : Ending) (here : Location) (step : Step) (rest : List Step) :
    disk.stride ending here (step :: rest) =
      match disk.look here with
      | none => .error .notFound
      | some (.file _) | some (.link _) => .error .notADirectory
      | some .directory =>
        match step with
        | .stay | .slash => disk.stride ending here rest
        | .up => disk.stride ending here.dropLast rest
        | .enter name =>
          if ending = .create ∧ rest = [.slash] then .error .isADirectory
          else if maxName < name.length then .error .nameTooLong
          else
            match disk.look (here ++ [name]) with
            | some (.link target) =>
              if ending = .keep ∧ rest = [] then .ok (.arrived (here ++ [name]))
              else .ok (.redirected here target rest)
            | _ => disk.stride ending (here ++ [name]) rest := by
  rw [stride.eq_def]
  simp only [look]
  cases disk.tree.get? here with
  | none => rfl
  | some entry =>
    cases entry with
    | file | link => rfl
    | directory modified =>
      cases step with
      | stay | slash | up => rfl
      | enter name =>
        simp only [Option.map_some, occupantOf]
        split_ifs
        · rfl
        · rfl
        · cases disk.tree.get? (here ++ [name]) with
          | none => rfl
          | some below => cases below <;> rfl
        · cases disk.tree.get? (here ++ [name]) with
          | none => rfl
          | some below => cases below <;> rfl

/-- The places that a walk enters before it ends or comes to a link. -/
def met (disk : Disk) : Location → List Step → List Location
  | _, [] => []
  | here, step :: rest =>
    match disk.look here with
    | some .directory =>
      match step with
      | .stay | .slash => disk.met here rest
      | .up => disk.met here.dropLast rest
      | .enter name =>
        if maxName < name.length then []
        else
          (here ++ [name]) ::
            match disk.look (here ++ [name]) with
            | some (.link _) => []
            | _ => disk.met (here ++ [name]) rest
    | _ => []

theorem met_cons (disk : Disk) (here : Location) (step : Step) (rest : List Step) :
    disk.met here (step :: rest) =
      match disk.look here with
      | some .directory =>
        match step with
        | .stay | .slash => disk.met here rest
        | .up => disk.met here.dropLast rest
        | .enter name =>
          if maxName < name.length then []
          else
            (here ++ [name]) ::
              match disk.look (here ++ [name]) with
              | some (.link _) => []
              | _ => disk.met (here ++ [name]) rest
      | _ => [] := by
  rw [met.eq_def]

/-- Where a walk goes on behind a link. -/
def behind (directory : Location) (target : Bytes) : Location :=
  if target.head? = some Path.slash then .root else directory

/-- The places that a walk enters, links followed, up to where it ends or fails. -/
def wayFrom (disk : Disk) : Nat → Location → List Step → List Location
  | links, here, steps =>
    disk.met here steps ++
      match disk.stride .follow here steps with
      | .ok (.redirected directory target rest) =>
        match links with
        | 0 => []
        | links + 1 => disk.wayFrom links (behind directory target) (Step.ofBytes target ++ rest)
      | _ => []

/-- The places on the way to where the text of a place leads. -/
def way (disk : Disk) (location : Location) : List Location :=
  disk.wayFrom maxLinks .root (location.map .enter)

section Enter

variable (isDirectory : disk.look here = some .directory)

include isDirectory

theorem stride_into (noLink : ∀ target, disk.look (here ++ [name]) ≠ some (.link target)) :
    disk.stride ending here (.enter name :: rest) =
      if ending = .create ∧ rest = [.slash] then .error .isADirectory
      else if maxName < name.length then .error .nameTooLong
      else disk.stride ending (here ++ [name]) rest := by
  rw [stride_cons, isDirectory]
  simp only

theorem stride_through {target : Bytes} (isLink : disk.look (here ++ [name]) = some (.link target)) :
    disk.stride ending here (.enter name :: rest) =
      if ending = .create ∧ rest = [.slash] then .error .isADirectory
      else if maxName < name.length then .error .nameTooLong
      else if ending = .keep ∧ rest = [] then .ok (.arrived (here ++ [name]))
      else .ok (.redirected here target rest) := by
  rw [stride_cons, isDirectory]
  simp only [isLink]

theorem met_into (noLink : ∀ target, disk.look (here ++ [name]) ≠ some (.link target)) :
    disk.met here (.enter name :: rest) =
      if maxName < name.length then [] else (here ++ [name]) :: disk.met (here ++ [name]) rest := by
  rw [met_cons, isDirectory]
  simp only

theorem met_through {target : Bytes} (isLink : disk.look (here ++ [name]) = some (.link target)) :
    disk.met here (.enter name :: rest) = if maxName < name.length then [] else [here ++ [name]] := by
  rw [met_cons, isDirectory]
  simp only [isLink]

end Enter

theorem stride_of_no_directory (noDirectory : disk.look here ≠ some .directory) (ending : Ending) (step : Step)
    (rest : List Step) :
    ∃ error, disk.stride ending here (step :: rest) = .error error := by
  rw [stride_cons]
  rcases found : disk.look here with _ | _ | _ | _
  · exact ⟨_, rfl⟩
  · exact absurd found noDirectory
  · exact ⟨_, rfl⟩
  · exact ⟨_, rfl⟩

theorem met_of_no_directory (noDirectory : disk.look here ≠ some .directory) (step : Step) :
    disk.met here (step :: rest) = [] := by
  rw [met_cons]
  rcases found : disk.look here with _ | _ | _ | _
  · rfl
  · exact absurd found noDirectory
  · rfl
  · rfl

theorem walk_of_arrived (went : disk.stride ending here steps = .ok (.arrived place)) :
    disk.walk ending links here steps = .ok place := by
  rw [walk.eq_def]
  simp only [went]

theorem walk_of_error {error : SystemError} (went : disk.stride ending here steps = .error error) :
    disk.walk ending links here steps = .error error := by
  rw [walk.eq_def]
  simp only [went]

theorem walk_of_redirected {directory : Location} {target : Bytes}
    (went : disk.stride ending here steps = .ok (.redirected directory target rest)) :
    disk.walk ending links here steps =
      match links with
      | 0 => .error .tooManyLinks
      | links + 1 => disk.walk ending links (behind directory target) (Step.ofBytes target ++ rest) := by
  rw [walk.eq_def]
  simp only [went]
  rfl

/-- A walk that arrives does so by one stride, or by a stride to a link and a walk that arrives from behind it. -/
theorem walk_induct {motive : Nat → Location → List Step → Prop}
    (direct : ∀ {links here steps}, disk.stride ending here steps = .ok (.arrived place) → motive links here steps)
    (onward : ∀ {links here steps directory target rest},
      disk.stride ending here steps = .ok (.redirected directory target rest) →
      disk.walk ending links (behind directory target) (Step.ofBytes target ++ rest) = .ok place →
      motive links (behind directory target) (Step.ofBytes target ++ rest) → motive (links + 1) here steps)
    (arrived : disk.walk ending links here steps = .ok place) : motive links here steps := by
  induction links using Nat.strongRecOn generalizing here steps with | ind links ih => ?_
  rcases went : disk.stride ending here steps with error | reached | ⟨directory, target, rest⟩
  · cases (walk_of_error went).symm.trans arrived
  · obtain rfl := Except.ok.inj ((walk_of_arrived went).symm.trans arrived)
    exact direct went
  · have further := (walk_of_redirected went).symm.trans arrived
    cases links with
    | zero => cases further
    | succ fewer => exact onward went further (ih fewer (Nat.lt_succ_self fewer) further)

theorem wayFrom_of_redirected {directory : Location} {target : Bytes}
    (went : disk.stride .follow here steps = .ok (.redirected directory target rest)) :
    disk.wayFrom links here steps = disk.met here steps ++
      match links with
      | 0 => []
      | links + 1 => disk.wayFrom links (behind directory target) (Step.ofBytes target ++ rest) := by
  rw [wayFrom.eq_def]
  simp only [went]

theorem wayFrom_of_arrived (went : disk.stride .follow here steps = .ok (.arrived place)) :
    disk.wayFrom links here steps = disk.met here steps := by
  rw [wayFrom.eq_def]
  simp only [went, List.append_nil]

theorem wayFrom_of_error {error : SystemError} (went : disk.stride .follow here steps = .error error) :
    disk.wayFrom links here steps = disk.met here steps := by
  rw [wayFrom.eq_def]
  simp only [went, List.append_nil]

/-! ## Entering one more name -/

/-- Entering a name goes on from where the steps before it lead. -/
private theorem stride_enter (disk : Disk) (ending : Ending) (here : Location) (steps : List Step) (name : Name) :
    disk.stride ending here (steps ++ [Step.enter name]) =
      match disk.stride .follow here steps with
      | .error error => .error error
      | .ok (.arrived place) => disk.stride ending place [.enter name]
      | .ok (.redirected directory target rest) => .ok (.redirected directory target (rest ++ [Step.enter name])) := by
  induction steps generalizing here with
  | nil => rfl
  | cons step rest ih =>
    rw [List.cons_append]
    by_cases isDirectory : disk.look here = some .directory
    · cases step with
      | stay | slash | up =>
        rw [stride_cons, stride_cons, isDirectory]
        exact ih _
      | enter next =>
        have more : ¬(ending = .create ∧ rest ++ [Step.enter name] = [.slash]) := by
          rintro ⟨-, same⟩
          cases rest <;> simp at same
        by_cases link : ∃ target, disk.look (here ++ [next]) = some (.link target)
        · obtain ⟨target, isLink⟩ := link
          rw [stride_through isDirectory isLink, stride_through isDirectory isLink, if_neg more]
          simp only [reduceCtorEq, false_and, if_false, List.append_eq_nil_iff, and_false]
          split <;> rfl
        · rw [stride_into isDirectory (not_exists.mp link), stride_into isDirectory (not_exists.mp link), if_neg more]
          simp only [reduceCtorEq, false_and, if_false]
          split
          · rfl
          · exact ih _
    · rw [stride_cons, stride_cons]
      rcases found : disk.look here with _ | _ | _ | _
      · rfl
      · exact absurd found isDirectory
      · rfl
      · rfl

private theorem met_enter (disk : Disk) (here : Location) (steps : List Step) (name : Name) :
    disk.met here (steps ++ [Step.enter name]) = disk.met here steps ++
      match disk.stride .follow here steps with
      | .ok (.arrived place) => disk.met place [.enter name]
      | _ => [] := by
  induction steps generalizing here with
  | nil => rfl
  | cons step rest ih =>
    rw [List.cons_append]
    by_cases isDirectory : disk.look here = some .directory
    · cases step with
      | stay | slash | up =>
        rw [met_cons, met_cons, stride_cons, isDirectory]
        exact ih _
      | enter next =>
        by_cases link : ∃ target, disk.look (here ++ [next]) = some (.link target)
        · obtain ⟨target, isLink⟩ := link
          rw [met_through isDirectory isLink, met_through isDirectory isLink, stride_through isDirectory isLink]
          simp only [reduceCtorEq, false_and, if_false]
          split <;> rfl
        · rw [met_into isDirectory (not_exists.mp link), met_into isDirectory (not_exists.mp link),
            stride_into isDirectory (not_exists.mp link)]
          simp only [reduceCtorEq, false_and, if_false]
          split
          · rfl
          · exact congrArg _ (ih _)
    · obtain ⟨error, failed⟩ := stride_of_no_directory isDirectory .follow step rest
      rw [met_of_no_directory isDirectory, met_of_no_directory isDirectory, failed]
      rfl

/-- A walk over some steps and one more name: the walk over the steps fails, and so does the whole, or it arrives
and the rest is a walk from there with the links that are left. -/
theorem walk_enter (disk : Disk) (links : Nat) (here : Location) (steps : List Step) :
    (∃ error, disk.walk .follow links here steps = .error error ∧ ∀ name,
      (∀ ending, disk.walk ending links here (steps ++ [Step.enter name]) = .error error) ∧
      disk.wayFrom links here (steps ++ [Step.enter name]) = disk.wayFrom links here steps) ∨
    (∃ place left, disk.walk .follow links here steps = .ok place ∧ ∀ name,
      (∀ ending, disk.walk ending links here (steps ++ [Step.enter name]) = disk.walk ending left place [.enter name]) ∧
      disk.wayFrom links here (steps ++ [Step.enter name]) =
        disk.wayFrom links here steps ++ disk.wayFrom left place [.enter name]) := by
  have entered := stride_enter disk
  have passed := met_enter disk here steps
  rcases went : disk.stride .follow here steps with error | place | ⟨directory, target, rest⟩ <;>
    simp only [went] at passed
  · refine .inl ⟨error, walk_of_error went, fun name => ⟨fun ending => walk_of_error ?_, ?_⟩⟩
    · rw [entered, went]
    · rw [wayFrom_of_error went, wayFrom_of_error (by rw [entered, went]), passed, List.append_nil]
  · have whole (ending : Ending) (name : Name) :
        disk.stride ending here (steps ++ [Step.enter name]) = disk.stride ending place [.enter name] := by
      rw [entered, went]
    refine .inr ⟨place, links, walk_of_arrived went, fun name => ⟨fun ending => ?_, ?_⟩⟩
    · rw [walk.eq_def, walk.eq_def]
      simp only [whole]
    · rw [wayFrom_of_arrived went, wayFrom.eq_def, wayFrom.eq_def]
      simp only [whole, passed, List.append_assoc]
  · have whole (ending : Ending) (name : Name) : disk.stride ending here (steps ++ [Step.enter name]) =
        .ok (.redirected directory target (rest ++ [Step.enter name])) := by
      rw [entered, went]
    simp only [walk_of_redirected went, walk_of_redirected (whole _ _), wayFrom_of_redirected went,
      wayFrom_of_redirected (whole _ _), passed, List.append_nil]
    cases links with
    | zero => exact .inl ⟨_, rfl, fun name => ⟨fun ending => rfl, rfl⟩⟩
    | succ links =>
      simp only [← List.append_assoc]
      rcases walk_enter disk links (behind directory target) (Step.ofBytes target ++ rest) with
        ⟨error, failed, more⟩ | ⟨place, left, arrived, more⟩
      · exact .inl ⟨error, failed, fun name => ⟨(more name).1, congrArg _ (more name).2⟩⟩
      · exact .inr ⟨place, left, arrived, fun name => ⟨(more name).1, by rw [(more name).2, List.append_assoc]⟩⟩

/-- Where a name leads: to its place in a directory, or on through a link. -/
private theorem walk_name_ok (arrived : disk.walk ending links place [.enter name] = .ok location) :
    disk.look place = some .directory ∧ name.length ≤ maxName ∧
      (location = place ++ [name] ∨ ending ≠ .keep ∧ ∃ target, disk.look (place ++ [name]) = some (.link target)) := by
  have ran := stride_cons disk ending place (.enter name) []
  rcases found : disk.look place with _ | _ | _ | _ <;> simp only [found] at ran
  · cases (walk_of_error ran).symm.trans arrived
  · by_cases long : maxName < name.length
    · simp only [List.nil_eq, reduceCtorEq, and_false, if_false, long, if_true] at ran
      cases (walk_of_error ran).symm.trans arrived
    · simp only [List.nil_eq, reduceCtorEq, and_false, if_false, long, and_true] at ran
      refine ⟨rfl, Nat.le_of_not_lt long, ?_⟩
      by_cases followed : ending ≠ .keep ∧ ∃ target, disk.look (place ++ [name]) = some (.link target)
      · exact .inr followed
      · have settled : disk.stride ending place [.enter name] = .ok (.arrived (place ++ [name])) := by
          rw [ran]
          split
          · next target isLink => rw [if_pos (by_contra fun follows => followed ⟨follows, target, isLink⟩)]
          · rfl
        exact .inl (Except.ok.inj ((walk_of_arrived settled).symm.trans arrived)).symm
  · cases (walk_of_error ran).symm.trans arrived
  · cases (walk_of_error ran).symm.trans arrived

/-- What is in a directory is entered, and a link as well if it is to be kept. -/
private theorem stride_name (isDirectory : disk.look place = some .directory) (short : name.length ≤ maxName)
    (unfollowed : ending = .keep ∨ ∀ target, disk.look (place ++ [name]) ≠ some (.link target)) :
    disk.stride ending place [.enter name] = .ok (.arrived (place ++ [name])) := by
  rw [stride_cons, isDirectory]
  simp only [List.nil_eq, reduceCtorEq, and_false, if_false, Nat.not_lt.mpr short, and_true]
  split
  · next target isLink => rw [if_pos (unfollowed.resolve_right fun noLink => noLink target isLink)]
  · rfl

private theorem wayFrom_name (isDirectory : disk.look place = some .directory) (short : name.length ≤ maxName)
    (noLink : ∀ target, disk.look (place ++ [name]) ≠ some (.link target)) :
    disk.wayFrom links place [.enter name] = [place ++ [name]] := by
  rw [wayFrom_of_arrived (stride_name isDirectory short (.inr noLink)), met_cons, isDirectory]
  simp only [Nat.not_lt.mpr short, if_false]
  rfl

/-! ## The texts of places -/

/-- The text of a place is one that a disk takes. -/
def Fits (location : Location) : Prop := 0 ∉ location.toPath.bytes ∧ location.toPath.bytes.length < pathLimit

theorem Legible.fits (legible : Legible location) : Fits location := ⟨legible.noNul, legible.short⟩

theorem Fits.of_prefix (fits : Fits location) (within : above <+: location) : Fits above :=
  ⟨fun member => fits.1 ((Location.prefix_toPath within).subset member),
    (Location.prefix_toPath within).length_le.trans_lt fits.2⟩

theorem fits_of_locate (arrived : disk.locate ending location.toPath = .ok place) : Fits location := by
  rw [locate] at arrived
  split_ifs at arrived with nul empty long
  all_goals exact ⟨nul, Nat.lt_of_not_le long⟩

theorem locate_of_fits (fits : Fits location) (proper : location.Proper) (disk : Disk) (ending : Ending) :
    disk.locate ending location.toPath = disk.walk ending maxLinks .root (location.map .enter) := by
  rw [locate, if_neg fits.1, if_neg (by simp [Location.toPath, Path.ofNames]), if_neg (Nat.not_le.mpr fits.2)]
  simp only [Location.isAbsolute_toPath, if_true, Step.ofBytes_toPath proper]

theorem locate_root (disk : Disk) (ending : Ending) : disk.locate ending Location.root.toPath = .ok .root := by
  rw [locate_of_fits ⟨by decide, by decide⟩ Location.proper_root]
  exact walk_of_arrived rfl

section Concat

variable (proper : Location.Proper (above ++ [name]))

include proper

/-- What the text of a place leads to is found in a directory that the text above leads to, under the last name or
through a link there. -/
theorem locate_concat_ok (arrived : disk.locate ending (Location.toPath (above ++ [name])) = .ok location) :
    ∃ place, disk.locate .follow above.toPath = .ok place ∧ disk.look place = some .directory ∧
      name.length ≤ maxName ∧
      (location = place ++ [name] ∨ ending ≠ .keep ∧ ∃ target, disk.look (place ++ [name]) = some (.link target)) := by
  have fits := fits_of_locate arrived
  have within : above <+: above ++ [name] := List.prefix_append ..
  rw [locate_of_fits fits proper, List.map_append] at arrived
  rcases disk.walk_enter maxLinks .root (above.map .enter) with ⟨error, -, more⟩ | ⟨place, left, reached, more⟩
  · cases ((more name).1 ending).symm.trans arrived
  · refine ⟨place, ?_, walk_name_ok (((more name).1 ending).symm.trans arrived)⟩
    rwa [locate_of_fits (fits.of_prefix within) (proper.of_prefix within)]

/-- Where no directory is above, the way ends there. -/
theorem way_concat_of_no_directory (fits : Fits above)
    (noDirectory : ∀ place, disk.locate .follow above.toPath = .ok place → disk.look place ≠ some .directory) :
    disk.way (above ++ [name]) = disk.way above := by
  have within : above <+: above ++ [name] := List.prefix_append ..
  rw [way, way, List.map_append]
  rcases disk.walk_enter maxLinks .root (above.map .enter) with ⟨error, -, more⟩ | ⟨place, left, reached, more⟩
  · exact (more name).2
  · have none := noDirectory place ((locate_of_fits fits (proper.of_prefix within) ..).trans reached)
    have nowhere : disk.wayFrom left place [.enter name] = [] := by
      obtain ⟨error, failed⟩ := stride_of_no_directory none .follow (.enter name) []
      rw [wayFrom_of_error failed, met_of_no_directory none]
    exact (more name).2.trans (by rw [nowhere, List.append_nil])

variable (arrived : disk.locate .follow above.toPath = .ok place)

include arrived

theorem locate_concat (fits : Fits (above ++ [name])) (isDirectory : disk.look place = some .directory)
    (short : name.length ≤ maxName)
    (unfollowed : ending = .keep ∨ ∀ target, disk.look (place ++ [name]) ≠ some (.link target)) :
    disk.locate ending (Location.toPath (above ++ [name])) = .ok (place ++ [name]) := by
  have within : above <+: above ++ [name] := List.prefix_append ..
  rw [locate_of_fits (fits.of_prefix within) (proper.of_prefix within)] at arrived
  rw [locate_of_fits fits proper, List.map_append]
  rcases disk.walk_enter maxLinks .root (above.map .enter) with ⟨error, failed, -⟩ | ⟨other, left, reached, more⟩
  · cases failed.symm.trans arrived
  · obtain rfl : other = place := Except.ok.inj (reached.symm.trans arrived)
    exact ((more name).1 ending).trans (walk_of_arrived (stride_name isDirectory short unfollowed))

/-- A place in a directory is entered last. -/
theorem way_concat (isDirectory : disk.look place = some .directory) (short : name.length ≤ maxName)
    (noLink : ∀ target, disk.look (place ++ [name]) ≠ some (.link target)) :
    disk.way (above ++ [name]) = disk.way above ++ [place ++ [name]] := by
  have within : above <+: above ++ [name] := List.prefix_append ..
  rw [locate_of_fits (fits_of_locate arrived) (proper.of_prefix within)] at arrived
  rw [way, way, List.map_append]
  rcases disk.walk_enter maxLinks .root (above.map .enter) with ⟨error, failed, -⟩ | ⟨other, left, reached, more⟩
  · cases failed.symm.trans arrived
  · obtain rfl : other = place := Except.ok.inj (reached.symm.trans arrived)
    exact (more name).2.trans (congrArg _ (wayFrom_name isDirectory short noLink))

end Concat

/-- What leads anywhere is legible. -/
theorem legible_of_locate (proper : location.Proper) (arrived : disk.locate ending location.toPath = .ok place) :
    Legible location := by
  refine ⟨?_, (fits_of_locate arrived).1, (fits_of_locate arrived).2⟩
  induction location using List.reverseRecOn generalizing ending place with
  | nil => simp
  | append_singleton above name ih =>
    obtain ⟨holder, reached, -, short, -⟩ := locate_concat_ok proper arrived
    intro other member
    rcases List.mem_append.mp member with inAbove | last
    · exact ih (proper.of_prefix (List.prefix_append ..)) reached other inAbove
    · obtain rfl := List.mem_singleton.mp last
      exact short

end Disk

end FileGateway
