import FileGateway.Proofs.Storage.Growth
import FileGateway.Proofs.Storage.Run

/-! # Copies are faithful

A copy between clients of clusters or of a disk without links comes to an end. If it answers, the tree
at the target is the tree that was at the source, every file of it on a cluster is complete and has
the defaults of the cluster, and nothing else has changed but for directories made on the way to the
target and, if that was asked for, the removal of the source.
-/

namespace FileGateway.Storage

variable {storage : Storage} {sourceClient targetClient bound levels : Nat} {source target : Device}
  {sourceDirectory targetDirectory : Location} {sourcePath targetPath : Path} {conf : Configuration}

/-! ## Trees -/

/-- What a copy of a tree needs: a free target outside the source, and a bound on the depth of the
source that the levels left can reach. -/
structure Copyable (storage : Storage) (source : Device) (origin : Location) (target : Device)
    (goal : Location) (bound levels : Nat) : Prop where
  free : storage.look target goal = none
  apart : source = target → ¬origin <+: goal
  /-- On the disk the bound is the one on the length of paths. -/
  depth : ∀ suffix, source ≠ .disk → storage.look source (origin ++ suffix) ≠ none →
    (origin ++ suffix).length < bound
  pathLimit : Disk.pathLimit ≤ bound
  positive : 0 < levels
  enough : bound < levels + origin.length

/-- What is left to copy after some of the entries is copyable like the whole. -/
private theorem Copyable.child {middle : Storage} {origin goal : Location} {names : List Name} {name : Name}
    (copyable : Copyable storage source origin target goal bound (levels + 1))
    (hierarchy : Hierarchy (storage.look target)) (present : storage.look source origin ≠ none)
    (reached : origin.length < bound) (fresh : name ∉ names)
    (grown : Grown target goal (partly names fun suffix => storage.look source (origin ++ suffix))
      storage middle) :
    Copyable middle source (origin ++ [name]) target (goal ++ [name]) bound levels where
  free := by
    rw [grown.inside, partly, if_neg fresh]
  apart same within := by
    rcases List.prefix_concat_iff.mp within with equal | below
    · exact copyable.apart same (List.append_left_injective [name] equal ▸ List.prefix_rfl)
    · exact copyable.apart same ((List.prefix_append ..).trans below)
  depth suffix notDisk found := by
    rw [List.append_assoc, grown.source_kept hierarchy copyable.free present copyable.apart] at found
    rw [List.append_assoc]
    exact copyable.depth _ notDisk found
  pathLimit := copyable.pathLimit
  positive := by
    have enough := copyable.enough
    omega
  enough := by
    have enough := copyable.enough
    rw [List.length_append, List.length_singleton]
    omega

/-- What copying with so many levels is to do, whatever is to be copied. -/
def CopiesTrees (sourceClient targetClient : Nat) (conf : Configuration) (source target : Device)
    (sourceDirectory targetDirectory : Location) (bound levels : Nat) : Prop :=
  ∀ {storage : Storage} {sourcePath targetPath : Path} {origin goal : Location},
    storage.Attached sourceClient source sourceDirectory →
    storage.Attached targetClient target targetDirectory →
    sourceDirectory.resolve sourcePath = origin → targetDirectory.resolve targetPath = goal →
    Copyable storage source origin target goal bound levels →
    Ends (copyTree sourceClient targetClient conf levels sourcePath targetPath storage) fun _ after =>
      storage.look source origin ≠ none ∧
        Grown target goal (fun suffix => storage.look source (origin ++ suffix)) storage after

section Levels

variable {origin goal : Location}

/-- The tree of an entry comes to stand among those of the entries before it. -/
private theorem entry_ends
    (copies : CopiesTrees sourceClient targetClient conf source target sourceDirectory targetDirectory
      bound levels)
    (fromSource : storage.Attached sourceClient source sourceDirectory)
    (toTarget : storage.Attached targetClient target targetDirectory)
    (atTarget : targetDirectory.resolve targetPath = goal)
    (copyable : Copyable storage source origin target goal bound (levels + 1))
    (reached : origin.length < bound) (there : storage.look source origin = some .directory)
    {middle : Storage} {names : List Name} {name : Name} (fresh : name ∉ names)
    (proper : Location.Proper (origin ++ [name]))
    (grown : Grown target goal (partly names fun suffix => storage.look source (origin ++ suffix))
      storage middle) :
    Ends (copyTree sourceClient targetClient conf levels (Location.toPath (origin ++ [name]))
        (targetPath.join ⟨name⟩) middle) fun _ after =>
      Grown target goal (partly (names ++ [name]) fun suffix => storage.look source (origin ++ suffix))
        storage after := by
  have present : storage.look source origin ≠ none := by simp [there]
  have sourceEntry := Location.resolve_toPath sourceDirectory proper
  have targetEntry : targetDirectory.resolve (targetPath.join ⟨name⟩) = goal ++ [name] := by
    rw [Location.resolve_join_name _ _ (proper name (by simp)), atTarget]
  have nowAtTarget := grown.attached toTarget
  refine (copies (grown.attached fromSource) nowAtTarget sourceEntry targetEntry
    (copyable.child toTarget.hierarchy present reached fresh grown)).imp ?_
  rintro _ after ⟨-, added⟩
  -- the source of the entry is what it was when the whole copy started
  have unchanged (rest : Location) :
      middle.look source (origin ++ [name] ++ rest) = storage.look source (origin ++ name :: rest) := by
    rw [List.append_assoc, grown.source_kept toTarget.hierarchy copyable.free present copyable.apart]
    rfl
  rw [funext unchanged] at added
  exact grown.add nowAtTarget.hierarchy added

/-- The trees of the entries of a directory come to stand in a new directory, one after the other. -/
private theorem directory_ends
    (copies : CopiesTrees sourceClient targetClient conf source target sourceDirectory targetDirectory
      bound levels)
    (fromSource : storage.Attached sourceClient source sourceDirectory)
    (toTarget : storage.Attached targetClient target targetDirectory)
    (atSource : sourceDirectory.resolve sourcePath = origin)
    (atTarget : targetDirectory.resolve targetPath = goal)
    (copyable : Copyable storage source origin target goal bound (levels + 1))
    (reached : origin.length < bound) (there : storage.look source origin = some .directory) :
    Ends
      ((do
        let entries ← list sourceClient sourcePath
        createDirectories targetClient targetPath
        for entry in entries do
          match entry.path.fileName? with
          | some name =>
            copyTree sourceClient targetClient conf levels entry.path (targetPath.join ⟨name⟩)
          | none => pure () : Action Unit) storage) fun _ after =>
      Grown target goal (fun suffix => storage.look source (origin ++ suffix)) storage after := by
  have sourceHierarchy := fromSource.hierarchy
  apply (list_ends fromSource sourcePath (atSource ▸ there)).bind
  rintro entries asked ⟨same, names, listed⟩
  subst asked
  rw [atSource] at listed
  apply (createDirectories_ends toTarget targetPath).bind
  rintro _ made ⟨evolved, look⟩
  rw [atTarget] at look
  let copied (done : List FileStatus) (after : Storage) : Prop := Grown target goal
    (partly (names.take done.length) fun suffix => storage.look source (origin ++ suffix)) storage after
  refine (Ends.forIn copied ?_ ?_).bind ?_
  · exact .of_directory toTarget.hierarchy copyable.free evolved look
  · intro done entry rest split middle grown
    obtain ⟨name, path, standing, fresh, longer⟩ := listed.next split
    obtain ⟨child, standing⟩ := Option.ne_none_iff_exists'.mp standing
    have proper := sourceHierarchy.proper standing
    have fileName : entry.path.fileName? = some name := by
      rw [path, Location.fileName?_toPath proper, List.getLast?_concat]
    rw [fileName, path]
    apply (entry_ends copies fromSource toTarget atTarget copyable reached there fresh proper grown).bind
    intro _ after added
    refine ⟨rfl, ?_⟩
    simp only [copied, longer]
    exact added
  · intro _ after grown
    simp only [copied, listed.length_eq, List.take_length] at grown
    exact partly_all sourceHierarchy there listed.members ▸ grown

private theorem file_ends (fromSource : storage.Attached sourceClient source sourceDirectory)
    (toTarget : storage.Attached targetClient target targetDirectory)
    (atSource : sourceDirectory.resolve sourcePath = origin)
    (atTarget : targetDirectory.resolve targetPath = goal) (free : storage.look target goal = none)
    {bytes : Bytes} (there : storage.look source origin = some (.file bytes)) :
    Ends (copyFile sourceClient sourcePath targetClient targetPath conf storage) fun _ after =>
      Grown target goal (fun suffix => storage.look source (origin ++ suffix)) storage after := by
  apply (copyFile_ends fromSource toTarget sourcePath targetPath conf (atSource ▸ there)
    (atTarget ▸ free)).imp
  rintro _ after ⟨evolved, look⟩
  rw [atTarget] at look
  apply Grown.of_file toTarget.hierarchy free evolved look
  intro suffix
  split
  · next top => rw [top, List.append_nil, there]
  · next below =>
    exact fromSource.hierarchy.none_below (by simp [there]) (List.prefix_append ..) (by simpa using below)

/-- With one more level directories are copied whose entries the levels below can copy. -/
private theorem copiesTrees_succ
    (copies : CopiesTrees sourceClient targetClient conf source target sourceDirectory targetDirectory
      bound levels) :
    CopiesTrees sourceClient targetClient conf source target sourceDirectory targetDirectory bound
      (levels + 1) := by
  intro storage sourcePath targetPath origin goal fromSource toTarget atSource atTarget copyable
  rw [copyTree]
  apply (status_ends fromSource sourcePath).bind
  rintro found asked ⟨same, node, there, kind, short⟩
  subst asked
  rw [atSource] at there short
  have present : storage.look source origin ≠ none := by simp [there]
  by_cases isDirectory : found.isDirectory = true
  · rw [if_pos isDirectory]
    obtain rfl := kind.mp isDirectory
    have reached : origin.length < bound := by
      by_cases onDisk : source = .disk
      · exact (short onDisk).trans_le copyable.pathLimit
      · simpa using copyable.depth [] onDisk (by simpa using present)
    exact (directory_ends copies fromSource toTarget atSource atTarget copyable reached there).imp
      fun _ _ grown => ⟨present, grown⟩
  · rw [if_neg isDirectory]
    have isFile : ∃ bytes, node = .file bytes := by
      cases node with
      | directory => exact absurd (kind.mpr rfl) isDirectory
      | file bytes => exact ⟨bytes, rfl⟩
      | link text => exact absurd there (fromSource.noLink origin text)
    obtain ⟨bytes, rfl⟩ := isFile
    exact (file_ends fromSource toTarget atSource atTarget copyable.free there).imp
      fun _ _ grown => ⟨present, grown⟩

/-- Whatever the levels, as long as they reach to the bottom of the source, the tree at the source comes
to stand at the target. -/
theorem copiesTrees (sourceClient targetClient : Nat) (conf : Configuration) (source target : Device)
    (sourceDirectory targetDirectory : Location) (bound levels : Nat) :
    CopiesTrees sourceClient targetClient conf source target sourceDirectory targetDirectory bound
      levels := by
  induction levels with
  | zero =>
    intro storage sourcePath targetPath origin goal _ _ _ _ copyable
    exact absurd copyable.positive (lt_irrefl 0)
  | succ levels ih => exact copiesTrees_succ ih

end Levels

/-! ## Copies -/

/-- What an answered copy leaves. -/
structure Copied (source : Device) (origin : Location) (target : Device) (goal : Location)
    (deleteSource : Bool) (before after : Storage) : Prop where
  present : before.look source origin ≠ none
  free : before.look target goal = none
  /-- The tree at the target is the tree that was at the source. -/
  tree : ∀ suffix, after.look target (goal ++ suffix) = before.look source (origin ++ suffix)
  /-- Its files are complete and have the defaults of the cluster. -/
  settled : ∀ suffix, after.Settled target (goal ++ suffix)
  settings : after.clusters.map (·.conf) = before.clusters.map (·.conf)
  remains : ∀ suffix, after.look source (origin ++ suffix) =
    if deleteSource then none else before.look source (origin ++ suffix)
  /-- Everywhere else only directories missing on the way to the target are new. -/
  others : ∀ device query, ¬(device = target ∧ goal <+: query) → ¬(device = source ∧ origin <+: query) →
    after.look device query =
      if device = target then filled (before.look target) goal.dropLast query else before.look device query

/-- Where nothing stands nothing is unsettled. -/
private theorem settled_of_free {device : Device} {location : Location}
    (free : storage.look device location = none) : storage.Settled device location := by
  cases device with
  | disk => trivial
  | cluster number =>
    intro cluster present node found
    rw [look_of_cluster present, Namespace.look, found] at free
    contradiction

private theorem Grown.copied {after : Storage} {origin goal : Location}
    (grown : Grown target goal (fun suffix => storage.look source (origin ++ suffix)) storage after)
    (hierarchy : Hierarchy (storage.look target)) (free : storage.look target goal = none)
    (present : storage.look source origin ≠ none) (apart : source = target → ¬origin <+: goal) :
    Copied source origin target goal false storage after where
  present := present
  free := free
  tree := grown.inside
  settled suffix :=
    grown.settled (by simp) (settled_of_free (hierarchy.none_of_free free (List.prefix_append goal suffix)))
  settings := grown.settings
  remains := grown.source_kept hierarchy free present apart
  others device query notTarget _ := by
    by_cases same : device = target
    · subst same
      rw [if_pos rfl, grown.outside fun within => notTarget ⟨rfl, within⟩]
    · rw [if_neg same, grown.elsewhere same]

/-- Removing the source then leaves the copy alone. -/
private theorem Copied.remove {after last : Storage} {origin goal : Location}
    (copied : Copied source origin target goal false storage after)
    (hierarchy : Hierarchy (storage.look target)) (apart : source = target → ¬origin <+: goal)
    (evolved : Evolved source none after last)
    (look : ∀ query, last.look source query = if origin <+: query then none else after.look source query) :
    Copied source origin target goal true storage last := by
  have kept {device : Device} {query : Location} (outside : ¬(device = source ∧ origin <+: query)) :
      last.look device query = after.look device query := by
    by_cases same : device = source
    · subst same
      rw [look, if_neg fun within => outside ⟨rfl, within⟩]
    · rw [evolved.elsewhere same]
  refine ⟨copied.present, copied.free, fun suffix => ?_, fun suffix => ?_,
    evolved.settings.trans copied.settings, fun suffix => ?_, fun device query notTarget notSource => ?_⟩
  · rw [kept, copied.tree]
    rintro ⟨same, within⟩
    subst same
    rcases List.prefix_or_prefix_of_prefix within (List.prefix_append goal suffix) with below | above
    · exact apart rfl below
    · exact copied.present (hierarchy.none_of_free copied.free above)
  · exact evolved.settled (by simp) (copied.settled suffix)
  · rw [look, if_pos (List.prefix_append ..), if_pos rfl]
  · rw [kept notSource, copied.others device query notTarget notSource]

theorem le_deepest (clusters : List Cluster) :
    Disk.pathLimit + 1 ≤
        clusters.foldr (fun cluster rest => cluster.tree.entries.length + rest) (Disk.pathLimit + 1) ∧
      ∀ cluster ∈ clusters, cluster.tree.entries.length + (Disk.pathLimit + 1) ≤
        clusters.foldr (fun cluster rest => cluster.tree.entries.length + rest) (Disk.pathLimit + 1) := by
  induction clusters with
  | nil => simp
  | cons first rest ih =>
    obtain ⟨least, each⟩ := ih
    rw [List.foldr_cons]
    refine ⟨by omega, fun cluster member => ?_⟩
    rcases List.mem_cons.mp member with rfl | member
    · omega
    · have := each cluster member
      omega

/-- The levels that a copy starts with reach to the bottom of every source. -/
private theorem copyable_of_deepest {origin goal : Location}
    (fromSource : storage.Attached sourceClient source sourceDirectory)
    (free : storage.look target goal = none) (apart : source = target → ¬origin <+: goal) :
    Copyable storage source origin target goal (deepest storage - 1) (deepest storage) := by
  obtain ⟨least, each⟩ := le_deepest storage.clusters
  have reach : Disk.pathLimit + 1 ≤ deepest storage := least
  refine ⟨free, apart, fun suffix notDisk present => ?_, by omega, by omega, by omega⟩
  cases fromSource with
  | disk => contradiction
  | @cluster number _ cluster _ found isTree =>
    rw [look_of_cluster found, Ne, Namespace.look_eq_none_iff] at present
    obtain ⟨entry, there⟩ := Option.ne_none_iff_exists'.mp present
    have short := isTree.length_lt there
    have total : _ ≤ deepest storage := each cluster (List.mem_of_getElem? found)
    omega

/-- A copy that passed the guard against a target in the source. -/
private theorem unguarded_ends (fromSource : storage.Attached sourceClient source sourceDirectory)
    (toTarget : storage.Attached targetClient target targetDirectory)
    (apart : source = target → ¬sourceDirectory.resolve sourcePath <+: targetDirectory.resolve targetPath)
    (deleteSource : Bool) :
    Ends
      ((do
        if ← isPresent targetClient targetPath then raise (.taken targetPath)
        copyTree sourceClient targetClient conf (deepest (← get)) sourcePath targetPath
        if deleteSource then delete sourceClient sourcePath : Action Unit) storage) fun _ after =>
      Copied source (sourceDirectory.resolve sourcePath) target (targetDirectory.resolve targetPath)
        deleteSource storage after := by
  apply (isPresent_ends toTarget targetPath).bind
  rintro present asked ⟨same, free⟩
  subst asked
  cases present with
  | true => exact .bind (.raise _) fun _ _ => False.elim
  | false =>
    have free := free rfl
    have hierarchy := toTarget.hierarchy
    refine (copiesTrees _ _ _ _ _ _ _ _ _ fromSource toTarget rfl rfl
      (copyable_of_deepest fromSource free apart)).bind ?_
    rintro _ after ⟨present, grown⟩
    have copied := grown.copied hierarchy free present apart
    cases deleteSource with
    | false => exact copied
    | true =>
      apply (delete_ends (grown.attached fromSource) sourcePath).imp
      rintro _ last ⟨evolved, look⟩
      exact copied.remove hierarchy apart evolved look

/-- A copy comes to an end, and what it copied is what was there. -/
theorem copy_faithful (fromSource : storage.Attached sourceClient source sourceDirectory)
    (toTarget : storage.Attached targetClient target targetDirectory) (sourcePath targetPath : Path)
    (deleteSource : Bool) (conf : Configuration) :
    Ends (copy sourceClient sourcePath targetClient targetPath deleteSource conf storage) fun _ after =>
      Copied source (sourceDirectory.resolve sourcePath) target (targetDirectory.resolve targetPath)
        deleteSource storage after := by
  obtain ⟨sourceAddress, ranSource, atSource⟩ := uri_run fromSource
  obtain ⟨targetAddress, ranTarget, atTarget⟩ := uri_run toTarget
  rw [copy, bind_run, ranSource]
  simp only
  rw [bind_run, ranTarget]
  simp only
  by_cases oneAddress : sourceAddress = targetAddress
  · rw [if_pos oneAddress, bind_run, resolve_run fromSource]
    simp only
    rw [bind_run, resolve_run toTarget]
    simp only
    by_cases within : (targetDirectory.resolve targetPath).isWithin (sourceDirectory.resolve sourcePath) = true
    · rw [if_pos within]
      exact .bind (.raise _) fun _ _ => False.elim
    · rw [if_neg within]
      exact unguarded_ends fromSource toTarget (fun _ below => within (Location.isWithin_iff.mpr below)) _
  · rw [if_neg oneAddress]
    refine unguarded_ends fromSource toTarget (fun same => absurd ?_ oneAddress) deleteSource
    subst same
    exact Option.some.inj (atSource.symm.trans atTarget)

/-- In a run every client of a cluster works on a tidy device from a proper directory. -/
theorem Sound.attached {client number : Nat} {directory : Location} {cluster : Cluster}
    (sound : storage.Sound)
    (found : storage.clients[client]? = some ⟨.cluster number, directory, .none⟩)
    (present : storage.clusters[number]? = some cluster) :
    storage.Attached client (.cluster number) directory :=
  .cluster found present (sound.trees cluster (List.mem_of_getElem? present))
    ((sound.plain.clients _ (List.mem_of_getElem? found)).2 number rfl)

/-- A directory of a cluster with a file in it is moved to the disk. -/
theorem copy_faithful_moving_to_disk :
    let storage := (new 0 (.new 0 .root 0 0)).run
      [.startCluster "nn:1" .default ["dn"] 1, .joinCluster 0, .joinDisk .default,
        .createFile 0 ⟨[47, 97, 47, 98]⟩ .none, .call 0 (.write [120, 121]), .call 0 .close]
    ∃ after, copy 0 ⟨[47, 97]⟩ 1 ⟨[47, 99]⟩ true .default storage = .ok () after ∧
      Copied (.cluster 0) [[97]] .disk [[99]] true storage after := by
  intro storage
  have joined : storage.clients[0]? = some ⟨.cluster 0, .root, .none⟩ ∧
      storage.clients[1]? = some ⟨.disk .default, .root, .none⟩ := by decide +kernel
  have disk : storage.disk = .new 0 .root 0 0 := by decide +kernel
  have started : storage.clusters[0]?.isSome = true := by decide +kernel
  have answers : (match copy 0 ⟨[47, 97]⟩ 1 ⟨[47, 99]⟩ true .default storage with
      | .ok _ _ => true
      | .error _ _ => false) = true := by decide +kernel
  obtain ⟨cluster, present⟩ := Option.isSome_iff_exists.mp started
  have sound : storage.Sound := (sound_new 0 (.new 0 .root 0 0)).run _
  clear_value storage
  have fromSource := sound.attached joined.1 present
  have regular : storage.disk.Regular := disk ▸ Disk.regular_new 0 Location.proper_root 0 0
  have toTarget : storage.Attached 1 .disk .root := .disk joined.2 regular Location.proper_root
  have faithful := copy_faithful fromSource toTarget ⟨[47, 97]⟩ ⟨[47, 99]⟩ true .default
  cases ran : copy 0 ⟨[47, 97]⟩ 1 ⟨[47, 99]⟩ true .default storage with
  | ok _ after =>
    rw [ran] at faithful
    exact ⟨after, rfl, faithful⟩
  | error failure after => simp [ran] at answers

end FileGateway.Storage
