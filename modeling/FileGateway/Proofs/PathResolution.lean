import FileGateway.Proofs.Storage.Upheld

/-! # Resolving paths

A path is resolved by its segments alone: they are evaluated on a stack of names, on which the empty segment and `.`
do nothing and `..` takes the top name away, if there is one. The result is the text of a proper location, so it
means the same wherever it is read, and resolving two paths in turn is resolving them joined.
-/

namespace FileGateway

namespace Path

variable {directory : Path}

/-- Segments evaluated on a stack of names, the top first. -/
def evaluate : List Name → List Bytes → List Name
  | stack, [] => stack
  | stack, segment :: rest =>
    if segment = [] ∨ segment = [dot] then evaluate stack rest
    else if segment = [dot, dot] then evaluate stack.tail rest
    else evaluate (segment :: stack) rest

/-- The names that a path means, with the segments of the directory evaluated first if the path is relative. -/
def namesIn (directory path : Path) : List Name :=
  (evaluate [] (segments (if path.isAbsolute then path.bytes else directory.bytes ++ slash :: path.bytes))).reverse

/-- The text of a list of names, each behind a slash. -/
def spelled (names : List Name) : Bytes := if names = [] then [slash] else names.flatMap (slash :: ·)

/-- The stack holds the names in the opposite order. -/
private theorem reverse_evaluate (stack : List Name) (parts : List Bytes) :
    (evaluate stack parts).reverse = (parts.filterMap Component.ofSegment?).foldl climb stack.reverse := by
  induction parts generalizing stack with
  | nil => rfl
  | cons segment rest ih =>
    rw [evaluate]
    by_cases blank : segment = [] ∨ segment = [dot]
    · rw [if_pos blank, List.filterMap_cons_none (by rw [Component.ofSegment?, if_pos blank]), ih]
    · rw [if_neg blank]
      by_cases up : segment = [dot, dot]
      · have isParent : Component.ofSegment? segment = some .parent := by
          rw [Component.ofSegment?, if_neg blank, if_pos up]
        rw [if_pos up, List.filterMap_cons_some isParent, List.foldl_cons, climb, ih, List.dropLast_reverse]
      · have isName : Component.ofSegment? segment = some (.name segment) := by
          rw [Component.ofSegment?, if_neg blank, if_neg up]
        rw [if_neg up, List.filterMap_cons_some isName, List.foldl_cons, climb, ih, List.reverse_cons]

/-- Read from an absolute directory, a path means the place that its names lead to. -/
private theorem namesIn_eq (absolute : directory.isAbsolute = true) (path : Path) :
    namesIn directory path = (Location.root.resolve directory).resolve path := by
  rw [namesIn, reverse_evaluate, Location.resolve_eq_foldl _ path]
  split
  · rfl
  · have steps : _ = steps directory.bytes ++ steps path.bytes := steps_append_slash directory.bytes path.bytes
    rw [Path.steps] at steps
    rw [steps, List.foldl_append, Location.resolve_eq_foldl, if_pos absolute]
    rfl

/-- Resolving in an absolute directory gives the text of a place. -/
theorem resolve_of_isAbsolute (absolute : directory.isAbsolute = true) (path : Path) :
    directory.resolve path = ((Location.root.resolve directory).resolve path).toPath := by
  have joined : (if path.isAbsolute then path else directory.join path) = directory.join path := by
    by_cases whole : path.isAbsolute <;> simp [join, whole]
  have isAbsolute : (directory.join path).isAbsolute = true := by
    rw [join]
    split
    · assumption
    · have nonempty : directory.bytes ≠ [] := by
        intro empty
        simp [Path.isAbsolute, empty] at absolute
      split
      · next none => exact absurd (List.getLast?_eq_none_iff.mp none) nonempty
      · split <;> rwa [isAbsolute_append _ nonempty]
  rw [resolve, joined, normalize, isAbsolute, ← Location.resolve_join]
  rfl

/-- Names behind slashes are the text of a location. -/
theorem toPath_bytes (location : Location) : location.toPath.bytes = spelled location := by
  have text : location.toPath.bytes = slash :: List.intercalate [slash] location := rfl
  cases location with
  | nil => rfl
  | cons name rest =>
    rw [text, spelled, if_neg (List.cons_ne_nil name rest)]
    induction rest generalizing name with
    | nil => simp
    | cons next more ih =>
      rw [List.intercalate_cons_cons, List.flatMap_cons, ← ih next rfl]
      simp

/-- The text of a proper location is resolved already. -/
theorem resolve_toPath (directory : Path) {location : Location} (proper : location.Proper) :
    directory.resolve location.toPath = location.toPath := by
  have same : directory.resolve location.toPath = (Location.root.resolve location.toPath).toPath := rfl
  rw [same, Location.resolve_toPath _ proper]

end Path

/-- A client resolves a path to the place whose text is the resolved path. -/
theorem Location.toPath_resolve {directory : Location} (proper : directory.Proper) (path : Path) :
    (directory.resolve path).toPath = directory.toPath.resolve path := by
  rw [Path.resolve_of_isAbsolute directory.isAbsolute_toPath, resolve_toPath root proper]

namespace Storage

/-- Moving twice is moving once, to the joined path. -/
private theorem after_changeDirectory_join {storage : Storage} (sound : storage.Sound) (client : Nat)
    (first second : Path) :
    (storage.after (.changeDirectory client first)).after (.changeDirectory client second) =
      storage.after (.changeDirectory client (first.join second)) := by
  cases present : storage.clients[client]? with
  | none =>
    have stays (path : Path) : storage.after (.changeDirectory client path) = storage := by
      rw [after, serve, changeDirectory, bind_run, clientAt_of_none present]
      rfl
    rw [stays, stays, stays]
  | some found =>
    have moved (path : Path) : storage.after (.changeDirectory client path) = { storage with
        clients := storage.clients.set client { found with directory := found.directory.resolve path } } := by
      rw [after, serve, sound.plain.changeDirectory_run present]
      rfl
    have there : (storage.after (.changeDirectory client first)).clients[client]? =
        some { found with directory := found.directory.resolve first } := by
      rw [moved]
      exact List.getElem?_set_self (List.getElem?_eq_some_iff.mp present).1
    have again := (sound.serve (.changeDirectory client first)).plain.changeDirectory_run there second
    rw [after, serve, again, moved, moved, Location.resolve_join]
    simp only [final, List.set_set]

/-- In an absolute directory, every path resolves to the text of the names that its segments evaluate to, each of
them fit to stand between slashes. The result is resolved already, wherever it is read, and what is resolved in it is
what the joined path resolves to. In every run, the directory of every client is such a result, a client that moves
does so to the resolved path, and moving twice is moving once, to the joined path. -/
theorem paths_resolve_on_a_stack {directory : Path} (absolute : directory.isAbsolute = true) (now : Int) {disk : Disk}
    (stands : disk.Stands) (requests : List Request) :
    (∀ path : Path,
      (directory.resolve path).bytes = Path.spelled (directory.namesIn path) ∧
      Location.Proper (directory.namesIn path) ∧
      (∀ other : Path, other.resolve (directory.resolve path) = directory.resolve path) ∧
      ∀ next, (directory.resolve path).resolve next = directory.resolve (path.join next)) ∧
    let storage := (new now disk).run requests
    (∀ client ∈ storage.clients, client.directory.Proper ∧ client.directory.toPath.isAbsolute = true ∧
      client.directory.toPath.normalize = client.directory.toPath) ∧
    (∀ number client, storage.clients[number]? = some client → ∀ path, ∃ moved : Location,
      moved.toPath = client.directory.toPath.resolve path ∧
      changeDirectory number path storage =
        .ok () { storage with clients := storage.clients.set number { client with directory := moved } }) ∧
    ∀ number first second,
      (storage.after (.changeDirectory number first)).after (.changeDirectory number second) =
        storage.after (.changeDirectory number (first.join second)) := by
  have start := sound_new now disk
  have placed := start.placed ⟨by simp [new], stands⟩ requests
  refine ⟨fun path => ?_, fun client member => ?_, fun number client present path => ?_, ?_⟩
  · have properHere : (Location.root.resolve directory).Proper := Location.proper_resolve Location.proper_root directory
    have proper := Location.proper_resolve properHere path
    have resolved := Path.resolve_of_isAbsolute absolute path
    rw [Path.namesIn_eq absolute, resolved]
    refine ⟨Path.toPath_bytes _, proper, fun other => Path.resolve_toPath other proper, fun next => ?_⟩
    rw [← Location.toPath_resolve proper, ← Location.resolve_join, ← Path.resolve_of_isAbsolute absolute]
  · have proper := placed.clients client member
    exact ⟨proper, Location.isAbsolute_toPath _, Path.resolve_toPath client.directory.toPath proper⟩
  · have proper := placed.clients client (List.mem_of_getElem? present)
    exact ⟨_, Location.toPath_resolve proper path, (start.run requests).plain.changeDirectory_run present path⟩
  · exact after_changeDirectory_join (start.run requests)

/-- A client of a cluster and one of the disk, both on their way. -/
def wandering : List Request :=
  [.startCluster "nn:1" default ["dn"] 1, .joinCluster 0, .joinDisk default,
    .changeDirectory 0 ⟨[117, 47, 47, 97, 47]⟩, .changeDirectory 1 ⟨[46, 46, 47, 46, 46]⟩]

/-- More `..` than there are names, with dots and doubled slashes between; and the first client moves on. -/
theorem paths_resolve_on_a_stack_of_wandering :
    let directory : Path := ⟨[47, 117, 47, 47, 97, 47]⟩
    let path : Path := ⟨[46, 46, 47, 46, 46, 47, 46, 46, 47, 100, 47, 46, 47, 120, 47, 47, 46, 46]⟩
    let storage := (new 0 (.new 0 [[104]] 0 0)).run wandering
    directory.resolve path = ⟨[47, 100]⟩ ∧
    (directory.resolve path).resolve ⟨[121]⟩ = directory.resolve (path.join ⟨[121]⟩) ∧
    (∀ client ∈ storage.clients, client.directory.toPath.normalize = client.directory.toPath) ∧
    ∃ moved : Location, moved.toPath = ⟨[47, 117, 47, 98]⟩ ∧ changeDirectory 0 ⟨[46, 46, 47, 98]⟩ storage =
      .ok () { storage with clients := storage.clients.set 0 ⟨.cluster 0, moved, .none⟩ } := by
  intro directory path storage
  have stands : (Disk.new 0 [[104]] 0 0).Stands := by
    rintro _ ⟨⟩
    decide
  have absolute : directory.isAbsolute = true := rfl
  obtain ⟨resolved, normal, moves, -⟩ := paths_resolve_on_a_stack absolute 0 stands wandering
  obtain ⟨spelled, -, -, joined⟩ := resolved path
  obtain ⟨moved, text, ran⟩ := moves 0 ⟨.cluster 0, [[117], [97]], .none⟩ rfl ⟨[46, 46, 47, 98]⟩
  exact ⟨congrArg Path.mk (spelled.trans (by decide)), joined _, fun client member => (normal client member).2.2,
    moved, text.trans (by decide), ran⟩

end Storage

end FileGateway
