import FileGateway.Proofs.SortedMap
import FileGateway.Path.Location

/-! # Reading path texts

What a path means depends on its steps alone: the names and the `..` between its slashes, taken from
the root or from the directory of the reader. Joining texts joins their steps, so reading a joined
path is reading its parts one after the other. The text of a proper location leads back to it.
-/

namespace FileGateway

namespace Path

/-! ## Segments -/

theorem segments_ne_nil (bytes : Bytes) : segments bytes ≠ [] := by
  cases bytes with
  | nil => simp [segments]
  | cons byte rest => rw [segments]; split <;> [simp; (split <;> simp)]

/-- A slash ends a segment. -/
theorem segments_append_slash (before after : Bytes) :
    segments (before ++ slash :: after) = segments before ++ segments after := by
  induction before with
  | nil => simp [segments]
  | cons byte rest ih =>
    rw [List.cons_append, segments, segments, ih]
    split
    · rfl
    · cases split : segments rest with
      | nil => exact absurd split (segments_ne_nil rest)
      | cons first more => rfl

theorem segments_of_slash_notMem {bytes : Bytes} (whole : slash ∉ bytes) :
    segments bytes = [bytes] := by
  induction bytes with
  | nil => rfl
  | cons byte rest ih =>
    rw [List.mem_cons, not_or] at whole
    rw [segments, if_neg (Ne.symm whole.1), ih whole.2]

theorem slash_notMem_of_mem_segments {bytes segment : Bytes} (member : segment ∈ segments bytes) :
    slash ∉ segment := by
  induction bytes generalizing segment with
  | nil => simp_all [segments]
  | cons byte rest ih =>
    rw [segments] at member
    split at member
    · rcases List.mem_cons.mp member with rfl | member
      · simp
      · exact ih member
    · next different =>
      cases split : segments rest with
      | nil => exact absurd split (segments_ne_nil rest)
      | cons first more =>
        rw [split] at member ih
        rcases List.mem_cons.mp member with rfl | member
        · have clean := ih (List.mem_cons_self ..)
          simp [clean, Ne.symm different]
        · exact ih (List.mem_cons_of_mem _ member)

/-! ## Steps -/

/-- The names and the `..` of a path text, in order. -/
def steps (bytes : Bytes) : List Component := (segments bytes).filterMap Component.ofSegment?

theorem steps_append_slash (before after : Bytes) :
    steps (before ++ slash :: after) = steps before ++ steps after := by
  rw [steps, segments_append_slash, List.filterMap_append, steps, steps]

@[simp] theorem steps_nil : steps [] = [] := rfl

theorem properName_of_mem_steps {bytes : Bytes} {name : Name}
    (member : .name name ∈ steps bytes) : Location.ProperName name := by
  obtain ⟨segment, inSegments, stands⟩ := List.mem_filterMap.mp member
  have noSlash := slash_notMem_of_mem_segments inSegments
  simp only [Component.ofSegment?] at stands
  split_ifs at stands with blank up
  · simp at stands
  · obtain rfl : segment = name := by simpa using stands
    exact ⟨fun empty => blank (.inl empty), noSlash, fun current => blank (.inr current), up⟩

theorem steps_of_properName {name : Name} (proper : Location.ProperName name) :
    steps name = [.name name] := by
  obtain ⟨nonempty, noSlash, notCurrent, notParent⟩ := proper
  simp [steps, segments_of_slash_notMem noSlash, Component.ofSegment?, nonempty, notCurrent,
    notParent]

theorem isAbsolute_append {before : Bytes} (after : Bytes) (nonempty : before ≠ []) :
    isAbsolute ⟨before ++ after⟩ = isAbsolute ⟨before⟩ := by
  cases before with
  | nil => contradiction
  | cons byte rest => rfl

theorem isAbsolute_of_properName {name : Name} (proper : Location.ProperName name) :
    isAbsolute ⟨name⟩ = false := by
  obtain ⟨-, noSlash, -, -⟩ := proper
  cases name with
  | nil => rfl
  | cons byte rest =>
    rw [List.mem_cons, not_or] at noSlash
    simp [isAbsolute, Ne.symm noSlash.1]

end Path

namespace Location

open FileGateway.Path

/-- Only the steps matter to where a path leads, and whether it starts at the root. -/
theorem resolve_eq_foldl (directory : Location) (path : Path) :
    resolve directory path =
      (steps path.bytes).foldl climb (if path.isAbsolute then root else directory) := by
  rw [resolve, components]
  split
  · rfl
  · split <;> rfl

/-- Reading a joined path is reading its two parts one after the other. -/
theorem resolve_join (directory : Location) (first second : Path) :
    resolve directory (first.join second) = resolve (resolve directory first) second := by
  by_cases absolute : second.isAbsolute
  · rw [join, if_pos absolute, resolve_eq_foldl, resolve_eq_foldl _ second, if_pos absolute,
      if_pos absolute]
  · rw [resolve_eq_foldl _ second, if_neg absolute, resolve_eq_foldl _ first, ← List.foldl_append,
      join, if_neg absolute]
    rcases first with ⟨bytes⟩
    rcases List.eq_nil_or_concat bytes with rfl | ⟨initial, last, rfl⟩
    · simp only [List.getLast?_nil, steps_nil, List.nil_append, resolve_eq_foldl]
      rw [if_neg absolute, if_neg (by simp [isAbsolute])]
    · have nonempty : initial ++ [last] ≠ [] := by simp
      simp only [List.concat_eq_append, List.getLast?_append, List.getLast?_singleton,
        Option.some_or]
      rw [resolve_eq_foldl]
      split
      · next same =>
        subst same
        rw [isAbsolute_append _ nonempty, List.append_assoc, List.singleton_append,
          steps_append_slash, steps_append_slash, steps_nil, List.append_nil]
      · rw [isAbsolute_append _ nonempty, steps_append_slash]

theorem resolve_name (directory : Location) {name : Name} (proper : ProperName name) :
    resolve directory ⟨name⟩ = directory ++ [name] := by
  rw [resolve_eq_foldl, steps_of_properName proper, if_neg (by simp [isAbsolute_of_properName proper])]
  rfl

/-- Entering a name from where a path leads. -/
theorem resolve_join_name (directory : Location) (path : Path) {name : Name}
    (proper : ProperName name) :
    resolve directory (path.join ⟨name⟩) = resolve directory path ++ [name] := by
  rw [resolve_join, resolve_name _ proper]

/-! ## Proper locations -/

@[simp] theorem proper_root : Proper root := by simp [Proper, root]

theorem proper_append {first second : Location} :
    Proper (first ++ second) ↔ Proper first ∧ Proper second := by
  simp only [Proper, List.mem_append, or_imp, forall_and]

theorem Proper.of_prefix {location above : Location} (proper : Proper location)
    (within : above <+: location) : Proper above := fun name member =>
  proper name (within.subset member)

private theorem proper_climb {location : Location} {component : Component} (proper : Proper location)
    (named : ∀ name, component = .name name → ProperName name) :
    Proper (climb location component) := by
  cases component with
  | root => exact proper_root
  | current => exact proper
  | parent => exact proper.of_prefix (List.dropLast_prefix _)
  | name name => exact proper_append.mpr ⟨proper, by simpa [Proper] using named name rfl⟩

/-- Whatever the bytes of a path, it leads from a proper location to a proper one. -/
theorem proper_resolve {directory : Location} (proper : Proper directory) (path : Path) :
    Proper (resolve directory path) := by
  rw [resolve_eq_foldl]
  have named : ∀ name, .name name ∈ steps path.bytes → ProperName name :=
    fun _ => properName_of_mem_steps
  have start : Proper (if path.isAbsolute then root else directory) := by
    split <;> simp [proper]
  generalize steps path.bytes = components at named
  generalize (if path.isAbsolute then root else directory) = here at start
  induction components generalizing here with
  | nil => exact start
  | cons component rest ih =>
    apply ih (fun name member => named name (List.mem_cons_of_mem _ member)) _
    exact proper_climb start fun name same => named name (same ▸ List.mem_cons_self ..)

/-! ## The texts of locations -/

/-- The segments between the slashes of a text are the names that it was put together from. -/
theorem segments_intercalate {location : Location} (proper : Proper location) (nonempty : location ≠ []) :
    segments (List.intercalate [slash] location) = location := by
  induction location with
  | nil => contradiction
  | cons name rest ih =>
    have head : ProperName name := proper name (List.mem_cons_self ..)
    cases rest with
    | nil => simpa using segments_of_slash_notMem head.2.1
    | cons next more =>
      rw [List.intercalate_cons_cons, List.append_assoc, List.cons_append, List.nil_append,
        segments_append_slash, segments_of_slash_notMem head.2.1,
        ih (fun name member => proper name (List.mem_cons_of_mem _ member)) (by simp)]
      rfl

theorem segments_toPath {location : Location} (proper : Proper location) (nonempty : location ≠ []) :
    segments location.toPath.bytes = [] :: location := by
  have text : location.toPath.bytes = [] ++ slash :: List.intercalate [slash] location := rfl
  rw [text, segments_append_slash, segments_intercalate proper nonempty]
  rfl

theorem steps_toPath {location : Location} (proper : Proper location) :
    steps location.toPath.bytes = location.map .name := by
  by_cases empty : location = []
  · subst empty
    rfl
  · rw [steps, segments_toPath proper empty, List.filterMap_cons_none rfl]
    have named : ∀ name ∈ location, Component.ofSegment? name = some (.name name) := by
      intro name member
      obtain ⟨nonempty, -, notCurrent, notParent⟩ := proper name member
      simp [Component.ofSegment?, nonempty, notCurrent, notParent]
    rw [List.filterMap_congr named, List.filterMap_eq_map']

/-- Every name takes a byte of the text. -/
theorem length_le_toPath {location : Location} (proper : Proper location) :
    location.length ≤ location.toPath.bytes.length := by
  have split (bytes : Bytes) : (segments bytes).length ≤ bytes.length + 1 := by
    induction bytes with
    | nil => simp [segments]
    | cons byte rest ih =>
      rw [segments]
      split
      · simpa using ih
      · cases split : segments rest with
        | nil => simp
        | cons segment more => simpa [split] using Nat.le_succ_of_le ih
  by_cases empty : location = []
  · simp [empty]
  · have short := split location.toPath.bytes
    rw [segments_toPath proper empty, List.length_cons] at short
    omega

theorem isAbsolute_toPath (location : Location) : location.toPath.isAbsolute = true := rfl

private theorem foldl_climb_names (here location : Location) :
    (location.map Component.name).foldl climb here = here ++ location := by
  induction location generalizing here with
  | nil => simp
  | cons name rest ih => simp [climb, ih]

/-- The text of a proper location leads back to it, wherever it is read. -/
theorem resolve_toPath (directory : Location) {location : Location} (proper : Proper location) :
    resolve directory location.toPath = location := by
  rw [resolve_eq_foldl, steps_toPath proper, isAbsolute_toPath, if_pos rfl, foldl_climb_names]
  rfl

theorem fileName?_toPath {location : Location} (proper : Proper location) :
    location.toPath.fileName? = location.getLast? := by
  have components : location.toPath.components = .root :: location.map .name := by
    rw [← steps_toPath proper]
    rfl
  rw [fileName?, components]
  rcases List.eq_nil_or_concat location with rfl | ⟨initial, last, rfl⟩ <;>
    simp [List.getLast?_cons]

end Location

end FileGateway
