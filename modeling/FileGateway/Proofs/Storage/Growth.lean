import FileGateway.Proofs.Storage.Transfer

/-! # How a copy grows

A tree that was copied to a free place stands there, with directories on the way to it where they were
missing, and nothing else has changed. Copying a directory builds such a tree entry by entry: `partly`
is what stands there when some of the names were copied. A source outside the target looks the same
all the time, on the same device too.
-/

namespace FileGateway.Storage

variable {storage before middle after : Storage} {device source target : Device}
  {place origin goal : Location} {subtree : Location → Option Occupant} {names : List Name} {name : Name}

/-- A tree has come to stand at a place, and nothing else has changed but for directories on the way. -/
structure Grown (device : Device) (place : Location) (subtree : Location → Option Occupant)
    (before after : Storage) : Prop extends Evolved device none before after where
  inside : ∀ suffix, after.look device (place ++ suffix) = subtree suffix
  outside : ∀ {query}, ¬place <+: query →
    after.look device query = filled (before.look device) place.dropLast query

/-- A directory with the entries of some names alone. -/
def partly (names : List Name) (subtree : Location → Option Occupant) : Location → Option Occupant
  | [] => some .directory
  | name :: rest => if name ∈ names then subtree (name :: rest) else none

private theorem append_cons_not_within (place rest : Location) (name : Name) : ¬place ++ name :: rest <+: place := by
  intro within
  simpa using within.length_le

/-- A new directory is a tree without entries. -/
theorem Grown.of_directory (hierarchy : Hierarchy (before.look device))
    (free : before.look device place = none) (evolved : Evolved device none before after)
    (look : after.look device = filled (before.look device) place) :
    Grown device place (partly [] subtree) before after := by
  refine ⟨evolved, fun suffix => ?_, fun {query} outside => ?_⟩
  · rw [look, filled, hierarchy.none_of_free free (List.prefix_append place suffix), Option.none_or]
    cases suffix with
    | nil => rw [List.append_nil, if_pos List.prefix_rfl, partly]
    | cons name rest => rw [if_neg (append_cons_not_within place rest name), partly, if_neg List.not_mem_nil]
  · have sameWay : query <+: place ↔ query <+: place.dropLast := by
      rw [Location.prefix_dropLast_iff (hierarchy.ne_root_of_free free), iff_self_and]
      rintro - rfl
      exact outside List.prefix_rfl
    rw [look, filled, filled]
    simp only [sameWay]

/-- A new file is a tree of its own. -/
theorem Grown.of_file {bytes : Bytes} (hierarchy : Hierarchy (before.look device))
    (free : before.look device place = none) (evolved : Evolved device none before after)
    (look : ∀ query, after.look device query = if query = place then some (.file bytes)
      else filled (before.look device) place.dropLast query)
    (single : ∀ suffix, subtree suffix = if suffix = [] then some (.file bytes) else none) :
    Grown device place subtree before after := by
  refine ⟨evolved, fun suffix => ?_, fun {query} outside => ?_⟩
  · rw [look, single]
    by_cases top : suffix = []
    · rw [if_pos (by simp [top]), if_pos top]
    · rw [if_neg (by simpa using top), if_neg top, filled,
        hierarchy.none_of_free free (List.prefix_append place suffix), Option.none_or, if_neg]
      exact fun within => Location.not_prefix_dropLast (hierarchy.ne_root_of_free free)
        ((List.prefix_append place suffix).trans within)
  · rw [look, if_neg]
    rintro rfl
    exact outside List.prefix_rfl

/-- The tree of one more name. -/
theorem Grown.add (hierarchy : Hierarchy (middle.look device))
    (first : Grown device place (partly names subtree) before middle)
    (second : Grown device (place ++ [name]) (fun rest => subtree (name :: rest)) middle after) :
    Grown device place (partly (names ++ [name]) subtree) before after := by
  have top : middle.look device place = some .directory := by simpa [partly] using first.inside []
  have besides {query : Location} (apart : ¬place ++ [name] <+: query) :
      after.look device query = middle.look device query := by
    rw [second.outside apart, List.dropLast_concat, filled_of_directory hierarchy top]
  refine ⟨first.toEvolved.trans second.toEvolved, fun suffix => ?_, fun {query} outside => ?_⟩
  · cases suffix with
    | nil =>
      rw [List.append_nil, besides (append_cons_not_within place [] name), top, partly]
    | cons other rest =>
      by_cases same : other = name
      · subst same
        have new := second.inside rest
        rw [List.append_assoc, List.singleton_append] at new
        rw [new, partly, if_pos (by simp)]
      · rw [besides (by simp [List.prefix_append_right_inj, Ne.symm same]), first.inside, partly, partly]
        simp [same]
  · rw [besides fun within => outside ((List.prefix_append ..).trans within), first.outside outside]

/-- With all its names a tree is whole. -/
theorem partly_all {look : Location → Option Occupant} (hierarchy : Hierarchy look)
    (directory : look origin = some .directory)
    (all : ∀ name, name ∈ names ↔ look (origin ++ [name]) ≠ none) :
    partly names (fun suffix => look (origin ++ suffix)) = fun suffix => look (origin ++ suffix) := by
  funext suffix
  cases suffix with
  | nil => rw [partly, List.append_nil, directory]
  | cons name rest =>
    rw [partly]
    split
    · rfl
    · next absent =>
      have free : look (origin ++ [name]) = none := by
        by_contra present
        exact absent ((all name).mpr present)
      rw [hierarchy.none_of_free free]
      exact ⟨rest, by simp⟩

/-- The source looks the same all the time, if the target is not in it. -/
theorem Grown.source_kept (grown : Grown target goal subtree before after)
    (hierarchy : Hierarchy (before.look target)) (free : before.look target goal = none)
    (present : before.look source origin ≠ none) (apart : source = target → ¬origin <+: goal)
    (suffix : Location) : after.look source (origin ++ suffix) = before.look source (origin ++ suffix) := by
  by_cases same : source = target
  · subst same
    have notBelow : ¬goal <+: origin := fun within => present (hierarchy.none_of_free free within)
    have notInside : ¬goal <+: origin ++ suffix := fun within =>
      (List.prefix_or_prefix_of_prefix within (List.prefix_append origin suffix)).elim notBelow (apart rfl)
    rw [grown.outside notInside, filled, if_neg, Option.or_none]
    exact fun onTheWay => apart rfl
      ((List.prefix_append origin suffix).trans (onTheWay.trans (List.dropLast_prefix goal)))
  · rw [grown.elsewhere same]

end FileGateway.Storage
