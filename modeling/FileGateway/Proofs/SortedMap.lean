import Mathlib
import FileGateway.SortedMap

/-! # What a sorted map holds

A map is determined by what it gives at each key, and every operation is known by what it does to
that. The ascending order makes the entry of a key unique, so holding an entry and finding it at its
key are the same thing.
-/

namespace FileGateway.SortedMap

variable {κ ν : Type} [Ord κ] {map other : SortedMap κ ν} {key query : κ} {value : ν}

@[simp] theorem get?_empty : (empty : SortedMap κ ν).get? key = none := rfl

theorem contains_eq_false_iff : map.contains key = false ↔ map.get? key = none := by
  simp [contains]

variable [Std.TransOrd κ]

private theorem apart_of_below {first second : κ} (below : compare first second = .lt) :
    first ≠ second := by
  rintro rfl
  simp only [Std.ReflCmp.compare_self, reduceCtorEq] at below

/-- Two entries of one key are one entry. -/
private theorem entry_unique {entries : List (κ × ν)}
    (ascending : entries.Pairwise (fun first second => compare first.1 second.1 = .lt))
    {first second : κ × ν} (firstIn : first ∈ entries) (secondIn : second ∈ entries)
    (same : first.1 = second.1) : first = second := by
  induction ascending with
  | nil => simp at firstIn
  | @cons head rest headBelow _ ih =>
    rcases List.mem_cons.mp firstIn with firstHead | firstRest
    · rcases List.mem_cons.mp secondIn with secondHead | secondRest
      · rw [firstHead, secondHead]
      · exact absurd (firstHead ▸ same) (apart_of_below (headBelow second secondRest))
    · rcases List.mem_cons.mp secondIn with secondHead | secondRest
      · exact absurd (secondHead ▸ same.symm) (apart_of_below (headBelow first firstRest))
      · exact ih firstRest secondRest

variable [Std.LawfulEqOrd κ]

theorem get?_eq_some_iff : map.get? key = some value ↔ (key, value) ∈ map.entries := by
  simp only [get?, Option.map_eq_some_iff]
  constructor
  · rintro ⟨entry, found, rfl⟩
    have same : entry.1 = key := by simpa using List.find?_some found
    exact same ▸ List.mem_of_find?_eq_some found
  · intro member
    obtain ⟨entry, found⟩ : ∃ entry, map.entries.find? (fun entry => compare entry.1 key == .eq) =
        some entry := by
      apply Option.isSome_iff_exists.mp
      rw [List.find?_isSome]
      exact ⟨(key, value), member, by simp⟩
    have same : entry.1 = key := by simpa using List.find?_some found
    exact ⟨entry, found, by
      rw [entry_unique map.ascending (List.mem_of_find?_eq_some found) member same]⟩

omit [Std.LawfulEqOrd κ] in
theorem nodup_entries (map : SortedMap κ ν) : map.entries.Nodup :=
  map.ascending.imp fun below equal => apart_of_below below (congrArg Prod.fst equal)

/-- Maps that give the same at every key are equal. -/
theorem ext_get? (same : ∀ key, map.get? key = other.get? key) : map = other := by
  apply ext
  have members : ∀ entry, entry ∈ map.entries ↔ entry ∈ other.entries := by
    rintro ⟨key, value⟩
    rw [← get?_eq_some_iff, ← get?_eq_some_iff, same key]
  have perm : map.entries.Perm other.entries :=
    (List.perm_ext_iff_of_nodup (nodup_entries map) (nodup_entries other)).mpr members
  refine perm.eq_of_pairwise ?_ map.ascending other.ascending
  intro first second _ _ below above
  rw [Std.OrientedCmp.gt_of_lt below] at above
  contradiction

/-- Two lists in key order with the same entries are equal. -/
theorem eq_of_mem_iff {first second : List (κ × ν)}
    (firstAscending : first.Pairwise (fun first second => compare first.1 second.1 = .lt))
    (secondAscending : second.Pairwise (fun first second => compare first.1 second.1 = .lt))
    (members : ∀ entry, entry ∈ first ↔ entry ∈ second) : first = second := by
  have same : (⟨first, firstAscending⟩ : SortedMap κ ν) = ⟨second, secondAscending⟩ := by
    apply ext_get?
    intro key
    apply Option.ext
    intro value
    rw [get?_eq_some_iff, get?_eq_some_iff]
    exact members (key, value)
  exact congrArg entries same

private theorem mem_insertEntry_iff {entries : List (κ × ν)}
    (ascending : entries.Pairwise (fun first second => compare first.1 second.1 = .lt))
    {entry : κ × ν} :
    entry ∈ insertEntry key value entries ↔
      entry = (key, value) ∨ entry ∈ entries ∧ entry.1 ≠ key := by
  induction ascending with
  | nil => simp [insertEntry]
  | @cons head rest headBelow _ ih =>
    rw [insertEntry]
    split
    · next below =>
      have apart : ∀ other ∈ head :: rest, other.1 ≠ key := by
        intro other member
        rcases List.mem_cons.mp member with same | member
        · exact same ▸ (apart_of_below below).symm
        · exact (apart_of_below (Std.TransCmp.lt_trans below (headBelow other member))).symm
      rw [List.mem_cons]
      exact or_congr_right ⟨fun member => ⟨member, apart entry member⟩, And.left⟩
    · next same =>
      have same : key = head.1 := Std.LawfulEqCmp.eq_of_compare same
      have apart : ∀ other ∈ rest, other.1 ≠ key := fun other member =>
        same ▸ (apart_of_below (headBelow other member)).symm
      simp only [List.mem_cons]
      constructor
      · rintro (equal | member)
        · exact .inl equal
        · exact .inr ⟨.inr member, apart entry member⟩
      · rintro (equal | ⟨equal | member, different⟩)
        · exact .inl equal
        · exact absurd (equal ▸ same.symm) different
        · exact .inr member
    · next above =>
      have different : head.1 ≠ key := apart_of_below (Std.OrientedCmp.lt_of_gt above)
      rw [List.mem_cons, ih, List.mem_cons]
      constructor
      · rintro (equal | equal | ⟨member, apart⟩)
        · exact .inr ⟨.inl equal, equal ▸ different⟩
        · exact .inl equal
        · exact .inr ⟨.inr member, apart⟩
      · rintro (equal | ⟨equal | member, apart⟩)
        · exact .inr (.inl equal)
        · exact .inl equal
        · exact .inr (.inr ⟨member, apart⟩)

/-- A key that is new adds one entry. -/
theorem length_insert (absent : map.get? key = none) : (map.insert key value).keys.length = map.keys.length + 1 := by
  have new : (key, value) ∉ map.entries := by
    intro member
    rw [get?_eq_some_iff.mpr member] at absent
    cases absent
  have members : ∀ entry, entry ∈ (map.insert key value).entries ↔ entry ∈ (key, value) :: map.entries := by
    intro entry
    rw [insert, mem_insertEntry_iff map.ascending, List.mem_cons]
    refine or_congr_right ⟨And.left, fun member => ⟨member, ?_⟩⟩
    rintro rfl
    rw [get?_eq_some_iff.mpr member] at absent
    cases absent
  have perm : (map.insert key value).entries.Perm ((key, value) :: map.entries) :=
    (List.perm_ext_iff_of_nodup (nodup_entries _) (List.nodup_cons.mpr ⟨new, nodup_entries map⟩)).mpr members
  rw [keys, keys, List.length_map, List.length_map, perm.length_eq, List.length_cons]

variable [DecidableEq κ]

@[simp] theorem get?_insert :
    (map.insert key value).get? query = if query = key then some value else map.get? query := by
  apply Option.ext
  intro found
  rw [get?_eq_some_iff, insert, mem_insertEntry_iff map.ascending]
  split
  · next same => subst same; simp [eq_comm]
  · next different => simp [different, get?_eq_some_iff]

@[simp] theorem get?_erase :
    (map.erase key).get? query = if query = key then none else map.get? query := by
  apply Option.ext
  intro found
  rw [get?_eq_some_iff, erase, List.mem_filter]
  split
  · next same => subst same; simp
  · next different => simp [different, get?_eq_some_iff]

@[simp] theorem get?_singleton :
    (singleton key value).get? query = if query = key then some value else none := by
  simp [singleton]

/-- Setting a key to what it has changes nothing. -/
theorem insert_of_get? (found : map.get? key = some value) : map.insert key value = map := by
  apply ext_get?
  intro query
  rw [get?_insert]
  split
  · next same => rw [same, found]
  · rfl

theorem insert_insert {second : ν} :
    (map.insert key value).insert key second = map.insert key second := by
  apply ext_get?
  intro query
  simp only [get?_insert]
  split <;> rfl

/-- A key that is there takes one entry with it. -/
theorem length_erase (found : map.get? key = some value) : (map.erase key).keys.length + 1 = map.keys.length := by
  have absent : (map.erase key).get? key = none := by rw [get?_erase, if_pos rfl]
  have restored : (map.erase key).insert key value = map := by
    apply ext_get?
    intro query
    rw [get?_insert, get?_erase]
    split
    · next same => rw [same, found]
    · rfl
  rw [← length_insert absent, restored]

end FileGateway.SortedMap
