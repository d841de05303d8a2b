import FileGateway.Proofs.PathText
import FileGateway.Path.Tree

/-! # Subtrees of an ordered tree

A place and everything below it are neighbours in the order of locations, because names are compared
one by one. A scan that starts at a place and stops at the first stranger therefore finds the whole
subtree, and removing or moving what it found is removing or moving exactly that. `Rooted` trees are
those in which every entry stands in a directory.
-/

namespace FileGateway

namespace Location

theorem isWithin_iff {location directory : Location} :
    location.isWithin directory = true ↔ directory <+: location :=
  List.isPrefixOf_iff_prefix

theorem parent?_eq_some_iff {location parent : Location} :
    location.parent? = some parent ↔ location ≠ root ∧ location.dropLast = parent := by
  simp only [parent?, root]
  split <;> simp_all

/-- What is above a place is above the directory that holds it. -/
theorem prefix_dropLast_iff {location above : Location} (notRoot : location ≠ root) :
    above <+: location.dropLast ↔ above <+: location ∧ above ≠ location := by
  rcases List.eq_nil_or_concat location with rfl | ⟨holder, name, rfl⟩
  · exact absurd rfl notRoot
  · rw [List.concat_eq_append, List.dropLast_concat, List.prefix_concat_iff]
    constructor
    · intro within
      refine ⟨.inr within, fun same => ?_⟩
      have length := (same ▸ within).length_le
      simp at length
    · rintro ⟨rfl | within, different⟩
      · exact absurd rfl different
      · exact within

theorem not_prefix_dropLast {location : Location} (notRoot : location ≠ root) :
    ¬location <+: location.dropLast := fun within =>
  ((prefix_dropLast_iff notRoot).mp within).2 rfl

/-! ## Order -/

/-- A place comes before everything below it. -/
private theorem compare_append_ne_lt (directory rest : Location) :
    compare (directory ++ rest) directory ≠ .lt := by
  induction directory with
  | nil => cases rest <;> simp
  | cons name more ih => simpa [List.compare_eq_compareLex] using ih

/-- What lies between a place and something below it is itself below it. -/
private theorem prefix_of_between (directory rest middle : Location)
    (after : compare middle directory ≠ .lt) (before : compare middle (directory ++ rest) = .lt) :
    directory <+: middle := by
  induction directory generalizing middle with
  | nil => exact List.nil_prefix
  | cons name more ih =>
    cases middle with
    | nil => simp at after
    | cons first others =>
      rw [List.cons_append, List.compare_eq_compareLex, List.compareLex_cons_cons,
        Ordering.then_eq_lt] at before
      rw [List.compare_eq_compareLex, List.compareLex_cons_cons, ne_eq, Ordering.then_eq_lt, not_or,
        not_and] at after
      rcases before with below | ⟨same, before⟩
      · exact absurd below after.1
      · have equal : first = name := Std.LawfulEqCmp.eq_of_compare same
        exact List.cons_prefix_cons.mpr ⟨equal.symm, ih others (after.2 same) before⟩

/-! ## Ancestors -/

theorem mem_ancestors {location above : Location} : above ∈ location.ancestors ↔ above <+: location := by
  induction location generalizing above with
  | nil => simp [ancestors]
  | cons name rest ih =>
    simp only [ancestors, List.mem_cons, List.mem_map, ih]
    constructor
    · rintro (rfl | ⟨deeper, within, rfl⟩)
      · exact List.nil_prefix
      · exact List.cons_prefix_cons.mpr ⟨rfl, within⟩
    · intro within
      cases above with
      | nil => exact .inl rfl
      | cons first others =>
        obtain ⟨rfl, deeper⟩ := List.cons_prefix_cons.mp within
        exact .inr ⟨others, deeper, rfl⟩

theorem ancestors_concat (location : Location) (name : Name) :
    (location ++ [name]).ancestors = location.ancestors ++ [location ++ [name]] := by
  induction location with
  | nil => rfl
  | cons first rest ih => simp [ancestors, ih]

theorem nodup_ancestors (location : Location) : location.ancestors.Nodup := by
  induction location with
  | nil => simp [ancestors]
  | cons name rest ih =>
    rw [ancestors, List.nodup_cons]
    exact ⟨by simp, ih.map (List.cons_injective)⟩

@[simp] theorem length_ancestors (location : Location) : location.ancestors.length = location.length + 1 := by
  induction location with
  | nil => rfl
  | cons name rest ih => simp [ancestors, ih]

end Location

namespace Tree

open Location

variable {ν : Type} {tree : Tree ν} {location : Location}

/-! ## The entries below a place -/

private theorem takeWhile_eq_filter {entries : List (Location × ν)}
    (ascending : entries.Pairwise (fun first second => compare first.1 second.1 = .lt))
    (after : ∀ entry ∈ entries, compare entry.1 location ≠ .lt) :
    entries.takeWhile (fun entry => isWithin entry.1 location) =
      entries.filter (fun entry => isWithin entry.1 location) := by
  induction ascending with
  | nil => rfl
  | @cons head rest headBelow _ ih =>
    have later := ih fun entry member => after entry (List.mem_cons_of_mem _ member)
    by_cases within : isWithin head.1 location
    · simp only [List.takeWhile_cons, List.filter_cons, within, later, if_true]
    · simp only [List.takeWhile_cons, List.filter_cons, within, Bool.false_eq_true, if_false]
      rw [eq_comm, List.filter_eq_nil_iff]
      intro entry member inside
      obtain ⟨suffix, same⟩ := isWithin_iff.mp inside
      refine within (isWithin_iff.mpr (prefix_of_between location suffix head.1 ?_ ?_))
      · exact after head (List.mem_cons_self ..)
      · exact same ▸ headBelow entry member

/-- A scan from a place to the first stranger finds all that is below it. -/
theorem descendants_eq_filter (tree : Tree ν) (location : Location) :
    tree.descendants location = tree.entries.filter (fun entry => isWithin entry.1 location) := by
  rw [descendants, SortedMap.entriesFrom]
  have ascending := tree.ascending
  generalize tree.entries = entries at ascending
  induction ascending with
  | nil => rfl
  | @cons head rest headBelow restAscending ih =>
    by_cases below : compare head.1 location = .lt
    · have stranger : ¬isWithin head.1 location := fun within => by
        obtain ⟨suffix, same⟩ := isWithin_iff.mp within
        exact compare_append_ne_lt location suffix (same ▸ below)
      rw [List.dropWhile_cons, List.filter_cons, if_neg stranger, if_pos (by simp [below]), ih]
    · rw [List.dropWhile_cons, if_neg (by simp [below])]
      apply takeWhile_eq_filter (.cons headBelow restAscending)
      intro entry member
      rcases List.mem_cons.mp member with rfl | member
      · exact below
      · intro before
        exact below (Std.TransCmp.lt_trans (headBelow entry member) before)

theorem mem_descendants {place : Location} {entry : ν} :
    (place, entry) ∈ tree.descendants location ↔
      tree.get? place = some entry ∧ location <+: place := by
  rw [descendants_eq_filter, List.mem_filter, SortedMap.get?_eq_some_iff, isWithin_iff]

theorem mem_children {place : Location} {entry : ν} :
    (place, entry) ∈ tree.children location ↔
      tree.get? place = some entry ∧ ∃ name, place = location ++ [name] := by
  simp only [children, List.mem_filter, mem_descendants, beq_iff_eq, parent?_eq_some_iff]
  constructor
  · rintro ⟨⟨found, -⟩, nonempty, same⟩
    exact ⟨found, place.getLast nonempty, same ▸ (List.dropLast_append_getLast nonempty).symm⟩
  · rintro ⟨found, name, rfl⟩
    exact ⟨⟨found, List.prefix_append _ _⟩, by simp [root], by simp⟩

/-! ## Removing and moving subtrees -/

private theorem get?_eraseAll (locations : List Location) (query : Location) :
    (tree.eraseAll locations).get? query = if query ∈ locations then none else tree.get? query := by
  rw [eraseAll]
  induction locations generalizing tree with
  | nil => rfl
  | cons first rest ih =>
    rw [List.foldl_cons, ih, SortedMap.get?_erase]
    by_cases later : query ∈ rest <;> by_cases same : query = first <;> simp [later, same]

theorem get?_prune (tree : Tree ν) (location query : Location) :
    (tree.prune location).get? query = if location <+: query then none else tree.get? query := by
  rw [prune, get?_eraseAll]
  have found : query ∈ (tree.descendants location).map (·.1) ↔
      location <+: query ∧ (tree.get? query).isSome := by
    simp [mem_descendants, Option.isSome_iff_exists, and_comm]
  by_cases within : location <+: query
  · rw [if_pos within]
    split
    · rfl
    · next absent =>
      rw [found, not_and, Option.not_isSome_iff_eq_none] at absent
      exact absent within
  · rw [if_neg within, if_neg fun member => within (found.mp member).1]

theorem nodup_descendants (tree : Tree ν) (location : Location) :
    ((tree.descendants location).map (·.1)).Nodup := by
  rw [descendants_eq_filter, List.nodup_iff_pairwise_ne, List.pairwise_map]
  apply (tree.ascending.filter _).imp
  intro first second below same
  have self : compare second.1 second.1 = .eq := Std.ReflCmp.compare_self
  rw [same, self] at below
  contradiction

/-- The entries right below a place by name, each once. -/
theorem exists_named (tree : Tree ν) (location : Location) :
    ∃ named : List (Name × ν), (named.map (·.1)).Nodup ∧
      tree.children location = named.map (fun entry => (location ++ [entry.1], entry.2)) ∧
      ∀ name entry, (name, entry) ∈ named ↔ tree.get? (location ++ [name]) = some entry := by
  have child {place : Location} {entry : ν} (member : (place, entry) ∈ tree.children location) :
      location ++ [place.getLastD []] = place := by
    obtain ⟨-, name, rfl⟩ := mem_children.mp member
    simp
  let named := (tree.children location).map fun entry => (entry.1.getLastD [], entry.2)
  have shape : tree.children location = named.map (fun entry => (location ++ [entry.1], entry.2)) := by
    rw [List.map_map]
    refine (List.map_congr_left fun entry member => ?_).trans (List.map_id _) |>.symm
    exact Prod.ext (child member) rfl
  refine ⟨named, ?_, shape, fun name entry => ?_⟩
  · have nodup : ((tree.children location).map (·.1)).Nodup :=
      (nodup_descendants tree location).sublist (List.filter_sublist.map _)
    rw [shape, List.map_map] at nodup
    exact .of_map (fun name => location ++ [name]) (by rwa [List.map_map])
  · have member : (location ++ [name], entry) ∈ tree.children location ↔ (name, entry) ∈ named := by
      rw [shape, List.mem_map]
      simp
    rw [← member, mem_children]
    simp

/-- The places right below a place, as names without repetition. -/
theorem exists_names (tree : Tree ν) (location : Location) :
    ∃ names : List Name, names.Nodup ∧
      (tree.children location).map (·.1) = names.map (fun name => location ++ [name]) ∧
      ∀ name, name ∈ names ↔ tree.get? (location ++ [name]) ≠ none := by
  obtain ⟨named, nodup, shape, members⟩ := exists_named tree location
  refine ⟨named.map (·.1), nodup, by simp [shape], fun name => ?_⟩
  rw [List.mem_map, Option.ne_none_iff_exists']
  constructor
  · rintro ⟨⟨_, entry⟩, member, rfl⟩
    exact ⟨entry, (members _ _).mp member⟩
  · rintro ⟨entry, found⟩
    exact ⟨(name, entry), (members _ _).mpr found, rfl⟩

section Moving

variable {source target : Location}

private theorem moveEntry_append {suffix : Location} {entry : ν}
    (found : tree.get? (source ++ suffix) = some entry) :
    moveEntry source target tree (source ++ suffix) =
      (tree.erase (source ++ suffix)).insert (target ++ suffix) entry := by
  simp only [moveEntry, found, List.drop_left]

/-- Moving entries one by one, when no entry arrives where another one leaves. -/
private theorem get?_foldl_moveEntry (tree : Tree ν)
    (apart : ∀ first second, target ++ first ≠ source ++ second) {suffixes : List Location} (nodup : suffixes.Nodup)
    (present : ∀ suffix ∈ suffixes, ∃ entry, tree.get? (source ++ suffix) = some entry) :
    let moved := (suffixes.map (source ++ ·)).foldl (moveEntry source target) tree
    (∀ suffix ∈ suffixes, moved.get? (target ++ suffix) = tree.get? (source ++ suffix)) ∧
    (∀ suffix ∈ suffixes, moved.get? (source ++ suffix) = none) ∧
    (∀ query, (∀ suffix ∈ suffixes, query ≠ target ++ suffix ∧ query ≠ source ++ suffix) →
      moved.get? query = tree.get? query) := by
  induction suffixes generalizing tree with
  | nil => simp
  | cons first rest ih =>
    obtain ⟨entry, found⟩ := present first (List.mem_cons_self ..)
    obtain ⟨fresh, nodup⟩ := List.nodup_cons.mp nodup
    have other {suffix : Location} (member : suffix ∈ rest) : suffix ≠ first :=
      fun same => fresh (same ▸ member)
    rw [List.map_cons, List.foldl_cons, moveEntry_append found]
    have staying (suffix : Location) (different : suffix ≠ first) :
        ((tree.erase (source ++ first)).insert (target ++ first) entry).get? (source ++ suffix) =
          tree.get? (source ++ suffix) := by
      rw [SortedMap.get?_insert, if_neg (apart first suffix).symm, SortedMap.get?_erase,
        if_neg (by simpa using different)]
    obtain ⟨arrived, left, untouched⟩ := ih _ nodup fun suffix member => by
      rw [staying suffix (other member)]
      exact present suffix (List.mem_cons_of_mem _ member)
    refine ⟨?_, ?_, ?_⟩
    · intro suffix member
      rcases List.mem_cons.mp member with rfl | member
      · rw [untouched _ fun later inRest => ⟨?_, apart _ _⟩, SortedMap.get?_insert, if_pos rfl, found]
        simpa using (other inRest).symm
      · rw [arrived suffix member, staying suffix (other member)]
    · intro suffix member
      rcases List.mem_cons.mp member with rfl | member
      · rw [untouched _ fun later inRest => ⟨(apart _ _).symm, ?_⟩, SortedMap.get?_insert,
          if_neg (apart _ _).symm, SortedMap.get?_erase, if_pos rfl]
        simpa using (other inRest).symm
      · exact left suffix member
    · intro query strange
      obtain ⟨notArriving, notLeaving⟩ := strange first (List.mem_cons_self ..)
      rw [untouched query fun suffix member => strange suffix (List.mem_cons_of_mem _ member),
        SortedMap.get?_insert, if_neg notArriving, SortedMap.get?_erase, if_neg notLeaving]

private theorem append_ne_append (notBelow : ¬source <+: target) (notAbove : ¬target <+: source)
    (first second : Location) : target ++ first ≠ source ++ second := by
  intro same
  have within : source <+: target ++ first := ⟨second, same.symm⟩
  rcases List.prefix_or_prefix_of_prefix within (List.prefix_append target first) with below | above
  · exact notBelow below
  · exact notAbove above

/-- The scan below a place, as suffixes of the place. -/
private theorem exists_suffixes (tree : Tree ν) (source : Location) :
    ∃ suffixes : List Location,
      (tree.descendants source).map (·.1) = suffixes.map (source ++ ·) ∧
      ∀ suffix, suffix ∈ suffixes ↔ ∃ entry, tree.get? (source ++ suffix) = some entry := by
  refine ⟨(tree.descendants source).map (fun entry => entry.1.drop source.length), ?_, ?_⟩
  · rw [List.map_map]
    apply List.map_congr_left
    intro entry member
    obtain ⟨-, suffix, same⟩ := mem_descendants.mp (show (entry.1, entry.2) ∈ _ from member)
    simp [← same]
  · intro suffix
    simp only [List.mem_map, Prod.exists, mem_descendants]
    constructor
    · rintro ⟨_, entry, ⟨found, rest, rfl⟩, rfl⟩
      rw [List.drop_left]
      exact ⟨entry, found⟩
    · rintro ⟨entry, found⟩
      exact ⟨source ++ suffix, entry, ⟨found, List.prefix_append _ _⟩, List.drop_left⟩

/-- Moving a subtree to a free place outside it moves all its entries and no other. -/
theorem get?_graft (tree : Tree ν) (notBelow : ¬source <+: target)
    (free : ∀ place, target <+: place → tree.get? place = none) (query : Location) :
    (tree.graft source target).get? query =
      if target <+: query then tree.get? (source ++ query.drop target.length)
      else if source <+: query then none
      else tree.get? query := by
  rw [graft]
  by_cases above : target <+: source
  · -- nothing is found at the source, as it is below a free place
    have free' : ∀ place, source <+: place → tree.get? place = none := fun place within =>
      free place (above.trans within)
    have empty : tree.descendants source = [] := by
      rw [List.eq_nil_iff_forall_not_mem]
      rintro ⟨place, entry⟩ member
      obtain ⟨found, within⟩ := mem_descendants.mp member
      rw [free' place within] at found
      contradiction
    rw [empty, List.map_nil, List.foldl_nil, free' _ (List.prefix_append _ _)]
    split
    · next within => exact free query within
    · next outside =>
      rw [if_neg fun within => outside (above.trans within)]
  · obtain ⟨suffixes, keys, members⟩ := exists_suffixes tree source
    have nodup : suffixes.Nodup := .of_map (source ++ ·) (keys ▸ nodup_descendants tree source)
    obtain ⟨arrived, left, untouched⟩ := get?_foldl_moveEntry tree
      (append_ne_append notBelow above) nodup fun suffix => (members suffix).mp
    rw [keys]
    by_cases inTarget : target <+: query
    · obtain ⟨suffix, rfl⟩ := inTarget
      rw [if_pos (List.prefix_append _ _), List.drop_left]
      by_cases member : suffix ∈ suffixes
      · exact arrived suffix member
      · rw [untouched _ fun other inSuffixes => ⟨?_, append_ne_append notBelow above _ _⟩,
          free _ (List.prefix_append _ _)]
        · have absent := mt (members suffix).mpr member
          rw [← Option.isSome_iff_exists, Option.not_isSome_iff_eq_none] at absent
          exact absent.symm
        · simpa using ne_of_mem_of_not_mem inSuffixes member |>.symm
    · rw [if_neg inTarget]
      have notArriving (suffix : Location) : query ≠ target ++ suffix := fun same =>
        inTarget ⟨suffix, same.symm⟩
      by_cases inSource : source <+: query
      · obtain ⟨suffix, rfl⟩ := inSource
        rw [if_pos (List.prefix_append _ _)]
        by_cases member : suffix ∈ suffixes
        · exact left suffix member
        · rw [untouched _ fun other inSuffixes => ⟨notArriving other, ?_⟩]
          · have absent := mt (members suffix).mpr member
            rwa [← Option.isSome_iff_exists, Option.not_isSome_iff_eq_none] at absent
          · simpa using ne_of_mem_of_not_mem inSuffixes member |>.symm
      · rw [if_neg inSource]
        exact untouched query fun suffix _ =>
          ⟨notArriving suffix, fun same => inSource ⟨suffix, same.symm⟩⟩

end Moving

end Tree

end FileGateway
