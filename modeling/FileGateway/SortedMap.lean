/-! # Finite maps in key order

A map is the list of its entries, strictly ascending by key, so walking the entries is walking the
keys in order and two maps with the same entries are equal. Every operation is described by its
effect on `get?`.
-/

namespace FileGateway

structure SortedMap (κ ν : Type) [Ord κ] where
  entries : List (κ × ν)
  ascending : entries.Pairwise (fun first second => compare first.1 second.1 = .lt)

namespace SortedMap

variable {κ ν : Type} [Ord κ]

instance [DecidableEq κ] [DecidableEq ν] : DecidableEq (SortedMap κ ν) := fun first second =>
  if h : first.entries = second.entries then
    isTrue (by cases first; cases second; cases h; rfl)
  else isFalse (fun same => h (congrArg entries same))

instance [Repr κ] [Repr ν] : Repr (SortedMap κ ν) := ⟨fun map prec => reprPrec map.entries prec⟩

def empty : SortedMap κ ν := ⟨[], .nil⟩

instance : Inhabited (SortedMap κ ν) := ⟨empty⟩

@[ext]
theorem ext {first second : SortedMap κ ν} (h : first.entries = second.entries) :
    first = second := by
  cases first; cases second; cases h; rfl

def keys (map : SortedMap κ ν) : List κ := map.entries.map (·.1)

def values (map : SortedMap κ ν) : List ν := map.entries.map (·.2)

/-- The value at a key. -/
def get? (map : SortedMap κ ν) (key : κ) : Option ν :=
  (map.entries.find? (fun entry => compare entry.1 key == .eq)).map (·.2)

def contains (map : SortedMap κ ν) (key : κ) : Bool := (map.get? key).isSome

/-- Places an entry before the first larger key, over an entry of the same key. -/
def insertEntry (key : κ) (value : ν) : List (κ × ν) → List (κ × ν)
  | [] => [(key, value)]
  | entry :: rest =>
    match compare key entry.1 with
    | .lt => (key, value) :: entry :: rest
    | .eq => (key, value) :: rest
    | .gt => entry :: insertEntry key value rest

theorem mem_insertEntry {key : κ} {value : ν} {entries : List (κ × ν)} {entry : κ × ν}
    (h : entry ∈ insertEntry key value entries) : entry = (key, value) ∨ entry ∈ entries := by
  induction entries with
  | nil => simpa [insertEntry] using h
  | cons head rest ih =>
    rw [insertEntry] at h
    split at h
    · simpa using h
    · rcases List.mem_cons.mp h with same | inRest
      · exact .inl same
      · exact .inr (List.mem_cons_of_mem _ inRest)
    · rcases List.mem_cons.mp h with same | inRest
      · exact .inr (same ▸ List.mem_cons_self)
      · exact (ih inRest).imp id (List.mem_cons_of_mem _)

variable [Std.TransOrd κ] [Std.LawfulEqOrd κ]

theorem ascending_insertEntry (key : κ) (value : ν) {entries : List (κ × ν)}
    (ascending : entries.Pairwise (fun first second => compare first.1 second.1 = .lt)) :
    (insertEntry key value entries).Pairwise
      (fun first second => compare first.1 second.1 = .lt) := by
  induction ascending with
  | nil => simp [insertEntry]
  | @cons head rest headBelow restAscending ih =>
    rw [insertEntry]
    split
    · next below =>
      refine .cons (fun entry found => ?_) (.cons headBelow restAscending)
      rcases List.mem_cons.mp found with same | inRest
      · exact same ▸ below
      · exact Std.TransCmp.lt_trans below (headBelow entry inRest)
    · next same =>
      have same : key = head.1 := Std.LawfulEqCmp.eq_of_compare same
      exact .cons (fun entry found => same ▸ headBelow entry found) restAscending
    · next above =>
      refine .cons (fun entry found => ?_) ih
      rcases mem_insertEntry found with same | inRest
      · exact same ▸ Std.OrientedCmp.lt_of_gt above
      · exact headBelow entry inRest

/-- The map with one key set. -/
def insert (map : SortedMap κ ν) (key : κ) (value : ν) : SortedMap κ ν :=
  ⟨insertEntry key value map.entries, ascending_insertEntry key value map.ascending⟩

omit [Std.TransOrd κ] [Std.LawfulEqOrd κ] in
theorem ascending_filter (keeps : κ × ν → Bool) (map : SortedMap κ ν) :
    (map.entries.filter keeps).Pairwise (fun first second => compare first.1 second.1 = .lt) :=
  map.ascending.filter keeps

/-- The map without one key. -/
def erase (map : SortedMap κ ν) (key : κ) : SortedMap κ ν :=
  ⟨map.entries.filter (fun entry => compare entry.1 key != .eq), ascending_filter _ map⟩

/-- The entries from a key on, in key order. -/
def entriesFrom (map : SortedMap κ ν) (key : κ) : List (κ × ν) :=
  map.entries.dropWhile (fun entry => compare entry.1 key == .lt)

def singleton (key : κ) (value : ν) : SortedMap κ ν := empty.insert key value

/-- Changes the value at a key, if there is one. -/
def modify (map : SortedMap κ ν) (key : κ) (change : ν → ν) : SortedMap κ ν :=
  match map.get? key with
  | some value => map.insert key (change value)
  | none => map

end SortedMap

end FileGateway
