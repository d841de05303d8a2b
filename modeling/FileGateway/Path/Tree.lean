import FileGateway.Path.Location

/-! # Trees of locations

A tree is an ordered map from locations. Because of the order of locations, a place and everything
below it are neighbours, so a subtree is one run of entries. Nothing here asks that the place above
an entry has an entry itself; the trees of clusters and disks keep that by their own operations.
-/

namespace FileGateway

abbrev Tree (ν : Type) := SortedMap Location ν

namespace Tree

variable {ν : Type}

/-- The entries at a location and below it, in order. -/
def descendants (tree : Tree ν) (location : Location) : List (Location × ν) :=
  (tree.entriesFrom location).takeWhile (fun entry => Location.isWithin entry.1 location)

/-- The entries one step below a location, in order. -/
def children (tree : Tree ν) (location : Location) : List (Location × ν) :=
  (tree.descendants location).filter fun entry => Location.parent? entry.1 == some location

/-- Removes entries one after the other. -/
def eraseAll (tree : Tree ν) (locations : List Location) : Tree ν :=
  locations.foldl SortedMap.erase tree

/-- Removes a location and everything below it. -/
def prune (tree : Tree ν) (location : Location) : Tree ν :=
  tree.eraseAll ((tree.descendants location).map (·.1))

/-- Moves the entry at a location below `source` to the same place below `target`. -/
def moveEntry (source target : Location) (tree : Tree ν) (location : Location) : Tree ν :=
  match tree.get? location with
  | some entry => (tree.erase location).insert (target ++ location.drop source.length) entry
  | none => tree

/-- Moves a location and everything below it. -/
def graft (tree : Tree ν) (source target : Location) : Tree ν :=
  ((tree.descendants source).map (·.1)).foldl (moveEntry source target) tree

end Tree

end FileGateway
