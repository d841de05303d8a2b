import FileGateway.Path
import FileGateway.SortedMap

/-! # Locations

A location is an absolute place: the names on the way down from the root. Clients resolve every
path they are given to a location, and their working directories are locations. Locations are
ordered name by name, so a directory comes right before everything below it.
-/

namespace FileGateway

abbrev Location := List Name

/-- Comparing name by name is transitive. -/
instance : Std.TransOrd Location := List.instTransOrd

/-- Only equal locations compare as equal. -/
instance : Std.LawfulEqOrd Location := List.instLawfulEqOrd

namespace Location

def root : Location := []

/-- The place that a path means in a working directory. -/
def resolve (directory : Location) (path : Path) : Location :=
  path.components.foldl Path.climb directory

def toPath (location : Location) : Path := Path.ofNames true location

def display (location : Location) : String := location.toPath.display

/-- The directory holding a place; the root has none. -/
def parent? (location : Location) : Option Location :=
  if location = [] then none else some location.dropLast

/-- A place and everything below it. -/
def isWithin (location directory : Location) : Bool := directory.isPrefixOf location

/-- The root first, the place itself last. -/
def ancestors : Location → List Location
  | [] => [[]]
  | name :: rest => [] :: (ancestors rest).map (name :: ·)

/-- A name that can stand in a location: not empty, no slash, neither `.` nor `..`. -/
def ProperName (name : Name) : Prop :=
  name ≠ [] ∧ Path.slash ∉ name ∧ name ≠ [Path.dot] ∧ name ≠ [Path.dot, Path.dot]

instance (name : Name) : Decidable (ProperName name) := by unfold ProperName; infer_instance

/-- A location is proper when all its names are. -/
def Proper (location : Location) : Prop := ∀ name ∈ location, ProperName name

instance (location : Location) : Decidable (Proper location) := by unfold Proper; infer_instance

end Location

end FileGateway
