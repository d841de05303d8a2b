import FileGateway.Proofs.Look
import FileGateway.Proofs.PathText

/-! # Walking a disk without links

On a disk without symbolic links the text of a proper location leads to that location or nowhere. It
leads there only if everything above is a directory, and where the walk ends for want of an entry,
nothing stands at the location.
-/

namespace FileGateway

open FileGateway.Path

namespace Step

private theorem ofSegment_of_proper {name : Name} (proper : Location.ProperName name) :
    ofSegment name = .enter name := by
  rw [ofSegment, if_neg proper.2.2.1, if_neg proper.2.2.2]

/-- The text of a proper location enters its names, one after the other. -/
theorem ofBytes_toPath {location : Location} (proper : location.Proper) :
    ofBytes location.toPath.bytes = location.map .enter := by
  by_cases empty : location = []
  · subst empty
    rfl
  · have names : (segments location.toPath.bytes).filter (· ≠ []) = location := by
      rw [Location.segments_toPath proper empty, List.filter_cons, if_neg (by simp), List.filter_eq_self]
      intro name member
      simpa using (proper name member).1
    have entered : location.map ofSegment = location.map .enter :=
      List.map_congr_left fun name member => ofSegment_of_proper (proper name member)
    rw [ofBytes]
    simp only [names, entered]
    apply if_neg
    rintro ⟨_, last⟩
    rw [Location.segments_toPath proper empty, List.getLast?_cons,
      List.getLast?_eq_some_getLast empty, Option.getD_some, Option.some.injEq] at last
    exact (proper _ (List.getLast_mem empty)).1 last

end Step

namespace Disk

variable {disk : Disk} {ending : Ending} {here location : Location} {error : SystemError}

/-- A walk down names arrives below directories, or gets nowhere. -/
private theorem stride_names (regular : disk.Regular) (ending : Ending) (here names : Location) :
    (disk.stride ending here (names.map .enter) = .ok (.arrived (here ++ names)) ∧
      (names ≠ [] → disk.look (here ++ names).dropLast = some .directory)) ∨
    (∃ error, disk.stride ending here (names.map .enter) = .error error ∧
      (error.errorKind = .notFound → disk.look (here ++ names) = none)) := by
  induction names generalizing here with
  | nil => exact .inl ⟨by simp [stride], fun nonempty => absurd rfl nonempty⟩
  | cons name rest ih =>
    rw [List.map_cons, stride]
    have absent (noDirectory : disk.look here ≠ some .directory) : disk.look (here ++ name :: rest) = none :=
      regular.hierarchy.none_below noDirectory (List.prefix_append ..) (by simp)
    cases found : disk.tree.get? here with
    | none => exact .inr ⟨_, rfl, fun _ => absent (by simp [look, found])⟩
    | some entry =>
      cases entry with
      | file number => exact .inr ⟨_, rfl, fun kind => absurd kind (by decide)⟩
      | link target modified => exact absurd found regular.noLink
      | directory modified =>
        have notSlash : ¬(ending = .create ∧ rest.map Step.enter = [.slash]) := by
          rintro ⟨-, same⟩
          cases rest <;> simp at same
        simp only [notSlash, if_false]
        split
        · exact .inr ⟨_, rfl, fun kind => absurd kind (by decide)⟩
        · split
          · next target modified isLink => exact absurd isLink regular.noLink
          · rcases ih (here ++ [name]) with ⟨arrived, above⟩ | ⟨error, failed, missing⟩
            · refine .inl ⟨by simpa using arrived, fun _ => ?_⟩
              by_cases last : rest = []
              · subst last
                rw [List.dropLast_concat]
                exact look_eq_directory_iff.mpr ⟨modified, found⟩
              · simpa using above last
            · exact .inr ⟨error, failed, by simpa using missing⟩

/-- Where the text of a proper location leads. -/
theorem locate_toPath (regular : disk.Regular) (ending : Ending) (proper : location.Proper) :
    (disk.locate ending location.toPath = .ok location ∧ location.toPath.bytes.length < pathLimit ∧
      (location ≠ .root → disk.look location.dropLast = some .directory)) ∨
    (∃ error, disk.locate ending location.toPath = .error error ∧
      (error.errorKind = .notFound → disk.look location = none)) := by
  rw [locate]
  split_ifs with nul empty long absolute
  · exact .inr ⟨_, rfl, fun kind => absurd kind (by decide)⟩
  · simp [Location.toPath, ofNames] at empty
  · exact .inr ⟨_, rfl, fun kind => absurd kind (by decide)⟩
  · simp only [Step.ofBytes_toPath proper, maxLinks, walk]
    rcases stride_names regular ending .root location with ⟨arrived, above⟩ | ⟨error, failed, missing⟩
    · rw [arrived]
      exact .inl ⟨rfl, Nat.lt_of_not_le long, above⟩
    · rw [failed]
      exact .inr ⟨error, rfl, missing⟩
  · exact absurd (Location.isAbsolute_toPath location) absolute

theorem locate_ok (regular : disk.Regular) (proper : location.Proper)
    (done : disk.locate ending location.toPath = .ok here) :
    here = location ∧ location.toPath.bytes.length < pathLimit ∧
      (location ≠ .root → disk.look location.dropLast = some .directory) := by
  rcases locate_toPath regular ending proper with ⟨arrived, rest⟩ | ⟨error, failed, -⟩
  · exact ⟨Except.ok.inj (done.symm.trans arrived), rest⟩
  · rw [failed] at done
    contradiction

theorem find_ok (regular : disk.Regular) (proper : location.Proper) {found : Location × DiskEntry}
    (done : disk.find ending location.toPath = .ok found) :
    found.1 = location ∧ disk.tree.get? location = some found.2 ∧
      location.toPath.bytes.length < pathLimit := by
  rw [find] at done
  split at done
  · contradiction
  · next here arrived =>
    obtain ⟨rfl, short, -⟩ := locate_ok regular proper arrived
    split at done
    · next entry present =>
      obtain rfl := Except.ok.inj done
      exact ⟨rfl, present, short⟩
    · contradiction

/-- A search that finds nothing is right. -/
theorem find_notFound (regular : disk.Regular) (proper : location.Proper)
    (failed : disk.find ending location.toPath = .error error) (kind : error.errorKind = .notFound) :
    disk.look location = none := by
  rw [find] at failed
  rcases locate_toPath regular ending proper with ⟨arrived, -⟩ | ⟨other, missed, missing⟩
  · rw [arrived] at failed
    simp only at failed
    split at failed
    · contradiction
    · next absent => exact look_eq_none_iff.mpr absent
  · rw [missed] at failed
    obtain rfl : other = error := Except.error.inj failed
    exact missing kind

/-- A listing tells every name in a directory once, with the status of its entry, wherever links lead. -/
theorem list_ok {path : Path} {listed : List (Name × DiskStatus)} (done : disk.list path = .ok listed) :
    ∃ place modified, ∃ named : List (Name × DiskEntry),
      disk.find .follow path = .ok (place, .directory modified) ∧ (named.map (·.1)).Nodup ∧
      (∀ name entry, (name, entry) ∈ named ↔ disk.tree.get? (place ++ [name]) = some entry) ∧
      listed = named.map fun entry => (entry.1, disk.statusOf entry.2) := by
  rw [list] at done
  split at done
  · contradiction
  · next place modified search =>
    obtain ⟨named, nodup, shape, members⟩ := Tree.exists_named disk.tree place
    refine ⟨place, modified, named, search, nodup, members, ?_⟩
    rw [← Except.ok.inj done, shape, List.filterMap_map]
    simp
  · contradiction

end Disk

end FileGateway
