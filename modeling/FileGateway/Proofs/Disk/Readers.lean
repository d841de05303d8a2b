import FileGateway.Client.LocalDisk
import FileGateway.Proofs.Disk.Stream

/-! # What a reader hands out

A reader has a position, a cursor in its file and bytes read ahead. As long as the bytes read ahead are those of the
file from the position to the cursor, a read that is answered hands out a run of the file from the position on, wherever
it takes it from. A file that only grows keeps the three tied, and so does a read that the system refuses.
-/

namespace FileGateway

namespace DiskReader

variable {reader later : DiskReader} {disk : Disk} {bytes longer data : Bytes} {count place : Nat}

/-- What was read ahead is what a file holds between the position and the cursor. -/
structure Tied (reader : DiskReader) (bytes : Bytes) : Prop where
  ahead : reader.ahead <+: bytes.drop reader.position
  cursor : reader.cursor = reader.position + reader.ahead.length
  inside : reader.cursor ≤ bytes.length

namespace Tied

theorem position_le (tied : reader.Tied bytes) : reader.position ≤ bytes.length :=
  le_trans (Nat.le_add_right ..) (tied.cursor ▸ tied.inside)

/-- Bytes that are added at the end are beyond all three. -/
theorem of_prefix (tied : reader.Tied bytes) (grown : bytes <+: longer) : reader.Tied longer :=
  ⟨tied.ahead.trans (List.IsPrefix.drop grown reader.position), tied.cursor, le_trans tied.inside grown.length_le⟩

/-- Nothing is read ahead at a place of the file. -/
theorem of_place (reader : DiskReader) (within : place ≤ bytes.length) :
    Tied { reader with position := place, cursor := place, ahead := [] } bytes :=
  ⟨List.nil_prefix, rfl, within⟩

end Tied

/-- What is left to hand out is the file from the position on. -/
private theorem Tied.rest_eq (tied : reader.Tied (disk.fileData reader.file)) :
    reader.rest disk = (disk.fileData reader.file).drop reader.position := by
  rw [rest, tied.cursor, ← List.drop_drop]
  exact List.prefix_iff_eq_append.mp tied.ahead

/-- What a read does: it hands out a run of the file from the position on, and moves the position behind it. -/
structure Handout (reader : DiskReader) (bytes : Bytes) (count : Nat) (data : Bytes) (later : DiskReader) : Prop
    extends reader.Precedes later where
  run : data <+: bytes.drop reader.position
  short : data.length ≤ count
  atEnd : data.length = 0 ↔ count = 0 ∨ bytes.length ≤ reader.position
  moved : later.position = reader.position + data.length
  tied : later.Tied bytes

/-- What goes on in a file that it is tied to hands out the next run of it. -/
private theorem Progress.handout (progress : reader.Progress disk count data later)
    (tied : reader.Tied (disk.fileData reader.file)) : reader.Handout (disk.fileData reader.file) count data later := by
  have whole := progress.whole
  rw [tied.rest_eq] at whole
  have onward : later.rest disk = (disk.fileData reader.file).drop later.position := by
    rw [progress.position, ← List.drop_drop, ← whole, List.drop_left]
  refine ⟨progress.toPrecedes, ⟨_, whole⟩, progress.short, ⟨fun nothing => ?_, ?_⟩,
    progress.position, ?_, ?_, progress.inside tied.inside⟩
  · have atEnd := progress.atEnd (List.eq_nil_of_length_eq_zero nothing)
    rwa [tied.rest_eq, List.drop_eq_nil_iff] at atEnd
  · rintro (none | beyond)
    · exact Nat.le_zero.mp (none ▸ progress.short)
    · rw [List.drop_eq_nil_of_le beyond, List.append_eq_nil_iff] at whole
      exact congrArg List.length whole.1
  · rw [← onward, rest]
    exact List.prefix_append ..
  · have before := tied.cursor
    have moved := progress.position
    have advanced := progress.cursor
    omega

/-- A read hands out the next run of the file, or fails. -/
theorem read_handout (tied : reader.Tied (disk.fileData reader.file)) (count : Nat) :
    (∃ data later, reader.read disk count = (.ok data, later) ∧
      reader.Handout (disk.fileData reader.file) count data later) ∨
    ∃ error later, reader.Fails (reader.position + max count reader.capacity) error later ∧
      reader.read disk count = (.error (.onPath reader.path error), later) := by
  rcases reader.read_cases disk count with ⟨data, later, ran, progress⟩ | ⟨empty, error, later, fails, ran⟩
  · exact .inl ⟨data, later, ran, progress.handout tied⟩
  · have atCursor : reader.cursor = reader.position := by rw [tied.cursor, empty]; rfl
    exact .inr ⟨error, later, atCursor ▸ fails, ran⟩

/-- A read at a place gives what one transfer gives there, or fails. -/
theorem readAt_cases (reader : DiskReader) (disk : Disk) (place count : Nat) :
    (place + count < positionLimit ∧ ∃ data, reader.readAt disk place count = (.ok data, reader.spent) ∧
      Portion ((disk.fileData reader.file).drop place) count data ∧
      ((∀ bound, .moved bound ∈ reader.transfers → count ≤ bound) →
        data.length = min (min count Transfer.limit) ((disk.fileData reader.file).length - place))) ∨
    ∃ error later, reader.Fails (place + count) error later ∧
      reader.readAt disk place count = (.error (.onPath reader.path error), later) := by
  rw [readAt]
  rcases reader.fetch_cases disk place count with ⟨near, data, ran, portion, ample⟩ | ⟨error, later, fails, ran⟩ <;>
    rw [ran]
  · exact .inl ⟨near, data, rfl, portion, ample⟩
  · exact .inr ⟨error, later, fails, rfl⟩

/-- A portion is empty exactly if nothing is asked for or nothing is there. -/
theorem Portion.length_eq_zero_iff (portion : Portion (bytes.drop place) count data) :
    data.length = 0 ↔ count = 0 ∨ bytes.length ≤ place := by
  rw [List.length_eq_zero_iff, ← List.drop_eq_nil_iff]
  refine ⟨portion.atEnd, ?_⟩
  rintro (none | nothing)
  · exact List.eq_nil_of_length_eq_zero (Nat.le_zero.mp (le_trans portion.short (none ▸ Nat.min_le_left ..)))
  · exact List.prefix_nil.mp (nothing ▸ portion.run)

end DiskReader

/-- A reader that was just opened has read nothing. -/
theorem LocalDisk.openReader_start {conf : Configuration} {disk : Disk} {location : Location}
    {bufferSize : UInt64} {reader : DiskReader} (opened : openReader conf disk location bufferSize = .ok reader) :
    ∃ file path capacity, reader = .ofFile file path capacity := by
  simp only [openReader, bind, Except.bind] at opened
  split at opened
  · contradiction
  split at opened
  · contradiction
  · split at opened
    · contradiction
    · cases opened
      exact ⟨_, _, _, rfl⟩

end FileGateway
