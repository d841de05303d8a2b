import FileGateway.Disk.Stream
import FileGateway.Proofs.Disk.Transfers
import FileGateway.Proofs.Look

/-! # Streams over a disk

A writer at the end of its file extends it, now or later: what it handed over and what it keeps back
are together what it was given, all of it unless the system refused a transfer. A reader hands out its
file in order, first what it read ahead; one whose transfer is refused stays where it is.
-/

namespace FileGateway

namespace Disk

variable {disk mid after : Disk} {number : Nat} {data more : Bytes} {location query : Location}

/-- One file was extended, and nothing else was changed. -/
structure Extended (disk : Disk) (number : Nat) (data : Bytes) (after : Disk) : Prop where
  tree : after.tree = disk.tree
  count : after.files.length = disk.files.length
  fileData : ∀ other, after.fileData other =
    if other = number then disk.fileData number ++ data else disk.fileData other

namespace Extended

theorem refl (disk : Disk) (number : Nat) : disk.Extended number [] disk :=
  ⟨rfl, rfl, fun other => by split <;> simp_all⟩

theorem trans (first : disk.Extended number data mid) (second : mid.Extended number more after) :
    disk.Extended number (data ++ more) after := by
  refine ⟨second.tree.trans first.tree, second.count.trans first.count, fun other => ?_⟩
  rw [second.fileData, first.fileData, first.fileData, if_pos rfl]
  split <;> simp

theorem regular (extended : disk.Extended number data after) (regular : disk.Regular) : after.Regular := by
  refine ⟨extended.tree ▸ regular.rooted, ?_, ?_⟩
  · rw [extended.tree]
    exact regular.noLink
  · rw [extended.tree, extended.count]
    exact regular.allotted

/-- A place with another file, or none, looks as before. -/
theorem look_of_ne (extended : disk.Extended number data after)
    (named : disk.tree.get? query ≠ some (.file number)) : after.look query = disk.look query := by
  rw [look, look, extended.tree]
  apply Option.map_congr
  intro entry found
  cases entry with
  | directory | link => rfl
  | file other =>
    rw [occupantOf, occupantOf, extended.fileData, if_neg]
    rintro rfl
    exact named found

theorem look_of_named (extended : disk.Extended number data after)
    (named : disk.tree.get? query = some (.file number)) :
    after.look query = some (.file (disk.fileData number ++ data)) := by
  rw [look, extended.tree, named, Option.map_some, occupantOf, extended.fileData, if_pos rfl]

end Extended

/-- Data put at the end of a file extends it. -/
theorem writeAt_end (allotted : number < disk.files.length) (now : Int) (data : Bytes) :
    disk.Extended number data (disk.writeAt now number (disk.fileData number).length data) := by
  have found : disk.files[number]? = some disk.files[number] := List.getElem?_eq_getElem allotted
  have whole : disk.fileData number = disk.files[number].data := by rw [fileData, found]; rfl
  have overlaid : overlay disk.files[number].data disk.files[number].data.length data =
      disk.files[number].data ++ data := by
    rw [overlay]
    split
    · next empty => rw [List.isEmpty_iff.mp empty, List.append_nil]
    · simp
  rw [writeAt, found, whole]
  refine ⟨rfl, by simp, fun other => ?_⟩
  simp only [fileData, List.getElem?_set]
  by_cases same : other = number
  · rw [if_pos same, if_pos same.symm, if_pos (same ▸ allotted), ← whole]
    simp [overlaid, fileData, found]
  · rw [if_neg same, if_neg (Ne.symm same)]

end Disk

/-! ## Writers -/

namespace DiskWriter

variable {writer middle later : DiskWriter} {disk between after : Disk} {now : Int}
  {outcome : Except SystemError Unit} {bytes kept left data : Bytes}

/-- The next bytes of a writer go to the end of its file. -/
def AtEnd (writer : DiskWriter) (disk : Disk) : Prop :=
  writer.cursor = (disk.fileData writer.file).length ∧ writer.file < disk.files.length

/-- Bytes were handed over, and others are kept back. -/
structure Handed (writer : DiskWriter) (disk : Disk) (bytes kept : Bytes) (later : DiskWriter) (after : Disk) :
    Prop where
  moved : later = { writer with
    cursor := writer.cursor + bytes.length, pending := kept, transfers := later.transfers }
  transfers : later.transfers <:+ writer.transfers
  extended : disk.Extended writer.file bytes after

namespace Handed

theorem atEnd (handed : writer.Handed disk bytes kept later after) (atEnd : writer.AtEnd disk) :
    later.AtEnd after := by
  obtain ⟨cursor, allotted⟩ := atEnd
  rw [AtEnd, handed.moved]
  simp only
  rw [handed.extended.fileData, if_pos rfl, handed.extended.count, List.length_append, cursor]
  exact ⟨rfl, allotted⟩

theorem trans {more held : Bytes} (first : writer.Handed disk bytes held middle between)
    (second : middle.Handed between more kept later after) :
    writer.Handed disk (bytes ++ more) kept later after where
  moved := by
    rw [second.moved, first.moved]
    simp only [List.length_append, Nat.add_assoc]
  transfers := second.transfers.trans first.transfers
  extended := by
    have onward := second.extended
    rw [first.moved] at onward
    exact first.extended.trans onward

theorem pending (handed : writer.Handed disk bytes kept later after) : later.pending = kept := by
  rw [handed.moved]

/-- What has only more in its buffer has handed nothing over. -/
theorem of_kept (writer : DiskWriter) (disk : Disk) (kept : Bytes) :
    writer.Handed disk [] kept { writer with pending := kept } disk :=
  ⟨rfl, List.suffix_rfl, .refl ..⟩

end Handed

/-- If something fails, the system has refused one of the transfers of the writer. -/
def Stopped (writer : DiskWriter) (outcome : Except SystemError Unit) : Prop :=
  ∀ error, outcome = .error error → Transfer.Stops writer.transfers error

private theorem stopped_ok (writer : DiskWriter) : writer.Stopped (.ok ()) := fun _ failed => by contradiction

/-- What is poured is handed over up to where the system refused, and all of it if it did not. -/
private theorem pour_handed (atEnd : writer.AtEnd disk)
    (poured : writer.pour disk now data = (outcome, left, later, after)) :
    ∃ bytes, bytes ++ left = data ∧ (outcome = .ok () ↔ left = []) ∧ writer.Stopped outcome ∧
      writer.Handed disk bytes writer.pending later after := by
  obtain ⟨cursor, allotted⟩ := atEnd
  have within := Transfer.deliver_le writer.transfers data.length
  have all := Transfer.deliver_ok_iff writer.transfers data.length
  have suffix := Transfer.deliver_suffix writer.transfers data.length
  have stopped (error : SystemError) : (Transfer.deliver writer.transfers data.length).outcome = .error error →
      Transfer.Stops writer.transfers error := Transfer.deliver_error
  rw [pour] at poured
  rcases delivered : Transfer.deliver writer.transfers data.length with ⟨arrived, ended, transfers⟩
  rw [delivered] at poured within all suffix stopped
  cases poured
  have length : (data.take arrived).length = arrived := by rwa [List.length_take, Nat.min_eq_left]
  refine ⟨data.take arrived, List.take_append_drop .., ?_, stopped, ?_, suffix, ?_⟩
  · rw [List.drop_eq_nil_iff, all]
    exact ⟨Eq.ge, within.antisymm⟩
  · rw [length]
  · rw [cursor]
    exact Disk.writeAt_end allotted now (data.take arrived)

/-- What is pending is handed over up to where the system refused. -/
theorem drain_handed (atEnd : writer.AtEnd disk) (drained : writer.drain disk now = (outcome, later, after)) :
    ∃ bytes, bytes ++ later.pending = writer.pending ∧ (outcome = .ok () ↔ later.pending = []) ∧
      writer.Stopped outcome ∧ writer.Handed disk bytes later.pending later after := by
  rw [drain] at drained
  rcases poured : writer.pour disk now writer.pending with ⟨ended, left, middle, between⟩
  rw [poured] at drained
  cases drained
  obtain ⟨bytes, whole, all, stopped, handed⟩ := pour_handed atEnd poured
  exact ⟨bytes, whole, all, stopped, by rw [handed.moved], handed.transfers, handed.extended⟩

/-- Behind what was pending a part of some data was accepted, from its beginning, and all of it exactly if nothing
failed; of both together a part was handed over, and the rest is kept back. -/
structure Accepts (writer : DiskWriter) (disk : Disk) (data : Bytes) (outcome : Except SystemError Unit)
    (taken : Bytes) (later : DiskWriter) (after : Disk) : Prop where
  part : taken <+: data
  all : outcome = .ok () ↔ taken = data
  stopped : writer.Stopped outcome
  handed : ∃ bytes, bytes ++ later.pending = writer.pending ++ taken ∧
    writer.Handed disk bytes later.pending later after

private theorem accepts_kept (writer : DiskWriter) (disk : Disk) (data : Bytes) :
    writer.Accepts disk data (.ok ()) data { writer with pending := writer.pending ++ data } disk :=
  ⟨List.prefix_rfl, by simp, stopped_ok writer, [], rfl, .of_kept ..⟩

/-- What goes straight to the file is accepted as far as it gets there. -/
private theorem accepts_poured (atEnd : writer.AtEnd disk) (direct : data = [] ∨ writer.pending = []) (now : Int) :
    ∃ taken, writer.Accepts disk data (writer.pour disk now data).1 taken (writer.pour disk now data).2.2.1
      (writer.pour disk now data).2.2.2 := by
  rcases poured : writer.pour disk now data with ⟨outcome, left, later, after⟩
  obtain ⟨bytes, whole, all, stopped, handed⟩ := pour_handed atEnd poured
  have same := handed.pending
  refine ⟨bytes, ⟨left, whole⟩, ?_, stopped, bytes, ?_, same.symm ▸ handed⟩
  · rw [all, ← whole, List.self_eq_append_right]
  · rcases direct with rfl | nothing
    · simp [(List.append_eq_nil_iff.mp whole).1, same]
    · simp [same, nothing]

/-- After draining, the data follows what was drained. -/
private theorem Handed.accepts {taken : Bytes} (drained : writer.Handed disk bytes [] middle between)
    (all : bytes = writer.pending) (accepts : middle.Accepts between data outcome taken later after) :
    writer.Accepts disk data outcome taken later after := by
  obtain ⟨more, whole, handed⟩ := accepts.handed
  refine ⟨accepts.part, accepts.all, fun error failed => ?_, bytes ++ more, ?_, drained.trans handed⟩
  · exact (accepts.stopped error failed).of_suffix drained.transfers
  · rw [List.append_assoc, whole, drained.pending, List.nil_append, all]

theorem accept_accepts (atEnd : writer.AtEnd disk)
    (accepted : writer.accept disk now data = (outcome, later, after)) :
    ∃ taken, writer.Accepts disk data outcome taken later after := by
  rw [accept] at accepted
  split at accepted
  · cases accepted
    exact ⟨data, accepts_kept ..⟩
  next noRoom =>
  by_cases overflow : writer.capacity - writer.pending.length < data.length
  · rw [if_pos overflow] at accepted
    rcases drained : writer.drain disk now with ⟨ended, middle, between⟩
    rw [drained] at accepted
    obtain ⟨bytes, whole, emptied, stopped, handed⟩ := drain_handed atEnd drained
    cases ended with
    | error error =>
      cases accepted
      have some : data ≠ [] := List.length_pos_iff.mp (by omega)
      exact ⟨[], List.nil_prefix, by simpa using some.symm, stopped, bytes, by simpa using whole, handed⟩
    | ok =>
      have nothing : middle.pending = [] := emptied.mp rfl
      rw [nothing] at handed whole
      have all : bytes = writer.pending := by simpa using whole
      simp only at accepted
      split at accepted
      · cases accepted
        obtain ⟨taken, accepts⟩ := accepts_poured (handed.atEnd atEnd) (.inr nothing) now
        exact ⟨taken, handed.accepts all accepts⟩
      · cases accepted
        exact ⟨data, handed.accepts all (accepts_kept ..)⟩
  · rw [if_neg overflow] at accepted
    simp only at accepted
    split at accepted
    · next large =>
      -- the data fills a buffer that was empty, or there is no data at all
      have direct : data = [] ∨ writer.pending = [] := by
        rw [← List.length_eq_zero_iff, ← List.length_eq_zero_iff]
        omega
      cases accepted
      exact accepts_poured atEnd direct now
    · cases accepted
      exact ⟨data, accepts_kept ..⟩

end DiskWriter

/-! ## Readers -/

namespace DiskReader

variable {reader later : DiskReader} {disk : Disk} {place count : Nat} {bytes data : Bytes}

/-- What a reader has still to hand out. -/
def rest (reader : DiskReader) (disk : Disk) : Bytes :=
  reader.ahead ++ (disk.fileData reader.file).drop reader.cursor

/-- What one transfer gives of some bytes: a beginning, and nothing only if there is nothing or nothing was asked
for. -/
structure Portion (bytes : Bytes) (count : Nat) (data : Bytes) : Prop where
  run : data <+: bytes
  short : data.length ≤ min count Transfer.limit
  atEnd : data = [] → count = 0 ∨ bytes = []

/-- A reader after so many of the transfers that were written down for it. -/
abbrev spent (reader : DiskReader) : DiskReader := { reader with transfers := (Transfer.next reader.transfers).2 }

/-- The same reader at a later time: it may be elsewhere in its file, and may have used up transfers. -/
structure Precedes (reader later : DiskReader) : Prop where
  file : later.file = reader.file
  path : later.path = reader.path
  capacity : later.capacity = reader.capacity
  transfers : later.transfers <:+ reader.transfers

namespace Precedes

protected theorem refl (reader : DiskReader) : reader.Precedes reader := ⟨rfl, rfl, rfl, List.suffix_rfl⟩

protected theorem trans {middle : DiskReader} (first : reader.Precedes middle) (second : middle.Precedes later) :
    reader.Precedes later :=
  ⟨second.file.trans first.file, second.path.trans first.path, second.capacity.trans first.capacity,
    second.transfers.trans first.transfers⟩

end Precedes

/-- Why a reader gets nothing from its file, and what is left of it: the place behind what it asks for has no number, or
the system refuses the transfer. -/
inductive Fails (reader : DiskReader) (behind : Nat) : SystemError → DiskReader → Prop
  | beyond (far : positionLimit ≤ behind) : Fails reader behind .invalidArgument reader
  | refused {error : SystemError} (near : behind < positionLimit) (member : .refused error ∈ reader.transfers) :
      Fails reader behind error reader.spent

/-- A reader that fails is where it was. -/
theorem Fails.eq {behind : Nat} {error : SystemError} (fails : reader.Fails behind error later) :
    later.transfers <:+ reader.transfers ∧ later = { reader with transfers := later.transfers } := by
  cases fails with
  | beyond => exact ⟨List.suffix_rfl, rfl⟩
  | refused => exact ⟨Transfer.next_suffix _, rfl⟩

/-- A transfer gives some of what the file holds at the place, as much as it can if nothing cuts it short, or it
fails. -/
theorem fetch_cases (reader : DiskReader) (disk : Disk) (place count : Nat) :
    (place + count < positionLimit ∧ ∃ data, reader.fetch disk place count = (.ok data, reader.spent) ∧
      Portion ((disk.fileData reader.file).drop place) count data ∧
      ((∀ bound, .moved bound ∈ reader.transfers → count ≤ bound) →
        data.length = min (min count Transfer.limit) ((disk.fileData reader.file).length - place))) ∨
    ∃ error later, reader.Fails (place + count) error later ∧
      reader.fetch disk place count = (.error error, later) := by
  rw [fetch]
  split
  · next far => exact .inr ⟨_, _, .beyond far, rfl⟩
  next near =>
  rcases Transfer.next_cases reader.transfers count with
    ⟨most, moves, positive, ample⟩ | ⟨error, refused, member⟩
  · refine .inl ⟨Nat.lt_of_not_le near, disk.readAt reader.file place (min count most), ?_,
      ⟨List.take_prefix .., ?_, fun nothing => ?_⟩, ?_⟩
    · exact Prod.ext (congrArg (Except.map _) moves) rfl
    · rw [Disk.readAt, List.length_take]
      omega
    · have some : 0 < Transfer.limit := by decide
      rw [Disk.readAt, List.take_eq_nil_iff] at nothing
      refine nothing.imp (fun none => ?_) id
      omega
    · intro cutless
      have bound := ample cutless
      rw [Disk.readAt, List.length_take, List.length_drop]
      omega
  · exact .inr ⟨error, _, .refused (Nat.lt_of_not_le near) member, Prod.ext (congrArg (Except.map _) refused) rfl⟩

/-- A read hands out some of what is left, and nothing only at the end. -/
structure Progress (reader : DiskReader) (disk : Disk) (count : Nat) (data : Bytes) (later : DiskReader) : Prop
    extends reader.Precedes later where
  whole : data ++ later.rest disk = reader.rest disk
  short : data.length ≤ count
  atEnd : data = [] → count = 0 ∨ reader.rest disk = []
  position : later.position = reader.position + data.length
  cursor : later.cursor + reader.ahead.length = reader.cursor + data.length + later.ahead.length
  inside : reader.cursor ≤ (disk.fileData reader.file).length → later.cursor ≤ (disk.fileData reader.file).length

/-- Behind a portion of the file the file goes on. -/
private theorem Portion.behind (portion : Portion (bytes.drop place) count data) :
    data ++ bytes.drop (place + data.length) = bytes.drop place := by
  rw [← List.drop_drop]
  exact List.prefix_iff_eq_append.mp portion.run

private theorem Portion.inside (portion : Portion (bytes.drop place) count data) (within : place ≤ bytes.length) :
    place + data.length ≤ bytes.length := by
  have bound := portion.run.length_le
  rw [List.length_drop] at bound
  omega

private theorem progress_direct (empty : reader.ahead = [])
    (portion : Portion ((disk.fileData reader.file).drop reader.cursor) count data) :
    reader.Progress disk count data { reader.spent with
      cursor := reader.cursor + data.length, position := reader.position + data.length } where
  file := rfl
  path := rfl
  capacity := rfl
  transfers := Transfer.next_suffix _
  whole := by simpa only [rest, empty, List.nil_append] using portion.behind
  short := portion.short.trans (Nat.min_le_left ..)
  atEnd nothing := by simpa only [rest, empty, List.nil_append] using portion.atEnd nothing
  position := rfl
  cursor := by simp only [empty]
  inside := portion.inside

/-- Taking from the buffer hands out some of what is left if there is something in the buffer or in the file. -/
private theorem progress_buffered (disk : Disk) (count : Nat)
    (filled : reader.ahead = [] → count = 0 ∨ reader.rest disk = []) :
    reader.Progress disk count (reader.ahead.take count) { reader with
      ahead := reader.ahead.drop count, position := reader.position + (reader.ahead.take count).length } where
  file := rfl
  path := rfl
  capacity := rfl
  transfers := List.suffix_rfl
  whole := by simp only [rest, ← List.append_assoc, List.take_append_drop]
  short := by simp
  atEnd nothing := (List.take_eq_nil_iff.mp nothing).elim .inl filled
  position := rfl
  cursor := by simp only [List.length_take, List.length_drop]; omega
  inside := id

/-- Filling the buffer hands out nothing yet, and leaves the buffer empty only at the end. -/
private theorem refill_cases (room : reader.ahead = [] → 0 < reader.capacity) (disk : Disk) :
    (∃ filled, reader.refill disk = (.ok (), filled) ∧ reader.Progress disk 0 [] filled ∧
      (filled.ahead = [] → filled.rest disk = [])) ∨
    reader.ahead = [] ∧ ∃ error later, reader.Fails (reader.cursor + reader.capacity) error later ∧
      reader.refill disk = (.error error, later) := by
  rw [refill]
  split
  · next isEmpty =>
    have empty := List.isEmpty_iff.mp isEmpty
    rcases reader.fetch_cases disk reader.cursor reader.capacity with
      ⟨-, data, ran, portion, -⟩ | ⟨error, later, fails, ran⟩
    · rw [ran]
      refine .inl ⟨_, rfl, ⟨⟨rfl, rfl, rfl, Transfer.next_suffix _⟩, ?_, Nat.zero_le _, fun _ => .inl rfl, rfl, ?_,
        portion.inside⟩, fun nothing => ?_⟩
      · simpa only [rest, empty, List.nil_append] using portion.behind
      · simp only [empty, List.length_nil, Nat.add_zero]
      · obtain rfl : data = [] := nothing
        rcases portion.atEnd rfl with none | atEnd
        · exact absurd none (room empty).ne'
        · simpa only [rest, List.nil_append, List.length_nil, Nat.add_zero] using atEnd
    · rw [ran]
      exact .inr ⟨empty, error, later, fails, rfl⟩
  · next ahead =>
    exact .inl ⟨reader, rfl, ⟨.refl reader, rfl, Nat.zero_le _, fun _ => .inl rfl, rfl, by simp, id⟩,
      fun nothing => by simp [nothing] at ahead⟩

/-- Whether it reads directly, from what was read ahead, or reads ahead first, a read goes on, or fails and stays where
it is. -/
theorem read_cases (reader : DiskReader) (disk : Disk) (count : Nat) :
    (∃ data later, reader.read disk count = (.ok data, later) ∧ reader.Progress disk count data later) ∨
    reader.ahead = [] ∧ ∃ error later, reader.Fails (reader.cursor + max count reader.capacity) error later ∧
      reader.read disk count = (.error (.onPath reader.path error), later) := by
  rw [read]
  split
  · next direct =>
    rcases reader.fetch_cases disk reader.cursor count with ⟨-, data, ran, portion, -⟩ | ⟨error, later, fails, ran⟩
    · rw [ran]
      exact .inl ⟨_, _, rfl, progress_direct (List.isEmpty_iff.mp direct.1) portion⟩
    · rw [ran, max_eq_left direct.2]
      exact .inr ⟨List.isEmpty_iff.mp direct.1, error, later, fails, rfl⟩
  · next buffered =>
    have small (empty : reader.ahead = []) : count < reader.capacity :=
      Nat.lt_of_not_le fun large => buffered ⟨List.isEmpty_iff.mpr empty, large⟩
    have room (empty : reader.ahead = []) : 0 < reader.capacity := Nat.zero_lt_of_lt (small empty)
    rcases reader.refill_cases room disk with ⟨filled, ran, filling, atEnd⟩ | ⟨empty, error, later, fails, ran⟩
    · rw [ran]
      have taking := filled.progress_buffered disk count fun empty => .inr (atEnd empty)
      refine .inl ⟨_, _, rfl, ⟨filling.toPrecedes.trans taking.toPrecedes,
        taking.whole.trans filling.whole, taking.short, fun nothing => ?_, ?_, ?_, ?_⟩⟩
      · exact filling.whole ▸ taking.atEnd nothing
      · rw [taking.position, filling.position, List.length_nil, Nat.add_zero]
      · have first := filling.cursor
        have second := taking.cursor
        rw [List.length_nil] at first
        omega
      · intro within
        exact filling.file ▸ taking.inside (filling.file ▸ filling.inside within)
    · rw [ran, max_eq_right (small empty).le]
      exact .inr ⟨empty, error, later, fails, rfl⟩

end DiskReader

end FileGateway
