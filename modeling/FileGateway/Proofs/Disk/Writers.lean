import FileGateway.Proofs.Cluster.Writers
import FileGateway.Proofs.Disk.Continuity
import FileGateway.Proofs.Disk.Stream

/-! # What a writer does to its file

A writer knows its file by number, so whether a call on an open one succeeds does not depend on what has become of the
name, but on the system alone. A call hands over a part of what was pending and what comes with it, and keeps the rest
back; nothing is kept back by a flush that is answered, and nothing is lost but what an end of the stream could not hand
over. A closed writer changes nothing any more: it can be closed again, and refuses everything else.
-/

namespace FileGateway.DiskWriter

open Disk (Continued)

variable {writer : DiskWriter} {disk : Disk}

/-- A call on a writer, without the count of accepted bytes. -/
def answer (writer : DiskWriter) (disk : Disk) (now : Int) : WriterCall → Except Exception Unit × DiskWriter × Disk
  | .write data =>
    let (outcome, writer, disk) := writer.write disk now data
    (outcome.map fun _ => (), writer, disk)
  | .flush => writer.flush disk now
  | .close => writer.close disk now

/-- A write that is answered accepts all of the data. -/
theorem write_outcome (writer : DiskWriter) (disk : Disk) (now : Int) (data : Bytes) :
    (writer.write disk now data).1 = (writer.answer disk now (.write data)).1.map fun _ => data.length := by
  rw [answer, write]
  split
  · rfl
  · rcases writer.accept disk now data with ⟨_ | _, _, _⟩ <;> rfl

theorem answer_of_closed (isClosed : writer.closed = true) (disk : Disk) (now : Int) (call : WriterCall) :
    writer.answer disk now call =
      (if call.isClose then .ok () else .error (.closed writer.path), writer, disk) := by
  cases call <;> simp [answer, write, flush, close, isClosed, WriterCall.isClose, Except.map]

theorem drop_of_closed (isClosed : writer.closed = true) (disk : Disk) (now : Int) :
    writer.drop disk now = (writer, disk) := by
  rw [drop, if_pos isClosed]

/-- The same writer at a later time: it may have used up transfers. -/
structure Precedes (writer later : DiskWriter) : Prop where
  file : later.file = writer.file
  path : later.path = writer.path
  transfers : later.transfers <:+ writer.transfers

namespace Precedes

protected theorem refl (writer : DiskWriter) : writer.Precedes writer := ⟨rfl, rfl, List.suffix_rfl⟩

protected theorem trans {middle later : DiskWriter} (first : writer.Precedes middle) (second : middle.Precedes later) :
    writer.Precedes later :=
  ⟨second.file.trans first.file, second.path.trans first.path, second.transfers.trans first.transfers⟩

end Precedes

/-- An open writer after a call: it took a part of the data that came with it, all of it if the call was answered, and
handed bytes over, keeps others back and lost the rest. -/
structure Served (writer : DiskWriter) (disk : Disk) (call : WriterCall) (answered : Bool) (taken lost : Bytes)
    (later : DiskWriter) (after : Disk) : Prop extends writer.Precedes later where
  part : taken <+: call.data
  all : answered = true → taken = call.data
  short : answered = false → taken = call.data → call.data = []
  spared : answered = true ∨ call.isClose = false → lost = []
  emptied : (answered = true ∧ ∀ data, call ≠ .write data) ∨ call.isClose = true → later.pending = []
  handed : ∃ bytes, bytes ++ (later.pending ++ lost) = writer.pending ++ taken ∧
    disk.Extended writer.file bytes after ∧ later.cursor = writer.cursor + bytes.length
  position : later.position = writer.position + if answered then call.data.length else 0
  closed : later.closed = call.isClose

/-- What a call on an open writer does, and how it fails. -/
structure Serves (writer : DiskWriter) (disk : Disk) (call : WriterCall) (outcome : Except Exception Unit)
    (later : DiskWriter) (after : Disk) : Prop where
  served : ∃ taken lost, writer.Served disk call outcome.toBool taken lost later after
  fails : ∀ exception, outcome = .error exception →
    ∃ error, Transfer.Stops writer.transfers error ∧ exception = .onPath writer.path error

/-- What was handed over without an end is served, and loses nothing. -/
private theorem Handed.served {later last : DiskWriter} {after : Disk} {call : WriterCall} {answered : Bool}
    {bytes taken : Bytes} (handed : writer.Handed disk bytes later.pending later after)
    (whole : bytes ++ later.pending = writer.pending ++ taken) (part : taken <+: call.data)
    (all : answered = true → taken = call.data) (short : answered = false → taken = call.data → call.data = [])
    (emptied : (answered = true ∧ ∀ data, call ≠ .write data) → later.pending = []) (isOpen : writer.closed = false)
    (goesOn : call.isClose = false) (same : last = { later with position := last.position })
    (position : last.position = writer.position + if answered then call.data.length else 0) :
    writer.Served disk call answered taken [] last after := by
  have moved := handed.moved
  refine ⟨⟨by rw [same, moved], by rw [same, moved], same ▸ handed.transfers⟩, part, all, short, fun _ => rfl,
    fun empties => ?_, ⟨bytes, ?_, handed.extended, ?_⟩, position, ?_⟩
  · rw [same]
    exact emptied (empties.resolve_right (by simp [goesOn]))
  · rw [List.append_nil, same]
    exact whole
  · rw [same, moved]
  · rw [same, moved, goesOn]
    exact isOpen

section Open

variable (isOpen : writer.closed = false) (atEnd : writer.AtEnd disk) (now : Int)
include isOpen atEnd

private theorem write_serves (data : Bytes) : writer.Serves disk (.write data) (writer.answer disk now (.write data)).1
    (writer.answer disk now (.write data)).2.1 (writer.answer disk now (.write data)).2.2 := by
  rw [answer, write, if_neg (by simp [isOpen])]
  rcases accepted : writer.accept disk now data with ⟨outcome, later, after⟩
  obtain ⟨taken, accepts⟩ := accept_accepts atEnd accepted
  obtain ⟨bytes, whole, handed⟩ := accepts.handed
  cases outcome with
  | ok =>
    have all : taken = data := accepts.all.mp rfl
    exact ⟨⟨taken, [], handed.served whole accepts.part (fun _ => all) (by simp [Except.map, Except.toBool]) (by simp)
      isOpen rfl rfl rfl⟩, by simp [Except.map]⟩
  | error error =>
    have some : taken ≠ data := fun all => by simpa using accepts.all.mpr all
    have stays : later.position = writer.position := by rw [handed.moved]
    exact ⟨⟨taken, [], handed.served whole accepts.part (by simp [Except.map, Except.toBool])
      (fun _ all => absurd all some) (by simp) isOpen rfl rfl stays⟩,
      fun exception same => ⟨error, accepts.stopped error rfl, (Except.error.inj same).symm⟩⟩

private theorem flush_serves : writer.Serves disk .flush (writer.flush disk now).1
    (writer.flush disk now).2.1 (writer.flush disk now).2.2 := by
  rw [flush, if_neg (by simp [isOpen])]
  rcases drained : writer.drain disk now with ⟨outcome, later, after⟩
  obtain ⟨bytes, whole, emptied, stopped, handed⟩ := drain_handed atEnd drained
  have position (answered : Bool) : later.position = writer.position + if answered then 0 else 0 := by
    rw [ite_self, Nat.add_zero, handed.moved]
  have taken : bytes ++ later.pending = writer.pending ++ [] := by rw [List.append_nil, whole]
  cases outcome with
  | ok =>
    have nothing : later.pending = [] := emptied.mp rfl
    exact ⟨⟨[], [], handed.served taken List.nil_prefix (fun _ => rfl) (fun _ _ => rfl) (fun _ => nothing) isOpen rfl
      rfl (position true)⟩, by simp [Except.mapError]⟩
  | error error =>
    exact ⟨⟨[], [], handed.served taken List.nil_prefix (fun _ => rfl) (fun _ _ => rfl)
      (by simp [Except.mapError, Except.toBool]) isOpen rfl rfl (position false)⟩,
      fun exception same => ⟨error, stopped error rfl, (Except.error.inj same).symm⟩⟩

/-- A writer that is dropped hands over what is pending, and loses what the system does not take of it. -/
theorem drop_served : writer.Stopped (writer.drain disk now).1 ∧
    ∃ lost, writer.Served disk .close (writer.drain disk now).1.toBool [] lost
      (writer.drop disk now).1 (writer.drop disk now).2 := by
  rw [drop, if_neg (by simp [isOpen])]
  rcases drained : writer.drain disk now with ⟨outcome, later, after⟩
  obtain ⟨bytes, whole, all, stopped, handed⟩ := drain_handed atEnd drained
  have moved := handed.moved
  refine ⟨stopped, later.pending, ⟨by rw [moved], by rw [moved], handed.transfers⟩, List.nil_prefix, fun _ => rfl,
    fun _ _ => rfl, fun spared => ?_, fun _ => rfl, ⟨bytes, by rwa [List.append_nil], handed.extended, by rw [moved]⟩,
    ?_, rfl⟩
  · cases outcome with
    | ok => exact all.mp rfl
    | error error => simp [Except.toBool, WriterCall.isClose] at spared
  · rw [moved]
    exact (ite_self 0).symm ▸ rfl

end Open

theorem Served.atEnd {call : WriterCall} {answered : Bool} {taken lost : Bytes} {later : DiskWriter} {after : Disk}
    (served : writer.Served disk call answered taken lost later after) (atEnd : writer.AtEnd disk) :
    later.AtEnd after := by
  obtain ⟨cursor, allotted⟩ := atEnd
  obtain ⟨bytes, -, extended, moved⟩ := served.handed
  rw [AtEnd, served.file, extended.fileData, if_pos rfl, extended.count, List.length_append, moved, cursor]
  exact ⟨rfl, allotted⟩

/-- A flush and then the end of the stream are one end of it. -/
private theorem Served.close {answered last : Bool} {lost : Bytes} {flushed later : DiskWriter} {between after : Disk}
    (flushing : writer.Served disk .flush answered [] [] flushed between)
    (dropping : flushed.Served between .close last [] lost later after) :
    writer.Served disk .close answered [] lost later after := by
  obtain ⟨bytes, whole, extended, cursor⟩ := flushing.handed
  obtain ⟨more, rest, onward, moved⟩ := dropping.handed
  rw [List.append_nil, List.append_nil] at whole
  rw [List.append_nil] at rest
  refine ⟨flushing.toPrecedes.trans dropping.toPrecedes, List.nil_prefix, fun _ => rfl, fun _ _ => rfl,
    fun spared => ?_, fun _ => dropping.emptied (.inr rfl), ⟨bytes ++ more, ?_, ?_, ?_⟩, ?_, dropping.closed⟩
  · -- nothing is left of what the flush has handed over
    have nothing := flushing.emptied (.inl ⟨by simpa [WriterCall.isClose] using spared, by simp⟩)
    rw [nothing] at rest
    exact (List.append_eq_nil_iff.mp (List.append_eq_nil_iff.mp rest).2).2
  · rw [List.append_assoc, rest, whole, List.append_nil]
  · exact extended.trans (flushing.file ▸ onward)
  · rw [moved, cursor, List.length_append, Nat.add_assoc]
  · rw [dropping.position, flushing.position]
    simp only [WriterCall.data, List.length_nil, ite_self, Nat.add_zero]

private theorem close_serves (isOpen : writer.closed = false) (atEnd : writer.AtEnd disk) (now : Int) :
    writer.Serves disk .close (writer.close disk now).1 (writer.close disk now).2.1 (writer.close disk now).2.2 := by
  rw [close, if_neg (by simp [isOpen])]
  rcases flushed : writer.flush disk now with ⟨outcome, middle, between⟩
  have serves := flush_serves isOpen atEnd now
  rw [flushed] at serves
  obtain ⟨taken, left, served⟩ := serves.served
  obtain rfl : taken = [] := List.prefix_nil.mp served.part
  obtain rfl : left = [] := served.spared (.inr rfl)
  obtain ⟨-, lost, dropped⟩ := middle.drop_served served.closed (served.atEnd atEnd) now
  exact ⟨⟨[], lost, served.close dropped⟩, serves.fails⟩

/-- A call on an open writer is served, and fails on its path if at all. -/
theorem answer_serves (isOpen : writer.closed = false) (atEnd : writer.AtEnd disk) (now : Int) (call : WriterCall) :
    writer.Serves disk call (writer.answer disk now call).1 (writer.answer disk now call).2.1
      (writer.answer disk now call).2.2 := by
  cases call with
  | write data => exact write_serves isOpen atEnd now data
  | flush => exact flush_serves isOpen atEnd now
  | close => exact close_serves isOpen atEnd now

/-! ## The file that is written -/

private theorem pour_continued (writer : DiskWriter) (disk : Disk) (now : Int) (data : Bytes) :
    Continued (some writer.file) disk (writer.pour disk now data).2.2.2 :=
  Disk.writeAt_continued ..

private theorem drain_continued (writer : DiskWriter) (disk : Disk) (now : Int) :
    Continued (some writer.file) disk (writer.drain disk now).2.2 :=
  writer.pour_continued disk now writer.pending

private theorem accept_continued (writer : DiskWriter) (disk : Disk) (now : Int) (data : Bytes) :
    Continued (some writer.file) disk (writer.accept disk now data).2.2 := by
  rw [accept]
  split
  · exact .refl _ disk
  by_cases overflow : writer.capacity - writer.pending.length < data.length
  · rw [if_pos overflow]
    have drained := writer.drain_continued disk now
    have sameFile : (writer.drain disk now).2.1.file = writer.file := rfl
    rcases same : writer.drain disk now with ⟨_ | _, middle, between⟩ <;> rw [same] at drained sameFile
    · exact drained
    · simp only
      split
      · exact drained.trans (sameFile ▸ middle.pour_continued between now data)
      · exact drained
  · rw [if_neg overflow]
    simp only
    split
    · exact writer.pour_continued disk now data
    · exact .refl _ disk

/-- The file that a call on a writer may write to: its own, as long as the writer is open. -/
def target? (writer : DiskWriter) : Option Nat := if writer.closed then none else some writer.file

theorem drop_continued (writer : DiskWriter) (disk : Disk) (now : Int) :
    Continued writer.target? disk (writer.drop disk now).2 := by
  rw [drop, target?]
  split
  · exact .refl _ disk
  · exact writer.drain_continued disk now

theorem answer_continued (writer : DiskWriter) (disk : Disk) (now : Int) (call : WriterCall) :
    Continued writer.target? disk (writer.answer disk now call).2.2 := by
  by_cases isClosed : writer.closed = true
  · rw [answer_of_closed isClosed]
    exact .refl _ disk
  have isOpen : writer.closed = false := by simpa using isClosed
  rw [target?, if_neg isClosed]
  cases call with
  | write data =>
    have accepted := writer.accept_continued disk now data
    rw [answer, write, if_neg isClosed]
    rcases same : writer.accept disk now data with ⟨_ | _, later, after⟩ <;> rw [same] at accepted <;> exact accepted
  | flush =>
    rw [answer, flush, if_neg isClosed]
    exact writer.drain_continued disk now
  | close =>
    have flushed := writer.drain_continued disk now
    have dropped := drop_continued (writer.drain disk now).2.1 (writer.drain disk now).2.2 now
    have still : (writer.drain disk now).2.1.target? = some writer.file := if_neg isClosed
    rw [answer, close, if_neg isClosed, flush, if_neg isClosed]
    exact flushed.trans (still ▸ dropped)

end FileGateway.DiskWriter
