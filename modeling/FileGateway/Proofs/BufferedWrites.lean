import FileGateway.Proofs.Storage.Upheld

/-! # Buffered writes

A local writer keeps some of what it takes back, how much depends on its buffer, and knows its file by number. While
nobody else writes to the file, its bytes and those kept back are together all that was taken, in order, whatever else
is asked of storage: the name of the file may be changed or deleted meanwhile. What is taken is what was accepted, and a
part of each write that the system stopped half way. A flush and an end of the stream that succeed keep nothing back,
so the file then holds what was taken, however that was cut and buffered. Where they fail, the file holds a beginning of
it, and only the end of a stream loses the rest.
-/

namespace FileGateway

namespace Request

variable {stream : Nat}

/-- The data that a request hands to a stream. -/
def dataFor (stream : Nat) : Request → Bytes
  | .call other asked => if other = stream then asked.data else []
  | _ => []

/-- Whether a request closes a stream or drops it. -/
def ends (stream : Nat) : Request → Bool
  | .call other asked => other == stream && asked.isClose
  | .drop other => other == stream
  | _ => false

theorem dataFor_of_apart {request : Request} (apart : request.stream? ≠ some stream) : request.dataFor stream = [] := by
  cases request with
  | call other asked => exact if_neg fun same => apart (congrArg some same)
  | _ => rfl

theorem dataFor_of_ends {request : Request} (ends : request.ends stream = true) : request.dataFor stream = [] := by
  cases request with
  | call other asked => cases asked <;> simp_all [Request.ends, dataFor, WriterCall.isClose, WriterCall.data]
  | _ => rfl

theorem ends_of_apart {request : Request} (apart : request.stream? ≠ some stream) : request.ends stream = false := by
  cases request with
  | call other asked | drop other =>
    have different : (other == stream) = false := beq_false_of_ne fun same => apart (congrArg some same)
    simp [ends, different]
  | _ => rfl

end Request

namespace Storage

variable {storage before : Storage} {stream : Nat} {writer : DiskWriter} {request : Request} {more : List Request}

/-- What a stream accepts at a request: as much of the data as the write answers. -/
def accepts (stream : Nat) (storage : Storage) : Request → Bytes
  | .call other (.write data) =>
    if other = stream then
      match write stream data storage with
      | .ok count _ => data.take count
      | .error _ _ => []
    else []
  | _ => []

/-- All that a stream accepts in a run. -/
def accepted (stream : Nat) : Storage → List Request → Bytes
  | _, [] => []
  | storage, request :: rest => accepts stream storage request ++ accepted stream (storage.after request) rest

/-- Nothing but what goes through a stream writes to a file. -/
def SoleWriter (stream file : Nat) : Storage → List Request → Prop
  | _, [] => True
  | storage, request :: rest =>
    (request.stream? = some stream ∨ storage.written? request ≠ some file) ∧
      SoleWriter stream file (storage.after request) rest

/-- A write on an open stream fails. -/
def WriteFails (stream : Nat) (storage : Storage) (request : Request) : Prop :=
  accepts stream storage request ≠ request.dataFor stream ∧
    ∃ writer, storage.streams[stream]? = some ⟨.diskWriter writer, .none⟩ ∧ writer.closed = false

/-- No write fails that a run asks of an open stream. -/
def NoneFails (stream : Nat) : Storage → List Request → Prop
  | _, [] => True
  | storage, request :: rest => ¬WriteFails stream storage request ∧ NoneFails stream (storage.after request) rest

/-- What a stream takes of the data of a request: what it accepts, and of a write that fails a part from the beginning
that is not all. -/
inductive Takes (stream : Nat) (storage : Storage) (request : Request) : Bytes → Prop
  | accepted (done : ¬WriteFails stream storage request) : Takes stream storage request (accepts stream storage request)
  | failed {part : Bytes} (fails : WriteFails stream storage request) (some : part <+: request.dataFor stream)
      (short : part ≠ request.dataFor stream) : Takes stream storage request part

/-- All that a stream takes in a run. -/
inductive Taken (stream : Nat) : Storage → List Request → Bytes → Prop
  | nil {storage : Storage} : Taken stream storage [] []
  | cons {storage : Storage} {request : Request} {rest : List Request} {part others : Bytes}
      (takes : Takes stream storage request part) (more : Taken stream (storage.after request) rest others) :
      Taken stream storage (request :: rest) (part ++ others)

/-- Where no write fails, what is taken is what is accepted. -/
theorem Taken.eq_accepted {taken : Bytes} (taking : Taken stream storage more taken)
    (noneFails : NoneFails stream storage more) : taken = accepted stream storage more := by
  induction taking with
  | nil => rfl
  | cons takes _ ih =>
    cases takes with
    | accepted => rw [accepted, ih noneFails.2]
    | failed fails => exact absurd fails noneFails.1

/-- A call on a writer is answered, or fails on the path of the writer because the system stopped it. -/
def AnsweredOrStopped {α : Type} (writer : DiskWriter) (result : EStateM.Result Failure Storage α) (value : α)
    (after : Storage) : Prop :=
  result = .ok value after ∨
    ∃ error, Transfer.Stops writer.transfers error ∧ result = .error (.raised (.onPath writer.path error)) after

/-- An action leaves a beginning of some bytes in the file of a writer, and all of them if it is answered; otherwise the
system stopped it. -/
def Settles (writer : DiskWriter) (taken : Bytes) (result : EStateM.Result Failure Storage Unit) (after : Storage) :
    Prop :=
  AnsweredOrStopped writer result () after ∧ after.disk.fileData writer.file <+: taken ∧
    (result = .ok () after → after.disk.fileData writer.file = taken)

/-- What an open writer does that took some bytes. A drop is answered in any case. -/
structure Usable (storage : Storage) (stream : Nat) (writer : DiskWriter) (taken : Bytes) : Prop where
  kept : storage.disk.fileData writer.file ++ writer.pending = taken
  writes : ∀ data, AnsweredOrStopped writer (write stream data storage) data.length
    (storage.after (.call stream (.write data)))
  flushes : Settles writer taken (flush stream storage) (storage.after (.call stream .flush))
  closes : Settles writer taken (closeStream stream storage) (storage.after (.call stream .close))
  drops : dropStream stream storage = .ok () (storage.after (.drop stream)) ∧
    (storage.after (.drop stream)).disk.fileData writer.file <+: taken ∧
    ((storage.after (.drop stream)).disk.fileData writer.file = taken ∨
      ∃ error, Transfer.Stops writer.transfers error)

/-- What a closed writer does: it refuses what is not an end, and its file stays as it is. -/
structure Finished (storage : Storage) (stream : Nat) (writer : DiskWriter) : Prop where
  closes : closeStream stream storage = .ok () storage
  drops : dropStream stream storage = .ok () storage
  refuses : ∃ exception, exception.kind = .illegalState ∧ flush stream storage = .error (.raised exception) storage ∧
    ∀ data, write stream data storage = .error (.raised exception) storage
  stays : ∀ further, SoleWriter stream writer.file storage further →
    (storage.run further).disk.fileData writer.file = storage.disk.fileData writer.file

/-! ## Calls on a writer -/

/-- A stream is a writer of the disk that took some bytes so far, those in its file, those kept back and those lost, and
accepted as many as its position says. -/
structure Writing (storage : Storage) (stream : Nat) (writer : DiskWriter) (taken lost : Bytes) (count : Nat) :
    Prop where
  channel : storage.streams[stream]? = some ⟨.diskWriter writer, .none⟩
  known : writer.file < storage.disk.files.length
  given : storage.disk.fileData writer.file ++ (writer.pending ++ lost) = taken
  position : writer.position = count
  cursor : writer.closed = false → writer.cursor = (storage.disk.fileData writer.file).length
  spared : writer.closed = false → lost = []
  nothing : writer.closed = true → writer.pending = []

/-- A stream goes through one writer. -/
private theorem diskWriter_inj {place : Option Stream} {other : DiskWriter} {script : Script}
    (one : place = some ⟨.diskWriter writer, script⟩) (two : place = some ⟨.diskWriter other, .none⟩) :
    writer = other :=
  Channel.diskWriter.inj (congrArg Stream.channel (Option.some.inj (one.symm.trans two)))

theorem position_of_diskWriter (channel : storage.streams[stream]? = some ⟨.diskWriter writer, .none⟩) :
    position stream storage = .ok writer.position storage := by
  rw [position, bind_run, streamAt_of_some channel]
  rfl

/-- Nothing is accepted where nothing is handed over. -/
theorem accepts_of_noData (noData : request.dataFor stream = []) : accepts stream storage request = [] := by
  rcases request with _ | _ | _ | _ | _ | _ | _ | _ | _ | _ | _ | _ | _ | _ | _ | _ | ⟨other, data | _ | _⟩ | _
  case call.write =>
    rw [accepts]
    split
    · next same =>
      obtain rfl : data = [] := by simpa [Request.dataFor, same, WriterCall.data] using noData
      cases write stream [] storage <;> simp
    · rfl
  all_goals rfl

/-- What a call accepts is all of its data if it is answered. -/
private theorem accepts_call (channel : storage.streams[stream]? = some ⟨.diskWriter writer, .none⟩)
    (asked : WriterCall) : accepts stream storage (.call stream asked) =
      if (writer.answer storage.disk storage.now asked).1.toBool then asked.data else [] := by
  cases asked with
  | write data =>
    rw [accepts, if_pos rfl, write_of_diskWriter channel, writer.write_outcome]
    rcases (writer.answer storage.disk storage.now (.write data)).1 with exception | nothing
    · rfl
    · exact List.take_length
  | flush | close => exact (ite_self []).symm

private theorem after_call_eq (channel : storage.streams[stream]? = some ⟨.diskWriter writer, .none⟩)
    (asked : WriterCall) : storage.after (.call stream asked) =
      { storage with disk := (writer.answer storage.disk storage.now asked).2.2 }.withChannel stream
        (.diskWriter (writer.answer storage.disk storage.now asked).2.1) := by
  rw [after, serve, call_of_diskWriter channel, final_answerOf]

private theorem after_drop_eq (channel : storage.streams[stream]? = some ⟨.diskWriter writer, .none⟩) :
    storage.after (.drop stream) =
      { storage with disk := (writer.drop storage.disk storage.now).2 }.withChannel stream
        (.diskWriter (writer.drop storage.disk storage.now).1) := by
  rw [after, serve, dropStream_of_diskWriter channel, final]

/-- A write is a call, and answers the length of its data where that is answered. -/
private theorem write_eq_call (channel : storage.streams[stream]? = some ⟨.diskWriter writer, .none⟩) (data : Bytes) :
    write stream data storage =
      match call stream (.write data) storage with
      | .ok () after => .ok data.length after
      | .error failure after => .error failure after := by
  have moved : (writer.answer storage.disk storage.now (.write data)).2 =
      (writer.write storage.disk storage.now data).2 := rfl
  rw [write_of_diskWriter channel, call_of_diskWriter channel, writer.write_outcome, moved]
  rcases (writer.answer storage.disk storage.now (.write data)).1 with exception | ⟨⟩ <;> rfl

/-- What a request makes of a writer: it takes a part of the data, and may lose something. Nothing is lost and no write
fails unless the system stops a transfer, and a closed writer takes and loses nothing. -/
structure Step (storage : Storage) (stream : Nat) (writer : DiskWriter) (request : Request) (part gone : Bytes)
    (later : DiskWriter) : Prop extends writer.Precedes later where
  takes : Takes stream storage request part
  closed : later.closed = (writer.closed || request.ends stream)
  finished : writer.closed = true → part = [] ∧ gone = []
  spares : (¬WriteFails stream storage request ∧ gone = []) ∨ ∃ error, Transfer.Stops writer.transfers error
  whole : ¬WriteFails stream storage request →
    accepts stream storage request = if writer.closed then [] else request.dataFor stream

namespace Writing

variable {taken lost : Bytes} {count : Nat} (writing : storage.Writing stream writer taken lost count)
include writing

/-- A closed writer refuses everything but to be closed again, and nothing changes. -/
theorem call_of_closed (isClosed : writer.closed = true) (asked : WriterCall) :
    call stream asked storage =
      answerOf (if asked.isClose then .ok () else .error (.closed writer.path)) storage := by
  rw [call_of_diskWriter writing.channel, DiskWriter.answer_of_closed isClosed, withChannel_of_same writing.channel]

theorem drop_of_closed (isClosed : writer.closed = true) : dropStream stream storage = .ok () storage := by
  rw [dropStream_of_diskWriter writing.channel, writer.drop_of_closed isClosed, withChannel_of_same writing.channel]

/-- A closed writer accepts nothing. -/
private theorem accepts_of_closed (isClosed : writer.closed = true) (own : request.stream? = some stream) :
    accepts stream storage request = [] := by
  cases request with
  | call other asked =>
    obtain rfl : other = stream := Option.some.inj own
    rw [accepts_call writing.channel, DiskWriter.answer_of_closed isClosed]
    cases asked <;> rfl
  | _ => rfl

/-- Only a write on an open stream fails. -/
private theorem isOpen_of_writeFails (fails : WriteFails stream storage request) : writer.closed = false := by
  obtain ⟨-, other, found, isOpen⟩ := fails
  rwa [diskWriter_inj writing.channel found]

/-- What reads from a writer is refused, and so is everything that a closed one is asked for; nothing changes. -/
private theorem after_own (own : request.stream? = some stream)
    (idle : writer.closed = true ∨ (∀ asked, request ≠ .call stream asked) ∧ request ≠ .drop stream) :
    (storage.after request).Writing stream writer taken lost count := by
  have present := streamAt_of_some writing.channel
  suffices stays : storage.after request = storage from stays.symm ▸ writing
  cases request <;> simp only [Request.stream?, Option.some.injEq, reduceCtorEq] at own <;> subst own
  case call other asked =>
    have isClosed := idle.resolve_right fun apart => apart.1 asked rfl
    have ran : storage.after (.call other asked) = final (call other asked storage) := rfl
    rw [ran, writing.call_of_closed isClosed, final_answerOf]
  case drop other =>
    have isClosed := idle.resolve_right fun apart => apart.2 rfl
    have ran : storage.after (.drop other) = final (dropStream other storage) := rfl
    rw [ran, writing.drop_of_closed isClosed, final]
  case read other count =>
    have ran : storage.after (.read other count) = final (read other count storage) := final_discard _
    rw [ran, read, bind_run, present]
    rfl
  case readAt other place count =>
    have ran : storage.after (.readAt other place count) = final (readAt other place count storage) := final_discard _
    rw [ran, readAt, bind_run, present]
    rfl
  case seek other target =>
    rw [Storage.after, serve, seek, bind_run, present]
    rfl

/-- A request that accepts nothing, and has nothing to accept or comes too late, is a step that leaves the writer as it
is. -/
private theorem idle (accepted : accepts stream storage request = [])
    (late : request.dataFor stream = [] ∨ writer.closed = true)
    (ended : writer.closed = (writer.closed || request.ends stream))
    (after : (storage.after request).Writing stream writer taken lost count) : ∃ later part gone,
      Step storage stream writer request part gone later ∧ (storage.after request).Writing stream later (taken ++ part)
        (lost ++ gone) (count + (accepts stream storage request).length) := by
  have noFailure : ¬WriteFails stream storage request := fun fails => by
    rcases late with noData | isClosed
    · exact fails.1 (accepted.trans noData.symm)
    · simp [writing.isOpen_of_writeFails fails] at isClosed
  refine ⟨writer, [], [], ⟨.refl writer, accepted ▸ .accepted noFailure, ended, fun _ => ⟨rfl, rfl⟩,
    .inl ⟨noFailure, rfl⟩, fun _ => ?_⟩, by simpa [accepted] using after⟩
  rw [accepted]
  split
  · rfl
  · next isOpen => exact (late.resolve_right isOpen).symm

section Open

variable (isOpen : writer.closed = false) {asked : WriterCall} {answered : Bool} {part gone : Bytes}
  {later : DiskWriter} {disk : Disk}
include isOpen

theorem atEnd : writer.AtEnd storage.disk := ⟨writing.cursor isOpen, writing.known⟩

/-- A writer that served a call is a writer that took more. -/
private theorem of_served (served : writer.Served storage.disk asked answered part gone later disk) :
    ({ storage with disk }.withChannel stream (.diskWriter later)).Writing stream later (taken ++ part) gone
      (count + if answered then asked.data.length else 0) := by
  obtain ⟨bytes, whole, extended, cursor⟩ := served.handed
  have content : disk.fileData later.file = storage.disk.fileData writer.file ++ bytes := by
    rw [served.file, extended.fileData, if_pos rfl]
  refine ⟨withChannel_self writing.channel, ?_, ?_, ?_, fun _ => ?_, fun goesOn => ?_, fun ends => ?_⟩
  · exact (served.file.trans_lt writing.known).trans_eq extended.count.symm
  · have before := writing.given
    rw [writing.spared isOpen, List.append_nil] at before
    calc disk.fileData later.file ++ (later.pending ++ gone)
      _ = storage.disk.fileData writer.file ++ (bytes ++ (later.pending ++ gone)) := by rw [content, List.append_assoc]
      _ = taken ++ part := by rw [whole, ← List.append_assoc, before]
  · rw [served.position, writing.position]
  · rw [cursor, writing.cursor isOpen, ← List.length_append, ← content]
    rfl
  · exact served.spared (.inr (served.closed.symm.trans goesOn))
  · exact served.emptied (.inr (served.closed.symm.trans ends))

/-- What serves a call makes a step of a request that asks for it. -/
private theorem step_of_served (served : writer.Served storage.disk asked answered part gone later disk)
    (accepts : accepts stream storage request = if answered then asked.data else [])
    (data : request.dataFor stream = asked.data) (ends : request.ends stream = asked.isClose)
    (stopped : answered = false → ∃ error, Transfer.Stops writer.transfers error) :
    Step storage stream writer request part gone later := by
  have closed : later.closed = (writer.closed || request.ends stream) := by
    rw [isOpen, Bool.false_or, ends, served.closed]
  rw [← data] at accepts
  cases answered with
  | true =>
    have noFailure : ¬WriteFails stream storage request := fun fails => fails.1 accepts
    have all : part = Storage.accepts stream storage request := (served.all rfl).trans (data.symm.trans accepts.symm)
    refine ⟨served.toPrecedes, all ▸ .accepted noFailure, closed, by simp [isOpen],
      .inl ⟨noFailure, served.spared (.inl rfl)⟩, fun _ => ?_⟩
    rw [isOpen]
    exact accepts
  | false =>
    have part := data ▸ served.part
    have nothing : Storage.accepts stream storage request = [] := accepts
    by_cases noData : request.dataFor stream = []
    · have noFailure : ¬WriteFails stream storage request := fun fails => fails.1 (nothing.trans noData.symm)
      rw [noData] at part
      obtain rfl := List.prefix_nil.mp part
      refine ⟨served.toPrecedes, nothing ▸ .accepted noFailure, closed, by simp [isOpen], .inr (stopped rfl),
        fun _ => ?_⟩
      rw [isOpen, noData]
      exact nothing
    · have fails : WriteFails stream storage request :=
        ⟨fun same => noData (same.symm.trans nothing), writer, writing.channel, isOpen⟩
      exact ⟨served.toPrecedes, .failed fails part fun all => noData (data.trans (served.short rfl (all.trans data))),
        closed, by simp [isOpen], .inr (stopped rfl), fun noFailure => absurd fails noFailure⟩

private theorem after_call (asked : WriterCall) : ∃ later part gone,
    Step storage stream writer (.call stream asked) part gone later ∧
      (storage.after (.call stream asked)).Writing stream later (taken ++ part) gone
        (count + (accepts stream storage (.call stream asked)).length) := by
  have serves := writer.answer_serves isOpen (writing.atEnd isOpen) storage.now asked
  obtain ⟨part, gone, served⟩ := serves.served
  have accepted := accepts_call writing.channel asked
  have goesOn := writing.of_served isOpen served
  rw [after_call_eq writing.channel, accepted]
  refine ⟨_, part, gone, writing.step_of_served isOpen served accepted (if_pos rfl) (by simp [Request.ends])
    fun failed => ?_, by rwa [apply_ite List.length]⟩
  rcases outcome : (writer.answer storage.disk storage.now asked).1 with exception | answer <;> rw [outcome] at failed
  · obtain ⟨error, stops, -⟩ := serves.fails exception outcome
    exact ⟨error, stops⟩
  · contradiction

private theorem after_drop : ∃ later part gone, Step storage stream writer (.drop stream) part gone later ∧
    (storage.after (.drop stream)).Writing stream later (taken ++ part) gone
      (count + (accepts stream storage (.drop stream)).length) := by
  obtain ⟨stopped, gone, served⟩ := writer.drop_served isOpen (writing.atEnd isOpen) storage.now
  have accepted : accepts stream storage (.drop stream) =
      if (writer.drain storage.disk storage.now).1.toBool then WriterCall.close.data else [] := (ite_self []).symm
  have goesOn := writing.of_served isOpen served
  rw [after_drop_eq writing.channel, accepted]
  refine ⟨_, [], gone, writing.step_of_served isOpen served accepted rfl (by simp [Request.ends, WriterCall.isClose])
    fun failed => ?_, by rwa [apply_ite List.length]⟩
  rcases outcome : (writer.drain storage.disk storage.now).1 with error | answer <;> rw [outcome] at failed
  · exact ⟨error, stopped error outcome⟩
  · contradiction

/-- A call that brings no data only moves what was taken from one place to another. -/
private theorem given_of_served (served : writer.Served storage.disk asked answered part gone later disk)
    (noData : asked.data = []) : disk.fileData writer.file ++ (later.pending ++ gone) = taken := by
  have given := (writing.of_served isOpen served).given
  have nothing : part <+: [] := noData ▸ served.part
  rwa [List.prefix_nil.mp nothing, List.append_nil, served.file] at given

/-- A call on an open writer is answered, or the system stopped it. -/
private theorem call_answered (asked : WriterCall) :
    AnsweredOrStopped writer (call stream asked storage) () (storage.after (.call stream asked)) := by
  rw [after_call_eq writing.channel, call_of_diskWriter writing.channel]
  rcases outcome : (writer.answer storage.disk storage.now asked).1 with exception | ⟨⟩
  · obtain ⟨error, stops, rfl⟩ := (writer.answer_serves isOpen (writing.atEnd isOpen) _ asked).fails exception outcome
    exact .inr ⟨error, stops, rfl⟩
  · exact .inl rfl

private theorem call_settles (asked : WriterCall) (noWrite : ∀ data, asked ≠ .write data) :
    Settles writer taken (call stream asked storage) (storage.after (.call stream asked)) := by
  have noData : asked.data = [] := by
    cases asked with
    | write data => exact absurd rfl (noWrite data)
    | flush | close => rfl
  obtain ⟨part, gone, served⟩ := (writer.answer_serves isOpen (writing.atEnd isOpen) storage.now asked).served
  have given := writing.given_of_served isOpen served noData
  refine ⟨writing.call_answered isOpen asked, ?_⟩
  rw [after_call_eq writing.channel, call_of_diskWriter writing.channel]
  refine ⟨⟨_, given⟩, fun done => ?_⟩
  have answered : (writer.answer storage.disk storage.now asked).1.toBool = true := by
    rw [(ok_of_answerOf done).1]
    rfl
  rwa [served.emptied (.inl ⟨answered, noWrite⟩), served.spared (.inl answered), List.append_nil, List.append_nil]
    at given

theorem usable : storage.Usable stream writer taken where
  kept := by simpa [writing.spared isOpen] using writing.given
  writes data := by
    rcases writing.call_answered isOpen (.write data) with done | ⟨error, stops, failed⟩
    · exact .inl (by rw [write_eq_call writing.channel, done])
    · exact .inr ⟨error, stops, by rw [write_eq_call writing.channel, failed]⟩
  flushes := writing.call_settles isOpen .flush (by simp)
  closes := writing.call_settles isOpen .close (by simp)
  drops := by
    obtain ⟨stopped, gone, served⟩ := writer.drop_served isOpen (writing.atEnd isOpen) storage.now
    have given := writing.given_of_served isOpen served rfl
    rw [after_drop_eq writing.channel, dropStream_of_diskWriter writing.channel]
    refine ⟨rfl, ⟨_, given⟩, ?_⟩
    rcases outcome : (writer.drain storage.disk storage.now).1 with error | ⟨⟩
    · exact .inr ⟨error, stopped error outcome⟩
    · rw [served.emptied (.inr rfl), served.spared (.inl (by rw [outcome]; rfl))] at given
      exact .inl ((List.append_nil _).symm.trans given)

end Open

/-! ## Requests -/

/-- What does not go through the stream, and does not write to its file, leaves both. -/
theorem after_apart (sound : storage.Sound) (apart : request.stream? ≠ some stream)
    (elsewhere : storage.written? request ≠ some writer.file) :
    (storage.after request).Writing stream writer taken lost count := by
  have upheld := (sound.plain.upheld request).disk
  have same := upheld.fileData writing.known elsewhere
  have channel : (storage.after request).streams[stream]? = some ⟨.diskWriter writer, .none⟩ := by
    rw [after, final_eq_ended]
    exact serve_spares apart storage _ writing.channel
  exact ⟨channel, writing.known.trans_le upheld.count, same ▸ writing.given, writing.position,
    fun isOpen => same ▸ writing.cursor isOpen, writing.spared, writing.nothing⟩

/-- Step by step, what is taken of a request is added to what was taken, whatever the request is. -/
theorem after (sound : storage.Sound)
    (alone : request.stream? = some stream ∨ storage.written? request ≠ some writer.file) : ∃ later part gone,
      Step storage stream writer request part gone later ∧ (storage.after request).Writing stream later (taken ++ part)
        (lost ++ gone) (count + (accepts stream storage request).length) := by
  by_cases own : request.stream? = some stream
  · cases isOpen : writer.closed with
    | true =>
      exact writing.idle (writing.accepts_of_closed isOpen own) (.inr isOpen) (by simp [isOpen])
        (writing.after_own own (.inl isOpen))
    | false =>
      obtain rfl := writing.spared isOpen
      cases request <;> simp only [Request.stream?, Option.some.injEq, reduceCtorEq] at own <;> subst own
      case call other asked => exact writing.after_call isOpen asked
      case drop other => exact writing.after_drop isOpen
      -- a writer is not read from
      all_goals
        exact writing.idle rfl (.inl rfl) (Bool.or_false _).symm (writing.after_own rfl (.inr ⟨by simp, by simp⟩))
  · have noData := Request.dataFor_of_apart own
    exact writing.idle (accepts_of_noData noData) (.inl noData) (by simp [Request.ends_of_apart own])
      (writing.after_apart sound own (alone.resolve_left own))

end Writing

/-! ## Runs -/

/-- What a run makes of a writer, as for one request. -/
structure Course (storage : Storage) (stream : Nat) (writer : DiskWriter) (requests : List Request) (part gone : Bytes)
    (later : DiskWriter) : Prop extends writer.Precedes later where
  takes : Taken stream storage requests part
  closed : later.closed = (writer.closed || requests.any (Request.ends stream))
  finished : writer.closed = true → part = [] ∧ gone = []
  spares : (NoneFails stream storage requests ∧ gone = []) ∨ ∃ error, Transfer.Stops writer.transfers error
  whole : NoneFails stream storage requests → accepted stream storage requests =
    if writer.closed then [] else (requests.takeWhile (!Request.ends stream ·)).flatMap (Request.dataFor stream)

/-- A run goes on where its first step ends. -/
private theorem Step.cons {part others gone lost : Bytes} {middle later : DiskWriter}
    (step : Step storage stream writer request part gone middle)
    (course : Course (storage.after request) stream middle more others lost later) :
    Course storage stream writer (request :: more) (part ++ others) (gone ++ lost) later where
  toPrecedes := step.toPrecedes.trans course.toPrecedes
  takes := .cons step.takes course.takes
  closed := by rw [course.closed, step.closed, List.any_cons, Bool.or_assoc]
  finished isClosed := by
    obtain ⟨rfl, rfl⟩ := step.finished isClosed
    exact course.finished (by rw [step.closed, isClosed, Bool.true_or])
  spares := by
    rcases step.spares with ⟨noFailure, rfl⟩ | stops
    · rcases course.spares with ⟨noneFails, rfl⟩ | ⟨error, stops⟩
      · exact .inl ⟨⟨noFailure, noneFails⟩, rfl⟩
      · exact .inr ⟨error, stops.of_suffix step.transfers⟩
    · exact .inr stops
  whole noneFails := by
    -- the first end hands over no data, and nothing is accepted behind it
    rw [accepted, step.whole noneFails.1, course.whole noneFails.2, step.closed]
    cases isOpen : writer.closed with
    | true => simp
    | false =>
      cases ends : request.ends stream with
      | true => simp [ends, Request.dataFor_of_ends ends]
      | false => simp [ends]

namespace Writing

variable {taken lost : Bytes} {count : Nat} (writing : storage.Writing stream writer taken lost count)
include writing

/-- A run adds to what was taken what is taken of it, to what was lost what it loses, and to the position what it
accepts. -/
theorem run (sound : storage.Sound) (sole : SoleWriter stream writer.file storage more) : ∃ later part gone,
    Course storage stream writer more part gone later ∧ (storage.run more).Writing stream later (taken ++ part)
      (lost ++ gone) (count + (accepted stream storage more).length) := by
  induction more generalizing storage writer taken lost count with
  | nil =>
    refine ⟨writer, [], [], ⟨.refl writer, .nil, (Bool.or_false _).symm, fun _ => ⟨rfl, rfl⟩, .inl ⟨trivial, rfl⟩,
      fun _ => (ite_self []).symm⟩, by simpa [accepted, Storage.run] using writing⟩
  | cons request rest ih =>
    obtain ⟨alone, soleAfter⟩ := sole
    obtain ⟨middle, part, gone, step, onward⟩ := writing.after sound alone
    obtain ⟨later, others, left, course, goesOn⟩ := ih onward (sound.serve request) (step.file ▸ soleAfter)
    refine ⟨later, part ++ others, gone ++ left, step.cons course, ?_⟩
    rw [accepted, List.length_append, ← Nat.add_assoc, ← List.append_assoc, ← List.append_assoc]
    exact goesOn

/-- What a closed writer left in its file stays there. -/
theorem finished (sound : storage.Sound) (isClosed : writer.closed = true) : storage.Finished stream writer where
  closes := writing.call_of_closed isClosed .close
  drops := writing.drop_of_closed isClosed
  refuses := by
    refine ⟨.closed writer.path, rfl, writing.call_of_closed isClosed .flush, fun data => ?_⟩
    rw [write_eq_call writing.channel, writing.call_of_closed isClosed]
    rfl
  stays := fun further sole => by
    obtain ⟨later, part, gone, course, goesOn⟩ := writing.run sound sole
    obtain ⟨rfl, rfl⟩ := course.finished isClosed
    have stillClosed : later.closed = true := by rw [course.closed, isClosed, Bool.true_or]
    have given := writing.given
    have onward := goesOn.given
    rw [writing.nothing isClosed] at given
    rw [goesOn.nothing stillClosed, course.file, List.append_nil, List.append_nil, ← given] at onward
    exact List.append_cancel_right onward

end Writing

/-- A file that was just created is written from its beginning. -/
theorem Sound.writing_of_created {client : Nat} {path : Path} {options : CreateOptions} {created : Storage}
    (sound : before.Sound) (allotted : before.disk.Allotted)
    (ran : createWriter client path options before = .ok stream created)
    (channel : created.streams[stream]? = some ⟨.diskWriter writer, .none⟩) :
    created.Writing stream writer [] [] 0 ∧ writer.closed = false := by
  rcases sound.plain.client_cases client with absent | ⟨number, directory, found, -⟩ | ⟨conf, directory, found⟩
  · rw [createWriter, bind_run, clientAt_of_none absent] at ran
    contradiction
  · -- a client of a cluster opens no writer of the disk
    cases present : before.clusters[number]? with
    | none =>
      rw [createWriter_of_no_cluster found present] at ran
      contradiction
    | some cluster =>
      rw [createWriter_of_cluster found present] at ran
      split at ran <;> cases ran
      rw [List.getElem?_concat_length] at channel
      simp at channel
  · rw [createWriter_of_disk found] at ran
    split at ran
    · next fresh disk done =>
      split at ran <;> cases ran
      rw [List.getElem?_concat_length] at channel
      obtain ⟨number, place, capacity, rfl, known, empty⟩ := LocalDisk.createWriter_empty allotted done
      obtain rfl := diskWriter_inj rfl channel
      exact ⟨⟨List.getElem?_concat_length, known, (List.append_nil _).trans empty, rfl,
        fun _ => (congrArg List.length empty).symm, fun _ => rfl, fun _ => rfl⟩, rfl⟩
    · contradiction

/-- From when a local client creates a file in any run, whatever its buffers and whatever the system makes of its
transfers, and as long as nothing but the stream writes to the file, at every time: the bytes of the file, those kept
back and those that an end of the stream lost are together all that the stream took, and its position says how much it
accepted. If no write fails, it accepted what it took, which is what it was handed before its first end, however that
was cut, buffered and flushed; and no write fails, and nothing is lost, unless the system stops a transfer. Until its
end nothing is lost; every write is accepted whole, and a flush leaves all that was taken in the file, as closing and
dropping do, or the system stops it and a beginning of that is there. After its end, writes and flushes are refused and
change nothing, neither does closing or dropping it again, and the file stays as it is. -/
theorem buffered_writes_lose_nothing (now : Int) {disk : Disk} (allotted : disk.Allotted) (requests : List Request)
    {client : Nat} {path : Path} {options : CreateOptions} {created : Storage}
    (ran : createWriter client path options ((new now disk).run requests) = .ok stream created)
    (channel : created.streams[stream]? = some ⟨.diskWriter writer, .none⟩)
    (sole : SoleWriter stream writer.file created more) :
    let storage := created.run more
    ∃ later taken lost, writer.Precedes later ∧ storage.streams[stream]? = some ⟨.diskWriter later, .none⟩ ∧
      Taken stream created more taken ∧
      storage.disk.fileData writer.file ++ (later.pending ++ lost) = taken ∧
      position stream storage = .ok (accepted stream created more).length storage ∧
      later.closed = more.any (Request.ends stream) ∧
      (NoneFails stream created more → taken = accepted stream created more ∧
        taken = (more.takeWhile (!Request.ends stream ·)).flatMap (Request.dataFor stream)) ∧
      ((NoneFails stream created more ∧ lost = []) ∨ ∃ error, Transfer.Stops writer.transfers error) ∧
      (later.closed = false → storage.Usable stream later taken) ∧
      (later.closed = true → later.pending = [] ∧ storage.Finished stream later) := by
  intro storage
  have sound := (sound_new now disk).run requests
  have still := (sound_new now disk).allotted allotted requests
  obtain ⟨writing, isOpen⟩ := sound.writing_of_created still ran channel
  have soundCreated : created.Sound := by
    have after : ((new now disk).run requests).after (.createFile client path options) = created := by
      rw [Storage.after, serve, bind_run, ran]
      rfl
    exact after ▸ sound.serve (.createFile client path options)
  obtain ⟨later, taken, lost, course, goesOn⟩ := writing.run soundCreated sole
  rw [List.nil_append, List.nil_append, Nat.zero_add] at goesOn
  refine ⟨later, taken, lost, course.toPrecedes, goesOn.channel, course.takes, course.file ▸ goesOn.given, ?_, ?_,
    fun noneFails => ?_, course.spares, goesOn.usable,
    fun isClosed => ⟨goesOn.nothing isClosed, goesOn.finished (soundCreated.run more) isClosed⟩⟩
  · exact goesOn.position ▸ position_of_diskWriter goesOn.channel
  · rw [course.closed, isOpen, Bool.false_or]
  · have whole := course.whole noneFails
    rw [isOpen, if_neg (by simp)] at whole
    have all := course.takes.eq_accepted noneFails
    exact ⟨all, all.trans whole⟩

/-- A disk that says what becomes of the transfers of the first stream. -/
def allowing (transfers : List Transfer) : Disk := { Disk.new 0 .root 0 0 with transfers := [transfers] }

/-- A file was created on a disk, to be written with a buffer of two bytes. -/
def starting (transfers : List Transfer) : Storage :=
  final (createWriter 0 ⟨[47, 102]⟩ ⟨false, 2, 1, 1⟩ ((new 0 (allowing transfers)).run [.joinDisk .default]))

private theorem allotted_allowing (transfers : List Transfer) : (allowing transfers).Allotted :=
  fun _ _ => (Disk.regular_new 0 Location.proper_root 0 0).allotted

/-- Writes around the capacity of the buffer, while the file is renamed and deleted, and one too late. -/
def cutting : List Request :=
  [.call 0 (.write [1]), .call 0 (.write [2, 3]), .rename 0 ⟨[47, 102]⟩ ⟨[47, 103]⟩, .call 0 (.write [4, 5]),
    .call 0 .flush, .delete 0 ⟨[47, 103]⟩, .call 0 (.write [6]), .drop 0, .call 0 (.write [7])]

/-- Two bytes arrive, and then the disk takes no more. -/
def filling : List Transfer := [.moved 1, .moved 1, .refused (.number 28), .refused (.number 28)]

/-- A write that needs the whole buffer of a disk that is filling, and one that is dropped with the stream. -/
def dropping : List Request := [.call 0 (.write [1]), .call 0 (.write [2, 3]), .call 0 (.write [4]), .drop 0]

/-- The file has no name any more, but all that was written before the stream was dropped. On a disk that is filling,
the file has half of the write that failed, and not what was accepted behind it. -/
theorem buffered_writes_lose_nothing_of_cutting :
    (let storage := (starting []).run cutting
    (starting []).disk.tree.get? [[102]] = some (.file 0) ∧ storage.disk.tree.get? [[103]] = none ∧
    storage.disk.fileData 0 = [1, 2, 3, 4, 5, 6] ∧ position 0 storage = .ok 6 storage ∧
    closeStream 0 storage = .ok () storage ∧
    ∃ exception, exception.kind = .illegalState ∧ write 0 [8] storage = .error (.raised exception) storage) ∧
    (let storage := (starting filling).run dropping
    storage.disk.fileData 0 = [1, 2] ∧ position 0 storage = .ok 2 storage ∧
    ∃ lost, Taken 0 (starting filling) dropping ([1, 2] ++ lost)) := by
  constructor
  · intro storage
    have channel : (starting []).streams[0]? = some ⟨.diskWriter (.ofFile 0 ⟨[47, 102]⟩ 2), .none⟩ := by
      decide +kernel
    have named : (starting []).disk.tree.get? [[102]] = some (.file 0) := by decide +kernel
    have gone : storage.disk.tree.get? [[103]] = none := by decide +kernel
    have ran : createWriter 0 ⟨[47, 102]⟩ ⟨false, 2, 1, 1⟩ ((new 0 (allowing [])).run [.joinDisk .default]) =
        .ok 0 (starting []) := ok_of_answer (by decide +kernel)
    have sole : SoleWriter 0 0 (starting []) cutting :=
      ⟨.inl rfl, .inl rfl, .inr (by simp [written?]), .inl rfl, .inl rfl, .inr (by simp [written?]), .inl rfl, .inl rfl,
        .inl rfl, trivial⟩
    obtain ⟨later, taken, lost, precedes, -, -, given, isPosition, isClosed, whole, spares, -, closed⟩ :=
      buffered_writes_lose_nothing 0 (allotted_allowing []) [.joinDisk .default] ran channel sole
    obtain ⟨noneFails, rfl⟩ := spares.resolve_right (by rintro ⟨error, stops, -⟩; contradiction)
    obtain ⟨nothing, finished⟩ := closed isClosed
    obtain ⟨isAccepted, all⟩ := whole noneFails
    obtain rfl : taken = [1, 2, 3, 4, 5, 6] := all
    obtain ⟨exception, isKind, -, refused⟩ := finished.refuses
    rw [nothing] at given
    rw [← isAccepted] at isPosition
    have content := (List.append_nil _).symm.trans given
    exact ⟨named, gone, content, isPosition, finished.closes, exception, isKind, refused [8]⟩
  · intro storage
    have channel : (starting filling).streams[0]? =
        some ⟨.diskWriter ⟨0, ⟨[47, 102]⟩, 0, 0, [], 2, false, filling⟩, .none⟩ := by decide +kernel
    have content : storage.disk.fileData 0 = [1, 2] := by decide +kernel
    have length : (accepted 0 (starting filling) dropping).length = 2 := by decide +kernel
    have ran : createWriter 0 ⟨[47, 102]⟩ ⟨false, 2, 1, 1⟩ ((new 0 (allowing filling)).run [.joinDisk .default]) =
        .ok 0 (starting filling) := ok_of_answer (by decide +kernel)
    have sole : SoleWriter 0 0 (starting filling) dropping := ⟨.inl rfl, .inl rfl, .inl rfl, .inl rfl, trivial⟩
    obtain ⟨later, taken, lost, -, -, takes, given, isPosition, isClosed, -, -, -, closed⟩ :=
      buffered_writes_lose_nothing 0 (allotted_allowing filling) [.joinDisk .default] ran channel sole
    obtain ⟨nothing, -⟩ := closed isClosed
    rw [nothing] at given
    rw [length] at isPosition
    have whole : [1, 2] ++ lost = taken := content ▸ given
    exact ⟨content, isPosition, lost, whole ▸ takes⟩

/-- The bytes of the file of the first stream, and those kept back, are what the stream accepted. -/
def HoldsAccepted (transfers : List Transfer) (requests : List Request) : Prop :=
  ∃ writer, ((starting transfers).run requests).streams[0]? = some ⟨.diskWriter writer, .none⟩ ∧
    ((starting transfers).run requests).disk.fileData writer.file ++ writer.pending =
      accepted 0 (starting transfers) requests

/-- Not all that was accepted is in the file or kept back where a drop is refused the last transfer, and more than that
is where a write is stopped half way. -/
theorem accepted_writes_may_be_lost :
    ¬HoldsAccepted [.refused (.number 28)] [.call 0 (.write [1]), .drop 0] ∧
    ¬HoldsAccepted [.moved 1, .refused (.number 28)] [.call 0 (.write [1, 2])] := by
  constructor
  · rintro ⟨writer, found, holds⟩
    have closed : ((starting [.refused (.number 28)]).run [.call 0 (.write [1]), .drop 0]).streams[0]? =
        some ⟨.diskWriter ⟨0, ⟨[47, 102]⟩, 1, 0, [], 2, true, []⟩, .none⟩ := by decide +kernel
    obtain rfl := diskWriter_inj closed found
    exact absurd holds (by decide +kernel)
  · rintro ⟨writer, found, holds⟩
    have stopped : ((starting [.moved 1, .refused (.number 28)]).run [.call 0 (.write [1, 2])]).streams[0]? =
        some ⟨.diskWriter ⟨0, ⟨[47, 102]⟩, 0, 1, [], 2, false, []⟩, .none⟩ := by decide +kernel
    obtain rfl := diskWriter_inj stopped found
    exact absurd holds (by decide +kernel)

end Storage

end FileGateway
