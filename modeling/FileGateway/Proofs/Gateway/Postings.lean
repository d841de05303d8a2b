import FileGateway.Proofs.Gateway.Inside

/-! # What calls post to the books

Connecting, opening a file and turning a reference global make one global reference each; disconnecting, closing a
file and giving up a reference give one up. Each of them books what it did, or did nothing to the global table and
the files, and no other call does anything to them. A file is closed whatever happens to its stream, since nothing
that goes wrong with the stream is more than an exception.
-/

namespace FileGateway

variable {α : Type} {object : Object} {storage before after : Storage} {direction : Direction}

/-- An object is a stream that is there and goes a direction. -/
inductive Object.Serves (storage : Storage) : Object → Direction → Prop
  | reads (number : Nat) (stream : Stream) (present : storage.streams[number]? = some stream) :
    Serves storage (.inputStream number) .reading
  | writes (number : Nat) (stream : Stream) (present : storage.streams[number]? = some stream)
    (isWay : stream.channel.writes = true) : Serves storage (.outputStream number) .writing

theorem Object.Serves.kept (serves : object.Serves before direction) (kept : before.Kept after) :
    object.Serves after direction := by
  cases serves with
  | reads number stream present =>
    obtain ⟨channel, still, -⟩ := kept.streams present
    exact .reads number _ still
  | writes number stream present isWay =>
    obtain ⟨channel, still, -, sameWay⟩ := kept.streams present
    exact .writes number _ still (sameWay.trans isWay)

theorem Object.Serves.not_fileSystem {client : Nat} (serves : object.Serves storage direction) :
    object ≠ .fileSystem client := by
  cases serves <;> exact nofun

namespace Gateway

variable {thread : Nat} {start gateway middle : Gateway} {globals : ReferenceTable Object}
  {files : SortedMap UInt64 OpenFile} {address : UInt64} {stream reference : Reference}

/-- Every open file has a global reference of its own to a stream that goes its direction. -/
structure Backed (storage : Storage) (globals : ReferenceTable Object) (files : SortedMap UInt64 OpenFile) : Prop where
  placed : ∀ {address file}, files.get? address = some file → address ≠ 0
  stream : ∀ {address file}, files.get? address = some file → ∃ stream object, stream.raw = file.stream ∧
    globals.get? stream = some object ∧ object.Serves storage file.direction
  apart : ∀ {first second file other}, files.get? first = some file → files.get? second = some other →
    file.stream = other.stream → first = second

/-- A gateway whose files are backed, and where nothing is scripted. -/
structure Accounted (gateway : Gateway) : Prop where
  tidy : gateway.engine.Tidy
  unscripted : gateway.engine.Unscripted
  sturdy : gateway.engine.storage.Sturdy
  backed : Backed gateway.engine.storage gateway.engine.globals gateway.files

/-! ## The books -/

/-- What is booked for a call. -/
inductive Booking
  | connected
  | opened
  | converted
  | disconnected
  | closed
  | deleted
deriving DecidableEq, Repr

/-- Giving up a reference answers nothing. It succeeds if it records no error. -/
def Deletes (gateway : Gateway) (thread : Nat) (word : UInt64) : Prop :=
  ((deleteGlobalRef thread word (takeLastError thread gateway).2).2.errorsOf thread).last = none

instance (gateway : Gateway) (thread : Nat) (word : UInt64) : Decidable (gateway.Deletes thread word) :=
  inferInstanceAs (Decidable (_ = _))

/-- What a step books, by what it answers. Closing a file that is open counts whatever it answers. -/
def booking? (gateway : Gateway) : GatewayStep → Option Booking
  | .native thread (.connect host port) =>
    if (connect thread host port gateway).1 ≠ 0 then some .connected else none
  | .native thread (.openFile address fileSystem path flags bufferSize replication blockSize) =>
    if (openFile thread address fileSystem path flags bufferSize replication blockSize gateway).1 ≠ 0 then
      some .opened
    else none
  | .native thread (.convertToGlobalRef word) =>
    if (convertToGlobalRef thread word gateway).1 ≠ 0 then some .converted else none
  | .native thread (.disconnect fileSystem) =>
    if (disconnect thread fileSystem gateway).1 = 0 then some .disconnected else none
  | .native _ (.closeFile address) => if (gateway.fileAt? address).isSome then some .closed else none
  | .native thread (.deleteGlobalRef word) => if gateway.Deletes thread word then some .deleted else none
  | _ => none

/-- The gateway without a local reference of a thread. -/
def retired (gateway : Gateway) (thread : Nat) (reference : Reference) : Gateway :=
  { gateway with engine := gateway.engine.retired thread reference }

/-- What a call of a thread does, with what it books. -/
inductive Posted (thread : Nat) (gateway after : Gateway) : NativeCall → Option Booking → Prop
  | nothing (call : NativeCall) (settled : Settled thread gateway gateway.engine.globals gateway.files after) :
    Posted thread gateway after call none
  | connected (host : Option Bytes) (port : UInt16) (client : Nat) (reference : Reference)
    (globals : ReferenceTable Object)
    (stored : gateway.engine.globals.insert (.fileSystem client) = some (reference, globals))
    (settled : Settled thread gateway globals gateway.files after) :
    Posted thread gateway after (.connect host port) (some .connected)
  /-- Nothing is booked if the address is null. -/
  | opened (address fileSystem : UInt64) (path : Option Bytes) (flags bufferSize : Int32) (replication : Int16)
    (blockSize : Int32) (direction : Direction) (object : Object) (reference : Reference)
    (globals : ReferenceTable Object) (stored : gateway.engine.globals.insert object = some (reference, globals))
    (serves : object.Serves after.engine.storage direction)
    (settled : Settled thread gateway globals (gateway.files.insert address ⟨reference.raw, direction⟩) after) :
    Posted thread gateway after (.openFile address fileSystem path flags bufferSize replication blockSize)
      (if address ≠ 0 then some .opened else none)
  | converted (reference : Reference) (object : Object) (global : Reference) (globals : ReferenceTable Object)
    (found : (gateway.engine.framesOf thread).table.get? reference = some object)
    (stored : gateway.engine.globals.insert object = some (global, globals))
    (settled : Settled thread (gateway.retired thread reference) globals gateway.files after) :
    Posted thread gateway after (.convertToGlobalRef reference.raw) (some .converted)
  | disconnected (reference : Reference) (client : Nat) (globals : ReferenceTable Object)
    (taken : gateway.engine.globals.remove reference = (some (.fileSystem client), globals))
    (settled : Settled thread gateway globals gateway.files after) :
    Posted thread gateway after (.disconnect reference.raw) (some .disconnected)
  | closed (address : UInt64) (file : OpenFile) (reference : Reference) (object : Object)
    (globals : ReferenceTable Object) (live : gateway.files.get? address = some file)
    (same : reference.raw = file.stream) (taken : gateway.engine.globals.remove reference = (some object, globals))
    (settled : Settled thread gateway globals (gateway.files.erase address) after) :
    Posted thread gateway after (.closeFile address) (some .closed)
  | deleted (reference : Reference) (object : Object) (globals : ReferenceTable Object)
    (taken : gateway.engine.globals.remove reference = (some object, globals))
    (settled : Settled thread gateway globals gateway.files after) :
    Posted thread gateway after (.deleteGlobalRef reference.raw) (some .deleted)

/-- A call posts what its inside does in the end. If that fails before it does anything, nothing is posted. -/
theorem Posted.of_leads {entry : EntryPoint} {sentinel : α} {inside : CallAction α} {native : NativeCall}
    (tidy : gateway.engine.Tidy) (books : α → Option Booking) (nothing : books sentinel = none)
    (leads : Leads inside (gateway.pushed thread)
      (fun answer middle => Posted thread gateway (middle.popped thread) native (books answer))
      (fun _ middle => Inside thread gateway gateway.engine.globals gateway.files middle)) :
    Posted thread gateway (call thread entry sentinel inside gateway).2 native
      (books (call thread entry sentinel inside gateway).1) := by
  refine call_leads (fun answer after => Posted thread gateway after native (books answer))
    (leads.imp (fun _ _ => id) fun failure middle inside => ?_)
  rw [nothing]
  exact .nothing native ((inside.popped tidy).record _)

/-! ## Calls that make a global reference -/

section Making

variable (tidy : gateway.engine.Tidy) (unscripted : gateway.engine.Unscripted)
include tidy unscripted

theorem connect_posted (thread : Nat) (host : Option Bytes) (port : UInt16) :
    Posted thread gateway (connect thread host port gateway).2 (.connect host port)
      (gateway.booking? (.native thread (.connect host port))) := by
  refine .of_leads tidy (fun answer => if answer ≠ 0 then some .connected else none) rfl ?_
  have inside := inside_pushed tidy unscripted thread
  refine .bind (inside.leads (target_within host port)) fun target middle inside => ?_
  refine .bind (inside.onEngine (inside.engine.getFileSystem target)) ?_
  rintro made after ⟨engine, ⟨insideEngine, client, own⟩, rfl⟩
  refine .bind ((inside.of_engine insideEngine).onEngine (insideEngine.promote own)) ?_
  rintro reference last ⟨engine', ⟨globals, stored, goesOn, -⟩, rfl⟩
  refine .of_ok rfl ?_
  rw [if_pos reference.nonzero]
  exact .connected host port client reference globals stored ((inside.of_engine goesOn).popped tidy)

theorem convertToGlobalRef_posted (thread : Nat) (word : UInt64) :
    Posted thread gateway (convertToGlobalRef thread word gateway).2 (.convertToGlobalRef word)
      (gateway.booking? (.native thread (.convertToGlobalRef word))) := by
  refine .of_leads tidy (fun answer => if answer ≠ 0 then some .converted else none) rfl ?_
  have inside := inside_pushed tidy unscripted thread
  refine .bind (inside.referenceArgument word) ?_
  rintro reference after ⟨rfl, rfl⟩
  refine .bind (inside.onEngine (Engine.promote_pushed tidy unscripted thread reference)) ?_
  rintro global last ⟨engine, ⟨object, globals, found, stored, goesOn⟩, rfl⟩
  have converted : Inside thread (gateway.retired thread reference) globals gateway.files
      { gateway.pushed thread with engine } := ⟨goesOn, rfl, rfl⟩
  refine .of_ok rfl ?_
  rw [if_pos global.nonzero]
  exact .converted reference object global globals found stored (converted.popped (tidy.retired found))

omit unscripted in
/-- The stream that a call made becomes global, and the file known. -/
theorem register_posted {middle : Gateway} (inside : Inside thread gateway gateway.engine.globals gateway.files middle)
    (own : Engine.Own thread gateway.engine stream object middle.engine)
    (serves : object.Serves middle.engine.storage direction) (address fileSystem : UInt64) (path : Option Bytes)
    (flags bufferSize : Int32) (replication : Int16) (blockSize : Int32) :
    Leads (openFile.register thread address direction stream) middle
      (fun answer after => Posted thread gateway (after.popped thread)
        (.openFile address fileSystem path flags bufferSize replication blockSize)
        (if answer ≠ 0 then some .opened else none))
      (fun _ after => Inside thread gateway gateway.engine.globals gateway.files after) := by
  refine .bind (inside.onEngine (inside.engine.promote own)) ?_
  rintro reference after ⟨engine, ⟨globals, stored, goesOn, same⟩, rfl⟩
  have filed : Inside thread gateway globals (gateway.files.insert address ⟨reference.raw, direction⟩)
      { middle with engine, files := middle.files.insert address ⟨reference.raw, direction⟩ } :=
    ⟨goesOn, by rw [inside.files], inside.errors⟩
  have stillServes : object.Serves engine.storage direction := same ▸ serves
  exact .of_ok rfl (.opened address fileSystem path flags bufferSize replication blockSize direction object reference
    globals stored (stillServes.kept (filed.kept_popped tidy)) (filed.popped tidy))

theorem openFile_posted (thread : Nat) (address fileSystem : UInt64) (path : Option Bytes) (flags bufferSize : Int32)
    (replication : Int16) (blockSize : Int32) :
    Posted thread gateway (openFile thread address fileSystem path flags bufferSize replication blockSize gateway).2
      (.openFile address fileSystem path flags bufferSize replication blockSize)
      (gateway.booking? (.native thread
        (.openFile address fileSystem path flags bufferSize replication blockSize))) := by
  refine .of_leads tidy (fun answer => if answer ≠ 0 then some .opened else none) rfl ?_
  have inside := inside_pushed tidy unscripted thread
  refine .bind (inside.leads (fileSystemArgument_within fileSystem)) fun client middle inside => ?_
  refine .bind (inside.leads (pathArgument_within _ path)) fun place middle inside => ?_
  refine .bind (inside.leads (sizeArgument_within _ _)) fun buffer middle inside => ?_
  refine .bind (inside.leads (sizeArgument_within _ _)) fun copies middle inside => ?_
  refine .bind (inside.leads (sizeArgument_within _ _)) fun block middle inside => ?_
  split
  · refine .bind (inside.onEngine (inside.engine.keep_stream client (fun _ => rfl)
      (Storage.openReader_keeps · place _) (Storage.openReader_opens · place _))) ?_
    rintro stream after ⟨engine, ⟨goesOn, number, own, opened, present, -⟩, rfl⟩
    exact register_posted tidy (inside.of_engine goesOn) own (.reads number opened present) ..
  · refine .bind (inside.onEngine (inside.engine.keep_stream client (fun _ => rfl)
      (Storage.createWriter_keeps · place _) (Storage.createWriter_opens · place _))) ?_
    rintro stream after ⟨engine, ⟨goesOn, number, own, opened, present, isWay⟩, rfl⟩
    exact register_posted tidy (inside.of_engine goesOn) own (.writes number opened present isWay) ..
  · exact .of_error rfl inside

end Making

/-! ## Calls that give one up -/

/-- What is only tried to end a stream answers: there is nothing worse than an exception. -/
theorem Inside.attempt_closeBy (inside : Inside thread start globals files middle)
    (sturdy : middle.engine.storage.Sturdy) (isGlobal : stream.isGlobal = true)
    (found : globals.get? stream = some object) (serves : object.Serves middle.engine.storage direction) :
    ∃ outcome after, attempt (closeBy thread stream direction) middle = .ok outcome after ∧
      Inside thread start globals files after := by
  have held : middle.engine.object? thread stream = some object := by
    rw [Engine.object?_of_global isGlobal, inside.engine.globals, found]
  cases serves with
  | reads number opened present =>
    have asked : Gateway.onEngine (Engine.inputStream thread stream) middle = .ok number middle :=
      onEngine_of_ok (Engine.cast_of_some held rfl)
    obtain ⟨outcome, after, ran, goesOn, -⟩ := inside.attempt_onStorage (Storage.closeStream_keeps number)
      (sturdy.closeStream_raises present)
    refine ⟨outcome, after, ?_, goesOn⟩
    rw [← ran, attempt_run, attempt_run, closeBy, bind_of_ok asked]
  | writes number opened present isWay =>
    have asked : Gateway.onEngine (Engine.outputStream thread stream) middle = .ok number middle :=
      onEngine_of_ok (Engine.cast_of_some held rfl)
    obtain ⟨flushed, second, ranFlush, goesOn, kept⟩ := inside.attempt_onStorage (Storage.flush_keeps number)
      (sturdy.flush_raises present isWay)
    obtain ⟨channel, still, -⟩ := kept.streams present
    obtain ⟨closed, third, ranClose, settled, -⟩ := goesOn.attempt_onStorage (Storage.closeStream_keeps number)
      ((kept.sturdy sturdy).closeStream_raises still)
    have ended : closeBy thread stream .writing middle = (answerOf flushed >>= fun _ => answerOf closed) third := by
      rw [closeBy, bind_of_ok asked, bind_of_ok ranFlush, bind_of_ok ranClose]
    rw [attempt_run, ended]
    cases flushed with
    | error exception => exact ⟨_, _, rfl, settled⟩
    | ok _ => cases closed <;> exact ⟨_, _, rfl, settled⟩

theorem deleteGlobalRef_of_live (tidy : gateway.engine.Tidy) (unscripted : gateway.engine.Unscripted) (thread : Nat)
    (taken : gateway.engine.globals.remove reference = (some object, globals)) :
    let after := (deleteGlobalRef thread reference.raw gateway).2
    Settled thread gateway globals gateway.files after ∧ after.errors = gateway.errors := by
  have inside := inside_pushed tidy unscripted thread
  have argued : referenceArgument reference.raw (gateway.pushed thread) = .ok reference (gateway.pushed thread) := by
    rw [referenceArgument, Reference.ofRaw?_eq_some_iff.mpr rfl]
    rfl
  obtain ⟨engine, ran, goesOn⟩ := inside.engine.deleteGlobal taken
  have deleted : onEngine (Engine.deleteGlobal reference) (gateway.pushed thread) =
      .ok () { gateway.pushed thread with engine } := onEngine_of_ok ran
  have last := inside.of_engine goesOn
  refine call_leads (fun _ after => Settled thread gateway globals gateway.files after ∧ after.errors = gateway.errors)
    (.after_ok argued (.of_ok deleted ⟨last.popped tidy, ?_⟩))
  rw [popped_eq]
  rfl

theorem deleteGlobalRef_of_dead {word : UInt64} (tidy : gateway.engine.Tidy) (unscripted : gateway.engine.Unscripted)
    (thread : Nat) (dead : ∀ reference, word = reference.raw → gateway.engine.globals.get? reference = none) :
    let after := (deleteGlobalRef thread word gateway).2
    Settled thread gateway gateway.engine.globals gateway.files after ∧
      ∃ error, after.errorsOf thread = .record error := by
  have inside := inside_pushed tidy unscripted thread
  refine call_leads (fun _ after => Settled thread gateway gateway.engine.globals gateway.files after ∧
    ∃ error, after.errorsOf thread = .record error) (.imp (?_ : Leads _ _ (fun _ _ => False)
      (fun _ middle => Inside thread gateway gateway.engine.globals gateway.files middle)) (fun _ _ => False.elim) ?_)
  · refine .bind (inside.referenceArgument word) ?_
    rintro reference after ⟨isWord, rfl⟩
    have unresolved : (gateway.pushed thread).engine.globals.get? reference = none := dead reference isWord
    exact .of_error (onEngine_of_error (Engine.deleteGlobal_of_none unresolved)) inside
  · intro failure middle inside
    refine ⟨(inside.popped tidy).record _, errorOf .deleteGlobalRef failure, ?_⟩
    rw [errorsOf, record, SortedMap.get?_insert, if_pos rfl]
    rfl

theorem deletes_iff {word : UInt64} (tidy : gateway.engine.Tidy) (unscripted : gateway.engine.Unscripted) :
    gateway.Deletes thread word ↔
      ∃ reference object, word = reference.raw ∧ gateway.engine.globals.get? reference = some object := by
  let silenced := (takeLastError thread gateway).2
  have silent : (silenced.errorsOf thread).last = none := by
    change (((gateway.errors.insert thread _).get? thread).getD .none).last = none
    rw [SortedMap.get?_insert, if_pos rfl]
    rfl
  have tidySilenced : silenced.engine.Tidy := tidy
  have unscriptedSilenced : silenced.engine.Unscripted := unscripted
  rw [Deletes]
  constructor
  · intro recordsNone
    by_contra notLive
    have dead : ∀ reference, word = reference.raw → silenced.engine.globals.get? reference = none := by
      intro reference isWord
      by_contra found
      obtain ⟨object, found⟩ := Option.ne_none_iff_exists'.mp found
      exact notLive ⟨reference, object, isWord, found⟩
    obtain ⟨-, error, recorded⟩ := deleteGlobalRef_of_dead tidySilenced unscriptedSilenced thread dead
    rw [recorded] at recordsNone
    cases recordsNone
  · rintro ⟨reference, object, rfl, found⟩
    have isFound : silenced.engine.globals.get? reference = some object := found
    obtain ⟨globals, taken⟩ := ReferenceTable.remove_of_get? isFound
    have sameErrors := (deleteGlobalRef_of_live tidySilenced unscriptedSilenced thread taken).2
    rw [errorsOf, sameErrors]
    exact silent

theorem deleteGlobalRef_posted (tidy : gateway.engine.Tidy) (unscripted : gateway.engine.Unscripted) (thread : Nat)
    (word : UInt64) :
    Posted thread gateway (deleteGlobalRef thread word gateway).2 (.deleteGlobalRef word)
      (gateway.booking? (.native thread (.deleteGlobalRef word))) := by
  rw [booking?]
  split
  · next deletes =>
    obtain ⟨reference, object, rfl, found⟩ := (deletes_iff tidy unscripted).mp deletes
    obtain ⟨globals, taken⟩ := ReferenceTable.remove_of_get? found
    exact .deleted reference object globals taken (deleteGlobalRef_of_live tidy unscripted thread taken).1
  · next keeps =>
    refine .nothing _ (deleteGlobalRef_of_dead tidy unscripted thread fun reference isWord => ?_).1
    by_contra found
    obtain ⟨object, found⟩ := Option.ne_none_iff_exists'.mp found
    exact keeps ((deletes_iff tidy unscripted).mpr ⟨reference, object, isWord, found⟩)

section Closing

variable (accounted : gateway.Accounted)
include accounted

theorem disconnect_posted (thread : Nat) (word : UInt64) :
    Posted thread gateway (disconnect thread word gateway).2 (.disconnect word)
      (gateway.booking? (.native thread (.disconnect word))) := by
  refine .of_leads accounted.tidy (fun answer => if answer = 0 then some .disconnected else none) rfl ?_
  have inside := inside_pushed accounted.tidy accounted.unscripted thread
  refine .bind (inside.fileSystemArgument word) ?_
  rintro reference after ⟨rfl, isGlobal, rfl⟩
  refine .bind (inside.fileSystem isGlobal) ?_
  rintro client after ⟨found, rfl⟩
  have sturdy : (gateway.pushed thread).engine.storage.Sturdy := accounted.sturdy
  have closing := sturdy.closeClient_run client
  cases present : (gateway.pushed thread).engine.storage.clients[client]? with
  | none =>
    have failed : attempt (onStorage (Storage.closeClient client)) (gateway.pushed thread) =
        .error (.failed .unknown) (gateway.pushed thread) := by
      rw [attempt_run, onStorage, onEngine, Engine.onStorage, closing, present]
    exact .of_error (bind_of_error failed) inside
  | some known =>
    have closed : attempt (onStorage (Storage.closeClient client)) (gateway.pushed thread) =
        .ok (.ok ()) (gateway.pushed thread) := by
      rw [attempt_run, onStorage, onEngine, Engine.onStorage, closing, present]
    obtain ⟨globals, taken⟩ := ReferenceTable.remove_of_get? found
    obtain ⟨engine, ran, goesOn⟩ := inside.engine.deleteGlobal taken
    have deleted : onEngine (Engine.deleteGlobal reference) (gateway.pushed thread) =
        .ok () { gateway.pushed thread with engine } := onEngine_of_ok ran
    refine .after_ok closed (.after_ok deleted (.of_ok rfl ?_))
    exact .disconnected reference client globals taken ((inside.of_engine goesOn).popped accounted.tidy)

theorem closeFile_posted (thread : Nat) (address : UInt64) :
    Posted thread gateway (closeFile thread address gateway).2 (.closeFile address)
      (gateway.booking? (.native thread (.closeFile address))) := by
  have inside := inside_pushed accounted.tidy accounted.unscripted thread
  have looked := lookup_run address (gateway.pushed thread)
  rw [booking?]
  cases live : gateway.fileAt? address with
  | none =>
    have dead : (gateway.pushed thread).fileAt? address = none := live
    rw [dead] at looked
    refine call_leads (fun _ after => Posted thread gateway after (.closeFile address) none) ?_
    exact .of_error (bind_of_error looked) (.nothing _ ((inside.popped accounted.tidy).record _))
  | some file =>
    have isLive : (gateway.pushed thread).fileAt? address = some file := live
    rw [isLive] at looked
    rw [fileAt?, Option.ite_none_left_eq_some] at live
    obtain ⟨stream, object, same, found, serves⟩ := accounted.backed.stream live.2
    obtain ⟨globals, taken⟩ := ReferenceTable.remove_of_get? found
    have erased : Inside thread gateway gateway.engine.globals (gateway.files.erase address)
        { gateway.pushed thread with files := gateway.files.erase address } := ⟨inside.engine, rfl, rfl⟩
    obtain ⟨closed, second, ranClose, goesOn⟩ := erased.attempt_closeBy accounted.sturdy
      (accounted.tidy.isGlobal found) found serves
    obtain ⟨engine, ran, goesOnStill⟩ := goesOn.engine.deleteGlobal taken
    have released : attempt (onEngine (Engine.deleteGlobal stream)) second = .ok (.ok ()) { second with engine } := by
      rw [attempt_run, onEngine_of_ok ran]
    have last := goesOn.of_engine goesOnStill
    refine call_leads (fun _ after => Posted thread gateway after (.closeFile address) (some .closed)) ?_
    refine .after_ok looked (.after_ok rfl ?_)
    rw [Reference.ofRaw?_eq_some_iff.mpr same]
    refine .after_ok ranClose (.after_ok released ?_)
    refine (last.leads (.after (answerOf_within closed) fun _ => .after (answerOf_within _) fun _ => .pure _)).imp ?_ ?_
    · exact fun _ middle inside => .closed address file stream object globals live.2 same taken
        (inside.popped accounted.tidy)
    · exact fun _ middle inside => .closed address file stream object globals live.2 same taken
        ((inside.popped accounted.tidy).record _)

/-- What each call of native code does, and what it books. -/
theorem posted (thread : Nat) (call : NativeCall) :
    Posted thread gateway (call.serve thread gateway) call (gateway.booking? (.native thread call)) := by
  have tidy := accounted.tidy
  have unscripted := accounted.unscripted
  have quietly (quiet : call.Quiet) : Posted thread gateway (call.serve thread gateway) call none :=
    .nothing call ((bearing_stays thread).serve quiet gateway tidy unscripted)
  cases call with
  | connect host port => exact connect_posted tidy unscripted thread host port
  | disconnect word => exact disconnect_posted accounted thread word
  | openFile => exact openFile_posted tidy unscripted thread ..
  | closeFile address => exact closeFile_posted accounted thread address
  | convertToGlobalRef word => exact convertToGlobalRef_posted tidy unscripted thread word
  | deleteGlobalRef word => exact deleteGlobalRef_posted tidy unscripted thread word
  | _ => exact quietly trivial

end Closing

end Gateway

end FileGateway
