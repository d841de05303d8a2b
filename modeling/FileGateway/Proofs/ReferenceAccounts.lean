import FileGateway.Proofs.Gateway.Postings

/-! # The accounts of references

Every global reference is made by one call of native code and given up by one. So after any number of calls on any
threads, the references that live are those that were made less those that were given up, and the files that are
open are those that were opened less those that were closed. No call has a leak on any of its ways out, and what it
made for itself in between is gone with its frame.

This takes an allocator that gives out free addresses for files, clients that follow no script, and native code that
does not give up the reference of an open file behind its back.
-/

namespace FileGateway.Gateway

variable {gateway after : Gateway} {thread : Nat} {call : NativeCall} {booking : Option Booking} {step : GatewayStep}
  {storage : Storage} {globals globals' : ReferenceTable Object} {files : SortedMap UInt64 OpenFile}
  {reference : Reference} {object : Object} {address : UInt64} {file : OpenFile} {direction : Direction}

/-! ## Files and their references -/

namespace Backed

variable (backed : Backed storage globals files)
include backed

theorem kept {later : Storage} (kept : storage.Kept later) : Backed later globals files where
  placed := backed.placed
  stream found := by
    obtain ⟨stream, object, same, resolves, serves⟩ := backed.stream found
    exact ⟨stream, object, same, resolves, serves.kept kept⟩
  apart := backed.apart

theorem stored (consistent : globals.Consistent) (stored : globals.insert object = some (reference, globals')) :
    Backed storage globals' files where
  placed := backed.placed
  stream found := by
    obtain ⟨stream, held, same, resolves, serves⟩ := backed.stream found
    have still := (ReferenceTable.insert_stored consistent stored).1.get?_iff.mpr (.inl resolves)
    exact ⟨stream, held, same, still, serves⟩
  apart := backed.apart

/-- The reference of an opened file is new, and so it is none of another file. -/
theorem opened (consistent : globals.Consistent) (stored : globals.insert object = some (reference, globals'))
    (serves : object.Serves storage direction) (notNull : address ≠ 0) :
    Backed storage globals' (files.insert address ⟨reference.raw, direction⟩) := by
  have isStored := (ReferenceTable.insert_stored consistent stored).1
  have before := backed.stored consistent stored
  have new {other : UInt64} {held : OpenFile} (found : files.get? other = some held) : held.stream ≠ reference.raw := by
    intro same
    obtain ⟨stream, object, isStream, resolves, -⟩ := backed.stream found
    obtain rfl := Reference.eq_of_raw (isStream.trans same)
    cases isStored.get?_eq_none.symm.trans resolves
  refine ⟨fun {other held} found => ?_, fun {other held} found => ?_,
    fun {first second held another} one two same => ?_⟩
  · rw [SortedMap.get?_insert] at found
    split at found
    · next isAddress => exact isAddress ▸ notNull
    · exact before.placed found
  · rw [SortedMap.get?_insert] at found
    split at found
    · cases found
      exact ⟨reference, object, rfl, isStored.get?_iff.mpr (.inr ⟨rfl, rfl⟩), serves⟩
    · exact before.stream found
  · rw [SortedMap.get?_insert] at one two
    split at one <;> split at two
    · next isFirst isSecond => exact isFirst.trans isSecond.symm
    · cases one
      exact absurd same.symm (new two)
    · cases two
      exact absurd same (new one)
    · exact backed.apart one two same

/-- A reference that is none of a file may go. -/
theorem taken (consistent : globals.Consistent) (taken : globals.remove reference = (some object, globals'))
    (spared : ∀ address file, files.get? address = some file → file.stream ≠ reference.raw) :
    Backed storage globals' files where
  placed := backed.placed
  stream {address file} found := by
    obtain ⟨stream, held, same, resolves, serves⟩ := backed.stream found
    refine ⟨stream, held, same, (ReferenceTable.remove_taken consistent taken).1.get?_iff.mpr ⟨resolves, ?_⟩, serves⟩
    rintro rfl
    exact spared address file found same.symm
  apart := backed.apart

/-- With a file goes its reference. -/
theorem closed (consistent : globals.Consistent) (live : files.get? address = some file)
    (same : reference.raw = file.stream) (taken : globals.remove reference = (some object, globals')) :
    Backed storage globals' (files.erase address) := by
  have left {other : UInt64} {held : OpenFile} (found : (files.erase address).get? other = some held) :
      other ≠ address ∧ files.get? other = some held := by
    rw [SortedMap.get?_erase] at found
    split at found
    · cases found
    · next different => exact ⟨different, found⟩
  have others : Backed storage globals (files.erase address) :=
    ⟨fun found => backed.placed (left found).2, fun found => backed.stream (left found).2,
      fun one two => backed.apart (left one).2 (left two).2⟩
  refine others.taken consistent taken fun other held found isReference => ?_
  exact (left found).1 (backed.apart (left found).2 live (isReference.trans same))

end Backed

/-! ## What is relied on -/

/-- A step of a run that the accounts are kept for. An opened file is placed at a free address; the reference of an
open file is closed with the file, and not given up; no known address leads to scripted clients; and what is put
into a local reference exists. -/
structure Fair (gateway : Gateway) (step : GatewayStep) : Prop where
  placed : Placed gateway step
  spared : ∀ thread word, step = .native thread (.deleteGlobalRef word) →
    ∀ address file, gateway.files.get? address = some file → file.stream ≠ word
  unscripted : ∀ authority factory, step = .register authority factory → factory.script = .none
  offered : ∀ thread object, step = .hand thread object → object.IsIn gateway.engine.storage

theorem Settled.accounted {start : Gateway} (settled : Settled thread start globals files after)
    (sturdy : start.engine.storage.Sturdy) (backed : Backed after.engine.storage globals files) : after.Accounted where
  tidy := settled.engine.tidy
  unscripted := settled.engine.unscripted
  sturdy := settled.engine.kept.sturdy sturdy
  backed := by rwa [settled.engine.globals, settled.files]

theorem Posted.accounted (posted : Posted thread gateway after call booking) (accounted : gateway.Accounted)
    (fair : Fair gateway (.native thread call)) : after.Accounted := by
  have consistent := accounted.tidy.globals
  cases posted with
  | nothing _ settled => exact settled.accounted accounted.sturdy (accounted.backed.kept settled.engine.kept)
  | connected _ _ client reference globals stored settled =>
    exact settled.accounted accounted.sturdy ((accounted.backed.kept settled.engine.kept).stored consistent stored)
  | opened address _ _ _ _ _ _ direction object reference globals stored serves settled =>
    obtain ⟨notNull, -⟩ := fair.placed address rfl
    exact settled.accounted accounted.sturdy
      ((accounted.backed.kept settled.engine.kept).opened consistent stored serves notNull)
  | converted reference object global globals found stored settled =>
    exact settled.accounted accounted.sturdy ((accounted.backed.kept settled.engine.kept).stored consistent stored)
  | disconnected reference client globals taken settled =>
    refine settled.accounted accounted.sturdy ((accounted.backed.kept settled.engine.kept).taken consistent taken ?_)
    -- A file has a stream, and a client is none.
    intro address file found same
    obtain ⟨stream, object, isStream, resolves, serves⟩ := accounted.backed.stream found
    obtain rfl := Reference.eq_of_raw (isStream.trans same)
    rw [← ReferenceTable.remove_fst, taken] at resolves
    exact serves.not_fileSystem (Option.some.inj resolves).symm
  | closed address file reference object globals live same taken settled =>
    exact settled.accounted accounted.sturdy
      ((accounted.backed.kept settled.engine.kept).closed consistent live same taken)
  | deleted reference object globals taken settled =>
    refine settled.accounted accounted.sturdy ((accounted.backed.kept settled.engine.kept).taken consistent taken ?_)
    exact fair.spared thread reference.raw rfl

/-! ## The balance -/

/-- The books balance: what lives after a run is what lived before it, with what was made and without what was
given up. -/
structure Balance (before after : Gateway) (booked : List Booking) : Prop where
  references : after.engine.liveGlobals +
      (booked.count .disconnected + booked.count .closed + booked.count .deleted) =
    before.engine.liveGlobals + (booked.count .connected + booked.count .opened + booked.count .converted)
  files : after.liveFiles + booked.count .closed = before.liveFiles + booked.count .opened

theorem Balance.of_same (globals : after.engine.globals = gateway.engine.globals)
    (files : after.files = gateway.files) : Balance gateway after [] := by
  constructor
  · rw [Engine.liveGlobals, globals]
    rfl
  · rw [liveFiles, files]
    rfl

theorem Balance.trans {middle : Gateway} {early late : List Booking} (one : Balance gateway middle early)
    (two : Balance middle after late) : Balance gateway after (early ++ late) := by
  obtain ⟨references, files⟩ := one
  obtain ⟨referencesLater, filesLater⟩ := two
  constructor <;> simp only [List.count_append] <;> omega

theorem Settled.liveGlobals {start : Gateway} (settled : Settled thread start globals files after) :
    after.engine.liveGlobals = globals.live := by
  rw [Engine.liveGlobals, settled.engine.globals]

theorem Settled.liveFiles {start : Gateway} (settled : Settled thread start globals files after) :
    after.liveFiles = files.keys.length := by
  rw [Gateway.liveFiles, settled.files]

/-- What a call books is what it does to the counts. -/
theorem Posted.balance (posted : Posted thread gateway after call booking)
    (consistent : gateway.engine.globals.Consistent) (placed : Placed gateway (.native thread call)) :
    Balance gateway after booking.toList := by
  cases posted with
  | nothing _ settled => exact .of_same settled.engine.globals settled.files
  | connected _ _ client reference globals stored settled =>
    exact ⟨settled.liveGlobals.trans (ReferenceTable.insert_live stored), settled.liveFiles⟩
  | opened address _ _ _ _ _ _ direction object reference globals stored serves settled =>
    obtain ⟨notNull, free⟩ := placed address rfl
    rw [if_pos notNull]
    exact ⟨settled.liveGlobals.trans (ReferenceTable.insert_live stored),
      settled.liveFiles.trans (SortedMap.length_insert free)⟩
  | converted reference object global globals found stored settled =>
    exact ⟨settled.liveGlobals.trans (ReferenceTable.insert_live stored), settled.liveFiles⟩
  | disconnected reference client globals taken settled =>
    refine ⟨?_, settled.liveFiles⟩
    rw [settled.liveGlobals]
    exact ReferenceTable.remove_live consistent taken
  | closed address file reference object globals live same taken settled =>
    constructor
    · rw [settled.liveGlobals]
      exact ReferenceTable.remove_live consistent taken
    · rw [settled.liveFiles]
      exact SortedMap.length_erase live
  | deleted reference object globals taken settled =>
    refine ⟨?_, settled.liveFiles⟩
    rw [settled.liveGlobals]
    exact ReferenceTable.remove_live consistent taken

/-! ## Runs -/

/-- What goes on around the calls of native code leaves the global table and the files alone. -/
structure Aside (before after : Gateway) : Prop where
  tidy : after.engine.Tidy
  unscripted : after.engine.Unscripted
  kept : before.engine.storage.Kept after.engine.storage
  globals : after.engine.globals = before.engine.globals
  files : after.files = before.files

theorem Aside.accounted (aside : Aside gateway after) (accounted : gateway.Accounted) : after.Accounted where
  tidy := aside.tidy
  unscripted := aside.unscripted
  sturdy := aside.kept.sturdy accounted.sturdy
  backed := by
    rw [aside.globals, aside.files]
    exact accounted.backed.kept aside.kept

theorem hand_aside (accounted : gateway.Accounted) (thread : Nat) (isIn : object.IsIn gateway.engine.storage) :
    Aside gateway (gateway.after (.hand thread object)) := by
  obtain ⟨tidy, unscripted, -, -⟩ := accounted
  obtain ⟨top, rest, stack⟩ := List.exists_cons_of_ne_nil (tidy.frames thread).grounded
  rw [Gateway.after, doing]
  cases inserted : (gateway.engine.framesOf thread).table.insert object with
  | none =>
    rw [Engine.newLocal_of_none inserted]
    exact ⟨(Engine.unchanged_setFrames gateway.engine thread).tidy tidy, unscripted, .refl _, rfl, rfl⟩
  | some result =>
    rw [Engine.newLocal_of_some stack inserted]
    exact ⟨tidy.stored isIn stack inserted, unscripted, .refl _, rfl, rfl⟩

theorem endThread_aside (accounted : gateway.Accounted) (thread : Nat) :
    Aside gateway (gateway.after (.endThread thread)) := by
  obtain ⟨tidy, unscripted, -, -⟩ := accounted
  obtain ⟨storage, ran, kept⟩ := Engine.endThread_ok tidy thread
  rw [Gateway.after, doing, ran]
  exact ⟨(tidy.threadEnded thread).of_storage kept, unscripted, kept, rfl, rfl⟩

theorem step_balances (accounted : gateway.Accounted) (fair : Fair gateway step) :
    (gateway.after step).Accounted ∧ Balance gateway (gateway.after step) (gateway.booking? step).toList := by
  have aside (aside : Aside gateway (gateway.after step)) :
      (gateway.after step).Accounted ∧ Balance gateway (gateway.after step) [] :=
    ⟨aside.accounted accounted, .of_same aside.globals aside.files⟩
  have tidy := accounted.tidy
  have unscripted := accounted.unscripted
  cases step with
  | native thread call =>
    have posted := posted accounted thread call
    exact ⟨posted.accounted accounted fair, posted.balance tidy.globals fair.placed⟩
  | request request =>
    refine aside ?_
    have kept := Storage.serve_keeps request gateway.engine.storage
    rw [Gateway.after, doing, Engine.ended_onStorage]
    exact ⟨tidy.of_storage kept, unscripted, kept, rfl, rfl⟩
  | register authority factory =>
    refine aside ⟨⟨tidy.globals, tidy.scope, tidy.frames, tidy.locals_exist, tidy.globals_exist⟩,
      fun other known found => ?_, .refl _, rfl, rfl⟩
    have atKey : (gateway.engine.factories.insert authority factory).get? other = some known := found
    rw [SortedMap.get?_insert] at atKey
    split at atKey
    · cases atKey
      exact fair.unscripted authority factory rfl
    · exact unscripted other known atKey
  | unregister authority =>
    refine aside ⟨⟨tidy.globals, tidy.scope, tidy.frames, tidy.locals_exist, tidy.globals_exist⟩,
      fun other known found => ?_, .refl _, rfl, rfl⟩
    have atKey : (gateway.engine.factories.erase authority).get? other = some known := found
    rw [SortedMap.get?_erase] at atKey
    split at atKey
    · cases atKey
    · exact unscripted other known atKey
  | configure conf =>
    exact aside ⟨⟨tidy.globals, tidy.scope, tidy.frames, tidy.locals_exist, tidy.globals_exist⟩, unscripted,
      .refl _, rfl, rfl⟩
  | hand thread object => exact aside (hand_aside accounted thread (fair.offered thread object rfl))
  | takeError | recordError => exact aside ⟨tidy, unscripted, .refl _, rfl, rfl⟩
  | endThread thread => exact aside (endThread_aside accounted thread)

/-- What a run books, step by step. -/
def bookings : Gateway → List GatewayStep → List Booking
  | _, [] => []
  | gateway, step :: rest => (gateway.booking? step).toList ++ bookings (gateway.after step) rest

theorem run_balances {steps : List GatewayStep} (accounted : gateway.Accounted) (fair : Throughout Fair gateway steps) :
    (gateway.run steps).Accounted ∧ Balance gateway (gateway.run steps) (bookings gateway steps) := by
  induction steps generalizing gateway with
  | nil => exact ⟨accounted, .of_same rfl rfl⟩
  | cons step rest ih =>
    obtain ⟨first, balanced⟩ := step_balances accounted fair.1
    obtain ⟨last, balancedLater⟩ := ih first fair.2
    exact ⟨last, balanced.trans balancedLater⟩

theorem accounted_new (now : Int) (disk : Disk) (conf : Configuration) :
    (new (.new (.new now disk) conf)).Accounted where
  tidy := Engine.tidy_new _ _
  unscripted _ _ found := nomatch SortedMap.get?_empty.symm.trans found
  sturdy := ⟨fun _ => nofun, fun _ => nofun⟩
  backed :=
    { placed := fun found => nomatch SortedMap.get?_empty.symm.trans found
      stream := fun found => nomatch SortedMap.get?_empty.symm.trans found
      apart := fun found => nomatch SortedMap.get?_empty.symm.trans found }

/-! ## Local references -/

/-- A call of a thread turns its local reference global, and succeeds. -/
def Converts (gateway : Gateway) (thread : Nat) (call : NativeCall) (reference : Reference) : Prop :=
  call = .convertToGlobalRef reference.raw ∧ (convertToGlobalRef thread reference.raw gateway).1 ≠ 0

theorem converts_iff : gateway.Converts thread call reference ↔
    call = .convertToGlobalRef reference.raw ∧ gateway.booking? (.native thread call) = some .converted := by
  refine and_congr_right ?_
  rintro rfl
  simp [booking?]

theorem Settled.liveLocals {start : Gateway} (settled : Settled thread start globals files after)
    (tidy : start.engine.Tidy) : after.engine.liveLocals thread = start.engine.liveLocals thread := by
  rw [Engine.liveLocals, Engine.liveLocals, (settled.engine.tidy.frames thread).live_eq, (tidy.frames thread).live_eq,
    settled.engine.stack]

/-- To the local references a call does no more than its frame, unless it books that it turned one global: then it
does what it would if that one had been taken out before. -/
private theorem Posted.settled (posted : Posted thread gateway after call booking) :
    ∃ globals files, (booking ≠ some .converted ∧ Settled thread gateway globals files after) ∨
      ∃ gone held, booking = some .converted ∧ call = .convertToGlobalRef gone.raw ∧
        (gateway.engine.framesOf thread).table.get? gone = some held ∧
        Settled thread (gateway.retired thread gone) globals files after := by
  cases posted
  case converted gone held global globals found stored settled =>
    exact ⟨globals, _, .inr ⟨gone, held, rfl, rfl, found, settled⟩⟩
  case opened settled => exact ⟨_, _, .inl ⟨by split <;> simp, settled⟩⟩
  case nothing settled | connected settled | disconnected settled | closed settled | deleted settled =>
    exact ⟨_, _, .inl ⟨by simp, settled⟩⟩

private theorem framesOf_retired (found : (gateway.engine.framesOf thread).table.get? reference = some object) :
    ∃ table, (gateway.engine.framesOf thread).table.remove reference = (some object, table) ∧
      (gateway.retired thread reference).engine.framesOf thread =
        ⟨table, Frames.forget reference (gateway.engine.framesOf thread).stack⟩ := by
  obtain ⟨table, taken⟩ := ReferenceTable.remove_of_get? found
  refine ⟨table, taken, ?_⟩
  rw [retired, Engine.retired_of_taken taken, Engine.framesOf_setFrames, if_pos rfl]

/-- A call leaves the local references of its thread as they were, but for one that it turns global. -/
theorem Posted.get?_iff (posted : Posted thread gateway after call booking) (tidy : gateway.engine.Tidy) :
    (after.engine.framesOf thread).table.get? reference = some object ↔
      (gateway.engine.framesOf thread).table.get? reference = some object ∧
        ¬(call = .convertToGlobalRef reference.raw ∧ booking = some .converted) := by
  obtain ⟨globals, files, ⟨notConverted, settled⟩ | ⟨gone, held, rfl, rfl, found, settled⟩⟩ := posted.settled
  · rw [settled.engine.found, iff_self_and]
    exact fun _ => not_and_of_not_right _ notConverted
  · have sameWord : NativeCall.convertToGlobalRef gone.raw = .convertToGlobalRef reference.raw ↔ reference = gone := by
      rw [NativeCall.convertToGlobalRef.injEq]
      exact ⟨fun same => Reference.eq_of_raw same.symm, fun same => same ▸ rfl⟩
    obtain ⟨table, taken, left⟩ := framesOf_retired found
    rw [settled.engine.found, sameWord, and_iff_left rfl, left]
    exact (ReferenceTable.remove_taken (tidy.frames thread).consistent taken).1.get?_iff

theorem Posted.liveLocals (posted : Posted thread gateway after call booking) (tidy : gateway.engine.Tidy) :
    after.engine.liveLocals thread + (if booking = some .converted then 1 else 0) =
      gateway.engine.liveLocals thread := by
  obtain ⟨globals, files, ⟨notConverted, settled⟩ | ⟨gone, held, rfl, rfl, found, settled⟩⟩ := posted.settled
  · rw [if_neg notConverted]
    exact settled.liveLocals tidy
  · obtain ⟨table, taken, left⟩ := framesOf_retired found
    rw [if_pos rfl, settled.liveLocals (tidy.retired found), Engine.liveLocals, left]
    exact ReferenceTable.remove_live (tidy.frames thread).consistent taken

theorem Posted.others {other : Nat} (posted : Posted thread gateway after call booking) (different : other ≠ thread) :
    after.engine.framesOf other = gateway.engine.framesOf other := by
  obtain ⟨globals, files, ⟨-, settled⟩ | ⟨gone, held, -, -, -, settled⟩⟩ := posted.settled
  · exact settled.engine.others other different
  · rw [settled.engine.others other different, retired, Engine.retired, Engine.framesOf_setFrames, if_neg different]

/-- After every fair run from a gateway without clients, the global references that live and those that were given
up are those that were made: by connecting, opening a file and turning a reference global, each time that it gave no
null; and given up by disconnecting when it gave zero, by closing an open file whatever it gave, and by deleting
without an error. The files that are open and those that were closed are those that were opened. And whatever call
comes next, on whatever thread and whether it succeeds or fails, the local references of the thread resolve as they
did before it, but for the one that it turns global. -/
theorem references_accounted (now : Int) (disk : Disk) (conf : Configuration) (steps : List GatewayStep)
    (fair : Throughout Fair (new (.new (.new now disk) conf)) steps) :
    let start := new (.new (.new now disk) conf)
    let gateway := start.run steps
    let booked := bookings start steps
    gateway.engine.liveGlobals + (booked.count .disconnected + booked.count .closed + booked.count .deleted) =
      booked.count .connected + booked.count .opened + booked.count .converted ∧
    gateway.liveFiles + booked.count .closed = booked.count .opened ∧
    ∀ thread call, let after := call.serve thread gateway
      (∀ reference object, (after.engine.framesOf thread).table.get? reference = some object ↔
        (gateway.engine.framesOf thread).table.get? reference = some object ∧
          ¬gateway.Converts thread call reference) ∧
      after.engine.liveLocals thread + (if gateway.booking? (.native thread call) = some .converted then 1 else 0) =
        gateway.engine.liveLocals thread ∧
      ∀ other, other ≠ thread → after.engine.framesOf other = gateway.engine.framesOf other := by
  intro start gateway booked
  obtain ⟨accounted, references, files⟩ := run_balances (accounted_new now disk conf) fair
  have noReference : start.engine.liveGlobals = 0 := rfl
  have noFile : start.liveFiles = 0 := rfl
  refine ⟨?_, ?_, fun thread call => ?_⟩
  · rw [references, noReference, Nat.zero_add]
  · rw [files, noFile, Nat.zero_add]
  · have posted := posted accounted thread call
    refine ⟨fun reference object => ?_, posted.liveLocals accounted.tidy, fun other => posted.others⟩
    rw [posted.get?_iff accounted.tidy, converts_iff]

/-- A client is connected on one thread, and lent to another, which turns its reference global and opens a file with
it. The first thread closes the file, and the second gives its reference up twice. A third has a local reference. -/
def lending : List GatewayStep :=
  [.native 0 (.connect none 0), .hand 1 (.fileSystem 0), .native 1 (.convertToGlobalRef 0x100000000),
    .native 1 (.openFile 4096 0x200000001 (some [47, 102]) writeFlag 0 0 0), .native 0 (.closeFile 4096),
    .native 1 (.deleteGlobalRef 0x200000001), .native 1 (.deleteGlobalRef 0x200000001), .hand 2 (.fileStatuses [])]

/-- Only the connection is left, and the second time is not booked. The third thread may connect as well and keeps
its local reference, until it turns it global. -/
theorem references_accounted_of_lending :
    let start := new (.new (.new 0 (.new 0 .root 0 0)) .default)
    let gateway := start.run lending
    let reference : Reference := ⟨0x100000000, by decide⟩
    Throughout Fair start lending ∧ bookings start lending = [.connected, .converted, .opened, .closed, .deleted] ∧
      gateway.engine.liveGlobals = 1 ∧ gateway.liveFiles = 0 ∧
      ((((NativeCall.connect none 0).serve 2 gateway).engine.framesOf 2).table.get? reference =
        some (.fileStatuses [])) ∧
      ((NativeCall.convertToGlobalRef reference.raw).serve 2 gateway).engine.liveLocals 2 = 0 := by
  intro start gateway reference
  have spared {earlier : Gateway} {word : UInt64} (noFile : earlier.files = .empty) :
      ∀ address file, earlier.files.get? address = some file → file.stream ≠ word := by
    intro address file found
    rw [noFile] at found
    cases SortedMap.get?_empty.symm.trans found
  have fair : Throughout Fair start lending := by
    refine ⟨⟨nofun, nofun, nofun, nofun⟩, ⟨nofun, nofun, nofun, ?_⟩, ⟨nofun, nofun, nofun, nofun⟩,
      ⟨?_, nofun, nofun, nofun⟩, ⟨nofun, nofun, nofun, nofun⟩, ⟨nofun, fun _ _ _ => spared ?_, nofun, nofun⟩,
      ⟨nofun, fun _ _ _ => spared ?_, nofun, nofun⟩, ⟨nofun, nofun, nofun, ?_⟩, trivial⟩
    · rintro _ _ ⟨⟩
      exact Object.isIn_of_plain rfl
    · rintro _ ⟨⟩
      exact ⟨by decide, by decide +kernel⟩
    · decide +kernel
    · decide +kernel
    · rintro _ _ ⟨⟩
      exact Object.isIn_of_plain rfl
  have booked : bookings start lending = [.connected, .converted, .opened, .closed, .deleted] := by decide +kernel
  have held : (gateway.engine.framesOf 2).table.get? reference = some (.fileStatuses []) := by decide +kernel
  have converted : gateway.booking? (.native 2 (.convertToGlobalRef reference.raw)) = some .converted := by
    decide +kernel
  have alone : gateway.engine.liveLocals 2 = 1 := by decide +kernel
  obtain ⟨references, files, locals⟩ := references_accounted 0 (.new 0 .root 0 0) .default lending fair
  have fewer := (locals 2 (.convertToGlobalRef reference.raw)).2.1
  rw [booked] at references files
  rw [if_pos converted, alone] at fewer
  refine ⟨fair, booked, Nat.add_right_cancel references, Nat.add_right_cancel files, ?_, Nat.add_right_cancel fewer⟩
  exact ((locals 2 (.connect none 0)).1 reference _).mpr ⟨held, fun converts => nomatch converts.1⟩

end FileGateway.Gateway
