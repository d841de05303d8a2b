import FileGateway.Proofs.Gateway.Run

/-! # Calls with a wrong handle

A call on an open file checks the file first, then the direction that the file is open in, then the
filesystem, and only then anything else. A call that fails one of these checks gives minus one and
records its error for the calling thread. It leaves no other trace: the frame that the call pushed is
popped with nothing in it, and no stream was reached.
-/

namespace FileGateway.Gateway

variable {α β : Type} {gateway before after : Gateway} {thread : Nat} {entry : EntryPoint} {expected : Direction}
  {fileSystem address : UInt64} {file : OpenFile} {kind : CallErrorKind}

/-- Everything is as before, apart from the errors of one thread. -/
structure Untouched (thread : Nat) (before after : Gateway) : Prop where
  /-- The streams with their positions, the clients, the clusters and the disks. -/
  storage : after.engine.storage = before.engine.storage
  conf : after.engine.conf = before.engine.conf
  factories : after.engine.factories = before.engine.factories
  globals : after.engine.globals = before.engine.globals
  frames : ∀ other, after.engine.framesOf other = before.engine.framesOf other
  files : after.files = before.files
  tracing : after.tracing = before.tracing
  errors : ∀ other, other ≠ thread → after.errorsOf other = before.errorsOf other

/-- A call gives minus one with an error of a kind, and leaves no other trace. -/
structure Refused (thread : Nat) (kind : CallErrorKind) (before : Gateway) (result : Int × Gateway) : Prop where
  answer : result.1 = -1
  error : ∃ error, result.2.errorsOf thread = .record error ∧ error.kind = kind
  untouched : Untouched thread before result.2

/-- The inside of a call fails with an error of a kind before it changes anything. -/
def Refuses (action : CallAction α) (kind : CallErrorKind) (gateway : Gateway) : Prop :=
  ∃ failure, action gateway = .error failure gateway ∧ ∀ entry, (errorOf entry failure).kind = kind

namespace Refuses

theorem refuse (error : CallError) : Refuses (refuse error : CallAction α) error.kind gateway :=
  ⟨.refused error, rfl, fun _ => rfl⟩

theorem bind {action : CallAction α} {next : α → CallAction β} (refuses : Refuses action kind gateway) :
    Refuses (action >>= next) kind gateway := by
  obtain ⟨failure, ran, isKind⟩ := refuses
  exact ⟨failure, bind_of_error ran, isKind⟩

theorem after_ok {action : CallAction α} {next : α → CallAction β} {value : α}
    (ran : action gateway = .ok value gateway) (refuses : Refuses (next value) kind gateway) :
    Refuses (action >>= next) kind gateway := by
  obtain ⟨failure, refused, isKind⟩ := refuses
  exact ⟨failure, (bind_of_ok ran).trans refused, isKind⟩

end Refuses

/-! ## The checks -/

/-- A word that is not good as a filesystem is refused, whatever is wrong with it. -/
theorem clientArgument_refuses (unfit : ¬gateway.Connected fileSystem) (thread : Nat) :
    Refuses (clientArgument thread fileSystem) .invalidHandle gateway := by
  rw [clientArgument, fileSystemArgument]
  cases isFound : Reference.ofRaw? fileSystem with
  | none => exact (Refuses.refuse .nullFileSystem).bind
  | some reference =>
    simp only
    by_cases isGlobal : reference.isGlobal = true
    · rw [if_pos isGlobal]
      refine .after_ok rfl ?_
      rw [Refuses, onEngine, Engine.fileSystem_run isGlobal]
      rcases resolves : gateway.engine.globals.get? reference with _ | object
      · exact ⟨_, rfl, fun _ => rfl⟩
      · cases object with
        | fileSystem client => exact absurd ⟨reference, client, isFound, resolves⟩ unfit
        | _ => exact ⟨_, rfl, fun _ => rfl⟩
    · rw [if_neg isGlobal]
      exact (Refuses.refuse .localFileSystem).bind

theorem streamArgument_of_dead (dead : gateway.fileAt? address = none) :
    Refuses (streamArgument thread entry fileSystem address expected) .invalidHandle gateway := by
  refine Refuses.bind ⟨_, (lookup_run address gateway).trans (by rw [dead]), fun _ => ?_⟩
  rw [errorOf]
  split <;> rfl

theorem streamArgument_of_direction (live : gateway.fileAt? address = some file) (streamed : file.stream ≠ 0)
    (other : file.direction ≠ expected) :
    Refuses (streamArgument thread entry fileSystem address expected) .invalidState gateway := by
  refine .after_ok ((lookup_run address gateway).trans (by rw [live])) ?_
  rw [Reference.ofRaw?, dif_pos streamed]
  simp only
  rw [if_pos other]
  exact (Refuses.refuse (.wrongDirection entry expected file.direction)).bind

theorem streamArgument_of_fileSystem (live : gateway.fileAt? address = some file) (streamed : file.stream ≠ 0)
    (same : file.direction = expected) (unfit : ¬gateway.Connected fileSystem) :
    Refuses (streamArgument thread entry fileSystem address expected) .invalidHandle gateway := by
  refine .after_ok ((lookup_run address gateway).trans (by rw [live])) ?_
  rw [Reference.ofRaw?, dif_pos streamed]
  simp only
  rw [if_neg (not_not.mpr same)]
  exact (clientArgument_refuses unfit thread).bind

/-- With everything right the stream is the one of the file. -/
theorem streamArgument_of_connected (sound : gateway.Sound) (live : gateway.fileAt? address = some file)
    (streamed : file.stream ≠ 0) (same : file.direction = expected) (connected : gateway.Connected fileSystem) :
    streamArgument thread entry fileSystem address expected gateway = .ok ⟨file.stream, streamed⟩ gateway := by
  obtain ⟨reference, client, isFound, resolves⟩ := connected
  have asked := sound.clientArgument isFound resolves thread
  rw [streamArgument, bind_of_ok ((lookup_run address gateway).trans (by rw [live])), Reference.ofRaw?,
    dif_pos streamed]
  simp only
  rw [if_neg (not_not.mpr same), bind_of_ok asked]
  rfl

/-! ## Calls that fail at once -/

/-- The gateway after a frame came and went: the frames of the thread are put back. -/
def reframed (gateway : Gateway) (thread : Nat) : Gateway :=
  { gateway with engine := gateway.engine.setFrames thread (gateway.engine.framesOf thread) }

theorem popped_pushed (grounded : gateway.engine.Grounded) (thread : Nat) :
    (gateway.pushed thread).popped thread = gateway.reframed thread := by
  have discarded : discard (Engine.popFrame thread none) (gateway.pushed thread).engine =
      .ok PUnit.unit (gateway.engine.setFrames thread (gateway.engine.framesOf thread)) := by
    change EStateM.map _ (Engine.popFrame thread none) _ = _
    rw [EStateM.map, pushed, Engine.popFrame_push (grounded thread)]
  rw [popped, onEngine, discarded]
  rfl

/-- The error is all that is left of a call that fails at once. -/
theorem call_of_failure (entry : EntryPoint) (sentinel : α) (failure : CallFailure) {inside : CallAction α}
    (grounded : gateway.engine.Grounded)
    (failed : inside (gateway.pushed thread) = .error failure (gateway.pushed thread)) :
    call thread entry sentinel inside gateway =
      (sentinel, (gateway.reframed thread).record thread (errorOf entry failure)) := by
  rw [call_run, failed]
  simp only [popped_pushed grounded]

theorem call_of_refuses (entry : EntryPoint) (sentinel : α) {inside : CallAction α} (sound : gateway.Sound)
    (refuses : Refuses inside kind (gateway.pushed thread)) :
    ∃ error, error.kind = kind ∧
      call thread entry sentinel inside gateway = (sentinel, (gateway.reframed thread).record thread error) := by
  obtain ⟨failure, ran, isKind⟩ := refuses
  exact ⟨errorOf entry failure, isKind entry, call_of_failure entry sentinel failure sound.grounded ran⟩

theorem untouched_record (error : CallError) :
    Untouched thread gateway ((gateway.reframed thread).record thread error) where
  storage := rfl
  conf := rfl
  factories := rfl
  globals := rfl
  frames other := by
    rw [record, reframed, Engine.framesOf_setFrames]
    split
    · next same => rw [same]
    · rfl
  files := rfl
  tracing := rfl
  errors other different := by
    rw [record, errorsOf, SortedMap.get?_insert, if_neg different]
    rfl

/-- A call on a file is refused when its stream is. -/
theorem ask_refused (sound : gateway.Sound) (call : FileCall)
    (refuses : Refuses (streamArgument thread call.entry fileSystem address call.direction) kind
      (gateway.pushed thread)) : Refused thread kind gateway (call.ask thread fileSystem address gateway) := by
  obtain ⟨α, sentinel, number, rest, same, minusOne, -⟩ := ask_eq thread call
  have goesNoFurther : Refuses (streamArgument thread call.entry fileSystem address call.direction >>= rest) kind
      (gateway.pushed thread) := refuses.bind
  obtain ⟨error, isKind, ran⟩ := call_of_refuses call.entry sentinel sound goesNoFurther
  rw [same, ran]
  refine ⟨minusOne, ⟨error, ?_, isKind⟩, untouched_record error⟩
  change ((gateway.errors.insert thread (.record error)).get? thread).getD .none = _
  rw [SortedMap.get?_insert, if_pos rfl]
  rfl

/-! ## What is wrong with a handle -/

/-- Since an address was closed, or ever, no opening was to give it out. -/
def Unopened (steps : List GatewayStep) (address : UInt64) : Prop :=
  ∃ before later, steps = before ++ later ∧
    (before = [] ∨ ∃ earlier other, before = earlier ++ [.native other (.closeFile address)]) ∧
    ∀ step ∈ later, step.opens? ≠ some address

/-- What is wrong with a word as a filesystem after a run. -/
inductive Unfit (start : Gateway) (steps : List GatewayStep) (word : UInt64) : Prop
  | null (zero : word = 0)
  | notGlobal (reference : Reference) (same : Reference.ofRaw? word = some reference)
    (isLocal : reference.isGlobal = false)
  | otherClass (reference : Reference) (object : Object) (same : Reference.ofRaw? word = some reference)
    (resolves : (start.run steps).engine.globals.get? reference = some object)
    (other : ∀ client, object ≠ .fileSystem client)
  /-- A call that disconnects it has answered zero, and its slot was not released a full round. -/
  | disconnected (reference : Reference) (index other : Nat) (before later : List GatewayStep)
    (same : Reference.ofRaw? word = some reference) (atPlace : reference.index? = some index)
    (split : steps = before ++ .native other (.disconnect word) :: later)
    (answered : (disconnect other word (start.run before)).1 = 0)
    (few : releases index (start.run before) (.native other (.disconnect word) :: later) <
      Reference.generationCount)
  /-- It was good before a step and not after it, and its slot was not released a full round. -/
  | givenUp (reference : Reference) (index : Nat) (step : GatewayStep) (before later : List GatewayStep)
    (same : Reference.ofRaw? word = some reference) (atPlace : reference.index? = some index)
    (split : steps = before ++ step :: later) (connected : (start.run before).Connected word)
    (gone : ¬((start.run before).after step).Connected word)
    (few : releases index (start.run before) (step :: later) < Reference.generationCount)

theorem Unopened.fileAt? {steps : List GatewayStep} (unopened : Unopened steps address) (storage : Storage)
    (conf : Configuration) : ((new (.new storage conf)).run steps).fileAt? address = none := by
  obtain ⟨before, later, rfl, closed, others⟩ := unopened
  rw [run_append]
  refine fileAt?_run ?_ others
  rcases closed with rfl | ⟨earlier, other, rfl⟩
  · rw [Gateway.fileAt?]
    exact ite_self none
  · rw [run_append]
    exact fileAt?_closeFile other address _

theorem Unfit.not_connected {start : Gateway} {steps : List GatewayStep} (unfit : Unfit start steps fileSystem)
    (sound : start.Sound) : ¬(start.run steps).Connected fileSystem := by
  cases unfit with
  | null zero =>
    rintro ⟨reference, client, same, -⟩
    rw [zero] at same
    cases same
  | notGlobal reference same isLocal =>
    rintro ⟨found, client, isFound, resolves⟩
    obtain rfl : found = reference := Option.some.inj (isFound.symm.trans same)
    rw [(sound.run steps).isGlobal resolves] at isLocal
    cases isLocal
  | otherClass reference object same resolves other =>
    rintro ⟨found, client, isFound, isClient⟩
    obtain rfl : found = reference := Option.some.inj (isFound.symm.trans same)
    exact other client (Option.some.inj (resolves.symm.trans isClient))
  | disconnected reference index other before later same atPlace split answered few =>
    rw [split, run_append]
    obtain ⟨connected, gone⟩ := disconnect_gives_up (sound.run before) other answered
    exact not_connected_of_givenUp (sound.run before) connected gone same atPlace few
  | givenUp reference index step before later same atPlace split connected gone few =>
    rw [split, run_append]
    exact not_connected_of_givenUp (sound.run before) connected gone same atPlace few

/-- After every run of native calls, a call on an open file with whatever arguments: without a file at the
address it is refused as an invalid handle; with a file that is open in the other direction, as an invalid
state, whatever the filesystem; with a file in its direction but no good filesystem, as an invalid handle;
and only with all three right it gets to the stream of the file. An address has no file if it is null or was
closed, and a word is no good filesystem if it is null, local, of another class or given up. -/
theorem wrong_handles_refused (storage : Storage) (conf : Configuration) (steps : List GatewayStep) (thread : Nat)
    (call : FileCall) (fileSystem address : UInt64) :
    let start := new (.new storage conf)
    let gateway := start.run steps
    let result := call.ask thread fileSystem address gateway
    (gateway.fileAt? address = none → Refused thread .invalidHandle gateway result) ∧
    (∀ file, gateway.fileAt? address = some file → file.direction ≠ call.direction →
      Refused thread .invalidState gateway result) ∧
    (∀ file, gateway.fileAt? address = some file → file.direction = call.direction →
      ¬gateway.Connected fileSystem → Refused thread .invalidHandle gateway result) ∧
    (∀ file, gateway.fileAt? address = some file → file.direction = call.direction →
      gateway.Connected fileSystem → ∃ stream, stream.raw = file.stream ∧
        streamArgument thread call.entry fileSystem address call.direction gateway = .ok stream gateway) ∧
    (address = 0 ∨ Unopened steps address → gateway.fileAt? address = none) ∧
    (Unfit start steps fileSystem → ¬gateway.Connected fileSystem) := by
  intro start gateway result
  have fresh : start.Sound := sound_new storage conf
  have sound : gateway.Sound := fresh.run steps
  have streamed {file : OpenFile} (live : gateway.fileAt? address = some file) : file.stream ≠ 0 := by
    rw [fileAt?] at live
    split at live
    · contradiction
    · exact sound.streamed live
  refine ⟨fun dead => ?_, fun file live other => ?_, fun file live same unfit => ?_,
    fun file live same connected => ?_, ?_, ?_⟩
  · exact ask_refused sound call (streamArgument_of_dead dead)
  · exact ask_refused sound call (streamArgument_of_direction live (streamed live) other)
  · exact ask_refused sound call (streamArgument_of_fileSystem live (streamed live) same unfit)
  · exact ⟨_, rfl, streamArgument_of_connected sound live (streamed live) same connected⟩
  · rintro (null | unopened)
    · rw [fileAt?, if_pos null]
    · exact unopened.fileAt? storage conf
  · exact fun unfit => unfit.not_connected fresh

/-- A client is made global, opens a file for writing, and is disconnected. -/
def abandonedWriter : List GatewayStep :=
  [.request (.startCluster "nn:1" .default ["dn"] 1), .request (.joinCluster 0), .hand 0 (.fileSystem 0),
    .native 0 (.convertToGlobalRef 0x100000000),
    .native 0 (.openFile 4096 0x100000001 (some [47, 102]) writeFlag 0 0 0),
    .native 0 (.disconnect 0x100000001)]

/-- Then the file cannot be flushed for want of a filesystem, nor ever be asked for its position, and at
another address there is no file at all. -/
theorem wrong_handles_refused_after_disconnect :
    let gateway := (new (.new (.new 0 (.new 0 .root 0 0)) .default)).run abandonedWriter
    Refused 0 .invalidHandle gateway (FileCall.flush.ask 0 0x100000001 4096 gateway) ∧
      Refused 0 .invalidState gateway (FileCall.tell.ask 0 0x100000001 4096 gateway) ∧
      Refused 0 .invalidHandle gateway (FileCall.flush.ask 0 0x100000001 8192 gateway) := by
  intro gateway
  have refused := wrong_handles_refused (.new 0 (.new 0 .root 0 0)) .default abandonedWriter 0
  have live : gateway.fileAt? 4096 = some ⟨0x200000001, .writing⟩ := rfl
  have unfit : Unfit (new (.new (.new 0 (.new 0 .root 0 0)) .default)) abandonedWriter 0x100000001 :=
    .disconnected ⟨0x100000001, by decide⟩ 0 0 (abandonedWriter.take 5) [] rfl rfl rfl rfl
      (lt_of_eq_of_lt (rfl : releases 0 _ _ = 1) (by decide))
  have unopened : Unopened abandonedWriter 8192 := ⟨[], abandonedWriter, rfl, .inl rfl, by decide⟩
  obtain ⟨-, -, unconnected, -, -, notConnected⟩ := refused .flush 0x100000001 4096
  obtain ⟨-, misdirected, -⟩ := refused .tell 0x100000001 4096
  obtain ⟨dead, -, -, -, notThere, -⟩ := refused .flush 0x100000001 8192
  exact ⟨unconnected _ live rfl (notConnected unfit), misdirected _ live (by decide),
    dead (notThere (.inr unopened))⟩

end FileGateway.Gateway
