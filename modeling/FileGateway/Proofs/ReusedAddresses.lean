import FileGateway.Proofs.FileHandles

/-! # Addresses that are given out again

An open file is known by its address alone. Closing makes the address free, and a later opening may be given
the same one: from then on the handle of the closed file is the handle of the new one, and calls with it reach
the new stream. Before that, and again once the new file is closed, they are refused.
-/

namespace FileGateway.Gateway

variable {α : Type} {start gateway : Gateway} {step : GatewayStep} {steps : List GatewayStep}
  {address : UInt64} {file : OpenFile} {files : SortedMap UInt64 OpenFile}

/-! ## What opening does to the files -/

/-- An action that answers puts a file at an address and answers the address. One that fails puts none. -/
def Puts (address : UInt64) (files : SortedMap UInt64 OpenFile) (action : CallAction UInt64) : Prop :=
  ∀ gateway : Gateway, gateway.files = files → Leads action gateway
    (fun answer after => answer = address ∧ ∃ file, after.files = files.insert address file)
    (fun _ after => after.files = files)

theorem Moved.files_eq {used : Nat} {before after : Gateway} (moved : Moved (fun _ _ => False) used before after) :
    after.files = before.files :=
  SortedMap.ext_get? fun address => (moved.files address).resolve_right id

theorem Puts.after {used : Nat} {first : CallAction α} {next : α → CallAction UInt64}
    (moved : Within (Moved fun _ _ => False) used first) (rest : ∀ value, Puts address files (next value)) :
    Puts address files (first >>= next) := by
  intro gateway same
  have kept : Leads first gateway (fun _ after => after.files = files) (fun _ after => after.files = files) :=
    .of_within moved (fun _ _ still => still.files_eq.trans same) fun _ _ still => still.files_eq.trans same
  exact kept.bind fun value middle unchanged => rest value middle unchanged

theorem Puts.refuse (error : CallError) : Puts address files (refuse error) :=
  fun _ same => .of_error rfl same

theorem register_puts (thread : Nat) (direction : Direction) (stream : Reference) :
    Puts address files (openFile.register thread address direction stream) :=
  .after (onEngine_moved (Engine.promote_moved thread stream)) fun global gateway same =>
    .of_ok rfl ⟨rfl, ⟨global.raw, direction⟩, by rw [← same]⟩

theorem call_files {entry : EntryPoint} {inside : CallAction UInt64} (puts : Puts address gateway.files inside)
    (thread : Nat) : let result := call thread entry 0 inside gateway
    (result.1 = address ∧ ∃ file, result.2.files = gateway.files.insert address file) ∨
      (result.1 = 0 ∧ result.2.files = gateway.files) := by
  intro result
  have popped (after : Gateway) : (after.popped thread).files = after.files := (popped_moved thread after).files_eq
  have leads := puts (gateway.pushed thread) rfl
  simp only [result, call_run]
  split
  · next answer after ran =>
    obtain ⟨isAddress, file, put⟩ := leads.answer ran
    exact .inl ⟨isAddress, file, (popped after).trans put⟩
  · next failure after ran => exact .inr ⟨rfl, (popped after).trans (leads.failure ran)⟩

/-- Opening answers its address and puts a file there, or answers null and puts none. -/
theorem openFile_files (thread : Nat) (address fileSystem : UInt64) (path : Option Bytes) (flags bufferSize : Int32)
    (replication : Int16) (blockSize : Int32) (gateway : Gateway) :
    let result := openFile thread address fileSystem path flags bufferSize replication blockSize gateway
    (result.1 = address ∧ ∃ file, result.2.files = gateway.files.insert address file) ∨
      (result.1 = 0 ∧ result.2.files = gateway.files) := by
  refine call_files (.after (fileSystemArgument_within fileSystem) fun _ => .after (pathArgument_within _ path) fun _ =>
    .after (sizeArgument_within _ _) fun _ => .after (sizeArgument_within _ _) fun _ =>
    .after (sizeArgument_within _ _) fun _ => ?_) thread
  split
  · exact .after (onEngine_moved (Engine.keep_moved thread _ _ _)) fun stream => register_puts thread _ stream
  · exact .after (onEngine_moved (Engine.keep_moved thread _ _ _)) fun stream => register_puts thread _ stream
  · exact .refuse _

/-! ## The file at an address -/

end FileGateway.Gateway

namespace FileGateway

/-- The address that a step closes. -/
def GatewayStep.closes? : GatewayStep → Option UInt64
  | .native _ (.closeFile address) => some address
  | _ => none

namespace Gateway

variable {start gateway : Gateway} {step : GatewayStep} {steps : List GatewayStep} {address : UInt64}
  {file : OpenFile}

/-- The address of the file that a step opens. -/
def opened? (gateway : Gateway) : GatewayStep → Option UInt64
  | .native thread (.openFile address fileSystem path flags bufferSize replication blockSize) =>
    let answer := (openFile thread address fileSystem path flags bufferSize replication blockSize gateway).1
    if answer = 0 then none else some answer
  | _ => none

/-- Some step of a run gave out an address for a file, and no step since has closed it or given it out again. -/
inductive Reissued (start : Gateway) (address : UInt64) (file : OpenFile) : List GatewayStep → Prop
  | opened (before : List GatewayStep) (step : GatewayStep) (gives : (start.run before).opened? step = some address)
    (put : ((start.run before).after step).fileAt? address = some file) : Reissued start address file (before ++ [step])
  | kept (before : List GatewayStep) (step : GatewayStep) (still : Reissued start address file before)
    (notClosed : step.closes? ≠ some address) (notOpened : (start.run before).opened? step ≠ some address) :
    Reissued start address file (before ++ [step])

theorem fileAt?_of_closes (closed : step.closes? = some address) : (gateway.after step).fileAt? address = none := by
  cases step with
  | native thread call =>
    cases call with
    | closeFile other =>
      obtain rfl : other = address := Option.some.inj closed
      exact fileAt?_closeFile thread other gateway
    | _ => cases closed
  | _ => cases closed

/-- What neither opens nor closes a file at an address leaves the one there alone. -/
theorem fileAt?_of_other (notClosed : step.closes? ≠ some address) (notOpened : gateway.opened? step ≠ some address) :
    (gateway.after step).fileAt? address = gateway.fileAt? address := by
  have fated := (after_moved gateway step).files address
  rw [fileAt?, fileAt?]
  split
  · rfl
  · next notNull =>
    refine fated.elim id fun fated => ?_
    cases step with
    | native thread call =>
      cases call with
      | openFile given fileSystem path flags bufferSize replication blockSize =>
        obtain rfl : address = given := fated.1
        rcases openFile_files thread address fileSystem path flags bufferSize replication blockSize gateway with
          ⟨isGiven, -⟩ | ⟨-, same⟩
        · simp [opened?, isGiven, notNull] at notOpened
        · exact congrArg (·.get? address) same
      | closeFile other => exact absurd (congrArg some fated.1.symm) notClosed
      | _ => exact fated.elim
    | _ => exact fated.elim

/-- After a run the file at an address that had none is the one that was opened there last and not closed since. -/
theorem fileAt?_run_iff (free : start.fileAt? address = none) :
    (start.run steps).fileAt? address = some file ↔ Reissued start address file steps := by
  constructor
  · intro found
    induction steps using List.reverseRecOn with
    | nil => cases free.symm.trans found
    | append_singleton before step ih =>
      rw [run_append] at found
      by_cases closed : step.closes? = some address
      · cases (fileAt?_of_closes closed).symm.trans found
      · by_cases opened : (start.run before).opened? step = some address
        · exact .opened before step opened found
        · exact .kept before step (ih ((fileAt?_of_other closed opened).symm.trans found)) closed opened
  · intro reissued
    induction reissued with
    | opened before step gives put =>
      rw [run_append]
      exact put
    | kept before step still notClosed notOpened ih =>
      rw [run_append]
      exact (fileAt?_of_other notClosed notOpened).trans ih

/-! ## Calls with the handle of a closed file -/

theorem closeFile_refused (sound : gateway.Sound) (dead : gateway.fileAt? address = none) (thread : Nat) :
    Refused thread .invalidHandle gateway ((closeFile thread address gateway).map (·.toInt) id) := by
  have refuses : Refuses (lookup address) .invalidHandle (gateway.pushed thread) := by
    refine ⟨_, (lookup_run address (gateway.pushed thread)).trans (by rw [show (gateway.pushed thread).fileAt? address
      = none from dead]), fun entry => ?_⟩
    rw [errorOf]
    split <;> rfl
  obtain ⟨error, isKind, ran⟩ := call_of_refuses .closeFile (-1 : Int32) sound refuses.bind
  rw [closeFile, ran]
  refine ⟨rfl, ⟨error, ?_, isKind⟩, untouched_record error⟩
  change ((gateway.errors.insert thread (.record error)).get? thread).getD .none = _
  rw [SortedMap.get?_insert, if_pos rfl]
  rfl

/-- After a file was closed every call with its address is refused as an invalid handle, exactly as long as its
address is not given out again. Once it is, calls with it reach the stream of the file that got it. -/
theorem refused_iff_not_reissued (storage : Storage) (conf : Configuration) (before later : List GatewayStep)
    (closer : Nat) (address : UInt64) :
    let closed := ((new (.new storage conf)).run before).after (.native closer (.closeFile address))
    let gateway := closed.run later
    ((∀ thread fileSystem (call : FileCall),
          Refused thread .invalidHandle gateway (call.ask thread fileSystem address gateway)) ∧
        (∀ thread, Refused thread .invalidHandle gateway ((closeFile thread address gateway).map (·.toInt) id)) ↔
      ¬∃ file, Reissued closed address file later) ∧
    ∀ file, Reissued closed address file later → ∀ thread fileSystem (call : FileCall),
      (file.direction ≠ call.direction →
        Refused thread .invalidState gateway (call.ask thread fileSystem address gateway)) ∧
      (file.direction = call.direction → gateway.Connected fileSystem → ∃ stream, stream.raw = file.stream ∧
        streamArgument thread call.entry fileSystem address call.direction gateway = .ok stream gateway) := by
  intro closed gateway
  have sound : gateway.Sound := (((sound_new storage conf).run before).after _).run later
  have free : closed.fileAt? address = none := fileAt?_closeFile closer address _
  have live {file : OpenFile} : gateway.fileAt? address = some file ↔ Reissued closed address file later :=
    fileAt?_run_iff free
  constructor
  · constructor
    · -- A file that was opened there is taken away by closing, which is more than a refusal does.
      rintro ⟨-, closing⟩ ⟨file, reissued⟩
      have gone := fileAt?_closeFile 0 address gateway
      have same : (closeFile 0 address gateway).2.files = gateway.files := (closing 0).untouched.files
      rw [fileAt?, same, ← fileAt?, live.mpr reissued] at gone
      cases gone
    · intro unissued
      have dead : gateway.fileAt? address = none := by
        by_contra found
        obtain ⟨file, found⟩ := Option.ne_none_iff_exists'.mp found
        exact unissued ⟨file, live.mp found⟩
      exact ⟨fun thread fileSystem call => ask_refused sound call (streamArgument_of_dead dead),
        closeFile_refused sound dead⟩
  · intro file reissued thread fileSystem call
    have found := live.mpr reissued
    have streamed : file.stream ≠ 0 := by
      rw [fileAt?] at found
      split at found
      · cases found
      · exact sound.streamed found
    exact ⟨fun other => ask_refused sound call (streamArgument_of_direction found streamed other),
      fun same connected => ⟨_, rfl, streamArgument_of_connected sound found streamed same connected⟩⟩

/-- A file is written and closed, and the next one is opened at the address that became free. -/
def reopening : List GatewayStep :=
  [.request (.startCluster "nn:1" .default ["dn"] 1), .request (.joinCluster 0), .hand 0 (.fileSystem 0),
    .native 0 (.convertToGlobalRef 0x100000000),
    .native 0 (.openFile 4096 0x100000001 (some [47, 102]) writeFlag 0 0 0),
    .native 0 (.closeFile 4096),
    .native 0 (.openFile 4096 0x100000001 (some [47, 103]) writeFlag 0 0 0)]

/-- The handle of the first file is not asked for its position because the second is open for writing, and a
flush with it gets to the stream of the second. -/
theorem refused_iff_not_reissued_reopening :
    let closed := ((new (.new (.new 0 (.new 0 .root 0 0)) .default)).run (reopening.take 5)).after
      (.native 0 (.closeFile 4096))
    let gateway := closed.run (reopening.drop 6)
    Reissued closed 4096 ⟨0x200000003, .writing⟩ (reopening.drop 6) ∧
      Refused 0 .invalidState gateway (FileCall.tell.ask 0 0x100000001 4096 gateway) ∧
      gateway.Connected 0x100000001 ∧
      streamArgument 0 .flush 0x100000001 4096 .writing gateway = .ok ⟨0x200000003, by decide⟩ gateway := by
  intro closed gateway
  have reissued : Reissued closed 4096 ⟨0x200000003, .writing⟩ (reopening.drop 6) :=
    .opened [] (.native 0 (.openFile 4096 0x100000001 (some [47, 103]) writeFlag 0 0 0))
      (by decide +kernel) (by decide +kernel)
  have connected : gateway.Connected 0x100000001 := ⟨⟨0x100000001, by decide⟩, 0, rfl, by decide +kernel⟩
  have reaches := (refused_iff_not_reissued (.new 0 (.new 0 .root 0 0)) .default (reopening.take 5)
    (reopening.drop 6) 0 4096).2 _ reissued 0 0x100000001
  obtain ⟨⟨raw, nonzero⟩, same, reached⟩ := (reaches .flush).2 rfl connected
  cases same
  exact ⟨reissued, (reaches .tell).1 (by decide), connected, reached⟩

/-- Every address was free when it was given out, the first file was closed, and yet a write with its handle is
not refused: its byte is accepted for the second file. -/
theorem closed_handle_writes_to_new_file :
    let start := new (.new (.new 0 (.new 0 .root 0 0)) .default)
    let opened := start.run (reopening.take 5)
    let gateway := start.run reopening
    let result := (FileCall.write (some [120]) 1).ask 0 0x100000001 4096 gateway
    Throughout Placed start reopening ∧
      reopening = reopening.take 5 ++ .native 0 (.closeFile 4096) :: reopening.drop 6 ∧
      opened.fileAt? 4096 = some ⟨0x200000001, .writing⟩ ∧ (closeFile 0 4096 opened).1 = 0 ∧
      result.1 = 1 ∧ ¬Refused 0 .invalidHandle gateway result := by
  intro start opened gateway result
  have accepted : result.1 = 1 := by decide +kernel
  refine ⟨⟨nofun, nofun, nofun, nofun, ?_, nofun, ?_, trivial⟩, rfl, by decide +kernel, by decide +kernel,
    accepted, fun refused => ?_⟩
  · rintro _ ⟨⟩
    exact ⟨by decide, by decide +kernel⟩
  · rintro _ ⟨⟩
    exact ⟨by decide, by decide +kernel⟩
  · rw [refused.answer] at accepted
    contradiction

end Gateway

end FileGateway
