import FileGateway.Proofs.Gateway.Replies

/-! # What calls report

Nothing but the recorder at the end of a call touches the recorded errors, and what an inside answers is neither
null nor negative: zero where there is no value, a word of a reference or the address of a file, a number that was
checked to fit or was cut to fit. The one exception is an empty listing.
-/

namespace FileGateway

/-- A size is cut to fit, and a replication always fits. -/
theorem FileInfo.measured_of_status {status : FileStatus} {info : FileInfo}
    (given : FileInfo.ofStatus status = .ok info) : info.Measured := by
  rw [ofStatus] at given
  cases named : nativeText status.path.display with
  | error error =>
    rw [named] at given
    cases given
  | ok name =>
    rw [named] at given
    cases given
    have cut : min status.size (Gateway.offsetLimit - 1) < Gateway.offsetLimit :=
      (min_le_right _ _).trans_lt (Nat.sub_one_lt (by decide))
    have narrow : status.replication.toNat < Gateway.sizeLimit :=
      status.replication.toNat_lt.trans (by decide)
    constructor
    · exact (Int64.toInt_ofNat_of_lt cut).symm ▸ Int.natCast_nonneg _
    · exact (Int32.toInt_ofNat_of_lt narrow).symm ▸ Int.natCast_nonneg _

/-- There is a record for each status. -/
theorem FileInfo.measured_of_statuses {statuses : List FileStatus} {infos : List FileInfo}
    (given : statuses.mapM FileInfo.ofStatus = .ok infos) :
    infos.length = statuses.length ∧ ∀ info ∈ infos, info.Measured := by
  induction statuses generalizing infos with
  | nil =>
    cases given
    exact ⟨rfl, by simp⟩
  | cons status rest ih =>
    rw [List.mapM_cons] at given
    cases first : FileInfo.ofStatus status with
    | error error =>
      rw [first] at given
      cases given
    | ok info =>
      rw [first] at given
      cases others : rest.mapM FileInfo.ofStatus with
      | error error =>
        simp only [others] at given
        cases given
      | ok later =>
        simp only [others] at given
        cases given
        obtain ⟨counted, measured⟩ := ih others
        exact ⟨congrArg (· + 1) counted, List.forall_mem_cons.mpr ⟨measured_of_status first, measured⟩⟩

namespace Gateway

variable {α β : Type} {good : α → Prop} {goodNext : β → Prop} {value : α} {thread : Nat}

/-- The recorded errors stay as they are. -/
def Silent (_ : Nat) (before after : Gateway) : Prop := after.errors = before.errors

instance : Metered Silent where
  refl _ := rfl
  trans one two := Eq.trans two one
  weaken one _ := one

theorem onEngine_silent (action : EngineAction α) : Within Silent 0 (onEngine action) := by
  intro gateway
  rw [onEngine]
  cases action gateway.engine <;> rfl

theorem onStorage_silent (action : Action α) : Within Silent 0 (onStorage action) := onEngine_silent _

/-- Whether it answers or fails, an inside leaves the recorded errors alone, and what it answers is good. -/
def Reports (good : α → Prop) (inside : CallAction α) : Prop :=
  ∀ gateway, Leads inside gateway (fun value after => good value ∧ after.errors = gateway.errors)
    (fun _ after => after.errors = gateway.errors)

namespace Reports

theorem of_within {inside : CallAction α} (silent : Within Silent 0 inside) : Reports (fun _ => True) inside :=
  fun _ => .of_within silent (fun _ _ same => ⟨trivial, same⟩) fun _ _ same => same

protected theorem pure (isGood : good value) : Reports good (pure value) := fun _ => .of_ok rfl ⟨isGood, rfl⟩

protected theorem refuse (error : CallError) : Reports good (refuse error) := fun _ => .of_error rfl rfl

theorem imp {better : α → Prop} {inside : CallAction α} (reports : Reports better inside)
    (isGood : ∀ value, better value → good value) : Reports good inside := fun gateway =>
  (reports gateway).imp (fun value _ answered => ⟨isGood value answered.1, answered.2⟩) fun _ _ same => same

theorem bind {first : CallAction α} {next : α → CallAction β} (reports : Reports good first)
    (rest : ∀ value, good value → Reports goodNext (next value)) : Reports goodNext (first >>= next) := by
  intro gateway
  refine (reports gateway).bind fun value middle ⟨isGood, same⟩ => ?_
  refine (rest value isGood middle).imp (fun _ after ⟨last, sameAfter⟩ => ⟨last, ?_⟩) fun _ after sameAfter => ?_
  all_goals exact sameAfter.trans same

/-- What says nothing about its answer may come first. -/
theorem after {first : CallAction α} {next : α → CallAction β} (silent : Within Silent 0 first)
    (rest : ∀ value, Reports goodNext (next value)) : Reports goodNext (first >>= next) :=
  (of_within silent).bind fun value _ => rest value

/-- What is refused on some condition goes on only without it. -/
theorem guarded {condition : Prop} {_ : Decidable condition} {error : CallError} {next : PUnit → CallAction α}
    (goesOn : ¬condition → Reports good (next .unit)) :
    Reports good (if condition then refuse error >>= next else next .unit) := by
  split
  · have never : Reports (fun _ : PUnit => False) (refuse error) := .refuse error
    exact never.bind fun _ absurd => absurd.elim
  · next fails => exact goesOn fails

end Reports

/-! ## Parts of calls -/

theorem sizeResult_reports (value : Nat) : Reports (fun number => 0 ≤ number.toInt) (sizeResult value) := by
  rw [sizeResult]
  split
  · next fits => exact .pure ((Int32.toInt_ofNat_of_lt fits).symm ▸ Int.natCast_nonneg _)
  · exact .refuse _

theorem offsetResult_reports (value : Nat) : Reports (fun number => 0 ≤ number.toInt) (offsetResult value) := by
  rw [offsetResult]
  split
  · next fits => exact .pure ((Int64.toInt_ofNat_of_lt fits).symm ▸ Int.natCast_nonneg _)
  · exact .refuse _

theorem orRefuse_reports {outcome : Except CallError α} (answers : ∀ value, outcome = .ok value → good value) :
    Reports good (orRefuse outcome) := by
  cases outcome with
  | ok value => exact .pure (answers value rfl)
  | error error => exact .refuse error

/-- Calls without a value of their own give zero. -/
theorem zero_reports {first : CallAction α} (silent : Within Silent 0 first) :
    Reports (fun number : Int32 => 0 ≤ number.toInt) (do let _ ← first; return 0) :=
  .after silent fun _ => .pure (by decide)

theorem promote_reports (thread : Nat) (reference : Reference) :
    Reports (· ≠ 0) (do return (← onEngine (Engine.promote thread reference)).raw) :=
  .after (onEngine_silent _) fun global => .pure global.nonzero

theorem register_reports {address : UInt64} (nonzero : address ≠ 0) (direction : Direction) (stream : Reference) :
    Reports (· ≠ 0) (openFile.register thread address direction stream) :=
  .after (onEngine_silent _) fun _ => .after (.modify fun _ => rfl) fun _ => .pure nonzero

theorem readWith_reports (buffered : Bool) (length : Nat) (stream : Reference) (action : Nat → Action ReadResult) :
    Reports (fun answer => 0 ≤ answer.1.toInt) (readWith thread buffered length stream action) := by
  rw [readWith]
  split
  · exact .pure (by decide)
  · exact .guarded fun _ => .after (cast_within _ _ _ _) fun _ => .after (onStorage_silent _) fun _ =>
      .bind (sizeResult_reports _) fun _ fits => .pure fits

end Gateway

namespace NativeCall

open Gateway

variable {thread : Nat}

/-- What the inside of an entry point answers is good as native code reads it, and the recorded errors are as they
were however it ends. -/
def Anatomy.Reports {reply : Gateway → Reply × Gateway} (parts : Anatomy thread reply) (good : Reply → Prop) : Prop :=
  Gateway.Reports (fun value => good (parts.read value)) parts.inside

theorem transfer_reports (entry : EntryPoint) (deleteSource : Bool) (sourceSystem : UInt64) (source : Option Bytes)
    (targetSystem : UInt64) (target : Option Bytes) : (⟨Int32, entry, -1, _, (.number ·.toInt), fun _ => rfl⟩ :
      Anatomy thread fun gateway =>
        (transfer thread entry deleteSource sourceSystem source targetSystem target gateway).map
          (.number ·.toInt) id).Reports Reply.IsProper :=
  .after (clientArgument_within thread _) fun _ => .after (clientArgument_within thread _) fun _ =>
  .after (pathArgument_within _ _) fun _ => .after (pathArgument_within _ _) fun _ => .after .get fun _ =>
  zero_reports (onStorage_silent _)

theorem onPath_reports {entry : EntryPoint} {fileSystem : UInt64} {path : Option Bytes}
    {inside : Nat → Path → CallAction Unit} (silent : ∀ client path, Within Silent 0 (inside client path)) :
    (⟨Int32, entry, -1, _, (.number ·.toInt), fun _ => rfl⟩ : Anatomy thread fun gateway =>
      (onPath thread entry fileSystem path inside gateway).map (.number ·.toInt) id).Reports Reply.IsProper :=
  .after (clientArgument_within thread _) fun client => .after (pathArgument_within _ _) fun path =>
  zero_reports (silent client path)

theorem onFile_reports (fileSystem address : UInt64) (call : FileCall) :
    ((onFile fileSystem address call).anatomy thread trivial).Reports Reply.IsProper := by
  cases call with
  | read buffered length =>
    exact .after (streamArgument_within _ _ _ _ _) fun _ => .after (sizeArgument_within _ _) fun _ =>
      readWith_reports _ _ _ _
  | pread position buffered length =>
    exact .after (streamArgument_within _ _ _ _ _) fun _ => .after (sizeArgument_within _ _) fun _ =>
      .after (sizeArgument_within _ _) fun _ => readWith_reports _ _ _ _
  | write buffer length =>
    refine .after (streamArgument_within _ _ _ _ _) fun _ => .after (sizeArgument_within _ _) fun _ => ?_
    split
    · exact .pure (show 0 ≤ (0 : Int32).toInt by decide)
    · split
      · exact .refuse _
      · exact .after (cast_within _ _ _ _) fun _ => .after (onStorage_silent _) fun _ => sizeResult_reports _
  | seek position =>
    exact .after (streamArgument_within _ _ _ _ _) fun _ => .after (sizeArgument_within _ _) fun _ =>
      .after (cast_within _ _ _ _) fun _ => zero_reports (onStorage_silent _)
  | tell =>
    exact .after (streamArgument_within _ _ _ _ _) fun _ => .after (cast_within _ _ _ _) fun _ =>
      .after (onStorage_silent _) fun _ => offsetResult_reports _
  | flush =>
    exact .after (streamArgument_within _ _ _ _ _) fun _ => .after (cast_within _ _ _ _) fun _ =>
      zero_reports (onStorage_silent _)
  | available =>
    refine .after (streamArgument_within _ _ _ _ _) fun _ => .after (cast_within _ _ _ _) fun _ =>
      .after (onStorage_silent _) fun available => .pure ?_
    -- More than fits is cut to the largest number.
    have cut : min available (sizeLimit - 1) < sizeLimit :=
      (min_le_right _ _).trans_lt (Nat.sub_one_lt (by decide))
    have counted : (0 : Int) ≤ (min available (sizeLimit - 1) : Nat) := Int.natCast_nonneg _
    rwa [← Int32.toInt_ofNat_of_lt cut] at counted

theorem disconnect_reports (fileSystem : UInt64) :
    ((disconnect fileSystem).anatomy thread trivial).Reports Reply.IsProper :=
  .after (fileSystemArgument_within _) fun _ => .after (cast_within _ _ _ _) fun _ =>
  .after (attempt_within (onStorage_silent _)) fun _ => .after (onEngine_silent _) fun _ =>
  zero_reports (answerOf_within _)

theorem getWorkingDirectory_reports (fileSystem : UInt64) (buffered : Bool) (size : UInt64) :
    ((getWorkingDirectory fileSystem buffered size).anatomy thread trivial).Reports Reply.IsProper := by
  dsimp only [Anatomy.Reports, anatomy]
  refine .guarded fun _ => ?_
  refine .after (clientArgument_within _ _) fun _ => .after (onStorage_silent _) fun _ => .guarded fun _ => ?_
  exact .pure (Option.some_ne_none _)

theorem openFile_reports {address : UInt64} (nonzero : address ≠ 0) (fileSystem : UInt64) (path : Option Bytes)
    (flags bufferSize : Int32) (replication : Int16) (blockSize : Int32) :
    ((openFile address fileSystem path flags bufferSize replication blockSize).anatomy thread trivial).Reports
      Reply.IsProper := by
  refine .after (fileSystemArgument_within _) fun _ => .after (pathArgument_within _ _) fun _ =>
    .after (sizeArgument_within _ _) fun _ => .after (sizeArgument_within _ _) fun _ =>
    .after (sizeArgument_within _ _) fun _ => ?_
  split
  · exact .after (onEngine_silent _) fun _ => register_reports nonzero _ _
  · exact .after (onEngine_silent _) fun _ => register_reports nonzero _ _
  · exact .refuse _

theorem closeFile_reports (address : UInt64) :
    ((closeFile address).anatomy thread trivial).Reports Reply.IsProper := by
  refine .after (lookup_within _) fun file => .after (.modify fun _ => rfl) fun _ => ?_
  split
  · exact .refuse _
  · have closing {action : CallAction Unit} (silent : Within Silent 0 action) : Within Silent 0 (attempt action) :=
      attempt_within silent
    exact .after
      (closing (closeBy_within (fun _ => onStorage_silent _) (fun _ => onStorage_silent _) _ _ _)) fun closed =>
      .after (closing (onEngine_silent _)) fun released => .after (answerOf_within closed) fun _ =>
      zero_reports (answerOf_within released)

theorem getPathInfo_reports (fileSystem : UInt64) (path : Option Bytes) :
    ((getPathInfo fileSystem path).anatomy thread trivial).Reports Reply.IsProper :=
  .after (fileSystemArgument_within _) fun _ => .after (pathArgument_within _ _) fun _ =>
  .after (onEngine_silent _) fun _ => .after (cast_within _ _ _ _) fun _ =>
  .bind (orRefuse_reports fun _ => FileInfo.measured_of_status) fun info measured =>
  .pure ⟨[info], rfl, List.forall_mem_singleton.mpr measured⟩

theorem listDirectory_reports (fileSystem : UInt64) (path : Option Bytes) (counted : Bool) :
    ((listDirectory fileSystem path counted).anatomy thread trivial).Reports fun reply =>
      reply.IsProper ∨ counted = true ∧ reply = .listing (some 0) none := by
  dsimp only [Anatomy.Reports, anatomy]
  refine .guarded fun isCounted => ?_
  obtain rfl : counted = true := by simpa using isCounted
  simp only [↓reduceIte]
  refine .after (fileSystemArgument_within _) fun _ => .after (pathArgument_within _ _) fun _ =>
    .after (onEngine_silent _) fun _ => .after (cast_within _ _ _ _) fun statuses => ?_
  split
  · exact .pure (Or.inr ⟨trivial, rfl⟩)
  · next occupied =>
    refine .guarded fun few => ?_
    refine .bind (orRefuse_reports fun infos => FileInfo.measured_of_statuses) ?_
    rintro infos ⟨counted, measured⟩
    refine .pure (Or.inl ⟨infos, rfl, ?_, measured, ?_⟩)
    · rintro rfl
      exact occupied (List.isEmpty_iff.mpr (List.length_eq_zero_iff.mp counted.symm))
    · rintro stored same
      cases same
      have fits : infos.length < sizeLimit := counted ▸ not_le.mp few
      exact Int32.toInt_ofNat_of_lt fits

theorem getHosts_reports (fileSystem : UInt64) (path : Option Bytes) (start length : Int64) :
    ((getHosts fileSystem path start length).anatomy thread trivial).Reports Reply.IsProper :=
  .after (fileSystemArgument_within _) fun _ => .after (pathArgument_within _ _) fun _ =>
  .after (sizeArgument_within _ _) fun _ => .after (sizeArgument_within _ _) fun _ =>
  .after (onEngine_silent _) fun _ => .after (cast_within _ _ _ _) fun _ =>
  .after (orRefuse_within _) fun _ => .pure (Option.some_ne_none _)

/-- What an entry point answers is neither null nor negative, but for the null of an empty listing. -/
theorem reports (call : NativeCall) (valued : call.Valued)
    (placed : ∀ address, (GatewayStep.native thread call).opens? = some address → address ≠ 0) :
    (call.anatomy thread valued).Reports fun reply => reply.IsProper ∨
      ∃ fileSystem path, call = .listDirectory fileSystem path true ∧ reply = .listing (some 0) none := by
  have properly {call : NativeCall} {valued : call.Valued}
      (reports : (call.anatomy thread valued).Reports Reply.IsProper) :
      (call.anatomy thread valued).Reports fun reply => reply.IsProper ∨
        ∃ fileSystem path, call = .listDirectory fileSystem path true ∧ reply = .listing (some 0) none :=
    Gateway.Reports.imp reports fun _ => .inl
  cases call with
  | listDirectory fileSystem path counted =>
    refine Gateway.Reports.imp (listDirectory_reports fileSystem path counted) fun _ => .imp_right ?_
    rintro ⟨rfl, same⟩
    exact ⟨fileSystem, path, rfl, same⟩
  | connect host port =>
    exact properly (.after (target_within _ _) fun _ => .after (onEngine_silent _) fun _ => promote_reports _ _)
  | disconnect => exact properly (disconnect_reports _)
  | copy | move => exact properly (transfer_reports _ _ _ _ _ _)
  | delete | lock | releaseLock | setWorkingDirectory | createDirectory =>
    exact properly (onPath_reports fun _ _ => onStorage_silent _)
  | exist =>
    refine properly (onPath_reports fun _ _ => .after (onStorage_silent _) fun present => ?_)
    split
    · exact .pure _
    · exact refuse_within _
  | setReplication =>
    exact properly (onPath_reports fun _ _ => .guarded (refuse_within _) (onStorage_silent _))
  | rename =>
    exact properly (.after (clientArgument_within _ _) fun _ => .after (pathArgument_within _ _) fun _ =>
      .after (pathArgument_within _ _) fun _ => zero_reports (onStorage_silent _))
  | getWorkingDirectory => exact properly (getWorkingDirectory_reports _ _ _)
  | getDefaultBlockSize | getCapacity | getUsed =>
    exact properly (.after (clientArgument_within _ _) fun _ => .after (onStorage_silent _) fun _ =>
      offsetResult_reports _)
  | openFile => exact properly (openFile_reports (placed _ rfl) _ _ _ _ _ _)
  | closeFile => exact properly (closeFile_reports _)
  | onFile => exact properly (onFile_reports _ _ _)
  | getPathInfo => exact properly (getPathInfo_reports _ _)
  | getHosts => exact properly (getHosts_reports _ _ _ _)
  | convertToGlobalRef =>
    exact properly (.after (referenceArgument_within _) fun _ => promote_reports _ _)
  | deleteGlobalRef | lastErrorCode | lastErrorLength | lastErrorMessage | setupTracing => exact valued.elim

/-- What stands for a failure is null or minus one. -/
theorem sentinel_reads (call : NativeCall) (valued : call.Valued) :
    let parts := call.anatomy thread valued
    (parts.read parts.sentinel).IsSentinel := by
  cases call with
  | onFile fileSystem address call => cases call <;> rfl
  | deleteGlobalRef | lastErrorCode | lastErrorLength | lastErrorMessage | setupTracing => exact valued.elim
  | _ => rfl

end NativeCall

end FileGateway
