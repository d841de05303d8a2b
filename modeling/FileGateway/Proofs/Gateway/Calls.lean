import FileGateway.Proofs.Gateway.Effects
import FileGateway.Proofs.Storage.Kept

/-! # Runs of native calls

A run is any sequence of calls of native code on any threads, with arguments from anywhere, and of what
happens meanwhile around the gateway. Each step makes one call on the global table at most, so a slot is
released at most once in a step, which shows in its generation.
-/

namespace FileGateway

/-- A call on an open file, without the filesystem and the file. -/
inductive FileCall
  | read (buffered : Bool) (length : Int32)
  | pread (position : Int64) (buffered : Bool) (length : Int32)
  | write (buffer : Option Bytes) (length : Int32)
  | seek (position : Int64)
  | tell
  | flush
  | available
deriving DecidableEq, Repr

namespace FileCall

/-- The direction that the file has to be open in. -/
def direction : FileCall → Direction
  | read _ _ | pread _ _ _ | seek _ | tell | available => .reading
  | write _ _ | flush => .writing

def entry : FileCall → EntryPoint
  | read _ _ => .read
  | pread _ _ _ => .pread
  | write _ _ => .write
  | seek _ => .seek
  | tell => .tell
  | flush => .flush
  | available => .available

/-- The number that a call gives, and what it leaves. -/
def ask (thread : Nat) (fileSystem address : UInt64) : FileCall → Gateway → Int × Gateway
  | read buffered length, gateway =>
    (Gateway.read thread fileSystem address buffered length gateway).map (·.1.toInt) id
  | pread position buffered length, gateway =>
    (Gateway.pread thread fileSystem address position buffered length gateway).map (·.1.toInt) id
  | write buffer length, gateway =>
    (Gateway.write thread fileSystem address buffer length gateway).map (·.toInt) id
  | seek position, gateway => (Gateway.seek thread fileSystem address position gateway).map (·.toInt) id
  | tell, gateway => (Gateway.tell thread fileSystem address gateway).map (·.toInt) id
  | flush, gateway => (Gateway.flush thread fileSystem address gateway).map (·.toInt) id
  | available, gateway => (Gateway.available thread fileSystem address gateway).map (·.toInt) id

end FileCall

/-- What native code calls, with the address that the allocator gives out for an opened file. -/
inductive NativeCall
  | connect (host : Option Bytes) (port : UInt16)
  | disconnect (fileSystem : UInt64)
  | copy (sourceSystem : UInt64) (source : Option Bytes) (targetSystem : UInt64) (target : Option Bytes)
  | move (sourceSystem : UInt64) (source : Option Bytes) (targetSystem : UInt64) (target : Option Bytes)
  | delete (fileSystem : UInt64) (path : Option Bytes)
  | rename (fileSystem : UInt64) (source target : Option Bytes)
  | exist (fileSystem : UInt64) (path : Option Bytes)
  | lock (fileSystem : UInt64) (path : Option Bytes) (shared : Int32)
  | releaseLock (fileSystem : UInt64) (path : Option Bytes)
  | setWorkingDirectory (fileSystem : UInt64) (path : Option Bytes)
  | createDirectory (fileSystem : UInt64) (path : Option Bytes)
  | setReplication (fileSystem : UInt64) (path : Option Bytes) (replication : Int16)
  | getWorkingDirectory (fileSystem : UInt64) (buffered : Bool) (size : UInt64)
  | getDefaultBlockSize (fileSystem : UInt64)
  | getCapacity (fileSystem : UInt64)
  | getUsed (fileSystem : UInt64)
  | openFile (address fileSystem : UInt64) (path : Option Bytes) (flags bufferSize : Int32)
    (replication : Int16) (blockSize : Int32)
  | closeFile (address : UInt64)
  | onFile (fileSystem address : UInt64) (call : FileCall)
  | getPathInfo (fileSystem : UInt64) (path : Option Bytes)
  | listDirectory (fileSystem : UInt64) (path : Option Bytes) (counted : Bool)
  | getHosts (fileSystem : UInt64) (path : Option Bytes) (start length : Int64)
  | convertToGlobalRef (word : UInt64)
  | deleteGlobalRef (word : UInt64)
  | lastErrorCode
  | lastErrorLength
  | lastErrorMessage (buffered : Bool) (length : Int32)
  | setupTracing
deriving DecidableEq, Repr

namespace NativeCall

/-- The gateway after a call of a thread. -/
def serve (thread : Nat) (gateway : Gateway) : NativeCall → Gateway
  | connect host port => (Gateway.connect thread host port gateway).2
  | disconnect fileSystem => (Gateway.disconnect thread fileSystem gateway).2
  | copy sourceSystem source targetSystem target =>
    (Gateway.copy thread sourceSystem source targetSystem target gateway).2
  | move sourceSystem source targetSystem target =>
    (Gateway.move thread sourceSystem source targetSystem target gateway).2
  | delete fileSystem path => (Gateway.delete thread fileSystem path gateway).2
  | rename fileSystem source target => (Gateway.rename thread fileSystem source target gateway).2
  | exist fileSystem path => (Gateway.exist thread fileSystem path gateway).2
  | lock fileSystem path shared => (Gateway.lock thread fileSystem path shared gateway).2
  | releaseLock fileSystem path => (Gateway.releaseLock thread fileSystem path gateway).2
  | setWorkingDirectory fileSystem path => (Gateway.setWorkingDirectory thread fileSystem path gateway).2
  | createDirectory fileSystem path => (Gateway.createDirectory thread fileSystem path gateway).2
  | setReplication fileSystem path replication =>
    (Gateway.setReplication thread fileSystem path replication gateway).2
  | getWorkingDirectory fileSystem buffered size =>
    (Gateway.getWorkingDirectory thread fileSystem buffered size gateway).2
  | getDefaultBlockSize fileSystem => (Gateway.getDefaultBlockSize thread fileSystem gateway).2
  | getCapacity fileSystem => (Gateway.getCapacity thread fileSystem gateway).2
  | getUsed fileSystem => (Gateway.getUsed thread fileSystem gateway).2
  | openFile address fileSystem path flags bufferSize replication blockSize =>
    (Gateway.openFile thread address fileSystem path flags bufferSize replication blockSize gateway).2
  | closeFile address => (Gateway.closeFile thread address gateway).2
  | onFile fileSystem address call => (call.ask thread fileSystem address gateway).2
  | getPathInfo fileSystem path => (Gateway.getPathInfo thread fileSystem path gateway).2
  | listDirectory fileSystem path counted => (Gateway.listDirectory thread fileSystem path counted gateway).2
  | getHosts fileSystem path start length => (Gateway.getHosts thread fileSystem path start length gateway).2
  | convertToGlobalRef word => (Gateway.convertToGlobalRef thread word gateway).2
  | deleteGlobalRef word => (Gateway.deleteGlobalRef thread word gateway).2
  | lastErrorCode => (Gateway.lastErrorCode thread gateway).2
  | lastErrorLength => (Gateway.lastErrorLength thread gateway).2
  | lastErrorMessage buffered length => (Gateway.lastErrorMessage thread buffered length gateway).2
  | setupTracing => (Gateway.setupTracing gateway).2

/-- What may become of the file at an address: opening puts one there, and closing takes it away. -/
def fate : NativeCall → UInt64 → Option OpenFile → Prop
  | openFile address .., other, file =>
    other = address ∧ ∃ (stream : Reference) (direction : Direction), file = some ⟨stream.raw, direction⟩
  | closeFile address, other, file => other = address ∧ file = none
  | _, _, _ => False

end NativeCall

/-- What happens to a gateway: calls of native code, and what goes on around them. Others use the storage,
addresses become known or forgotten, the configuration changes, objects are put into local references
for native code to convert, errors are recorded or taken from outside, and threads end. -/
inductive GatewayStep
  | native (thread : Nat) (call : NativeCall)
  | request (request : Request)
  | register (authority : String) (factory : Factory)
  | unregister (authority : String)
  | configure (conf : Configuration)
  | hand (thread : Nat) (object : Object)
  | takeError (thread : Nat)
  | recordError (thread : Nat) (error : CallError)
  | endThread (thread : Nat)
deriving DecidableEq, Repr

namespace Gateway

variable {α : Type} {thread : Nat}

/-- The gateway after something was done to the engine by itself. -/
def doing (gateway : Gateway) (action : EngineAction α) : Gateway :=
  { gateway with engine := ended (action gateway.engine) }

def after (gateway : Gateway) : GatewayStep → Gateway
  | .native thread call => call.serve thread gateway
  | .request request => gateway.doing (Engine.onStorage (Storage.serve request))
  | .register authority factory => gateway.doing (Engine.register authority factory)
  | .unregister authority => gateway.doing (Engine.unregister authority)
  | .configure conf => gateway.doing (Engine.setConfiguration conf)
  | .hand thread object => gateway.doing (Engine.newLocal thread object)
  | .takeError thread => (takeLastError thread gateway).2
  | .recordError thread error => (updateLastError thread error gateway).2
  | .endThread thread => gateway.doing (Engine.endThread thread)

def run (gateway : Gateway) (steps : List GatewayStep) : Gateway := steps.foldl after gateway

end Gateway

def GatewayStep.fate : GatewayStep → UInt64 → Option OpenFile → Prop
  | .native _ call => call.fate
  | _ => fun _ _ => False

/-- The address that a step may give out for a file. -/
def GatewayStep.opens? : GatewayStep → Option UInt64
  | .native _ (.openFile address ..) => some address
  | _ => none

/-- Most calls make no global reference and give none up, and open and close no file. -/
def NativeCall.Quiet : NativeCall → Prop
  | connect .. | disconnect .. | openFile .. | closeFile .. | convertToGlobalRef .. | deleteGlobalRef .. => False
  | _ => True

namespace Gateway

variable {gateway : Gateway} {address : UInt64} {fate : UInt64 → Option OpenFile → Prop}

/-! ## Quiet calls -/

/-- A bound that bears with quiet calls. They ask storage and the streams, put answers into local references, and
run in a frame of their own; and what their result owes to the gateway is then as said. -/
structure Bearing (thread : Nat) (bound : Nat → Gateway → Gateway → Prop) (borne : Gateway → Gateway → Prop) :
    Prop where
  onStorage : ∀ {α : Type} {action : Action α}, Storage.Keeps action → Within bound 0 (onStorage action)
  keep : ∀ {α : Type} (reference : Reference) (wrap : α → Object) (action : Nat → Action α),
    (∀ value, (wrap value).stream? = none) → (∀ client, Storage.Keeps (action client)) →
    Within bound 0 (onEngine (Engine.keep thread reference wrap action))
  call : ∀ {α : Type} {entry : EntryPoint} {sentinel : α} {inside : CallAction α}, Within bound 0 inside →
    ∀ gateway, borne gateway (call thread entry sentinel inside gateway).2
  aside : ∀ {before after : Gateway}, after.engine = before.engine → after.files = before.files → borne before after

/-- Every call on a file asks for its stream first, and goes on with the stream alone. -/
theorem ask_eq (thread : Nat) (call : FileCall) :
    ∃ (α : Type) (sentinel : α) (number : α → Int) (rest : Reference → CallAction α),
      (∀ fileSystem address gateway, call.ask thread fileSystem address gateway =
        (Gateway.call thread call.entry sentinel
          (streamArgument thread call.entry fileSystem address call.direction >>= rest) gateway).map number id) ∧
      number sentinel = -1 ∧ ∀ (bound : Nat → Gateway → Gateway → Prop) (borne : Gateway → Gateway → Prop)
        [Metered bound], Bearing thread bound borne → ∀ stream, Within bound 0 (rest stream) := by
  cases call with
  | read buffered length =>
    refine ⟨Int32 × Bytes, (-1, []), (·.1.toInt), _, fun _ _ _ => rfl, rfl, fun bound borne _ bearing stream => ?_⟩
    exact .after (sizeArgument_within _ _) fun _ =>
      readWith_within (fun number => bearing.onStorage (Storage.read_keeps number _)) _ _ _ _
  | pread position buffered length =>
    refine ⟨Int32 × Bytes, (-1, []), (·.1.toInt), _, fun _ _ _ => rfl, rfl, fun bound borne _ bearing stream => ?_⟩
    exact .after (sizeArgument_within _ _) fun _ => .after (sizeArgument_within _ _) fun _ =>
      readWith_within (fun number => bearing.onStorage (Storage.readAt_keeps number _ _)) _ _ _ _
  | seek position =>
    refine ⟨_, _, _, _, fun _ _ _ => rfl, rfl, fun bound borne _ bearing stream => ?_⟩
    exact .after (sizeArgument_within _ _) fun _ => .after (cast_within _ _ _ _) fun number =>
      .after (bearing.onStorage (Storage.seek_keeps number _)) fun _ => .pure _
  | tell =>
    refine ⟨_, _, _, _, fun _ _ _ => rfl, rfl, fun bound borne _ bearing stream => ?_⟩
    exact .after (cast_within _ _ _ _) fun number =>
      .after (bearing.onStorage (Storage.position_keeps number)) fun _ => offsetResult_within _
  | available =>
    refine ⟨_, _, _, _, fun _ _ _ => rfl, rfl, fun bound borne _ bearing stream => ?_⟩
    exact .after (cast_within _ _ _ _) fun number =>
      .after (bearing.onStorage (Storage.available_keeps number)) fun _ => .pure _
  | write buffer length =>
    refine ⟨_, _, _, _, fun _ _ _ => rfl, rfl, fun bound borne _ bearing stream =>
      .after (sizeArgument_within _ _) fun _ => ?_⟩
    split
    · exact .pure _
    · split
      · exact refuse_within _
      · exact .after (cast_within _ _ _ _) fun number =>
          .after (bearing.onStorage (Storage.write_keeps number _)) fun _ => sizeResult_within _
  | flush =>
    refine ⟨_, _, _, _, fun _ _ _ => rfl, rfl, fun bound borne _ bearing stream => ?_⟩
    exact .after (cast_within _ _ _ _) fun number =>
      .after (bearing.onStorage (Storage.flush_keeps number)) fun _ => .pure _

namespace Bearing

variable {thread : Nat} {bound : Nat → Gateway → Gateway → Prop} {borne : Gateway → Gateway → Prop} [Metered bound]

theorem ask (bearing : Bearing thread bound borne) (fileSystem address : UInt64) (call : FileCall) (gateway : Gateway) :
    borne gateway (call.ask thread fileSystem address gateway).2 := by
  obtain ⟨α, sentinel, number, rest, same, -, goesOn⟩ := ask_eq thread call
  rw [same]
  exact bearing.call (.after (streamArgument_within thread _ fileSystem address _) (goesOn bound borne bearing)) gateway

theorem transfer (bearing : Bearing thread bound borne) (entry : EntryPoint) (deleteSource : Bool)
    (sourceSystem : UInt64) (source : Option Bytes) (targetSystem : UInt64) (target : Option Bytes)
    (gateway : Gateway) :
    borne gateway (transfer thread entry deleteSource sourceSystem source targetSystem target gateway).2 :=
  bearing.call (.after (clientArgument_within thread sourceSystem) fun _ =>
    .after (clientArgument_within thread targetSystem) fun _ => .after (pathArgument_within _ source) fun _ =>
    .after (pathArgument_within _ target) fun _ => .after .get fun _ =>
    .after (bearing.onStorage (Storage.copy_keeps _ _ _ _ _ _)) fun _ => .pure _) gateway

theorem onPath (bearing : Bearing thread bound borne) {entry : EntryPoint} {inside : Nat → Path → CallAction Unit}
    (fileSystem : UInt64) (path : Option Bytes) (each : ∀ client path, Within bound 0 (inside client path))
    (gateway : Gateway) : borne gateway (onPath thread entry fileSystem path inside gateway).2 :=
  bearing.call (.after (clientArgument_within thread fileSystem) fun client =>
    .after (pathArgument_within _ path) fun path => .after (each client path) fun _ => .pure _) gateway

theorem exist (bearing : Bearing thread bound borne) (fileSystem : UInt64) (path : Option Bytes) (gateway : Gateway) :
    borne gateway (exist thread fileSystem path gateway).2 := by
  refine bearing.onPath fileSystem path (fun client path =>
    .after (bearing.onStorage (Storage.isPresent_keeps client path)) fun present => ?_) gateway
  split
  · exact .pure _
  · exact refuse_within _

theorem rename (bearing : Bearing thread bound borne) (fileSystem : UInt64) (source target : Option Bytes)
    (gateway : Gateway) : borne gateway (rename thread fileSystem source target gateway).2 :=
  bearing.call (.after (clientArgument_within thread fileSystem) fun _ => .after (pathArgument_within _ source) fun _ =>
    .after (pathArgument_within _ target) fun _ =>
    .after (bearing.onStorage (Storage.rename_keeps _ _ _)) fun _ => .pure _) gateway

theorem getWorkingDirectory (bearing : Bearing thread bound borne) (fileSystem : UInt64) (buffered : Bool)
    (size : UInt64) (gateway : Gateway) :
    borne gateway (getWorkingDirectory thread fileSystem buffered size gateway).2 := by
  refine bearing.call (.guarded (refuse_within _) ?_) gateway
  exact .after (clientArgument_within thread fileSystem) fun _ =>
    .after (bearing.onStorage (Storage.directory_keeps _)) fun _ => .guarded (refuse_within _) (.pure _)

theorem getPathInfo (bearing : Bearing thread bound borne) (fileSystem : UInt64) (path : Option Bytes)
    (gateway : Gateway) : borne gateway (getPathInfo thread fileSystem path gateway).2 :=
  bearing.call (.after (fileSystemArgument_within fileSystem) fun reference =>
    .after (pathArgument_within _ path) fun path =>
    .after (bearing.keep reference _ _ (fun _ => rfl) (Storage.status_keeps · path)) fun _ =>
    .after (cast_within _ _ thread _) fun _ => .after (orRefuse_within _) fun _ => .pure _) gateway

theorem listDirectory (bearing : Bearing thread bound borne) (fileSystem : UInt64) (path : Option Bytes)
    (counted : Bool) (gateway : Gateway) :
    borne gateway (listDirectory thread fileSystem path counted gateway).2 := by
  have listed : borne gateway (listEntries thread fileSystem path counted gateway).2 := by
    refine bearing.call (.guarded (refuse_within _) ?_) gateway
    refine .after (fileSystemArgument_within fileSystem) fun reference =>
      .after (pathArgument_within _ path) fun path =>
      .after (bearing.keep reference _ _ (fun _ => rfl) (Storage.list_keeps · path)) fun _ =>
      .after (cast_within _ _ thread _) fun statuses => ?_
    split
    · exact .pure _
    · exact .guarded (refuse_within _) (.after (orRefuse_within _) fun _ => .pure _)
  exact listed

theorem getHosts (bearing : Bearing thread bound borne) (fileSystem : UInt64) (path : Option Bytes)
    (start length : Int64) (gateway : Gateway) :
    borne gateway (getHosts thread fileSystem path start length gateway).2 :=
  bearing.call (.after (fileSystemArgument_within fileSystem) fun reference =>
    .after (pathArgument_within _ path) fun path => .after (sizeArgument_within _ _) fun _ =>
    .after (sizeArgument_within _ _) fun _ =>
    .after (bearing.keep reference _ _ (fun _ => rfl) (Storage.blockLocations_keeps · path _ _)) fun _ =>
    .after (cast_within _ _ thread _) fun _ => .after (orRefuse_within _) fun _ => .pure _) gateway

end Bearing

/-- A call that only looks. -/
def Looks {α : Type} (call : EntryCall α) : Prop := ∀ gateway, (call gateway).2 = gateway

theorem Looks.of_get {α : Type} {next : Gateway → EntryCall α} (looks : ∀ seen, Looks (next seen)) :
    Looks (get >>= next) := fun gateway => looks gateway gateway

theorem lastErrorCode_looks (thread : Nat) : Looks (lastErrorCode thread) := by
  refine .of_get fun seen => ?_
  split <;> exact fun _ => rfl

theorem lastErrorLength_looks (thread : Nat) : Looks (lastErrorLength thread) := by
  refine .of_get fun seen => ?_
  split <;> exact fun _ => rfl

theorem lastErrorMessage_looks (thread : Nat) (buffered : Bool) (length : Int32) :
    Looks (lastErrorMessage thread buffered length) := by
  rw [lastErrorMessage]
  split
  · exact fun _ => rfl
  · refine .of_get fun seen => ?_
    split
    · exact fun _ => rfl
    · dsimp only
      split <;> exact fun _ => rfl

/-- What every quiet call does is borne. -/
theorem Bearing.serve {thread : Nat} {bound : Nat → Gateway → Gateway → Prop} {borne : Gateway → Gateway → Prop}
    [Metered bound] (bearing : Bearing thread bound borne) {call : NativeCall} (quiet : call.Quiet)
    (gateway : Gateway) : borne gateway (call.serve thread gateway) := by
  have looking {α : Type} {look : EntryCall α} (looks : Looks look) : borne gateway (look gateway).2 :=
    bearing.aside (congrArg _ (looks gateway)) (congrArg _ (looks gateway))
  cases call with
  | connect | disconnect | openFile | closeFile | convertToGlobalRef | deleteGlobalRef => exact quiet.elim
  | copy | move => exact bearing.transfer ..
  | delete fileSystem path =>
    exact bearing.onPath fileSystem path (fun _ _ => bearing.onStorage (Storage.delete_keeps _ _)) gateway
  | releaseLock fileSystem path =>
    exact bearing.onPath fileSystem path (fun _ _ => bearing.onStorage (Storage.release_keeps _ _)) gateway
  | setWorkingDirectory fileSystem path =>
    exact bearing.onPath fileSystem path (fun _ _ => bearing.onStorage (Storage.changeDirectory_keeps _ _)) gateway
  | createDirectory fileSystem path =>
    exact bearing.onPath fileSystem path (fun _ _ => bearing.onStorage (Storage.createDirectories_keeps _ _)) gateway
  | lock fileSystem path shared =>
    exact bearing.onPath fileSystem path (fun _ _ => bearing.onStorage (Storage.lock_keeps _ _ _)) gateway
  | setReplication fileSystem path replication =>
    exact bearing.onPath fileSystem path (fun _ _ =>
      .guarded (refuse_within _) (bearing.onStorage (Storage.setReplication_keeps _ _ _))) gateway
  | exist => exact bearing.exist ..
  | rename => exact bearing.rename ..
  | getWorkingDirectory => exact bearing.getWorkingDirectory ..
  | getDefaultBlockSize fileSystem =>
    exact bearing.call (.after (clientArgument_within thread fileSystem) fun client =>
      .after (bearing.onStorage (Storage.defaultBlockSize_keeps client)) fun _ => offsetResult_within _) gateway
  | getCapacity fileSystem =>
    exact bearing.call (.after (clientArgument_within thread fileSystem) fun client =>
      .after (bearing.onStorage (Storage.capacity_keeps client)) fun _ => offsetResult_within _) gateway
  | getUsed fileSystem =>
    exact bearing.call (.after (clientArgument_within thread fileSystem) fun client =>
      .after (bearing.onStorage (Storage.used_keeps client)) fun _ => offsetResult_within _) gateway
  | onFile fileSystem address call => exact bearing.ask fileSystem address call gateway
  | getPathInfo => exact bearing.getPathInfo ..
  | listDirectory => exact bearing.listDirectory ..
  | getHosts => exact bearing.getHosts ..
  | lastErrorCode => exact looking (lastErrorCode_looks thread)
  | lastErrorLength => exact looking (lastErrorLength_looks thread)
  | lastErrorMessage buffered length => exact looking (lastErrorMessage_looks thread buffered length)
  | setupTracing => exact bearing.aside rfl rfl

/-! ## What calls do to the global table -/

theorem connect_moved (thread : Nat) (host : Option Bytes) (port : UInt16) (gateway : Gateway) :
    Moved fate 1 gateway (connect thread host port gateway).2 :=
  call_moved (.after (target_within host port) fun target =>
    .after (onEngine_moved (Engine.getFileSystem_moved thread target)) fun client =>
    .before (onEngine_moved (Engine.promote_moved thread client)) fun _ => .pure _) gateway

theorem disconnect_moved (thread : Nat) (fileSystem : UInt64) (gateway : Gateway) :
    Moved fate 1 gateway (disconnect thread fileSystem gateway).2 :=
  call_moved (.after (fileSystemArgument_within fileSystem) fun reference =>
    .after (cast_within _ _ thread reference) fun _ =>
    .after (attempt_within (onStorage_moved _)) fun closed =>
    .before (onEngine_moved (Engine.deleteGlobal_moved reference)) fun _ =>
    .after (answerOf_within closed) fun _ => .pure _) gateway

theorem convertToGlobalRef_moved (thread : Nat) (word : UInt64) (gateway : Gateway) :
    Moved fate 1 gateway (convertToGlobalRef thread word gateway).2 :=
  call_moved (.after (referenceArgument_within word) fun reference =>
    .before (onEngine_moved (Engine.promote_moved thread reference)) fun _ => .pure _) gateway

theorem deleteGlobalRef_moved (thread : Nat) (word : UInt64) (gateway : Gateway) :
    Moved fate 1 gateway (deleteGlobalRef thread word gateway).2 :=
  call_moved (.after (referenceArgument_within word) fun reference =>
    onEngine_moved (Engine.deleteGlobal_moved reference)) gateway

theorem openFile_moved (thread : Nat) (address fileSystem : UInt64) (path : Option Bytes)
    (flags bufferSize : Int32) (replication : Int16) (blockSize : Int32) (gateway : Gateway) :
    Moved (NativeCall.openFile address fileSystem path flags bufferSize replication blockSize).fate 1 gateway
      (openFile thread address fileSystem path flags bufferSize replication blockSize gateway).2 := by
  have filed (direction : Direction) (stream : Reference) :
      Within (Moved (NativeCall.openFile address fileSystem path flags bufferSize replication blockSize).fate) 1
        (openFile.register thread address direction stream) := by
    refine .before (onEngine_moved (Engine.promote_moved thread stream)) fun global =>
      .after (.modify fun gateway => ⟨Metered.refl _, fun other => ?_⟩) fun _ => .pure _
    by_cases same : other = address
    · exact .inr ⟨same, global, direction, by rw [same, SortedMap.get?_insert, if_pos rfl]⟩
    · exact .inl (by rw [SortedMap.get?_insert, if_neg same])
  refine call_moved (.after (fileSystemArgument_within fileSystem) fun _ => .after (pathArgument_within _ path) fun _ =>
    .after (sizeArgument_within _ _) fun _ => .after (sizeArgument_within _ _) fun _ =>
    .after (sizeArgument_within _ _) fun _ => ?_) gateway
  split
  · exact .after (onEngine_moved (Engine.keep_moved thread _ _ _)) fun stream => filed .reading stream
  · exact .after (onEngine_moved (Engine.keep_moved thread _ _ _)) fun stream => filed .writing stream
  · exact .weaken (refuse_within _) zero_le_one

/-- What closing does to the stream once its file is gone. -/
theorem closing_moved (thread : Nat) (file : OpenFile) :
    Within (Moved fate) 1 (match Reference.ofRaw? file.stream with
      | none => refuse .noStream
      | some stream => do
        let closed ← attempt (closeBy thread stream file.direction)
        let released ← attempt (onEngine (Engine.deleteGlobal stream))
        answerOf closed
        answerOf released
        return (0 : Int32)) := by
  split
  · exact .weaken (refuse_within _) zero_le_one
  · next stream _ =>
    have closing : Within (Moved fate) 0 (closeBy thread stream file.direction) :=
      closeBy_within (fun _ => onStorage_moved _) (fun _ => onStorage_moved _) thread stream file.direction
    exact .after (attempt_within closing) fun closed =>
      .before (attempt_within (onEngine_moved (Engine.deleteGlobal_moved stream))) fun released =>
      .after (answerOf_within closed) fun _ => .after (answerOf_within released) fun _ => .pure _

theorem closeFile_moved (thread : Nat) (address : UInt64) (gateway : Gateway) :
    Moved (NativeCall.closeFile address).fate 1 gateway (closeFile thread address gateway).2 := by
  have erased (gateway : Gateway) : Moved (NativeCall.closeFile address).fate 0 gateway
      { gateway with files := gateway.files.erase address } := by
    refine ⟨Metered.refl _, fun other => ?_⟩
    by_cases same : other = address
    · exact .inr ⟨same, by rw [same, SortedMap.get?_erase, if_pos rfl]⟩
    · exact .inl (by rw [SortedMap.get?_erase, if_neg same])
  exact call_moved (.after (lookup_within address) fun file =>
    .after (.modify erased) fun _ => closing_moved thread file) gateway

theorem bearing_moved (thread : Nat) : Bearing thread (Moved fate) (Moved fate 0) where
  onStorage _ := onStorage_moved _
  keep reference _ _ _ _ := onEngine_moved (Engine.keep_moved thread reference _ _)
  call := call_moved
  aside engine files := .of_engine (engine ▸ Metered.refl _) files

theorem serve_moved (thread : Nat) (gateway : Gateway) (call : NativeCall) :
    Moved call.fate 1 gateway (call.serve thread gateway) := by
  have quietly (quiet : call.Quiet) : Moved call.fate 1 gateway (call.serve thread gateway) :=
    Metered.weaken ((bearing_moved thread).serve quiet gateway) zero_le_one
  cases call with
  | connect host port => exact connect_moved thread host port gateway
  | disconnect fileSystem => exact disconnect_moved thread fileSystem gateway
  | openFile => exact openFile_moved thread ..
  | closeFile address => exact closeFile_moved thread address gateway
  | convertToGlobalRef word => exact convertToGlobalRef_moved thread word gateway
  | deleteGlobalRef word => exact deleteGlobalRef_moved thread word gateway
  | _ => exact quietly trivial

theorem doing_moved {α : Type} {action : EngineAction α} {used : Nat} (gateway : Gateway)
    (within : Within Engine.Moved used action) : Moved fate used gateway (gateway.doing action) :=
  .of_engine (within gateway.engine) rfl

theorem after_moved (gateway : Gateway) (step : GatewayStep) : Moved step.fate 1 gateway (gateway.after step) := by
  have alone {after : Gateway} (moved : Moved step.fate 0 gateway after) : Moved step.fate 1 gateway after :=
    Metered.weaken moved zero_le_one
  cases step with
  | native thread call => exact serve_moved thread gateway call
  | request request => exact alone (doing_moved gateway (Engine.onStorage_moved _))
  | register authority factory => exact alone (doing_moved gateway (Engine.register_moved authority factory))
  | unregister authority => exact alone (doing_moved gateway (Engine.unregister_moved authority))
  | configure conf => exact alone (doing_moved gateway (Engine.setConfiguration_moved conf))
  | hand thread object => exact alone (doing_moved gateway (Engine.newLocal_moved thread object))
  | takeError thread => exact alone (.of_engine (Metered.refl _) rfl)
  | recordError thread error => exact alone (.of_engine (Metered.refl _) rfl)
  | endThread thread => exact alone (doing_moved gateway (Engine.endThread_moved thread))

end Gateway

end FileGateway
