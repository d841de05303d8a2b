import FileGateway.Proofs.Gateway.Calls

/-! # Replies

What native code gets from an entry point is a pointer, a number or an array. A sentinel is a null or minus one;
what a call hands over otherwise is neither null nor negative, down to the sizes and counts in its records.

Every entry point that gives a value is a call: an inside that runs in a frame, the sentinel that stands for its
failure, and the reading of what it gives. `anatomy` takes each of them apart.
-/

namespace FileGateway

/-- The sizes and counts of a record are none below zero. -/
def FileInfo.Measured (info : FileInfo) : Prop := 0 ≤ info.size.toInt ∧ 0 ≤ info.replicas.toInt

/-- What native code gets from a call. -/
inductive Reply
  | nothing
  | word (word : UInt64)
  | number (number : Int)
  | text (text : Option Bytes)
  | records (records : Option (List FileInfo))
  /-- The number that is stored where the call was told to, and the records. -/
  | listing (count : Option Int32) (records : Option (List FileInfo))
  | hosts (hosts : Option HostMatrix)
deriving DecidableEq, Repr

namespace Reply

/-- Null or minus one. -/
def IsSentinel : Reply → Prop
  | .nothing => False
  | .word value => value = 0
  | .number value => value = -1
  | .text bytes => bytes = none
  | .records infos | .listing _ infos => infos = none
  | .hosts matrix => matrix = none

/-- Neither null nor negative, and with the number of records that there are. -/
def IsProper : Reply → Prop
  | .nothing => False
  | .word value => value ≠ 0
  | .number value => 0 ≤ value
  | .text bytes => bytes ≠ none
  | .records infos => ∃ list, infos = some list ∧ ∀ info ∈ list, info.Measured
  | .listing count infos => ∃ list, infos = some list ∧ list ≠ [] ∧ (∀ info ∈ list, info.Measured) ∧
      ∀ stored, count = some stored → stored.toInt = list.length
  | .hosts matrix => matrix ≠ none

theorem IsProper.not_sentinel {reply : Reply} (proper : reply.IsProper) : ¬reply.IsSentinel := by
  intro sentinel
  cases reply with
  | nothing => exact proper
  | word | text | hosts => exact proper sentinel
  | number number =>
    obtain rfl : number = -1 := sentinel
    exact absurd (show (0 : Int) ≤ -1 from proper) (by decide)
  | records | listing =>
    obtain ⟨infos, given, -⟩ := proper
    cases given.symm.trans sentinel

end Reply

namespace NativeCall

/-- What a call of a thread gives, and the gateway that it leaves. -/
def reply (thread : Nat) : NativeCall → Gateway → Reply × Gateway
  | connect host port, gateway => (Gateway.connect thread host port gateway).map .word id
  | disconnect fileSystem, gateway => (Gateway.disconnect thread fileSystem gateway).map (.number ·.toInt) id
  | copy sourceSystem source targetSystem target, gateway =>
    (Gateway.copy thread sourceSystem source targetSystem target gateway).map (.number ·.toInt) id
  | move sourceSystem source targetSystem target, gateway =>
    (Gateway.move thread sourceSystem source targetSystem target gateway).map (.number ·.toInt) id
  | delete fileSystem path, gateway => (Gateway.delete thread fileSystem path gateway).map (.number ·.toInt) id
  | rename fileSystem source target, gateway =>
    (Gateway.rename thread fileSystem source target gateway).map (.number ·.toInt) id
  | exist fileSystem path, gateway => (Gateway.exist thread fileSystem path gateway).map (.number ·.toInt) id
  | lock fileSystem path shared, gateway =>
    (Gateway.lock thread fileSystem path shared gateway).map (.number ·.toInt) id
  | releaseLock fileSystem path, gateway =>
    (Gateway.releaseLock thread fileSystem path gateway).map (.number ·.toInt) id
  | setWorkingDirectory fileSystem path, gateway =>
    (Gateway.setWorkingDirectory thread fileSystem path gateway).map (.number ·.toInt) id
  | createDirectory fileSystem path, gateway =>
    (Gateway.createDirectory thread fileSystem path gateway).map (.number ·.toInt) id
  | setReplication fileSystem path replication, gateway =>
    (Gateway.setReplication thread fileSystem path replication gateway).map (.number ·.toInt) id
  | getWorkingDirectory fileSystem buffered size, gateway =>
    (Gateway.getWorkingDirectory thread fileSystem buffered size gateway).map .text id
  | getDefaultBlockSize fileSystem, gateway =>
    (Gateway.getDefaultBlockSize thread fileSystem gateway).map (.number ·.toInt) id
  | getCapacity fileSystem, gateway => (Gateway.getCapacity thread fileSystem gateway).map (.number ·.toInt) id
  | getUsed fileSystem, gateway => (Gateway.getUsed thread fileSystem gateway).map (.number ·.toInt) id
  | openFile address fileSystem path flags bufferSize replication blockSize, gateway =>
    (Gateway.openFile thread address fileSystem path flags bufferSize replication blockSize gateway).map .word id
  | closeFile address, gateway => (Gateway.closeFile thread address gateway).map (.number ·.toInt) id
  | onFile fileSystem address call, gateway => (call.ask thread fileSystem address gateway).map .number id
  | getPathInfo fileSystem path, gateway => (Gateway.getPathInfo thread fileSystem path gateway).map .records id
  | listDirectory fileSystem path counted, gateway =>
    (Gateway.listDirectory thread fileSystem path counted gateway).map (fun answer => .listing answer.1 answer.2) id
  | getHosts fileSystem path start length, gateway =>
    (Gateway.getHosts thread fileSystem path start length gateway).map .hosts id
  | convertToGlobalRef word, gateway => (Gateway.convertToGlobalRef thread word gateway).map .word id
  | deleteGlobalRef word, gateway => (Gateway.deleteGlobalRef thread word gateway).map (fun _ => .nothing) id
  | lastErrorCode, gateway => (Gateway.lastErrorCode thread gateway).map (.number ·.toInt) id
  | lastErrorLength, gateway => (Gateway.lastErrorLength thread gateway).map (.number ·.toInt) id
  | lastErrorMessage buffered length, gateway =>
    (Gateway.lastErrorMessage thread buffered length gateway).map (.number ·.1.toInt) id
  | setupTracing, gateway => (Gateway.setupTracing gateway).map (.number ·.toInt) id

/-- A call leaves the gateway that serving it leaves. -/
theorem reply_serve (thread : Nat) (call : NativeCall) (gateway : Gateway) :
    (call.reply thread gateway).2 = call.serve thread gateway := by
  cases call <;> rfl

/-- Calls on filesystems, files, records and references that give a value. The others give none, or look at the
recorded errors and the log. -/
def Valued : NativeCall → Prop
  | deleteGlobalRef _ | lastErrorCode | lastErrorLength | lastErrorMessage _ _ | setupTracing => False
  | _ => True

/-- An entry point taken apart. -/
structure Anatomy (thread : Nat) (reply : Gateway → Reply × Gateway) where
  Value : Type
  entry : EntryPoint
  sentinel : Value
  inside : CallAction Value
  /-- How native code reads what the call gives. -/
  read : Value → Reply
  reply_eq : ∀ gateway, reply gateway = (Gateway.call thread entry sentinel inside gateway).map read id

/-- The anatomy of each entry point, as it is written. -/
def anatomy (thread : Nat) : (call : NativeCall) → call.Valued → Anatomy thread (call.reply thread)
  | connect _ _, _ => ⟨UInt64, .connect, 0, _, .word, fun _ => rfl⟩
  | disconnect _, _ => ⟨Int32, .disconnect, -1, _, (.number ·.toInt), fun _ => rfl⟩
  | copy .., _ => ⟨Int32, .copy, -1, _, (.number ·.toInt), fun _ => rfl⟩
  | move .., _ => ⟨Int32, .move, -1, _, (.number ·.toInt), fun _ => rfl⟩
  | delete _ _, _ => ⟨Int32, .delete, -1, _, (.number ·.toInt), fun _ => rfl⟩
  | rename _ _ _, _ => ⟨Int32, .rename, -1, _, (.number ·.toInt), fun _ => rfl⟩
  | exist _ _, _ => ⟨Int32, .exist, -1, _, (.number ·.toInt), fun _ => rfl⟩
  | lock _ _ _, _ => ⟨Int32, .lock, -1, _, (.number ·.toInt), fun _ => rfl⟩
  | releaseLock _ _, _ => ⟨Int32, .releaseLock, -1, _, (.number ·.toInt), fun _ => rfl⟩
  | setWorkingDirectory _ _, _ => ⟨Int32, .setWorkingDirectory, -1, _, (.number ·.toInt), fun _ => rfl⟩
  | createDirectory _ _, _ => ⟨Int32, .createDirectory, -1, _, (.number ·.toInt), fun _ => rfl⟩
  | setReplication _ _ _, _ => ⟨Int32, .setReplication, -1, _, (.number ·.toInt), fun _ => rfl⟩
  | getWorkingDirectory _ _ _, _ => ⟨Option Bytes, .getWorkingDirectory, none, _, .text, fun _ => rfl⟩
  | getDefaultBlockSize _, _ => ⟨Int64, .getDefaultBlockSize, -1, _, (.number ·.toInt), fun _ => rfl⟩
  | getCapacity _, _ => ⟨Int64, .getCapacity, -1, _, (.number ·.toInt), fun _ => rfl⟩
  | getUsed _, _ => ⟨Int64, .getUsed, -1, _, (.number ·.toInt), fun _ => rfl⟩
  | openFile .., _ => ⟨UInt64, .openFile, 0, _, .word, fun _ => rfl⟩
  | closeFile _, _ => ⟨Int32, .closeFile, -1, _, (.number ·.toInt), fun _ => rfl⟩
  | onFile _ _ (.read _ _), _ => ⟨Int32 × Bytes, .read, (-1, []), _, (.number ·.1.toInt), fun _ => rfl⟩
  | onFile _ _ (.pread _ _ _), _ => ⟨Int32 × Bytes, .pread, (-1, []), _, (.number ·.1.toInt), fun _ => rfl⟩
  | onFile _ _ (.write _ _), _ => ⟨Int32, .write, -1, _, (.number ·.toInt), fun _ => rfl⟩
  | onFile _ _ (.seek _), _ => ⟨Int32, .seek, -1, _, (.number ·.toInt), fun _ => rfl⟩
  | onFile _ _ .tell, _ => ⟨Int64, .tell, -1, _, (.number ·.toInt), fun _ => rfl⟩
  | onFile _ _ .flush, _ => ⟨Int32, .flush, -1, _, (.number ·.toInt), fun _ => rfl⟩
  | onFile _ _ .available, _ => ⟨Int32, .available, -1, _, (.number ·.toInt), fun _ => rfl⟩
  | getPathInfo _ _, _ => ⟨Option (List FileInfo), .getPathInfo, none, _, .records, fun _ => rfl⟩
  | listDirectory _ _ counted, _ =>
    ⟨Option (List FileInfo), .listDirectory, none, _,
      fun infos => .listing (if counted then some (.ofNat ((infos.map List.length).getD 0)) else none) infos,
      fun _ => rfl⟩
  | getHosts .., _ => ⟨Option HostMatrix, .getHosts, none, _, .hosts, fun _ => rfl⟩
  | convertToGlobalRef _, _ => ⟨UInt64, .convertToGlobalRef, 0, _, .word, fun _ => rfl⟩
  | deleteGlobalRef _, valued => valued.elim
  | lastErrorCode, valued => valued.elim
  | lastErrorLength, valued => valued.elim
  | lastErrorMessage _ _, valued => valued.elim
  | setupTracing, valued => valued.elim

end NativeCall

end FileGateway
