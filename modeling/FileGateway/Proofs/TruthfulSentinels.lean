import FileGateway.Proofs.Gateway.Inside
import FileGateway.Proofs.Gateway.Reports

/-! # Sentinels tell the truth

Native code tests what a call gives for null or minus one and asks for the recorded error then. So a failing call
gives a sentinel and records its error, once; a succeeding call gives no sentinel and records nothing. There is one
exception, which is told from a failure by the recorded errors alone: the entries of an empty directory are null.
-/

namespace FileGateway

/-! ## Empty directories -/

theorem Cluster.list_eq_nil {cluster : Cluster} {location : Location} (listed : cluster.list location = .ok []) :
    ∃ modified, cluster.tree.get? location = some (.directory modified) ∧ cluster.tree.children location = [] := by
  rw [list] at listed
  split at listed
  · cases listed
  · cases listed
  · next modified isDirectory => exact ⟨modified, isDirectory, List.map_eq_nil_iff.mp (Except.ok.inj listed)⟩

theorem Disk.list_eq_nil {disk : Disk} {path : Path} (listed : disk.list path = .ok []) :
    ∃ location modified, disk.find .follow path = .ok (location, .directory modified) ∧
      disk.tree.children location = [] := by
  rw [list] at listed
  split at listed
  · cases listed
  · next location modified isDirectory =>
    refine ⟨location, modified, isDirectory, List.eq_nil_iff_forall_not_mem.mpr ?_⟩
    -- Every child has a name, so none is left out of the list.
    rintro ⟨place, entry⟩ member
    obtain ⟨-, name, rfl⟩ := Tree.mem_children.mp member
    have unlisted := List.filterMap_eq_nil_iff.mp (Except.ok.inj listed) _ member
    simp at unlisted
  · cases listed

theorem LocalDisk.list_eq_nil {conf : Configuration} {disk : Disk} {location : Location}
    (listed : LocalDisk.list conf disk location = .ok []) : disk.list location.toPath = .ok [] := by
  rw [LocalDisk.list] at listed
  rcases seen : metadata disk location with exception | status
  · rw [seen] at listed
    cases listed
  · rw [seen] at listed
    rcases found : disk.list location.toPath with error | entries
    all_goals
      simp only [found, bind, Except.bind] at listed
      split at listed
    · cases listed
    · cases listed
    · cases listed
    · obtain rfl : entries = [] := List.map_eq_nil_iff.mp (Except.ok.inj listed)
      rfl

namespace Storage

variable {storage after : Storage} {client : Nat} {path : Path}

/-- What a client lists at a path is nothing: its script says so, or a directory is there and has nothing in it. -/
inductive ShowsNothing (storage : Storage) (client : Nat) (path : Path) : Prop
  | scripted {found : Client} (isClient : storage.clients[client]? = some found)
      (reacts : found.script.reaction? .list = some (.answer (.statuses [])))
  | cluster {number : Nat} {directory : Location} {script : Script} {cluster : Cluster} {modified : Int}
      (isClient : storage.clients[client]? = some ⟨.cluster number, directory, script⟩)
      (isCluster : storage.clusters[number]? = some cluster)
      (isDirectory : cluster.tree.get? (directory.resolve path) = some (.directory modified))
      (childless : cluster.tree.children (directory.resolve path) = [])
  | disk {conf : Configuration} {directory location : Location} {script : Script} {modified : Int}
      (isClient : storage.clients[client]? = some ⟨.disk conf, directory, script⟩)
      (isDirectory : storage.disk.find .follow (directory.resolve path).toPath = .ok (location, .directory modified))
      (childless : storage.disk.tree.children location = [])

theorem showsNothing_of_list (listed : list client path storage = .ok [] after) :
    storage.ShowsNothing client path := by
  obtain ⟨⟨backend, directory, script⟩, _, asked, ran⟩ := ok_of_bind listed
  obtain ⟨isClient, rfl⟩ := ok_of_clientAt asked
  rcases ok_of_scripted ran with ⟨answer, reacts, reads⟩ | ran
  · cases answer <;> cases reads
    exact .scripted isClient reacts
  · cases backend with
    | cluster number =>
      obtain ⟨cluster, isCluster, listed⟩ := ok_of_askCluster ran
      obtain ⟨modified, isDirectory, childless⟩ := Cluster.list_eq_nil listed
      exact .cluster isClient isCluster isDirectory childless
    | disk conf =>
      have listed := LocalDisk.list_eq_nil (ok_of_answerOf ran).1
      obtain ⟨location, modified, isDirectory, childless⟩ := Disk.list_eq_nil listed
      exact .disk isClient isDirectory childless

end Storage

namespace Engine

variable {α : Type} {engine after : Engine} {thread : Nat} {reference found : Reference} {object : Object}

/-- A fresh local reference stands for what was put into it. -/
theorem newLocal_ok (orderly : engine.Orderly) (ran : newLocal thread object engine = .ok reference after) :
    after.object? thread reference = some object := by
  cases stored : (engine.framesOf thread).table.insert object with
  | none =>
    rw [newLocal_of_none stored] at ran
    cases ran
  | some result =>
    obtain ⟨made, table⟩ := result
    obtain ⟨top, rest, stack⟩ := List.exists_cons_of_ne_nil (orderly thread).grounded
    rw [newLocal_of_some stack stored] at ran
    cases ran
    obtain ⟨isStored, -⟩ := ReferenceTable.insert_stored (orderly thread).consistent stored
    have isLocal : reference.isGlobal = false := by
      rw [Reference.isGlobal, isStored.inScope, (orderly thread).scope]
      rfl
    rw [object?_of_local isLocal, framesOf_setFrames, if_pos rfl]
    exact isStored.get?_iff.mpr (.inr ⟨rfl, rfl⟩)

/-- What a client answered is kept under a local reference. -/
theorem keep_ok {wrap : α → Object} {action : Nat → Action α} (orderly : engine.Orderly)
    (isGlobal : reference.isGlobal = true) (kept : keep thread reference wrap action engine = .ok found after) :
    ∃ client value storage, engine.globals.get? reference = some (.fileSystem client) ∧
      action client engine.storage = .ok value storage ∧ after.object? thread found = some (wrap value) := by
  obtain ⟨client, start, asked, ran⟩ := ok_of_bind kept
  obtain ⟨resolves, rfl⟩ := fileSystem_ok isGlobal asked
  obtain ⟨value, middle, acted, ran⟩ := ok_of_bind ran
  have moved := onStorage_moved (action client) start
  rw [acted] at moved
  have orderlyMiddle : middle.Orderly := moved.orderly orderly
  obtain ⟨storage, answered⟩ := onStorage_ok acted
  exact ⟨client, value, storage, resolves, answered, newLocal_ok orderlyMiddle ran⟩

end Engine

namespace Gateway

variable {gateway after : Gateway} {thread : Nat} {fileSystem : UInt64} {path : Option Bytes}

theorem pathArgument_ok {name : String} {argument : Path} (ran : pathArgument name path gateway = .ok argument after) :
    ∃ bytes, path = some bytes ∧ argument = ⟨cutText bytes⟩ ∧ after = gateway := by
  cases path with
  | none => cases ran
  | some bytes =>
    rw [pathArgument] at ran
    split at ran
    · cases ran
      exact ⟨bytes, rfl, rfl, rfl⟩
    · cases ran

/-- What is listed is handed out as records, or refused, but never as null. -/
theorem records_reports (statuses : List FileStatus) : Reports (· ≠ none) (do
    if sizeLimit ≤ statuses.length then refuse .tooManyEntries
    return some (← orRefuse (statuses.mapM FileInfo.ofStatus))) :=
  .guarded fun _ => .after (orRefuse_within _) fun _ => .pure (Option.some_ne_none _)

/-- The filesystem behind a word has nothing to list at a path. -/
def ShowsNothing (gateway : Gateway) (fileSystem : UInt64) (path : Option Bytes) : Prop :=
  ∃ reference client bytes, Reference.ofRaw? fileSystem = some reference ∧
    gateway.engine.globals.get? reference = some (.fileSystem client) ∧ path = some bytes ∧
    gateway.engine.storage.ShowsNothing client ⟨cutText bytes⟩

/-- Entries are null without a failure only where there is nothing to list. -/
theorem showsNothing_of_entries (orderly : gateway.engine.Orderly)
    (listed : ((NativeCall.listDirectory fileSystem path true).anatomy thread trivial).inside gateway =
      .ok none after) : gateway.ShowsNothing fileSystem path := by
  obtain ⟨reference, middle, argued, ran⟩ := ok_of_bind listed
  obtain ⟨isWord, isGlobal, same⟩ := fileSystemArgument_ok argued
  subst middle
  obtain ⟨argument, middle, parsed, goesOn⟩ := ok_of_bind ran
  obtain ⟨bytes, given, rfl, same⟩ := pathArgument_ok parsed
  subst middle
  obtain ⟨kept, middle, asked, answers⟩ := ok_of_bind goesOn
  obtain ⟨engine, keeps, same⟩ := onEngine_ok asked
  subst middle
  obtain ⟨client, statuses, storage, resolves, answered, stands⟩ := Engine.keep_ok orderly isGlobal keeps
  have read : onEngine (Engine.fileStatuses thread kept) { gateway with engine } =
      .ok statuses { gateway with engine } := onEngine_of_ok (Engine.cast_of_some stands rfl)
  rw [bind_of_ok read] at answers
  cases statuses with
  | nil => exact ⟨reference, client, bytes, isWord, resolves, given, Storage.showsNothing_of_list answered⟩
  | cons status rest =>
    rw [List.isEmpty_cons, if_neg Bool.false_ne_true] at answers
    exact absurd rfl ((records_reports (status :: rest) _).answer answers).1

end Gateway

/-! ## Calls -/

/-- The null of a listing that found nothing: native code is told that there are none. -/
def NativeCall.FindsNothing (call : NativeCall) (gateway : Gateway) (reply : Reply) : Prop :=
  ∃ fileSystem path, call = .listDirectory fileSystem path true ∧ gateway.ShowsNothing fileSystem path ∧
    reply = .listing (some 0) none

namespace NativeCall

open Gateway

variable {thread : Nat} {gateway left : Gateway} {call : NativeCall} {valued : call.Valued} {failure : CallFailure}

namespace Anatomy

variable {reply : Gateway → Reply × Gateway} (parts : Anatomy thread reply)

theorem reply_of_ok {value : parts.Value} (ran : parts.inside (gateway.pushed thread) = .ok value left) :
    reply gateway = (parts.read value, left.popped thread) := by
  rw [parts.reply_eq, call_run, ran]
  rfl

theorem reply_of_error (ran : parts.inside (gateway.pushed thread) = .error failure left) :
    reply gateway =
      (parts.read parts.sentinel, (left.popped thread).record thread (errorOf parts.entry failure)) := by
  rw [parts.reply_eq, call_run, ran]
  rfl

end Anatomy

/-- A call that does not fail gives no sentinel, unless it finds nothing to list. -/
theorem proper_of_ok (orderly : gateway.engine.Orderly)
    (placed : ∀ address, (GatewayStep.native thread call).opens? = some address → address ≠ 0)
    {value : (call.anatomy thread valued).Value}
    (ran : (call.anatomy thread valued).inside (gateway.pushed thread) = .ok value left) :
    let reply := (call.anatomy thread valued).read value
    left.errors = gateway.errors ∧ (reply.IsProper ∨ call.FindsNothing gateway reply) := by
  obtain ⟨proper | ⟨fileSystem, path, rfl, empty⟩, same⟩ :=
    (reports call valued placed (gateway.pushed thread)).answer ran
  · exact ⟨same, .inl proper⟩
  · obtain rfl : value = none := (Reply.listing.inj empty).2
    have moved : Moved (fun _ _ => False) 0 gateway (gateway.pushed thread) := pushed_moved thread gateway
    have shown : (gateway.pushed thread).ShowsNothing fileSystem path :=
      showsNothing_of_entries (moved.engine.orderly orderly) ran
    exact ⟨same, .inr ⟨fileSystem, path, rfl, shown, empty⟩⟩

/-- Nothing records an error but the end of a call that fails. -/
theorem errors_of_error (ran : (call.anatomy thread valued).inside (gateway.pushed thread) = .error failure left)
    (placed : ∀ address, (GatewayStep.native thread call).opens? = some address → address ≠ 0) :
    left.errors = gateway.errors :=
  (reports call valued placed (gateway.pushed thread)).failure ran

end NativeCall

namespace Gateway

theorem errors_popped (gateway : Gateway) (thread : Nat) : (gateway.popped thread).errors = gateway.errors := by
  rw [popped_eq]

/-- In every run, a call gives a sentinel exactly if it fails, or finds nothing to list. A failure is recorded once,
with its kind and the number of that kind. A success records nothing, and nothing that it gives is negative. -/
theorem sentinels_tell_truth (storage : Storage) (conf : Configuration) (steps : List GatewayStep) (thread : Nat)
    (call : NativeCall) (valued : call.Valued)
    (placed : ∀ address, (GatewayStep.native thread call).opens? = some address → address ≠ 0) :
    let gateway := (new (.new storage conf)).run steps
    let parts := call.anatomy thread valued
    let ran := parts.inside (gateway.pushed thread)
    let reply := (call.reply thread gateway).1
    let after := gateway.after (.native thread call)
    (reply.IsSentinel ↔ (∃ failure left, ran = .error failure left) ∨ call.FindsNothing gateway reply) ∧
    (∀ failure left, ran = .error failure left →
      let error := errorOf parts.entry failure
      left.errors = gateway.errors ∧ after = (left.popped thread).record thread error ∧
      after.errors = gateway.errors.insert thread ⟨some error, error.kind.errorNumber⟩ ∧
      (∀ exception, failure = .failed (.raised exception) → error.kind = .ofClass exception.kind) ∧
      ∀ fileSystem path counted, call = .listDirectory fileSystem path counted →
        reply = .listing (if counted then some 0 else none) none) ∧
    ∀ value left, ran = .ok value left →
      after.errors = gateway.errors ∧ (reply.IsProper ∨ call.FindsNothing gateway reply) := by
  intro gateway parts ran reply after
  have orderly : gateway.engine.Orderly := ((sound_new storage conf).run steps).orderly
  have served : (call.reply thread gateway).2 = after := NativeCall.reply_serve thread call gateway
  have succeeds {value : parts.Value} {left : Gateway} (answered : ran = .ok value left) :
      after.errors = gateway.errors ∧ (reply.IsProper ∨ call.FindsNothing gateway reply) := by
    have replied := parts.reply_of_ok answered
    obtain ⟨same, told⟩ := NativeCall.proper_of_ok orderly placed answered
    rw [show reply = parts.read value from congrArg Prod.fst replied,
      show after = left.popped thread from served.symm.trans (congrArg Prod.snd replied), errors_popped]
    exact ⟨same, told⟩
  refine ⟨⟨fun sentinel => ?_, ?_⟩, fun failure left failed => ?_, fun value left => succeeds⟩
  · cases outcome : ran with
    | error failure left => exact .inl ⟨failure, left, rfl⟩
    | ok value left => exact .inr ((succeeds outcome).2.resolve_left fun proper => proper.not_sentinel sentinel)
  · rintro (⟨failure, left, failed⟩ | ⟨fileSystem, path, -, -, empty⟩)
    · rw [show reply = parts.read parts.sentinel from congrArg Prod.fst (parts.reply_of_error failed)]
      exact NativeCall.sentinel_reads call valued
    · rw [empty]
      rfl
  · have replied := parts.reply_of_error failed
    have recorded : after = (left.popped thread).record thread (errorOf parts.entry failure) :=
      served.symm.trans (congrArg Prod.snd replied)
    have same : left.errors = gateway.errors := NativeCall.errors_of_error failed placed
    refine ⟨same, recorded, ?_, ?_, ?_⟩
    · rw [recorded, record, errors_popped, same]
      rfl
    · rintro exception rfl
      rfl
    · rintro fileSystem path counted rfl
      exact congrArg Prod.fst replied

/-- A missing file cannot be opened for reading. -/
theorem sentinels_tell_truth_of_missing :
    let gateway := (new (.new (.new 0 (.new 0 .root 0 0)) .default)).run [.native 0 (.connect none 0)]
    let call : NativeCall := .openFile 4096 0x100000001 (some [47, 102]) readFlag 0 0 0
    (call.reply 0 gateway).1 = .word 0 ∧ ∃ error, error.kind = .notFound ∧
      (gateway.after (.native 0 call)).errors = gateway.errors.insert 0 ⟨some error, 2⟩ := by
  intro gateway call
  obtain ⟨sentinel, recorded, -⟩ := sentinels_tell_truth (.new 0 (.new 0 .root 0 0)) .default
    [.native 0 (.connect none 0)] 0 call trivial (by rintro _ ⟨⟩; decide)
  have isNull : (call.reply 0 gateway).1 = .word 0 := by decide +kernel
  have isSentinel : (call.reply 0 gateway).1.IsSentinel := by
    rw [isNull]
    rfl
  have kind : ((gateway.after (.native 0 call)).errors.get? 0).map (·.last.map CallError.kind) =
      some (some .notFound) := by decide +kernel
  have notListing : ¬call.FindsNothing gateway (call.reply 0 gateway).1 := by
    rintro ⟨_, _, listing, _⟩
    exact NativeCall.noConfusion listing
  obtain ⟨failure, left, failed⟩ := (sentinel.mp isSentinel).resolve_right notListing
  obtain ⟨-, -, inserted, -, -⟩ := recorded failure left failed
  rw [show (gateway.after (.native 0 call)).errors = _ from inserted, SortedMap.get?_insert, if_pos rfl] at kind
  have notFound : (errorOf .openFile failure).kind = .notFound := Option.some.inj (Option.some.inj kind)
  have number : (errorOf .openFile failure).kind.errorNumber = 2 := by
    rw [notFound]
    rfl
  refine ⟨isNull, errorOf .openFile failure, notFound, ?_⟩
  rw [← number]
  exact inserted

-- An empty root directory has nothing to list, which is no failure.
example :
    let gateway := (new (.new (.new 0 (.new 0 .root 0 0)) .default)).run [.native 0 (.connect none 0)]
    let listed := (NativeCall.listDirectory 0x100000001 (some [47]) true).reply 0 gateway
    listed.1 = .listing (some 0) none ∧ listed.2.errors = gateway.errors := by
  decide +kernel

end Gateway

end FileGateway
