import FileGateway.Proofs.BlockQueries
import FileGateway.Proofs.Promotion
import FileGateway.Proofs.TruthfulSentinels

/-! # Reading host matrices back

Native code gets the hosts of blocks as arrays of pointers and knows no length: it goes along an array up to the
first null, and along a name up to the first NUL byte. What it finds that way are the hosts as the blocks have them,
also where a block has no host or a host has an empty name, since every array and every name has its end. Only a name
that holds a NUL byte itself would be cut short, and the whole matrix is refused for it.
-/

namespace FileGateway

/-! ## The bytes of a text -/

namespace Utf8

private theorem toList_loop (bytes : ByteArray) (index : Nat) (read : Bytes) :
    ByteArray.toList.loop bytes index read = read.reverse ++ bytes.data.toList.drop index := by
  fun_induction ByteArray.toList.loop bytes index read with
  | case1 index read inside ih =>
    have within : index < bytes.data.toList.length := by simpa using inside
    rw [ih, List.drop_eq_getElem_cons within]
    simp [ByteArray.get!, inside]
  | case2 index read outside =>
    rw [List.drop_eq_nil_of_le (by simpa using Nat.le_of_not_lt outside), List.append_nil]

theorem encode_eq_data (text : String) : encode text = text.toByteArray.data.toList := by
  rw [encode, String.toUTF8, ByteArray.toList, toList_loop]
  rfl

/-- The bytes of a text are those of its characters. -/
theorem encode_eq_flatMap (text : String) : encode text = text.toList.flatMap String.utf8EncodeChar := by
  have bytes : text.toByteArray = (text.toList.flatMap String.utf8EncodeChar).toByteArray := by
    conv_lhs => rw [← String.ofList_toList (s := text)]
    exact String.toByteArray_ofList
  rw [encode_eq_data, bytes, List.toList_data_toByteArray]

theorem encode_injective : Function.Injective encode := by
  intro text other same
  rw [encode_eq_data, encode_eq_data, Array.toList_inj] at same
  exact String.toByteArray_inj.mp (ByteArray.ext same)

private theorem zero_mem_encodeChar {character : Char} :
    0 ∈ String.utf8EncodeChar character ↔ character = '\x00' := by
  have isNul : character = '\x00' ↔ character.val.toNat = 0 := by
    rw [Char.ext_iff, ← UInt32.toNat_inj]
    rfl
  have isZero (number : Nat) : (0 : UInt8) = UInt8.ofNat number ↔ number % 256 = 0 := by
    rw [← UInt8.toNat_inj, UInt8.toNat_ofNat', eq_comm]
    rfl
  rw [isNul, String.utf8EncodeChar]
  -- the bytes of a longer character have their highest bit set
  split
  · rw [List.mem_singleton, isZero]
    omega
  all_goals
    repeat' split
    all_goals
      simp only [List.mem_cons, List.not_mem_nil, or_false, isZero]
      omega

/-- A NUL byte is in the bytes of a text only for a NUL character. -/
theorem zero_mem_encode {text : String} : 0 ∈ encode text ↔ '\x00' ∈ text.toList := by
  rw [encode_eq_flatMap, List.mem_flatMap]
  exact ⟨fun ⟨character, member, zero⟩ => zero_mem_encodeChar.mp zero ▸ member,
    fun member => ⟨_, member, zero_mem_encodeChar.mpr rfl⟩⟩

end Utf8

/-- Of items that are each accepted or refused, all are accepted or the first refusal counts. -/
theorem mapM_eq_elim {ε α β : Type} {act : α → Except ε β} {refusal? : α → Option ε} {value : α → β}
    (each : ∀ item, act item = (refusal? item).elim (.ok (value item)) .error) (items : List α) :
    items.mapM act = (items.findSome? refusal?).elim (.ok (items.map value)) .error := by
  induction items with
  | nil => rfl
  | cons item rest ih =>
    rw [List.mapM_cons, each, ih, List.findSome?_cons, List.map_cons]
    cases refusal? item with
    | some refusal => rfl
    | none => cases rest.findSome? refusal? <;> rfl

namespace HostMatrix

variable {α : Type} {blocks : List BlockLocation} {matrix : HostMatrix} {error : CallError}

/-! ## What is handed out -/

/-- Why a name is refused, if it is. -/
def refusal? (name : String) : Option CallError :=
  if '\x00' ∈ name.toList then some (.nulInText name) else none

/-- Why a matrix is refused, if it is: the first name of the first block that is. -/
def firstRefusal? (blocks : List BlockLocation) : Option CallError :=
  blocks.findSome? fun block => block.hosts.findSome? refusal?

theorem ofBlocks_eq (blocks : List BlockLocation) : ofBlocks blocks =
    (firstRefusal? blocks).elim (.ok (terminated (blocks.map fun block => terminated block.hosts))) .error := by
  have name (text : String) : nativeText text = (refusal? text).elim (.ok text) .error := by
    rw [nativeText, refusal?]
    split <;> rfl
  have row (block : BlockLocation) : (block.hosts.mapM nativeText).map terminated =
      (block.hosts.findSome? refusal?).elim (.ok (terminated block.hosts)) .error := by
    rw [mapM_eq_elim name, List.map_id']
    cases block.hosts.findSome? refusal? <;> rfl
  rw [ofBlocks, mapM_eq_elim row, firstRefusal?]
  cases blocks.findSome? fun block => block.hosts.findSome? refusal? <;> rfl

theorem ofBlocks_eq_error_iff : ofBlocks blocks = .error error ↔ firstRefusal? blocks = some error := by
  rw [ofBlocks_eq]
  cases firstRefusal? blocks with
  | none => exact iff_of_false nofun nofun
  | some refusal =>
    exact ⟨fun same => congrArg some (Except.error.inj same), fun same => congrArg _ (Option.some.inj same)⟩

theorem ofBlocks_eq_ok_iff : ofBlocks blocks = .ok matrix ↔
    firstRefusal? blocks = none ∧ matrix = terminated (blocks.map fun block => terminated block.hosts) := by
  rw [ofBlocks_eq]
  cases firstRefusal? blocks with
  | none => exact ⟨fun same => ⟨rfl, (Except.ok.inj same).symm⟩, fun same => congrArg _ same.2.symm⟩
  | some refusal => exact iff_of_false nofun nofun

theorem kind_of_firstRefusal (refused : firstRefusal? blocks = some error) : error.kind = .internalError := by
  obtain ⟨block, -, refused⟩ := List.exists_of_findSome?_eq_some refused
  obtain ⟨name, -, refused⟩ := List.exists_of_findSome?_eq_some refused
  rw [refusal?] at refused
  split at refused
  · cases refused
    rfl
  · cases refused

theorem firstRefusal_eq_none_iff :
    firstRefusal? blocks = none ↔ ∀ block ∈ blocks, ∀ host ∈ block.hosts, 0 ∉ Utf8.encode host := by
  simp only [firstRefusal?, List.findSome?_eq_none_iff, refusal?, ite_eq_right_iff, reduceCtorEq, imp_false,
    Utf8.zero_mem_encode]

/-! ## What native code reads -/

/-- What is in front of the first null of an array. None if there is no null: then a reader runs past the end. -/
def scan? : List (Option α) → Option (List α)
  | [] => none
  | none :: _ => some []
  | some item :: rest => (scan? rest).map (item :: ·)

/-- What is in front of the first NUL byte of some memory. -/
def scanText? (memory : Bytes) : Option Bytes :=
  if 0 ∈ memory then some (Gateway.cutText memory) else none

/-- The names that a reader finds in a row. Each is in memory with a NUL byte behind it. -/
def readRow? (row : List (Option String)) : Option (List Bytes) :=
  (scan? row).bind fun names => names.mapM fun name => scanText? (Utf8.encode name ++ [0])

/-- The rows that a reader finds in a matrix. -/
def read? (matrix : HostMatrix) : Option (List (List Bytes)) :=
  (scan? matrix).bind fun rows => rows.mapM readRow?

theorem scan?_terminated (items : List α) : scan? (terminated items) = some items := by
  induction items with
  | nil => rfl
  | cons item rest ih => exact congrArg (Option.map (item :: ·)) ih

/-- A reader that stays in front of the end of an array finds the same as one that knows where it ends. -/
theorem upToNull_of_scan? {array : List (Option α)} {items : List α} (found : scan? array = some items) :
    upToNull array = items := by
  induction array generalizing items with
  | nil => cases found
  | cons item rest ih =>
    cases item with
    | none =>
      cases found
      rfl
    | some item =>
      obtain ⟨others, behind, rfl⟩ := Option.map_eq_some_iff.mp found
      exact congrArg (item :: ·) (ih behind)

/-- The NUL byte behind a text ends it, and the text is read back if it has no other. -/
theorem cutText_terminated {text : Bytes} (whole : 0 ∉ text) : Gateway.cutText (text ++ [0]) = text := by
  have kept : ∀ byte ∈ text, (byte != 0) = true := fun byte member => bne_iff_ne.mpr fun zero => whole (zero ▸ member)
  rw [Gateway.cutText, List.takeWhile_append_of_pos kept]
  exact List.append_nil _

theorem readRow?_terminated (names : List String) :
    readRow? (terminated names) = some (names.map fun name => Gateway.cutText (Utf8.encode name ++ [0])) := by
  have read (name : String) : scanText? (Utf8.encode name ++ [0]) = pure (Gateway.cutText (Utf8.encode name ++ [0])) :=
    if_pos (List.mem_append_right _ (List.mem_singleton.mpr rfl))
  rw [readRow?, scan?_terminated, Option.bind_some]
  simp only [read]
  exact List.mapM_pure

theorem rows_of_ofBlocks (made : ofBlocks blocks = .ok matrix) : matrix.rows = blocks.map BlockLocation.hosts := by
  obtain ⟨-, rfl⟩ := ofBlocks_eq_ok_iff.mp made
  rw [rows, upToNull_of_scan? (scan?_terminated _), List.map_map]
  exact List.map_congr_left fun block _ => upToNull_of_scan? (scan?_terminated block.hosts)

/-- A reader finds a row for each block, and in it the hosts of the block. -/
theorem read?_of_ofBlocks (made : ofBlocks blocks = .ok matrix) :
    matrix.read? = some (blocks.map fun block => block.hosts.map Utf8.encode) := by
  obtain ⟨accepted, rfl⟩ := ofBlocks_eq_ok_iff.mp made
  have whole := firstRefusal_eq_none_iff.mp accepted
  rw [read?, scan?_terminated, Option.bind_some, List.mapM_map]
  simp only [Function.comp_def, readRow?_terminated]
  refine List.mapM_pure.trans (congrArg some (List.map_congr_left fun block member => ?_))
  exact List.map_congr_left fun host held => cutText_terminated (whole block member host held)

end HostMatrix

/-! ## Empty ranges -/

theorem Block.overlapping_of_behind {start stop offset : Nat} {blocks : List Block}
    (behind : offset + (contents blocks).length ≤ start) : overlapping start stop offset blocks = [] := by
  induction blocks generalizing offset with
  | nil => rfl
  | cons block rest ih =>
    rw [contents_cons, List.length_append] at behind
    rw [overlapping, if_neg (by omega), ih (by omega)]

namespace Storage

variable {storage : Storage} {client : Nat} {backend : Backend} {directory : Location} {path : Path}

/-- A client without a script finds no block in a range that is empty or begins behind the end of the file. -/
theorem blockLocations_of_nothing (found : storage.clients[client]? = some ⟨backend, directory, .none⟩)
    {record : FileStatus} (told : status client path storage = .ok record storage) {start length : UInt64}
    (nothing : length = 0 ∨ record.size ≤ start.toNat) :
    blockLocations client path start length storage = .ok [] storage := by
  cases backend with
  | cluster number =>
    cases present : storage.clusters[number]? with
    | none =>
      rw [status, bind_run, clientAt_of_some found] at told
      have stuck : askCluster number (·.status (directory.resolve path)) storage = .error .unknown storage := by
        rw [askCluster, bind_run, clusterAt_of_none present]
      cases stuck.symm.trans told
    | some cluster =>
      rw [status_of_cluster found present] at told
      obtain ⟨told, -⟩ := ok_of_answerOf told
      rw [blockLocations_of_cluster found present, Cluster.blockLocations]
      rw [Cluster.status] at told
      cases seen : cluster.tree.get? (directory.resolve path) with
      | none =>
        rw [seen] at told
        cases told
      | some entry =>
        cases entry with
        | directory modified => rfl
        | file node =>
          rw [seen] at told
          obtain rfl := Except.ok.inj told
          simp only
          split
          · rfl
          · next asked =>
            have behind : 0 + (Block.contents node.blocks).length ≤ start.toNat := by
              rw [Nat.zero_add, ← FileNode.bytes_eq, FileNode.length_bytes]
              exact nothing.resolve_left asked
            rw [Block.overlapping_of_behind behind]
            rfl
  | disk conf =>
    cases isDirectory : record.isDirectory with
    | true =>
      have seen := (ok_of_answerOf ((status_of_disk found).symm.trans told)).1
      have counted : LocalDisk.blockLocations conf storage.disk (directory.resolve path) start length = .ok [] := by
        simp only [LocalDisk.blockLocations, seen, bind, Except.bind, isDirectory]
        rfl
      rw [blockLocations, bind_run, clientAt_of_some found]
      exact congrArg (answerOf · storage) counted
    | false =>
      have none : length.toNat = 0 ∨ record.size ≤ start.toNat := nothing.imp_left fun zero => by rw [zero]; rfl
      rw [blockLocations_of_status found told isDirectory, LocalDisk.blocks, if_pos none]

end Storage

/-! ## Calls for hosts -/

namespace Engine

variable {α : Type} {engine after : Engine} {thread client : Nat} {reference found : Reference} {object : Object}

/-- A local reference is made exactly if the thread has room for one. -/
theorem newLocal_ok_iff_room (orderly : engine.Orderly) :
    (∃ made after, newLocal thread object engine = .ok made after) ↔ engine.liveLocals thread < Reference.maxSlots := by
  have consistent := (orderly thread).consistent
  have full := ReferenceTable.insert_eq_none_iff consistent object
  have bounded := ReferenceTable.live_le consistent
  rw [liveLocals]
  cases stored : (engine.framesOf thread).table.insert object with
  | none =>
    rw [newLocal_of_none stored]
    refine iff_of_false ?_ (full.mp stored).not_lt
    rintro ⟨made, after, ran⟩
    cases ran
  | some result =>
    obtain ⟨top, rest, stack⟩ := List.exists_cons_of_ne_nil (orderly thread).grounded
    refine iff_of_true ⟨_, _, newLocal_of_some stack stored⟩ (lt_of_le_of_ne bounded fun same => ?_)
    cases (full.mpr same).symm.trans stored

/-- An answer is kept exactly if the reference means a client, it answers, and the thread has room. -/
theorem keep_ok_iff {wrap : α → Object} {action : Nat → Action α} (orderly : engine.Orderly)
    (isGlobal : reference.isGlobal = true) (value : α) (injective : Function.Injective wrap) :
    (∃ found after, keep thread reference wrap action engine = .ok found after ∧
      after.object? thread found = some (wrap value)) ↔
    ∃ client storage, engine.globals.get? reference = some (.fileSystem client) ∧
      action client engine.storage = .ok value storage ∧ engine.liveLocals thread < Reference.maxSlots := by
  constructor
  · rintro ⟨found, after, kept, stands⟩
    obtain ⟨client, start, asked, ran⟩ := ok_of_bind kept
    obtain ⟨resolves, rfl⟩ := fileSystem_ok isGlobal asked
    obtain ⟨answer, middle, acted, made⟩ := ok_of_bind ran
    have moved := onStorage_moved (action client) start
    rw [acted] at moved
    have orderlyMiddle : middle.Orderly := moved.orderly orderly
    obtain rfl : answer = value :=
      injective (Option.some.inj ((newLocal_ok orderlyMiddle made).symm.trans stands))
    have room := (newLocal_ok_iff_room orderlyMiddle).mp ⟨found, after, made⟩
    rw [onStorage] at acted
    split at acted
    · next answered =>
      cases acted
      exact ⟨client, _, resolves, answered, room⟩
    · cases acted
  · rintro ⟨client, storage, resolves, answered, room⟩
    have asked : fileSystem thread reference engine = .ok client engine := by rw [fileSystem_run isGlobal, resolves]
    have acted : onStorage (action client) engine = .ok value { engine with storage } := by rw [onStorage, answered]
    have orderlyMiddle : Orderly { engine with storage } := orderly
    have stored : ∃ made after, newLocal thread (wrap value) { engine with storage } = .ok made after :=
      (newLocal_ok_iff_room orderlyMiddle).mpr room
    obtain ⟨made, after, ran⟩ := stored
    refine ⟨made, after, ?_, newLocal_ok orderlyMiddle ran⟩
    rw [keep, bind_of_ok asked, bind_of_ok acted, ran]

/-- What is got out of an object is what its class has. -/
theorem ok_of_cast {expected : String} {read : Object → Option α} {value : α}
    (ran : cast expected read thread reference engine = .ok value after) :
    ∃ object, engine.object? thread reference = some object ∧ read object = some value := by
  rw [cast] at ran
  obtain ⟨object, middle, resolved, reads⟩ := ok_of_bind ran
  rw [resolve_run] at resolved
  cases stands : engine.object? thread reference with
  | none =>
    rw [stands] at resolved
    cases resolved
  | some held =>
    rw [stands] at resolved
    cases resolved
    cases isValue : read object with
    | none =>
      rw [isValue] at reads
      cases reads
    | some found =>
      rw [isValue] at reads
      cases reads
      exact ⟨object, rfl, isValue⟩

end Engine

namespace Gateway

variable {gateway : Gateway} {thread client : Nat} {fileSystem : UInt64} {path : Option Bytes} {start length : Int64}
  {asked : Path} {blocks : List BlockLocation}

/-- What a call for hosts is given means a range at a path of a client, and its thread has room for a reference. -/
structure AsksHosts (gateway : Gateway) (thread : Nat) (fileSystem : UInt64) (path : Option Bytes)
    (start length : Int64) (client : Nat) (asked : Path) : Prop where
  connected : ∃ reference, Reference.ofRaw? fileSystem = some reference ∧
    gateway.engine.globals.get? reference = some (.fileSystem client)
  named : ∃ bytes, path = some bytes ∧ Utf8.isValid (cutText bytes) ∧ asked = ⟨cutText bytes⟩
  start : ¬start.toInt < 0
  length : ¬length.toInt < 0
  room : gateway.engine.liveLocals thread < Reference.maxSlots

/-- A call for hosts asks a client, which answers with blocks. -/
def FindsBlocks (gateway : Gateway) (thread : Nat) (fileSystem : UInt64) (path : Option Bytes) (start length : Int64)
    (blocks : List BlockLocation) : Prop :=
  ∃ client asked storage, gateway.AsksHosts thread fileSystem path start length client asked ∧
    Storage.blockLocations client asked (.ofNat start.toInt.toNat) (.ofNat length.toInt.toNat) gateway.engine.storage =
      .ok blocks storage

/-- The part of a call for hosts that gets the blocks. -/
def hostBlocks (thread : Nat) (fileSystem : UInt64) (path : Option Bytes) (start length : Int64) :
    CallAction (List BlockLocation) := do
  let reference ← fileSystemArgument fileSystem
  let path ← pathArgument "path" path
  let start ← sizeArgument "start" start.toInt
  let length ← sizeArgument "length" length.toInt
  let blocks ← onEngine (Engine.blockLocations thread reference path (.ofNat start) (.ofNat length))
  onEngine (Engine.blockLocationArray thread blocks)

theorem getHosts_eq : getHosts thread fileSystem path start length = call thread .getHosts none (do
    let blocks ← hostBlocks thread fileSystem path start length
    return some (← orRefuse (HostMatrix.ofBlocks blocks))) := by
  simp only [getHosts, hostBlocks, bind_assoc]

theorem pathArgument_of_valid {name : String} {bytes : Bytes} (valid : Utf8.isValid (cutText bytes)) :
    pathArgument name (some bytes) gateway = .ok ⟨cutText bytes⟩ gateway := by
  rw [pathArgument, if_pos valid]
  rfl

theorem pathArgument_ok_valid {name : String} {bytes : Bytes} {argument : Path} {after : Gateway}
    (ran : pathArgument name (some bytes) gateway = .ok argument after) : Utf8.isValid (cutText bytes) := by
  rw [pathArgument] at ran
  split at ran
  · next valid => exact valid
  · cases ran

theorem sizeArgument_ok_iff {name : String} {value : Int} {size : Nat} {after : Gateway} :
    sizeArgument name value gateway = .ok size after ↔ ¬value < 0 ∧ size = value.toNat ∧ after = gateway := by
  rw [sizeArgument]
  by_cases negative : value < 0
  · rw [if_pos negative]
    refine iff_of_false (fun ran => ?_) fun given => given.1 negative
    cases ran
  · rw [if_neg negative]
    constructor
    · rintro ⟨⟩
      exact ⟨negative, rfl, rfl⟩
    · rintro ⟨-, rfl, rfl⟩
      rfl

/-- The blocks are got exactly if the arguments are good and the client that they mean answers. -/
theorem hostBlocks_ok_iff (sound : gateway.Sound) :
    (∃ after, hostBlocks thread fileSystem path start length gateway = .ok blocks after) ↔
      gateway.FindsBlocks thread fileSystem path start length blocks := by
  constructor
  · rintro ⟨after, ran⟩
    obtain ⟨reference, _, argued, named⟩ := ok_of_bind ran
    obtain ⟨isWord, isGlobal, same⟩ := fileSystemArgument_ok argued
    subst same
    obtain ⟨argument, _, parsed, begins⟩ := ok_of_bind named
    obtain ⟨bytes, rfl, rfl, same⟩ := pathArgument_ok parsed
    subst same
    obtain ⟨_, _, begun, counts⟩ := ok_of_bind begins
    obtain ⟨notBefore, rfl, same⟩ := sizeArgument_ok_iff.mp begun
    subst same
    obtain ⟨_, _, counted, asks⟩ := ok_of_bind counts
    obtain ⟨notNegative, rfl, same⟩ := sizeArgument_ok_iff.mp counted
    subst same
    obtain ⟨kept, _, asked, gets⟩ := ok_of_bind asks
    obtain ⟨engine, keeps, rfl⟩ := onEngine_ok asked
    obtain ⟨_, casts, -⟩ := onEngine_ok gets
    obtain ⟨object, stands, holds⟩ := Engine.ok_of_cast casts
    obtain rfl : object = .blockLocations blocks := by
      cases object <;> cases holds
      rfl
    obtain ⟨client, storage, resolves, answered, room⟩ :=
      (Engine.keep_ok_iff sound.orderly isGlobal blocks fun _ _ => Object.blockLocations.inj).mp ⟨_, _, keeps, stands⟩
    exact ⟨client, _, storage, ⟨⟨reference, isWord, resolves⟩, ⟨bytes, rfl, pathArgument_ok_valid parsed, rfl⟩,
      notBefore, notNegative, room⟩, answered⟩
  · rintro ⟨client, asked, storage, ⟨⟨reference, isWord, resolves⟩, ⟨bytes, rfl, valid, rfl⟩, begins, counts, room⟩,
      answered⟩
    have isGlobal := sound.isGlobal resolves
    have kept : ∃ found engine, Engine.blockLocations thread reference ⟨cutText bytes⟩ (.ofNat start.toInt.toNat)
        (.ofNat length.toInt.toNat) gateway.engine = .ok found engine ∧
          engine.object? thread found = some (.blockLocations blocks) :=
      (Engine.keep_ok_iff sound.orderly isGlobal blocks fun _ _ => Object.blockLocations.inj).mpr
        ⟨client, storage, resolves, answered, room⟩
    obtain ⟨found, engine, keeps, stands⟩ := kept
    refine ⟨{ gateway with engine }, ?_⟩
    rw [hostBlocks, bind_of_ok (fileSystemArgument_of_some isWord isGlobal), bind_of_ok (pathArgument_of_valid valid),
      bind_of_ok (sizeArgument_ok_iff.mpr ⟨begins, rfl, rfl⟩), bind_of_ok (sizeArgument_ok_iff.mpr ⟨counts, rfl, rfl⟩),
      bind_of_ok (onEngine_of_ok keeps)]
    exact onEngine_of_ok (Engine.cast_of_some stands rfl)

/-- The frame of a call changes nothing of what the call is asked. -/
theorem findsBlocks_pushed :
    (gateway.pushed thread).FindsBlocks thread fileSystem path start length blocks ↔
      gateway.FindsBlocks thread fileSystem path start length blocks := by
  have sameLive : (gateway.pushed thread).engine.liveLocals thread = gateway.engine.liveLocals thread := by
    rw [Engine.liveLocals, pushed, Engine.framesOf_setFrames, if_pos rfl]
    rfl
  constructor
  · rintro ⟨client, asked, storage, ⟨connected, named, begins, counts, room⟩, answered⟩
    exact ⟨client, asked, storage, ⟨connected, named, begins, counts, sameLive ▸ room⟩, answered⟩
  · rintro ⟨client, asked, storage, ⟨connected, named, begins, counts, room⟩, answered⟩
    exact ⟨client, asked, storage, ⟨connected, named, begins, counts, sameLive ▸ room⟩, answered⟩

theorem hostBlocks_silent (thread : Nat) (fileSystem : UInt64) (path : Option Bytes) (start length : Int64) :
    Within Silent 0 (hostBlocks thread fileSystem path start length) :=
  .after (fileSystemArgument_within _) fun _ => .after (pathArgument_within _ _) fun _ =>
    .after (sizeArgument_within _ _) fun _ => .after (sizeArgument_within _ _) fun _ =>
      .after (onEngine_silent _) fun _ => onEngine_silent _

/-- What was found is handed out, or the error of what cannot be handed out is recorded. -/
theorem getHosts_of_blocks (sound : gateway.Sound)
    (finds : gateway.FindsBlocks thread fileSystem path start length blocks) :
    let called := getHosts thread fileSystem path start length gateway
    (∀ matrix, HostMatrix.ofBlocks blocks = .ok matrix → called.1 = some matrix ∧ called.2.errors = gateway.errors) ∧
    ∀ error, HostMatrix.ofBlocks blocks = .error error →
      called.1 = none ∧ called.2.errors = gateway.errors.insert thread (.record error) := by
  intro called
  obtain ⟨after, found⟩ := (hostBlocks_ok_iff (sound.pushed thread)).mpr (findsBlocks_pushed.mpr finds)
  have silent : after.errors = gateway.errors := by
    have same := hostBlocks_silent thread fileSystem path start length (gateway.pushed thread)
    rwa [found] at same
  refine ⟨fun matrix made => ?_, fun error refused => ?_⟩
  · have ran : called = (some matrix, after.popped thread) := by
      simp only [called, getHosts_eq, call_run]
      rw [bind_of_ok found, made]
      rfl
    rw [ran]
    exact ⟨rfl, (errors_popped after thread).trans silent⟩
  · have ran : called = (none, (after.popped thread).record thread error) := by
      simp only [called, getHosts_eq, call_run]
      rw [bind_of_ok found, refused]
      rfl
    rw [ran]
    refine ⟨rfl, ?_⟩
    rw [record, errors_popped, silent]

/-- Nothing is handed out but what was found. -/
theorem findsBlocks_of_getHosts (sound : gateway.Sound) {matrix : HostMatrix}
    (handed : (getHosts thread fileSystem path start length gateway).1 = some matrix) :
    ∃ blocks, gateway.FindsBlocks thread fileSystem path start length blocks ∧
      HostMatrix.ofBlocks blocks = .ok matrix := by
  rw [getHosts_eq, call_run] at handed
  split at handed
  · next value after ran =>
    obtain ⟨blocks, middle, found, hands⟩ := ok_of_bind ran
    have finds := findsBlocks_pushed.mp ((hostBlocks_ok_iff (sound.pushed thread)).mp ⟨middle, found⟩)
    cases made : HostMatrix.ofBlocks blocks with
    | error error =>
      rw [made] at hands
      cases hands
    | ok given =>
      rw [made] at hands
      cases hands
      exact ⟨blocks, finds, made.trans (congrArg _ (Option.some.inj handed))⟩
  · cases handed

/-- Of any blocks, a matrix is made, or they are refused as an internal error; they are refused exactly if the bytes
of some host have a NUL byte among them. A reader of the matrix that goes by nulls and NUL bytes alone gets to the end
of every array and every name, and finds a row for each block with just the hosts of the block, in order; no two names
have the same bytes. In every run, a call for hosts hands out a matrix exactly if its arguments are good, the client
that they mean answers with blocks, and a matrix is made of these; otherwise it gives null. If the matrix is refused,
that is the error recorded. Of a client without a script, a range that is empty or begins at the end of a file or
behind it gives an array with nothing but its null. -/
theorem host_matrices_read_back (storage : Storage) (conf : Configuration) (steps : List GatewayStep) (thread : Nat)
    (fileSystem : UInt64) (path : Option Bytes) (start length : Int64) :
    let gateway := (new (.new storage conf)).run steps
    let called := getHosts thread fileSystem path start length gateway
    (∀ blocks error, HostMatrix.ofBlocks blocks = .error error → error.kind = .internalError) ∧
    (∀ blocks, (∃ error, HostMatrix.ofBlocks blocks = .error error) ↔
      ∃ block ∈ blocks, ∃ host ∈ block.hosts, 0 ∈ Utf8.encode host) ∧
    (∀ blocks matrix, HostMatrix.ofBlocks blocks = .ok matrix → matrix.rows = blocks.map BlockLocation.hosts ∧
      matrix.read? = some (blocks.map fun block => block.hosts.map Utf8.encode)) ∧
    Function.Injective Utf8.encode ∧
    (∀ matrix, called.1 = some matrix ↔ ∃ blocks, gateway.FindsBlocks thread fileSystem path start length blocks ∧
      HostMatrix.ofBlocks blocks = .ok matrix) ∧
    (called.1 ≠ none → called.2.errors = gateway.errors) ∧
    (∀ blocks error, gateway.FindsBlocks thread fileSystem path start length blocks →
      HostMatrix.ofBlocks blocks = .error error →
      called.1 = none ∧ called.2.errors = gateway.errors.insert thread ⟨some error, 255⟩) ∧
    ∀ client asked backend directory record, gateway.AsksHosts thread fileSystem path start length client asked →
      gateway.engine.storage.clients[client]? = some ⟨backend, directory, .none⟩ →
      Storage.status client asked gateway.engine.storage = .ok record gateway.engine.storage →
      length = 0 ∨ record.size ≤ start.toInt → called.1 = some [none] := by
  intro gateway called
  have sound : gateway.Sound := (sound_new storage conf).run steps
  have handed (blocks : List BlockLocation) (finds : gateway.FindsBlocks thread fileSystem path start length blocks) :=
    getHosts_of_blocks sound finds
  refine ⟨fun blocks error refused => ?_, fun blocks => ?_, fun blocks matrix made =>
    ⟨HostMatrix.rows_of_ofBlocks made, HostMatrix.read?_of_ofBlocks made⟩, Utf8.encode_injective,
    fun matrix => ⟨findsBlocks_of_getHosts sound, ?_⟩, fun some => ?_, fun blocks error finds refused => ?_, ?_⟩
  · exact HostMatrix.kind_of_firstRefusal (HostMatrix.ofBlocks_eq_error_iff.mp refused)
  · have accepted : HostMatrix.firstRefusal? blocks ≠ none ↔ _ := not_congr HostMatrix.firstRefusal_eq_none_iff
    push Not at accepted
    rw [← accepted, Option.ne_none_iff_exists']
    simp only [HostMatrix.ofBlocks_eq_error_iff]
  · rintro ⟨blocks, finds, made⟩
    exact ((handed blocks finds).1 matrix made).1
  · obtain ⟨matrix, given⟩ := Option.ne_none_iff_exists'.mp some
    obtain ⟨blocks, finds, made⟩ := findsBlocks_of_getHosts sound given
    exact ((handed blocks finds).1 matrix made).2
  · have internal := HostMatrix.kind_of_firstRefusal (HostMatrix.ofBlocks_eq_error_iff.mp refused)
    obtain ⟨isNull, recorded⟩ := (handed blocks finds).2 error refused
    rw [ThreadErrors.record, internal] at recorded
    exact ⟨isNull, recorded⟩
  · intro client asked backend directory record asks isClient told nothing
    have empty : (UInt64.ofNat length.toInt.toNat) = 0 ∨ record.size ≤ (UInt64.ofNat start.toInt.toNat).toNat := by
      refine nothing.imp (fun zero => by rw [zero]; rfl) fun behind => ?_
      have small : start.toInt.toNat < UInt64.size := by
        have bound := start.toInt_lt
        rw [UInt64.size]
        omega
      rw [UInt64.toNat_ofNat_of_lt' small]
      omega
    have found := Storage.blockLocations_of_nothing isClient told empty
    exact ((handed [] ⟨client, asked, _, asks, found⟩).1 _ rfl).1

/-- A file in two blocks on a cluster of two datanodes, one of which has an empty name. -/
def nameless : List GatewayStep :=
  [.request (.startCluster "nn:1" .default ["", "b"] 1), .register "nn:1" ⟨0, .none⟩,
    .native 0 (.connect (some [110, 110]) 1), .request (.createFile 0 ⟨[47, 102]⟩ ⟨false, 1, 2, 2⟩),
    .request (.call 0 (.write [1, 2, 3]))]

/-- The empty name is read back from each row, a range at the end of the file gives only the null, and a row without
hosts does not hide the one behind it; but a name with a NUL byte is refused. -/
theorem host_matrices_read_back_of_nameless :
    let gateway := (new (.new (.new 0 (.new 0 .root 0 0)) .default)).run nameless
    let matrix : HostMatrix := [some [some "", some "b", none], some [some "b", some "", none], none]
    (getHosts 0 0x100000001 (some [47, 102]) 0 3 gateway).1 = some matrix ∧
      matrix.read? = some [[[], [98]], [[98], []]] ∧
      (getHosts 0 0x100000001 (some [47, 102]) 3 1 gateway).1 = some [none] ∧
      (∀ made, HostMatrix.ofBlocks [⟨0, 1, []⟩, ⟨1, 1, ["b"]⟩] = .ok made → made.rows = [[], ["b"]]) ∧
      ∃ error, HostMatrix.ofBlocks [⟨0, 1, ["b", "a\x00"]⟩] = .error error ∧ error.kind = .internalError := by
  intro gateway matrix
  obtain ⟨-, -, reads, -, hands, -⟩ := host_matrices_read_back (.new 0 (.new 0 .root 0 0)) .default nameless 0
    0x100000001 (some [47, 102]) 0 3
  obtain ⟨internal, refuses, rows, -, -, -, -, empty⟩ := host_matrices_read_back (.new 0 (.new 0 .root 0 0)) .default
    nameless 0 0x100000001 (some [47, 102]) 3 1
  have asks (start length : Int64) (nonnegative : ¬start.toInt < 0 ∧ ¬length.toInt < 0) :
      gateway.AsksHosts 0 0x100000001 (some [47, 102]) start length 0 ⟨[47, 102]⟩ :=
    ⟨⟨⟨0x100000001, by decide⟩, rfl, by decide +kernel⟩, ⟨[47, 102], rfl, by decide, rfl⟩, nonnegative.1, nonnegative.2,
      by decide +kernel⟩
  have made : HostMatrix.ofBlocks [⟨0, 2, ["", "b"]⟩, ⟨2, 1, ["b", ""]⟩] = .ok matrix := by decide +kernel
  obtain ⟨error, refused⟩ := (refuses [⟨0, 1, ["b", "a\x00"]⟩]).mpr
    ⟨_, List.mem_singleton.mpr rfl, "a\x00", by decide, by decide +kernel⟩
  refine ⟨(hands matrix).mpr ⟨_, ⟨0, ⟨[47, 102]⟩, _, asks 0 3 (by decide), rfl⟩, made⟩, ?_, ?_,
    fun made given => (rows _ made given).1, error, refused, internal _ _ refused⟩
  · rw [(reads _ matrix made).2]
    decide +kernel
  · exact empty 0 ⟨[47, 102]⟩ (.cluster 0) .root _ (asks 3 1 (by decide)) rfl rfl (.inr (by decide +kernel))

end Gateway

end FileGateway
