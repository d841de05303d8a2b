import FileGateway.Proofs.BlockLayout
import Mathlib.Data.List.Intervals

/-! # Block queries

A cluster scans the blocks of a file with a running offset; the disk has no blocks and counts them by division. Both
give the blocks that share a byte with the range, in order: since no block is empty, one that begins before the range
ends and ends behind where it begins does share one; and since all blocks but the last are full, they begin at the
multiples of their size, where the disk counts them.
-/

namespace FileGateway

namespace BlockLocation

variable {start length : Nat} {block : BlockLocation}

/-- A block shares a byte with the range of so many bytes from a start. -/
def Meets (start length : Nat) (block : BlockLocation) : Prop :=
  ∃ position, block.offset ≤ position ∧ position < block.offset + block.size ∧
    start ≤ position ∧ position < start + length

theorem meets_iff : block.Meets start length ↔
    0 < block.size ∧ 0 < length ∧ block.offset < start + length ∧ start < block.offset + block.size := by
  constructor
  · rintro ⟨position, _⟩
    omega
  · intro _
    exact ⟨max block.offset start, by omega⟩

instance (start length : Nat) (block : BlockLocation) : Decidable (block.Meets start length) :=
  decidable_of_iff _ meets_iff.symm

/-- Where a block begins and how long it is. -/
def extent (block : BlockLocation) : Nat × Nat := (block.offset, block.size)

end BlockLocation

namespace Block

variable {blockBytes start stop offset : Nat} {blocks : List Block}

/-- The blocks of a file, the first of which begins at an offset. -/
def located : Nat → List Block → List BlockLocation
  | _, [] => []
  | offset, block :: rest =>
    ⟨offset, block.data.length, block.hosts⟩ :: located (offset + block.data.length) rest

/-- The scan gives the blocks that begin before the stop and end behind the start. -/
theorem overlapping_eq_filter (start stop offset : Nat) (blocks : List Block) :
    (overlapping start stop offset blocks).map (fun found =>
      (⟨found.1, found.2.data.length, found.2.hosts⟩ : BlockLocation)) =
      (located offset blocks).filter fun block => block.offset < stop ∧ start < block.offset + block.size := by
  induction blocks generalizing offset with
  | nil => rfl
  | cons block rest ih =>
    rw [overlapping, located, List.filter_cons]
    simp only [decide_eq_true_eq]
    split
    · rw [List.map_cons, ih]
    · exact ih _

/-- Every block is where its file is, and no block is empty. -/
theorem mem_located {block : BlockLocation} (canonical : Canonical blockBytes blocks)
    (member : block ∈ located offset blocks) :
    0 < block.size ∧ offset ≤ block.offset ∧ block.offset + block.size ≤ offset + (contents blocks).length := by
  induction blocks generalizing offset with
  | nil => simp [located] at member
  | cons first rest ih =>
    have nonempty := List.length_pos_iff.mpr (canonical.nonempty first (List.mem_cons_self ..))
    rw [contents_cons, List.length_append]
    rcases List.mem_cons.mp member with rfl | behind
    · simp only
      omega
    · have later := ih canonical.tail behind
      omega

/-- The blocks follow each other. -/
theorem located_pairwise (canonical : Canonical blockBytes blocks) (offset : Nat) :
    (located offset blocks).Pairwise fun first second => first.offset + first.size ≤ second.offset := by
  induction blocks generalizing offset with
  | nil => exact .nil
  | cons block rest ih =>
    exact .cons (fun later behind => (mem_located canonical.tail behind).2.1) (ih canonical.tail _)

/-- The bytes between the ends of a block are its data. -/
theorem located_data (before : Bytes) (blocks : List Block) :
    ((located before.length blocks).map fun block =>
      ((before ++ contents blocks).drop block.offset).take block.size) = blocks.map Block.data := by
  induction blocks generalizing before with
  | nil => rfl
  | cons block rest ih =>
    have later := ih (before ++ block.data)
    rw [List.length_append, List.append_assoc, ← contents_cons] at later
    rw [located, List.map_cons, List.map_cons, later, List.drop_left, contents_cons, List.take_left]

/-- The blocks begin at the multiples of their size. -/
theorem located_extents (positive : 0 < blockBytes) (canonical : Canonical blockBytes blocks) (offset : Nat) :
    (located offset blocks).map BlockLocation.extent =
      (List.range (((contents blocks).length + blockBytes - 1) / blockBytes)).map fun index =>
        (offset + index * blockBytes, min blockBytes ((contents blocks).length - index * blockBytes)) := by
  induction blocks generalizing offset with
  | nil =>
    rw [show (contents []).length = 0 from rfl, Nat.div_eq_of_lt (by omega)]
    rfl
  | cons block rest ih =>
    have nonempty := List.length_pos_iff.mpr (canonical.nonempty block (List.mem_cons_self ..))
    have short := canonical.bounded block (List.mem_cons_self ..)
    have whole : (contents (block :: rest)).length = block.data.length + (contents rest).length := List.length_append
    have split : block.data.length = blockBytes ∨ (contents rest).length = 0 :=
      canonical.head.imp_right fun last => by rw [last]; rfl
    have left : (contents (block :: rest)).length - blockBytes = (contents rest).length := by omega
    rw [chunkCount_of_pos positive (by omega), left, List.range_succ_eq_map, List.map_cons, List.map_map, located,
      List.map_cons, ih canonical.tail]
    refine congrArg₂ _ ?_ (List.map_congr_left fun index member => ?_)
    · simp only [BlockLocation.extent, Nat.zero_mul, Nat.add_zero, Nat.sub_zero, whole, Prod.mk.injEq, true_and]
      omega
    · have inside := (lt_chunkCount_iff positive).mp (List.mem_range.mp member)
      have full : block.data.length = blockBytes := split.resolve_right (by omega)
      rw [Function.comp_apply, Nat.succ_mul, whole, full, Nat.add_comm (index * blockBytes), Nat.add_sub_add_left,
        Nat.add_assoc]

end Block

/-! ## Counting by division -/

private theorem filter_range_between {count first last : Nat} (within : last ≤ count) :
    (List.range count).filter (fun index => first ≤ index ∧ index < last) = List.Ico first last := by
  have both (index : Nat) : decide (first ≤ index ∧ index < last) = (decide (first ≤ index) && decide (index < last)) :=
    Bool.decide_and ..
  simp only [both]
  rw [← List.filter_filter, ← List.Ico.zero_bot, List.Ico.filter_lt, List.Ico.filter_le,
    Nat.max_eq_right (Nat.zero_le _), Nat.min_eq_right within]

/-- The disk counts the blocks from the one that holds the start to the last that begins before the end. -/
theorem LocalDisk.blocks_extents {blockBytes size start length : Nat} (asked : 0 < length) (inside : start < size) :
    (LocalDisk.blocks blockBytes size start length).map BlockLocation.extent =
      (List.Ico (start / blockBytes) ((min (start + length) size + blockBytes - 1) / blockBytes)).map fun index =>
        (index * blockBytes, min blockBytes (size - index * blockBytes)) := by
  rw [blocks, if_neg (by omega), List.Ico, List.range'_eq_map_range, List.map_map, List.map_map]
  rfl

namespace Block

variable {blockBytes start length : Nat} {blocks : List Block}

/-- Of the blocks of a file, those that meet a range are the ones that the disk counts. -/
theorem filter_located_extents (positive : 0 < blockBytes) (canonical : Canonical blockBytes blocks)
    (start length : Nat) :
    ((located 0 blocks).filter (BlockLocation.Meets start length ·)).map BlockLocation.extent =
      (LocalDisk.blocks blockBytes (contents blocks).length start length).map BlockLocation.extent := by
  by_cases nothing : length = 0 ∨ (contents blocks).length ≤ start
  · rw [LocalDisk.blocks, if_pos nothing, List.map_nil, List.map_eq_nil_iff, List.filter_eq_nil_iff]
    intro block member
    have within := mem_located canonical member
    rw [decide_eq_true_eq, BlockLocation.meets_iff]
    omega
  · have within : (min (start + length) (contents blocks).length + blockBytes - 1) / blockBytes ≤
        ((contents blocks).length + blockBytes - 1) / blockBytes := Nat.div_le_div_right (by omega)
    -- no block is empty, so the extent alone says whether a block meets the range
    let reaches (extent : Nat × Nat) : Bool := extent.1 < start + length ∧ start < extent.1 + extent.2
    have meets (block : BlockLocation) (member : block ∈ located 0 blocks) :
        decide (block.Meets start length) = (reaches ∘ BlockLocation.extent) block := by
      have held := (mem_located canonical member).1
      rw [Function.comp_apply, decide_eq_decide, BlockLocation.meets_iff, BlockLocation.extent]
      omega
    rw [LocalDisk.blocks_extents (by omega) (by omega), ← filter_range_between within, List.filter_congr meets,
      ← List.filter_map, located_extents positive canonical 0]
    simp only [Nat.zero_add]
    rw [List.filter_map]
    refine congrArg _ (List.filter_congr fun index member => ?_)
    have begins := (lt_chunkCount_iff positive).mp (List.mem_range.mp member)
    rw [Function.comp_apply, decide_eq_decide, ← Nat.lt_succ_iff, Nat.div_lt_iff_lt_mul positive,
      lt_chunkCount_iff positive, Nat.succ_mul]
    omega

end Block

/-- A cluster gives the blocks of a file that meet the range, also where its end is no 64-bit number any more. -/
theorem Cluster.blockLocations_eq {cluster : Cluster} {location : Location} {node : FileNode}
    (isFile : cluster.tree.file? location = some node) (canonical : Block.Canonical node.blockBytes node.blocks)
    (bounded : node.size < UInt64.size) (start length : UInt64) : cluster.blockLocations location start length =
      .ok ((Block.located 0 node.blocks).filter (BlockLocation.Meets start.toNat length.toNat ·)) := by
  rw [blockLocations, Namespace.file?_eq_some_iff.mp isFile]
  simp only
  split
  · next zero =>
    have nothing : (Block.located 0 node.blocks).filter (BlockLocation.Meets start.toNat length.toNat ·) = [] := by
      rw [List.filter_eq_nil_iff]
      intro block _
      rw [decide_eq_true_eq, BlockLocation.meets_iff, zero, UInt64.toNat_zero]
      omega
    rw [nothing]
  · next nonzero =>
    have positive : 0 < length.toNat := Nat.pos_of_ne_zero fun zero => nonzero (UInt64.toNat_inj.mp zero)
    refine congrArg Except.ok ((Block.overlapping_eq_filter ..).trans (List.filter_congr fun block member => ?_))
    have within := Block.mem_located canonical member
    rw [← FileNode.bytes_eq, FileNode.length_bytes] at within
    rw [decide_eq_decide, BlockLocation.meets_iff]
    omega

namespace Storage

variable {storage : Storage} {client number : Nat} {directory : Location} {cluster : Cluster} {conf : Configuration}
  {path : Path}

theorem blockLocations_of_cluster (found : storage.clients[client]? = some ⟨.cluster number, directory, .none⟩)
    (present : storage.clusters[number]? = some cluster) (start length : UInt64) :
    blockLocations client path start length storage =
      answerOf (cluster.blockLocations (directory.resolve path) start length) storage := by
  rw [blockLocations, bind_run, clientAt_of_some found]
  exact askCluster_of_some present _

/-- A local client counts the blocks of a file of the size that its status tells. -/
theorem blockLocations_of_status (found : storage.clients[client]? = some ⟨.disk conf, directory, .none⟩)
    {record : FileStatus} (told : status client path storage = .ok record storage) (isFile : record.isDirectory = false)
    (start length : UInt64) : blockLocations client path start length storage =
      .ok (LocalDisk.blocks (max conf.localBlockSize.toNat 1) record.size start.toNat length.toNat) storage := by
  have asked : status client path storage =
      answerOf (LocalDisk.status conf storage.disk (directory.resolve path)) storage := by
    rw [status, bind_run, clientAt_of_some found]
    rfl
  have seen := (ok_of_answerOf (asked.symm.trans told)).1
  have counted : LocalDisk.blockLocations conf storage.disk (directory.resolve path) start length =
      .ok (LocalDisk.blocks (max conf.localBlockSize.toNat 1) record.size start.toNat length.toNat) := by
    simp only [LocalDisk.blockLocations, seen, bind, Except.bind, isFile]
    rfl
  rw [blockLocations, bind_run, clientAt_of_some found]
  exact congrArg (answerOf · storage) counted

/-- After every run, of every file on a cluster whose size is a 64-bit number: the blocks follow each other, each where
its data is in the file, and a query for any 64-bit range gives just those that share a byte with it, in order, with
their hosts; so it gives nothing if the range is empty or begins at the end or behind. A local client that blocks of
the same size are configured for, zero counting as one, gives the same offsets and sizes for a file that is as long. -/
theorem block_queries_exact (now : Int) (disk : Disk) (requests : List Request) (client number : Nat)
    (directory : Location) (cluster : Cluster) (path : Path) (node : FileNode) (start length : UInt64) :
    let storage := (new now disk).run requests
    let blocks := Block.located 0 node.blocks
    let meeting := blocks.filter (BlockLocation.Meets start.toNat length.toNat ·)
    storage.clients[client]? = some ⟨.cluster number, directory, .none⟩ →
    storage.clusters[number]? = some cluster → cluster.tree.file? (directory.resolve path) = some node →
    node.size < UInt64.size →
    blocks.Pairwise (fun first second => first.offset + first.size ≤ second.offset) ∧
    (blocks.map fun block => (node.bytes.drop block.offset).take block.size) = node.blocks.map Block.data ∧
    blockLocations client path start length storage = .ok meeting storage ∧
    (length = 0 ∨ node.size ≤ start.toNat → meeting = []) ∧
    ∀ other conf home place record, storage.clients[other]? = some ⟨.disk conf, home, .none⟩ →
      status other place storage = .ok record storage → record.kind = .file → record.size = node.size →
      max conf.localBlockSize.toNat 1 = max node.blockSize.toNat 1 →
      ∃ counted, blockLocations other place start length storage = .ok counted storage ∧
        counted.map BlockLocation.extent = meeting.map BlockLocation.extent := by
  intro storage blocks meeting found present isFile bounded
  have canonical := laidOut_run now disk requests present _ node isFile
  have extents := Block.filter_located_extents node.blockBytes_pos canonical start.toNat length.toNat
  rw [← FileNode.bytes_eq, FileNode.length_bytes] at extents
  refine ⟨Block.located_pairwise canonical 0, Block.located_data [] node.blocks, ?_, fun nothing => ?_, ?_⟩
  · rw [blockLocations_of_cluster found present, Cluster.blockLocations_eq isFile canonical bounded]
    rfl
  · rw [← UInt64.toNat_inj, UInt64.toNat_zero] at nothing
    rw [LocalDisk.blocks, if_pos nothing] at extents
    exact List.map_eq_nil_iff.mp extents
  · intro other conf home place record known told isRecord size sameBlocks
    have notDirectory : record.isDirectory = false := by rw [FileStatus.isDirectory, isRecord]; rfl
    refine ⟨_, blockLocations_of_status known told notDirectory start length, ?_⟩
    rw [size, sameBlocks]
    exact extents.symm

/-- Five bytes in blocks of two bytes, on a cluster and on a disk. -/
def twins : List Request :=
  [.startCluster "nn:1" .default ["dn"] 1, .joinCluster 0, .createFile 0 ⟨[47, 102]⟩ ⟨false, 1, 1, 2⟩,
    .call 0 (.write [1, 2, 3, 4, 5]), .joinDisk { (default : Configuration) with localBlockSize := 2 },
    .createFile 1 ⟨[47, 102]⟩ .none, .call 1 (.write [1, 2, 3, 4, 5]), .call 1 .close]

/-- A range that begins in the second block and goes on beyond all numbers meets the second block and the last, which
is not full, on the cluster and on the disk. -/
theorem block_queries_exact_of_twins : let storage := (new 0 (.new 0 .root 0 0)).run twins
    blockLocations 0 ⟨[47, 102]⟩ 3 0xFFFFFFFFFFFFFFFF storage = .ok [⟨2, 2, ["dn"]⟩, ⟨4, 1, ["dn"]⟩] storage ∧
    ∃ counted, blockLocations 1 ⟨[47, 102]⟩ 3 0xFFFFFFFFFFFFFFFF storage = .ok counted storage ∧
      counted.map BlockLocation.extent = [(2, 2), (4, 1)] := by
  intro storage
  obtain ⟨-, -, scanned, -, onDisk⟩ := block_queries_exact 0 (.new 0 .root 0 0) twins 0 0 .root _ ⟨[47, 102]⟩ _ 3
    0xFFFFFFFFFFFFFFFF rfl rfl rfl (by decide)
  exact ⟨scanned, onDisk 1 _ .root ⟨[47, 102]⟩ _ rfl rfl rfl rfl rfl⟩

end Storage

end FileGateway
