import FileGateway.Proofs.BlockQueries
import FileGateway.Proofs.Cluster.Words
import FileGateway.Proofs.ReplicaPlacement
import FileGateway.Proofs.TruthfulSentinels

/-! # All words but the capacity are large enough

What a cluster calculates with is bounded by what it holds. The cursor is no further than placements were made. A
file that wants replicas, on a cluster that has datanodes, has a host for each of its blocks, so its size is no more
than the bytes of all replicas. With both below 63 bits nothing overflows, and what a cluster uses is told exactly.
Only the capacity comes from nothing but the configuration: where overflows are checked, asking for one that is no word
crashes the call, and where they are not, it is told modulo the size of a word.
-/

namespace FileGateway

open Gateway (offsetLimit)

variable {datanodes excluded : List String} {replication wanted : UInt16} {cursor : UInt64}

/-! ## Blocks with hosts -/

theorem place_ne_nil (wanting : replication ≠ 0) (available : candidates datanodes excluded ≠ []) (cursor : UInt64) :
    (place datanodes replication excluded cursor).1 ≠ [] := by
  have positive := List.length_pos_iff.mpr available
  have several : 0 < replication.toNat := Nat.pos_of_ne_zero fun none => wanting (UInt16.toNat_inj.mp none)
  rw [place]
  change (if (candidates datanodes excluded).isEmpty then _ else _ : List String × UInt64).1 ≠ []
  rw [if_neg (by simpa using available)]
  intro nothing
  have first := List.filterMap_eq_nil_iff.mp nothing 0 (List.mem_range.mpr (by
    change 0 < min replication.toNat (candidates datanodes excluded).length
    omega))
  exact (Nat.mod_lt _ positive).not_ge (List.getElem?_eq_none_iff.mp first)

theorem candidates_nil (datanodes : List String) : candidates datanodes [] = datanodes := by
  simp [candidates]

namespace Layout

variable {blockBytes : Nat} {layout : Layout}

theorem appendStep_hosted (wanting : replication ≠ 0) (available : datanodes ≠ []) (blockBytes : Nat) (data : Bytes)
    (hosted : ∀ block ∈ layout.blocks, block.hosts ≠ []) :
    ∀ block ∈ (appendStep datanodes blockBytes replication data layout).2.blocks, block.hosts ≠ [] := by
  rcases appendStep_cases datanodes blockBytes replication data layout with
    ⟨initial, last, room, same, -, step⟩ | ⟨hosts, cursor, -, chosen, step⟩
  all_goals
    rw [step]
    intro block member
    rcases List.mem_append.mp member with old | new
  · exact hosted block (by rw [same]; exact List.mem_append_left _ old)
  · rw [List.mem_singleton.mp new]
    exact hosted last (by rw [same]; exact List.mem_append_right _ (List.mem_singleton.mpr rfl))
  · exact hosted block old
  · have placed : (place datanodes replication [] layout.cursor).1 ≠ [] :=
      place_ne_nil wanting (by rwa [candidates_nil]) layout.cursor
    rw [chosen] at placed
    rw [List.mem_singleton.mp new]
    exact placed

theorem appendSteps_hosted (wanting : replication ≠ 0) (available : datanodes ≠ []) (blockBytes steps : Nat)
    (data : Bytes) (hosted : ∀ block ∈ layout.blocks, block.hosts ≠ []) :
    ∀ block ∈ (appendSteps datanodes blockBytes replication steps data layout).blocks, block.hosts ≠ [] := by
  induction steps generalizing data layout with
  | zero => exact hosted
  | succ steps ih =>
    rw [appendSteps]
    split
    · exact hosted
    · exact ih _ (appendStep_hosted wanting available blockBytes data hosted)

end Layout

namespace Block

/-- Whoever wants replicas of a block has one then, whatever was before. -/
theorem replicate_hosted (wanting : wanted ≠ 0) (available : datanodes ≠ []) (block : Block) (cursor : UInt64) :
    (replicate datanodes wanted block cursor).1.hosts ≠ [] := by
  have several : 0 < wanted.toNat := Nat.pos_of_ne_zero fun none => wanting (UInt16.toNat_inj.mp none)
  have bound := wanted.toNat_lt
  by_cases enough : wanted.toNat ≤ block.hosts.length
  · rw [replicate_of_le datanodes cursor enough, ← List.length_pos_iff, List.length_take]
    omega
  · rw [replicate_of_lt datanodes cursor (by omega)]
    intro nothing
    obtain ⟨none, unplaced⟩ := List.append_eq_nil_iff.mp nothing
    rw [none] at unplaced
    refine place_ne_nil (fun zero => ?_) (by rwa [candidates_nil]) cursor unplaced
    have missing := congrArg UInt16.toNat zero
    rw [UInt16.toNat_ofNat', List.length_nil, Nat.sub_zero, Nat.mod_eq_of_lt (by omega)] at missing
    exact several.ne' missing

theorem replicateAll_hosted (wanting : wanted ≠ 0) (available : datanodes ≠ []) (blocks : List Block)
    (cursor : UInt64) : ∀ block ∈ (replicateAll datanodes wanted blocks cursor).1, block.hosts ≠ [] := by
  induction blocks generalizing cursor with
  | nil => simp [replicateAll]
  | cons block rest ih =>
    intro other member
    rcases List.mem_cons.mp member with rfl | behind
    · exact replicate_hosted wanting available block cursor
    · exact ih _ other behind

end Block

namespace Cluster

variable {cluster after : Cluster} {location : Location} {node changed : FileNode}

/-- On a cluster with datanodes, every block of a file that wants replicas has a host. -/
def Hosted (cluster : Cluster) : Prop :=
  cluster.datanodes ≠ [] → ∀ location node, cluster.tree.file? location = some node → node.replication ≠ 0 →
    ∀ block ∈ node.blocks, block.hosts ≠ []

/-- What changes by so many placements moves the cursor no further than that, and takes no block its last host. -/
structure Turns (cluster : Cluster) (count : Nat) (after : Cluster) : Prop where
  cursor : cluster.cursor.toNat + count < placementLimit → after.cursor.toNat ≤ cluster.cursor.toNat + count
  hosted : cluster.Hosted → after.Hosted

namespace Turns

protected theorem refl (cluster : Cluster) : cluster.Turns 0 cluster := ⟨fun _ => le_rfl, id⟩

theorem weaken {count more : Nat} (turns : cluster.Turns count after) (fewer : count ≤ more) :
    cluster.Turns more after where
  cursor few := (turns.cursor (by omega)).trans (by omega)
  hosted := turns.hosted

theorem of_carries (carries : cluster.Carries after) : cluster.Turns 0 after where
  cursor _ := by rw [carries.cursor, Nat.add_zero]
  hosted hosted available location node found wanting block member := by
    rw [carries.datanodes] at available
    rcases carries.files location node found with empty | ⟨place, was⟩
    · simp [empty] at member
    · exact hosted available place node was wanting block member

/-- A file whose blocks have hosts takes the place of one. -/
theorem of_withFile {count : Nat}
    (moved : cluster.cursor.toNat + count < placementLimit → cursor.toNat ≤ cluster.cursor.toNat + count)
    (fileHosted : cluster.Hosted → cluster.datanodes ≠ [] → changed.replication ≠ 0 →
      ∀ block ∈ changed.blocks, block.hosts ≠ []) :
    cluster.Turns count (cluster.withFile location changed cursor) where
  cursor := moved
  hosted hosted available other file isFile wanting := by
    rw [withFile_tree, Namespace.file?, SortedMap.get?_insert] at isFile
    split at isFile
    · obtain rfl : changed = file := Option.some.inj isFile
      exact fileHosted hosted available wanting
    · exact hosted available other file isFile wanting

end Turns

theorem setReplication_turns (cluster : Cluster) (location : Location) (replication : UInt16) :
    cluster.Turns ((Operation.setReplication location replication).placements cluster)
      (cluster.setReplication location replication).2 := by
  rcases ran : cluster.setReplication location replication with ⟨exception | ⟨⟩, after⟩
  · rw [setReplication_error ran]
    exact (Turns.refl cluster).weaken (Nat.zero_le _)
  · obtain ⟨node, found, wanting, rfl⟩ := setReplication_run ran
    rw [placements_setReplication found ran]
    exact .of_withFile (fun few => (Block.replicateAll?_eq cluster.datanodes replication few).2.le)
      fun _ available _ => Block.replicateAll_hosted wanting available node.blocks cluster.cursor

/-- Appending to a file is exact, and moves the cursor on by the number of new blocks at most. -/
theorem append?_eq (cluster : Cluster) (node : FileNode) (data : Bytes) (few : cluster.cursor.toNat +
    ((cluster.laid node data).blocks.length - node.blocks.length) < placementLimit) :
    Layout.append? cluster.datanodes node.blockBytes node.replication data ⟨node.blocks, cluster.cursor⟩ =
        some (cluster.laid node data) ∧
      (cluster.laid node data).cursor.toNat + node.blocks.length ≤
        cluster.cursor.toNat + (cluster.laid node data).blocks.length := by
  have small : node.blockBytes < UInt64.size :=
    Nat.max_lt.mpr ⟨node.blockSize.toNat_lt, by decide⟩
  exact Layout.appendSteps?_eq node.replication small few

theorem call_turns (cluster : Cluster) (writer : ClusterWriter) (now : Int) (asked : WriterCall) :
    cluster.Turns ((Operation.call writer now asked).placements cluster) (writer.answer cluster now asked).2.2 := by
  rcases writer.answer_same_or_lays cluster now asked with same | ⟨node, changed, found, ran, blocks, wants, -⟩
  · rw [same]
    exact (Turns.refl cluster).weaken (Nat.zero_le _)
  · rw [placements_call found ran blocks, ran, blocks]
    refine .of_withFile (fun few => ?_) fun hosted available wanting => ?_
    · have moved := (cluster.append?_eq node (writer.handed asked) few).2
      omega
    · rw [wants] at wanting
      rw [blocks]
      exact Layout.appendSteps_hosted wanting available _ _ _ (hosted available _ node found wanting)

end Cluster

/-- An operation moves the cursor on by its placements at most. -/
theorem Operation.turns {cluster : Cluster} (isTree : cluster.tree.IsTree) (operation : Operation) :
    cluster.Turns (operation.placements cluster) (operation.perform cluster).2 := by
  rcases operation.carries_or isTree with carries | ⟨location, replication, rfl⟩ | ⟨writer, now, asked, rfl⟩
  · exact (Cluster.Turns.of_carries carries).weaken (Nat.zero_le _)
  · exact cluster.setReplication_turns location replication
  · exact cluster.call_turns writer now asked

/-! ## Sizes and replicas -/

/-- A file with a host for each block is no longer than its replicas are together. -/
theorem FileNode.size_le_replicaBytes {node : FileNode} (hosted : ∀ block ∈ node.blocks, block.hosts ≠ []) :
    node.size ≤ node.replicaBytes := by
  have size : node.size = (node.blocks.map fun block => block.data.length).sum := List.foldr_map.symm
  rw [size, node.replicaBytes_eq_sum]
  refine List.sum_le_sum fun block member => ?_
  exact Nat.le_mul_of_pos_right _ (List.length_pos_iff.mpr (hosted block member))

theorem Cluster.replicaBytes_le_used {cluster : Cluster} {location : Location} {node : FileNode}
    (found : cluster.tree.file? location = some node) : node.replicaBytes ≤ cluster.used := by
  have member : node ∈ cluster.files := by
    rw [Namespace.file?_eq_some_iff, SortedMap.get?_eq_some_iff] at found
    exact List.mem_filterMap.mpr ⟨_, List.mem_map_of_mem found, rfl⟩
  rw [cluster.used_eq_sum]
  exact List.le_sum_of_mem (List.mem_map_of_mem member)

namespace Cluster

variable {cluster : Cluster} {node : FileNode}

/-- The blocks of a file are gone through in words as on numbers. -/
structure ReadsExactly (cluster : Cluster) (location : Location) (node : FileNode) : Prop where
  read (position count : Nat) :
    Block.readFrom? node.blocks 0 position count = some (Block.readFrom node.blocks position count)
  remaining (position : Nat) : Block.remaining? node.blocks 0 position = some (Block.remaining node.blocks position)
  overlapping (start stop : Nat) :
    Block.overlapping? start stop 0 node.blocks = some (Block.overlapping start stop 0 node.blocks)
  located (start length : UInt64) : cluster.blockLocations location start length =
    .ok ((Block.located 0 node.blocks).filter (BlockLocation.Meets start.toNat length.toNat ·))

/-- After so many placements a cluster calculates in words what it would on numbers: with fewer placements than the
cursor can count it places, appends and replicates exactly; it reads exactly from each file that has replicas, or is
no longer than a word can say; what it uses is a sum without a remainder. Its capacity, if overflows are checked, is the
checked product, which gives the total only if that is a word. -/
structure Exact (cluster : Cluster) (placements : Nat) : Prop where
  placed (replication : UInt16) (excluded : List String) :
    place? cluster.datanodes replication excluded cluster.cursor =
      some (place cluster.datanodes replication excluded cluster.cursor)
  appended (node : FileNode) (data : Bytes) :
    placements + ((cluster.laid node data).blocks.length - node.blocks.length) < placementLimit →
      Layout.append? cluster.datanodes node.blockBytes node.replication data ⟨node.blocks, cluster.cursor⟩ =
        some (cluster.laid node data)
  replicated (node : FileNode) (wanted : UInt16) :
    let after := Block.replicateAll cluster.datanodes wanted node.blocks cluster.cursor
    placements + Block.placedSince node.blocks after.1 < placementLimit →
      Block.replicateAll? cluster.datanodes wanted node.blocks cluster.cursor = some after
  reads (location : Location) (node : FileNode) : cluster.tree.file? location = some node →
    (cluster.datanodes ≠ [] ∧ node.replication ≠ 0) ∨ node.size < UInt64.size → cluster.ReadsExactly location node
  used : cluster.used? = some cluster.used
  checked : (cluster.capacity true).map UInt64.toNat = cluster.capacity?
  capacity : cluster.capacity? = some cluster.total ↔ cluster.total < UInt64.size

theorem readsExactly (laidOut : cluster.LaidOut) {location : Location} (found : cluster.tree.file? location = some node)
    (bounded : node.size < UInt64.size) : cluster.ReadsExactly location node := by
  have contents : 0 + (Block.contents node.blocks).length < UInt64.size := by
    rwa [Nat.zero_add, ← FileNode.bytes_eq, FileNode.length_bytes]
  exact {
    read := fun position count => Block.readFrom?_eq (Nat.zero_le position) contents
    remaining := fun position => Block.remaining?_eq (Nat.zero_le position) contents
    overlapping := fun start stop => Block.overlapping?_eq contents
    located := blockLocations_eq found (laidOut location node found) bounded }

theorem exact_of_hosted {placements : Nat} (hosted : cluster.Hosted) (laidOut : cluster.LaidOut)
    (counted : cluster.cursor.toNat ≤ placements) (few : placements < placementLimit)
    (bounded : cluster.used < offsetLimit) : cluster.Exact placements := by
  have small : offsetLimit < UInt64.size := by decide
  refine {
    placed := fun replication excluded => place?_eq cluster.datanodes replication excluded (by omega)
    appended := fun node data fewMore => (cluster.append?_eq node data (by omega)).1
    replicated := fun node wanted fewMore => (Block.replicateAll?_eq cluster.datanodes wanted (by omega)).1
    reads := fun location node found sized => readsExactly laidOut found ?_
    used := used?_eq (by omega)
    checked := cluster.capacity_true
    capacity := capacity?_eq_some_iff }
  -- each byte of a file with replicas is among the bytes used
  rcases sized with ⟨available, wanting⟩ | bounded
  · have replicas := FileNode.size_le_replicaBytes (hosted available location node found wanting)
    have within := replicaBytes_le_used found
    omega
  · exact bounded

end Cluster

/-! ## Runs -/

namespace Storage

variable {storage : Storage} {number client : Nat} {directory : Location} {cluster : Cluster}

/-- After so many placements the cursor of a cluster is no further, and its blocks have hosts. -/
def Counted (storage : Storage) (number placements : Nat) : Prop :=
  ∀ cluster, storage.clusters[number]? = some cluster → cluster.Hosted ∧ cluster.cursor.toNat ≤ placements

theorem Sound.counted_after (sound : storage.Sound) {made : Nat} (counted : storage.Counted number made)
    (request : Request) (few : made + storage.placementsBy number request < placementLimit) :
    (storage.after request).Counted number (made + storage.placementsBy number request) := by
  intro later present
  rcases sound.cluster_cases request present with ⟨now, _, _, _, _, -, rfl⟩ | ⟨known, noOperation⟩ |
    ⟨cluster, operation, known, isOperation, rfl⟩
  · refine ⟨fun _ location node found => ?_, Nat.zero_le _⟩
    rw [Namespace.file?_eq_some_iff, Cluster.new, Namespace.initial, SortedMap.get?_singleton] at found
    split at found <;> simp at found
  · obtain ⟨hosted, moved⟩ := counted later known
    exact ⟨hosted, by omega⟩
  · have turns := operation.turns (sound.trees cluster (List.mem_of_getElem? known))
    obtain ⟨hosted, moved⟩ := counted cluster known
    rw [placementsBy, known, isOperation] at few ⊢
    simp only at few ⊢
    exact ⟨turns.hosted hosted, (turns.cursor (by omega)).trans (by omega)⟩

theorem Sound.counted_run (sound : storage.Sound) {made : Nat} (counted : storage.Counted number made)
    (requests : List Request) (few : made + placements number storage requests < placementLimit) :
    (storage.run requests).Counted number (made + placements number storage requests) := by
  induction requests generalizing storage made with
  | nil => exact counted
  | cons request rest ih =>
    rw [placements, ← Nat.add_assoc] at few ⊢
    exact ih (sound.serve request) (sound.counted_after counted request (by omega)) few

/-- What a client of a cluster answers that is asked for the capacity: it crashes on a product that is no word, if
overflows are checked, and answers what is left of it otherwise. -/
def capacityAnswer (storage : Storage) (cluster : Cluster) : EStateM.Result Failure Storage Nat :=
  if storage.overflowChecks = true ∧ UInt64.size ≤ cluster.total then
    .error (.crashed (some "attempt to multiply with overflow")) storage
  else .ok (cluster.total % UInt64.size) storage

theorem capacity_of_cluster (found : storage.clients[client]? = some ⟨.cluster number, directory, .none⟩)
    (present : storage.clusters[number]? = some cluster) :
    capacity client storage = storage.capacityAnswer cluster := by
  rw [capacity, bind_run, clientAt_of_some found]
  simp only [scripted, Script.reaction?, Script.none, List.lookup_nil, bind_run, clusterAt_of_some present, get, getThe,
    MonadStateOf.get, EStateM.get]
  rw [Cluster.capacity, capacityAnswer, ← cluster.product_toNat]
  split <;> rfl

end Storage

/-! ## Calls -/

namespace Gateway

variable {gateway : Gateway} {thread client value : Nat} {word : UInt64} {reference : Reference} {entry : EntryPoint}
  {question : Nat → Action Nat}

/-- A call that asks the client behind a word for a number of 64 bits with a sign. -/
def numberCall (thread : Nat) (entry : EntryPoint) (word : UInt64) (question : Nat → Action Nat) : EntryCall Int64 :=
  call thread entry (-1) do
    let client ← clientArgument thread word
    offsetResult (← onStorage (question client))

/-- What fits is given and nothing is recorded; what does not is recorded as an internal error. -/
theorem numberCall_run (thread : Nat) (entry : EntryPoint) (sound : gateway.Sound)
    (isWord : Reference.ofRaw? word = some reference)
    (resolves : gateway.engine.globals.get? reference = some (.fileSystem client))
    (answers : question client gateway.engine.storage = .ok value gateway.engine.storage) :
    let called := numberCall thread entry word question gateway
    if value < offsetLimit then called.1 = .ofNat value ∧ called.2.errors = gateway.errors
    else called.1 = -1 ∧ called.2.errors = gateway.errors.insert thread (.record (.overflow value "tOffset")) := by
  have asked := (sound.pushed thread).clientArgument isWord resolves thread
  have answered : onStorage (question client) (gateway.pushed thread) = .ok value (gateway.pushed thread) := by
    refine onEngine_of_ok ?_
    rw [Engine.onStorage, show question client (gateway.pushed thread).engine.storage = _ from answers]
    rfl
  simp only [numberCall, call_run]
  rw [bind_of_ok asked, bind_of_ok answered, offsetResult]
  split
  · exact ⟨rfl, errors_popped (gateway.pushed thread) thread⟩
  · refine ⟨rfl, ?_⟩
    change ((gateway.pushed thread).popped thread).errors.insert thread _ = _
    rw [errors_popped]
    rfl

/-- A call whose question crashes gives minus one, and an internal error is recorded. -/
theorem numberCall_crashed (thread : Nat) (entry : EntryPoint) (sound : gateway.Sound)
    (isWord : Reference.ofRaw? word = some reference)
    (resolves : gateway.engine.globals.get? reference = some (.fileSystem client)) {words : Option String}
    (crashes : question client gateway.engine.storage = .error (.crashed words) gateway.engine.storage) :
    let called := numberCall thread entry word question gateway
    called.1 = -1 ∧ called.2.errors = gateway.errors.insert thread (.record (.crashed entry words)) := by
  have asked := (sound.pushed thread).clientArgument isWord resolves thread
  have crashed : onStorage (question client) (gateway.pushed thread) =
      .error (.failed (.crashed words)) (gateway.pushed thread) := by
    refine onEngine_of_error ?_
    rw [Engine.onStorage, show question client (gateway.pushed thread).engine.storage = _ from crashes]
    rfl
  simp only [numberCall, call_run]
  rw [bind_of_ok asked, bind_of_error crashed]
  refine ⟨rfl, ?_⟩
  change ((gateway.pushed thread).popped thread).errors.insert thread _ = _
  rw [errors_popped]
  rfl

/-- A call tells a number: it gives it and records nothing, or gives minus one and records an internal error. -/
def Tells (thread : Nat) (gateway : Gateway) (number : Nat) (called : Int64 × Gateway) : Prop :=
  (called.1.toInt = number ∧ called.2.errors = gateway.errors) ∨
    (called.1 = -1 ∧ ∃ error : CallError, error.kind = .internalError ∧
      called.2.errors = gateway.errors.insert thread (.record error))

/-- What comes down to its rest modulo the size of a word is told unless the rest is another number that fits. -/
theorem tells_iff_of_mod {total : Nat} (sound : gateway.Sound) (isWord : Reference.ofRaw? word = some reference)
    (resolves : gateway.engine.globals.get? reference = some (.fileSystem client))
    (answers : question client gateway.engine.storage = .ok (total % UInt64.size) gateway.engine.storage) :
    Tells thread gateway total (numberCall thread entry word question gateway) ↔
      total < UInt64.size ∨ offsetLimit ≤ total % UInt64.size := by
  have ran := numberCall_run thread entry sound isWord resolves answers
  simp only at ran
  -- a rest that fits is given without an error, so it has to be the total
  by_cases fits : total % UInt64.size < offsetLimit
  · rw [if_pos fits] at ran
    have given : (numberCall thread entry word question gateway).1.toInt = (total % UInt64.size : Nat) := by
      rw [ran.1]
      exact Int64.toInt_ofNat_of_lt fits
    constructor
    · rintro (⟨told, -⟩ | ⟨refused, -⟩)
      · left
        rw [given] at told
        rw [← Int.ofNat.inj told]
        exact Nat.mod_lt _ (by decide)
      · rw [refused] at given
        exact absurd given (by simp; omega)
    · rintro (small | large)
      · exact .inl ⟨by rw [given, Nat.mod_eq_of_lt small], ran.2⟩
      · omega
  · rw [if_neg fits] at ran
    exact iff_of_true (.inr ⟨ran.1, _, rfl, ran.2⟩) (.inr (by omega))

/-- A word means a client of a cluster, without a script. -/
def AsksCluster (gateway : Gateway) (word : UInt64) (cluster : Cluster) : Prop :=
  ∃ reference client number directory, Reference.ofRaw? word = some reference ∧
    gateway.engine.globals.get? reference = some (.fileSystem client) ∧
    gateway.engine.storage.clients[client]? = some ⟨.cluster number, directory, .none⟩ ∧
    gateway.engine.storage.clusters[number]? = some cluster

theorem getUsed_of_cluster (sound : gateway.Sound) {cluster : Cluster} (asks : gateway.AsksCluster word cluster)
    (bounded : cluster.used < offsetLimit) :
    (getUsed thread word gateway).1.toInt = cluster.used ∧
      (getUsed thread word gateway).2.errors = gateway.errors := by
  obtain ⟨reference, client, number, directory, isWord, resolves, found, present⟩ := asks
  have ran := numberCall_run thread .getUsed sound isWord resolves (Storage.used_of_cluster found present)
  rw [if_pos bounded] at ran
  refine ⟨?_, ran.2⟩
  rw [show (getUsed thread word gateway).1 = _ from ran.1]
  exact Int64.toInt_ofNat_of_lt bounded

theorem getCapacity_tells_iff (sound : gateway.Sound) {cluster : Cluster} (asks : gateway.AsksCluster word cluster) :
    Tells thread gateway cluster.total (getCapacity thread word gateway) ↔
      gateway.engine.storage.overflowChecks = true ∨ cluster.total < UInt64.size ∨
        offsetLimit ≤ cluster.total % UInt64.size := by
  obtain ⟨reference, client, number, directory, isWord, resolves, found, present⟩ := asks
  have answers := Storage.capacity_of_cluster found present
  rw [Storage.capacityAnswer] at answers
  split at answers
  · next crashes =>
    obtain ⟨refused, recorded⟩ := numberCall_crashed thread .getCapacity sound isWord resolves answers
    exact iff_of_true (.inr ⟨refused, _, rfl, recorded⟩) (.inl crashes.1)
  · next goesOn =>
    have checked (checks : gateway.engine.storage.overflowChecks = true) : cluster.total < UInt64.size :=
      not_le.mp fun large => goesOn ⟨checks, large⟩
    refine (tells_iff_of_mod sound isWord resolves answers).trans ⟨.inr, ?_⟩
    rintro (checks | told)
    · exact .inl (checked checks)
    · exact told

end Gateway

namespace Storage

/-- Storage with a disk and nothing else, where overflows are checked or not. -/
def built (overflowChecks : Bool) (now : Int) (disk : Disk) : Storage := { new now disk with overflowChecks }

theorem sound_built (overflowChecks : Bool) (now : Int) (disk : Disk) : (built overflowChecks now disk).Sound :=
  have sound := sound_new now disk
  ⟨⟨sound.plain.clients, sound.plain.streams⟩, sound.founded, sound.trees⟩

/-- A run does not change whether overflows are checked. -/
theorem overflowChecks_run (storage : Storage) (requests : List Request) :
    (storage.run requests).overflowChecks = storage.overflowChecks := by
  induction requests generalizing storage with
  | nil => rfl
  | cons request rest ih =>
    have step : (storage.after request).overflowChecks = storage.overflowChecks := by
      rw [after, final_eq_ended]
      exact (serve_keeps request storage).checks
    exact (ih (storage.after request)).trans step

/-- In both builds, after every run with fewer placements than the cursor can count, on any cluster that uses fewer
bytes than an offset can say, everything but the capacity is calculated exactly, and a client is told what is used. It
is told the total capacity if that is a word; otherwise asking for it crashes where overflows are checked, and gives
what is left of it modulo the size of a word where they are not. In every run of calls, what a cluster uses is given as
it is if an offset can say it, without an error. The total capacity is given as it is, or refused as an internal error,
exactly if overflows are checked, or it is a word, or what is left of it is too large for an offset. -/
theorem words_exact_but_capacity (overflowChecks : Bool) (now : Int) (disk : Disk) (requests : List Request)
    (number : Nat) (cluster : Cluster)
    (present : ((built overflowChecks now disk).run requests).clusters[number]? = some cluster)
    (few : placements number (built overflowChecks now disk) requests < placementLimit)
    (bounded : cluster.used < offsetLimit) :
    let last := (built overflowChecks now disk).run requests
    cluster.Exact (placements number (built overflowChecks now disk) requests) ∧
    (∀ client directory, last.clients[client]? = some ⟨.cluster number, directory, .none⟩ →
      used client last = .ok cluster.used last ∧
      capacity client last =
        if overflowChecks = true ∧ UInt64.size ≤ cluster.total then
          .error (.crashed (some "attempt to multiply with overflow")) last
        else .ok (cluster.total % UInt64.size) last) ∧
    ∀ (start : Storage) (conf : Configuration) (steps : List GatewayStep) (thread : Nat) (word : UInt64)
      (asked : Cluster), let gateway := (Gateway.new (.new start conf)).run steps
      gateway.AsksCluster word asked →
        (asked.used < offsetLimit → (Gateway.getUsed thread word gateway).1.toInt = asked.used ∧
          (Gateway.getUsed thread word gateway).2.errors = gateway.errors) ∧
        (Gateway.Tells thread gateway asked.total (Gateway.getCapacity thread word gateway) ↔
          gateway.engine.storage.overflowChecks = true ∨ asked.total < UInt64.size ∨
            offsetLimit ≤ asked.total % UInt64.size) := by
  intro last
  have sound := sound_built overflowChecks now disk
  have nothing : (built overflowChecks now disk).Counted number 0 := fun _ none => by simp [built, new] at none
  have counted : last.Counted number (placements number (built overflowChecks now disk) requests) := by
    have counted := sound.counted_run nothing requests (by omega)
    rwa [Nat.zero_add] at counted
  have laidOut : cluster.LaidOut := sound.clusters_run Cluster.laidOut_new
    (fun _ operation isTree laidOut => laidOut.perform isTree operation)
    (fun _ _ none => by simp [built, new] at none) requests number cluster present
  obtain ⟨hosted, moved⟩ := counted cluster present
  refine ⟨Cluster.exact_of_hosted hosted laidOut moved few bounded,
    fun client directory found => ⟨used_of_cluster found present, ?_⟩, ?_⟩
  · have checks : last.overflowChecks = overflowChecks := overflowChecks_run ..
    rw [capacity_of_cluster found present, capacityAnswer, checks]
  · intro start conf steps thread word asked gateway asks
    have sound : gateway.Sound := (Gateway.sound_new start conf).run steps
    exact ⟨Gateway.getUsed_of_cluster sound asks, Gateway.getCapacity_tells_iff sound asks⟩

/-- A file in two blocks, each on one of two datanodes. -/
def halves : List Request :=
  [.startCluster "nn:1" .default ["a", "b"] 0x4000000000000000, .joinCluster 0,
    .createFile 0 ⟨[47, 102]⟩ ⟨false, 1, 1, 2⟩, .call 0 (.write [1, 2, 3])]

/-- The datanodes can hold one byte more than an offset can say: a client is told how much, a caller is refused. -/
theorem words_exact_but_capacity_of_halves : ∃ (cluster : Cluster) (node : FileNode),
    let last := (built true 0 (.new 0 .root 0 0)).run halves
    let gateway := (Gateway.new (.new last .default)).run
      [.register "nn:1" ⟨0, .none⟩, .native 0 (.connect (some [110, 110]) 1)]
    last.clusters[0]? = some cluster ∧ cluster.tree.file? [[102]] = some node ∧
    place? cluster.datanodes 1 ["b"] cluster.cursor = some (["a"], 3) ∧
    Block.readFrom? node.blocks 0 2 7 = some [3] ∧
    used 0 last = .ok 3 last ∧ capacity 0 last = .ok 0x8000000000000000 last ∧
    (Gateway.getUsed 0 0x100000001 gateway).1.toInt = 3 ∧
    Gateway.Tells 0 gateway 0x8000000000000000 (Gateway.getCapacity 0 0x100000001 gateway) := by
  obtain ⟨exact, clients, calls⟩ :=
    words_exact_but_capacity true 0 (.new 0 .root 0 0) halves 0 _ rfl (by decide) (by decide)
  obtain ⟨isUsed, isCapacity⟩ := clients 0 .root rfl
  have reads := exact.reads [[102]] _ rfl (.inl (by decide))
  obtain ⟨given, tells⟩ := calls ((built true 0 (.new 0 .root 0 0)).run halves) .default
    [.register "nn:1" ⟨0, .none⟩, .native 0 (.connect (some [110, 110]) 1)] 0 0x100000001 _
    ⟨⟨0x100000001, by decide⟩, 1, 0, .root, rfl, rfl, rfl, rfl⟩
  refine ⟨_, _, rfl, rfl, exact.placed 1 ["b"], reads.read 2 7, isUsed, isCapacity, ?_, ?_⟩
  · exact (given (by decide)).1
  · exact tells.mpr (.inr (.inl (by decide)))

/-- Two datanodes that can hold half a word each, in both builds: a client of their cluster. -/
def full (overflowChecks : Bool) : Gateway :=
  (Gateway.new (.new (built overflowChecks 0 (.new 0 .root 0 0)) .default)).run
    [.request (.startCluster "nn:1" .default ["a", "b"] 0x8000000000000000), .register "nn:1" ⟨0, .none⟩,
      .native 0 (.connect (some [110, 110]) 1)]

/-- The capacity of two halves of a word is no word. A call that asks for it crashes where overflows are checked, and is
told that it is zero where they are not, without an error. -/
theorem capacity_overflows :
    let cluster := Cluster.new 0 "nn:1" .default ["a", "b"] 0x8000000000000000
    cluster.used = 0 ∧ cluster.total = UInt64.size ∧ cluster.capacity? = none ∧
    (∀ overflowChecks, (full overflowChecks).AsksCluster 0x100000001 cluster) ∧
    (let called := Gateway.getCapacity 0 0x100000001 (full true)
    called.1 = -1 ∧ called.2.errors = (full true).errors.insert 0
      (.record (.crashed .getCapacity (some "attempt to multiply with overflow")))) ∧
    let called := Gateway.getCapacity 0 0x100000001 (full false)
    called.1 = 0 ∧ called.2.errors = (full false).errors ∧ ¬Gateway.Tells 0 (full false) cluster.total called := by
  intro cluster
  have asks (overflowChecks : Bool) : (full overflowChecks).AsksCluster 0x100000001 cluster := by
    cases overflowChecks <;> exact ⟨⟨0x100000001, by decide⟩, 0, 0, .root, rfl, rfl, rfl, rfl⟩
  have crashes : (Gateway.getCapacity 0 0x100000001 (full true)).1 = -1 := by decide +kernel
  have zero : (Gateway.getCapacity 0 0x100000001 (full false)).1 = 0 := by decide +kernel
  refine ⟨rfl, by decide, by decide, asks, ⟨crashes, rfl⟩, zero, rfl, ?_⟩
  rintro (⟨told, -⟩ | ⟨refused, -⟩)
  · rw [zero] at told
    exact absurd told (by decide)
  · rw [zero] at refused
    exact absurd refused (by decide)

end Storage

end FileGateway
