import FileGateway.Proofs.Cluster.Replicas

/-! # Words of 64 bits

A cluster calculates in words of 64 bits. Its calculations are done here once more, on numbers, and what words
cannot hold gives nothing: a sum or a product that is too large, a difference below zero, a remainder by zero, a
number of replicas beyond 16 bits, bytes beyond the end. Each of them turns out to be what the cluster calculates,
under a bound on the cursor or on the size of a file; the bounds of everything else are in the blocks themselves.
-/

namespace FileGateway

/-! ## Checked arithmetic -/

namespace Word

variable {left right value : Nat}

def sum? (left right : Nat) : Option Nat := if left + right < UInt64.size then some (left + right) else none

def product? (left right : Nat) : Option Nat := if left * right < UInt64.size then some (left * right) else none

def difference? (left right : Nat) : Option Nat := if right ≤ left then some (left - right) else none

def remainder? (left right : Nat) : Option Nat := if right = 0 then none else some (left % right)

/-- A number that 16 bits hold. -/
def narrow? (value : Nat) : Option UInt16 := if value < UInt16.size then some (.ofNat value) else none

/-- The bytes from one place to another. -/
def slice? (bytes : Bytes) (start stop : Nat) : Option Bytes :=
  if start ≤ stop ∧ stop ≤ bytes.length then some ((bytes.take stop).drop start) else none

theorem sum?_of_lt (bound : left + right < UInt64.size) : sum? left right = some (left + right) := if_pos bound

theorem difference?_of_le (bound : right ≤ left) : difference? left right = some (left - right) := if_pos bound

theorem remainder?_of_pos (positive : 0 < right) : remainder? left right = some (left % right) :=
  if_neg positive.ne'

theorem narrow?_of_lt (bound : value < UInt16.size) : narrow? value = some (.ofNat value) := if_pos bound

theorem slice?_of_le {bytes : Bytes} {start stop : Nat} (ordered : start ≤ stop) (within : stop ≤ bytes.length) :
    slice? bytes start stop = some ((bytes.drop start).take (stop - start)) := by
  rw [slice?, if_pos ⟨ordered, within⟩, List.drop_take]

end Word

open Word

/-! ## Placing -/

/-- Hosts for a block, and the cursor behind it. -/
def place? (datanodes : List String) (replication : UInt16) (excluded : List String) (cursor : UInt64) :
    Option (List String × UInt64) :=
  let hosts := candidates datanodes excluded
  if hosts.isEmpty then some ([], cursor)
  else do
    let chosen ← (List.range (min replication.toNat hosts.length)).mapM fun step => do
      hosts[← remainder? (← sum? cursor.toNat step) hosts.length]?
    return (chosen, .ofNat (← sum? cursor.toNat 1))

/-- What is found for each item is found for all. -/
private theorem mapM_of_isSome {α β : Type} {find : α → Option β} {items : List α}
    (each : ∀ item ∈ items, (find item).isSome) : items.mapM find = some (items.filterMap find) := by
  induction items with
  | nil => rfl
  | cons item rest ih =>
    obtain ⟨found, isFound⟩ := Option.isSome_iff_exists.mp (each item List.mem_cons_self)
    rw [List.mapM_cons, isFound, ih fun other member => each other (List.mem_cons_of_mem _ member),
      List.filterMap_cons_some isFound]
    rfl

variable {datanodes excluded : List String} {replication wanted : UInt16} {cursor : UInt64}

theorem place?_eq (datanodes : List String) (replication : UInt16) (excluded : List String)
    (few : cursor.toNat < placementLimit) :
    place? datanodes replication excluded cursor = some (place datanodes replication excluded cursor) := by
  rw [placementLimit] at few
  rw [place?, place]
  change _ = some (if (candidates datanodes excluded).isEmpty then _ else _)
  generalize isHosts : candidates datanodes excluded = hosts
  cases empty : hosts.isEmpty with
  | true => rfl
  | false =>
    have positive : 0 < hosts.length := List.length_pos_iff.mpr fun none => by rw [none] at empty; cases empty
    have inTurn (step : Nat) (member : step ∈ List.range (min replication.toNat hosts.length)) :
        (do hosts[← remainder? (← sum? cursor.toNat step) hosts.length]?) =
          hosts[(cursor + UInt64.ofNat step).toNat % hosts.length]? := by
      have short := List.mem_range.mp member
      have bound := replication.toNat_lt
      -- a step has 16 bits, and the cursor leaves room for it
      have exact : (cursor + UInt64.ofNat step).toNat = cursor.toNat + step := by
        rw [UInt64.toNat_add, UInt64.toNat_ofNat']
        omega
      rw [sum?_of_lt (by rw [UInt64.size]; omega), Option.bind_eq_bind, Option.bind_some, remainder?_of_pos positive,
        exact]
      rfl
    have known (step : Nat) (member : step ∈ List.range (min replication.toNat hosts.length)) :
        (do hosts[← remainder? (← sum? cursor.toNat step) hosts.length]?).isSome := by
      rw [inTurn step member, List.getElem?_eq_getElem (Nat.mod_lt _ positive)]
      rfl
    simp only [candidates] at isHosts
    simp only [isHosts, Bool.false_eq_true, if_false]
    rw [mapM_of_isSome known, List.filterMap_congr inTurn, sum?_of_lt (by rw [UInt64.size]; omega)]
    refine congrArg (fun next => some (_, next)) ?_
    rw [UInt64.ofNat_add, UInt64.ofNat_toNat]
    rfl

/-! ## Appending -/

/-- The first bytes of some data, and those behind them. -/
theorem Word.slice?_take (data : Bytes) (count : Nat) :
    slice? data 0 (min data.length count) = some (data.take count) := by
  rw [slice?_of_le (Nat.zero_le _) (Nat.min_le_left ..), List.drop_zero, Nat.sub_zero, Nat.min_comm,
    ← List.take_eq_take_min]

theorem Word.slice?_drop (data : Bytes) (count : Nat) :
    slice? data (min data.length count) data.length = some (data.drop count) := by
  rw [slice?_of_le (Nat.min_le_left ..) le_rfl, ← List.length_drop, List.take_length]
  rcases Nat.le_total data.length count with short | long
  · rw [Nat.min_eq_left short, List.drop_length, List.drop_of_length_le short]
  · rw [Nat.min_eq_right long]

namespace Layout

variable {blockBytes steps : Nat} {data : Bytes} {layout : Layout}

/-- Bytes for a new block. -/
def newBlock? (datanodes : List String) (blockBytes : Nat) (replication : UInt16) (data : Bytes) (layout : Layout) :
    Option (Bytes × Layout) := do
  let count := min data.length blockBytes
  let (hosts, cursor) ← place? datanodes replication [] layout.cursor
  let new : Block := ⟨← slice? data 0 count, hosts⟩
  return (← slice? data count data.length, ⟨layout.blocks ++ [new], cursor⟩)

/-- Bytes for the last block, or for a new one if it has no room. -/
def appendStep? (datanodes : List String) (blockBytes : Nat) (replication : UInt16) (data : Bytes) (layout : Layout) :
    Option (Bytes × Layout) :=
  match layout.blocks.getLast? with
  | some last =>
    if last.data.length < blockBytes then do
      let count := min data.length (← difference? blockBytes last.data.length)
      let _ ← sum? last.data.length count
      let grown : Block := { last with data := last.data ++ (← slice? data 0 count) }
      return (← slice? data count data.length, { layout with blocks := layout.blocks.dropLast ++ [grown] })
    else newBlock? datanodes blockBytes replication data layout
  | none => newBlock? datanodes blockBytes replication data layout

def appendSteps? (datanodes : List String) (blockBytes : Nat) (replication : UInt16) :
    Nat → Bytes → Layout → Option Layout
  | 0, _, layout => some layout
  | steps + 1, data, layout =>
    if data.isEmpty then some layout
    else do
      let (rest, layout) ← appendStep? datanodes blockBytes replication data layout
      appendSteps? datanodes blockBytes replication steps rest layout

/-- Every step takes a byte at least. -/
def append? (datanodes : List String) (blockBytes : Nat) (replication : UInt16) (data : Bytes) (layout : Layout) :
    Option Layout :=
  appendSteps? datanodes blockBytes replication data.length data layout

theorem newBlock?_eq (datanodes : List String) (blockBytes : Nat) (replication : UInt16) (data : Bytes)
    (few : layout.cursor.toNat < placementLimit) :
    newBlock? datanodes blockBytes replication data layout =
      some (data.drop blockBytes, ⟨layout.blocks ++ [⟨data.take blockBytes,
        (place datanodes replication [] layout.cursor).1⟩], (place datanodes replication [] layout.cursor).2⟩) := by
  rw [newBlock?, place?_eq datanodes replication [] few]
  simp only [slice?_take, slice?_drop]
  rfl

theorem appendStep?_eq (datanodes : List String) (replication : UInt16) (data : Bytes)
    (small : blockBytes < UInt64.size) (few : layout.cursor.toNat < placementLimit) :
    appendStep? datanodes blockBytes replication data layout =
      some (appendStep datanodes blockBytes replication data layout) := by
  rw [appendStep?]
  rcases appendStep_cases datanodes blockBytes replication data layout with
    ⟨initial, last, room, same, whole, step⟩ | ⟨hosts, cursor, full, chosen, step⟩
  · have spare : blockBytes - last.data.length = room + 1 := by omega
    rw [step, same, List.getLast?_concat, List.dropLast_concat]
    simp only
    rw [if_pos (by omega), difference?_of_le (by omega), spare]
    have fits : last.data.length + min data.length (room + 1) < UInt64.size := by omega
    simp only [Option.bind_eq_bind, Option.bind_some, sum?_of_lt fits, slice?_take, slice?_drop]
    rfl
  · have placed := newBlock?_eq datanodes blockBytes replication data few
    rw [chosen] at placed
    rw [step, ← placed]
    split
    · next last found => rw [if_neg (Nat.not_lt.mpr (full last found))]
    · rfl

/-- A step moves the cursor on by one at most, and only for a new block. -/
theorem appendStep_cursor (datanodes : List String) (blockBytes : Nat) (replication : UInt16) (data : Bytes)
    (few : layout.cursor.toNat < placementLimit) :
    (appendStep datanodes blockBytes replication data layout).2.cursor.toNat + layout.blocks.length ≤
      layout.cursor.toNat + (appendStep datanodes blockBytes replication data layout).2.blocks.length := by
  rcases appendStep_cases datanodes blockBytes replication data layout with
    ⟨initial, last, room, same, -, step⟩ | ⟨hosts, cursor, -, chosen, step⟩
  · rw [step]
    simp [same]
  · have moved := place_cursor datanodes replication [] few
    rw [chosen] at moved
    rw [step]
    simp only [List.length_append, List.length_singleton] at moved ⊢
    omega

/-- Appending moves the cursor on by the number of new blocks at most, and is exact meanwhile. -/
theorem appendSteps?_eq (replication : UInt16) (small : blockBytes < UInt64.size)
    (few : layout.cursor.toNat + ((appendSteps datanodes blockBytes replication steps data layout).blocks.length -
      layout.blocks.length) < placementLimit) :
    let after := appendSteps datanodes blockBytes replication steps data layout
    appendSteps? datanodes blockBytes replication steps data layout = some after ∧
      after.cursor.toNat + layout.blocks.length ≤ layout.cursor.toNat + after.blocks.length := by
  induction steps generalizing data layout with
  | zero => exact ⟨rfl, le_rfl⟩
  | succ steps ih =>
    rw [appendSteps] at few ⊢
    rw [appendSteps?]
    split
    · exact ⟨rfl, le_rfl⟩
    · next nonempty =>
      have stepLonger := (appendStep_extends datanodes blockBytes replication data layout).length_le
      have stepMoved (fewBefore : layout.cursor.toNat < placementLimit) :=
        appendStep_cursor datanodes blockBytes replication data fewBefore
      have stepExact (fewBefore : layout.cursor.toNat < placementLimit) :=
        appendStep?_eq datanodes replication data small fewBefore
      rw [if_neg nonempty] at few
      rcases stepped : appendStep datanodes blockBytes replication data layout with ⟨rest, next⟩
      rw [stepped] at few stepLonger stepMoved stepExact
      have longer := (appendSteps_extends datanodes blockBytes replication steps rest next).length_le
      simp only at few stepLonger stepMoved
      -- no block is taken away on the way, so the bound for the last layout is one for this
      have moved := stepMoved (by omega)
      obtain ⟨exact, movedOn⟩ := ih (by omega : next.cursor.toNat +
        ((appendSteps datanodes blockBytes replication steps rest next).blocks.length - next.blocks.length) <
          placementLimit)
      rw [stepExact (by omega)]
      refine ⟨exact, ?_⟩
      simp only
      omega

end Layout

namespace Block

variable {blocks : List Block} {offset position count start stop : Nat} {block : Block}

/-! ## Going through the blocks of a file -/

/-- Bytes from a position on, out of blocks of which the first begins at an offset. -/
def readFrom? : List Block → Nat → Nat → Nat → Option Bytes
  | [], _, _, _ => some []
  | block :: rest, offset, position, count => do
    let next ← sum? offset block.data.length
    if position < next then
      let start ← difference? position offset
      let left ← difference? block.data.length start
      slice? block.data start (← sum? start (min count left))
    else readFrom? rest next position count

/-- The bytes from a position to the end of the block that holds it. -/
def remaining? : List Block → Nat → Nat → Option Nat
  | [], _, _ => some 0
  | block :: rest, offset, position => do
    let next ← sum? offset block.data.length
    if position < next then difference? next position else remaining? rest next position

/-- The blocks that reach into the bytes from `start` up to `stop`. -/
def overlapping? (start stop : Nat) : Nat → List Block → Option (List (Nat × Block))
  | _, [] => some []
  | offset, block :: rest => do
    let next ← sum? offset block.data.length
    let behind ← overlapping? start stop next rest
    return if offset < stop ∧ start < next then (offset, block) :: behind else behind

theorem readFrom?_eq (behind : offset ≤ position) (bounded : offset + (contents blocks).length < UInt64.size) :
    readFrom? blocks offset position count = some (readFrom blocks (position - offset) count) := by
  induction blocks generalizing offset with
  | nil => rfl
  | cons block rest ih =>
    rw [contents_cons, List.length_append] at bounded
    rw [readFrom?, readFrom, sum?_of_lt (by omega), Option.bind_eq_bind, Option.bind_some]
    by_cases inside : position < offset + block.data.length
    · have fits : position - offset + min count (block.data.length - (position - offset)) < UInt64.size := by omega
      have starts : position - offset ≤ block.data.length := by omega
      rw [if_pos inside, if_pos (by omega)]
      simp only [difference?_of_le behind, difference?_of_le starts, sum?_of_lt fits, Option.bind_some]
      rw [slice?_of_le (by omega) (by omega), Nat.add_sub_cancel_left, ← List.length_drop, ← List.take_eq_take_min]
    · rw [if_neg inside, if_neg (by omega), ih (by omega) (by omega), Nat.sub_sub]

theorem remaining?_eq (behind : offset ≤ position) (bounded : offset + (contents blocks).length < UInt64.size) :
    remaining? blocks offset position = some (remaining blocks (position - offset)) := by
  induction blocks generalizing offset with
  | nil => rfl
  | cons block rest ih =>
    rw [contents_cons, List.length_append] at bounded
    rw [remaining?, remaining, sum?_of_lt (by omega), Option.bind_eq_bind, Option.bind_some]
    by_cases inside : position < offset + block.data.length
    · rw [if_pos inside, if_pos (by omega), difference?_of_le (by omega)]
      exact congrArg some (by omega)
    · rw [if_neg inside, if_neg (by omega), ih (by omega) (by omega), Nat.sub_sub]

theorem overlapping?_eq (bounded : offset + (contents blocks).length < UInt64.size) :
    overlapping? start stop offset blocks = some (overlapping start stop offset blocks) := by
  induction blocks generalizing offset with
  | nil => rfl
  | cons block rest ih =>
    rw [contents_cons, List.length_append] at bounded
    rw [overlapping?, overlapping, sum?_of_lt (by omega), Option.bind_eq_bind, Option.bind_some, ih (by omega)]
    rfl

/-! ## Replicating -/

def replicate? (datanodes : List String) (wanted : UInt16) (block : Block) (cursor : UInt64) :
    Option (Block × UInt64) :=
  let held := block.hosts.length
  if wanted.toNat < held then some ({ block with hosts := block.hosts.take wanted.toNat }, cursor)
  else if held < wanted.toNat then do
    let missing ← narrow? (← difference? wanted.toNat held)
    let (extra, cursor) ← place? datanodes missing block.hosts cursor
    return ({ block with hosts := block.hosts ++ extra }, cursor)
  else some (block, cursor)

def replicateAll? (datanodes : List String) (wanted : UInt16) :
    List Block → UInt64 → Option (List Block × UInt64)
  | [], cursor => some ([], cursor)
  | block :: rest, cursor => do
    let (block, cursor) ← replicate? datanodes wanted block cursor
    let (rest, cursor) ← replicateAll? datanodes wanted rest cursor
    return (block :: rest, cursor)

theorem replicate?_eq (datanodes : List String) (wanted : UInt16) (block : Block)
    (few : cursor.toNat < placementLimit) :
    replicate? datanodes wanted block cursor = some (replicate datanodes wanted block cursor) := by
  have bound := wanted.toNat_lt
  have narrow : wanted.toNat - block.hosts.length < UInt16.size := by rw [UInt16.size]; omega
  rw [replicate?, replicate]
  split
  · rfl
  · split
    · next fewer =>
      simp only [difference?_of_le fewer.le, narrow?_of_lt narrow, place?_eq datanodes _ block.hosts few,
        Option.bind_eq_bind, Option.bind_some]
      rfl
    · rfl

/-- A block takes a placement only if it gains hosts. -/
theorem replicate_cursor (datanodes : List String) (wanted : UInt16) (block : Block)
    (few : cursor.toNat < placementLimit) : (replicate datanodes wanted block cursor).2.toNat = cursor.toNat +
      if block.hosts.length < (replicate datanodes wanted block cursor).1.hosts.length then 1 else 0 := by
  by_cases enough : wanted.toNat ≤ block.hosts.length
  · rw [replicate_of_le datanodes cursor enough, List.length_take, if_neg (by omega), Nat.add_zero]
  · have bound := wanted.toNat_lt
    have missing : (UInt16.ofNat (wanted.toNat - block.hosts.length)).toNat = wanted.toNat - block.hosts.length := by
      rw [UInt16.toNat_ofNat', Nat.mod_eq_of_lt (by omega)]
    have length := place_length datanodes (UInt16.ofNat (wanted.toNat - block.hosts.length)) block.hosts few
    rw [missing] at length
    rw [replicate_of_lt datanodes cursor (by omega), place_cursor datanodes _ block.hosts few, List.length_append,
      length]
    split_ifs <;> omega

/-- Replicating moves the cursor on by the placements that it makes, and is exact meanwhile. -/
theorem replicateAll?_eq (datanodes : List String) (wanted : UInt16)
    (few : cursor.toNat + placedSince blocks (replicateAll datanodes wanted blocks cursor).1 < placementLimit) :
    replicateAll? datanodes wanted blocks cursor = some (replicateAll datanodes wanted blocks cursor) ∧
      (replicateAll datanodes wanted blocks cursor).2.toNat =
        cursor.toNat + placedSince blocks (replicateAll datanodes wanted blocks cursor).1 := by
  induction blocks generalizing cursor with
  | nil => exact ⟨rfl, rfl⟩
  | cons block rest ih =>
    simp only [replicateAll, placedSince] at few ⊢
    have fewFirst : cursor.toNat < placementLimit := by omega
    have moved := replicate_cursor datanodes wanted block fewFirst
    obtain ⟨exact, last⟩ := ih (by omega : (replicate datanodes wanted block cursor).2.toNat + placedSince rest
      (replicateAll datanodes wanted rest (replicate datanodes wanted block cursor).2).1 < placementLimit)
    refine ⟨?_, by omega⟩
    rw [replicateAll?, replicate?_eq datanodes wanted block fewFirst, Option.bind_eq_bind, Option.bind_some]
    simp only [exact]
    rfl

end Block

/-! ## Totals -/

/-- The bytes of a block on all its hosts. -/
def Block.replicaBytes (block : Block) : Nat := block.data.length * block.hosts.length

theorem FileNode.replicaBytes_eq_sum (node : FileNode) : node.replicaBytes = (node.blocks.map Block.replicaBytes).sum :=
  List.foldr_map.symm

/-- A sum with the bytes of one more block. -/
def addReplicas? (sum : Nat) (block : Block) : Option Nat := do
  sum? sum (← product? block.data.length block.hosts.length)

theorem foldlM_addReplicas? {blocks : List Block} {sum : Nat}
    (bounded : sum + (blocks.map Block.replicaBytes).sum < UInt64.size) :
    blocks.foldlM addReplicas? sum = some (sum + (blocks.map Block.replicaBytes).sum) := by
  induction blocks generalizing sum with
  | nil => rfl
  | cons block rest ih =>
    rw [List.map_cons, List.sum_cons] at bounded ⊢
    have added : addReplicas? sum block = some (sum + block.replicaBytes) := by
      have product : product? block.data.length block.hosts.length = some block.replicaBytes :=
        if_pos (by rw [Block.replicaBytes] at bounded; omega)
      rw [addReplicas?, product, Option.bind_eq_bind, Option.bind_some, sum?_of_lt (by omega)]
    rw [List.foldlM_cons, added, Option.bind_eq_bind, Option.bind_some, ih (by omega), Nat.add_assoc]

namespace Cluster

variable {cluster : Cluster}

/-- The files of a cluster. -/
def files (cluster : Cluster) : List FileNode := cluster.tree.values.filterMap Entry.file?

def capacity? (cluster : Cluster) : Option Nat := product? cluster.capacityEach.toNat cluster.datanodes.length

def used? (cluster : Cluster) : Option Nat := (cluster.files.flatMap FileNode.blocks).foldlM addReplicas? 0

/-- The capacity is the product in which an overflow is noticed, if overflows are checked. -/
theorem capacity_true (cluster : Cluster) : (cluster.capacity true).map UInt64.toNat = cluster.capacity? := by
  rw [capacity, capacity?, product?, ← total]
  by_cases bounded : cluster.total < UInt64.size
  · rw [if_neg (by simp [bounded]), if_pos bounded, Option.map_some, UInt64.toNat_mul, UInt64.toNat_ofNat',
      Nat.mul_mod_mod]
    exact congrArg some (Nat.mod_eq_of_lt bounded)
  · rw [if_pos ⟨rfl, by omega⟩, if_neg bounded]
    rfl

/-- What a product of words leaves of the total. -/
theorem product_toNat (cluster : Cluster) :
    (cluster.capacityEach * UInt64.ofNat cluster.datanodes.length).toNat = cluster.total % UInt64.size := by
  rw [UInt64.toNat_mul, UInt64.toNat_ofNat', Nat.mul_mod_mod]
  rfl

theorem capacity?_eq_some_iff : cluster.capacity? = some cluster.total ↔ cluster.total < UInt64.size := by
  rw [capacity?, product?, ← total]
  split
  · next bounded => exact iff_of_true rfl bounded
  · next beyond => exact iff_of_false (by simp) beyond

theorem used_eq_sum (cluster : Cluster) : cluster.used = (cluster.files.map FileNode.replicaBytes).sum :=
  List.foldr_map.symm

/-- The sum over all blocks is exact as long as its result is. -/
theorem used?_eq (bounded : cluster.used < UInt64.size) : cluster.used? = some cluster.used := by
  have same : ((cluster.files.flatMap FileNode.blocks).map Block.replicaBytes).sum = cluster.used := by
    rw [used_eq_sum, List.map_flatMap, List.flatMap_def, List.sum_flatten, List.map_map]
    exact congrArg List.sum (List.map_congr_left fun file _ => file.replicaBytes_eq_sum.symm)
  rw [used?, foldlM_addReplicas? (by omega), same, Nat.zero_add]

end Cluster

end FileGateway
