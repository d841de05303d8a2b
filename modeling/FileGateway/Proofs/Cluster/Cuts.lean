import FileGateway.Proofs.Cluster.Contents

/-! # How contents are cut into blocks

Appending goes on until all data is taken; `Appends` says so without counting steps, and the counted loop computes
just that. A step that has room left behind the data it was given goes on where it stopped when more data comes, so
appending twice is appending once. And a step leaves blocks that are full but for the last, so the contents alone
tell where they are cut.
-/

namespace FileGateway

namespace Layout

variable {datanodes : List String} {blockBytes : Nat} {replication : UInt16}

/-! ## The loop -/

/-- The loop of an append, over the data that is left: it ends when nothing is. -/
inductive Appends (datanodes : List String) (blockBytes : Nat) (replication : UInt16) :
    Bytes → Layout → Layout → Prop
  | done (layout : Layout) : Appends datanodes blockBytes replication [] layout layout
  | step {data : Bytes} {layout after : Layout} (nonempty : data ≠ [])
      (rest : Appends datanodes blockBytes replication (appendStep datanodes blockBytes replication data layout).1
        (appendStep datanodes blockBytes replication data layout).2 after) :
      Appends datanodes blockBytes replication data layout after

theorem Appends.unique {data : Bytes} {layout one other : Layout}
    (first : Appends datanodes blockBytes replication data layout one)
    (second : Appends datanodes blockBytes replication data layout other) : one = other := by
  induction first with
  | done =>
    cases second with
    | done => rfl
    | step nonempty => contradiction
  | step nonempty _ ih =>
    cases second with
    | done => contradiction
    | step _ rest => exact ih rest

theorem appendSteps_appends (positive : 0 < blockBytes) {steps : Nat} {data : Bytes} (layout : Layout)
    (enough : data.length ≤ steps) : Appends datanodes blockBytes replication data layout
      (appendSteps datanodes blockBytes replication steps data layout) := by
  induction steps generalizing data layout with
  | zero =>
    obtain rfl : data = [] := List.eq_nil_of_length_eq_zero (by omega)
    exact .done layout
  | succ steps ih =>
    rw [appendSteps]
    split
    · next empty =>
      rw [List.isEmpty_iff.mp empty]
      exact .done layout
    · next filled =>
      have nonempty := mt List.isEmpty_iff.mpr filled
      have shorter := appendStep_shrinks datanodes replication positive layout nonempty
      exact .step nonempty (ih _ (by omega))

/-- The loop comes to an end, and ends in what appending gives. -/
theorem appends_iff (positive : 0 < blockBytes) {data : Bytes} {layout after : Layout} :
    Appends datanodes blockBytes replication data layout after ↔
      after = append datanodes blockBytes replication data layout := by
  have ends : Appends datanodes blockBytes replication data layout _ := appendSteps_appends positive layout le_rfl
  exact ⟨fun other => other.unique ends, fun same => same ▸ ends⟩

theorem append_nil (datanodes : List String) (blockBytes : Nat) (replication : UInt16) (layout : Layout) :
    append datanodes blockBytes replication [] layout = layout := rfl

/-- Appending starts with one step. -/
theorem append_of_ne_nil (positive : 0 < blockBytes) {data : Bytes} (layout : Layout) (nonempty : data ≠ []) :
    append datanodes blockBytes replication data layout =
      append datanodes blockBytes replication (appendStep datanodes blockBytes replication data layout).1
        (appendStep datanodes blockBytes replication data layout).2 := by
  exact ((appends_iff positive).mp (.step nonempty ((appends_iff positive).mpr rfl))).symm

/-! ## Appending twice -/

/-- A step fills up the last block if it has room. -/
theorem appendStep_of_room {initial : List Block} {last : Block} (cursor : UInt64) (data : Bytes)
    (room : last.data.length < blockBytes) :
    appendStep datanodes blockBytes replication data ⟨initial ++ [last], cursor⟩ =
      (data.drop (blockBytes - last.data.length),
        ⟨initial ++ [{ last with data := last.data ++ data.take (blockBytes - last.data.length) }], cursor⟩) := by
  obtain ⟨less, same⟩ : ∃ less, blockBytes - last.data.length = less + 1 := ⟨_, (Nat.succ_pred (by omega)).symm⟩
  simp only [appendStep, List.getLast?_concat, same, List.dropLast_concat]

/-- A step fills up a block behind others: the last one if it has room, else a new one. -/
theorem appendStep_fills (datanodes : List String) (replication : UInt16) (positive : 0 < blockBytes)
    (layout : Layout) :
    ∃ (initial : List Block) (last : Block) (cursor : UInt64), last.data.length < blockBytes ∧
      (layout.blocks = initial ++ [last] ∨ layout.blocks = initial ∧ last.data = [] ∧
        ∀ block, initial.getLast? = some block → blockBytes ≤ block.data.length) ∧
      ∀ data, appendStep datanodes blockBytes replication data layout =
        (data.drop (blockBytes - last.data.length),
          ⟨initial ++ [{ last with data := last.data ++ data.take (blockBytes - last.data.length) }], cursor⟩) := by
  by_cases spare : ∃ (initial : List Block) (last : Block),
      layout.blocks = initial ++ [last] ∧ last.data.length < blockBytes
  · obtain ⟨initial, last, blocks, room⟩ := spare
    refine ⟨initial, last, layout.cursor, room, .inl blocks, fun data => ?_⟩
    rw [← appendStep_of_room layout.cursor data room, ← blocks]
  · refine ⟨layout.blocks, ⟨[], (place datanodes replication [] layout.cursor).1⟩,
      (place datanodes replication [] layout.cursor).2, positive, .inr ⟨rfl, rfl, fun block atEnd => ?_⟩,
      fun data => ?_⟩
    · obtain ⟨initial, blocks⟩ := List.getLast?_eq_some_iff.mp atEnd
      exact Nat.le_of_not_lt fun room => spare ⟨initial, block, blocks, room⟩
    · rcases appendStep_cases datanodes blockBytes replication data layout with
        ⟨initial, last, room, blocks, size, -⟩ | ⟨hosts, cursor, -, chosen, step⟩
      · exact (spare ⟨initial, last, blocks, by omega⟩).elim
      · rw [step, chosen]
        rfl

/-- With more data behind, a step either takes the same bytes, or, having taken all it was given, goes on with what is
behind. -/
theorem appendStep_append (positive : 0 < blockBytes) (first second : Bytes) (layout : Layout) :
    let taken := appendStep datanodes blockBytes replication first layout
    appendStep datanodes blockBytes replication (first ++ second) layout = (taken.1 ++ second, taken.2) ∨
      taken.1 = [] ∧ appendStep datanodes blockBytes replication (first ++ second) layout =
        appendStep datanodes blockBytes replication second taken.2 := by
  obtain ⟨initial, last, cursor, room, -, step⟩ := appendStep_fills datanodes replication positive layout
  simp only [step]
  by_cases enough : blockBytes - last.data.length ≤ first.length
  · left
    rw [List.drop_append_of_le_length enough, List.take_append_of_le_length enough]
  · right
    have short : first.length ≤ blockBytes - last.data.length := by omega
    rw [List.drop_append, List.take_append, List.drop_eq_nil_of_le short, List.take_of_length_le short]
    have left : (last.data ++ first).length < blockBytes := by rw [List.length_append]; omega
    rw [appendStep_of_room cursor second left, List.length_append, ← Nat.sub_sub, List.append_assoc]
    exact ⟨rfl, rfl⟩

/-- Appending one run of bytes after another is appending both at once. -/
theorem append_append (positive : 0 < blockBytes) (first second : Bytes) (layout : Layout) :
    append datanodes blockBytes replication second (append datanodes blockBytes replication first layout) =
      append datanodes blockBytes replication (first ++ second) layout := by
  induction size : first.length using Nat.strong_induction_on generalizing first layout with
  | _ length ih =>
    by_cases empty : first = []
    · rw [empty, append_nil, List.nil_append]
    by_cases nothing : second = []
    · rw [nothing, append_nil, List.append_nil]
    have shorter := appendStep_shrinks datanodes replication positive layout empty
    have both : first ++ second ≠ [] := by simp [empty]
    rw [append_of_ne_nil positive layout empty, append_of_ne_nil positive layout both]
    -- both appends take the same steps, until one takes what is left of the first run and goes into the second
    rcases appendStep_append positive first second layout with same | ⟨all, onward⟩
    · rw [same]
      exact ih _ (by omega) _ _ rfl
    · rw [all, append_nil, onward, append_of_ne_nil positive _ nothing]

end Layout

/-! ## Canonical blocks -/

/-- Bytes cut at the multiples of a size. -/
def chunks (size : Nat) (bytes : Bytes) : List Bytes :=
  (List.range ((bytes.length + size - 1) / size)).map fun index => (bytes.drop (index * size)).take size

theorem chunks_nil {size : Nat} (positive : 0 < size) : chunks size [] = [] := by
  rw [chunks, List.length_nil, Nat.zero_add, Nat.div_eq_of_lt (by omega), List.range_zero, List.map_nil]

/-- One chunk taken, there is one less to go. -/
theorem chunkCount_of_pos {size length : Nat} (positive : 0 < size) (nonempty : 0 < length) :
    (length + size - 1) / size = (length - size + size - 1) / size + 1 := by
  have fewer : (length - size + size - 1) / size = (length - 1) / size := by
    rcases Nat.lt_or_ge length size with short | long
    · rw [Nat.div_eq_of_lt (by omega), Nat.div_eq_of_lt (by omega)]
    · rw [Nat.sub_add_cancel long]
  rw [fewer, ← Nat.add_div_right _ positive, Nat.sub_add_comm nonempty]

/-- The chunks are those that begin before the end. -/
theorem lt_chunkCount_iff {size : Nat} (positive : 0 < size) {length index : Nat} :
    index < (length + size - 1) / size ↔ index * size < length := by
  rw [← Nat.succ_le_iff, Nat.le_div_iff_mul_le positive, Nat.succ_mul]
  omega

theorem chunks_of_ne_nil {size : Nat} (positive : 0 < size) {bytes : Bytes} (nonempty : bytes ≠ []) :
    chunks size bytes = bytes.take size :: chunks size (bytes.drop size) := by
  rw [chunks, chunks, List.length_drop, chunkCount_of_pos positive (List.length_pos_iff.mpr nonempty),
    List.range_succ_eq_map, List.map_cons, List.map_map, Nat.zero_mul, List.drop_zero]
  refine congrArg _ (List.map_congr_left fun index _ => ?_)
  rw [Function.comp_apply, List.drop_drop, Nat.succ_mul, Nat.add_comm]

namespace Block

/-- No block is empty, and all are full but for the last. -/
structure Canonical (blockBytes : Nat) (blocks : List Block) : Prop where
  nonempty : ∀ block ∈ blocks, block.data ≠ []
  bounded : ∀ block ∈ blocks, block.data.length ≤ blockBytes
  full : ∀ block ∈ blocks.dropLast, block.data.length = blockBytes

variable {blockBytes : Nat} {block last : Block} {blocks after initial : List Block}

namespace Canonical

protected theorem nil (blockBytes : Nat) : Canonical blockBytes [] := ⟨by simp, by simp, by simp⟩

theorem concat_iff (positive : 0 < blockBytes) : Canonical blockBytes (initial ++ [last]) ↔
    (∀ block ∈ initial, block.data.length = blockBytes) ∧ last.data ≠ [] ∧ last.data.length ≤ blockBytes := by
  constructor
  · intro canonical
    have full := canonical.full
    rw [List.dropLast_concat] at full
    exact ⟨full, canonical.nonempty last (by simp), canonical.bounded last (by simp)⟩
  · rintro ⟨full, nonempty, bounded⟩
    refine ⟨fun block member => ?_, fun block member => ?_, by rwa [List.dropLast_concat]⟩
    · rcases List.mem_append.mp member with before | atEnd
      · rw [← List.length_pos_iff, full block before]
        exact positive
      · rwa [List.mem_singleton.mp atEnd]
    · rcases List.mem_append.mp member with before | atEnd
      · exact (full block before).le
      · rwa [List.mem_singleton.mp atEnd]

theorem tail (canonical : Canonical blockBytes (block :: blocks)) : Canonical blockBytes blocks where
  nonempty other member := canonical.nonempty other (List.mem_cons_of_mem _ member)
  bounded other member := canonical.bounded other (List.mem_cons_of_mem _ member)
  full other member := by
    refine canonical.full other ?_
    rw [List.dropLast_cons_of_ne_nil (List.ne_nil_of_mem (List.mem_of_mem_dropLast member))]
    exact List.mem_cons_of_mem _ member

/-- The first block is full if it is not the only one. -/
theorem head (canonical : Canonical blockBytes (block :: blocks)) :
    block.data.length = blockBytes ∨ blocks = [] := by
  cases blocks with
  | nil => exact .inr rfl
  | cons next rest => exact .inl (canonical.full block (by simp))

/-- If the last block is full too, all are. -/
theorem all_full (canonical : Canonical blockBytes blocks)
    (noRoom : ∀ block, blocks.getLast? = some block → blockBytes ≤ block.data.length) :
    ∀ block ∈ blocks, block.data.length = blockBytes := by
  intro block member
  rcases List.eq_nil_or_concat' blocks with rfl | ⟨initial, last, rfl⟩
  · simp at member
  · rcases List.mem_append.mp member with before | atEnd
    · exact canonical.full block (by rwa [List.dropLast_concat])
    · rw [List.mem_singleton.mp atEnd]
      exact (canonical.bounded last (by simp)).antisymm (noRoom last (by simp))

/-- It matters only what data the blocks hold. -/
theorem of_map_data (canonical : Canonical blockBytes blocks)
    (same : after.map Block.data = blocks.map Block.data) : Canonical blockBytes after := by
  have held {these those : List Block} (same : these.map Block.data = those.map Block.data) (block : Block)
      (member : block ∈ these) : ∃ origin ∈ those, origin.data = block.data :=
    List.mem_map.mp (same ▸ List.mem_map_of_mem member)
  have initial : after.dropLast.map Block.data = blocks.dropLast.map Block.data := by
    rw [List.map_dropLast, same, List.map_dropLast]
  refine ⟨fun block member => ?_, fun block member => ?_, fun block member => ?_⟩
  · obtain ⟨origin, was, data⟩ := held same block member
    exact data ▸ canonical.nonempty origin was
  · obtain ⟨origin, was, data⟩ := held same block member
    exact data ▸ canonical.bounded origin was
  · obtain ⟨origin, was, data⟩ := held initial block member
    exact data ▸ canonical.full origin was

/-- Where canonical blocks are cut, the contents tell. -/
theorem map_data (positive : 0 < blockBytes) (canonical : Canonical blockBytes blocks) :
    blocks.map Block.data = chunks blockBytes (contents blocks) := by
  induction blocks with
  | nil => exact (chunks_nil positive).symm
  | cons block rest ih =>
    have filled : contents (block :: rest) ≠ [] := by
      simp [contents, canonical.nonempty block (List.mem_cons_self ..)]
    rw [chunks_of_ne_nil positive filled, List.map_cons, ih canonical.tail]
    have short := canonical.bounded block (List.mem_cons_self ..)
    rcases canonical.head with full | rfl
    · rw [contents_cons, ← full, List.take_left, List.drop_left]
    · rw [contents_cons, show contents [] = [] from rfl, List.append_nil, List.take_of_length_le short,
        List.drop_eq_nil_of_le short]

/-- The bytes left in the block at a position: up to the next multiple of the block size, or up to the end. -/
theorem remaining_eq (canonical : Canonical blockBytes blocks) (position : Nat) :
    remaining blocks position =
      min (blockBytes - position % blockBytes) ((contents blocks).length - position) := by
  induction blocks generalizing position with
  | nil => simp [remaining, contents]
  | cons block rest ih =>
    have short := canonical.bounded block (List.mem_cons_self ..)
    rw [remaining, contents_cons, List.length_append]
    split
    · next inside =>
      rw [Nat.mod_eq_of_lt (inside.trans_le short)]
      rcases canonical.head with full | rfl
      · omega
      · simp only [contents, List.flatMap_nil, List.length_nil]
        omega
    · next beyond =>
      rcases canonical.head with full | rfl
      · have reached : blockBytes ≤ position := by omega
        rw [ih canonical.tail, full, Nat.mod_eq_sub_mod reached]
        omega
      · simp only [remaining, contents, List.flatMap_nil, List.length_nil]
        omega

end Canonical

end Block

namespace Layout

variable {datanodes : List String} {blockBytes : Nat} {replication : UInt16}

theorem appendStep_canonical (positive : 0 < blockBytes) {data : Bytes} {layout : Layout} (nonempty : data ≠ [])
    (canonical : Block.Canonical blockBytes layout.blocks) :
    Block.Canonical blockBytes (appendStep datanodes blockBytes replication data layout).2.blocks := by
  obtain ⟨initial, last, cursor, room, blocks, step⟩ := appendStep_fills datanodes replication positive layout
  rw [step, Block.Canonical.concat_iff positive]
  refine ⟨?_, ?_, ?_⟩
  · rcases blocks with blocks | ⟨rfl, -, noRoom⟩
    · rw [blocks, Block.Canonical.concat_iff positive] at canonical
      exact canonical.1
    · exact canonical.all_full noRoom
  · have taken : data.take (blockBytes - last.data.length) ≠ [] := by
      simp only [ne_eq, List.take_eq_nil_iff, nonempty, or_false]
      omega
    simp [taken]
  · rw [List.length_append, List.length_take]
    omega

theorem Appends.canonical (positive : 0 < blockBytes) {data : Bytes} {layout after : Layout}
    (appends : Appends datanodes blockBytes replication data layout after)
    (canonical : Block.Canonical blockBytes layout.blocks) : Block.Canonical blockBytes after.blocks := by
  induction appends with
  | done => exact canonical
  | step nonempty _ ih => exact ih (appendStep_canonical positive nonempty canonical)

/-- Appending keeps blocks canonical. -/
theorem append_canonical (positive : 0 < blockBytes) (data : Bytes) {layout : Layout}
    (canonical : Block.Canonical blockBytes layout.blocks) :
    Block.Canonical blockBytes (append datanodes blockBytes replication data layout).blocks :=
  ((appends_iff positive).mpr rfl).canonical positive canonical

end Layout

end FileGateway
