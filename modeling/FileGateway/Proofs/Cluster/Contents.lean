import FileGateway.Cluster.Placement
import FileGateway.Proofs.SortedMap

/-! # What blocks hold

The bytes of a file are those of its blocks in order. Appending extends them by the data, however it
is cut; changing replicas leaves them alone; and a read gives a run of them that is empty only at the
end or when nothing is asked for.
-/

namespace FileGateway

/-- The bytes of some blocks, in order. -/
def Block.contents (blocks : List Block) : Bytes := blocks.flatMap Block.data

theorem FileNode.bytes_eq (node : FileNode) : node.bytes = Block.contents node.blocks := rfl

namespace Layout

variable {datanodes : List String} {blockBytes : Nat} {replication : UInt16}

/-- A step either tops up the last block or opens a new one, and returns the data it did not take. -/
theorem appendStep_cases (datanodes : List String) (blockBytes : Nat) (replication : UInt16)
    (data : Bytes) (layout : Layout) :
    (∃ initial last room, layout.blocks = initial ++ [last] ∧
      blockBytes = last.data.length + (room + 1) ∧
      appendStep datanodes blockBytes replication data layout =
        (data.drop (room + 1), { layout with
          blocks := initial ++ [{ last with data := last.data ++ data.take (room + 1) }] })) ∨
    (∃ hosts cursor, (∀ last : Block, layout.blocks.getLast? = some last → blockBytes ≤ last.data.length) ∧
      place datanodes replication [] layout.cursor = (hosts, cursor) ∧
      appendStep datanodes blockBytes replication data layout =
        (data.drop blockBytes, ⟨layout.blocks ++ [⟨data.take blockBytes, hosts⟩], cursor⟩)) := by
  rw [appendStep]
  split
  · next last room found spare =>
    obtain ⟨initial, same⟩ := List.getLast?_eq_some_iff.mp found
    simp only [found] at spare
    refine .inl ⟨initial, last, room, same, by omega, ?_⟩
    rw [same, List.dropLast_concat]
  · next noRoom =>
    refine .inr ⟨_, _, fun last found => ?_, rfl, rfl⟩
    rw [found] at noRoom
    by_contra spare
    exact noRoom last (blockBytes - last.data.length - 1) rfl (by simp only; omega)

/-- A step moves some of the data behind the contents and returns the rest. -/
private theorem appendStep_contents (data : Bytes) (layout : Layout) :
    Block.contents (appendStep datanodes blockBytes replication data layout).2.blocks ++
        (appendStep datanodes blockBytes replication data layout).1 =
      Block.contents layout.blocks ++ data := by
  rcases appendStep_cases datanodes blockBytes replication data layout with
    ⟨initial, last, room, same, -, step⟩ | ⟨hosts, cursor, -, -, step⟩
  · rw [step, same]
    simp [Block.contents]
  · rw [step]
    simp [Block.contents]

/-- A step takes some of the data. -/
theorem appendStep_shrinks (datanodes : List String) (replication : UInt16)
    (positive : 0 < blockBytes) {data : Bytes} (layout : Layout) (nonempty : data ≠ []) :
    (appendStep datanodes blockBytes replication data layout).1.length < data.length := by
  have length := List.length_pos_iff.mpr nonempty
  rcases appendStep_cases datanodes blockBytes replication data layout with
    ⟨initial, last, room, -, -, step⟩ | ⟨hosts, cursor, -, -, step⟩ <;>
    rw [step, List.length_drop] <;> omega

private theorem appendSteps_contents (positive : 0 < blockBytes) {steps : Nat} {data : Bytes}
    (layout : Layout) (enough : data.length ≤ steps) :
    Block.contents (appendSteps datanodes blockBytes replication steps data layout).blocks =
      Block.contents layout.blocks ++ data := by
  induction steps generalizing data layout with
  | zero =>
    obtain rfl : data = [] := List.eq_nil_of_length_eq_zero (by omega)
    simp [appendSteps]
  | succ steps ih =>
    rw [appendSteps]
    split
    · next empty => simp [List.isEmpty_iff.mp empty]
    · next nonempty =>
      have shorter := appendStep_shrinks datanodes replication positive layout
        (mt List.isEmpty_iff.mpr nonempty)
      rw [ih _ (by omega), appendStep_contents]

/-- Appending extends the contents by the data, whatever the size of the blocks. -/
theorem append_contents (positive : 0 < blockBytes) (data : Bytes) (layout : Layout) :
    Block.contents (append datanodes blockBytes replication data layout).blocks =
      Block.contents layout.blocks ++ data :=
  appendSteps_contents positive layout le_rfl

end Layout

theorem FileNode.blockBytes_pos (node : FileNode) : 0 < node.blockBytes := by
  rw [blockBytes]
  omega

namespace Block

theorem replicate_data (datanodes : List String) (wanted : UInt16) (block : Block)
    (cursor : UInt64) : (replicate datanodes wanted block cursor).1.data = block.data := by
  rw [replicate]
  split_ifs <;> rfl

/-- Changing the number of replicas leaves the data of every block alone. -/
theorem replicateAll_map_data (datanodes : List String) (wanted : UInt16) (blocks : List Block) (cursor : UInt64) :
    (replicateAll datanodes wanted blocks cursor).1.map Block.data = blocks.map Block.data := by
  induction blocks generalizing cursor with
  | nil => rfl
  | cons block rest ih => rw [replicateAll, List.map_cons, List.map_cons, replicate_data, ih]

theorem replicateAll_contents (datanodes : List String) (wanted : UInt16) (blocks : List Block)
    (cursor : UInt64) :
    contents (replicateAll datanodes wanted blocks cursor).1 = contents blocks := by
  rw [contents, contents, List.flatMap_def, List.flatMap_def, replicateAll_map_data]

/-! ## Reading -/

variable {blocks : List Block} {position count : Nat}

theorem contents_cons (block : Block) (rest : List Block) :
    contents (block :: rest) = block.data ++ contents rest := rfl

/-- No more is left in a block than in the whole. -/
theorem remaining_le (blocks : List Block) (position : Nat) :
    remaining blocks position ≤ (contents blocks).length - position := by
  induction blocks generalizing position with
  | nil => exact Nat.zero_le _
  | cons block rest ih =>
    have later := ih (position - block.data.length)
    rw [remaining, contents_cons, List.length_append]
    split <;> omega

/-- Nothing is left in the block at a position only if nothing is left at all. -/
theorem remaining_eq_zero_iff : remaining blocks position = 0 ↔ (contents blocks).length ≤ position := by
  induction blocks generalizing position with
  | nil => simp [remaining, contents]
  | cons block rest ih =>
    rw [remaining, contents_cons, List.length_append]
    split
    · omega
    · rw [ih]
      omega

/-- A read gives the contents from its position on, to the end of the block. -/
theorem readFrom_eq (blocks : List Block) (position count : Nat) :
    readFrom blocks position count =
      ((contents blocks).drop position).take (min count (remaining blocks position)) := by
  induction blocks generalizing position with
  | nil => simp [readFrom, contents]
  | cons block rest ih =>
    rw [readFrom, remaining, contents_cons]
    split
    · next inside =>
      rw [List.drop_append_of_le_length (by omega), List.take_append_of_le_length (by rw [List.length_drop]; omega),
        ← List.length_drop, ← List.take_eq_take_min]
    · next beyond =>
      rw [List.drop_append, List.drop_eq_nil_of_le (by omega), List.nil_append, ih]

theorem length_readFrom (blocks : List Block) (position count : Nat) :
    (readFrom blocks position count).length = min count (remaining blocks position) := by
  have bound := remaining_le blocks position
  rw [readFrom_eq, List.length_take, List.length_drop]
  omega

/-- A read gives a run of the contents from its position on. -/
theorem readFrom_prefix (blocks : List Block) (position count : Nat) :
    readFrom blocks position count <+: ((contents blocks).drop position).take count := by
  rw [List.prefix_take_iff, length_readFrom, readFrom_eq]
  exact ⟨List.take_prefix .., Nat.min_le_left ..⟩

theorem readFrom_eq_nil_iff :
    readFrom blocks position count = [] ↔ count = 0 ∨ (contents blocks).length ≤ position := by
  rw [← List.length_eq_zero_iff, length_readFrom, Nat.min_eq_zero_iff, remaining_eq_zero_iff]

end Block

end FileGateway
