import FileGateway.Proofs.Cluster.Files
import Mathlib.Data.List.Rotate
import Mathlib.Data.List.Nodup

/-! # Where replicas are placed

A placement takes a run of the candidates, rotated by the cursor, so no host is taken twice while the cursor
does not overflow. A block that is placed has its replicas on distinct datanodes, as many as are wanted and
there are; appending places the new blocks so, and another number of replicas trims or tops up the old ones.
`placedSince` counts the placements, which is how far the cursor moves at most.
-/

namespace FileGateway

/-- A number of placements that no cursor reaches. -/
def placementLimit : Nat := 0x8000000000000000

variable {datanodes excluded : List String} {replication wanted : UInt16} {cursor : UInt64}

/-! ## One placement -/

private theorem filterMap_range_getElem? {α : Type} (items : List α) (count : Nat) :
    (List.range count).filterMap (items[·]?) = items.take count := by
  induction count with
  | zero => rfl
  | succ count ih =>
    rw [List.range_succ, List.filterMap_append, ih, List.take_add_one]
    rfl

/-- Those of some hosts that are not excluded. -/
def candidates (datanodes excluded : List String) : List String :=
  datanodes.filter fun host => !excluded.contains host

theorem mem_candidates {host : String} :
    host ∈ candidates datanodes excluded ↔ host ∈ datanodes ∧ host ∉ excluded := by
  simp [candidates]

/-- The candidates of a block that has some datanodes are the other datanodes. -/
theorem length_candidates (distinct : datanodes.Nodup) (apart : excluded.Nodup)
    (known : ∀ host ∈ excluded, host ∈ datanodes) :
    (candidates datanodes excluded).length = datanodes.length - excluded.length := by
  have held : (datanodes.filter (excluded.contains ·)).Perm excluded := by
    rw [List.perm_ext_iff_of_nodup (distinct.filter _) apart]
    intro host
    simpa using known host
  have split := datanodes.length_eq_length_filter_add (excluded.contains ·)
  rw [held.length_eq] at split
  rw [candidates]
  omega

/-- A placement takes the candidates in turn, from the one that the cursor points at. -/
theorem place_hosts (datanodes : List String) (replication : UInt16) (excluded : List String)
    (few : cursor.toNat < placementLimit) :
    (place datanodes replication excluded cursor).1 =
      ((candidates datanodes excluded).rotate cursor.toNat).take replication.toNat := by
  rw [place]
  change (if (candidates datanodes excluded).isEmpty then _ else _ : List String × UInt64).1 = _
  generalize isHosts : candidates datanodes excluded = hosts
  split
  · next empty => simp [List.isEmpty_iff.mp empty]
  · next nonempty =>
    have inTurn (step : Nat) (member : step ∈ List.range (min replication.toNat hosts.length)) :
        hosts[(cursor + UInt64.ofNat step).toNat % hosts.length]? = (hosts.rotate cursor.toNat)[step]? := by
      have short := List.mem_range.mp member
      have bound := replication.toNat_lt
      rw [placementLimit] at few
      rw [List.getElem?_rotate (by omega), UInt64.toNat_add, UInt64.toNat_ofNat', Nat.add_comm step,
        Nat.mod_eq_of_lt (a := step) (by omega), Nat.mod_eq_of_lt (a := cursor.toNat + step) (by omega)]
    simp only [candidates] at isHosts
    simp only [isHosts]
    rw [List.filterMap_congr inTurn, filterMap_range_getElem?, ← List.length_rotate hosts cursor.toNat,
      ← List.take_eq_take_min]

theorem place_cursor (datanodes : List String) (replication : UInt16) (excluded : List String)
    (few : cursor.toNat < placementLimit) :
    (place datanodes replication excluded cursor).2.toNat =
      cursor.toNat + min 1 (candidates datanodes excluded).length := by
  rw [place]
  change (if (candidates datanodes excluded).isEmpty then _ else _ : List String × UInt64).2.toNat = _
  rw [placementLimit] at few
  split
  · next empty => rw [List.isEmpty_iff.mp empty, List.length_nil, Nat.min_zero, Nat.add_zero]
  · next nonempty =>
    have positive := List.length_pos_iff.mpr (mt List.isEmpty_iff.mpr nonempty)
    rw [UInt64.toNat_add, UInt64.toNat_one]
    omega

theorem place_of_none (replication : UInt16) (cursor : UInt64) (none : (candidates datanodes excluded).length = 0) :
    place datanodes replication excluded cursor = ([], cursor) := by
  rw [place]
  exact if_pos (List.isEmpty_iff.mpr (List.eq_nil_of_length_eq_zero none))

theorem place_length (datanodes : List String) (replication : UInt16) (excluded : List String)
    (few : cursor.toNat < placementLimit) :
    (place datanodes replication excluded cursor).1.length =
      min replication.toNat (candidates datanodes excluded).length := by
  rw [place_hosts datanodes replication excluded few, List.length_take, List.length_rotate]

theorem place_nodup (distinct : datanodes.Nodup) (replication : UInt16) (excluded : List String)
    (few : cursor.toNat < placementLimit) : (place datanodes replication excluded cursor).1.Nodup := by
  rw [place_hosts datanodes replication excluded few]
  exact (List.nodup_rotate.mpr (distinct.filter _)).sublist (List.take_sublist ..)

theorem mem_place {host : String} (few : cursor.toNat < placementLimit)
    (member : host ∈ (place datanodes replication excluded cursor).1) : host ∈ datanodes ∧ host ∉ excluded := by
  rw [place_hosts datanodes replication excluded few] at member
  exact mem_candidates.mp (List.mem_rotate.mp (List.mem_of_mem_take member))

/-! ## Blocks -/

namespace Block

/-- The replicas of a block are on distinct datanodes, as many as wanted and there are. -/
structure Placed (datanodes : List String) (wanted : UInt16) (block : Block) : Prop where
  distinct : block.hosts.Nodup
  known : ∀ host ∈ block.hosts, host ∈ datanodes
  count : block.hosts.length = min wanted.toNat datanodes.length

/-- How many placements made one list of blocks from another: one for every block that is new or has gained
hosts. -/
def placedSince : List Block → List Block → Nat
  | _, [] => 0
  | [], after => after.length
  | old :: before, new :: after =>
    (if old.hosts.length < new.hosts.length then 1 else 0) + placedSince before after

/-- Blocks that are added are placed once each. -/
theorem placedSince_of_prefix {before after : List Block}
    (longer : before.map Block.hosts <+: after.map Block.hosts) :
    placedSince before after = after.length - before.length := by
  induction after generalizing before with
  | nil => simp [placedSince]
  | cons new after ih =>
    cases before with
    | nil => rfl
    | cons old before =>
      simp only [List.map_cons, List.cons_prefix_cons] at longer
      rw [placedSince, longer.1, if_neg (Nat.lt_irrefl _), ih longer.2, List.length_cons, List.length_cons]
      omega

theorem placed_place (distinct : datanodes.Nodup) (data : Bytes) (few : cursor.toNat < placementLimit) :
    Placed datanodes wanted ⟨data, (place datanodes wanted [] cursor).1⟩ where
  distinct := place_nodup distinct wanted [] few
  known _ member := (mem_place few member).1
  count := by
    rw [place_length datanodes wanted [] few, length_candidates distinct List.nodup_nil (by simp)]
    rfl

variable {block : Block}

theorem replicate_of_le (datanodes : List String) (cursor : UInt64)
    (enough : wanted.toNat ≤ block.hosts.length) : replicate datanodes wanted block cursor =
      ({ block with hosts := block.hosts.take wanted.toNat }, cursor) := by
  rw [replicate]
  split_ifs
  · rfl
  · omega
  · rw [List.take_of_length_le (by omega)]

theorem replicate_of_lt (datanodes : List String) (cursor : UInt64)
    (fewer : block.hosts.length < wanted.toNat) :
    let placed := place datanodes (UInt16.ofNat (wanted.toNat - block.hosts.length)) block.hosts cursor
    replicate datanodes wanted block cursor = ({ block with hosts := block.hosts ++ placed.1 }, placed.2) := by
  rw [replicate, if_neg (by omega), if_pos fewer]

/-- A block is trimmed without a placement, or topped up with one, or stays. -/
theorem Placed.replicate (placed : block.Placed datanodes replication) (distinct : datanodes.Nodup)
    (few : cursor.toNat < placementLimit) (wanted : UInt16) :
    (replicate datanodes wanted block cursor).1.Placed datanodes wanted ∧
      (replicate datanodes wanted block cursor).2.toNat = cursor.toNat +
        if block.hosts.length < (replicate datanodes wanted block cursor).1.hosts.length then 1 else 0 := by
  have count := placed.count
  by_cases enough : wanted.toNat ≤ block.hosts.length
  · rw [replicate_of_le datanodes cursor enough]
    refine ⟨⟨placed.distinct.sublist (List.take_sublist ..),
      fun host member => placed.known host (List.mem_of_mem_take member), ?_⟩, ?_⟩
    · rw [List.length_take]
      omega
    · rw [List.length_take, if_neg (by omega), Nat.add_zero]
  · have fewer : block.hosts.length < wanted.toNat := by omega
    rw [replicate_of_lt datanodes cursor fewer]
    have missing : (UInt16.ofNat (wanted.toNat - block.hosts.length)).toNat =
        wanted.toNat - block.hosts.length := by
      have bound := wanted.toNat_lt
      rw [UInt16.toNat_ofNat', Nat.mod_eq_of_lt (by omega)]
    have others := length_candidates distinct placed.distinct placed.known
    have length := place_length datanodes (UInt16.ofNat (wanted.toNat - block.hosts.length)) block.hosts few
    rw [missing, others] at length
    refine ⟨⟨?_, fun host member => ?_, ?_⟩, ?_⟩
    · rw [List.nodup_append']
      exact ⟨placed.distinct, place_nodup distinct _ _ few, fun host held extra => (mem_place few extra).2 held⟩
    · rcases List.mem_append.mp member with held | extra
      · exact placed.known host held
      · exact (mem_place few extra).1
    · rw [List.length_append, length]
      omega
    · rw [place_cursor datanodes _ block.hosts few, List.length_append, length, others]
      split_ifs <;> omega

/-- All blocks of a file are trimmed, topped up or left. -/
theorem replicateAll_placed (distinct : datanodes.Nodup) (wanted : UInt16) {blocks : List Block}
    (placed : ∀ block ∈ blocks, block.Placed datanodes replication)
    (few : cursor.toNat + placedSince blocks (replicateAll datanodes wanted blocks cursor).1 < placementLimit) :
    (∀ block ∈ (replicateAll datanodes wanted blocks cursor).1, block.Placed datanodes wanted) ∧
      (replicateAll datanodes wanted blocks cursor).2.toNat =
        cursor.toNat + placedSince blocks (replicateAll datanodes wanted blocks cursor).1 := by
  induction blocks generalizing cursor with
  | nil => exact ⟨by simp [replicateAll], rfl⟩
  | cons block rest ih =>
    simp only [replicateAll, placedSince] at few ⊢
    have fewFirst : cursor.toNat < placementLimit := by omega
    obtain ⟨first, moved⟩ := (placed block (List.mem_cons_self ..)).replicate distinct fewFirst wanted
    have fewRest : (replicate datanodes wanted block cursor).2.toNat + placedSince rest
        (replicateAll datanodes wanted rest (replicate datanodes wanted block cursor).2).1 < placementLimit := by
      omega
    obtain ⟨others, last⟩ := ih (fun other member => placed other (List.mem_cons_of_mem _ member)) fewRest
    refine ⟨?_, by omega⟩
    rintro other (_ | ⟨_, member⟩)
    · exact first
    · exact others other member

/-- A block that has its replicas stays as it is, and takes no placement. -/
theorem Placed.replicate_self (placed : block.Placed datanodes wanted) (distinct : datanodes.Nodup)
    (cursor : UInt64) : Block.replicate datanodes wanted block cursor = (block, cursor) := by
  have count := placed.count
  by_cases enough : wanted.toNat ≤ block.hosts.length
  · rw [replicate_of_le datanodes cursor enough, List.take_of_length_le (by omega)]
  · have none := length_candidates distinct placed.distinct placed.known
    rw [replicate_of_lt datanodes cursor (by omega), place_of_none _ _ (by omega), List.append_nil]

theorem replicateAll_self (distinct : datanodes.Nodup) {blocks : List Block}
    (placed : ∀ block ∈ blocks, block.Placed datanodes wanted) (cursor : UInt64) :
    replicateAll datanodes wanted blocks cursor = (blocks, cursor) := by
  induction blocks with
  | nil => rfl
  | cons block rest ih =>
    rw [replicateAll, (placed block (List.mem_cons_self ..)).replicate_self distinct]
    simp only [ih fun other member => placed other (List.mem_cons_of_mem _ member)]

/-- The replicas that were wanted and still are stay where they are. -/
theorem Placed.replicate_keeps (placed : block.Placed datanodes replication) (distinct : datanodes.Nodup)
    (wanted : UInt16) (cursor : UInt64) :
    (Block.replicate datanodes wanted block cursor).1.hosts.take (min replication.toNat wanted.toNat) =
      block.hosts.take (min replication.toNat wanted.toNat) := by
  have count := placed.count
  by_cases enough : wanted.toNat ≤ block.hosts.length
  · rw [replicate_of_le datanodes cursor enough, List.take_take, Nat.min_assoc, Nat.min_self]
  · rw [replicate_of_lt datanodes cursor (by omega)]
    by_cases full : datanodes.length ≤ block.hosts.length
    · have none := length_candidates distinct placed.distinct placed.known
      rw [place_of_none _ _ (by omega), List.append_nil]
    · exact List.take_append_of_le_length (by omega)

theorem replicateAll_keeps (distinct : datanodes.Nodup) (wanted : UInt16) {blocks : List Block}
    (placed : ∀ block ∈ blocks, block.Placed datanodes replication) (cursor : UInt64) :
    List.Forall₂ (fun old new : Block => new.data = old.data ∧
        new.hosts.take (min replication.toNat wanted.toNat) = old.hosts.take (min replication.toNat wanted.toNat))
      blocks (replicateAll datanodes wanted blocks cursor).1 := by
  induction blocks generalizing cursor with
  | nil => exact .nil
  | cons block rest ih =>
    refine .cons ⟨replicate_data .., ?_⟩ (ih (fun other member => placed other (List.mem_cons_of_mem _ member)) _)
    exact (placed block (List.mem_cons_self ..)).replicate_keeps distinct wanted cursor

end Block

/-! ## Appending -/

namespace Layout

/-- The blocks of a layout stay on their hosts, and each placement of later ones adds a block. -/
structure Extends (datanodes : List String) (replication : UInt16) (before after : Layout) : Prop where
  hosts : before.blocks.map Block.hosts <+: after.blocks.map Block.hosts
  placed : datanodes.Nodup → (∀ block ∈ before.blocks, block.Placed datanodes replication) →
    before.cursor.toNat + (after.blocks.length - before.blocks.length) < placementLimit →
    (∀ block ∈ after.blocks, block.Placed datanodes replication) ∧
      after.cursor.toNat ≤ before.cursor.toNat + (after.blocks.length - before.blocks.length)

namespace Extends

protected theorem refl (layout : Layout) : Extends datanodes replication layout layout where
  hosts := List.prefix_rfl
  placed _ placed _ := ⟨placed, Nat.le_add_right ..⟩

theorem length_le {before after : Layout} (longer : Extends datanodes replication before after) :
    before.blocks.length ≤ after.blocks.length := by
  simpa using longer.hosts.length_le

protected theorem trans {before middle after : Layout} (one : Extends datanodes replication before middle)
    (two : Extends datanodes replication middle after) : Extends datanodes replication before after where
  hosts := one.hosts.trans two.hosts
  placed distinct placed few := by
    have oneLength := one.length_le
    have twoLength := two.length_le
    obtain ⟨midway, moved⟩ := one.placed distinct placed (by omega)
    obtain ⟨last, movedLast⟩ := two.placed distinct midway (by omega)
    exact ⟨last, by omega⟩

end Extends

theorem appendStep_extends (datanodes : List String) (blockBytes : Nat) (replication : UInt16) (data : Bytes)
    (layout : Layout) :
    Extends datanodes replication layout (appendStep datanodes blockBytes replication data layout).2 := by
  rcases appendStep_cases datanodes blockBytes replication data layout with
    ⟨initial, last, room, same, -, step⟩ | ⟨hosts, cursor, -, chosen, step⟩
  · rw [step]
    refine ⟨by simp [same], fun _ placed _ => ⟨?_, by simp [same]⟩⟩
    rw [same] at placed
    simp only [List.mem_append, List.mem_singleton] at placed ⊢
    rintro block (old | rfl)
    · exact placed block (.inl old)
    · have was := placed last (.inr rfl)
      exact ⟨was.distinct, was.known, was.count⟩
  · rw [step]
    refine ⟨by simp, fun distinct placed few => ?_⟩
    simp only [List.length_append, List.length_singleton, Nat.add_sub_cancel_left] at few ⊢
    have fewBefore : layout.cursor.toNat < placementLimit := by omega
    have moved := place_cursor datanodes replication [] fewBefore
    have new : Block.Placed datanodes replication ⟨data.take blockBytes, _⟩ :=
      Block.placed_place distinct (data.take blockBytes) fewBefore
    rw [chosen] at moved new
    refine ⟨fun block member => ?_, by simp only at moved; omega⟩
    rcases List.mem_append.mp member with old | isNew
    · exact placed block old
    · rw [List.mem_singleton.mp isNew]
      exact new

theorem appendSteps_extends (datanodes : List String) (blockBytes : Nat) (replication : UInt16) (steps : Nat)
    (data : Bytes) (layout : Layout) :
    Extends datanodes replication layout (appendSteps datanodes blockBytes replication steps data layout) := by
  induction steps generalizing data layout with
  | zero => exact .refl layout
  | succ steps ih =>
    rw [appendSteps]
    split
    · exact .refl layout
    · exact (appendStep_extends datanodes blockBytes replication data layout).trans (ih _ _)

end Layout

/-! ## Writers -/

/-- The file at a place has got longer, and nothing else has changed but the cursor. -/
def Cluster.Appended (cluster : Cluster) (location : Location) (after : Cluster) : Prop :=
  ∃ node changed cursor, cluster.tree.file? location = some node ∧
    after = cluster.withFile location changed cursor ∧ changed.replication = node.replication ∧
    Layout.Extends cluster.datanodes node.replication ⟨node.blocks, cluster.cursor⟩ ⟨changed.blocks, cursor⟩

/-- A call leaves the cluster as it is, or makes the file at the place of the writer longer. -/
theorem ClusterWriter.answer_same_or_appended (writer : ClusterWriter) (cluster : Cluster) (now : Int)
    (asked : WriterCall) : (writer.answer cluster now asked).2.2 = cluster ∨
      cluster.Appended writer.location (writer.answer cluster now asked).2.2 := by
  refine (writer.answer_same_or_lays cluster now asked).imp_right ?_
  rintro ⟨node, changed, found, ran, blocks, replication, -⟩
  refine ⟨node, changed, _, found, ran, replication, ?_⟩
  rw [blocks]
  exact Layout.appendSteps_extends ..

end FileGateway
