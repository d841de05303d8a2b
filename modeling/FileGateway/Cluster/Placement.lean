import FileGateway.Cluster.Namespace

/-! # Blocks on hosts

New blocks are placed on the hosts of a cluster in turn: a cursor counts the placements and each
starts one host further. Data is appended by filling the last block and then adding blocks.
-/

namespace FileGateway

/-- Picks hosts for a block, none of them excluded: as many as asked for, or all candidates if
they are fewer. Without candidates the cursor stays. -/
def place (datanodes : List String) (replication : UInt16) (excluded : List String)
    (cursor : UInt64) : List String × UInt64 :=
  let candidates := datanodes.filter (fun host => !excluded.contains host)
  if candidates.isEmpty then ([], cursor)
  else
    let count := min replication.toNat candidates.length
    let chosen := (List.range count).filterMap fun step =>
      candidates[(cursor + UInt64.ofNat step).toNat % candidates.length]?
    (chosen, cursor + 1)

/-- A list of blocks under construction, with the cursor for the next placement. -/
structure Layout where
  blocks : List Block
  cursor : UInt64
deriving DecidableEq, Repr

namespace Layout

/-- One step of appending: bytes go to the last block while it has room, else to a new block. The
rest of the data is returned. -/
def appendStep (datanodes : List String) (blockBytes : Nat) (replication : UInt16) (data : Bytes)
    (layout : Layout) : Bytes × Layout :=
  let room := match layout.blocks.getLast? with
    | some last => blockBytes - last.data.length
    | none => 0
  match layout.blocks.getLast?, room with
  | some last, room + 1 =>
    (data.drop (room + 1),
      { layout with
        blocks := layout.blocks.dropLast ++
          [{ last with data := last.data ++ data.take (room + 1) }] })
  | _, _ =>
    let (hosts, cursor) := place datanodes replication [] layout.cursor
    (data.drop blockBytes, ⟨layout.blocks ++ [⟨data.take blockBytes, hosts⟩], cursor⟩)

/-- Appends data in at most `steps` steps. -/
def appendSteps (datanodes : List String) (blockBytes : Nat) (replication : UInt16) :
    Nat → Bytes → Layout → Layout
  | 0, _, layout => layout
  | steps + 1, data, layout =>
    if data.isEmpty then layout
    else
      let (rest, layout) := appendStep datanodes blockBytes replication data layout
      appendSteps datanodes blockBytes replication steps rest layout

/-- Appends data. Every step takes a byte at least, so there are no more steps than bytes. -/
def append (datanodes : List String) (blockBytes : Nat) (replication : UInt16) (data : Bytes)
    (layout : Layout) : Layout :=
  appendSteps datanodes blockBytes replication data.length data layout

end Layout

namespace Block

/-- Up to `count` bytes from a position on, all from the block that holds the position. -/
def readFrom : List Block → Nat → Nat → Bytes
  | [], _, _ => []
  | block :: rest, position, count =>
    if position < block.data.length then (block.data.drop position).take count
    else readFrom rest (position - block.data.length) count

/-- The bytes from a position to the end of the block that holds it. -/
def remaining : List Block → Nat → Nat
  | [], _ => 0
  | block :: rest, position =>
    if position < block.data.length then block.data.length - position
    else remaining rest (position - block.data.length)

/-- The blocks that reach into the bytes from `start` up to `stop`; the first one begins at
`offset`. -/
def overlapping (start stop : Nat) : Nat → List Block → List (Nat × Block)
  | _, [] => []
  | offset, block :: rest =>
    let next := offset + block.data.length
    let behind := overlapping start stop next rest
    if offset < stop ∧ start < next then (offset, block) :: behind else behind

/-- Brings the number of replicas of a block to what is wanted: surplus hosts are dropped from the
end, missing ones placed behind. -/
def replicate (datanodes : List String) (wanted : UInt16) (block : Block) (cursor : UInt64) :
    Block × UInt64 :=
  let held := block.hosts.length
  if wanted.toNat < held then ({ block with hosts := block.hosts.take wanted.toNat }, cursor)
  else if held < wanted.toNat then
    let (extra, cursor) := place datanodes (UInt16.ofNat (wanted.toNat - held)) block.hosts cursor
    ({ block with hosts := block.hosts ++ extra }, cursor)
  else (block, cursor)

def replicateAll (datanodes : List String) (wanted : UInt16) :
    List Block → UInt64 → List Block × UInt64
  | [], cursor => ([], cursor)
  | block :: rest, cursor =>
    let (block, cursor) := replicate datanodes wanted block cursor
    let (rest, cursor) := replicateAll datanodes wanted rest cursor
    (block :: rest, cursor)

end Block

end FileGateway
