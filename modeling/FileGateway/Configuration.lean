import FileGateway.Text.Quoted
import FileGateway.Text.Record

/-! # Configuration

The settings of the clients. A hint of zero stands for the configured value.
-/

namespace FileGateway

structure Configuration where
  /-- What the default target means: `local` or `host:port`. -/
  defaultName : String
  bufferSize : UInt64
  replication : UInt16
  blockSize : UInt64
  /-- The size of the blocks that the local disk reports. -/
  localBlockSize : UInt64
deriving DecidableEq, Repr

namespace Configuration

def default : Configuration :=
  { defaultName := "local"
    bufferSize := 4096
    replication := 3
    blockSize := 64 * 1024 * 1024
    localBlockSize := 32 * 1024 * 1024 }

instance : Inhabited Configuration := ⟨default⟩

def bufferSizeOr (conf : Configuration) (hint : UInt64) : UInt64 :=
  if hint = 0 then conf.bufferSize else hint

def replicationOr (conf : Configuration) (hint : UInt16) : UInt16 :=
  if hint = 0 then conf.replication else hint

def blockSizeOr (conf : Configuration) (hint : UInt64) : UInt64 :=
  if hint = 0 then conf.blockSize else hint

/-- The settings as a record text. -/
def text (conf : Configuration) : String :=
  recordText "Configuration"
    [("default_name", Quoted.text conf.defaultName), ("buffer_size", toString conf.bufferSize),
     ("replication", toString conf.replication), ("block_size", toString conf.blockSize),
     ("local_block_size", toString conf.localBlockSize)]

end Configuration

end FileGateway
