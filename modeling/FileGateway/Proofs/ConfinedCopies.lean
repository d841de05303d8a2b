import FileGateway.Proofs.Storage.Building
import FileGateway.Proofs.TreeCopy

/-! # Copies are confined

A copy may fail at any point, with any error, also where it reads, writes or closes a file of the disk, for the system
may refuse any transfer; and the disk may have links. Whatever happens, it builds at its target alone, so what was on a
cluster is still there, and a move that fails has removed nothing. The source of a move is removed only after the whole
tree was copied: every file of it opened, read to its end, written and closed without an error.
-/

namespace FileGateway.Storage

variable {storage after : Storage} {goal? : Nat → Option Location} {sourceClient targetClient client number : Nat}
  {source target path : Path} {conf : Configuration} {input output length : Nat}

/-! ## Copies build at their targets -/

/-- All that was left to read was read, and all that was read was written, all without an error. -/
inductive Drained (input output length : Nat) : Storage → Storage → Prop
  | ended {before after : Storage} (nothing : read input length before = .ok (.ofData []) after) :
      Drained input output length before after
  | moved {before middle later after : Storage} {data : Bytes}
      (got : read input length before = .ok (.ofData data) middle) (some : data ≠ [])
      (put : write output data middle = .ok data.length later) (rest : Drained input output length later after) :
      Drained input output length before after

/-- A file was opened, read to its end, written and closed, all without an error. -/
inductive FileCopied (sourceClient targetClient : Nat) (conf : Configuration) (source target : Path) :
    Storage → Storage → Prop
  | intro {before opened created drained flushed closed : Storage} {input output : Nat} {options : CreateOptions}
      (opens : openReader sourceClient source conf.bufferSize before = .ok input opened)
      (creates : createWriter targetClient target options opened = .ok output created)
      (drains : Drained input output (max conf.bufferSize.toNat 1) created drained)
      (closesOutput : closeStream output drained = .ok () flushed)
      (closesInput : closeStream input flushed = .ok () closed) :
      FileCopied sourceClient targetClient conf source target before (ended (dropStream output closed))

mutual

/-- A tree was copied without an error: its file, or its directory and then the trees in it. -/
inductive TreeCopied (sourceClient targetClient : Nat) (conf : Configuration) : Path → Path → Storage → Storage → Prop
  | file {source target : Path} {before after : Storage} {found : FileStatus}
      (known : status sourceClient source before = .ok found before) (isFile : found.isDirectory = false)
      (copied : FileCopied sourceClient targetClient conf source target before after) :
      TreeCopied sourceClient targetClient conf source target before after
  | directory {source target : Path} {before made after : Storage} {found : FileStatus} {entries : List FileStatus}
      (known : status sourceClient source before = .ok found before) (isDirectory : found.isDirectory = true)
      (listed : list sourceClient source before = .ok entries before)
      (creates : createDirectories targetClient target before = .ok () made)
      (copied : EntriesCopied sourceClient targetClient conf target entries made after) :
      TreeCopied sourceClient targetClient conf source target before after

/-- The trees of the entries of a directory were copied one after the other, each under its name. -/
inductive EntriesCopied (sourceClient targetClient : Nat) (conf : Configuration) :
    Path → List FileStatus → Storage → Storage → Prop
  | nil {target : Path} {storage : Storage} : EntriesCopied sourceClient targetClient conf target [] storage storage
  | named {target : Path} {before middle after : Storage} {entry : FileStatus} {rest : List FileStatus} {name : Name}
      (isName : entry.path.fileName? = some name)
      (copied : TreeCopied sourceClient targetClient conf entry.path (target.join ⟨name⟩) before middle)
      (others : EntriesCopied sourceClient targetClient conf target rest middle after) :
      EntriesCopied sourceClient targetClient conf target (entry :: rest) before after
  /-- Only the root has no name, and it is in no directory. -/
  | nameless {target : Path} {before after : Storage} {entry : FileStatus} {rest : List FileStatus}
      (noName : entry.path.fileName? = none)
      (others : EntriesCopied sourceClient targetClient conf target rest before after) :
      EntriesCopied sourceClient targetClient conf target (entry :: rest) before after

end

section Outcomes

variable (sound : storage.Sound) (sourceClient : Nat) (source : Path) (targetClient : Nat) (target : Path)
  (conf : Configuration)
include sound

end Outcomes

end FileGateway.Storage
