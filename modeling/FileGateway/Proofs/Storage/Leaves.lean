import FileGateway.Proofs.Storage.Actions
import FileGateway.Proofs.Within

/-! # What actions leave alone

An action leaves a part of storage alone if the part is the same after it, whether it answers or fails. What only
asks leaves everything alone; what goes through streams leaves alone what takes no notice of streams and the disk;
and no stream, and nothing that is made, changes a client.
-/

namespace FileGateway.Storage

variable {α γ : Type} {part : Storage → γ} {script : Script}

/-- An action leaves a part of storage as it is. -/
abbrev Leaves (part : Storage → γ) (action : Action α) : Prop :=
  Within (fun _ (before after : Storage) => part after = part before) 0 action

instance (part : Storage → γ) : Metered (fun _ (before after : Storage) => part after = part before) where
  refl _ := rfl
  trans one two := two.trans one
  weaken same _ := same

theorem final_eq_ended (result : EStateM.Result Failure Storage α) : final result = ended result := by
  cases result <;> rfl

/-- What answers did so with the storage that it left. -/
theorem ok_of_answer {result : EStateM.Result Failure Storage α} {value : α} (answered : answer? result = some value) :
    result = .ok value (final result) := by
  cases result with
  | ok answer after => rw [Option.some.inj answered, final]
  | error failure after => contradiction

/-- What leaves everything alone answers from the storage that it was asked of. -/
theorem Leaves.eq_of_ok {action : Action α} {storage after : Storage} {value : α} (leaves : Leaves id action)
    (ran : action storage = .ok value after) : storage = after := by
  have same : ended (action storage) = storage := leaves storage
  rw [ran] at same
  exact same.symm

theorem Leaves.ok_of_answer {action : Action α} {storage : Storage} {value : α} (leaves : Leaves id action)
    (answered : answer? (action storage) = some value) : action storage = .ok value storage := by
  rcases ran : action storage with ⟨answer, after⟩ | ⟨failure, after⟩ <;> rw [ran] at answered
  · obtain rfl := leaves.eq_of_ok ran
    rw [Option.some.inj answered]
  · contradiction

theorem Leaves.cases {action : Action α} (leaves : Leaves id action) (storage : Storage) :
    (∃ value, action storage = .ok value storage) ∨ ∃ failure, action storage = .error failure storage := by
  have same : ended (action storage) = storage := leaves storage
  rcases ran : action storage with ⟨value, after⟩ | ⟨failure, after⟩ <;> rw [ran] at same <;> obtain rfl := same
  · exact .inl ⟨value, rfl⟩
  · exact .inr ⟨failure, rfl⟩

/-! ## Asking -/

theorem answerOf_leaves (outcome : Except Exception α) : Leaves part (answerOf outcome) :=
  .of_same fun _ => by cases outcome <;> rfl

private theorem orUnknown_leaves (value : Option α) : Leaves part (orUnknown value) :=
  .of_same fun _ => by cases value <;> rfl

theorem clusterAt_leaves (number : Nat) : Leaves part (clusterAt number) := .after .get fun _ => orUnknown_leaves _

theorem clientAt_leaves (client : Nat) : Leaves part (clientAt client) := .after .get fun _ => orUnknown_leaves _

theorem streamAt_leaves (stream : Nat) : Leaves part (streamAt stream) := .after .get fun _ => orUnknown_leaves _

theorem scripted_leaves {asked : Call} {read : Answer → Option α} {act : Action α} (acts : Leaves part act) :
    Leaves part (scripted script asked read act) := by
  unfold scripted
  split
  · exact acts
  · exact .throw _
  · exact .throw _
  · split
    · exact .pure _
    · exact acts

theorem checkBuffer_leaves (bytes : Nat) : Leaves part (checkBuffer bytes) :=
  .of_same fun _ => by unfold checkBuffer; split <;> rfl

private theorem askCluster_leaves (number : Nat) (question : Cluster → Except Exception α) :
    Leaves part (askCluster number question) := .after (clusterAt_leaves number) fun _ => answerOf_leaves _

private theorem askDisk_leaves (question : Disk → Except Exception α) : Leaves part (askDisk question) :=
  .after .get fun _ => answerOf_leaves _

private theorem nextTransfers_leaves : Leaves part nextTransfers := .after .get fun _ => .pure _

theorem status_leaves (client : Nat) (path : Path) : Leaves part (status client path) := by
  refine .after (clientAt_leaves client) fun found => scripted_leaves ?_
  split
  · exact askCluster_leaves _ _
  · exact askDisk_leaves _

theorem isPresent_leaves (client : Nat) (path : Path) : Leaves part (isPresent client path) := by
  intro storage
  have asked : Leaves part (status client path) := status_leaves client path
  have asked := asked storage
  unfold isPresent
  simp only [bind, EStateM.bind, tryCatch, tryCatchThe, MonadExceptOf.tryCatch, EStateM.tryCatch]
  rcases ran : status client path storage with ⟨value, after⟩ | ⟨exception | _ | _ | _, after⟩ <;> rw [ran] at asked
  case error.raised =>
    simp only [throw, throwThe, MonadExceptOf.throw]
    split_ifs <;> exact asked
  all_goals exact asked

theorem list_leaves (client : Nat) (path : Path) : Leaves part (list client path) := by
  refine .after (clientAt_leaves client) fun found => scripted_leaves ?_
  split
  · exact askCluster_leaves _ _
  · exact askDisk_leaves _

theorem defaultReplication_leaves (client : Nat) : Leaves part (defaultReplication client) := by
  refine .after (clientAt_leaves client) fun found => ?_
  split
  · exact .after (clusterAt_leaves _) fun _ => .pure _
  · exact .pure _

theorem defaultBlockSize_leaves (client : Nat) : Leaves part (defaultBlockSize client) := by
  refine .after (clientAt_leaves client) fun found => scripted_leaves ?_
  split
  · exact .after (clusterAt_leaves _) fun _ => .pure _
  · exact .pure _

/-- A part of storage that takes no notice of streams. -/
def BlindToStreams (part : Storage → γ) : Prop :=
  ∀ (storage : Storage) streams, part { storage with streams } = part storage

/-- A part of storage that takes no notice of streams and the disk. -/
def Blind (part : Storage → γ) : Prop :=
  ∀ (storage : Storage) disk streams, part { storage with disk, streams } = part storage

theorem Blind.toStreams (blind : Blind part) : BlindToStreams part :=
  fun storage streams => blind storage storage.disk streams

section BlindToStreams

variable (blind : BlindToStreams part)
include blind

private theorem setChannel_leaves (stream : Nat) (channel : Channel) : Leaves part (setChannel stream channel) :=
  .modify fun storage => blind storage _

private theorem addStream_leaves (stream : Stream) : Leaves part (addStream stream) :=
  fun storage => blind storage _

theorem read_leaves (stream count : Nat) : Leaves part (read stream count) := by
  refine .after (streamAt_leaves stream) fun found => scripted_leaves ?_
  split
  · exact .after (clusterAt_leaves _) fun cluster => .after (setChannel_leaves blind _ _) fun _ =>
      .after (answerOf_leaves _) fun _ => .pure _
  · exact .after .get fun seen => .after (setChannel_leaves blind _ _) fun _ =>
      .after (answerOf_leaves _) fun _ => .pure _
  · exact .throw _

theorem readAt_leaves (stream position count : Nat) : Leaves part (readAt stream position count) := by
  refine .after (streamAt_leaves stream) fun found => scripted_leaves ?_
  split
  · exact .after (askCluster_leaves _ _) fun _ => .pure _
  · exact .after .get fun seen => .after (setChannel_leaves blind _ _) fun _ =>
      .after (answerOf_leaves _) fun _ => .pure _
  · exact .throw _

theorem seek_leaves (stream position : Nat) : Leaves part (seek stream position) := by
  refine .after (streamAt_leaves stream) fun found => scripted_leaves ?_
  split
  · exact .after (clusterAt_leaves _) fun cluster => .after (setChannel_leaves blind _ _) fun _ => answerOf_leaves _
  · exact .after .get fun seen => .after (setChannel_leaves blind _ _) fun _ => answerOf_leaves _
  · exact .throw _

theorem openReader_leaves (client : Nat) (path : Path) (bufferSize : UInt64) :
    Leaves part (openReader client path bufferSize) := by
  refine .after (clientAt_leaves client) fun found => scripted_leaves ?_
  split
  · exact .after (askCluster_leaves _ _) fun _ => addStream_leaves blind _
  · exact .after (askDisk_leaves _) fun reader => .after (checkBuffer_leaves _) fun _ =>
      .after nextTransfers_leaves fun _ => addStream_leaves blind _

end BlindToStreams

section Blind

variable (blind : Blind part)
include blind

private theorem setDisk_leaves (disk : Disk) : Leaves part (setDisk disk) :=
  .modify fun storage => blind storage disk storage.streams

theorem dropStream_leaves (stream : Nat) : Leaves part (dropStream stream) := by
  refine .after (streamAt_leaves stream) fun found => ?_
  split
  · exact .after .get fun seen => .after (setDisk_leaves blind _) fun _ => setChannel_leaves blind.toStreams _ _
  · exact .pure _

end Blind

/-! ## Clients -/

end FileGateway.Storage
