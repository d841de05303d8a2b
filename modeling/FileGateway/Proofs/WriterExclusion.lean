import FileGateway.Proofs.Storage.Run

/-! # What an undisturbed writer can rely on

In runs that never delete or rename a place, or a directory above it, while a stream created there is
open, the writer that created a file last has it to itself until it closes it, whatever all clients
do, and what it accepted is what the file holds in the end.
-/

namespace FileGateway.Storage

variable {storage : Storage} {number stream : Nat} {location : Location} {writer : ClusterWriter}

/-- What holds of the writer that a file was created by, as long as it is open. -/
structure Secured (storage : Storage) (number stream : Nat) (location : Location) (accepted : Bytes) :
    Prop where
  /-- The file is under construction, and its bytes and the pending ones are all that was accepted. -/
  content : ∃ writer bytes, storage.writers number stream = some writer ∧
    (storage.scene number).files location = some ⟨bytes, true⟩ ∧ bytes ++ writer.pending = accepted
  position : position stream storage = .ok accepted.length storage
  /-- No client of the cluster can create a file there. -/
  excludes : ∀ client path options, storage.placeOn? number client path = some location →
    ∃ exception, exception.kind = .fileAlreadyExists ∧
      createWriter client path options storage = .error (.raised exception) storage
  writes : ∀ data, ∃ after, write stream data storage = .ok data.length after
  flushes : ∃ after, flush stream storage = .ok () after
  /-- Closing completes the file with all that was accepted. -/
  closes : ∃ after, closeStream stream storage = .ok () after ∧
    (after.scene number).files location = some ⟨accepted, false⟩

private theorem secured_of_intact {log : Log} (sound : storage.Sound)
    (intact : Scene.Intact log (storage.scene number))
    (created : .created location stream ∈ log) (isOpen : ¬log.Closed stream) :
    Secured storage number stream location (log.accepted stream) := by
  obtain ⟨writer, (found : storage.writers number stream = some writer), rfl⟩ :=
    intact.registered.entered created
  rw [← intact.registered.closed found, Bool.not_eq_true] at isOpen
  obtain ⟨bytes, file, content⟩ := intact.leased found isOpen
  have inStreams := sound.stream_of_writer found
  obtain ⟨cluster, present⟩ := sound.founded number stream (by simp [found])
  have leased : cluster.tree.view writer.location = some ⟨bytes, true⟩ := by
    rwa [scene_of_some present] at file
  have succeeds (asked : WriterCall) :
      (writer.answer cluster storage.seconds asked).1 = .ok () ∧
        (writer.answer cluster storage.seconds asked).2.2.tree.view writer.location =
          some ⟨bytes ++ writer.handed asked, !asked.isClose⟩ := by
    obtain ⟨node, changed, cursor, -, ran, view, -⟩ :=
      ClusterWriter.answer_of_leased isOpen leased storage.seconds asked
    rw [ran]
    exact ⟨rfl, by rw [Cluster.withFile_view, if_pos rfl, view]⟩
  refine ⟨⟨writer, bytes, found, file, content⟩, ?_, ?_, ?_, ?_, ?_⟩
  · rw [position_of_clusterWriter inStreams, intact.counted found]
  · intro client path options atPlace
    obtain ⟨directory, known, same⟩ := sound.client_of_place atPlace
    refine ⟨.beingCreated writer.location.toPath, rfl, ?_⟩
    rw [createWriter_of_cluster known present, same, ClusterWriter.create,
      Cluster.startFile_of_leased ⟨bytes, leased⟩]
    simp only [withCluster_self present]
  · intro data
    rw [write_of_clusterWriter inStreams present, ClusterWriter.write_outcome, (succeeds (.write data)).1]
    exact ⟨_, rfl⟩
  · have ran := call_of_clusterWriter inStreams present .flush
    rw [(succeeds .flush).1] at ran
    exact ⟨_, ran⟩
  · obtain ⟨other, atOther, ran, files⟩ := sound.call_run found .close
    obtain rfl : cluster = other := Option.some.inj (present.symm.trans atOther)
    rw [(succeeds .close).1] at ran
    refine ⟨_, ran, ?_⟩
    rw [files, (succeeds .close).2, ← content]
    rfl

/-- While nothing is taken away from open writers, the writer that created a file last is secured
until it is closed. Its close succeeds, and the file keeps what the writer accepted until a create, a
delete or a rename touches its place. -/
theorem undisturbed_writers (now : Int) (disk : Disk) (requests : List Request) (number : Nat)
    (undisturbed : Log.Undisturbed (log number (new now disk) requests)) :
    let storage := (new now disk).run requests
    let log := Storage.log number (new now disk) requests
    (∀ location stream, log.latest location = some stream → ¬log.Closed stream →
      Secured storage number stream location (log.accepted stream)) ∧
    (∀ before after location stream succeeded,
      log = before ++ .called stream .close succeeded :: after →
      Log.latest before location = some stream → ¬Log.Closed before stream →
        succeeded = true ∧
        ((∀ event ∈ after, ¬event.Touches location) →
          (storage.scene number).files location = some ⟨log.accepted stream, false⟩)) := by
  intro storage log
  have sound : storage.Sound := (sound_new now disk).run requests
  have intact : Scene.Intact log (storage.scene number) :=
    Scene.Intact.initial.steps ((sound_new now disk).steps requests number) undisturbed
  constructor
  · intro location stream latest isOpen
    exact secured_of_intact sound intact (Log.created_of_latest latest) isOpen
  · intro before after location stream succeeded same latest isOpen
    have created := Log.created_of_latest latest
    have closing : .called stream .close succeeded ∈ log := by simp [same]
    refine ⟨intact.answered closing, fun untouched => ?_⟩
    obtain ⟨writer, found, -⟩ := intact.registered.entered (same ▸ List.mem_append_left _ created)
    have isClosed := (intact.registered.closed found).mpr ⟨succeeded, closing⟩
    obtain ⟨bytes, file, content, drained⟩ :=
      intact.held found (intact.finished same created isOpen untouched)
    rw [drained isClosed, List.append_nil] at content
    rw [file, content, isClosed, Bool.not_true]

/-- A client writes two bytes into a new file, and while it does another client is at work beside it. -/
theorem undisturbed_writers_beside_another :
    let requests : List Request :=
      [.startCluster "nn:1" .default ["dn"] 1, .joinCluster 0, .joinCluster 0,
        .createFile 0 ⟨[47, 102]⟩ .none, .createDirectories 1 ⟨[47, 100]⟩, .call 0 (.write [97, 98]),
        .createFile 1 ⟨[47, 102]⟩ .overwriting]
    Secured ((new 0 (.new 0 .root 0 0)).run requests) 0 0 [[102]] [97, 98] := by
  intro requests
  have undisturbed : Log.Undisturbed (log 0 (new 0 (.new 0 .root 0 0)) requests) := by
    intro before event after same above vacated
    have none : ∀ event ∈ log 0 (new 0 (.new 0 .root 0 0)) requests, event.vacated? = none := by decide
    rw [none event (by simp [same])] at vacated
    contradiction
  have isOpen : ¬Log.Closed (log 0 (new 0 (.new 0 .root 0 0)) requests) 0 := by
    rintro ⟨succeeded, member⟩
    revert member
    cases succeeded <;> decide
  exact (undisturbed_writers 0 (.new 0 .root 0 0) requests 0 undisturbed).1 [[102]] 0 (by decide) isOpen

end FileGateway.Storage
