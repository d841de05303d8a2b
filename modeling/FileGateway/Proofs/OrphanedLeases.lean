import FileGateway.Proofs.Cluster.Completion
import FileGateway.Proofs.Storage.Run

/-! # Files that stay under construction

Once all its writers are closed, a file should be complete, so that it can be overwritten. But a close
looks for its file where that was created. If the file was renamed before, the close completes nothing,
and the file stays under construction until some other stream is closed that was created where the file
then is. So a file is under construction exactly until some close finds it, and one whose own stream is
closed is under construction still only if it was away at that moment.
-/

namespace FileGateway.Storage

variable {storage : Storage} {number : Nat} {place : Location}

/-- A file can be overwritten exactly if it is not under construction. -/
private theorem overwrite_run (sound : storage.Sound) {client : Nat} {path : Path} {options : CreateOptions}
    {view : FileView} (atPlace : storage.placeOn? number client path = some place)
    (found : (storage.scene number).files place = some view) (overwrite : options.overwrite = true) :
    (view.leased = true →
      createWriter client path options storage = .error (.raised (.beingCreated place.toPath)) storage) ∧
    (view.leased = false → ∃ stream after, createWriter client path options storage = .ok stream after) := by
  obtain ⟨directory, known, rfl⟩ := sound.client_of_place atPlace
  obtain ⟨cluster, present, inTree⟩ := Option.bind_eq_some_iff.mp found
  have isTree := sound.trees cluster (List.mem_of_getElem? present)
  constructor
  · intro leased
    rw [createWriter_of_cluster known present, ClusterWriter.create,
      Cluster.startFile_of_leased ⟨view.bytes, leased ▸ inTree⟩]
    simp only [withCluster_self present]
  · intro complete
    obtain ⟨node, inPlace, rfl⟩ := Namespace.view_eq_some_iff.mp inTree
    obtain ⟨after, started⟩ := Cluster.startFile_of_complete isTree inPlace complete overwrite storage.seconds
    rw [createWriter_of_cluster known present, ClusterWriter.create, started]
    exact ⟨_, _, rfl⟩

/-- In every run a file is under construction until a close completes it, and overwriting it is refused
as long. If its own stream is closed and it is under construction still, that close came while the file
had strayed from where it was created. -/
theorem leased_iff_not_completed (now : Int) (disk : Disk) (requests : List Request) (number : Nat) :
    let storage := (new now disk).run requests
    let log := Storage.log number (new now disk) requests
    (∀ place view, (storage.scene number).files place = some view → ∃ stream, log.home stream = some place) ∧
    (∀ stream place view, log.home stream = some place → (storage.scene number).files place = some view →
      (view.leased = true ↔ ¬log.Completed stream) ∧
      ∀ writer, storage.writers number stream = some writer → writer.closed = true → view.leased = true →
        log.Strayed stream) ∧
    (∀ client path options place view, storage.placeOn? number client path = some place →
      (storage.scene number).files place = some view → options.overwrite = true →
        (view.leased = true →
          createWriter client path options storage = .error (.raised (.beingCreated place.toPath)) storage) ∧
        (view.leased = false →
          ∃ stream after, createWriter client path options storage = .ok stream after)) := by
  intro storage log
  have sound : storage.Sound := (sound_new now disk).run requests
  have constructed : Scene.Constructed log (storage.scene number) :=
    Scene.Constructed.initial.steps ((sound_new now disk).steps requests number)
  refine ⟨fun place view found => constructed.housed.owned found, ?_, ?_⟩
  · intro stream place view atHome found
    have leased := constructed.leased atHome found
    refine ⟨leased, fun writer known isClosed isLeased => ?_⟩
    exact (constructed.strayed known isClosed atHome).resolve_left (leased.mp isLeased)
  · intro client path options place view atPlace found overwrite
    exact overwrite_run sound atPlace found overwrite

/-- A file is created, renamed while its stream is open, and the stream is closed. -/
def relocation : List Request :=
  [.startCluster "nn:1" .default ["dn"] 1, .joinCluster 0, .createFile 0 ⟨[47, 102]⟩ .overwriting,
    .rename 0 ⟨[47, 102]⟩ ⟨[47, 103]⟩, .call 0 .close]

/-- All streams are closed, the file is under construction, and no client can overwrite it. -/
theorem closed_stream_leaves_lease :
    let storage := (new 0 (.new 0 .root 0 0)).run relocation
    (∀ stream writer, storage.writers 0 stream = some writer → writer.closed = true) ∧
      (storage.scene 0).files [[103]] = some ⟨[], true⟩ ∧
      CreateOptions.overwriting.overwrite = true ∧
      ∃ after, createWriter 0 ⟨[47, 103]⟩ .overwriting storage =
        .error (.raised (.beingCreated (Location.toPath [[103]]))) after := by
  intro storage
  refine ⟨fun stream writer found => ?_, by decide, rfl, _, rfl⟩
  cases stream with
  | zero =>
    obtain rfl := Option.some.inj found
    rfl
  | succ stream => contradiction

/-- Its stream was closed while it had strayed, and nothing completed it. -/
theorem closed_stream_strayed :
    let log := Storage.log 0 (new 0 (.new 0 .root 0 0)) relocation
    log.home 0 = some [[103]] ∧ ¬log.Completed 0 ∧ log.Strayed 0 := by
  intro log
  have atHome : log.home 0 = some [[103]] := by decide
  obtain ⟨leased, strayed⟩ := (leased_iff_not_completed 0 (.new 0 .root 0 0) relocation 0).2.1
    0 [[103]] ⟨[], true⟩ atHome (by decide)
  exact ⟨atHome, leased.mp rfl, strayed _ rfl rfl rfl⟩

end FileGateway.Storage
