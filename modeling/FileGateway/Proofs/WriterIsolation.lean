import FileGateway.Proofs.Storage.Run

/-! # Whose file a writer writes

A writer is meant to work on the file that its own create installed and on no other: once that file is
deleted or renamed away, the writer should find nothing to write to. But a writer knows its file by
place alone. If another create has put a new file there that is still under construction, the writer
goes on in that file. This, here called trespassing, is the only way in which one writer reaches the
file of another.
-/

namespace FileGateway.Storage

variable {storage : Storage} {log : Log} {number stream : Nat} {writer : ClusterWriter}

/-- The file at the place of a writer is another's, under construction, and the call does something
to it. -/
def Trespasses (storage : Storage) (log : Log) (number stream : Nat) (writer : ClusterWriter)
    (asked : WriterCall) : Prop :=
  log.home stream ≠ some writer.location ∧
    (∃ bytes, (storage.scene number).files writer.location = some ⟨bytes, true⟩) ∧
    (writer.handed asked ≠ [] ∨ asked.isClose = true)

/-- A call works on the file that the writer's own create installed, and on no other. -/
structure Isolated (storage : Storage) (log : Log) (number stream : Nat) (writer : ClusterWriter)
    (asked : WriterCall) : Prop where
  /-- Its own file under construction is extended by what is handed over, and completed by a close. -/
  own : log.home stream = some writer.location →
    ((storage.after (.call stream asked)).scene number).files writer.location =
      ((storage.scene number).files writer.location).map fun view =>
        if view.leased then ⟨view.bytes ++ writer.handed asked, !asked.isClose⟩ else view
  others : ∀ other place, other ≠ stream → log.home other = some place →
    ((storage.after (.call stream asked)).scene number).files place = (storage.scene number).files place
  /-- Once its file is gone no file changes, and handing bytes over fails. -/
  gone : log.home stream ≠ some writer.location →
    ((storage.after (.call stream asked)).scene number).files = (storage.scene number).files ∧
    (writer.handed asked ≠ [] → ∃ exception, exception.kind = .fileNotFound ∧
      call stream asked storage = .error (.raised exception) (storage.after (.call stream asked)))

private theorem isolated_of_not_leased (sound : storage.Sound)
    (found : storage.writers number stream = some writer) (isOpen : writer.closed = false)
    (notLeased : ∀ bytes, (storage.scene number).files writer.location ≠ some ⟨bytes, true⟩)
    (asked : WriterCall) : Isolated storage log number stream writer asked := by
  obtain ⟨cluster, present, ran, files⟩ := sound.call_run found asked
  have free : ¬cluster.Leased writer.location := by
    rintro ⟨bytes, leased⟩
    exact notLeased bytes (by rw [scene_of_some present]; exact leased)
  have answer := ClusterWriter.answer_of_not_leased isOpen free storage.seconds asked
  have same : ((storage.after (.call stream asked)).scene number).files =
      (storage.scene number).files := by
    rw [files, answer, scene_of_some present]
    split <;> rfl
  refine ⟨fun _ => ?_, fun _ _ _ _ => by rw [same], fun _ => ⟨same, fun nonempty => ?_⟩⟩
  · rw [same]
    generalize (storage.scene number).files writer.location = view at notLeased ⊢
    rcases view with _ | ⟨bytes, _ | _⟩
    · rfl
    · rfl
    · exact absurd rfl (notLeased bytes)
  · rw [ran, answer, if_neg nonempty]
    exact ⟨.leaseLost writer.location.toPath, rfl, rfl⟩

private theorem isolated_iff_of_leased (sound : storage.Sound) (housed : Scene.Housed log (storage.scene number))
    (found : storage.writers number stream = some writer) (isOpen : writer.closed = false) {bytes : Bytes}
    (leased : (storage.scene number).files writer.location = some ⟨bytes, true⟩) (asked : WriterCall) :
    Isolated storage log number stream writer asked ↔
      ¬Trespasses storage log number stream writer asked := by
  obtain ⟨cluster, present, ran, files⟩ := sound.call_run found asked
  have inCluster : cluster.tree.view writer.location = some ⟨bytes, true⟩ := by
    rwa [scene_of_some present] at leased
  obtain ⟨node, changed, cursor, -, answer, view, -⟩ :=
    ClusterWriter.answer_of_leased isOpen inCluster storage.seconds asked
  have later (place : Location) : ((storage.after (.call stream asked)).scene number).files place =
      if place = writer.location then some ⟨bytes ++ writer.handed asked, !asked.isClose⟩
      else (storage.scene number).files place := by
    rw [files, answer, Cluster.withFile_view, view, scene_of_some present]
  constructor
  · rintro isolated ⟨notHome, -, acts⟩
    have kept := congrFun (isolated.gone notHome).1 writer.location
    rw [later, if_pos rfl, leased] at kept
    obtain ⟨nothing, notClose⟩ : writer.handed asked = [] ∧ asked.isClose = false := by simpa using kept
    rcases acts with nonempty | isClose
    · exact nonempty nothing
    · simp [notClose] at isClose
  · intro harmless
    by_cases home : log.home stream = some writer.location
    · refine ⟨fun _ => ?_, fun other place different atPlace => ?_, fun notHome => absurd home notHome⟩
      · rw [later, if_pos rfl, leased]
        rfl
      · rw [later, if_neg]
        rintro rfl
        exact different (housed.alone atPlace home)
    · have idle : writer.handed asked = [] ∧ asked.isClose = false := by
        by_contra acts
        refine harmless ⟨home, ⟨bytes, leased⟩, ?_⟩
        by_contra neither
        simp only [not_or, not_not, Bool.not_eq_true] at neither
        exact acts neither
      have same : ((storage.after (.call stream asked)).scene number).files =
          (storage.scene number).files := by
        funext place
        rw [later, idle.1, idle.2, List.append_nil, Bool.not_false]
        split
        · next atFile => rw [atFile, leased]
        · rfl
      exact ⟨fun atHome => absurd atHome home, fun _ _ _ _ => by rw [same],
        fun _ => ⟨same, fun nonempty => absurd idle.1 nonempty⟩⟩

private theorem events_uncalled {request : Request}
    (uncalled : ∀ caller asked, request = .call caller asked → storage.writers number caller = none)
    (caller : Nat) (asked : WriterCall) (succeeded : Bool) :
    storage.events number request ≠ [.called caller asked succeeded] := by
  cases request with
  | call stream call => simp [events, uncalled stream call rfl]
  | createFile | delete =>
    simp only [events]
    split
    · rcases placeOn? _ _ _ _ with _ | _ <;> simp
    · simp
  | rename =>
    simp only [events]
    split
    · split <;> simp
    · simp
  | _ => simp [events]

/-- In every run every file is the one that some create installed, only calls on writers change files
that stay in the namespace, and a call on an open writer keeps to the file of the writer's own create
exactly if it does not trespass. -/
theorem isolated_iff_not_trespassing (now : Int) (disk : Disk) (requests : List Request) (number : Nat) :
    let storage := (new now disk).run requests
    let log := Storage.log number (new now disk) requests
    (∀ place view, (storage.scene number).files place = some view →
      ∃ stream, log.home stream = some place ∧ ∀ other, log.home other = some place → other = stream) ∧
    (∀ request stream place moved,
      (∀ caller asked, request = .call caller asked → storage.writers number caller = none) →
      log.home stream = some place →
      Log.home (log ++ storage.events number request) stream = some moved →
      ((storage.after request).scene number).files moved = (storage.scene number).files place) ∧
    (∀ stream writer asked, storage.writers number stream = some writer → writer.closed = true →
      ((storage.after (.call stream asked)).scene number).files = (storage.scene number).files) ∧
    (∀ stream writer asked, storage.writers number stream = some writer → writer.closed = false →
      (Isolated storage log number stream writer asked ↔
        ¬Trespasses storage log number stream writer asked)) := by
  intro storage log
  have sound : storage.Sound := (sound_new now disk).run requests
  have housed : Scene.Housed log (storage.scene number) :=
    Scene.Housed.initial.steps ((sound_new now disk).steps requests number)
  refine ⟨?_, ?_, ?_, ?_⟩
  · intro place view found
    obtain ⟨stream, home⟩ := housed.owned found
    exact ⟨stream, home, fun other atPlace => housed.alone atPlace home⟩
  · intro request stream place moved uncalled before later
    exact housed.kept (sound.step request number) (events_uncalled uncalled) before later
  · intro stream writer asked found isClosed
    obtain ⟨cluster, present, -, files⟩ := sound.call_run found asked
    rw [files, ClusterWriter.answer_of_closed isClosed, scene_of_some present]
  · intro stream writer asked found isOpen
    by_cases leased : ∃ bytes, (storage.scene number).files writer.location = some ⟨bytes, true⟩
    · obtain ⟨bytes, leased⟩ := leased
      exact isolated_iff_of_leased sound housed found isOpen leased asked
    · simp only [not_exists] at leased
      exact ⟨fun _ ⟨_, ⟨bytes, same⟩, _⟩ => leased bytes same,
        fun _ => isolated_of_not_leased sound found isOpen leased asked⟩

/-- A file is created, removed while its writer is open, and created again. -/
def recreation : List Request :=
  [.startCluster "nn:1" .default ["dn"] 1, .joinCluster 0, .createFile 0 ⟨[47, 102]⟩ ⟨false, 1, 0, 0⟩,
    .delete 0 ⟨[47, 102]⟩, .createFile 0 ⟨[47, 102]⟩ ⟨false, 1, 0, 0⟩]

/-- The writer of the removed file extends the new one, and its close completes it. -/
theorem stale_writer_extends_new_file :
    let storage := (new 0 (.new 0 .root 0 0)).run recreation
    let log := Storage.log 0 (new 0 (.new 0 .root 0 0)) recreation
    let written := storage.after (.call 0 (.write [120]))
    log.home 0 = none ∧ log.home 1 = some [[102]] ∧ log.latest [[102]] = some 1 ∧
      (storage.scene 0).files [[102]] = some ⟨[], true⟩ ∧
      succeeded (call 0 (.write [120]) storage) = true ∧
      (written.scene 0).files [[102]] = some ⟨[120], true⟩ ∧
      ((written.after (.call 0 .close)).scene 0).files [[102]] = some ⟨[120], false⟩ := by
  decide

/-- So its write is not isolated, since it trespasses. -/
theorem stale_writer_not_isolated :
    let storage := (new 0 (.new 0 .root 0 0)).run recreation
    let log := Storage.log 0 (new 0 (.new 0 .root 0 0)) recreation
    ∃ writer, storage.writers 0 0 = some writer ∧ writer.closed = false ∧
      Trespasses storage log 0 0 writer (.write [120]) ∧
      ¬Isolated storage log 0 0 writer (.write [120]) := by
  intro storage log
  have trespasses : Trespasses storage log 0 0 ⟨[[102]], [], 1, 0, false⟩ (.write [120]) :=
    ⟨by decide, ⟨[], by decide⟩, .inl (by decide)⟩
  refine ⟨_, rfl, rfl, trespasses, fun isolated => ?_⟩
  exact ((isolated_iff_not_trespassing 0 (.new 0 .root 0 0) recreation 0).2.2.2 0 _ (.write [120]) rfl
    rfl).mp isolated trespasses

end FileGateway.Storage
