import FileGateway.Proofs.Cluster.Exclusion
import FileGateway.Proofs.Storage.Requests

/-! # Runs

A run is any sequence of requests. Every request is a step of the scene of every cluster, so a run is
a sequence of steps, and the log that it leaves of a cluster tells them. Whatever is asked, storage
stays sound: its clusters hold trees, and its clients and streams are what they were made to be.
-/

namespace FileGateway.Storage

open Function (update)

variable {storage after : Storage} {number : Nat} {events : Nat → List Event}

def run (storage : Storage) (requests : List Request) : Storage := requests.foldl Storage.after storage

/-- The log that a run leaves of a cluster. -/
def log (number : Nat) : Storage → List Request → Log
  | _, [] => []
  | storage, request :: rest => storage.events number request ++ log number (storage.after request) rest

structure Sound (storage : Storage) : Prop where
  plain : storage.Plain
  founded : storage.Founded
  trees : ∀ cluster ∈ storage.clusters, cluster.tree.IsTree

theorem sound_new (now : Int) (disk : Disk) : Sound (new now disk) where
  plain := ⟨by simp [new], by simp [new]⟩
  founded := by simp [Founded, writers, new]
  trees := by simp [new]

/-! ## Deeds keep storage sound -/

private theorem answer_isTree {writer : ClusterWriter} {cluster : Cluster} (isTree : cluster.tree.IsTree)
    (now : Int) (asked : WriterCall) : (writer.answer cluster now asked).2.2.tree.IsTree := by
  by_cases isClosed : writer.closed = true
  · rwa [ClusterWriter.answer_of_closed isClosed]
  · rw [Bool.not_eq_true] at isClosed
    by_cases leased : cluster.Leased writer.location
    · obtain ⟨bytes, leased⟩ := leased
      obtain ⟨node, changed, cursor, found, ran, -⟩ :=
        ClusterWriter.answer_of_leased isClosed leased now asked
      rw [ran]
      exact Cluster.withFile_isTree isTree found changed cursor
    · rw [ClusterWriter.answer_of_not_leased isClosed leased]
      split <;> exact isTree

theorem Deed.trees (deed : Deed storage events after)
    (trees : ∀ cluster ∈ storage.clusters, cluster.tree.IsTree) :
    ∀ cluster ∈ after.clusters, cluster.tree.IsTree := by
  intro other member
  cases deed with
  | aside clusters => exact trees other (clusters ▸ member)
  | started now authority conf datanodes capacityEach clusters =>
    rw [clusters, List.mem_append, List.mem_singleton] at member
    rcases member with member | rfl
    · exact trees other member
    · exact Namespace.initial_isTree now
  | changed present change clusters =>
    rw [clusters] at member
    rcases List.mem_or_eq_of_mem_set member with member | rfl
    · exact trees other member
    · exact change.isTree (trees _ (List.mem_of_getElem? present))
  | @created _ _ cluster _ now location options _ present proper done _ _ clusters =>
    rw [clusters] at member
    rcases List.mem_or_eq_of_mem_set member with member | rfl
    · exact trees other member
    · have isTree := Cluster.startFile_isTree (trees _ (List.mem_of_getElem? present)) proper now options
      rwa [done] at isTree
  | called present _ now asked clusters =>
    rw [clusters] at member
    rcases List.mem_or_eq_of_mem_set member with member | rfl
    · exact trees other member
    · exact answer_isTree (trees _ (List.mem_of_getElem? present)) now asked

theorem Deed.founded (deed : Deed storage events after) (founded : storage.Founded) :
    after.Founded := by
  have set {own : Nat} {changed : Cluster} (clusters : after.clusters = storage.clusters.set own changed)
      {number : Nat} (known : ∃ cluster, storage.clusters[number]? = some cluster) :
      ∃ cluster, after.clusters[number]? = some cluster := by
    obtain ⟨cluster, present⟩ := known
    rw [clusters, List.getElem?_set]
    have bound := (List.getElem?_eq_some_iff.mp present).1
    split
    · exact ⟨changed, by simp_all⟩
    · exact ⟨cluster, present⟩
  intro other stream known
  cases deed with
  | aside clusters writers =>
    rw [clusters]
    exact founded other stream (writers ▸ known)
  | started now authority conf datanodes capacityEach clusters writers =>
    obtain ⟨cluster, present⟩ := founded other stream (writers ▸ known)
    exact ⟨cluster, by rw [clusters, List.getElem?_append_left (List.getElem?_eq_some_iff.mp present).1, present]⟩
  | changed present change clusters writers => exact set clusters (founded other stream (writers ▸ known))
  | @created own _ cluster _ _ _ _ _ present _ _ _ _ clusters writers =>
    by_cases same : other = own
    · exact set clusters ⟨cluster, same ▸ present⟩
    · rw [writers, Function.update_of_ne same] at known
      exact set clusters (founded other stream known)
  | @called own _ cluster _ _ present _ _ _ clusters writers =>
    by_cases same : other = own
    · exact set clusters ⟨cluster, same ▸ present⟩
    · rw [writers, Function.update_of_ne same] at known
      exact set clusters (founded other stream known)

theorem Sound.serve (sound : storage.Sound) (request : Request) : (storage.after request).Sound := by
  obtain ⟨deed, plain⟩ := deed_of_request sound.plain sound.founded request
  exact ⟨plain, deed.founded sound.founded, deed.trees sound.trees⟩

theorem Sound.run (sound : storage.Sound) (requests : List Request) : (storage.run requests).Sound := by
  induction requests generalizing storage with
  | nil => exact sound
  | cons request rest ih => exact ih (sound.serve request)

/-! ## Deeds are steps of scenes -/

theorem scene_of_some {cluster : Cluster} (present : storage.clusters[number]? = some cluster) :
    storage.scene number = ⟨cluster.tree.view, storage.writers number⟩ := by
  rw [scene, present]
  rfl

/-- A call on a writer is a step of the scene. -/
private theorem answer_step {cluster : Cluster} {writer : ClusterWriter} {writers : Nat → Option ClusterWriter}
    {stream : Nat} (found : writers stream = some writer) (now : Int) (asked : WriterCall) :
    Scene.Step ⟨cluster.tree.view, writers⟩
      [.called stream asked (writer.answer cluster now asked).1.toBool]
      ⟨(writer.answer cluster now asked).2.2.tree.view,
        update writers stream (some (writer.answer cluster now asked).2.1)⟩ := by
  by_cases isClosed : writer.closed = true
  · have outcome : (if asked.isClose then Except.ok () else
        Except.error (Exception.closed writer.location.toPath)).toBool = asked.isClose := by
      cases asked.isClose <;> rfl
    rw [ClusterWriter.answer_of_closed isClosed, outcome, ← found, Function.update_eq_self]
    exact @Scene.Step.late ⟨cluster.tree.view, writers⟩ stream writer found isClosed asked
  · rw [Bool.not_eq_true] at isClosed
    by_cases leased : cluster.Leased writer.location
    · obtain ⟨bytes, leased⟩ := leased
      obtain ⟨node, changed, cursor, -, ran, view, -⟩ :=
        ClusterWriter.answer_of_leased isClosed leased now asked
      have files : (cluster.withFile writer.location changed cursor).tree.view =
          update cluster.tree.view writer.location (some ⟨bytes ++ writer.handed asked, !asked.isClose⟩) := by
        funext place
        rw [Cluster.withFile_view, view, Function.update_apply]
      rw [ran, files]
      exact @Scene.Step.continued ⟨cluster.tree.view, writers⟩ stream writer bytes found isClosed leased asked
    · have notLeased : ∀ bytes, cluster.tree.view writer.location ≠ some ⟨bytes, true⟩ :=
        fun bytes same => leased ⟨bytes, same⟩
      rw [ClusterWriter.answer_of_not_leased isClosed leased]
      split
      · next empty =>
        exact @Scene.Step.withheld ⟨cluster.tree.view, writers⟩ stream writer found isClosed notLeased asked empty
      · next nonempty =>
        exact @Scene.Step.lost ⟨cluster.tree.view, writers⟩ stream writer found isClosed notLeased asked nonempty

/-- A new cluster has no files. -/
private theorem scene_of_started {authority : String} {conf : Configuration} {datanodes : List String}
    {now : Int} {capacityEach : UInt64}
    (clusters : after.clusters = storage.clusters ++ [Cluster.new now authority conf datanodes capacityEach])
    (writers : after.writers = storage.writers) : after.scene number = storage.scene number := by
  rw [scene, scene, writers, clusters, List.getElem?_append]
  split
  · rfl
  · next beyond =>
    rw [List.getElem?_eq_none (Nat.le_of_not_lt beyond)]
    congr 1
    funext place
    rw [Option.bind_none, Option.bind_eq_none_iff]
    intro cluster atEnd
    rw [List.mem_singleton.mp (List.mem_of_getElem? atEnd)]
    apply Namespace.view_eq_none_iff.mpr
    intro node
    simp only [Cluster.new, Namespace.initial, SortedMap.get?_singleton]
    split <;> simp

theorem Deed.step (deed : Deed storage events after)
    (trees : ∀ cluster ∈ storage.clusters, cluster.tree.IsTree) (number : Nat) :
    Scene.Step (storage.scene number) (events number) (after.scene number) := by
  have elsewhere {own : Nat} {changed : Cluster} (different : number ≠ own)
      (clusters : after.clusters = storage.clusters.set own changed)
      (writers : after.writers number = storage.writers number) (events : List Event) :
      Scene.Step (storage.scene number) (update (fun _ => []) own events number) (after.scene number) := by
    rw [Function.update_of_ne different, scene, scene, clusters, List.getElem?_set_ne (Ne.symm different),
      writers]
    exact .still _
  have changedTo {cluster changed : Cluster} (present : storage.clusters[number]? = some cluster)
      (clusters : after.clusters = storage.clusters.set number changed) :
      after.clusters[number]? = some changed := by
    rw [clusters, List.getElem?_set_self (List.getElem?_eq_some_iff.mp present).1]
  cases deed with
  | aside clusters writers =>
    rw [scene, scene, clusters, writers]
    exact .still _
  | started now authority conf datanodes capacityEach clusters writers =>
    rw [scene_of_started clusters writers]
    exact .still _
  | @changed own cluster changed list _ present change clusters writers =>
    by_cases same : number = own
    · subst same
      rw [Function.update_self, scene_of_some present, scene_of_some (changedTo present clusters), writers]
      exact change.step (trees _ (List.mem_of_getElem? present)) _
    · exact elsewhere same clusters (by rw [writers]) list
  | @created own stream cluster changed now location options _ present proper done new bufferSize clusters writers =>
    by_cases same : number = own
    · subst same
      obtain ⟨free, view⟩ := Cluster.startFile_view (trees _ (List.mem_of_getElem? present)) done
      rw [Function.update_self, scene_of_some present, scene_of_some (changedTo present clusters), writers,
        Function.update_self, view]
      exact @Scene.Step.created ⟨cluster.tree.view, storage.writers number⟩ location stream free (new number) bufferSize
    · exact elsewhere same clusters (by rw [writers, Function.update_of_ne same]) _
  | @called own stream cluster writer _ present found now asked clusters writers =>
    by_cases same : number = own
    · subst same
      rw [Function.update_self, scene_of_some present, scene_of_some (changedTo present clusters), writers,
        Function.update_self]
      exact answer_step found now asked
    · exact elsewhere same clusters (by rw [writers, Function.update_of_ne same]) _

theorem Sound.step (sound : storage.Sound) (request : Request) (number : Nat) :
    Scene.Step (storage.scene number) (storage.events number request) ((storage.after request).scene number) :=
  (deed_of_request sound.plain sound.founded request).1.step sound.trees number

/-- A path that means a place of a cluster is a path of one of its clients. -/
theorem Sound.client_of_place (sound : storage.Sound) {client : Nat} {path : Path}
    {location : Location}
    (atPlace : storage.placeOn? number client path = some location) :
    ∃ directory, storage.clients[client]? = some ⟨.cluster number, directory, .none⟩ ∧
      directory.resolve path = location := by
  rw [placeOn?] at atPlace
  split at atPlace
  · next own directory script known =>
    split at atPlace
    · next equal =>
      obtain rfl : script = .none := (sound.plain.clients _ (List.mem_of_getElem? known)).1
      exact ⟨directory, by rw [known, equal], Option.some.inj atPlace⟩
    · contradiction
  · contradiction

theorem Sound.stream_of_writer (sound : storage.Sound) {stream : Nat} {writer : ClusterWriter}
    (found : storage.writers number stream = some writer) :
    storage.streams[stream]? = some ⟨.clusterWriter number writer, .none⟩ := by
  obtain ⟨⟨channel, script⟩, present, isWriter⟩ := Option.bind_eq_some_iff.mp found
  obtain rfl : script = .none := sound.plain.streams _ (List.mem_of_getElem? present)
  cases channel with
  | clusterReader | diskReader | diskWriter => simp [Channel.writer?] at isWriter
  | clusterWriter own other =>
    simp only [Channel.writer?] at isWriter
    split at isWriter
    · next same => rw [present, same, Option.some.inj isWriter]
    · contradiction

/-- A call on a writer answers as the writer does, and its cluster holds what the writer left. -/
theorem Sound.call_run (sound : storage.Sound) {stream : Nat} {writer : ClusterWriter}
    (found : storage.writers number stream = some writer) (asked : WriterCall) :
    ∃ cluster, storage.clusters[number]? = some cluster ∧
      call stream asked storage =
        answerOf (writer.answer cluster storage.seconds asked).1 (storage.after (.call stream asked)) ∧
      ((storage.after (.call stream asked)).scene number).files =
        (writer.answer cluster storage.seconds asked).2.2.tree.view := by
  obtain ⟨cluster, present⟩ := sound.founded number stream (by simp [found])
  have ran := call_of_clusterWriter (sound.stream_of_writer found) present asked
  have later : storage.after (.call stream asked) = final (call stream asked storage) := rfl
  rw [ran, final_answerOf] at later
  refine ⟨cluster, present, by rw [ran, later], ?_⟩
  rw [later]
  funext place
  simp only [scene, withCluster, List.getElem?_set_self (List.getElem?_eq_some_iff.mp present).1,
    Option.bind_some]

/-- A run is a sequence of steps of the scene of every cluster. -/
theorem Sound.steps (sound : storage.Sound) (requests : List Request) (number : Nat) :
    Scene.Steps (storage.scene number) (log number storage requests)
      ((storage.run requests).scene number) := by
  induction requests generalizing storage with
  | nil => exact .refl _
  | cons request rest ih => exact .head (sound.step request number) (ih (sound.serve request))

end FileGateway.Storage
