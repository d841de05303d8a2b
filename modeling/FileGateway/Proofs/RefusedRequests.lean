import FileGateway.Proofs.Storage.Run

/-! # What is refused leaves no trace

An action may change storage and then fail. On a cluster none does: making directories stops at a file
only before anything was made, since nothing is below a file, and a write whose flush fails gives back
what it had taken into its buffer. `FailsClean` is put together along an action: what looks something up
is clean, so is what cannot fail, and a change of the cluster is clean if the cluster's own operation is.
-/

namespace FileGateway

namespace ClusterReader

variable {reader later : ClusterReader} {cluster : Cluster} {exception : Exception}

theorem read_error {count : Nat} (failed : reader.read cluster count = (.error exception, later)) :
    later = reader := by
  rw [read] at failed
  split at failed
  · simp at failed
  · exact (congrArg Prod.snd failed).symm

theorem seek_error {position : Nat} (failed : reader.seek cluster position = (.error exception, later)) :
    later = reader := by
  rw [seek] at failed
  split at failed
  · exact (congrArg Prod.snd failed).symm
  · split at failed
    · exact (congrArg Prod.snd failed).symm
    · simp at failed

end ClusterReader

theorem ClusterWriter.create_error {cluster after : Cluster} {now : Int} {location : Location}
    {options : CreateOptions} {exception : Exception} (isTree : cluster.tree.IsTree)
    (failed : create cluster now location options = (.error exception, after)) : after = cluster := by
  rw [create] at failed
  rcases started : cluster.startFile now location options with ⟨reason | ⟨⟩, changed⟩
  · simp only [started, (Cluster.startFile_error isTree started).1] at failed
    exact (congrArg Prod.snd failed).symm
  · simp [started] at failed

/-- The client that is asked. -/
def Request.client? : Request → Option Nat
  | .changeDirectory client _ | .createDirectories client _ | .delete client _ | .rename client _ _
  | .setReplication client _ _ | .lock client _ _ | .release client _ | .openFile client _ _
  | .createFile client _ _ => some client
  | .passTime _ | .startCluster _ _ _ _ | .joinCluster _ | .joinDisk _ | .read _ _ | .readAt _ _ _ | .seek _ _
  | .call _ _ | .drop _ => none

/-- What is asked of a reader. -/
inductive ReaderCall
  | read (count : Nat)
  | readAt (position count : Nat)
  | seek (position : Nat)
  | available
deriving DecidableEq, Repr

/-- A stream reads or writes on a cluster. -/
def Channel.OnCluster : Channel → Prop
  | clusterReader _ _ | clusterWriter _ _ => True
  | diskReader _ | diskWriter _ => False

namespace Storage

variable {α β : Type} {storage : Storage} {client stream number : Nat} {directory : Location}

/-- A call on a reader, without what it reads. -/
def ask (stream : Nat) : ReaderCall → Action Unit
  | .read count => do
    let _ ← read stream count
  | .readAt position count => do
    let _ ← readAt stream position count
  | .seek position => seek stream position
  | .available => do
    let _ ← available stream

/-- If the action fails here, nothing has changed. -/
def FailsClean (action : Action α) (storage : Storage) : Prop :=
  ∀ failure after, action storage = .error failure after → after = storage

/-! ## Actions that fail clean -/

namespace FailsClean

theorem of_ok {action : Action α} {value : α} {after : Storage} (ran : action storage = .ok value after) :
    FailsClean action storage := by
  intro failure later failed
  rw [ran] at failed
  contradiction

theorem of_error {action : Action α} {failure : Failure} (ran : action storage = .error failure storage) :
    FailsClean action storage := by
  intro reason after failed
  rw [ran] at failed
  exact (EStateM.Result.error.inj failed).2.symm

theorem of_same {action other : Action α} (same : action storage = other storage)
    (clean : FailsClean other storage) : FailsClean action storage := by
  intro failure after failed
  exact clean failure after (same ▸ failed)

theorem answerOf (outcome : Except Exception α) : FailsClean (answerOf outcome) storage := by
  cases outcome with
  | ok value => exact of_ok rfl
  | error exception => exact of_error rfl

/-- Looking something up changes nothing, so what follows decides. -/
theorem bind_of_ok {action : Action α} {next : α → Action β} {value : α}
    (ran : action storage = .ok value storage) (clean : FailsClean (next value) storage) :
    FailsClean (action >>= next) storage := by
  intro failure after failed
  rw [bind_run, ran] at failed
  exact clean failure after failed

theorem bind_of_error {action : Action α} {next : α → Action β} {failure : Failure}
    (ran : action storage = .error failure storage) : FailsClean (action >>= next) storage :=
  of_error (by rw [bind_run, ran])

/-- What cannot fail any more may follow. -/
theorem bind_total {action : Action α} {next : α → Action β} (clean : FailsClean action storage)
    (total : ∀ value done, ∃ answer after, next value done = .ok answer after) :
    FailsClean (action >>= next) storage := by
  intro failure after failed
  rw [bind_run] at failed
  rcases ran : action storage with ⟨value, done⟩ | ⟨reason, done⟩
  · obtain ⟨answer, later, succeeded⟩ := total value done
    simp [ran, succeeded] at failed
  · rw [ran] at failed
    exact clean reason done ran ▸ (EStateM.Result.error.inj failed).2.symm

theorem bind_pure {action : Action α} (clean : FailsClean action storage) (read : α → β) :
    FailsClean (do return read (← action)) storage :=
  clean.bind_total fun value done => ⟨read value, done, rfl⟩

theorem clusterAt {next : Cluster → Action α}
    (clean : ∀ cluster, storage.clusters[number]? = some cluster → FailsClean (next cluster) storage) :
    FailsClean (clusterAt number >>= next) storage := by
  cases present : storage.clusters[number]? with
  | none => exact bind_of_error (clusterAt_of_none present)
  | some cluster => exact bind_of_ok (clusterAt_of_some present) (clean cluster present)

theorem askCluster (question : Cluster → Except Exception α) :
    FailsClean (askCluster number question) storage :=
  clusterAt fun cluster _ => answerOf (question cluster)

/-- A change of a cluster fails clean if the cluster keeps what it had. -/
theorem onCluster {change : Cluster → Except Exception α × Cluster}
    (keeps : ∀ cluster exception changed, storage.clusters[number]? = some cluster →
      change cluster = (.error exception, changed) → changed = cluster) :
    FailsClean (onCluster number change) storage := by
  refine clusterAt fun cluster present => ?_
  rcases outcome : change cluster with ⟨exception | value, changed⟩
  · obtain rfl := keeps cluster exception changed present outcome
    have ran : (do setCluster number changed; Storage.answerOf (.error exception) : Action α) storage =
        .error (.raised exception) storage :=
      congrArg (EStateM.Result.error (Failure.raised exception)) (withCluster_self present)
    exact of_error ran
  · exact of_ok rfl

end FailsClean

/-! ## Requests to clients -/

/-- Whatever a client of a cluster is refused, nothing has changed. -/
theorem serve_failsClean (sound : storage.Sound)
    (found : storage.clients[client]? = some ⟨.cluster number, directory, .none⟩) {request : Request}
    (asked : request.client? = some client) : FailsClean (serve request) storage := by
  have isTree {cluster : Cluster} (present : storage.clusters[number]? = some cluster) : cluster.tree.IsTree :=
    sound.trees cluster (List.mem_of_getElem? present)
  have asClient := clientAt_of_some found
  cases request with
  | passTime | startCluster | joinCluster | joinDisk | read | readAt | seek | call | drop =>
    simp [Request.client?] at asked
  | changeDirectory =>
    obtain rfl := Option.some.inj asked
    exact .bind_of_ok asClient (.of_ok rfl)
  | createDirectories =>
    obtain rfl := Option.some.inj asked
    exact .of_same (createDirectories_of_cluster found)
      (.onCluster fun _ _ _ present => Cluster.createDirectories_error (isTree present))
  | delete =>
    obtain rfl := Option.some.inj asked
    exact .of_same (delete_of_cluster found) (.onCluster fun _ _ _ _ => Cluster.delete_error)
  | rename =>
    obtain rfl := Option.some.inj asked
    exact .of_same (rename_of_cluster found) (.onCluster fun _ _ _ _ => Cluster.rename_error)
  | setReplication =>
    obtain rfl := Option.some.inj asked
    exact .of_same (setReplication_of_cluster found _) (.onCluster fun _ _ _ _ => Cluster.setReplication_error)
  | lock =>
    obtain rfl := Option.some.inj asked
    exact .of_same (lock_of_cluster found _) (.onCluster fun _ _ _ _ => Cluster.lock_error)
  | release =>
    obtain rfl := Option.some.inj asked
    exact .of_same (release_of_cluster found) (.onCluster fun _ _ _ _ => Cluster.release_error)
  | openFile =>
    obtain rfl := Option.some.inj asked
    refine .bind_pure (.bind_of_ok asClient (.bind_total (.askCluster _) ?_)) fun _ => ()
    exact fun _ _ => ⟨_, _, rfl⟩
  | createFile client path options =>
    obtain rfl := Option.some.inj asked
    refine .bind_pure (.bind_of_ok asClient (.bind_total (.onCluster ?_) ?_)) fun _ => ()
    · intro cluster exception changed present failed
      exact ClusterWriter.create_error (isTree present) failed
    · exact fun _ _ => ⟨_, _, rfl⟩

/-! ## Requests to streams -/

private theorem setChannel_self {found : Stream} (present : storage.streams[stream]? = some found) :
    setChannel stream found.channel storage = .ok () storage := by
  have same : storage.streams.modify stream ({ · with channel := found.channel }) = storage.streams := by
    apply List.ext_getElem?
    intro other
    rw [List.getElem?_modify]
    by_cases same : stream = other
    · subst same
      rw [present]
      simp
    · simp [same]
  exact congrArg (fun streams => EStateM.Result.ok () { storage with streams := streams }) same

private theorem ask_failsClean {reader : ClusterReader}
    (found : storage.streams[stream]? = some ⟨.clusterReader number reader, .none⟩) (asked : ReaderCall) :
    FailsClean (ask stream asked) storage := by
  have asStream := streamAt_of_some found
  have putBack {α : Type} (outcome : Except Exception α) :
      FailsClean (do setChannel stream (.clusterReader number reader); answerOf outcome) storage :=
    .bind_of_ok (setChannel_self found) (.answerOf outcome)
  cases asked with
  | read count =>
    refine .bind_pure (.bind_of_ok asStream (.clusterAt fun cluster _ => ?_)) fun _ => ()
    rcases outcome : reader.read cluster count with ⟨exception | data, later⟩
    · obtain rfl := ClusterReader.read_error outcome
      exact .bind_pure (putBack (.error exception)) ReadResult.ofData
    · exact .of_ok rfl
  | readAt position count =>
    exact .bind_pure (.bind_of_ok asStream (.bind_pure (.askCluster _) ReadResult.ofData)) fun _ => ()
  | seek position =>
    refine .bind_of_ok asStream (.clusterAt fun cluster _ => ?_)
    rcases outcome : reader.seek cluster position with ⟨exception | ⟨⟩, later⟩
    · obtain rfl := ClusterReader.seek_error outcome
      exact putBack (.error exception)
    · exact .of_ok rfl
  | available => exact .bind_pure (.bind_of_ok asStream (.askCluster _)) fun _ => ()

private theorem call_failsClean (sound : storage.Sound) {writer : ClusterWriter}
    (found : storage.streams[stream]? = some ⟨.clusterWriter number writer, .none⟩) {asked : WriterCall}
    (notClose : asked.isClose = false) : FailsClean (call stream asked) storage := by
  have own : storage.writers number stream = some writer := by
    rw [writers, found, Option.bind_some, Channel.writer?, if_pos rfl]
  obtain ⟨cluster, present⟩ := sound.founded number stream (by simp [own])
  intro failure after failed
  rw [call_of_clusterWriter found present] at failed
  rcases outcome : (writer.answer cluster storage.seconds asked).1 with exception | ⟨⟩
  · rw [outcome, ClusterWriter.answer_error notClose outcome, withCluster_self present] at failed
    exact (EStateM.Result.error.inj failed).2.symm.trans (EStateM.Result.ok.inj (setChannel_self found)).2
  · rw [outcome] at failed
    contradiction

/-- In every run, what the client of a cluster or a stream on one is refused changes nothing at all: not
the namespace, the locks or the placement of blocks, not where the stream stands and not what it holds
back. A close is not among these calls: it ends a writer also when it fails. -/
theorem refused_without_trace (now : Int) (disk : Disk) (requests : List Request) :
    let storage := (new now disk).run requests
    (∀ client number directory script request,
      storage.clients[client]? = some ⟨.cluster number, directory, script⟩ → request.client? = some client →
        FailsClean (serve request) storage) ∧
    (∀ stream channel script, storage.streams[stream]? = some ⟨channel, script⟩ → channel.OnCluster →
      (∀ asked : WriterCall, asked.isClose = false → FailsClean (call stream asked) storage) ∧
      ∀ asked, FailsClean (ask stream asked) storage) := by
  intro storage
  have sound : storage.Sound := (sound_new now disk).run requests
  constructor
  · intro client number directory script request found asked
    obtain rfl : script = .none := (sound.plain.clients _ (List.mem_of_getElem? found)).1
    exact serve_failsClean sound found asked
  · intro stream channel script found onCluster
    obtain rfl : script = .none := sound.plain.streams _ (List.mem_of_getElem? found)
    have asStream := streamAt_of_some found
    cases channel with
    | diskReader | diskWriter => exact onCluster.elim
    | clusterWriter number writer =>
      refine ⟨fun asked notClose => call_failsClean sound found notClose, fun asked => ?_⟩
      cases asked with
      | read | readAt | available => exact .bind_pure (.bind_of_ok asStream (.of_error rfl)) fun _ => ()
      | seek => exact .bind_of_ok asStream (.of_error rfl)
    | clusterReader number reader =>
      refine ⟨fun asked notClose => ?_, ask_failsClean found⟩
      cases asked with
      | write => exact .bind_pure (.bind_of_ok asStream (.of_error rfl)) fun _ => ()
      | flush => exact .bind_of_ok asStream (.of_error rfl)
      | close => contradiction

/-- A file is created, and removed while its writer is open. -/
def removal : List Request :=
  [.startCluster "nn:1" .default ["dn"] 1, .joinCluster 0, .createFile 0 ⟨[47, 102]⟩ ⟨false, 1, 0, 0⟩,
    .delete 0 ⟨[47, 102]⟩]

/-- Then the writer is refused what it hands over, and the client what it deletes again. -/
theorem refused_without_trace_after_removal :
    let storage := (new 0 (.new 0 .root 0 0)).run removal
    call 0 (.write [120]) storage = .error (.raised (.leaseLost (Location.toPath [[102]]))) storage ∧
      delete 0 ⟨[47, 102]⟩ storage = .error (.raised (.missing (Location.toPath [[102]]))) storage := by
  intro storage
  obtain ⟨clients, streams⟩ := refused_without_trace 0 (.new 0 .root 0 0) removal
  have written : ∃ after, call 0 (.write [120]) storage =
      .error (.raised (.leaseLost (Location.toPath [[102]]))) after := ⟨_, rfl⟩
  have deleted : ∃ after, serve (.delete 0 ⟨[47, 102]⟩) storage =
      .error (.raised (.missing (Location.toPath [[102]]))) after := ⟨_, rfl⟩
  obtain ⟨after, written⟩ := written
  obtain ⟨later, deleted⟩ := deleted
  obtain rfl := (streams 0 _ _ rfl trivial).1 (.write [120]) rfl _ after written
  obtain rfl := clients 0 0 _ _ (.delete 0 ⟨[47, 102]⟩) rfl rfl _ later deleted
  exact ⟨written, deleted⟩

end Storage

end FileGateway
