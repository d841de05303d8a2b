import FileGateway.Proofs.Cluster.Operations

/-! # What a writer does to its cluster

A writer finds its file by place at every call. If a file is under construction there, whoever put it
there, the call succeeds and hands its bytes to that file; if not, a call that has bytes to hand over
fails, and no call changes the cluster.
-/

namespace FileGateway

/-- What is asked of a writer. -/
inductive WriterCall
  | write (data : Bytes)
  | flush
  | close
deriving DecidableEq, Repr

namespace WriterCall

/-- The data that comes with a call. -/
def data : WriterCall → Bytes
  | .write data => data
  | .flush | .close => []

def isClose : WriterCall → Bool
  | .close => true
  | .write _ | .flush => false

end WriterCall

namespace ClusterWriter

variable {writer : ClusterWriter} {cluster : Cluster} {now : Int} {bytes : Bytes}

/-- A call on a writer, without the count of accepted bytes. -/
def answer (writer : ClusterWriter) (cluster : Cluster) (now : Int) :
    WriterCall → Except Exception Unit × ClusterWriter × Cluster
  | .write data =>
    let (outcome, writer, cluster) := writer.write cluster now data
    (outcome.map fun _ => (), writer, cluster)
  | .flush => writer.flush cluster now
  | .close => writer.close cluster now

/-- The bytes that a call on an open writer hands to the cluster. -/
def handed (writer : ClusterWriter) : WriterCall → Bytes
  | .write data =>
    if (writer.pending ++ data).length < writer.bufferSize.toNat then [] else writer.pending ++ data
  | .flush | .close => writer.pending

/-- An open writer after a call that succeeded: it keeps what it was given and did not hand over. -/
def advance (writer : ClusterWriter) (call : WriterCall) : ClusterWriter :=
  { writer with
    pending := (writer.pending ++ call.data).drop (writer.handed call).length
    position := writer.position + call.data.length
    closed := call.isClose }

theorem handed_append_pending (writer : ClusterWriter) (call : WriterCall) :
    writer.handed call ++ (writer.advance call).pending = writer.pending ++ call.data := by
  cases call with
  | write data => simp only [handed, advance, WriterCall.data]; split <;> simp
  | flush => simp [handed, advance, WriterCall.data]
  | close => simp [handed, advance, WriterCall.data]

@[simp] theorem advance_location (writer : ClusterWriter) (call : WriterCall) :
    (writer.advance call).location = writer.location := rfl

/-- A write that succeeds accepts all of its data. -/
theorem write_outcome (writer : ClusterWriter) (cluster : Cluster) (now : Int) (data : Bytes) :
    (writer.write cluster now data).1 =
      (writer.answer cluster now (.write data)).1.map fun _ => data.length := by
  simp only [answer, write]
  split_ifs
  · rfl
  · rfl
  · split <;> rfl

/-! ## Closed writers -/

theorem answer_of_closed (isClosed : writer.closed = true) (call : WriterCall) :
    writer.answer cluster now call =
      (if call.isClose then .ok () else .error (.closed writer.location.toPath), writer, cluster) := by
  cases call <;> simp [answer, write, flush, close, isClosed, WriterCall.isClose, Except.map]

/-! ## Open writers with a file under construction at their place -/

private theorem flush_of_leased (writer : ClusterWriter) (now : Int) (isOpen : writer.closed = false)
    (leased : cluster.tree.view writer.location = some ⟨bytes, true⟩) :
    ∃ node changed cursor, cluster.tree.file? writer.location = some node ∧
      writer.flush cluster now = (.ok (), { writer with pending := [] },
        cluster.withFile writer.location changed cursor) ∧
      changed.view = ⟨bytes ++ writer.pending, true⟩ ∧ changed.replication = node.replication ∧
      changed.blockSize = node.blockSize := by
  by_cases empty : writer.pending = []
  · obtain ⟨node, found, same⟩ := Namespace.view_eq_some_iff.mp leased
    have isFile := Namespace.file?_eq_some_iff.mpr found
    refine ⟨node, node, cluster.cursor, isFile, ?_, by rw [same, empty, List.append_nil], rfl, rfl⟩
    rw [Cluster.withFile_self isFile, flush]
    rcases writer with ⟨location, pending, bufferSize, position, closed⟩
    simp_all
  · obtain ⟨node, extended, cursor, found, ran, view, replication, blockSize⟩ :=
      Cluster.append_of_leased now writer.pending leased
    exact ⟨node, extended, cursor, found, by simp [flush, isOpen, empty, ran], view, replication,
      blockSize⟩

/-- Every call succeeds, and the file goes on by what the call hands over. -/
theorem answer_of_leased (isOpen : writer.closed = false)
    (leased : cluster.tree.view writer.location = some ⟨bytes, true⟩) (now : Int) (call : WriterCall) :
    ∃ node changed cursor, cluster.tree.file? writer.location = some node ∧
      writer.answer cluster now call =
        (.ok (), writer.advance call, cluster.withFile writer.location changed cursor) ∧
      changed.view = ⟨bytes ++ writer.handed call, !call.isClose⟩ ∧
      changed.replication = node.replication ∧ changed.blockSize = node.blockSize := by
  cases call with
  | write data =>
    by_cases short : (writer.pending ++ data).length < writer.bufferSize.toNat
    · obtain ⟨node, found, same⟩ := Namespace.view_eq_some_iff.mp leased
      have isFile := Namespace.file?_eq_some_iff.mpr found
      refine ⟨node, node, cluster.cursor, isFile, ?_, ?_, rfl, rfl⟩
      · rw [Cluster.withFile_self isFile, answer, write, if_neg (by simp [isOpen])]
        simp only [short, if_true, advance, handed, List.length_nil, List.drop_zero]
        rw [isOpen]
        rfl
      · rw [handed, if_pos short, List.append_nil, same, WriterCall.isClose, Bool.not_false]
    · obtain ⟨node, changed, cursor, found, ran, view, replication, blockSize⟩ :=
        flush_of_leased { writer with pending := writer.pending ++ data } now isOpen leased
      refine ⟨node, changed, cursor, found, ?_, ?_, replication, blockSize⟩
      · rw [answer, write, if_neg (by simp [isOpen])]
        simp only [short, if_false, ran, advance, handed, WriterCall.data, List.drop_length]
        rw [isOpen]
        rfl
      · rw [view, handed, if_neg short, WriterCall.isClose, Bool.not_false]
  | flush =>
    obtain ⟨node, changed, cursor, found, ran, view, replication, blockSize⟩ :=
      flush_of_leased writer now isOpen leased
    refine ⟨node, changed, cursor, found, ?_, view, replication, blockSize⟩
    simp only [answer, ran, advance, handed, WriterCall.data, List.append_nil, List.drop_length]
    rw [isOpen]
    rfl
  | close =>
    obtain ⟨node, changed, cursor, found, ran, view, replication, blockSize⟩ :=
      flush_of_leased writer now isOpen leased
    refine ⟨node, { changed with underConstruction := false }, cursor, found, ?_, ?_, replication,
      blockSize⟩
    · simp only [answer, close, isOpen, ran, Bool.false_eq_true, if_false, Cluster.complete_withFile,
        advance, handed, WriterCall.data, List.append_nil, List.drop_length]
      rfl
    · obtain ⟨content, -⟩ : changed.bytes = _ ∧ changed.underConstruction = true := by
        simpa [FileNode.view] using view
      simp only [FileNode.view, handed, WriterCall.isClose, Bool.not_true]
      exact congrArg (FileView.mk · false) content

/-! ## Open writers without one -/

private theorem flush_of_not_leased (writer : ClusterWriter) (now : Int)
    (isOpen : writer.closed = false)
    (notLeased : ¬cluster.Leased writer.location) :
    writer.flush cluster now =
      (if writer.pending = [] then .ok () else .error (.leaseLost writer.location.toPath),
        writer, cluster) := by
  by_cases empty : writer.pending = []
  · simp [flush, isOpen, empty]
  · simp [flush, isOpen, empty, Cluster.append_of_not_leased now writer.pending notLeased]

/-- No call changes the cluster. One that has bytes to hand over fails and keeps none of its data. -/
theorem answer_of_not_leased (isOpen : writer.closed = false)
    (notLeased : ¬cluster.Leased writer.location) (now : Int) (call : WriterCall) :
    writer.answer cluster now call =
      if writer.handed call = [] then (.ok (), writer.advance call, cluster)
      else (.error (.leaseLost writer.location.toPath), { writer with closed := call.isClose },
        cluster) := by
  cases call with
  | write data =>
    rw [answer, write, if_neg (by simp [isOpen])]
    by_cases short : (writer.pending ++ data).length < writer.bufferSize.toNat
    · simp only [short, if_true, advance, handed, List.length_nil, List.drop_zero]
      rw [isOpen]
      rfl
    · have ran := flush_of_not_leased { writer with pending := writer.pending ++ data } now isOpen
        notLeased
      simp only [short, if_false, ran, advance, handed, WriterCall.isClose, WriterCall.data]
      by_cases empty : writer.pending ++ data = []
      · simp only [empty, if_true, List.drop_nil, isOpen]
        rfl
      · simp only [empty, if_false, List.take_left, isOpen]
        rfl
  | flush =>
    rw [answer, flush_of_not_leased writer now isOpen notLeased, handed]
    split
    · next empty =>
      rcases writer with ⟨location, pending, bufferSize, position, closed⟩
      simp_all [advance, WriterCall.data, WriterCall.isClose]
    · rw [WriterCall.isClose, ← isOpen]
  | close =>
    simp only [answer, close, isOpen, flush_of_not_leased writer now isOpen notLeased, Bool.false_eq_true,
      if_false, Cluster.complete_of_not_leased notLeased, handed, WriterCall.isClose]
    by_cases empty : writer.pending = []
    · simp [empty, advance, WriterCall.data, WriterCall.isClose]
    · simp only [empty, if_false]

/-- Only a close has an effect when it fails: the writer is closed all the same. -/
theorem answer_error {call : WriterCall} {exception : Exception} (notClose : call.isClose = false)
    (failed : (writer.answer cluster now call).1 = .error exception) :
    (writer.answer cluster now call).2 = (writer, cluster) := by
  by_cases isClosed : writer.closed = true
  · rw [answer_of_closed isClosed]
  · rw [Bool.not_eq_true] at isClosed
    by_cases leased : cluster.Leased writer.location
    · obtain ⟨bytes, leased⟩ := leased
      obtain ⟨node, changed, cursor, -, ran, -⟩ := answer_of_leased isClosed leased now call
      simp [ran] at failed
    · rw [answer_of_not_leased isClosed leased] at failed ⊢
      split at failed
      · simp at failed
      · next nonempty => rw [if_neg nonempty, notClose, ← isClosed]

end ClusterWriter

end FileGateway
