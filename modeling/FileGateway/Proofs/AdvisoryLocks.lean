import FileGateway.Proofs.RefusedRequests
import FileGateway.Proofs.Storage.Operations

/-! # Advisory locks

The locks of a cluster are readers-or-one-writer locks, one for each place. The reference model keeps for
every place how many share its lock, or that one holder has it alone, and decides by that alone. A table
tells the holders, and a step is in two laws: a request that is no call about locks leaves all holders as they
are (`Sound.holders_aside`), and one that is answers as the model does and leaves the holders of the model
(`Sound.lockCall_run`).
-/

namespace FileGateway

open Function (update)

/-- Who holds a lock: so many share it, or one has it alone. -/
inductive Holders
  | shared (count : Nat)
  | exclusive
deriving DecidableEq, Repr

namespace Holders

def free : Holders := shared 0

/-- With one holder more. Sharing takes that nobody is alone, being alone takes that nobody is there. -/
def join? : Bool → Holders → Option Holders
  | true, shared count => some (shared (count + 1))
  | false, shared 0 => some exclusive
  | _, _ => none

/-- With one holder less, if there is one. -/
def leave? : Holders → Option Holders
  | shared 0 => none
  | shared (count + 1) => some (shared count)
  | exclusive => some free

/-- What a table tells of the holders of a lock. -/
def ofHeld : Option Held → Holders
  | none => free
  | some (.shared others) => shared (others + 1)
  | some .exclusive => exclusive

end Holders

/-- A call about the lock on a place: taking it, where something may be or not, or dropping a holder. -/
inductive LockCall
  | lock (location : Location) (shared present : Bool)
  | release (location : Location)
deriving DecidableEq, Repr

namespace LockCall

def location : LockCall → Location
  | lock location _ _ | release location => location

/-- The answer of the reference model, and the holders after it. -/
def answer (holders : Location → Holders) : LockCall → Except ExceptionClass Unit × (Location → Holders)
  | lock location shared present =>
    if present then
      match (holders location).join? shared with
      | some joined => (.ok (), update holders location joined)
      | none => (.error .io, holders)
    else (.error .fileNotFound, holders)
  | release location =>
    match (holders location).leave? with
    | some left => (.ok (), update holders location left)
    | none => (.error .illegalState, holders)

/-- The answers of the reference model to one call after the other. -/
def answers : (Location → Holders) → List LockCall → List (Except ExceptionClass Unit)
  | _, [] => []
  | holders, asked :: rest => (asked.answer holders).1 :: answers (asked.answer holders).2 rest

/-- The holders after one call after the other. -/
def holdersAfter (holders : Location → Holders) (calls : List LockCall) : Location → Holders :=
  calls.foldl (fun holders asked => (asked.answer holders).2) holders

end LockCall

/-! ## Tables -/

namespace LockTable

variable {κ : Type} [DecidableEq κ] (table : LockTable κ) (key other : κ) (path : Path)

private theorem lookup_cons_eq_ite {β : Type} (value : β) (rest : List (κ × β)) :
    ((key, value) :: rest).lookup other = if other = key then some value else rest.lookup other := by
  rw [List.lookup_cons]
  by_cases same : other = key
  · rw [if_pos same, beq_iff_eq.mpr same]
  · rw [if_neg same, beq_false_of_ne same]

theorem get?_remove : (table.remove key).get? other = if other = key then none else table.get? other := by
  obtain ⟨held⟩ := table
  simp only [remove, get?]
  induction held with
  | nil => simp
  | cons entry rest ih =>
    obtain ⟨place, holder⟩ := entry
    rw [lookup_cons_eq_ite]
    by_cases removed : place = key
    · subst removed
      rw [List.filter_cons_of_neg (by simp), ih]
      split <;> rfl
    · rw [List.filter_cons_of_pos (by simpa using removed), lookup_cons_eq_ite, ih]
      split
      · next same => rw [if_neg (same ▸ removed)]
      · rfl

theorem get?_set (held : Held) :
    (table.set key held).get? other = if other = key then some held else table.get? other := by
  have removed := table.get?_remove key other
  rw [get?] at removed
  rw [get?, set, lookup_cons_eq_ite, removed]
  split <;> rfl

/-- Who holds the lock on a key. -/
def holders : Holders := .ofHeld (table.get? key)

theorem isLocked_iff : table.isLocked key = true ↔ table.holders key ≠ .free := by
  rw [isLocked, holders]
  rcases table.get? key with _ | ⟨_ | _⟩ <;> simp [Holders.ofHeld, Holders.free]

private theorem holders_set (held : Held) :
    (table.set key held).holders = update table.holders key (.ofHeld (some held)) := by
  funext other
  rw [holders, get?_set, Function.update_apply, apply_ite Holders.ofHeld]
  rfl

private theorem holders_remove : (table.remove key).holders = update table.holders key .free := by
  funext other
  rw [holders, get?_remove, Function.update_apply, apply_ite Holders.ofHeld]
  rfl

/-- Taking a lock adds a holder, or fails and changes nothing. -/
theorem acquire_cases (shared : Bool) :
    match (table.holders key).join? shared with
    | some joined => (table.acquire key shared path).1 = .ok () ∧
        (table.acquire key shared path).2.holders = update table.holders key joined
    | none => table.acquire key shared path = (.error (.lockHeld path), table) := by
  have set := table.holders_set key
  rcases found : table.get? key with _ | ⟨others | _⟩ <;> cases shared <;>
    simp only [acquire, found, holders, Holders.ofHeld, Holders.free, Holders.join?]
  · exact ⟨trivial, set .exclusive⟩
  · exact ⟨trivial, set (.shared 0)⟩
  · exact ⟨trivial, set (.shared (others + 1))⟩

/-- Releasing drops a holder, or fails and changes nothing. -/
theorem release_cases :
    match (table.holders key).leave? with
    | some left => (table.release key path).1 = .ok () ∧
        (table.release key path).2.holders = update table.holders key left
    | none => table.release key path = (.error (.notLocked path), table) := by
  have remove := table.holders_remove key
  rcases found : table.get? key with _ | ⟨(_ | others) | _⟩ <;>
    simp only [release, found, holders, Holders.ofHeld, Holders.free, Holders.leave?]
  · exact ⟨trivial, remove⟩
  · exact ⟨trivial, table.holders_set key (.shared others)⟩
  · exact ⟨trivial, remove⟩

end LockTable

/-! ## Operations -/

namespace Operation

variable (cluster : Cluster)

/-- What an operation says about locks. -/
def lockCall? (cluster : Cluster) : Operation → Option LockCall
  | lock location shared => some (.lock location shared (cluster.tree.contains location))
  | release location => some (.release location)
  | _ => none

theorem perform_locks {operation : Operation} (aside : operation.lockCall? cluster = none) :
    (operation.perform cluster).2.locks = cluster.locks := by
  cases operation with
  | createDirectories now location => rfl
  | delete location =>
    simp only [perform, Cluster.delete]
    split_ifs <;> rfl
  | rename source target =>
    simp only [perform, Cluster.rename]
    split_ifs
    · rfl
    · rfl
    · rfl
    · split <;> rfl
  | setReplication location replication =>
    simp only [perform, Cluster.setReplication]
    split_ifs
    · rfl
    · split <;> rfl
  | startFile now location options =>
    simp only [perform, Cluster.startFile]
    split
    · rfl
    · split <;> rfl
  | call writer now asked =>
    by_cases isClosed : writer.closed = true
    · rw [perform, ClusterWriter.answer_of_closed isClosed]
    · rw [Bool.not_eq_true] at isClosed
      by_cases leased : cluster.Leased writer.location
      · obtain ⟨bytes, leased⟩ := leased
        obtain ⟨node, changed, cursor, -, ran, -⟩ := ClusterWriter.answer_of_leased isClosed leased now asked
        rw [perform, ran]
        rfl
      · rw [perform, ClusterWriter.answer_of_not_leased isClosed leased]
        split <;> rfl
  | lock location shared | release location => simp [lockCall?] at aside

/-- A call about locks is answered as the reference model answers it, and leaves the holders of the model. -/
theorem perform_lockCall {operation : Operation} {asked : LockCall}
    (isCall : operation.lockCall? cluster = some asked) :
    (operation.perform cluster).1.mapError Exception.kind = (asked.answer cluster.locks.holders).1 ∧
      (operation.perform cluster).2.locks.holders = (asked.answer cluster.locks.holders).2 := by
  cases operation with
  | lock location shared =>
    obtain rfl := Option.some.inj isCall
    have acquired := cluster.locks.acquire_cases location location.toPath shared
    simp only [perform, Cluster.lock, LockCall.answer]
    split_ifs
    · cases joined : (cluster.locks.holders location).join? shared with
      | none =>
        simp only [joined] at acquired ⊢
        rw [acquired]
        exact ⟨rfl, rfl⟩
      | some holders =>
        simp only [joined] at acquired ⊢
        exact ⟨by rw [acquired.1]; rfl, acquired.2⟩
    · exact ⟨rfl, rfl⟩
  | release location =>
    obtain rfl := Option.some.inj isCall
    have released := cluster.locks.release_cases location location.toPath
    simp only [perform, Cluster.release, LockCall.answer]
    cases left : (cluster.locks.holders location).leave? with
    | none =>
      simp only [left] at released ⊢
      rw [released]
      exact ⟨rfl, rfl⟩
    | some holders =>
      simp only [left] at released ⊢
      exact ⟨by rw [released.1]; rfl, released.2⟩
  | _ => simp [lockCall?] at isCall

end Operation

namespace LockCall

variable {holders : Location → Holders} {asked : LockCall}

/-- The model changes the holders of no other place. -/
theorem answer_other {other : Location} (different : other ≠ asked.location) :
    (asked.answer holders).2 other = holders other := by
  cases asked with
  | lock location shared present =>
    simp only [answer]
    split
    · split
      · exact Function.update_of_ne different ..
      · rfl
    · rfl
  | release location =>
    simp only [answer]
    split
    · exact Function.update_of_ne different ..
    · rfl

end LockCall

/-! ## Runs -/

namespace Storage

variable {storage : Storage} {number : Nat} {request : Request} {asked : LockCall}

/-- The call about locks of a cluster that a request is. -/
def lockCall? (storage : Storage) (number : Nat) (request : Request) : Option LockCall := do
  let cluster ← storage.clusters[number]?
  let operation ← storage.operation? number request
  operation.lockCall? cluster

/-- Who holds the lock on a place of a cluster; nobody before it is started. -/
def holders (storage : Storage) (number : Nat) (location : Location) : Holders :=
  ((storage.clusters[number]?).map (·.locks.holders location)).getD .free

/-- How an action ended, if it answered or raised an exception. -/
def outcome? {α : Type} : EStateM.Result Failure Storage α → Option (Except ExceptionClass Unit)
  | .ok _ _ => some (.ok ())
  | .error (.raised exception) _ => some (.error exception.kind)
  | .error _ _ => none

/-- The calls about locks of a cluster in a run, each with its outcome. -/
def lockLog (number : Nat) : Storage → List Request → List (LockCall × Option (Except ExceptionClass Unit))
  | _, [] => []
  | storage, request :: rest =>
    ((storage.lockCall? number request).map fun asked => (asked, outcome? (serve request storage))).toList ++
      lockLog number (storage.after request) rest

theorem holders_of_some {cluster : Cluster} (present : storage.clusters[number]? = some cluster) :
    storage.holders number = cluster.locks.holders := by
  funext location
  rw [holders, present]
  rfl

private theorem outcome?_answerOf (outcome : Except Exception Unit) :
    outcome? (answerOf outcome storage) = some (outcome.mapError Exception.kind) := by
  cases outcome <;> rfl

/-- The operation that a call about locks is. -/
private theorem lockCall?_eq_some (isCall : storage.lockCall? number request = some asked) :
    ∃ cluster operation, storage.clusters[number]? = some cluster ∧
      storage.operation? number request = some operation ∧ operation.lockCall? cluster = some asked := by
  obtain ⟨cluster, present, rest⟩ := Option.bind_eq_some_iff.mp isCall
  obtain ⟨operation, isOperation, isCall⟩ := Option.bind_eq_some_iff.mp rest
  exact ⟨cluster, operation, present, isOperation, isCall⟩

/-- A call about locks is made by a client of the cluster. -/
private theorem Sound.client_of_lockCall (sound : storage.Sound)
    (isCall : storage.lockCall? number request = some asked) :
    ∃ client directory, storage.clients[client]? = some ⟨.cluster number, directory, .none⟩ ∧
      request.client? = some client := by
  obtain ⟨cluster, operation, -, isOperation, isCall⟩ := lockCall?_eq_some isCall
  cases request with
  | lock client path shared | release client path =>
    obtain ⟨location, atPlace, -⟩ := Option.map_eq_some_iff.mp isOperation
    obtain ⟨directory, found, -⟩ := sound.client_of_place atPlace
    exact ⟨client, directory, found, rfl⟩
  | createDirectories | delete | setReplication | createFile | call =>
    obtain ⟨_, -, rfl⟩ := Option.map_eq_some_iff.mp isOperation
    simp [Operation.lockCall?] at isCall
  | rename =>
    simp only [operation?] at isOperation
    split at isOperation
    · obtain rfl := Option.some.inj isOperation
      simp [Operation.lockCall?] at isCall
    · contradiction
  | _ => simp [operation?] at isOperation

/-- A call about locks answers as the reference model does, and leaves the holders of the model. -/
theorem Sound.lockCall_run (sound : storage.Sound) (isCall : storage.lockCall? number request = some asked) :
    outcome? (Storage.serve request storage) = some (asked.answer (storage.holders number)).1 ∧
      (storage.after request).holders number = (asked.answer (storage.holders number)).2 := by
  obtain ⟨cluster, operation, present, isOperation, isCall⟩ := lockCall?_eq_some isCall
  obtain ⟨ran, clusters⟩ := sound.performs present isOperation
  obtain ⟨outcome, later⟩ := Operation.perform_lockCall cluster isCall
  have after : (storage.after request).clusters[number]? = some (operation.perform cluster).2 := by
    rw [clusters, List.getElem?_set_self (List.getElem?_eq_some_iff.mp present).1]
  rw [holders_of_some present, holders_of_some after, ran, outcome?_answerOf, outcome]
  exact ⟨rfl, later⟩

/-- What is no call about the locks of a cluster leaves all holders. -/
theorem Sound.holders_aside (sound : storage.Sound) (aside : storage.lockCall? number request = none) :
    (storage.after request).holders number = storage.holders number := by
  funext location
  cases present : storage.clusters[number]? with
  | none =>
    cases later : (storage.after request).clusters[number]? with
    | none => rw [holders, holders, present, later]
    | some cluster =>
      rcases sound.cluster_cases request later with ⟨_, _, _, _, _, -, rfl⟩ | ⟨known, -⟩ | ⟨_, _, known, -⟩
      · rw [holders_of_some later, holders, present]
        rfl
      · simp [present] at known
      · simp [present] at known
  | some cluster =>
    cases isOperation : storage.operation? number request with
    | none => rw [holders_of_some (sound.spared present isOperation), holders_of_some present]
    | some operation =>
      have quiet : operation.lockCall? cluster = none := by
        simpa [lockCall?, present, isOperation] using aside
      have later : (storage.after request).clusters[number]? = some (operation.perform cluster).2 := by
        rw [(sound.performs present isOperation).2,
          List.getElem?_set_self (List.getElem?_eq_some_iff.mp present).1]
      rw [holders_of_some later, holders_of_some present, LockTable.holders, LockTable.holders,
        Operation.perform_locks cluster quiet]

/-- The calls about locks in a run have the outcomes of the reference model, and leave its holders. -/
private theorem Sound.lockLog_run (sound : storage.Sound) (requests : List Request) (number : Nat) :
    (lockLog number storage requests).map Prod.snd =
        (LockCall.answers (storage.holders number) ((lockLog number storage requests).map Prod.fst)).map some ∧
      (storage.run requests).holders number =
        LockCall.holdersAfter (storage.holders number) ((lockLog number storage requests).map Prod.fst) := by
  induction requests generalizing storage with
  | nil => exact ⟨rfl, rfl⟩
  | cons request rest ih =>
    obtain ⟨outcomes, holders⟩ := ih (sound.serve request)
    cases isCall : storage.lockCall? number request with
    | none =>
      rw [sound.holders_aside isCall] at outcomes holders
      simp only [lockLog, isCall, Option.map_none, Option.toList_none, List.nil_append]
      exact ⟨outcomes, holders⟩
    | some asked =>
      obtain ⟨outcome, later⟩ := sound.lockCall_run isCall
      rw [later] at outcomes holders
      simp only [lockLog, isCall, Option.map_some, Option.toList_some, List.singleton_append, List.map_cons,
        LockCall.answers, outcome, outcomes, true_and]
      exact holders

/-- The lock calls of any clients of a cluster, whatever else is asked in between, have the outcomes of the
reference model for the places that their paths mean, and at the end a place is locked as long as the model
knows a holder. Every call leaves the locks on all other places, and one that fails changes nothing. -/
theorem advisory_locks_refine (now : Int) (disk : Disk) (requests : List Request) (number : Nat) :
    let log := lockLog number (new now disk) requests
    let last := (new now disk).run requests
    let holders := LockCall.holdersAfter (fun _ => .free) (log.map Prod.fst)
    log.map Prod.snd = (LockCall.answers (fun _ => .free) (log.map Prod.fst)).map some ∧
      (∀ cluster, last.clusters[number]? = some cluster →
        ∀ location, cluster.locks.isLocked location = true ↔ holders location ≠ .free) ∧
      ∀ request asked, last.lockCall? number request = some asked →
        (∀ location, location ≠ asked.location →
          (last.after request).holders number location = last.holders number location) ∧
        ∀ failure after, serve request last = .error failure after → after = last := by
  intro log last holders
  have start : (new now disk).holders number = fun _ => .free := rfl
  obtain ⟨outcomes, agree⟩ := (sound_new now disk).lockLog_run requests number
  rw [start] at outcomes agree
  have sound : last.Sound := (sound_new now disk).run requests
  refine ⟨outcomes, fun cluster present location => ?_, fun request asked isCall => ⟨fun location different => ?_, ?_⟩⟩
  · rw [LockTable.isLocked_iff, ← holders_of_some present]
    exact Iff.of_eq (congrArg (· location ≠ .free) agree)
  · rw [(sound.lockCall_run isCall).2, LockCall.answer_other different]
  · obtain ⟨client, directory, found, isClient⟩ := sound.client_of_lockCall isCall
    exact serve_failsClean sound found isClient

/-- One client shares the lock on `/a` and another, who works there, wants it alone; then both release it. -/
example : (lockLog 0 (new 0 (.new 0 .root 0 0))
    [.startCluster "nn:1" .default ["dn"] 1, .joinCluster 0, .joinCluster 0, .createDirectories 0 ⟨[47, 97]⟩,
      .changeDirectory 1 ⟨[47, 97]⟩, .lock 0 ⟨[97]⟩ true, .lock 1 ⟨[46]⟩ false, .release 1 ⟨[46]⟩,
      .release 0 ⟨[97]⟩]).map Prod.snd =
    [some (.ok ()), some (.error .io), some (.ok ()), some (.error .illegalState)] := rfl

end Storage

end FileGateway
