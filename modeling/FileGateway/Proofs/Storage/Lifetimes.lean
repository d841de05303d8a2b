import FileGateway.Proofs.Storage.Kept

/-! # Opening and closing streams

What opening answers is the number of a stream that is there, and goes the way it was asked for. Where nothing
is scripted, flushing and closing such a stream may fail, but with an exception only: nothing crashes half way.
-/

namespace FileGateway.Storage

variable {α : Type} {storage : Storage} {number : Nat} {stream : Stream} {script : Script} {writes : Bool}

/-! ## Opening -/

/-- What an action answers is the number of a stream that goes a way. -/
def Opens (writes : Bool) (action : Action Nat) : Prop :=
  ∀ storage number after, action storage = .ok number after →
    ∃ stream : Stream, after.streams[number]? = some stream ∧ stream.channel.writes = writes

namespace Opens

theorem bind {first : Action α} {next : α → Action Nat} (opens : ∀ value, Opens writes (next value)) :
    Opens writes (first >>= next) := by
  intro storage number after ran
  obtain ⟨value, middle, -, ran⟩ := ok_of_bind ran
  exact opens value middle number after ran

theorem scripted {call : Call} {act : Action Nat} (acts : Opens writes act) :
    Opens writes (scripted script call noAnswer act) := by
  intro storage number after ran
  rw [Storage.scripted] at ran
  rcases reaction : script.reaction? call with _ | exception | words | answer <;> rw [reaction] at ran
  · exact acts storage number after ran
  · cases ran
  · cases ran
  · exact acts storage number after ran

theorem addStream (stream : Stream) : Opens stream.channel.writes (addStream stream) := by
  intro storage number after ran
  cases ran
  exact ⟨stream, List.getElem?_concat_length, rfl⟩

end Opens

theorem openReader_opens (client : Nat) (path : Path) (bufferSize : UInt64) :
    Opens false (openReader client path bufferSize) := by
  refine .bind fun found => .scripted ?_
  cases found.backend with
  | cluster number => exact .bind fun reader => .addStream _
  | disk conf => exact .bind fun reader => .bind fun _ => .bind fun _ => .addStream _

theorem createWriter_opens (client : Nat) (path : Path) (options : CreateOptions) :
    Opens true (createWriter client path options) := by
  refine .bind fun found => .scripted (.bind fun storage => ?_)
  cases found.backend with
  | cluster number => exact .bind fun writer => .addStream _
  | disk conf =>
    simp only
    rcases LocalDisk.createWriter conf storage.disk storage.now (found.directory.resolve path) options with
      ⟨outcome, disk⟩
    exact .bind fun _ => .bind fun writer => .bind fun _ => .bind fun _ => .addStream _

/-! ## Closing -/

/-- An action that fails from some storage does so with an exception. -/
def Raises (action : Action α) (storage : Storage) : Prop :=
  ∀ failure after, action storage = .error failure after → ∃ exception, failure = .raised exception

theorem answerOf_raises (outcome : Except Exception α) (storage : Storage) : Raises (answerOf outcome) storage := by
  intro failure after failed
  cases outcome with
  | ok value => cases failed
  | error exception =>
    cases failed
    exact ⟨exception, rfl⟩

/-- Without a script nothing keeps an action from acting. -/
theorem scripted_of_none {call : Call} {read : Answer → Option α} {act : Action α} (unscripted : script = .none) :
    scripted script call read act = act := by
  subst unscripted
  rfl

namespace Sturdy

variable (sturdy : storage.Sturdy)
include sturdy

theorem script_of_stream (present : storage.streams[number]? = some stream) : stream.script = .none :=
  (sturdy.streams stream (List.mem_of_getElem? present)).1

theorem cluster_of_stream {own : Nat} (present : storage.streams[number]? = some stream)
    (isCluster : stream.channel.cluster? = some own) : ∃ cluster, storage.clusters[own]? = some cluster :=
  ⟨_, List.getElem?_eq_getElem ((sturdy.streams stream (List.mem_of_getElem? present)).2 own isCluster)⟩

theorem flush_raises (present : storage.streams[number]? = some stream) (writes : stream.channel.writes = true) :
    Raises (flush number) storage := by
  intro failure after failed
  rw [flush, bind_of_ok (streamAt_of_some present), scripted_of_none (sturdy.script_of_stream present),
    bind_get] at failed
  cases isChannel : stream.channel with
  | clusterReader own reader | diskReader reader => rw [isChannel] at writes; cases writes
  | clusterWriter own writer =>
    obtain ⟨cluster, found⟩ := sturdy.cluster_of_stream present (by rw [isChannel]; rfl)
    rw [isChannel] at failed
    simp only at failed
    rw [bind_of_ok (clusterAt_of_some found)] at failed
    exact answerOf_raises _ _ failure after failed
  | diskWriter writer =>
    rw [isChannel] at failed
    exact answerOf_raises _ _ failure after failed

theorem closeStream_raises (present : storage.streams[number]? = some stream) :
    Raises (closeStream number) storage := by
  intro failure after failed
  have unscripted := sturdy.script_of_stream present
  rw [closeStream, bind_of_ok (streamAt_of_some present)] at failed
  cases isChannel : stream.channel with
  | clusterReader own reader | diskReader reader =>
    rw [isChannel] at failed
    simp only [scripted_of_none unscripted] at failed
    cases failed
  | clusterWriter own writer =>
    obtain ⟨cluster, found⟩ := sturdy.cluster_of_stream present (by rw [isChannel]; rfl)
    rw [isChannel] at failed
    simp only [scripted_of_none unscripted] at failed
    rw [bind_of_ok (clusterAt_of_some found)] at failed
    exact answerOf_raises _ _ failure after failed
  | diskWriter writer =>
    rw [isChannel] at failed
    simp only [scripted_of_none unscripted] at failed
    exact answerOf_raises _ _ failure after failed

/-- Nothing is left to do for a client that closes, if there is one. -/
theorem closeClient_run (client : Nat) : closeClient client storage =
    match storage.clients[client]? with
    | some _ => .ok () storage
    | none => .error .unknown storage := by
  cases present : storage.clients[client]? with
  | none => rw [closeClient, bind_of_error (clientAt_of_none present)]
  | some found =>
    rw [closeClient, bind_of_ok (clientAt_of_some present),
      scripted_of_none (sturdy.clients found (List.mem_of_getElem? present))]
    rfl

end Sturdy

end FileGateway.Storage
