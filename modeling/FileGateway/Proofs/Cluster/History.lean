import FileGateway.Proofs.Cluster.Writers

/-! # The history of a cluster

A log holds, oldest first, what happened to the files of one cluster: creates, deletes and renames
that succeeded, and all calls on writers. Streams are known by number, and every create gives a new
one, so a number stands for one create and for the file that it installed. Where that file is now
can be told from the log alone.
-/

namespace FileGateway

inductive Event
  | created (location : Location) (stream : Nat)
  | deleted (location : Location)
  | renamed (source target : Location)
  | called (stream : Nat) (call : WriterCall) (succeeded : Bool)
deriving DecidableEq, Repr

namespace Event

/-- Where the file installed by the create of a stream is after an event. -/
def relocate (stream : Nat) (home : Option Location) : Event → Option Location
  | created location other =>
    if other = stream then some location else home.filter (· ≠ location)
  | deleted location => home.filter (! ·.isWithin location)
  | renamed source target => home.map fun place =>
    if place.isWithin source then target ++ place.drop source.length else place
  | called _ _ _ => home

/-- The place that is vacated, with everything below it. -/
def vacated? : Event → Option Location
  | deleted location => some location
  | renamed source _ => some source
  | created _ _ | called _ _ _ => none

/-- A place gets another file or loses the one it has. -/
def Touches (event : Event) (place : Location) : Prop :=
  (∃ stream, event = created place stream) ∨ ∃ above, event.vacated? = some above ∧ above <+: place

/-- The data that a stream accepts in an event. -/
def accepted (stream : Nat) : Event → Bytes
  | called other call true => if other = stream then call.data else []
  | _ => []

end Event

abbrev Log := List Event

namespace Log

variable {log : Log} {event : Event} {location : Location} {stream : Nat}

/-- Where the file installed by the create of a stream is now, if it is still in the namespace. -/
def home (log : Log) (stream : Nat) : Option Location := log.foldl (Event.relocate stream) none

/-- The stream of the latest create at a place. -/
def latest (log : Log) (location : Location) : Option Nat :=
  log.foldl (fun last event => match event with
    | .created place stream => if place = location then some stream else last
    | _ => last) none

/-- All data that a stream accepted. -/
def accepted (log : Log) (stream : Nat) : Bytes := log.flatMap (Event.accepted stream)

/-- The stream was closed, whatever that answered. -/
def Closed (log : Log) (stream : Nat) : Prop := ∃ succeeded, .called stream .close succeeded ∈ log

/-- No delete or rename ever takes a place, or a directory above it, where a stream was created that
is not closed yet. -/
def Undisturbed (log : Log) : Prop :=
  ∀ before event after, log = before ++ event :: after → ∀ above, event.vacated? = some above →
    ∀ location stream, .created location stream ∈ before → above <+: location → Closed before stream

@[simp] theorem home_concat : home (log ++ [event]) stream = event.relocate stream (home log stream) := by
  simp [home]

@[simp] theorem latest_concat : latest (log ++ [event]) location =
    match event with
    | .created place stream => if place = location then some stream else latest log location
    | _ => latest log location := by
  simp only [latest, List.foldl_append, List.foldl_cons, List.foldl_nil]

@[simp] theorem accepted_concat :
    accepted (log ++ [event]) stream = accepted log stream ++ event.accepted stream := by
  simp [accepted]

theorem closed_concat : Closed (log ++ [event]) stream ↔
    Closed log stream ∨ ∃ succeeded, event = .called stream .close succeeded := by
  simp only [Closed, List.mem_append, List.mem_singleton, exists_or, eq_comm]

theorem Undisturbed.of_append {later : Log} (undisturbed : Undisturbed (log ++ later)) :
    Undisturbed log := fun before event after same =>
  undisturbed before event (after ++ later) (by rw [same, List.append_assoc, List.cons_append])

/-- A create that is the latest at its place is in the log. -/
theorem created_of_latest (found : latest log location = some stream) :
    .created location stream ∈ log := by
  induction log using List.reverseRecOn with
  | nil => simp [latest] at found
  | append_singleton log event ih =>
    rw [latest_concat] at found
    rw [List.mem_append, List.mem_singleton]
    split at found
    · next place other =>
      split at found
      · next same =>
        obtain rfl : other = stream := Option.some.inj found
        exact .inr (same ▸ rfl)
      · exact .inl (ih found)
    · exact .inl (ih found)

end Log

end FileGateway
