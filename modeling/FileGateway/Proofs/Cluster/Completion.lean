import FileGateway.Proofs.Cluster.Exclusion

/-! # When the construction of a file ends

A file is under construction from its create on, and a close ends that. But a close looks for its file
at the place where the stream was created, so it ends the construction of whatever file is there then:
not that of its own file, if that was moved away. The log tells which files were completed, and every
file is under construction exactly if the log tells of no close that completed it.
-/

namespace FileGateway

namespace Log

variable {log : Log} {event : Event} {stream closer : Nat} {location place : Location}

/-- The close of an open stream that was created where the file of another, or its own, is now. -/
def Completes (log : Log) (stream : Nat) (event : Event) : Prop :=
  ∃ closer succeeded location, event = .called closer .close succeeded ∧
    .created location closer ∈ log ∧ ¬Closed log closer ∧ home log stream = some location

/-- The construction of the file that the create of a stream installed was ended, by whatever close. -/
def Completed (log : Log) (stream : Nat) : Prop :=
  ∃ before event after, log = before ++ event :: after ∧ Completes before stream event

/-- The stream was closed while its file was in the namespace, but not where it was created. -/
def Strayed (log : Log) (stream : Nat) : Prop :=
  ∃ before succeeded after location elsewhere, log = before ++ .called stream .close succeeded :: after ∧
    .created location stream ∈ before ∧ ¬Closed before stream ∧ home before stream = some elsewhere ∧
    elsewhere ≠ location

theorem Strayed.concat (strayed : Strayed log stream) (event : Event) : Strayed (log ++ [event]) stream := by
  obtain ⟨before, succeeded, after, location, elsewhere, rfl, rest⟩ := strayed
  exact ⟨before, succeeded, after ++ [event], location, elsewhere, by simp, rest⟩

theorem completed_concat :
    Completed (log ++ [event]) stream ↔ Completed log stream ∨ Completes log stream event := by
  constructor
  · rintro ⟨before, middle, after, same, completes⟩
    rcases List.eq_nil_or_concat after with rfl | ⟨initial, last, rfl⟩
    · obtain ⟨rfl, rfl⟩ : log = before ∧ event = middle := by simpa using same
      exact .inr completes
    · rw [List.concat_eq_append, ← List.cons_append, ← List.append_assoc] at same
      exact .inl ⟨before, middle, initial, (List.append_inj' same rfl).1, completes⟩
  · rintro (⟨before, middle, after, rfl, completes⟩ | completes)
    · exact ⟨before, middle, after ++ [event], by simp, completes⟩
    · exact ⟨log, event, [], rfl, completes⟩

/-- Only a create brings a file. -/
theorem created_of_home (found : home log stream = some place) : ∃ location, .created location stream ∈ log := by
  induction log using List.reverseRecOn generalizing place with
  | nil => simp [home] at found
  | append_singleton log event ih =>
    have earlier (before : home log stream ≠ none) : ∃ location, .created location stream ∈ log ++ [event] := by
      obtain ⟨old, before⟩ := Option.ne_none_iff_exists'.mp before
      exact (ih before).imp fun location member => List.mem_append_left _ member
    by_cases before : home log stream = none
    · rw [home_concat, before] at found
      cases event with
      | created location other =>
        rw [Event.relocate] at found
        split at found
        · next same => exact ⟨location, by simp [same]⟩
        · simp at found
      | deleted | renamed | called => simp [Event.relocate] at found
    · exact earlier before

theorem created_of_completed (completed : Completed log stream) : ∃ location, .created location stream ∈ log := by
  obtain ⟨before, event, after, rfl, closer, succeeded, location, -, -, -, atHome⟩ := completed
  exact (created_of_home atHome).imp fun location member => List.mem_append_left _ member

end Log

namespace Scene

open Function (update)

variable {log later : Log} {scene after : Scene} {event : Event} {events : List Event} {stream : Nat}
  {place : Location}

/-- A file is under construction until it is completed. -/
structure Constructed (log : Log) (scene : Scene) : Prop where
  registered : Registered log scene
  housed : Housed log scene
  leased : ∀ {stream place view}, log.home stream = some place → scene.files place = some view →
    (view.leased = true ↔ ¬log.Completed stream)
  strayed : ∀ {stream writer place}, scene.writers stream = some writer → writer.closed = true →
    log.home stream = some place → log.Completed stream ∨ log.Strayed stream

theorem Constructed.initial : Constructed [] ⟨fun _ => none, fun _ => none⟩ where
  registered := .initial
  housed := .initial
  leased := by simp
  strayed := by simp

namespace Constructed

/-- What was completed or strayed before stays so. -/
private theorem recorded (known : log.Completed stream ∨ log.Strayed stream) (event : Event) :
    Log.Completed (log ++ [event]) stream ∨ Log.Strayed (log ++ [event]) stream :=
  known.imp (fun completed => Log.completed_concat.mpr (.inl completed)) fun strayed => strayed.concat event

/-- What is no close of an open stream completes nothing. -/
private theorem completed_iff_of_idle
    (idle : ∀ closer succeeded, event = .called closer .close succeeded → log.Closed closer) :
    Log.Completed (log ++ [event]) stream ↔ log.Completed stream := by
  rw [Log.completed_concat, or_iff_left]
  rintro ⟨closer, succeeded, location, same, -, isOpen, -⟩
  exact isOpen (idle closer succeeded same)

/-- A file that no call touches is what it was, wherever it is now. -/
private theorem uncalled (constructed : Constructed log scene) (step : Step scene [event] after)
    (notCalled : ∀ caller call succeeded, event ≠ .called caller call succeeded)
    (old : ∀ {stream place}, Log.home (log ++ [event]) stream = some place →
      (∃ before, log.home stream = some before) ∨
        (after.files place = some ⟨[], true⟩ ∧ scene.writers stream = none))
    (writers : ∀ {stream writer}, after.writers stream = some writer → writer.closed = true →
      scene.writers stream = some writer) :
    Constructed (log ++ [event]) after where
  registered := constructed.registered.step step
  housed := constructed.housed.step step
  leased := by
    intro stream place view atHome found
    rw [completed_iff_of_idle fun closer succeeded same => absurd same (notCalled closer .close succeeded)]
    rcases old atHome with ⟨before, atBefore⟩ | ⟨new, unknown⟩
    · have kept := constructed.housed.kept step (fun caller call succeeded same =>
        notCalled caller call succeeded (List.singleton_inj.mp same)) atBefore atHome
      exact constructed.leased atBefore (kept ▸ found)
    · obtain rfl : view = ⟨[], true⟩ := Option.some.inj (found.symm.trans new)
      refine iff_of_true rfl fun completed => ?_
      obtain ⟨location, member⟩ := Log.created_of_completed completed
      obtain ⟨writer, known, -⟩ := constructed.registered.entered member
      rw [unknown] at known
      contradiction
  strayed := by
    intro stream writer place found isClosed atHome
    have known := writers found isClosed
    rcases old atHome with ⟨before, atBefore⟩ | ⟨-, unknown⟩
    · exact recorded (constructed.strayed known isClosed atBefore) event
    · rw [unknown] at known
      contradiction

/-- A call of an open writer completes the file at the writer's place, if it is a close. -/
private theorem completes_called_iff (constructed : Constructed log scene) {writer : ClusterWriter}
    (found : scene.writers stream = some writer) (isOpen : writer.closed = false) {call : WriterCall}
    {succeeded : Bool} {owner : Nat} :
    Log.Completes log owner (.called stream call succeeded) ↔
      call.isClose = true ∧ log.home owner = some writer.location := by
  constructor
  · rintro ⟨closer, outcome, location, same, born, -, atHome⟩
    obtain ⟨rfl, rfl, -⟩ := Event.called.inj same
    obtain ⟨known, present, rfl⟩ := constructed.registered.entered born
    obtain rfl : writer = known := Option.some.inj (found.symm.trans present)
    exact ⟨rfl, atHome⟩
  · rintro ⟨isClose, atHome⟩
    have notClosed : ¬Log.Closed log stream := by
      rw [← constructed.registered.closed found, isOpen]
      exact Bool.false_ne_true
    cases call with
    | write | flush => contradiction
    | close => exact ⟨stream, succeeded, _, rfl, constructed.registered.born found, notClosed, atHome⟩

/-- An open writer that is closed completes its own file, unless that has strayed. -/
private theorem strayed_called (constructed : Constructed log scene) {writer later : ClusterWriter}
    {call : WriterCall} {succeeded : Bool} (found : scene.writers stream = some writer)
    (isOpen : writer.closed = false) (closing : later.closed = call.isClose) {other : Nat} {known : ClusterWriter}
    (present : update scene.writers stream (some later) other = some known) (isClosed : known.closed = true)
    (atHome : log.home other = some place) :
    Log.Completed (log ++ [Event.called stream call succeeded]) other ∨
      Log.Strayed (log ++ [Event.called stream call succeeded]) other := by
  rcases update_eq_some_iff.mp present with ⟨rfl, rfl⟩ | ⟨-, present⟩
  · rw [isClosed] at closing
    by_cases inPlace : place = writer.location
    · exact .inl (Log.completed_concat.mpr (.inr
        ((constructed.completes_called_iff found isOpen).mpr ⟨closing.symm, inPlace ▸ atHome⟩)))
    · have notClosed : ¬Log.Closed log other := by
        rw [← constructed.registered.closed found, isOpen]
        exact Bool.false_ne_true
      cases call with
      | write | flush => contradiction
      | close =>
        exact .inr ⟨log, succeeded, [], writer.location, place, rfl, constructed.registered.born found,
          notClosed, atHome, inPlace⟩
  · exact recorded (constructed.strayed present isClosed atHome) _

/-- Where nothing is under construction a call changes nothing, and a close completes nothing more. -/
private theorem idle (constructed : Constructed log scene) {writer later : ClusterWriter} {call : WriterCall}
    {succeeded : Bool} (found : scene.writers stream = some writer) (isOpen : writer.closed = false)
    (notLeased : ∀ bytes, scene.files writer.location ≠ some ⟨bytes, true⟩)
    (closing : later.closed = call.isClose)
    (step : Step scene [.called stream call succeeded] ⟨scene.files, update scene.writers stream (some later)⟩) :
    Constructed (log ++ [Event.called stream call succeeded])
      ⟨scene.files, update scene.writers stream (some later)⟩ where
  registered := constructed.registered.step step
  housed := constructed.housed.step step
  leased := by
    intro owner place view atHome present
    rw [Log.home_concat] at atHome
    rw [Log.completed_concat, constructed.completes_called_iff found isOpen, constructed.leased atHome present]
    refine not_congr (or_iff_left_of_imp ?_).symm
    rintro ⟨-, atWriter⟩
    obtain rfl : place = writer.location := Option.some.inj (atHome.symm.trans atWriter)
    by_contra notCompleted
    have isLeased := (constructed.leased atHome present).mpr notCompleted
    exact notLeased view.bytes (isLeased ▸ present)
  strayed := by
    intro other known place present isClosed atHome
    rw [Log.home_concat] at atHome
    exact constructed.strayed_called found isOpen closing present isClosed atHome

theorem step (constructed : Constructed log scene) (step : Step scene events after) :
    Constructed (log ++ events) after := by
  have registered := constructed.registered.step step
  have housed := constructed.housed.step step
  cases step with
  | still => rwa [List.append_nil]
  | @created location stream free new bufferSize =>
    refine constructed.uncalled (.created free new bufferSize) (by simp) (fun {other place} atHome => ?_)
      fun {other writer} present isClosed => ?_
    · rw [Log.home_concat, Event.relocate] at atHome
      split at atHome
      · next same =>
        obtain rfl : location = place := Option.some.inj atHome
        exact .inr ⟨Function.update_self .., same ▸ new⟩
      · exact .inl ⟨place, (Option.filter_eq_some_iff.mp atHome).1⟩
    · rcases update_eq_some_iff.mp present with ⟨-, rfl⟩ | ⟨-, known⟩
      · contradiction
      · exact known
  | deleted location =>
    refine constructed.uncalled (.deleted scene location) (by simp) (fun {other place} atHome => ?_)
      fun present _ => present
    rw [Log.home_concat, Event.relocate] at atHome
    exact .inl ⟨place, (Option.filter_eq_some_iff.mp atHome).1⟩
  | @renamed target source free =>
    refine constructed.uncalled (.renamed source free) (by simp) (fun {other place} atHome => ?_)
      fun present _ => present
    rw [Log.home_concat, Event.relocate] at atHome
    obtain ⟨before, atBefore, -⟩ := Option.map_eq_some_iff.mp atHome
    exact .inl ⟨before, atBefore⟩
  | @late stream writer found isClosed call =>
    refine ⟨registered, housed, fun {other place view} atHome present => ?_,
      fun {other known place} present closed atHome => ?_⟩
    · rw [Log.home_concat] at atHome
      rw [completed_iff_of_idle, constructed.leased atHome present]
      intro closer succeeded same
      obtain ⟨rfl, -, -⟩ := Event.called.inj same
      exact (constructed.registered.closed found).mp isClosed
    · rw [Log.home_concat] at atHome
      exact recorded (constructed.strayed present closed atHome) _
  | @continued stream writer bytes found isOpen leased call =>
    refine ⟨registered, housed, fun {other place view} atHome present => ?_,
      fun {other known place} present isClosed atHome =>
        constructed.strayed_called found isOpen rfl present isClosed (Log.home_concat ▸ atHome)⟩
    rw [Log.home_concat] at atHome
    rw [Log.completed_concat, constructed.completes_called_iff found isOpen]
    by_cases same : place = writer.location
    · subst same
      have notCompleted := (constructed.leased atHome leased).mp rfl
      have isHome : log.home other = some writer.location := atHome
      obtain rfl := Option.some.inj (present.symm.trans (Function.update_self ..))
      simp [notCompleted, isHome]
    · have kept : scene.files place = some view := by
        rw [← present]
        exact (Function.update_of_ne same ..).symm
      have away : log.home other ≠ some writer.location := fun there =>
        same (Option.some.inj (atHome.symm.trans there))
      rw [constructed.leased atHome kept, or_iff_left fun completes => away completes.2]
  | withheld found isOpen notLeased call empty =>
    exact constructed.idle found isOpen notLeased rfl (.withheld found isOpen notLeased call empty)
  | lost found isOpen notLeased call nonempty =>
    exact constructed.idle found isOpen notLeased rfl (.lost found isOpen notLeased call nonempty)

theorem steps (constructed : Constructed log scene) (steps : Steps scene later after) :
    Constructed (log ++ later) after := by
  induction steps generalizing log with
  | refl => rwa [List.append_nil]
  | head step rest ih =>
    rw [← List.append_assoc]
    exact ih (constructed.step step)

end Constructed

end Scene

end FileGateway
