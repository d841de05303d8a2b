import FileGateway.Proofs.Cluster.Scene

/-! # Writers that nobody disturbs

As long as no file is taken away under its open writer, every open writer has the file that its own
create installed, at the place where that put it, under construction: no other create is let in, and
no other writer is at work there. So all that a writer accepted is in its file or pending, and in its
file alone once the writer is closed.
-/

namespace FileGateway.Scene

open Function (update)

variable {log : Log} {scene after : Scene} {event : Event} {events : List Event} {stream : Nat}
  {place : Location} {writer : ClusterWriter}

theorem update_eq_some_iff {writers : Nat → Option ClusterWriter} {other : Nat}
    {new known : ClusterWriter} : update writers stream (some new) other = some known ↔
      (other = stream ∧ known = new) ∨ (stream ≠ other ∧ writers other = some known) := by
  by_cases same : other = stream
  · simp [same, eq_comm]
  · simp [same, Ne.symm same]

/-! ## What the log knows of writers -/

/-- The log knows of every writer where it was created and whether it was closed. -/
structure Registered (log : Log) (scene : Scene) : Prop where
  born : ∀ {stream writer}, scene.writers stream = some writer →
    .created writer.location stream ∈ log
  entered : ∀ {stream location}, .created location stream ∈ log →
    ∃ writer, scene.writers stream = some writer ∧ writer.location = location
  closed : ∀ {stream writer}, scene.writers stream = some writer →
    (writer.closed = true ↔ Log.Closed log stream)
  unborn : ∀ {stream}, scene.writers stream = none →
    log.accepted stream = [] ∧ ¬Log.Closed log stream

theorem Registered.initial : Registered [] ⟨fun _ => none, fun _ => none⟩ := by
  constructor <;> simp [Log.accepted, Log.Closed]

private theorem Registered.vacated (registered : Registered log scene) {location : Location}
    (vacated : event.vacated? = some location) (files : Location → Option FileView) :
    Registered (log ++ [event]) ⟨files, scene.writers⟩ := by
  cases event with
  | created | called => simp [Event.vacated?] at vacated
  | deleted | renamed =>
    constructor
    · exact fun found => List.mem_append_left _ (registered.born found)
    · exact fun member => registered.entered (by simpa using member)
    · intro stream writer found
      rw [registered.closed found, Log.closed_concat]
      simp
    · intro stream unknown
      simpa [Log.closed_concat, Event.accepted] using registered.unborn unknown

private theorem Registered.created (registered : Registered log scene)
    (new : scene.writers stream = none) (writer : ClusterWriter) (isOpen : writer.closed = false)
    (files : Location → Option FileView) :
    Registered (log ++ [Event.created writer.location stream])
      ⟨files, update scene.writers stream (some writer)⟩ := by
  constructor
  · intro other known found
    rcases update_eq_some_iff.mp found with ⟨rfl, rfl⟩ | ⟨-, found⟩
    · simp
    · exact List.mem_append_left _ (registered.born found)
  · intro other location member
    rw [List.mem_append, List.mem_singleton] at member
    rcases member with member | equal
    · obtain ⟨known, found, atPlace⟩ := registered.entered member
      refine ⟨known, update_eq_some_iff.mpr (.inr ⟨?_, found⟩), atPlace⟩
      rintro rfl
      rw [new] at found
      contradiction
    · obtain ⟨rfl, rfl⟩ := Event.created.inj equal
      exact ⟨writer, Function.update_self .., rfl⟩
  · intro other known found
    rw [Log.closed_concat]
    rcases update_eq_some_iff.mp found with ⟨rfl, rfl⟩ | ⟨-, found⟩
    · simp [isOpen, (registered.unborn new).2]
    · simp [registered.closed found]
  · intro other unknown
    have different : other ≠ stream := by
      rintro rfl
      simp at unknown
    have unknown : scene.writers other = none := by
      rw [← unknown]
      exact (Function.update_of_ne different ..).symm
    simpa [Log.closed_concat, Event.accepted] using registered.unborn unknown

private theorem Registered.called (registered : Registered log scene) {call : WriterCall}
    (found : scene.writers stream = some writer) (later : ClusterWriter)
    (sameLocation : later.location = writer.location)
    (closing : later.closed = (writer.closed || call.isClose)) (succeeded : Bool)
    (files : Location → Option FileView) :
    Registered (log ++ [Event.called stream call succeeded])
      ⟨files, update scene.writers stream (some later)⟩ := by
  constructor
  · intro other known present
    rcases update_eq_some_iff.mp present with ⟨rfl, rfl⟩ | ⟨-, present⟩
    · exact List.mem_append_left _ (sameLocation ▸ registered.born found)
    · exact List.mem_append_left _ (registered.born present)
  · intro other location member
    obtain ⟨known, present, atPlace⟩ := registered.entered (by simpa using member)
    by_cases equal : other = stream
    · subst equal
      obtain rfl : writer = known := Option.some.inj (found.symm.trans present)
      exact ⟨later, Function.update_self .., sameLocation.trans atPlace⟩
    · exact ⟨known, update_eq_some_iff.mpr (.inr ⟨Ne.symm equal, present⟩), atPlace⟩
  · intro other known present
    rw [Log.closed_concat]
    rcases update_eq_some_iff.mp present with ⟨rfl, rfl⟩ | ⟨different, present⟩
    · rw [closing, Bool.or_eq_true, registered.closed found]
      cases call <;> simp [WriterCall.isClose]
    · simp [registered.closed present, different]
  · intro other unknown
    have different : other ≠ stream := by
      rintro rfl
      simp at unknown
    have unknown : scene.writers other = none := by
      rw [← unknown]
      exact (Function.update_of_ne different ..).symm
    cases succeeded <;>
      simpa [Log.closed_concat, Event.accepted, Ne.symm different] using registered.unborn unknown

theorem Registered.step (registered : Registered log scene) (step : Step scene events after) :
    Registered (log ++ events) after := by
  cases step with
  | still => rwa [List.append_nil]
  | created _ new bufferSize => exact registered.created new ⟨_, [], bufferSize, 0, false⟩ rfl _
  | deleted => exact registered.vacated rfl _
  | renamed => exact registered.vacated rfl _
  | @late _ writer found isClosed call =>
    have called := registered.called found writer rfl (show _ = (_ || call.isClose) by simp [isClosed])
      call.isClose scene.files
    rwa [← found, Function.update_eq_self] at called
  | @continued _ writer _ found isOpen _ call =>
    exact registered.called found (writer.advance call) rfl (by rw [isOpen]; rfl) _ _
  | @withheld _ writer found isOpen _ call =>
    exact registered.called found (writer.advance call) rfl (by rw [isOpen]; rfl) _ _
  | @lost _ writer found isOpen _ call =>
    exact registered.called found { writer with closed := call.isClose } rfl (by rw [isOpen]; rfl) _ _

/-! ## What holds while nothing is taken away -/

/-- Every writer's file, wherever it is, holds with the pending bytes what the writer accepted, and
an open writer's file is where it was created. -/
structure Intact (log : Log) (scene : Scene) : Prop where
  registered : Registered log scene
  housed : Housed log scene
  inPlace : ∀ {stream writer}, scene.writers stream = some writer → writer.closed = false →
    log.home stream = some writer.location
  held : ∀ {stream writer place}, scene.writers stream = some writer → log.home stream = some place →
    ∃ bytes, scene.files place = some ⟨bytes, !writer.closed⟩ ∧
      bytes ++ writer.pending = log.accepted stream ∧ (writer.closed = true → writer.pending = [])
  counted : ∀ {stream writer}, scene.writers stream = some writer →
    writer.position = (log.accepted stream).length
  answered : ∀ {stream succeeded}, .called stream .close succeeded ∈ log → succeeded = true
  /-- A closed file stays where it is until something touches it. -/
  finished : ∀ {before after stream succeeded place},
    log = before ++ .called stream .close succeeded :: after → .created place stream ∈ before →
      ¬Log.Closed before stream → (∀ event ∈ after, ¬event.Touches place) → log.home stream = some place

theorem Intact.initial : Intact [] ⟨fun _ => none, fun _ => none⟩ where
  registered := .initial
  housed := .initial
  inPlace := by simp
  held := by simp
  counted := by simp
  answered := by simp
  finished := by simp

namespace Intact

/-- An open writer has its file under construction. -/
theorem leased (intact : Intact log scene) (found : scene.writers stream = some writer)
    (isOpen : writer.closed = false) :
    ∃ bytes, scene.files writer.location = some ⟨bytes, true⟩ ∧
      bytes ++ writer.pending = log.accepted stream := by
  obtain ⟨bytes, file, content, -⟩ := intact.held found (intact.inPlace found isOpen)
  exact ⟨bytes, by rw [file, isOpen, Bool.not_false], content⟩

private theorem relocate_untouched (untouched : ¬event.Touches place)
    (notAgain : ∀ location, event ≠ .created location stream) :
    event.relocate stream (some place) = some place := by
  cases event with
  | called => rfl
  | created location other =>
    have different : other ≠ stream := fun same => notAgain location (same ▸ rfl)
    have apart : place ≠ location := fun same => untouched (.inl ⟨other, same ▸ rfl⟩)
    simp [Event.relocate, different, apart]
  | deleted location =>
    have outside : ¬location <+: place := fun within => untouched (.inr ⟨location, rfl, within⟩)
    simp [Event.relocate, Location.isWithin_iff.not.mpr outside]
  | renamed source target =>
    have outside : ¬source <+: place := fun within => untouched (.inr ⟨source, rfl, within⟩)
    simp [Event.relocate, Location.isWithin_iff.not.mpr outside]

/-- What is said of closed files survives an event, if no create gives a number again. -/
private theorem finished_concat (intact : Intact log scene)
    (fresh : ∀ location other, event = .created location other → scene.writers other = none)
    {before after : Log} {succeeded : Bool}
    (same : log ++ [event] = before ++ Event.called stream .close succeeded :: after)
    (created : .created place stream ∈ before) (isOpen : ¬Log.Closed before stream)
    (untouched : ∀ event ∈ after, ¬event.Touches place) :
    Log.home (log ++ [event]) stream = some place := by
  rw [Log.home_concat]
  rcases List.eq_nil_or_concat after with rfl | ⟨initial, last, rfl⟩
  · obtain ⟨rfl, rfl⟩ : log = before ∧ event = .called stream .close succeeded := by simpa using same
    obtain ⟨writer, found, rfl⟩ := intact.registered.entered created
    rw [← intact.registered.closed found, Bool.not_eq_true] at isOpen
    rw [Event.relocate, intact.inPlace found isOpen]
  · rw [List.concat_eq_append, ← List.cons_append, ← List.append_assoc] at same
    obtain ⟨earlier, rfl⟩ : log = before ++ Event.called stream .close succeeded :: initial ∧ event = last := by
      simpa using List.append_inj' same rfl
    rw [intact.finished earlier created isOpen fun event member => untouched event (by simp [member])]
    apply relocate_untouched (untouched event (by simp))
    intro location equal
    obtain ⟨writer, found, -⟩ := intact.registered.entered (earlier ▸ List.mem_append_left _ created)
    rw [fresh location stream equal] at found
    contradiction

private theorem vacated (intact : Intact log scene) (step : Step scene [event] after)
    {location : Location} (vacated : event.vacated? = some location)
    (undisturbed : Log.Undisturbed (log ++ [event])) (sameWriters : after.writers = scene.writers) :
    Intact (log ++ [event]) after := by
  have uncalled caller call succeeded : event ≠ .called caller call succeeded := by
    rintro rfl
    simp [Event.vacated?] at vacated
  have uncreated place other : event ≠ .created place other := by
    rintro rfl
    simp [Event.vacated?] at vacated
  have accepted (other : Nat) : Log.accepted (log ++ [event]) other = log.accepted other := by
    cases event with
    | called | created => simp [Event.vacated?] at vacated
    | deleted | renamed => simp [Event.accepted]
  refine ⟨intact.registered.step step, intact.housed.step step, ?_, ?_, ?_, ?_, ?_⟩
  · intro other writer found isOpen
    rw [sameWriters] at found
    have outside : ¬location <+: writer.location := by
      intro within
      have closed := undisturbed log event [] rfl location vacated writer.location other
        (intact.registered.born found) within
      rw [← intact.registered.closed found, isOpen] at closed
      contradiction
    rw [Log.home_concat, intact.inPlace found isOpen]
    refine relocate_untouched ?_ fun place => uncreated place other
    rintro (⟨stream, rfl⟩ | ⟨above, same, within⟩)
    · exact uncreated _ _ rfl
    · obtain rfl : location = above := Option.some.inj (vacated.symm.trans same)
      exact outside within
  · intro other writer place found atPlace
    rw [sameWriters] at found
    obtain ⟨old, before⟩ : ∃ old, log.home other = some old := by
      rw [Log.home_concat] at atPlace
      cases before : log.home other with
      | some old => exact ⟨old, rfl⟩
      | none =>
        rw [before] at atPlace
        cases event with
        | called | created => simp [Event.vacated?] at vacated
        | deleted | renamed => simp [Event.relocate] at atPlace
    have kept := intact.housed.kept step (fun caller call succeeded => by simp [uncalled]) before atPlace
    rw [kept, accepted]
    exact intact.held found before
  · intro other writer found
    rw [accepted]
    exact intact.counted (sameWriters ▸ found)
  · intro other succeeded member
    rw [List.mem_append, List.mem_singleton] at member
    exact intact.answered (member.resolve_right fun same => uncalled _ _ _ same.symm)
  · exact intact.finished_concat fun place other same => absurd same (uncreated place other)

private theorem created (intact : Intact log scene) {location : Location}
    (free : ∀ bytes, scene.files location ≠ some ⟨bytes, true⟩) (new : scene.writers stream = none)
    (bufferSize : UInt64) :
    Intact (log ++ [Event.created location stream])
      ⟨update scene.files location (some ⟨[], true⟩),
        update scene.writers stream (some ⟨location, [], bufferSize, 0, false⟩)⟩ := by
  have step := Step.created free new bufferSize
  have accepted (other : Nat) : Log.accepted (log ++ [Event.created location stream]) other =
      log.accepted other := by simp [Event.accepted]
  have nothing := (intact.registered.unborn new).1
  refine ⟨intact.registered.step step, intact.housed.step step, ?_, ?_, ?_, ?_, ?_⟩
  · intro other writer found isOpen
    rw [Log.home_concat, Event.relocate]
    rcases update_eq_some_iff.mp found with ⟨rfl, rfl⟩ | ⟨different, found⟩
    · exact if_pos rfl
    · obtain ⟨bytes, file, -⟩ := intact.leased found isOpen
      have apart : writer.location ≠ location := fun same => free bytes (same ▸ file)
      simp [different, intact.inPlace found isOpen, apart]
  · intro other writer place found atPlace
    rw [Log.home_concat, Event.relocate] at atPlace
    rcases update_eq_some_iff.mp found with ⟨rfl, rfl⟩ | ⟨different, found⟩
    · rw [if_pos rfl] at atPlace
      obtain rfl : location = place := Option.some.inj atPlace
      exact ⟨[], Function.update_self .., by rw [accepted, nothing, List.append_nil], fun _ => rfl⟩
    · rw [if_neg different, Option.filter_eq_some_iff] at atPlace
      obtain ⟨bytes, file, content⟩ := intact.held found atPlace.1
      refine ⟨bytes, ?_, by rwa [accepted]⟩
      rw [← file]
      exact Function.update_of_ne (of_decide_eq_true atPlace.2) ..
  · intro other writer found
    rw [accepted]
    rcases update_eq_some_iff.mp found with ⟨rfl, rfl⟩ | ⟨-, found⟩
    · rw [nothing, List.length_nil]
    · exact intact.counted found
  · intro other succeeded member
    exact intact.answered (by simpa using member)
  · refine intact.finished_concat fun place other same => ?_
    rw [← (Event.created.inj same).2, new]

private theorem late (intact : Intact log scene) (found : scene.writers stream = some writer)
    (isClosed : writer.closed = true) (call : WriterCall) :
    Intact (log ++ [Event.called stream call call.isClose]) scene := by
  have step := Step.late found isClosed call
  have accepted (other : Nat) : Log.accepted (log ++ [Event.called stream call call.isClose]) other =
      log.accepted other := by
    cases call <;> simp [Event.accepted, WriterCall.isClose, WriterCall.data]
  refine ⟨intact.registered.step step, intact.housed.step step, ?_, ?_, ?_, ?_, ?_⟩
  · intro other writer found isOpen
    rw [Log.home_concat]
    exact intact.inPlace found isOpen
  · intro other writer place found atPlace
    rw [Log.home_concat] at atPlace
    rw [accepted]
    exact intact.held found atPlace
  · intro other writer found
    rw [accepted]
    exact intact.counted found
  · intro other succeeded member
    rw [List.mem_append, List.mem_singleton] at member
    rcases member with member | same
    · exact intact.answered member
    · obtain ⟨-, rfl, rfl⟩ := Event.called.inj same
      rfl
  · exact intact.finished_concat fun place other same => by simp at same

private theorem continued (intact : Intact log scene) (found : scene.writers stream = some writer)
    (isOpen : writer.closed = false) {bytes : Bytes}
    (leased : scene.files writer.location = some ⟨bytes, true⟩) (call : WriterCall) :
    Intact (log ++ [Event.called stream call true])
      ⟨update scene.files writer.location (some ⟨bytes ++ writer.handed call, !call.isClose⟩),
        update scene.writers stream (some (writer.advance call))⟩ := by
  have step := Step.continued found isOpen leased call
  have accepted (other : Nat) : Log.accepted (log ++ [Event.called stream call true]) other =
      log.accepted other ++ if stream = other then call.data else [] := by
    rw [Log.accepted_concat, Event.accepted]
  have home (other : Nat) : Log.home (log ++ [Event.called stream call true]) other = log.home other :=
    Log.home_concat
  have atHome := intact.inPlace found isOpen
  refine ⟨intact.registered.step step, intact.housed.step step, ?_, ?_, ?_, ?_, ?_⟩
  · intro other later present stillOpen
    rw [home]
    rcases update_eq_some_iff.mp present with ⟨rfl, rfl⟩ | ⟨-, present⟩
    · exact atHome
    · exact intact.inPlace present stillOpen
  · intro other later place present atPlace
    rw [home] at atPlace
    rw [accepted]
    rcases update_eq_some_iff.mp present with ⟨rfl, rfl⟩ | ⟨different, present⟩
    · obtain rfl : writer.location = place := Option.some.inj (atHome.symm.trans atPlace)
      obtain ⟨old, file, content⟩ := intact.leased found isOpen
      obtain rfl : old = bytes := by simpa [leased] using file.symm
      refine ⟨old ++ writer.handed call, Function.update_self .., ?_, fun isClose => ?_⟩
      · rw [if_pos rfl, List.append_assoc, writer.handed_append_pending, ← List.append_assoc, content]
      · cases call <;>
          simp_all [ClusterWriter.advance, WriterCall.isClose, WriterCall.data, ClusterWriter.handed]
    · have apart : place ≠ writer.location := by
        rintro rfl
        exact different (intact.housed.alone atHome atPlace)
      rw [if_neg different, List.append_nil]
      obtain ⟨old, file, content⟩ := intact.held present atPlace
      exact ⟨old, by rw [← file]; exact Function.update_of_ne apart .., content⟩
  · intro other later present
    rw [accepted, List.length_append]
    rcases update_eq_some_iff.mp present with ⟨rfl, rfl⟩ | ⟨different, present⟩
    · rw [if_pos rfl, ← intact.counted found]
      rfl
    · rw [if_neg different, List.length_nil]
      exact intact.counted present
  · intro other succeeded member
    rw [List.mem_append, List.mem_singleton] at member
    rcases member with member | same
    · exact intact.answered member
    · exact (Event.called.inj same).2.2
  · exact intact.finished_concat fun place other same => by simp at same

/-- Every step that takes no file away from an open writer keeps all writers intact. -/
theorem step (intact : Intact log scene) (step : Step scene events after)
    (undisturbed : Log.Undisturbed (log ++ events)) : Intact (log ++ events) after := by
  cases step with
  | still => rwa [List.append_nil]
  | created free new bufferSize => exact intact.created free new bufferSize
  | deleted location => exact intact.vacated (.deleted scene location) rfl undisturbed rfl
  | renamed source free => exact intact.vacated (.renamed source free) rfl undisturbed rfl
  | late found isClosed call => exact intact.late found isClosed call
  | continued found isOpen leased call => exact intact.continued found isOpen leased call
  | withheld found isOpen notLeased | lost found isOpen notLeased =>
    obtain ⟨bytes, file, -⟩ := intact.leased found isOpen
    exact absurd file (notLeased bytes)

theorem steps {later : Log} (intact : Intact log scene) (steps : Steps scene later after)
    (undisturbed : Log.Undisturbed (log ++ later)) : Intact (log ++ later) after := by
  induction steps generalizing log with
  | refl => rwa [List.append_nil]
  | head step rest ih =>
    rw [← List.append_assoc] at undisturbed ⊢
    exact ih (intact.step step undisturbed.of_append) undisturbed

end Intact

end FileGateway.Scene
