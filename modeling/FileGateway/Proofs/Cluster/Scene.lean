import FileGateway.Proofs.Cluster.History

/-! # Files and their writers

A scene is what is left of a cluster when all but its files and writers is forgotten. `Step` lists
all that one request can do to it, together with what it adds to the log.

Every file of a scene was installed by one create and every create has at most one file, whatever is
moved, removed and put in its place. The log says which file is whose: this is `Housed`, which every
step keeps.
-/

namespace FileGateway

open Function (update)

structure Scene where
  files : Location → Option FileView
  writers : Nat → Option ClusterWriter

namespace Scene

inductive Step : Scene → List Event → Scene → Prop
  | still (scene : Scene) : Step scene [] scene
  | created {scene : Scene} {location : Location} {stream : Nat}
      (free : ∀ bytes, scene.files location ≠ some ⟨bytes, true⟩)
      (new : scene.writers stream = none) (bufferSize : UInt64) :
      Step scene [.created location stream]
        ⟨update scene.files location (some ⟨[], true⟩),
          update scene.writers stream (some ⟨location, [], bufferSize, 0, false⟩)⟩
  | deleted (scene : Scene) (location : Location) :
      Step scene [.deleted location]
        ⟨fun place => if location <+: place then none else scene.files place, scene.writers⟩
  | renamed {scene : Scene} {target : Location} (source : Location)
      (free : ∀ place, target <+: place → scene.files place = none) :
      Step scene [.renamed source target]
        ⟨fun place =>
          if target <+: place then scene.files (source ++ place.drop target.length)
          else if source <+: place then none
          else scene.files place, scene.writers⟩
  /-- A closed writer only tells that it is closed. -/
  | late {scene : Scene} {stream : Nat} {writer : ClusterWriter}
      (found : scene.writers stream = some writer) (isClosed : writer.closed = true)
      (call : WriterCall) : Step scene [.called stream call call.isClose] scene
  /-- A file under construction at the place of a writer goes on, whosever it is. -/
  | continued {scene : Scene} {stream : Nat} {writer : ClusterWriter} {bytes : Bytes}
      (found : scene.writers stream = some writer) (isOpen : writer.closed = false)
      (leased : scene.files writer.location = some ⟨bytes, true⟩) (call : WriterCall) :
      Step scene [.called stream call true]
        ⟨update scene.files writer.location (some ⟨bytes ++ writer.handed call, !call.isClose⟩),
          update scene.writers stream (some (writer.advance call))⟩
  /-- Without one, a call succeeds only if it has nothing to hand over. -/
  | withheld {scene : Scene} {stream : Nat} {writer : ClusterWriter}
      (found : scene.writers stream = some writer) (isOpen : writer.closed = false)
      (notLeased : ∀ bytes, scene.files writer.location ≠ some ⟨bytes, true⟩) (call : WriterCall)
      (empty : writer.handed call = []) :
      Step scene [.called stream call true]
        ⟨scene.files, update scene.writers stream (some (writer.advance call))⟩
  | lost {scene : Scene} {stream : Nat} {writer : ClusterWriter}
      (found : scene.writers stream = some writer) (isOpen : writer.closed = false)
      (notLeased : ∀ bytes, scene.files writer.location ≠ some ⟨bytes, true⟩) (call : WriterCall)
      (nonempty : writer.handed call ≠ []) :
      Step scene [.called stream call false]
        ⟨scene.files, update scene.writers stream (some { writer with closed := call.isClose })⟩

/-- Any number of steps, with the log they leave. -/
inductive Steps : Scene → Log → Scene → Prop
  | refl (scene : Scene) : Steps scene [] scene
  | head {scene middle after : Scene} {events : List Event} {log : Log}
      (step : Step scene events middle) (rest : Steps middle log after) :
      Steps scene (events ++ log) after

variable {log later : Log} {scene after : Scene} {events : List Event} {stream other : Nat}
  {place moved : Location}

/-- Writers are never forgotten. -/
theorem Step.writer (step : Step scene events after) {writer : ClusterWriter}
    (found : scene.writers stream = some writer) : ∃ later, after.writers stream = some later := by
  have updated (other : Nat) (new : ClusterWriter) :
      ∃ later, update scene.writers other (some new) stream = some later := by
    by_cases same : stream = other
    · exact ⟨new, by rw [same, Function.update_self]⟩
    · exact ⟨writer, by rw [Function.update_of_ne same, found]⟩
  cases step with
  | still | deleted | renamed | late => exact ⟨writer, found⟩
  | created | continued | withheld | lost => exact updated _ _

/-! ## Whose file a file is -/

/-- Every file is the one that some create installed, and no other file is. -/
structure Housed (log : Log) (scene : Scene) : Prop where
  present : ∀ {stream place}, log.home stream = some place → ∃ view, scene.files place = some view
  owned : ∀ {place view}, scene.files place = some view → ∃ stream, log.home stream = some place
  alone : ∀ {first second place}, log.home first = some place → log.home second = some place →
    first = second
  known : ∀ {stream place}, log.home stream = some place → ∃ writer, scene.writers stream = some writer

theorem Housed.initial : Housed [] ⟨fun _ => none, fun _ => none⟩ := by
  constructor <;> simp [Log.home]

/-- A step that moves no file keeps all of them housed. -/
private theorem Housed.of_unmoved (housed : Housed log scene)
    (unmoved : ∀ stream, (log ++ events).home stream = log.home stream)
    (files : ∀ place, (after.files place).isSome = (scene.files place).isSome)
    (writers : ∀ stream writer, scene.writers stream = some writer →
      ∃ later, after.writers stream = some later) :
    Housed (log ++ events) after where
  present found := by
    obtain ⟨view, present⟩ := housed.present (unmoved _ ▸ found)
    exact Option.isSome_iff_exists.mp (by rw [files, present, Option.isSome_some])
  owned found := by
    obtain ⟨view, present⟩ := Option.isSome_iff_exists.mp (files _ ▸ Option.isSome_of_eq_some found)
    simp only [unmoved]
    exact housed.owned present
  alone first second := housed.alone (unmoved _ ▸ first) (unmoved _ ▸ second)
  known found := by
    obtain ⟨writer, found⟩ := housed.known (unmoved _ ▸ found)
    exact writers _ writer found

private theorem Housed.created (housed : Housed log scene) {location : Location}
    (new : scene.writers stream = none) (writer : ClusterWriter) :
    Housed (log ++ [Event.created location stream])
      ⟨update scene.files location (some ⟨[], true⟩), update scene.writers stream (some writer)⟩ := by
  have home (other : Nat) : Log.home (log ++ [Event.created location stream]) other =
      if stream = other then some location else (log.home other).filter (· ≠ location) := by
    rw [Log.home_concat, Event.relocate]
  -- what is at home after the create is either the new file or was at home elsewhere before
  have cases {other place} (found : Log.home (log ++ [Event.created location stream]) other = some place) :
      (stream = other ∧ location = place) ∨
        (stream ≠ other ∧ location ≠ place ∧ log.home other = some place) := by
    rw [home] at found
    split at found
    · next same => exact .inl ⟨same, Option.some.inj found⟩
    · next different =>
      obtain ⟨found, apart⟩ := Option.filter_eq_some_iff.mp found
      exact .inr ⟨different, fun same => by simp [same] at apart, found⟩
  constructor
  · intro other place found
    rcases cases found with ⟨-, rfl⟩ | ⟨-, apart, found⟩
    · exact ⟨_, Function.update_self ..⟩
    · exact (housed.present found).imp fun view present => by
        rw [← present]
        exact Function.update_of_ne apart.symm ..
  · intro place view (found : update scene.files location _ place = _)
    by_cases same : place = location
    · exact ⟨stream, by rw [home, if_pos rfl, same]⟩
    · rw [Function.update_of_ne same] at found
      obtain ⟨other, found⟩ := housed.owned found
      refine ⟨other, ?_⟩
      have different : stream ≠ other := by
        rintro rfl
        obtain ⟨writer, known⟩ := housed.known found
        rw [new] at known
        contradiction
      rw [home, if_neg different, found]
      simp [same]
  · intro first second place one two
    rcases cases one with ⟨rfl, rfl⟩ | ⟨-, apart, one⟩
    · rcases cases two with ⟨same, -⟩ | ⟨-, apart, -⟩
      · exact same
      · exact absurd rfl apart
    · rcases cases two with ⟨-, same⟩ | ⟨-, -, two⟩
      · exact absurd same apart
      · exact housed.alone one two
  · intro other place found
    rcases cases found with ⟨rfl, -⟩ | ⟨different, -, found⟩
    · exact ⟨writer, Function.update_self ..⟩
    · exact (housed.known found).imp fun known same => by
        rw [← same]
        exact Function.update_of_ne different.symm ..

private theorem Housed.deleted (housed : Housed log scene) (location : Location) :
    Housed (log ++ [Event.deleted location])
      ⟨fun place => if location <+: place then none else scene.files place, scene.writers⟩ := by
  have home {other place} : Log.home (log ++ [Event.deleted location]) other = some place ↔
      log.home other = some place ∧ ¬location <+: place := by
    rw [Log.home_concat, Event.relocate, Option.filter_eq_some_iff, ← Location.isWithin_iff]
    simp
  constructor
  · intro other place found
    obtain ⟨found, outside⟩ := home.mp found
    exact (housed.present found).imp fun view present => by rw [← present]; exact if_neg outside
  · intro place view (found : (if location <+: place then none else scene.files place) = _)
    split at found
    · contradiction
    · next outside =>
      exact (housed.owned found).imp fun other found => home.mpr ⟨found, outside⟩
  · intro first second place one two
    exact housed.alone (home.mp one).1 (home.mp two).1
  · intro other place found
    exact housed.known (home.mp found).1

/-- After a renaming a file is either below the target and came from below the source, or it stayed, away
from both. -/
private theorem Housed.home_renamed (housed : Housed log scene) {target : Location} (source : Location)
    (free : ∀ place, target <+: place → scene.files place = none) {stream : Nat} {place : Location} :
    Log.home (log ++ [Event.renamed source target]) stream = some place ↔
      (∃ suffix, place = target ++ suffix ∧ log.home stream = some (source ++ suffix)) ∨
        (¬target <+: place ∧ ¬source <+: place ∧ log.home stream = some place) := by
  rw [Log.home_concat, Event.relocate, Option.map_eq_some_iff]
  constructor
  · rintro ⟨old, found, rfl⟩
    split
    · next within =>
      obtain ⟨suffix, rfl⟩ := Location.isWithin_iff.mp within
      exact .inl ⟨suffix, by rw [List.drop_left], found⟩
    · next outside =>
      refine .inr ⟨fun below => ?_, by rwa [← Location.isWithin_iff], found⟩
      obtain ⟨view, present⟩ := housed.present found
      rw [free old below] at present
      contradiction
  · rintro (⟨suffix, rfl, found⟩ | ⟨-, outside, found⟩)
    · exact ⟨_, found, by
        rw [if_pos (Location.isWithin_iff.mpr (List.prefix_append ..)), List.drop_left]⟩
    · exact ⟨place, found, by rw [if_neg (by rwa [Location.isWithin_iff])]⟩

private theorem Housed.renamed (housed : Housed log scene) {target : Location} (source : Location)
    (free : ∀ place, target <+: place → scene.files place = none) :
    Housed (log ++ [Event.renamed source target])
      ⟨fun place =>
        if target <+: place then scene.files (source ++ place.drop target.length)
        else if source <+: place then none
        else scene.files place, scene.writers⟩ := by
  have home := @Housed.home_renamed log scene housed target source free
  constructor
  · intro other place found
    rcases home.mp found with ⟨suffix, rfl, before⟩ | ⟨notMoved, outside, before⟩
    · simpa using housed.present before
    · simpa [notMoved, outside] using housed.present before
  · intro place view found
    simp only at found
    split at found
    · next below =>
      obtain ⟨suffix, rfl⟩ := below
      rw [List.drop_left] at found
      exact (housed.owned found).imp fun other found => home.mpr (.inl ⟨suffix, rfl, found⟩)
    · next notMoved =>
      split at found
      · contradiction
      · next outside =>
        exact (housed.owned found).imp fun other found => home.mpr (.inr ⟨notMoved, outside, found⟩)
  · intro first second place one two
    rcases home.mp one with ⟨suffix, rfl, oneBefore⟩ | ⟨notMoved, -, oneBefore⟩
    · rcases home.mp two with ⟨other, same, twoBefore⟩ | ⟨notMoved, -⟩
      · obtain rfl := List.append_cancel_left same
        exact housed.alone oneBefore twoBefore
      · exact absurd (List.prefix_append ..) notMoved
    · rcases home.mp two with ⟨suffix, rfl, -⟩ | ⟨-, -, twoBefore⟩
      · exact absurd (List.prefix_append ..) notMoved
      · exact housed.alone oneBefore twoBefore
  · intro other place found
    rcases home.mp found with ⟨suffix, -, found⟩ | ⟨-, -, found⟩ <;> exact housed.known found

/-- Every step keeps all files housed. -/
theorem Housed.step (housed : Housed log scene) (step : Step scene events after) :
    Housed (log ++ events) after := by
  have writers (stream : Nat) (writer : ClusterWriter) (found : scene.writers stream = some writer) :=
    step.writer found
  cases step with
  | still => rwa [List.append_nil]
  | created _ new => exact housed.created new _
  | deleted => exact housed.deleted _
  | renamed source free => exact housed.renamed source free
  | late | withheld | lost =>
    exact housed.of_unmoved (fun _ => Log.home_concat) (fun _ => rfl) writers
  | @continued stream writer bytes found isOpen leased call =>
    refine housed.of_unmoved (fun _ => Log.home_concat) (fun place => ?_) writers
    by_cases same : place = writer.location
    · simp [same, leased]
    · simp [same]

theorem Housed.steps (housed : Housed log scene) (steps : Steps scene later after) :
    Housed (log ++ later) after := by
  induction steps generalizing log with
  | refl => rwa [List.append_nil]
  | head step rest ih =>
    rw [← List.append_assoc]
    exact ih (housed.step step)

/-- But for calls on writers, a file that stays in the namespace stays as it is. -/
theorem Housed.kept (housed : Housed log scene) (step : Step scene events after)
    (uncalled : ∀ caller call succeeded, events ≠ [.called caller call succeeded])
    (before : log.home stream = some place) (later : Log.home (log ++ events) stream = some moved) :
    after.files moved = scene.files place := by
  cases step with
  | late | continued | withheld | lost => exact absurd rfl (uncalled _ _ _)
  | still =>
    rw [List.append_nil, before] at later
    rw [Option.some.inj later]
  | @created location other _ new _ =>
    have different : other ≠ stream := by
      rintro rfl
      obtain ⟨writer, known⟩ := housed.known before
      rw [new] at known
      contradiction
    rw [Log.home_concat, Event.relocate, if_neg different, before, Option.filter_eq_some_iff] at later
    obtain ⟨same, apart⟩ := later
    obtain rfl : place = moved := Option.some.inj same
    exact Function.update_of_ne (of_decide_eq_true apart) ..
  | deleted location =>
    rw [Log.home_concat, Event.relocate, before, Option.filter_eq_some_iff, ← Bool.not_eq_false'] at later
    obtain ⟨same, outside⟩ := later
    obtain rfl : place = moved := Option.some.inj same
    exact if_neg fun within => by simp [Location.isWithin_iff.mpr within] at outside
  | @renamed target source free =>
    rw [Log.home_concat, Event.relocate, before, Option.map_some, Option.some.injEq] at later
    split at later
    · next within =>
      obtain ⟨suffix, rfl⟩ := Location.isWithin_iff.mp within
      rw [List.drop_left] at later
      simp [← later]
    · next outside =>
      subst later
      have notMoved : ¬target <+: place := fun below => by
        obtain ⟨view, present⟩ := housed.present before
        rw [free place below] at present
        contradiction
      simp [notMoved, Location.isWithin_iff.not.mp outside]

/-- A file that no event touches stays where it is, and only goes on. -/
theorem Step.grows (step : Step scene events after) (untouched : ∀ event ∈ events, ¬event.Touches place)
    {view : FileView} (present : scene.files place = some view) :
    ∃ later, after.files place = some later ∧ view.bytes <+: later.bytes := by
  have stays (same : after.files place = scene.files place) :
      ∃ later, after.files place = some later ∧ view.bytes <+: later.bytes :=
    ⟨view, same.trans present, List.prefix_rfl⟩
  have vacated {event : Event} {above : Location} (only : events = [event]) (leaves : event.vacated? = some above) :
      ¬above <+: place := fun within =>
    untouched event (by simp [only]) (.inr ⟨above, leaves, within⟩)
  cases step with
  | still | late | withheld | lost => exact stays rfl
  | @created location stream =>
    refine stays (Function.update_of_ne ?_ ..)
    rintro rfl
    exact untouched _ (List.mem_singleton_self _) (.inl ⟨stream, rfl⟩)
  | deleted location => exact stays (if_neg (vacated rfl rfl))
  | @renamed target source free =>
    have notMoved : ¬target <+: place := fun below => by simp [free place below] at present
    exact stays (by simp [notMoved, vacated rfl rfl])
  | @continued stream writer bytes found isOpen leased call =>
    by_cases own : place = writer.location
    · subst own
      obtain rfl : view = ⟨bytes, true⟩ := Option.some.inj (present.symm.trans leased)
      exact ⟨_, Function.update_self .., List.prefix_append ..⟩
    · exact stays (Function.update_of_ne own ..)

end Scene

end FileGateway
