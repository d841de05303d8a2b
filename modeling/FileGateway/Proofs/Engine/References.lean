import FileGateway.Proofs.Engine.Effects
import FileGateway.Proofs.Storage.Kept

/-! # What each call on references does

A tidy engine is one whose tables and frames agree and whose objects exist. There every call on a reference
either succeeds with one known change or fails with an exception; what fails leaves the engine as it was, but
for a popped frame whose result finds no place.
-/

namespace FileGateway

variable {thread : Nat} {reference : Reference} {object : Object}

/-- The stream that an object stands for exists. -/
def Object.IsIn (object : Object) (storage : Storage) : Prop :=
  ∀ stream, object.stream? = some stream → stream < storage.streams.length

theorem Object.IsIn.kept {before after : Storage} (isIn : object.IsIn before) (kept : before.Kept after) :
    object.IsIn after := by
  intro stream same
  obtain ⟨channel, present, -⟩ := kept.streams (List.getElem?_eq_getElem (isIn stream same))
  exact (List.getElem?_eq_some_iff.mp present).1

theorem Storage.dropStream_ok {storage : Storage} {stream : Nat} (bound : stream < storage.streams.length) :
    ∃ after, dropStream stream storage = .ok () after ∧ storage.Kept after := by
  have kept := dropStream_keeps stream storage
  obtain ⟨after, ran⟩ : ∃ after, dropStream stream storage = .ok () after := by
    rw [dropStream, bind_of_ok (streamAt_of_some (List.getElem?_eq_getElem bound))]
    cases storage.streams[stream].channel <;> exact ⟨_, rfl⟩
  exact ⟨after, ran, by rwa [ran] at kept⟩

namespace Engine

variable {engine : Engine} {table : ReferenceTable Object} {top below : List Reference} {rest : List (List Reference)}

/-- Tables and frames agree, and every object that is held exists. -/
structure Tidy (engine : Engine) : Prop where
  globals : engine.globals.Consistent
  scope : engine.globals.scope = .globals
  frames : ∀ thread, (engine.framesOf thread).Orderly
  locals_exist : ∀ {thread reference object},
    (engine.framesOf thread).table.get? reference = some object → object.IsIn engine.storage
  globals_exist : ∀ {reference object},
    engine.globals.get? reference = some object → object.IsIn engine.storage

/-- Everything is as before. A thread may have got its base frame. -/
structure Unchanged (before after : Engine) : Prop where
  storage : after.storage = before.storage
  conf : after.conf = before.conf
  factories : after.factories = before.factories
  globals : after.globals = before.globals
  frames : ∀ thread, after.framesOf thread = before.framesOf thread

theorem Unchanged.refl (engine : Engine) : Unchanged engine engine := ⟨rfl, rfl, rfl, rfl, fun _ => rfl⟩

/-- Putting its frames back changes nothing of a thread. -/
theorem unchanged_setFrames (engine : Engine) (thread : Nat) :
    Unchanged engine (engine.setFrames thread (engine.framesOf thread)) where
  storage := rfl
  conf := rfl
  factories := rfl
  globals := rfl
  frames other := by
    rw [framesOf_setFrames]
    split
    · next same => rw [same]
    · rfl

/-! ## Objects without references -/

theorem letGo_ok (engine : Engine) (isIn : object.IsIn engine.storage) :
    ∃ storage, letGo object engine = .ok () { engine with storage } ∧ engine.storage.Kept storage := by
  rw [letGo]
  cases isStream : object.stream? with
  | none => exact ⟨_, rfl, .refl _⟩
  | some stream =>
    simp only
    rw [bind_get]
    split
    · exact ⟨_, rfl, .refl _⟩
    · obtain ⟨storage, ran, kept⟩ := Storage.dropStream_ok (isIn stream isStream)
      exact ⟨storage, by rw [onStorage, ran], kept⟩

/-- An object with a global reference is not let go. -/
theorem letGo_of_global (held : engine.globals.get? reference = some object) :
    letGo object engine = .ok () engine := by
  rw [letGo]
  cases isStream : object.stream? with
  | none => rfl
  | some stream =>
    simp only
    rw [bind_get, if_pos]
    · rfl
    · rw [holds, List.any_eq_true]
      exact ⟨object, List.mem_append_left _ (ReferenceTable.mem_objects held), by rw [isStream, beq_self_eq_true]⟩

theorem letGo_all_ok (engine : Engine) {objects : List Object}
    (areIn : ∀ object ∈ objects, object.IsIn engine.storage) :
    ∃ storage, objects.forM letGo engine = .ok () { engine with storage } ∧ engine.storage.Kept storage := by
  induction objects generalizing engine with
  | nil => exact ⟨_, rfl, .refl _⟩
  | cons first others ih =>
    obtain ⟨middle, ran, kept⟩ := letGo_ok engine (areIn first List.mem_cons_self)
    obtain ⟨storage, ranOthers, keptAgain⟩ := ih { engine with storage := middle } fun object member =>
      (areIn object (List.mem_cons_of_mem _ member)).kept kept
    exact ⟨storage, (bind_of_ok ran).trans ranOthers, kept.trans keptAgain⟩

/-! ## Calls on one reference -/

theorem resolve_run (thread : Nat) (reference : Reference) (engine : Engine) : resolve thread reference engine =
    match engine.object? thread reference with
    | some object => .ok object engine
    | none => .error (.raised (.deadReference reference)) engine := by
  rw [resolve, bind_get]
  cases engine.object? thread reference <;> rfl

theorem cast_of_some {α : Type} {expected : String} {read : Object → Option α} {value : α}
    (found : engine.object? thread reference = some object) (isValue : read object = some value) :
    cast expected read thread reference engine = .ok value engine := by
  have resolved : resolve thread reference engine = .ok object engine := by rw [resolve_run, found]
  rw [cast, bind_of_ok resolved, isValue]
  rfl

theorem object?_of_local (isLocal : reference.isGlobal = false) :
    engine.object? thread reference = (engine.framesOf thread).table.get? reference := by
  rw [object?]
  cases scope : reference.scope with
  | locals => rfl
  | globals => rw [Reference.isGlobal, scope] at isLocal; cases isLocal

theorem object?_of_global (isGlobal : reference.isGlobal = true) :
    engine.object? thread reference = engine.globals.get? reference := by
  rw [object?, beq_iff_eq.mp isGlobal]

/-- What a thread's own table resolves is local. -/
theorem Tidy.isLocal (tidy : engine.Tidy) (found : (engine.framesOf thread).table.get? reference = some object) :
    reference.isGlobal = false := by
  rw [Reference.isGlobal, (ReferenceTable.get?_eq_some_iff.mp found).1, (tidy.frames thread).scope]
  rfl

theorem Tidy.isGlobal (tidy : engine.Tidy) (found : engine.globals.get? reference = some object) :
    reference.isGlobal = true := by
  rw [Reference.isGlobal, (ReferenceTable.get?_eq_some_iff.mp found).1, tidy.scope]
  rfl

theorem Tidy.exists_of_object? (tidy : engine.Tidy) (found : engine.object? thread reference = some object) :
    object.IsIn engine.storage := by
  rw [object?] at found
  split at found
  · exact tidy.locals_exist found
  · exact tidy.globals_exist found

theorem newLocal_of_some (stack : (engine.framesOf thread).stack = top :: rest)
    (stored : (engine.framesOf thread).table.insert object = some (reference, table)) :
    newLocal thread object engine =
      .ok reference (engine.setFrames thread ⟨table, (top ++ [reference]) :: rest⟩) := by
  rw [newLocal, bind_get, Frames.insert_of_some stack stored]
  rfl

theorem newLocal_of_none (full : (engine.framesOf thread).table.insert object = none) :
    newLocal thread object engine =
      .error (.raised .localsFull) (engine.setFrames thread (engine.framesOf thread)) := by
  rw [newLocal, bind_get, Frames.insert_of_none full]
  rfl

/-- The thread's own table decides. -/
theorem deleteLocal_of_none (isLocal : reference.isGlobal = false)
    (unresolved : (engine.framesOf thread).table.get? reference = none) :
    deleteLocal thread reference engine = .error (.raised (.deadLocal reference)) engine := by
  rw [deleteLocal, if_neg (Bool.eq_false_iff.mp isLocal)]
  beta_reduce
  rw [bind_get, Frames.remove_of_none unresolved]
  rfl

theorem deleteLocal_of_global (isGlobal : reference.isGlobal = true) :
    deleteLocal thread reference engine = .error (.raised (.notLocal reference)) engine := by
  rw [deleteLocal, if_pos isGlobal]
  rfl

theorem deleteLocal_of_some (tidy : engine.Tidy)
    (taken : (engine.framesOf thread).table.remove reference = (some object, table)) :
    ∃ storage, deleteLocal thread reference engine = .ok () { engine.setFrames thread
        ⟨table, Frames.forget reference (engine.framesOf thread).stack⟩ with storage } ∧
      engine.storage.Kept storage := by
  have found : (engine.framesOf thread).table.get? reference = some object := by
    rw [← ReferenceTable.remove_fst, taken]
  obtain ⟨storage, ran, kept⟩ := letGo_ok (engine.setFrames thread
    ⟨table, Frames.forget reference (engine.framesOf thread).stack⟩) (tidy.locals_exist found)
  refine ⟨storage, ?_, kept⟩
  rw [deleteLocal, if_neg (Bool.eq_false_iff.mp (tidy.isLocal found))]
  beta_reduce
  rw [bind_get, Frames.remove_of_some taken]
  exact ran

theorem newGlobal_of_dead (unresolved : engine.object? thread reference = none) :
    newGlobal thread reference engine = .error (.raised (.deadReference reference)) engine := by
  have dead : resolve thread reference engine = .error (.raised (.deadReference reference)) engine := by
    rw [resolve_run, unresolved]
  rw [newGlobal, bind_of_error dead]

theorem newGlobal_of_none (resolves : engine.object? thread reference = some object)
    (full : engine.globals.insert object = none) :
    newGlobal thread reference engine = .error (.raised .globalsFull) engine := by
  have found : resolve thread reference engine = .ok object engine := by rw [resolve_run, resolves]
  rw [newGlobal, bind_of_ok found, bind_get, full]
  rfl

theorem newGlobal_of_some {global : Reference} {globals : ReferenceTable Object}
    (resolves : engine.object? thread reference = some object)
    (stored : engine.globals.insert object = some (global, globals)) :
    newGlobal thread reference engine = .ok global { engine with globals } := by
  have found : resolve thread reference engine = .ok object engine := by rw [resolve_run, resolves]
  rw [newGlobal, bind_of_ok found, bind_get, stored]
  rfl

theorem promote_of_global (isGlobal : reference.isGlobal = true) :
    promote thread reference engine = .error (.raised (.alreadyGlobal reference)) engine := by
  rw [promote, if_pos isGlobal]
  rfl

private theorem promote_of_local (isLocal : reference.isGlobal = false) : promote thread reference engine =
    (newGlobal thread reference >>= fun global => deleteLocal thread reference >>= fun _ => pure global) engine := by
  rw [promote, if_neg (Bool.eq_false_iff.mp isLocal)]

theorem promote_of_dead (isLocal : reference.isGlobal = false)
    (unresolved : (engine.framesOf thread).table.get? reference = none) :
    promote thread reference engine = .error (.raised (.deadReference reference)) engine := by
  rw [promote_of_local isLocal,
    bind_of_error (newGlobal_of_dead ((object?_of_local isLocal).trans unresolved))]

theorem promote_of_none (tidy : engine.Tidy) (found : (engine.framesOf thread).table.get? reference = some object)
    (full : engine.globals.insert object = none) :
    promote thread reference engine = .error (.raised .globalsFull) engine := by
  have isLocal := tidy.isLocal found
  rw [promote_of_local isLocal, bind_of_error (newGlobal_of_none ((object?_of_local isLocal).trans found) full)]

/-- The object moves from one table to the other, and is held all the time. -/
theorem promote_of_some {global : Reference} {globals : ReferenceTable Object} (tidy : engine.Tidy)
    (taken : (engine.framesOf thread).table.remove reference = (some object, table))
    (stored : engine.globals.insert object = some (global, globals)) :
    promote thread reference engine = .ok global { engine.setFrames thread
      ⟨table, Frames.forget reference (engine.framesOf thread).stack⟩ with globals } := by
  have found : (engine.framesOf thread).table.get? reference = some object := by
    rw [← ReferenceTable.remove_fst, taken]
  have isLocal := tidy.isLocal found
  have held : globals.get? global = some object :=
    (ReferenceTable.insert_stored tidy.globals stored).1.get?_iff.mpr (.inr ⟨rfl, rfl⟩)
  rw [promote_of_local isLocal, bind_of_ok (newGlobal_of_some ((object?_of_local isLocal).trans found) stored)]
  have deleted : deleteLocal thread reference { engine with globals } = .ok () { engine.setFrames thread
      ⟨table, Frames.forget reference (engine.framesOf thread).stack⟩ with globals } := by
    rw [deleteLocal, if_neg (Bool.eq_false_iff.mp isLocal)]
    beta_reduce
    have removed : (framesOf { engine with globals } thread).remove reference =
        (some object, ⟨table, Frames.forget reference (engine.framesOf thread).stack⟩) := Frames.remove_of_some taken
    rw [bind_get, removed]
    exact letGo_of_global held
  rw [bind_of_ok deleted]
  rfl

theorem promote_leads (tidy : engine.Tidy) (thread : Nat) (reference : Reference) :
    Leads (promote thread reference) engine
      (fun global after => ∃ object table globals,
        (engine.framesOf thread).table.remove reference = (some object, table) ∧
        engine.globals.insert object = some (global, globals) ∧ after = { engine.setFrames thread
          ⟨table, Frames.forget reference (engine.framesOf thread).stack⟩ with globals })
      (fun failure after => (∃ exception, failure = .raised exception) ∧ after = engine) := by
  cases isGlobal : reference.isGlobal with
  | true => exact .of_error (promote_of_global isGlobal) ⟨⟨_, rfl⟩, rfl⟩
  | false =>
    cases found : (engine.framesOf thread).table.get? reference with
    | none => exact .of_error (promote_of_dead isGlobal found) ⟨⟨_, rfl⟩, rfl⟩
    | some object =>
      cases inserted : engine.globals.insert object with
      | none => exact .of_error (promote_of_none tidy found inserted) ⟨⟨_, rfl⟩, rfl⟩
      | some result =>
        obtain ⟨table, taken⟩ := ReferenceTable.remove_of_get? found
        exact .of_ok (promote_of_some tidy taken inserted) ⟨object, table, result.2, taken, inserted, rfl⟩

theorem deleteGlobal_of_none (unresolved : engine.globals.get? reference = none) :
    deleteGlobal reference engine = .error (.raised (.deadGlobal reference)) engine := by
  rw [deleteGlobal]
  split
  · rfl
  · beta_reduce
    rw [bind_get, ReferenceTable.remove_of_none unresolved]
    rfl

theorem deleteGlobal_of_some {globals : ReferenceTable Object} (tidy : engine.Tidy)
    (taken : engine.globals.remove reference = (some object, globals)) :
    ∃ storage, deleteGlobal reference engine = .ok () { engine with globals, storage } ∧
      engine.storage.Kept storage := by
  have found : engine.globals.get? reference = some object := by rw [← ReferenceTable.remove_fst, taken]
  obtain ⟨storage, ran, kept⟩ := letGo_ok { engine with globals } (tidy.globals_exist found)
  refine ⟨storage, ?_, kept⟩
  rw [deleteGlobal, tidy.isGlobal found, if_neg (by decide)]
  beta_reduce
  rw [bind_get, taken]
  exact ran

/-! ## Threads -/

theorem endThread_ok (tidy : engine.Tidy) (thread : Nat) :
    ∃ storage, endThread thread engine = .ok () { engine with locals := engine.locals.erase thread, storage } ∧
      engine.storage.Kept storage := by
  have areIn : ∀ object ∈ (engine.framesOf thread).table.objects, object.IsIn engine.storage := by
    intro object member
    obtain ⟨reference, found⟩ := ReferenceTable.exists_of_mem_objects (tidy.frames thread).consistent member
    exact tidy.locals_exist found
  exact letGo_all_ok { engine with locals := engine.locals.erase thread } areIn

/-! ## Frames -/

/-- The engine after a thread pushed a frame. -/
def pushed (engine : Engine) (thread : Nat) : Engine := engine.setFrames thread (engine.framesOf thread).push

theorem popFrame_of_dead (unresolved : engine.object? thread reference = none) :
    popFrame thread (some reference) engine = .error (.raised (.deadReference reference)) engine := by
  have dead : (some reference).mapM (resolve thread) engine = .error (.raised (.deadReference reference)) engine := by
    change EStateM.map some (resolve thread reference) engine = _
    rw [EStateM.map, resolve_run, unresolved]
  rw [popFrame, bind_of_error dead]

/-- A result to keep stands for an object, if there is a result. -/
def Stands (engine : Engine) (thread : Nat) (kept : Option Reference) (object : Option Object) : Prop :=
  match kept with
  | none => object = none
  | some reference => ∃ held, object = some held ∧ engine.object? thread reference = some held

variable {kept : Option Reference} {result : Option Object} {frames : Frames Object}

private theorem Stands.run (stands : engine.Stands thread kept result) :
    kept.mapM (resolve thread) engine = .ok result engine := by
  cases kept with
  | none =>
    rw [show result = none from stands]
    rfl
  | some reference =>
    obtain ⟨held, rfl, found⟩ := stands
    change EStateM.map some (resolve thread reference) engine = _
    rw [EStateM.map, resolve_run, found]

theorem popFrame_of_error {exception : Exception} (stands : engine.Stands thread kept result)
    (failed : (engine.framesOf thread).pop result = (.error exception, frames)) :
    popFrame thread kept engine = .error (.raised exception) (engine.setFrames thread frames) := by
  rw [popFrame, bind_of_ok stands.run, bind_get, failed]
  rfl

theorem popFrame_of_ok {answer : Option Reference} {released : List Object} (stands : engine.Stands thread kept result)
    (popped : (engine.framesOf thread).pop result = (.ok (answer, released), frames))
    (areIn : ∀ object ∈ released, object.IsIn engine.storage) :
    ∃ storage, popFrame thread kept engine = .ok answer { engine.setFrames thread frames with storage } ∧
      engine.storage.Kept storage := by
  obtain ⟨storage, ran, kept⟩ := letGo_all_ok (engine.setFrames thread frames) areIn
  refine ⟨storage, ?_, kept⟩
  rw [popFrame, bind_of_ok stands.run, bind_get, popped]
  exact bind_of_ok ran

end Engine

end FileGateway
