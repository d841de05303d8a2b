import FileGateway.Proofs.Engine.References

/-! # Histories of calls on references

A history is any sequence of calls on references, by any threads and with references from anywhere, and of
requests that others make meanwhile. What a call may do is said once, and what holds after every history
follows from it step by step: the engine stays tidy, and a thread's references come and go by its own calls
alone.
-/

namespace FileGateway

inductive ReferenceCall
  | newLocal (object : Object)
  | resolve (reference : Reference)
  | deleteLocal (reference : Reference)
  | newGlobal (reference : Reference)
  | promote (reference : Reference)
  | deleteGlobal (reference : Reference)
  | pushFrame
  | popFrame (kept : Option Reference)
deriving DecidableEq, Repr

/-- Makes a call on a thread. Some calls answer a reference. -/
def ReferenceCall.serve (thread : Nat) : ReferenceCall → EngineAction (Option Reference)
  | newLocal object => some <$> Engine.newLocal thread object
  | resolve reference => do
    let _ ← Engine.resolve thread reference
    return none
  | deleteLocal reference => do
    Engine.deleteLocal thread reference
    return none
  | newGlobal reference => some <$> Engine.newGlobal thread reference
  | promote reference => some <$> Engine.promote thread reference
  | deleteGlobal reference => do
    Engine.deleteGlobal reference
    return none
  | pushFrame => do
    Engine.pushFrame thread
    return none
  | popFrame kept => Engine.popFrame thread kept

inductive EngineStep
  | references (thread : Nat) (call : ReferenceCall)
  | request (request : Request)
deriving DecidableEq, Repr

namespace Engine

variable {engine : Engine} {thread other : Nat} {call : ReferenceCall} {step : EngineStep} {steps : List EngineStep}
  {reference : Reference} {object : Object}

def after (engine : Engine) : EngineStep → Engine
  | .references thread call => ended (call.serve thread engine)
  | .request request => ended (onStorage (Storage.serve request) engine)

def run (engine : Engine) (steps : List EngineStep) : Engine := steps.foldl after engine

theorem run_append (engine : Engine) (steps later : List EngineStep) :
    engine.run (steps ++ later) = (engine.run steps).run later := List.foldl_append

/-- Every step of a history is as said in the state that it starts from. -/
def Throughout (holds : Engine → EngineStep → Prop) : Engine → List EngineStep → Prop
  | _, [] => True
  | engine, step :: rest => holds engine step ∧ Throughout holds (engine.after step) rest

theorem throughout_concat {holds : Engine → EngineStep → Prop} : Throughout holds engine (steps ++ [step]) ↔
    Throughout holds engine steps ∧ holds (engine.run steps) step := by
  induction steps generalizing engine with
  | nil => simp [Throughout, run]
  | cons first rest ih => exact (and_congr_right fun _ => ih).trans and_assoc.symm

/-- Only objects that exist are put into references. -/
def Offered (engine : Engine) (step : EngineStep) : Prop :=
  ∀ thread object, step = .references thread (.newLocal object) → object.IsIn engine.storage

/-! ## What a call may do -/

/-- What a call of a thread does from a tidy engine, with its outcome. -/
inductive Deed (thread : Nat) (engine : Engine) :
    ReferenceCall → EStateM.Result Failure Engine (Option Reference) → Prop
  | failed (call : ReferenceCall) (exception : Exception) (after : Engine) (unchanged : Unchanged engine after)
    (noPop : ∀ kept, call ≠ .popFrame kept) : Deed thread engine call (.error (.raised exception) after)
  | resolved (reference : Reference) : Deed thread engine (.resolve reference) (.ok none engine)
  | stored (object : Object) (reference : Reference) (table : ReferenceTable Object) (top : List Reference)
    (rest : List (List Reference)) (stack : (engine.framesOf thread).stack = top :: rest)
    (stored : (engine.framesOf thread).table.insert object = some (reference, table)) :
    Deed thread engine (.newLocal object)
      (.ok (some reference) (engine.setFrames thread ⟨table, (top ++ [reference]) :: rest⟩))
  | deleted (reference : Reference) (object : Object) (table : ReferenceTable Object) (storage : Storage)
    (taken : (engine.framesOf thread).table.remove reference = (some object, table))
    (kept : engine.storage.Kept storage) :
    Deed thread engine (.deleteLocal reference) (.ok none { engine.setFrames thread
      ⟨table, Frames.forget reference (engine.framesOf thread).stack⟩ with storage })
  | shared (reference : Reference) (object : Object) (global : Reference) (globals : ReferenceTable Object)
    (found : engine.object? thread reference = some object)
    (stored : engine.globals.insert object = some (global, globals)) :
    Deed thread engine (.newGlobal reference) (.ok (some global) { engine with globals })
  | promoted (reference : Reference) (object : Object) (table : ReferenceTable Object) (global : Reference)
    (globals : ReferenceTable Object)
    (taken : (engine.framesOf thread).table.remove reference = (some object, table))
    (stored : engine.globals.insert object = some (global, globals)) :
    Deed thread engine (.promote reference) (.ok (some global) { engine.setFrames thread
      ⟨table, Frames.forget reference (engine.framesOf thread).stack⟩ with globals })
  | givenUp (reference : Reference) (object : Object) (globals : ReferenceTable Object) (storage : Storage)
    (taken : engine.globals.remove reference = (some object, globals)) (kept : engine.storage.Kept storage) :
    Deed thread engine (.deleteGlobal reference) (.ok none { engine with globals, storage })
  | pushed : Deed thread engine .pushFrame (.ok none (engine.setFrames thread (engine.framesOf thread).push))
  | popped (top below : List Reference) (rest : List (List Reference)) (storage : Storage)
    (stack : (engine.framesOf thread).stack = top :: below :: rest) (kept : engine.storage.Kept storage) :
    Deed thread engine (.popFrame none) (.ok none { engine.setFrames thread
      ⟨(Frames.removeAll (engine.framesOf thread).table top).2, below :: rest⟩ with storage })
  | carried (result : Reference) (object : Object) (reference : Reference) (table : ReferenceTable Object)
    (top below : List Reference) (rest : List (List Reference)) (storage : Storage)
    (found : engine.object? thread result = some object)
    (stack : (engine.framesOf thread).stack = top :: below :: rest)
    (stored : (Frames.removeAll (engine.framesOf thread).table top).2.insert object = some (reference, table))
    (kept : engine.storage.Kept storage) :
    Deed thread engine (.popFrame (some result)) (.ok (some reference)
      { engine.setFrames thread ⟨table, (below ++ [reference]) :: rest⟩ with storage })
  | deadResult (result : Reference) (dead : engine.object? thread result = none) :
    Deed thread engine (.popFrame (some result)) (.error (.raised (.deadReference result)) engine)
  | atBase (kept : Option Reference) (base : List Reference) (stack : (engine.framesOf thread).stack = [base])
    (live : ∀ result, kept = some result → ∃ object, engine.object? thread result = some object) :
    Deed thread engine (.popFrame kept)
      (.error (.raised .noFrame) (engine.setFrames thread (engine.framesOf thread)))
  /-- The table is full and nothing was released, so that the result finds no place. -/
  | overflowed (result : Reference) (below : List Reference) (rest : List (List Reference))
    (stack : (engine.framesOf thread).stack = [] :: below :: rest)
    (full : engine.liveLocals thread = Reference.maxSlots) :
    Deed thread engine (.popFrame (some result)) (.error (.raised .localsFull)
      (engine.setFrames thread ⟨(engine.framesOf thread).table, below :: rest⟩))

theorem newLocal_deed (tidy : engine.Tidy) (thread : Nat) (object : Object) :
    Deed thread engine (.newLocal object) (ReferenceCall.serve thread (.newLocal object) engine) := by
  obtain ⟨top, rest, stack⟩ := List.exists_cons_of_ne_nil (tidy.frames thread).grounded
  cases inserted : (engine.framesOf thread).table.insert object with
  | none =>
    rw [ReferenceCall.serve, map_of_error (newLocal_of_none inserted)]
    exact .failed _ _ _ (unchanged_setFrames engine thread) (by simp)
  | some result =>
    rw [ReferenceCall.serve, map_of_ok (newLocal_of_some stack inserted)]
    exact .stored object result.1 result.2 top rest stack inserted

theorem resolve_deed (engine : Engine) (thread : Nat) (reference : Reference) :
    Deed thread engine (.resolve reference) (ReferenceCall.serve thread (.resolve reference) engine) := by
  have run := resolve_run thread reference engine
  cases found : engine.object? thread reference with
  | none =>
    rw [found] at run
    rw [ReferenceCall.serve, bind_of_error run]
    exact .failed _ _ _ (.refl engine) (by simp)
  | some object =>
    rw [found] at run
    rw [ReferenceCall.serve, bind_of_ok run]
    exact .resolved reference

theorem deleteLocal_deed (tidy : engine.Tidy) (thread : Nat) (reference : Reference) :
    Deed thread engine (.deleteLocal reference) (ReferenceCall.serve thread (.deleteLocal reference) engine) := by
  cases found : (engine.framesOf thread).table.get? reference with
  | some object =>
    obtain ⟨table, taken⟩ := ReferenceTable.remove_of_get? found
    obtain ⟨storage, ran, kept⟩ := deleteLocal_of_some tidy taken
    rw [ReferenceCall.serve, bind_of_ok ran]
    exact .deleted reference object table storage taken kept
  | none =>
    have refused : ∃ exception, deleteLocal thread reference engine = .error (.raised exception) engine := by
      cases isGlobal : reference.isGlobal with
      | true => exact ⟨_, deleteLocal_of_global isGlobal⟩
      | false => exact ⟨_, deleteLocal_of_none isGlobal found⟩
    obtain ⟨exception, ran⟩ := refused
    rw [ReferenceCall.serve, bind_of_error ran]
    exact .failed _ _ _ (.refl engine) (by simp)

theorem newGlobal_deed (engine : Engine) (thread : Nat) (reference : Reference) :
    Deed thread engine (.newGlobal reference) (ReferenceCall.serve thread (.newGlobal reference) engine) := by
  cases found : engine.object? thread reference with
  | none =>
    rw [ReferenceCall.serve, map_of_error (newGlobal_of_dead found)]
    exact .failed _ _ _ (.refl engine) (by simp)
  | some object =>
    cases inserted : engine.globals.insert object with
    | none =>
      rw [ReferenceCall.serve, map_of_error (newGlobal_of_none found inserted)]
      exact .failed _ _ _ (.refl engine) (by simp)
    | some result =>
      rw [ReferenceCall.serve, map_of_ok (newGlobal_of_some found inserted)]
      exact .shared reference object result.1 result.2 found inserted

theorem promote_deed (tidy : engine.Tidy) (thread : Nat) (reference : Reference) :
    Deed thread engine (.promote reference) (ReferenceCall.serve thread (.promote reference) engine) := by
  have leads := promote_leads tidy thread reference
  rw [ReferenceCall.serve]
  rcases ran : promote thread reference engine with ⟨global, after⟩ | ⟨failure, after⟩
  · obtain ⟨object, table, globals, taken, stored, rfl⟩ := leads.answer ran
    rw [map_of_ok ran]
    exact .promoted reference object table global globals taken stored
  · obtain ⟨⟨exception, rfl⟩, rfl⟩ := leads.failure ran
    rw [map_of_error ran]
    exact .failed _ exception _ (.refl _) (by simp)

theorem deleteGlobal_deed (tidy : engine.Tidy) (thread : Nat) (reference : Reference) :
    Deed thread engine (.deleteGlobal reference) (ReferenceCall.serve thread (.deleteGlobal reference) engine) := by
  cases found : engine.globals.get? reference with
  | none =>
    rw [ReferenceCall.serve, bind_of_error (deleteGlobal_of_none found)]
    exact .failed _ _ _ (.refl engine) (by simp)
  | some object =>
    obtain ⟨globals, taken⟩ := ReferenceTable.remove_of_get? found
    obtain ⟨storage, ran, kept⟩ := deleteGlobal_of_some tidy taken
    rw [ReferenceCall.serve, bind_of_ok ran]
    exact .givenUp reference object globals storage taken kept

theorem popFrame_deed (tidy : engine.Tidy) (thread : Nat) (kept : Option Reference) :
    Deed thread engine (.popFrame kept) (popFrame thread kept engine) := by
  have orderly := tidy.frames thread
  by_cases dead : ∃ result, kept = some result ∧ engine.object? thread result = none
  · obtain ⟨result, rfl, unresolved⟩ := dead
    rw [popFrame_of_dead unresolved]
    exact .deadResult result unresolved
  · have live : ∀ result, kept = some result → ∃ object, engine.object? thread result = some object := by
      intro result isKept
      exact Option.ne_none_iff_exists'.mp fun unresolved => dead ⟨result, isKept, unresolved⟩
    obtain ⟨object, stands⟩ : ∃ object, engine.Stands thread kept object := by
      cases kept with
      | none => exact ⟨none, rfl⟩
      | some result =>
        obtain ⟨object, found⟩ := live result rfl
        exact ⟨some object, object, rfl, found⟩
    obtain ⟨top, rest, stack⟩ := List.exists_cons_of_ne_nil orderly.grounded
    cases rest with
    | nil =>
      rw [popFrame_of_error stands (Frames.pop_of_base stack object)]
      exact .atBase kept top stack live
    | cons below rest =>
      have areIn : ∀ object ∈ (Frames.removeAll (engine.framesOf thread).table top).1,
          object.IsIn engine.storage := by
        intro object member
        obtain ⟨reference, -, found⟩ := Frames.exists_of_mem_removeAll orderly.consistent member
        exact tidy.locals_exist found
      cases kept with
      | none =>
        have nothing : engine.Stands thread none none := rfl
        obtain ⟨storage, ran, kept⟩ := popFrame_of_ok nothing (Frames.pop_of_none stack) areIn
        rw [ran]
        exact .popped top below rest storage stack kept
      | some result =>
        obtain ⟨held, found⟩ := live result rfl
        have stands : engine.Stands thread (some result) (some held) := ⟨held, rfl, found⟩
        cases inserted : (Frames.removeAll (engine.framesOf thread).table top).2.insert held with
        | none =>
          obtain rfl : top = [] := orderly.top_eq_nil stack inserted
          rw [popFrame_of_error stands (Frames.pop_of_full stack inserted)]
          exact .overflowed result below rest stack (ReferenceTable.live_of_full orderly.consistent inserted)
        | some stored =>
          obtain ⟨storage, ran, kept⟩ := popFrame_of_ok stands (Frames.pop_of_some stack inserted) areIn
          rw [ran]
          exact .carried result held stored.1 stored.2 top below rest storage found stack inserted kept

theorem deed (tidy : engine.Tidy) (thread : Nat) (call : ReferenceCall) :
    Deed thread engine call (call.serve thread engine) := by
  cases call with
  | newLocal object => exact newLocal_deed tidy thread object
  | resolve reference => exact resolve_deed engine thread reference
  | deleteLocal reference => exact deleteLocal_deed tidy thread reference
  | newGlobal reference => exact newGlobal_deed engine thread reference
  | promote reference => exact promote_deed tidy thread reference
  | deleteGlobal reference => exact deleteGlobal_deed tidy thread reference
  | pushFrame => exact .pushed
  | popFrame kept => exact popFrame_deed tidy thread kept

/-! ## Tidiness -/

variable {frames : Frames Object} {globals : ReferenceTable Object} {storage : Storage}
  {outcome : EStateM.Result Failure Engine (Option Reference)}

theorem tidy_new (storage : Storage) (conf : Configuration) : (new storage conf).Tidy where
  globals := ReferenceTable.consistent_empty .globals
  scope := rfl
  frames _ := Frames.orderly_empty
  locals_exist found := by cases (ReferenceTable.get?_empty ..).symm.trans found
  globals_exist found := by cases (ReferenceTable.get?_empty ..).symm.trans found

theorem Unchanged.tidy {after : Engine} (unchanged : Unchanged engine after) (tidy : engine.Tidy) : after.Tidy where
  globals := unchanged.globals ▸ tidy.globals
  scope := unchanged.globals ▸ tidy.scope
  frames thread := unchanged.frames thread ▸ tidy.frames thread
  locals_exist {thread reference object} found := by
    rw [unchanged.frames] at found
    exact unchanged.storage ▸ tidy.locals_exist found
  globals_exist {reference object} found := by
    rw [unchanged.globals] at found
    exact unchanged.storage ▸ tidy.globals_exist found

theorem Tidy.of_frames (tidy : engine.Tidy) (orderly : frames.Orderly)
    (exist : ∀ reference object, frames.table.get? reference = some object → object.IsIn engine.storage) :
    (engine.setFrames thread frames).Tidy where
  globals := tidy.globals
  scope := tidy.scope
  frames other := by
    rw [framesOf_setFrames]
    split
    · exact orderly
    · exact tidy.frames other
  locals_exist {other reference object} found := by
    rw [framesOf_setFrames] at found
    split at found
    · exact exist reference object found
    · exact tidy.locals_exist found
  globals_exist := tidy.globals_exist

theorem Tidy.of_globals (tidy : engine.Tidy) (consistent : globals.Consistent) (scope : globals.scope = .globals)
    (exist : ∀ reference object, globals.get? reference = some object → object.IsIn engine.storage) :
    Tidy { engine with globals } where
  globals := consistent
  scope := scope
  frames := tidy.frames
  locals_exist := tidy.locals_exist
  globals_exist found := exist _ _ found

theorem Tidy.of_storage (tidy : engine.Tidy) (kept : engine.storage.Kept storage) : Tidy { engine with storage } where
  globals := tidy.globals
  scope := tidy.scope
  frames := tidy.frames
  locals_exist found := (tidy.locals_exist found).kept kept
  globals_exist found := (tidy.globals_exist found).kept kept

theorem Tidy.stored (tidy : engine.Tidy) {top : List Reference} {rest : List (List Reference)}
    {table : ReferenceTable Object} (isIn : object.IsIn engine.storage)
    (stack : (engine.framesOf thread).stack = top :: rest)
    (stored : (engine.framesOf thread).table.insert object = some (reference, table)) :
    (engine.setFrames thread ⟨table, (top ++ [reference]) :: rest⟩).Tidy := by
  have orderly := tidy.frames thread
  refine tidy.of_frames (orderly.stored stack stored) fun other held found => ?_
  rcases (ReferenceTable.insert_stored orderly.consistent stored).1.get?_iff.mp found with before | ⟨-, rfl⟩
  · exact tidy.locals_exist before
  · exact isIn

theorem Tidy.taken (tidy : engine.Tidy) {table : ReferenceTable Object}
    (taken : (engine.framesOf thread).table.remove reference = (some object, table)) :
    (engine.setFrames thread ⟨table, Frames.forget reference (engine.framesOf thread).stack⟩).Tidy := by
  have orderly := tidy.frames thread
  refine tidy.of_frames (orderly.taken taken) fun other held found => ?_
  exact tidy.locals_exist ((ReferenceTable.remove_taken orderly.consistent taken).1.get?_iff.mp found).1

theorem Tidy.released (tidy : engine.Tidy) {top below : List Reference} {rest : List (List Reference)}
    (stack : (engine.framesOf thread).stack = top :: below :: rest) :
    (engine.setFrames thread ⟨(Frames.removeAll (engine.framesOf thread).table top).2, below :: rest⟩).Tidy := by
  have orderly := tidy.frames thread
  refine tidy.of_frames (orderly.released stack) fun other held found => ?_
  exact tidy.locals_exist ((Frames.get?_removeAll orderly.consistent).mp found).1

theorem Tidy.carried (tidy : engine.Tidy) {top below : List Reference} {rest : List (List Reference)}
    {table : ReferenceTable Object} (isIn : object.IsIn engine.storage)
    (stack : (engine.framesOf thread).stack = top :: below :: rest)
    (stored : (Frames.removeAll (engine.framesOf thread).table top).2.insert object = some (reference, table)) :
    (engine.setFrames thread ⟨table, (below ++ [reference]) :: rest⟩).Tidy := by
  have orderly := tidy.frames thread
  have released := orderly.released stack
  refine tidy.of_frames (released.stored rfl stored) fun other held found => ?_
  rcases (ReferenceTable.insert_stored released.consistent stored).1.get?_iff.mp found with before | ⟨-, rfl⟩
  · exact tidy.locals_exist ((Frames.get?_removeAll orderly.consistent).mp before).1
  · exact isIn

theorem Tidy.pushed (tidy : engine.Tidy) (thread : Nat) :
    (engine.setFrames thread (engine.framesOf thread).push).Tidy :=
  tidy.of_frames (tidy.frames thread).push fun _ _ found => tidy.locals_exist found

theorem Tidy.globalStored (tidy : engine.Tidy) (isIn : object.IsIn engine.storage)
    (stored : engine.globals.insert object = some (reference, globals)) : Tidy { engine with globals } := by
  obtain ⟨isStored, consistent⟩ := ReferenceTable.insert_stored tidy.globals stored
  refine tidy.of_globals consistent (isStored.sameScope.trans tidy.scope) fun other held found => ?_
  rcases isStored.get?_iff.mp found with before | ⟨-, rfl⟩
  · exact tidy.globals_exist before
  · exact isIn

theorem Tidy.globalTaken (tidy : engine.Tidy) (taken : engine.globals.remove reference = (some object, globals)) :
    Tidy { engine with globals } := by
  obtain ⟨isTaken, consistent⟩ := ReferenceTable.remove_taken tidy.globals taken
  exact tidy.of_globals consistent (isTaken.sameScope.trans tidy.scope) fun other held found =>
    tidy.globals_exist (isTaken.get?_iff.mp found).1

theorem Tidy.threadEnded (tidy : engine.Tidy) (thread : Nat) :
    Tidy { engine with locals := engine.locals.erase thread } := by
  have frames (other : Nat) : framesOf { engine with locals := engine.locals.erase thread } other =
      if other = thread then .empty else engine.framesOf other := by
    rw [framesOf, SortedMap.get?_erase]
    split <;> rfl
  refine ⟨tidy.globals, tidy.scope, fun other => ?_, fun {other reference object} found => ?_, tidy.globals_exist⟩
  · rw [frames]
    split
    · exact Frames.orderly_empty
    · exact tidy.frames other
  · rw [frames] at found
    split at found
    · cases (ReferenceTable.get?_empty ..).symm.trans found
    · exact tidy.locals_exist found

theorem Deed.tidy (done : Deed thread engine call outcome) (tidy : engine.Tidy)
    (offered : ∀ object, call = .newLocal object → object.IsIn engine.storage) : (ended outcome).Tidy := by
  cases done with
  | failed _ _ _ unchanged => exact unchanged.tidy tidy
  | resolved | deadResult => exact tidy
  | stored object reference table top rest stack stored => exact tidy.stored (offered object rfl) stack stored
  | deleted reference object table storage taken kept => exact (tidy.taken taken).of_storage kept
  | shared reference object global globals found stored =>
    exact tidy.globalStored (tidy.exists_of_object? found) stored
  | promoted reference object table global globals taken stored =>
    have found : (engine.framesOf thread).table.get? reference = some object := by
      rw [← ReferenceTable.remove_fst, taken]
    have isIn : object.IsIn engine.storage := tidy.locals_exist found
    exact (tidy.taken taken).globalStored isIn stored
  | givenUp reference object globals storage taken kept => exact (tidy.globalTaken taken).of_storage kept
  | pushed => exact tidy.pushed thread
  | popped top below rest storage stack kept => exact (tidy.released stack).of_storage kept
  | carried result object reference table top below rest storage found stack stored kept =>
    have isIn : object.IsIn engine.storage := tidy.exists_of_object? found
    exact (tidy.carried isIn stack stored).of_storage kept
  | atBase => exact (unchanged_setFrames engine thread).tidy tidy
  | overflowed result below rest stack full => exact tidy.released stack

/-- The top frame of a thread is gone with what it records, and nothing else is. -/
structure Uncovered (thread : Nat) (rest : List (List Reference)) (before after : Engine) : Prop where
  tidy : after.Tidy
  kept : before.storage.Kept after.storage
  factories : after.factories = before.factories
  globals : after.globals = before.globals
  others : ∀ other, other ≠ thread → after.framesOf other = before.framesOf other
  stack : (after.framesOf thread).stack = rest
  found : ∀ reference object, (after.framesOf thread).table.get? reference = some object ↔
    (before.framesOf thread).table.get? reference = some object ∧ reference ∈ rest.flatten

/-- Popping the frame above others cannot fail. -/
theorem popFrame_uncovers {own : List Reference} {rest : List (List Reference)} (tidy : engine.Tidy)
    (stack : (engine.framesOf thread).stack = own :: rest) (grounded : rest ≠ []) :
    Uncovered thread rest engine (ended (popFrame thread none engine)) := by
  have orderly := tidy.frames thread
  have done := popFrame_deed tidy thread none
  have tidyAfter := done.tidy tidy nofun
  generalize popFrame thread none engine = outcome at done tidyAfter ⊢
  cases done with
  | failed _ _ _ _ noPop => exact absurd rfl (noPop none)
  | atBase _ base isBase => exact absurd (List.cons.inj (stack.symm.trans isBase)).2 grounded
  | popped top below others storage isTop kept =>
    obtain ⟨rfl, rfl⟩ := List.cons.inj (isTop.symm.trans stack)
    have placed : (engine.setFrames thread ⟨(Frames.removeAll (engine.framesOf thread).table top).2,
        below :: others⟩).framesOf thread =
          ⟨(Frames.removeAll (engine.framesOf thread).table top).2, below :: others⟩ := by
      rw [framesOf_setFrames, if_pos rfl]
    have flattened : (engine.framesOf thread).stack.flatten = top ++ (below :: others).flatten := by
      rw [stack, List.flatten_cons]
    refine ⟨tidyAfter, kept, rfl, rfl, fun other different => ?_, congrArg Frames.stack placed,
      fun reference object => ?_⟩
    · change (engine.setFrames thread _).framesOf other = _
      rw [framesOf_setFrames, if_neg different]
    · change ((engine.setFrames thread _).framesOf thread).table.get? reference = _ ↔ _
      rw [placed, Frames.get?_removeAll orderly.consistent]
      refine and_congr_right fun found => ?_
      have member := flattened ▸ orderly.mentioned found
      have apart := (List.nodup_append.mp (flattened ▸ orderly.once)).2.2
      exact ⟨(List.mem_append.mp member).resolve_left,
        fun inRest inTop => apart reference inTop reference inRest rfl⟩

theorem ended_onStorage {α : Type} (action : Action α) (engine : Engine) :
    ended (onStorage action engine) = { engine with storage := ended (action engine.storage) } := by
  rw [onStorage]
  cases action engine.storage <;> rfl

theorem Tidy.after (tidy : engine.Tidy) (offered : engine.Offered step) : (engine.after step).Tidy := by
  cases step with
  | references thread call =>
    exact (deed tidy thread call).tidy tidy fun object same => offered thread object (same ▸ rfl)
  | request request =>
    rw [Engine.after, ended_onStorage]
    exact tidy.of_storage (Storage.serve_keeps request engine.storage)

theorem Tidy.run (tidy : engine.Tidy) (offered : Throughout Offered engine steps) : (engine.run steps).Tidy := by
  induction steps generalizing engine with
  | nil => exact tidy
  | cons step rest ih => exact ih (tidy.after offered.1) offered.2

/-! ## What becomes of a thread's references -/

/-- A call answers, and does not fail. -/
def Succeeds (engine : Engine) (thread : Nat) (call : ReferenceCall) : Prop :=
  (answer? (call.serve thread engine)).isSome

/-- A step deletes a local reference of a thread, or promotes it. -/
def Retires (engine : Engine) (thread : Nat) (reference : Reference) (step : EngineStep) : Prop :=
  ∃ call, step = .references thread call ∧ (call = .deleteLocal reference ∨ call = .promote reference) ∧
    engine.Succeeds thread call

/-- A step pops the frame that mentions a local reference. -/
def Releases (engine : Engine) (thread : Nat) (reference : Reference) (step : EngineStep) : Prop :=
  ∃ kept top rest, step = .references thread (.popFrame kept) ∧ engine.Succeeds thread (.popFrame kept) ∧
    (engine.framesOf thread).stack = top :: rest ∧ reference ∈ top

/-- A step answers a new local reference to an object: one put there, or the one that a popped frame leaves. -/
def Gives (engine : Engine) (thread : Nat) (reference : Reference) (object : Object) (step : EngineStep) : Prop :=
  ∃ call, step = .references thread call ∧ answer? (call.serve thread engine) = some (some reference) ∧
    (call = .newLocal object ∨
      ∃ result, call = .popFrame (some result) ∧ engine.object? thread result = some object)

theorem Deed.others (done : Deed thread engine call outcome) (different : other ≠ thread) :
    (ended outcome).framesOf other = engine.framesOf other := by
  have apart (frames : Frames Object) : (engine.setFrames thread frames).framesOf other = engine.framesOf other := by
    rw [framesOf_setFrames, if_neg different]
  cases done with
  | failed _ _ _ unchanged => exact unchanged.frames other
  | resolved | deadResult | shared | givenUp => rfl
  | stored | deleted | promoted | pushed | popped | carried | atBase | overflowed => exact apart _

/-- A thread's references come and go by its own calls alone. -/
theorem get?_after (tidy : engine.Tidy) (step : EngineStep) :
    ((engine.after step).framesOf thread).table.get? reference = some object ↔
      ((engine.framesOf thread).table.get? reference = some object ∧
        ¬engine.Retires thread reference step ∧ ¬engine.Releases thread reference step) ∨
      engine.Gives thread reference object step := by
  have orderly := tidy.frames thread
  cases step with
  | request request =>
    rw [Engine.after, ended_onStorage]
    simp [Retires, Releases, Gives, framesOf]
  | references own call =>
    have done := deed tidy own call
    rw [Engine.after]
    by_cases same : own = thread
    case neg =>
      rw [done.others (Ne.symm same)]
      simp [Retires, Releases, Gives, same]
    subst same
    have placed (frames : Frames Object) : (engine.setFrames own frames).framesOf own = frames := by
      rw [framesOf_setFrames, if_pos rfl]
    generalize ran : call.serve own engine = outcome at done
    cases done with
    | failed _ _ _ unchanged noPop =>
      simp [Retires, Releases, Gives, Succeeds, ended, ran, unchanged.frames, noPop]
    | resolved | deadResult => simp [Retires, Releases, Gives, Succeeds, ended, ran]
    | shared | givenUp => simp [Retires, Releases, Gives, Succeeds, ended, ran, framesOf]
    | pushed | atBase | overflowed => simp [Retires, Releases, Gives, Succeeds, ended, ran, Frames.push]
    | stored put given table top rest stack stored =>
      change ((engine.setFrames own _).framesOf own).table.get? reference = _ ↔ _
      rw [placed, (ReferenceTable.insert_stored orderly.consistent stored).1.get?_iff]
      simp [Retires, Releases, Gives, Succeeds, ran, @eq_comm _ reference, @eq_comm _ object]
    | deleted gone held table storage taken kept =>
      change ((engine.setFrames own _).framesOf own).table.get? reference = _ ↔ _
      rw [placed, (ReferenceTable.remove_taken orderly.consistent taken).1.get?_iff]
      simp [Retires, Releases, Gives, Succeeds, ran, @eq_comm _ reference]
    | promoted gone held table global globals taken stored =>
      change ((engine.setFrames own _).framesOf own).table.get? reference = _ ↔ _
      rw [placed, (ReferenceTable.remove_taken orderly.consistent taken).1.get?_iff]
      simp [Retires, Releases, Gives, Succeeds, ran, @eq_comm _ reference]
    | popped top below rest storage stack kept =>
      change ((engine.setFrames own _).framesOf own).table.get? reference = _ ↔ _
      rw [placed, Frames.get?_removeAll orderly.consistent]
      simp [Retires, Releases, Gives, Succeeds, ran, stack]
    | carried result held given table top below rest storage found stack stored kept =>
      change ((engine.setFrames own _).framesOf own).table.get? reference = _ ↔ _
      rw [placed, (ReferenceTable.insert_stored (orderly.released stack).consistent stored).1.get?_iff,
        Frames.get?_removeAll orderly.consistent]
      simp [Retires, Releases, Gives, Succeeds, ran, stack, found, @eq_comm _ reference, @eq_comm _ object]

end Engine

end FileGateway
