import FileGateway.Engine.Connect
import FileGateway.Proofs.Reference.Frames
import FileGateway.Proofs.SortedMap
import FileGateway.Proofs.Within

/-! # What actions of the engine do to references

An action goes through the global table by a run of calls, and their number is its bound: most actions
leave the table alone, and those that promote a reference or give one up make one call. And the frames of
every thread stay in order, its base frame included, so that every frame that was pushed can be popped
again.
-/

namespace FileGateway

namespace Frames

variable {α : Type} {frames : Frames α} {reference : Reference}

theorem Orderly.insert (orderly : frames.Orderly) (object : α) : (frames.insert object).2.Orderly := by
  obtain ⟨top, rest, stack⟩ := List.exists_cons_of_ne_nil orderly.grounded
  cases stored : frames.table.insert object with
  | none => rwa [insert_of_none stored]
  | some result =>
    rw [insert_of_some stack stored]
    exact orderly.stored stack stored

theorem Orderly.remove (orderly : frames.Orderly) (reference : Reference) : (frames.remove reference).2.Orderly := by
  rcases taken : frames.table.remove reference with ⟨_ | object, table⟩
  · rw [Frames.remove, taken]
    exact orderly
  · rw [remove_of_some taken]
    exact orderly.taken taken

theorem Orderly.pop (orderly : frames.Orderly) (kept : Option α) : (frames.pop kept).2.Orderly := by
  obtain ⟨top, rest, stack⟩ := List.exists_cons_of_ne_nil orderly.grounded
  cases rest with
  | nil => rwa [pop_of_base stack]
  | cons below rest =>
    have released := orderly.released stack
    cases kept with
    | none => rwa [pop_of_none stack]
    | some object =>
      cases stored : (removeAll frames.table top).2.insert object with
      | none => rwa [pop_of_full stack stored]
      | some result =>
        rw [pop_of_some stack stored]
        exact released.stored rfl stored

/-- A frame that nothing was put into leaves no trace. -/
theorem pop_push (grounded : frames.stack ≠ []) :
    frames.push.pop none = (.ok (none, []), frames) := by
  obtain ⟨table, _ | ⟨below, rest⟩⟩ := frames
  · exact absurd rfl grounded
  · rfl

end Frames

namespace Engine

variable {α : Type} {engine before after : Engine} {thread used : Nat} {reference : Reference}

@[simp] theorem framesOf_setFrames (engine : Engine) (thread other : Nat) (frames : Frames Object) :
    (engine.setFrames thread frames).framesOf other = if other = thread then frames else engine.framesOf other := by
  rw [framesOf, setFrames, SortedMap.get?_insert]
  split <;> rfl

/-- Every thread has its base frame. -/
def Grounded (engine : Engine) : Prop := ∀ thread, (engine.framesOf thread).stack ≠ []

/-- The frames of every thread mention what its table holds. -/
def Orderly (engine : Engine) : Prop := ∀ thread, (engine.framesOf thread).Orderly

theorem Orderly.grounded (orderly : engine.Orderly) : engine.Grounded := fun thread => (orderly thread).grounded

/-- The global table has gone through a run of so many calls at most, and frames are kept in order. -/
structure Moved (used : Nat) (before after : Engine) : Prop where
  globals : ∃ calls, after.globals = before.globals.run calls ∧ calls.length ≤ used
  orderly : before.Orderly → after.Orderly

instance : Metered Moved where
  refl engine := ⟨⟨[], rfl, le_rfl⟩, id⟩
  trans := by
    rintro first second before middle after ⟨⟨early, one, fewEarly⟩, kept⟩ ⟨⟨late, two, fewLate⟩, keptAgain⟩
    refine ⟨⟨early ++ late, ?_, ?_⟩, fun orderly => keptAgain (kept orderly)⟩
    · rw [ReferenceTable.run_append, ← one, two]
    · rw [List.length_append]
      omega
  weaken := by
    rintro used more before after ⟨⟨calls, ran, few⟩, kept⟩ fewer
    exact ⟨⟨calls, ran, few.trans fewer⟩, kept⟩

theorem Moved.of_same (globals : after.globals = before.globals) (locals : after.locals = before.locals) :
    Moved 0 before after where
  globals := ⟨[], globals, le_rfl⟩
  orderly orderly thread := by
    rw [framesOf, locals]
    exact orderly thread

/-- The frames of one thread change, and stay in order. -/
theorem Moved.of_frames {frames : Frames Object} (kept : (engine.framesOf thread).Orderly → frames.Orderly) :
    Moved 0 engine (engine.setFrames thread frames) where
  globals := ⟨[], rfl, le_rfl⟩
  orderly orderly other := by
    rw [framesOf_setFrames]
    split
    · exact kept (orderly thread)
    · exact orderly other

/-- What makes no call leaves the global table as it was. -/
theorem Moved.globals_eq (moved : Moved 0 before after) : after.globals = before.globals := by
  obtain ⟨calls, ran, none⟩ := moved.globals
  rw [ran, List.length_eq_zero_iff.mp (Nat.le_zero.mp none)]
  rfl

/-! ## Actions -/

theorem raise_moved (exception : Exception) : Within Moved 0 (raise exception : EngineAction α) := .throw _

theorem answerOf_moved (outcome : Except Exception α) : Within Moved 0 (answerOf outcome) := by
  cases outcome with
  | ok value => exact .pure value
  | error exception => exact raise_moved exception

theorem onStorage_moved (action : Action α) : Within Moved 0 (onStorage action) := by
  intro engine
  rw [onStorage]
  cases action engine.storage <;> exact .of_same rfl rfl

theorem letGo_moved (object : Object) : Within Moved 0 (letGo object) := by
  rw [letGo]
  cases object.stream? with
  | none => exact .pure _
  | some stream =>
    refine .after .get fun engine => ?_
    split
    · exact .pure _
    · exact onStorage_moved _

theorem resolve_moved (thread : Nat) (reference : Reference) : Within Moved 0 (resolve thread reference) := by
  refine .after .get fun engine => ?_
  split
  · exact .pure _
  · exact raise_moved _

theorem ended_resolve (thread : Nat) (reference : Reference) (engine : Engine) :
    ended (resolve thread reference engine) = engine := by
  rw [resolve, bind_get]
  cases engine.object? thread reference <;> rfl

/-- Asking for the object of a reference changes nothing. -/
theorem ended_cast (expected : String) (read : Object → Option α) (thread : Nat) (reference : Reference)
    (engine : Engine) : ended (cast expected read thread reference engine) = engine := by
  have same := ended_resolve thread reference engine
  rw [cast]
  rcases ran : resolve thread reference engine with ⟨object, after⟩ | ⟨failure, after⟩ <;> rw [ran] at same <;>
    obtain rfl : after = engine := same
  · rw [bind_of_ok ran]
    cases read object <;> rfl
  · rw [bind_of_error ran]
    rfl

theorem cast_moved (expected : String) (read : Object → Option α) (thread : Nat) (reference : Reference) :
    Within Moved 0 (cast expected read thread reference) := by
  refine .after (resolve_moved thread reference) fun object => ?_
  split
  · exact .pure _
  · exact raise_moved _

theorem newLocal_moved (thread : Nat) (object : Object) : Within Moved 0 (newLocal thread object) := by
  refine .reading fun engine => ?_
  rcases stored : (engine.framesOf thread).insert object with ⟨outcome, frames⟩
  have kept : Moved 0 engine (engine.setFrames thread frames) :=
    .of_frames fun orderly => by simpa [stored] using orderly.insert object
  exact Within.followed kept fun _ => answerOf_moved _

theorem deleteLocal_moved (thread : Nat) (reference : Reference) :
    Within Moved 0 (deleteLocal thread reference) := by
  rw [deleteLocal]
  refine .guarded (raise_moved _) (.reading fun engine => ?_)
  rcases taken : (engine.framesOf thread).remove reference with ⟨_ | object, frames⟩
  · exact raise_moved _ engine
  · have kept : Moved 0 engine (engine.setFrames thread frames) :=
      .of_frames fun orderly => by simpa [taken] using orderly.remove reference
    exact Within.followed kept fun _ => letGo_moved object

theorem newGlobal_moved (thread : Nat) (reference : Reference) :
    Within Moved 1 (newGlobal thread reference) := by
  refine .after (resolve_moved thread reference) fun object => .reading fun engine => ?_
  rcases stored : engine.globals.insert object with _ | ⟨global, globals⟩
  · exact Metered.weaken (raise_moved _ engine) zero_le_one
  · have ran : globals = engine.globals.run [.insert object] := by
      simp [ReferenceTable.run, ReferenceTable.after, stored]
    exact ⟨⟨[.insert object], ran, le_rfl⟩, id⟩

theorem promote_moved (thread : Nat) (reference : Reference) : Within Moved 1 (promote thread reference) := by
  rw [promote]
  exact .guarded (raise_moved _) (.before (newGlobal_moved thread reference) fun _ =>
    .after (deleteLocal_moved thread reference) fun _ => .pure _)

theorem deleteGlobal_moved (reference : Reference) : Within Moved 1 (deleteGlobal reference) := by
  rw [deleteGlobal]
  refine .guarded (raise_moved _) (.reading fun engine => ?_)
  rcases taken : engine.globals.remove reference with ⟨_ | object, globals⟩
  · exact Metered.weaken (raise_moved _ engine) zero_le_one
  · have ran : globals = engine.globals.run [.remove reference] := by
      simp [ReferenceTable.run, ReferenceTable.after, taken]
    have moved : Moved 1 engine { engine with globals } :=
      ⟨⟨[.remove reference], ran, le_rfl⟩, id⟩
    exact Within.followed moved fun _ => letGo_moved object

theorem pushFrame_moved (thread : Nat) : Within Moved 0 (pushFrame thread) :=
  .modify fun _ => .of_frames fun orderly => orderly.push

theorem popFrame_moved (thread : Nat) (kept : Option Reference) : Within Moved 0 (popFrame thread kept) := by
  have resolved : Within Moved 0 (kept.mapM (resolve thread)) := by
    cases kept with
    | none => exact .pure _
    | some reference => exact .map (resolve_moved thread reference) some
  refine .after resolved fun object => .reading fun engine => ?_
  rcases popped : (engine.framesOf thread).pop object with ⟨outcome, frames⟩
  have below : Moved 0 engine (engine.setFrames thread frames) :=
    .of_frames fun orderly => by simpa [popped] using orderly.pop object
  refine Within.followed below fun _ => .after (answerOf_moved _) fun result => ?_
  exact .after (.forM letGo_moved) fun _ => .pure _

theorem popFrame_push (grounded : (engine.framesOf thread).stack ≠ []) :
    popFrame thread none (engine.setFrames thread (engine.framesOf thread).push) =
      .ok none (engine.setFrames thread (engine.framesOf thread)) := by
  have popped : ((engine.setFrames thread (engine.framesOf thread).push).framesOf thread).pop none =
      (.ok (none, []), engine.framesOf thread) := by
    rw [framesOf_setFrames, if_pos rfl, Frames.pop_push grounded]
  have restored : (engine.setFrames thread (engine.framesOf thread).push).setFrames thread (engine.framesOf thread) =
      engine.setFrames thread (engine.framesOf thread) := by
    rw [setFrames, setFrames, SortedMap.insert_insert]
    rfl
  rw [popFrame, bind_of_ok (rfl : none.mapM (resolve thread) _ = .ok none _), bind_get, popped, ← restored]
  rfl

theorem endThread_moved (thread : Nat) : Within Moved 0 (endThread thread) := by
  refine .reading fun engine => ?_
  have gone : Moved 0 engine { engine with locals := engine.locals.erase thread } := by
    refine ⟨⟨[], rfl, le_rfl⟩, fun orderly other => ?_⟩
    rw [framesOf, SortedMap.get?_erase]
    split
    · exact Frames.orderly_empty
    · exact orderly other
  exact Within.followed gone fun _ => .forM letGo_moved

/-! ## Connecting and opening -/

theorem register_moved (authority : String) (factory : Factory) :
    Within Moved 0 (register authority factory) := fun _ => .of_same rfl rfl

theorem unregister_moved (authority : String) : Within Moved 0 (unregister authority) :=
  fun _ => .of_same rfl rfl

theorem setConfiguration_moved (conf : Configuration) : Within Moved 0 (setConfiguration conf) :=
  fun _ => .of_same rfl rfl

theorem connectRemote_moved (host : String) (port : UInt16) : Within Moved 0 (connectRemote host port) := by
  refine .after .get fun engine => ?_
  split
  · exact onStorage_moved _
  · exact raise_moved _

theorem connect_moved (target : Target) : Within Moved 0 (connect target) := by
  refine .after .get fun engine => ?_
  cases target <;> refine .after ?_ fun found => ?_
  case default.refine_1 => exact answerOf_moved _
  case local.refine_1 | remote.refine_1 => exact .pure _
  all_goals
    cases found with
    | «local» | default => exact onStorage_moved _
    | remote host port => exact connectRemote_moved host port

theorem getFileSystem_moved (thread : Nat) (target : Target) : Within Moved 0 (getFileSystem thread target) :=
  .after (connect_moved target) fun _ => newLocal_moved thread _

theorem keep_moved (thread : Nat) (reference : Reference) (wrap : α → Object) (action : Nat → Action α) :
    Within Moved 0 (keep thread reference wrap action) :=
  .after (cast_moved _ _ thread reference) fun client =>
    .after (onStorage_moved (action client)) fun _ => newLocal_moved thread _

/-! ## What global references resolve to -/

/-- A global reference means the same on every thread. -/
theorem fileSystem_run (isGlobal : reference.isGlobal = true) (thread : Nat) :
    fileSystem thread reference engine = match engine.globals.get? reference with
      | some (.fileSystem client) => .ok client engine
      | some object => .error (.raised (.wrongClass "FileSystem" object.className)) engine
      | none => .error (.raised (.deadReference reference)) engine := by
  have inGlobals : engine.object? thread reference = engine.globals.get? reference := by
    rw [object?, beq_iff_eq.mp isGlobal]
  rw [fileSystem, cast]
  rcases resolves : engine.globals.get? reference with _ | object
  · have unresolved : resolve thread reference engine = .error (.raised (.deadReference reference)) engine := by
      rw [resolve, bind_get, inGlobals, resolves]
      rfl
    rw [bind_of_error unresolved]
  · have resolved : resolve thread reference engine = .ok object engine := by
      rw [resolve, bind_get, inGlobals, resolves]
      rfl
    rw [bind_of_ok resolved]
    cases object <;> rfl

theorem fileSystem_ok {client : Nat} (isGlobal : reference.isGlobal = true)
    (ran : fileSystem thread reference engine = .ok client after) :
    engine.globals.get? reference = some (.fileSystem client) ∧ after = engine := by
  rw [fileSystem_run isGlobal] at ran
  split at ran
  · next found resolves =>
    cases ran
    exact ⟨resolves, rfl⟩
  · cases ran
  · cases ran

theorem onStorage_ok {action : Action α} {value : α} (ran : onStorage action engine = .ok value after) :
    ∃ storage, action engine.storage = .ok value storage := by
  rw [onStorage] at ran
  split at ran
  · next answer storage acted =>
    cases ran
    exact ⟨storage, acted⟩
  · cases ran

theorem deleteGlobal_gone (consistent : engine.globals.Consistent)
    (ran : deleteGlobal reference engine = .ok () after) : after.globals.get? reference = none := by
  rw [deleteGlobal] at ran
  split at ran
  · cases ran
  · obtain ⟨_, _, seen, ran⟩ := ok_of_bind ran
    cases seen
    rcases taken : engine.globals.remove reference with ⟨_ | object, globals⟩ <;> rw [taken] at ran
    · cases ran
    · obtain ⟨_, second, isSecond, ran⟩ := ok_of_bind ran
      cases isSecond
      have moved := letGo_moved object { engine with globals }
      rw [ran] at moved
      by_contra resolves
      obtain ⟨held, resolves⟩ := Option.ne_none_iff_exists'.mp resolves
      rw [show after.globals = globals from moved.globals_eq,
        (ReferenceTable.remove_taken consistent taken).1.get?_iff] at resolves
      exact resolves.2 rfl

end Engine

end FileGateway
