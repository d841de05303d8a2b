import FileGateway.Proofs.LocalFrames

/-! # Promotion

Promoting a local reference makes a global one and then deletes the local one. From every engine that calls lead
to, whatever word the caller holds, this is all or nothing: the object changes tables in one go, or neither table
and no frame changes. Once the global reference is made, nothing keeps the local one from being deleted.
-/

namespace FileGateway

namespace ReferenceTable

variable {α : Type} {table : ReferenceTable α}

/-- A table is full exactly if every slot is in use. -/
theorem insert_eq_none_iff (consistent : table.Consistent) (object : α) :
    table.insert object = none ↔ table.live = Reference.maxSlots := by
  refine ⟨live_of_full consistent, fun full => ?_⟩
  by_contra room
  obtain ⟨⟨reference, after⟩, stored⟩ := Option.ne_none_iff_exists'.mp room
  have more := insert_live stored
  have bounded := live_le (insert_stored consistent stored).2
  omega

end ReferenceTable

namespace Frames

variable {reference : Reference} {stack : List (List Reference)}

/-- Each frame is left with all that it mentions but one reference. -/
theorem forall₂_forget (once : stack.flatten.Nodup) :
    List.Forall₂ (fun frame left => ∀ other, other ∈ left ↔ other ∈ frame ∧ other ≠ reference) stack
      (forget reference stack) := by
  induction stack with
  | nil => exact .nil
  | cons frame rest ih =>
    obtain ⟨onceHere, onceBelow, apart⟩ := List.nodup_append.mp (List.flatten_cons ▸ once)
    rw [forget]
    cases place : frame.reverse.idxOf? reference with
    | none =>
      rw [List.idxOf?_eq_none_iff, List.mem_reverse] at place
      exact .cons (fun other => ⟨fun member => ⟨member, fun same => place (same ▸ member)⟩, And.left⟩) (ih onceBelow)
    | some fromEnd =>
      obtain ⟨bound, atPlace, -⟩ := List.idxOf?_eq_some_iff.mp place
      rw [List.length_reverse] at bound
      rw [List.getElem_reverse] at atPlace
      have within : frame.length - 1 - fromEnd < frame.length := by omega
      have perm := swapRemove_perm within
      rw [atPlace] at perm
      have gone := (List.nodup_cons.mp (perm.nodup_iff.mpr onceHere)).1
      have here : reference ∈ frame := perm.mem_iff.mp List.mem_cons_self
      refine .cons (fun other => ?_) (List.forall₂_same.mpr fun below member other => ?_)
      · rw [← perm.mem_iff, List.mem_cons]
        exact ⟨fun left => ⟨.inr left, fun same => gone (same ▸ left)⟩,
          fun both => both.1.resolve_left both.2⟩
      · have absent : reference ∉ below := fun inBelow =>
          apart reference here reference (List.mem_flatten.mpr ⟨below, member, inBelow⟩) rfl
        exact ⟨fun inBelow => ⟨inBelow, fun same => absent (same ▸ inBelow)⟩, And.left⟩

end Frames

namespace Engine

variable {storage : Storage} {conf : Configuration} {engine after : Engine} {thread : Nat}
  {reference global : Reference} {object : Object}

/-! ## Engines that calls lead to -/

/-- The engines that calls on references, requests of others and the ends of threads lead to. -/
inductive Reached (storage : Storage) (conf : Configuration) : Engine → Prop
  | new : Reached storage conf (new storage conf)
  | step {engine : Engine} (step : EngineStep) (reached : Reached storage conf engine)
    (offered : engine.Offered step) : Reached storage conf (engine.after step)
  | threadEnded {engine : Engine} (thread : Nat) (reached : Reached storage conf engine) :
    Reached storage conf (ended (endThread thread engine))

theorem Reached.tidy (reached : Reached storage conf engine) : engine.Tidy := by
  induction reached with
  | new => exact tidy_new storage conf
  | step step _ offered tidy => exact tidy.after offered
  | threadEnded thread _ tidy =>
    obtain ⟨storage, ran, kept⟩ := endThread_ok tidy thread
    rw [ran]
    exact (tidy.threadEnded thread).of_storage kept

theorem Reached.run {steps : List EngineStep} (reached : Reached storage conf engine)
    (offered : Throughout Offered engine steps) : Reached storage conf (engine.run steps) := by
  induction steps generalizing engine with
  | nil => exact reached
  | cons step rest ih => exact ih (.step step reached offered.1) offered.2

/-! ## All or nothing -/

/-- The object of a local reference is behind a new global one instead, and nothing else is different. -/
structure Promoted (thread : Nat) (reference global : Reference) (before after : Engine) : Prop where
  object : ∃ object, (before.framesOf thread).table.get? reference = some object ∧
    after.globals.get? global = some object
  isGlobal : global.isGlobal = true
  fresh : before.globals.get? global = none
  gone : (after.framesOf thread).table.get? reference = none
  unmentioned : reference ∉ (after.framesOf thread).stack.flatten
  /-- Frame by frame, what was mentioned still is. -/
  mentioned : List.Forall₂ (fun frame left => ∀ other, other ∈ left ↔ other ∈ frame ∧ other ≠ reference)
    (before.framesOf thread).stack (after.framesOf thread).stack
  locals : ∀ other, other ≠ reference →
    (after.framesOf thread).table.get? other = (before.framesOf thread).table.get? other
  globals : ∀ other, other ≠ global → after.globals.get? other = before.globals.get? other
  threads : ∀ other, other ≠ thread → after.framesOf other = before.framesOf other
  liveLocals : after.liveLocals thread + 1 = before.liveLocals thread
  liveGlobals : after.liveGlobals = before.liveGlobals + 1
  storage : after.storage = before.storage
  conf : after.conf = before.conf
  factories : after.factories = before.factories

theorem promoted_of_some {table globals : ReferenceTable Object} (tidy : engine.Tidy)
    (taken : (engine.framesOf thread).table.remove reference = (some object, table))
    (stored : engine.globals.insert object = some (global, globals)) :
    Promoted thread reference global engine { engine.setFrames thread
      ⟨table, Frames.forget reference (engine.framesOf thread).stack⟩ with globals } := by
  have orderly := tidy.frames thread
  have placed : framesOf { engine.setFrames thread
      ⟨table, Frames.forget reference (engine.framesOf thread).stack⟩ with globals } thread =
        ⟨table, Frames.forget reference (engine.framesOf thread).stack⟩ :=
    (framesOf_setFrames engine thread thread _).trans (if_pos rfl)
  have isTaken := (ReferenceTable.remove_taken orderly.consistent taken).1
  have isStored := (ReferenceTable.insert_stored tidy.globals stored).1
  refine ⟨⟨object, by rw [← ReferenceTable.remove_fst, taken], isStored.get?_iff.mpr (.inr ⟨rfl, rfl⟩)⟩, ?_,
    isStored.get?_eq_none, ?_, ?_, ?_, fun other different => ?_, fun other different => ?_, fun other different => ?_,
    ?_, ReferenceTable.insert_live stored, rfl, rfl, rfl⟩
  · rw [Reference.isGlobal, isStored.inScope, tidy.scope]
    rfl
  · rw [placed]
    exact Option.eq_none_iff_forall_ne_some.mpr fun held found => (isTaken.get?_iff.mp found).2 rfl
  · rw [placed]
    exact fun member => ((Frames.mem_forget_iff orderly.once).mp member).2 rfl
  · rw [placed]
    exact Frames.forall₂_forget orderly.once
  · rw [placed]
    exact Option.ext fun held => isTaken.get?_iff.trans (and_iff_left different)
  · exact Option.ext fun held => isStored.get?_iff.trans (or_iff_left fun new => different new.1)
  · exact (framesOf_setFrames engine thread other _).trans (if_neg different)
  · rw [liveLocals, placed]
    exact ReferenceTable.remove_live orderly.consistent taken

/-- The object that the global reference was made for is still behind the local one. -/
theorem deleteLocal_of_newGlobal (tidy : engine.Tidy) (isLocal : reference.isGlobal = false)
    (made : newGlobal thread reference engine = .ok global after) :
    ∃ last, deleteLocal thread reference after = .ok () last ∧ promote thread reference engine = .ok global last := by
  have resolves : engine.object? thread reference = (engine.framesOf thread).table.get? reference :=
    object?_of_local isLocal
  cases found : (engine.framesOf thread).table.get? reference with
  | none => cases (newGlobal_of_dead (resolves.trans found)).symm.trans made
  | some object =>
    cases inserted : engine.globals.insert object with
    | none => cases (newGlobal_of_none (resolves.trans found) inserted).symm.trans made
    | some result =>
      cases (newGlobal_of_some (resolves.trans found) inserted).symm.trans made
      have isIn : object.IsIn engine.storage := tidy.locals_exist found
      obtain ⟨table, taken⟩ := ReferenceTable.remove_of_get? found
      obtain ⟨storage, deleted, -⟩ := deleteLocal_of_some (tidy.globalStored isIn inserted) taken
      refine ⟨_, deleted, ?_⟩
      rw [promote, if_neg (Bool.eq_false_iff.mp isLocal)]
      beta_reduce
      rw [bind_of_ok made, bind_of_ok deleted]
      rfl

/-- Promotion is all or nothing, for every engine that calls lead to, every thread and every word. What does not
resolve on the thread, a global reference included, is refused as an invalid reference, and the engine is as it
was. What resolves is promoted as long as a global slot is left, and else the engine is as it was. Where the global
reference could be made, the local one is deleted: no global reference is left behind by a failure. -/
theorem promotion_all_or_nothing (storage : Storage) (conf : Configuration) (engine : Engine) (thread : Nat)
    (reference : Reference) (reached : Reached storage conf engine) :
    ((engine.framesOf thread).table.get? reference = none → ∃ exception, exception.kind = .invalidReference ∧
      promote thread reference engine = .error (.raised exception) engine) ∧
    (((engine.framesOf thread).table.get? reference).isSome → engine.liveGlobals < Reference.maxSlots →
      ∃ global after, promote thread reference engine = .ok global after ∧
        Promoted thread reference global engine after) ∧
    (((engine.framesOf thread).table.get? reference).isSome → engine.liveGlobals = Reference.maxSlots →
      promote thread reference engine = .error (.raised .globalsFull) engine) ∧
    engine.liveGlobals ≤ Reference.maxSlots ∧
    (∀ global after, reference.isGlobal = false → newGlobal thread reference engine = .ok global after →
      ∃ last, deleteLocal thread reference after = .ok () last ∧
        promote thread reference engine = .ok global last) := by
  have tidy := reached.tidy
  refine ⟨fun dead => ?_, fun live room => ?_, fun live full => ?_, ReferenceTable.live_le tidy.globals,
    fun global after isLocal => deleteLocal_of_newGlobal tidy isLocal⟩
  · cases isGlobal : reference.isGlobal with
    | true => exact ⟨_, rfl, promote_of_global isGlobal⟩
    | false => exact ⟨_, rfl, promote_of_dead isGlobal dead⟩
  · obtain ⟨object, found⟩ := Option.isSome_iff_exists.mp live
    obtain ⟨table, taken⟩ := ReferenceTable.remove_of_get? found
    cases inserted : engine.globals.insert object with
    | none => exact absurd ((ReferenceTable.insert_eq_none_iff tidy.globals object).mp inserted) room.ne
    | some result => exact ⟨_, _, promote_of_some tidy taken inserted, promoted_of_some tidy taken inserted⟩
  · obtain ⟨object, found⟩ := Option.isSome_iff_exists.mp live
    exact promote_of_none tidy found ((ReferenceTable.insert_eq_none_iff tidy.globals object).mpr full)

/-- A thread has references in two frames, and another thread has one in the same slot as the first of them. -/
def sharing : List EngineStep :=
  [.references 0 (.newLocal (.fileStatuses [])), .references 0 .pushFrame,
    .references 0 (.newLocal (.blockLocations [])), .references 1 (.newLocal (.fileStatuses []))]

/-- Once the other thread has ended, its word is stale there. On the first thread the same word is promoted, out of
the frame below the top one. -/
theorem promotion_all_or_nothing_shared :
    let engine := ended (endThread 1 ((new (.new 0 (.new 0 .root 0 0)) .default).run sharing))
    let first : Reference := ⟨0x100000000, by decide⟩
    Reached (.new 0 (.new 0 .root 0 0)) .default engine ∧
    (∃ exception, exception.kind = .invalidReference ∧
      promote 1 first engine = .error (.raised exception) engine) ∧
    ∃ global after, promote 0 first engine = .ok global after ∧ Promoted 0 first global engine after := by
  intro engine first
  have reached : Reached (.new 0 (.new 0 .root 0 0)) .default engine := by
    refine .threadEnded 1 (.run .new ⟨?_, nofun, ?_, ?_, trivial⟩) <;>
      rintro _ _ ⟨⟩ _ ⟨⟩
  obtain ⟨stale, -⟩ := promotion_all_or_nothing _ _ engine 1 first reached
  obtain ⟨-, promoted, -⟩ := promotion_all_or_nothing _ _ engine 0 first reached
  exact ⟨reached, stale (by decide +kernel), promoted (by decide +kernel) (by decide +kernel)⟩

end Engine

end FileGateway
