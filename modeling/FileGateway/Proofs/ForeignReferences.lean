import FileGateway.Proofs.Engine.Histories
import FileGateway.Proofs.FileHandles

/-! # Local references on other threads

A local reference does not tell which thread it belongs to: every thread counts its slots and their generations
from zero. So what a thread makes of a local reference depends on its own history alone. It refuses the
reference as long as it has not handed out the same word itself, or has given that up; otherwise it takes the
reference for its own.
-/

namespace FileGateway

namespace Engine

variable {α : Type} {start engine : Engine} {thread : Nat} {step : EngineStep} {steps : List EngineStep}
  {reference : Reference} {object : Object}

/-- A thread has answered a local reference to an object, and no call of it since has deleted or promoted the
reference or popped its frame. -/
inductive Held (start : Engine) (thread : Nat) (reference : Reference) (object : Object) : List EngineStep → Prop
  | given (before : List EngineStep) (step : EngineStep)
    (gives : (start.run before).Gives thread reference object step) :
    Held start thread reference object (before ++ [step])
  | kept (before : List EngineStep) (step : EngineStep) (still : Held start thread reference object before)
    (notRetired : ¬(start.run before).Retires thread reference step)
    (notReleased : ¬(start.run before).Releases thread reference step) :
    Held start thread reference object (before ++ [step])

/-- After a history a thread's table resolves what the thread itself has handed out and not given up. -/
theorem get?_run_iff (tidy : start.Tidy) (offered : Throughout Offered start steps)
    (unresolved : (start.framesOf thread).table.get? reference = none) :
    ((start.run steps).framesOf thread).table.get? reference = some object ↔
      Held start thread reference object steps := by
  constructor
  · intro found
    induction steps using List.reverseRecOn with
    | nil => cases unresolved.symm.trans found
    | append_singleton before step ih =>
      have offeredBefore := (throughout_concat.mp offered).1
      rw [run_append] at found
      rcases (get?_after (tidy.run offeredBefore) step).mp found with ⟨still, notRetired, notReleased⟩ | gives
      · exact .kept before step (ih offeredBefore still) notRetired notReleased
      · exact .given before step gives
  · intro held
    induction held with
    | given before step gives =>
      rw [run_append]
      exact (get?_after (tidy.run (throughout_concat.mp offered).1) step).mpr (.inr gives)
    | kept before step still notRetired notReleased ih =>
      have offeredBefore := (throughout_concat.mp offered).1
      rw [run_append]
      exact (get?_after (tidy.run offeredBefore) step).mpr (.inl ⟨ih offeredBefore, notRetired, notReleased⟩)

/-- An action fails because of a reference that is not good, and changes nothing. -/
def Invalid (action : EngineAction α) (engine : Engine) : Prop :=
  ∃ exception, action engine = .error (.raised exception) engine ∧ exception.kind = .invalidReference

/-- A thread refuses a local reference, whatever it is used for. -/
structure Refuses (thread : Nat) (reference : Reference) (engine : Engine) : Prop where
  resolve : Invalid (resolve thread reference) engine
  cast : ∀ {α : Type} (expected : String) (read : Object → Option α),
    Invalid (cast expected read thread reference) engine
  deleteLocal : Invalid (deleteLocal thread reference) engine
  promote : Invalid (promote thread reference) engine
  convert : ∀ gateway : Gateway, gateway.engine = engine →
    let result := Gateway.convertToGlobalRef thread reference.raw gateway
    result.1 = 0 ∧ Gateway.Untouched thread gateway result.2 ∧
      ∃ exception, result.2.errorsOf thread = .record (.exception exception) ∧ exception.kind = .invalidReference

variable {gateway : Gateway}

/-- Turning a reference global fails as promoting it does. -/
private theorem convert_of_dead (grounded : engine.Grounded) (isLocal : reference.isGlobal = false)
    (unresolved : (engine.framesOf thread).table.get? reference = none) (isEngine : gateway.engine = engine) :
    Gateway.convertToGlobalRef thread reference.raw gateway =
      (0, (gateway.reframed thread).record thread (.exception (.deadReference reference))) := by
  subst isEngine
  have unresolvedInside : ((gateway.pushed thread).engine.framesOf thread).table.get? reference = none := by
    rw [Gateway.pushed, framesOf_setFrames, if_pos rfl]
    exact unresolved
  have isReference : Gateway.referenceArgument reference.raw (gateway.pushed thread) =
      .ok reference (gateway.pushed thread) := by
    rw [Gateway.referenceArgument, Reference.ofRaw?, dif_pos reference.nonzero]
    rfl
  refine Gateway.call_of_failure .convertToGlobalRef 0 (.failed (.raised (.deadReference reference))) grounded ?_
  rw [bind_of_ok isReference]
  refine bind_of_error ?_
  rw [Gateway.onEngine, promote_of_dead isLocal unresolvedInside]

/-- A thread refuses a local reference exactly if its own table does not resolve it. -/
theorem refuses_iff (tidy : engine.Tidy) (isLocal : reference.isGlobal = false) :
    Refuses thread reference engine ↔ (engine.framesOf thread).table.get? reference = none := by
  have resolves : engine.object? thread reference = (engine.framesOf thread).table.get? reference :=
    object?_of_local isLocal
  constructor
  · rintro ⟨⟨exception, failed, -⟩, -, -, -, -⟩
    rw [resolve_run, resolves] at failed
    cases found : (engine.framesOf thread).table.get? reference with
    | none => rfl
    | some object =>
      rw [found] at failed
      cases failed
  · intro unresolved
    have dead : resolve thread reference engine = .error (.raised (.deadReference reference)) engine := by
      rw [resolve_run, resolves, unresolved]
    refine ⟨⟨_, dead, rfl⟩, fun expected read => ⟨_, bind_of_error dead, rfl⟩,
      ⟨_, deleteLocal_of_none isLocal unresolved, rfl⟩, ⟨_, promote_of_dead isLocal unresolved, rfl⟩,
      fun gateway isEngine => ?_⟩
    have grounded : engine.Grounded := fun other => (tidy.frames other).grounded
    rw [convert_of_dead grounded isLocal unresolved isEngine]
    refine ⟨rfl, Gateway.untouched_record _, .deadReference reference, ?_, rfl⟩
    rw [Gateway.record, Gateway.errorsOf, SortedMap.get?_insert, if_pos rfl, Option.getD_some]

/-- A local reference that a thread does not refuse is one of its own, and calls with it act on the thread's own
object. -/
theorem own_of_found (tidy : engine.Tidy) (found : (engine.framesOf thread).table.get? reference = some object) :
    resolve thread reference engine = .ok object engine ∧
    (∃ after, deleteLocal thread reference engine = .ok () after ∧
      (after.framesOf thread).table.get? reference = none) ∧
    Leads (promote thread reference) engine
      (fun global after => after.globals.get? global = some object ∧
        (after.framesOf thread).table.get? reference = none)
      (fun failure after => failure = .raised .globalsFull ∧ after = engine) := by
  obtain ⟨table, taken⟩ := ReferenceTable.remove_of_get? found
  have gone : ((engine.setFrames thread ⟨table, Frames.forget reference (engine.framesOf thread).stack⟩).framesOf
      thread).table.get? reference = none := by
    rw [framesOf_setFrames, if_pos rfl]
    refine Option.eq_none_iff_forall_ne_some.mpr fun held left => ?_
    exact ((ReferenceTable.remove_taken (tidy.frames thread).consistent taken).1.get?_iff.mp left).2 rfl
  refine ⟨?_, ?_, ?_⟩
  · rw [resolve_run, object?_of_local (tidy.isLocal found), found]
  · obtain ⟨storage, ran, -⟩ := deleteLocal_of_some tidy taken
    exact ⟨_, ran, gone⟩
  · cases stored : engine.globals.insert object with
    | none => exact .of_error (promote_of_none tidy found stored) ⟨rfl, rfl⟩
    | some result =>
      have held : result.2.get? result.1 = some object :=
        (ReferenceTable.insert_stored tidy.globals stored).1.get?_iff.mpr (.inr ⟨rfl, rfl⟩)
      exact .of_ok (promote_of_some tidy taken stored) ⟨held, gone⟩

/-- After every history of calls on references, a thread refuses a local reference, whichever thread has handed it
out, exactly if the thread does not hold the same word itself. If it does, every use of the reference is one of
the thread's own object. -/
theorem refused_iff_not_held (storage : Storage) (conf : Configuration) (steps : List EngineStep) (thread : Nat)
    (reference : Reference) (offered : Throughout Offered (new storage conf) steps)
    (isLocal : reference.isGlobal = false) :
    let engine := (new storage conf).run steps
    (Refuses thread reference engine ↔ ¬∃ object, Held (new storage conf) thread reference object steps) ∧
    ∀ object, Held (new storage conf) thread reference object steps →
      resolve thread reference engine = .ok object engine ∧
      (∃ after, deleteLocal thread reference engine = .ok () after ∧
        (after.framesOf thread).table.get? reference = none) ∧
      Leads (promote thread reference) engine
        (fun global after => after.globals.get? global = some object ∧
          (after.framesOf thread).table.get? reference = none)
        (fun failure after => failure = .raised .globalsFull ∧ after = engine) := by
  intro engine
  have tidy : engine.Tidy := (tidy_new storage conf).run offered
  have holds {object : Object} : (engine.framesOf thread).table.get? reference = some object ↔
      Held (new storage conf) thread reference object steps :=
    get?_run_iff (tidy_new storage conf) offered (ReferenceTable.get?_empty ..)
  refine ⟨?_, fun object held => own_of_found tidy (holds.mpr held)⟩
  rw [refuses_iff tidy isLocal, Option.eq_none_iff_forall_ne_some, not_exists]
  exact forall_congr' fun object => not_congr holds

/-- Two threads each put an object into a local reference. -/
def handingOut : List EngineStep :=
  [.references 0 (.newLocal (.fileStatuses [])), .references 1 (.newLocal (.blockLocations []))]

/-- A third thread refuses the reference, and the second holds the same word. -/
theorem refused_iff_not_held_by_third :
    let start := new (.new 0 (.new 0 .root 0 0)) .default
    let reference : Reference := ⟨0x100000000, by decide⟩
    Throughout Offered start handingOut ∧ reference.isGlobal = false ∧
      Refuses 2 reference (start.run handingOut) ∧
      Held start 1 reference (.blockLocations []) handingOut ∧
      resolve 1 reference (start.run handingOut) = .ok (.blockLocations []) (start.run handingOut) := by
  intro start reference
  have offered : Throughout Offered start handingOut := by
    refine ⟨?_, ?_, trivial⟩ <;>
      rintro _ _ ⟨⟩ _ ⟨⟩
  have isLocal : reference.isGlobal = false := by decide
  have law (thread : Nat) := refused_iff_not_held (.new 0 (.new 0 .root 0 0)) .default handingOut thread reference
    offered isLocal
  have held : Held start 1 reference (.blockLocations []) handingOut :=
    .given [.references 0 (.newLocal (.fileStatuses []))] (.references 1 (.newLocal (.blockLocations [])))
      ⟨_, rfl, by decide +kernel, .inl rfl⟩
  refine ⟨offered, isLocal, (law 2).1.mpr ?_, held, ((law 1).2 _ held).1⟩
  rintro ⟨object, given⟩
  have found := (get?_run_iff (tidy_new _ _) offered (ReferenceTable.get?_empty ..)).mpr given
  have nothing : ((start.run handingOut).framesOf 2).table.get? reference = none := by decide +kernel
  cases nothing.symm.trans found

/-- The first thread's reference is not refused on the second: it resolves to the second's own object, and
deleting it there takes away the second's own reference. -/
theorem foreign_reference_taken_for_own :
    let start := new (.new 0 (.new 0 .root 0 0)) .default
    let reference : Reference := ⟨0x100000000, by decide⟩
    let engine := start.run handingOut
    start.Gives 0 reference (.fileStatuses []) (.references 0 (.newLocal (.fileStatuses []))) ∧
      resolve 1 reference engine = .ok (.blockLocations []) engine ∧ ¬Refuses 1 reference engine ∧
      engine.liveLocals 1 = 1 ∧ (ended (deleteLocal 1 reference engine)).liveLocals 1 = 0 := by
  intro start reference engine
  have found : engine.object? 1 reference = some (.blockLocations []) := by decide +kernel
  have resolved : resolve 1 reference engine = .ok (.blockLocations []) engine := by rw [resolve_run, found]
  refine ⟨⟨_, rfl, by decide +kernel, .inl rfl⟩, resolved, fun refuses => ?_, by decide +kernel, by decide +kernel⟩
  obtain ⟨exception, failed, -⟩ := refuses.resolve
  cases resolved.symm.trans failed

end Engine

end FileGateway
