import FileGateway.Proofs.Engine.Inside
import FileGateway.Proofs.Gateway.Run

/-! # Inside a call of native code

Every entry point runs its inside in a frame of the calling thread, and pops it whatever happens. So a call that
promotes nothing from before leaves the local references of its thread as they were, and all that is left of it is
what it did to the global table, to the open files and to the storage.
-/

namespace FileGateway.Gateway

variable {α : Type} {thread : Nat} {start gateway after : Gateway} {globals : ReferenceTable Object}
  {files : SortedMap UInt64 OpenFile} {stream : Reference} {object : Object} {direction : Direction}

/-- The state of a gateway inside a call of a thread, with the global table and the files as they are so far. -/
structure Inside (thread : Nat) (start : Gateway) (globals : ReferenceTable Object)
    (files : SortedMap UInt64 OpenFile) (gateway : Gateway) : Prop where
  engine : Engine.Inside thread start.engine globals gateway.engine
  files : gateway.files = files
  errors : gateway.errors = start.errors

/-- The state of a gateway after a call of a thread, but for the errors. -/
structure Settled (thread : Nat) (start : Gateway) (globals : ReferenceTable Object)
    (files : SortedMap UInt64 OpenFile) (gateway : Gateway) : Prop where
  engine : Engine.Settled thread start.engine globals gateway.engine
  files : gateway.files = files

/-! ## The ends of a call -/

theorem inside_pushed (tidy : gateway.engine.Tidy) (unscripted : gateway.engine.Unscripted) (thread : Nat) :
    Inside thread gateway gateway.engine.globals gateway.files (gateway.pushed thread) :=
  ⟨Engine.inside_pushed tidy unscripted thread, rfl, rfl⟩

theorem Inside.of_engine {globals' : ReferenceTable Object} {engine : Engine}
    (inside : Inside thread start globals files gateway) (goesOn : Engine.Inside thread start.engine globals' engine) :
    Inside thread start globals' files { gateway with engine } :=
  ⟨goesOn, inside.files, inside.errors⟩

theorem popped_eq (gateway : Gateway) (thread : Nat) :
    gateway.popped thread = { gateway with engine := ended (Engine.popFrame thread none gateway.engine) } := by
  have same := ended_discard (Engine.popFrame thread none) gateway.engine
  rw [popped, onEngine]
  rcases ran : discard (Engine.popFrame thread none) gateway.engine with ⟨value, engine⟩ | ⟨failure, engine⟩ <;>
    rw [ran] at same <;>
    exact congrArg (fun engine => { gateway with engine }) same

theorem Inside.popped (inside : Inside thread start globals files gateway) (tidy : start.engine.Tidy) :
    Settled thread start globals files (gateway.popped thread) := by
  rw [popped_eq]
  exact ⟨(inside.engine.popped tidy).1, inside.files⟩

theorem Inside.kept_popped (inside : Inside thread start globals files gateway) (tidy : start.engine.Tidy) :
    gateway.engine.storage.Kept (gateway.popped thread).engine.storage := by
  rw [popped_eq]
  exact (inside.engine.popped tidy).2

theorem Settled.record (settled : Settled thread start globals files gateway) (error : CallError) :
    Settled thread start globals files (gateway.record thread error) := ⟨settled.engine, settled.files⟩

/-- What holds of every end of the inside of a call, with its frame popped, holds of the call. -/
theorem call_leads (does : α → Gateway → Prop) {entry : EntryPoint} {sentinel : α} {inside : CallAction α}
    (leads : Leads inside (gateway.pushed thread) (fun answer middle => does answer (middle.popped thread))
      (fun failure middle => does sentinel ((middle.popped thread).record thread (errorOf entry failure)))) :
    does (call thread entry sentinel inside gateway).1 (call thread entry sentinel inside gateway).2 := by
  rw [call_run]
  rcases ran : inside (gateway.pushed thread) with ⟨answer, middle⟩ | ⟨failure, middle⟩
  · exact leads.answer ran
  · exact leads.failure ran

/-! ## Quiet calls -/

/-- What goes on inside a call keeps it going. -/
def Staying (thread : Nat) (_ : Nat) (before after : Gateway) : Prop :=
  ∀ start globals files, Inside thread start globals files before → Inside thread start globals files after

instance : Metered (Staying thread) where
  refl _ _ _ _ := id
  trans one two start globals files inside := two start globals files (one start globals files inside)
  weaken one _ := one

theorem onEngine_stays {action : EngineAction α} (stays : Within (Engine.Staying thread) 0 action) :
    Within (Staying thread) 0 (onEngine action) := by
  intro gateway start globals files inside
  have goesOn := stays gateway.engine start.engine globals inside.engine
  rw [onEngine]
  rcases ran : action gateway.engine with ⟨value, engine⟩ | ⟨failure, engine⟩ <;> rw [ran] at goesOn
  · exact inside.of_engine goesOn
  · exact inside.of_engine goesOn

theorem onStorage_stays {action : Action α} (keeps : Storage.Keeps action) :
    Within (Staying thread) 0 (onStorage action) := onEngine_stays (Engine.onStorage_stays keeps)

/-- A quiet call settles with the global table and the files that it started with. -/
theorem bearing_stays (thread : Nat) : Bearing thread (Staying thread) fun before after =>
    before.engine.Tidy → before.engine.Unscripted →
      Settled thread before before.engine.globals before.files after where
  onStorage keeps := onStorage_stays keeps
  keep reference _ _ plain keeps := onEngine_stays (Engine.keep_stays reference plain keeps)
  call {_ _ _ inside} stays gateway tidy unscripted := by
    have started := inside_pushed tidy unscripted thread
    refine call_leads (fun _ after => Settled thread gateway _ _ after) (.of_within stays ?_ ?_)
    · exact fun _ middle goesOn => (goesOn _ _ _ started).popped tidy
    · exact fun _ middle goesOn => ((goesOn _ _ _ started).popped tidy).record _
  aside {before after} engine files tidy unscripted := by
    refine ⟨?_, files⟩
    rw [engine]
    exact Engine.settled_refl tidy unscripted thread

/-! ## Parts of the other calls -/

theorem onEngine_of_ok {action : EngineAction α} {value : α} {engine : Engine}
    (ran : action gateway.engine = .ok value engine) :
    onEngine action gateway = .ok value { gateway with engine } := by
  rw [onEngine, ran]

theorem onEngine_of_error {action : EngineAction α} {failure : Failure} {engine : Engine}
    (ran : action gateway.engine = .error failure engine) :
    onEngine action gateway = .error (.failed failure) { gateway with engine } := by
  rw [onEngine, ran]

namespace Inside

variable (inside : Inside thread start globals files gateway)
include inside

theorem leads {action : CallAction α} (stays : Within (Staying thread) 0 action) : Leads action gateway
    (fun _ after => Inside thread start globals files after) (fun _ after => Inside thread start globals files after) :=
  .of_within stays (fun _ _ goesOn => goesOn _ _ _ inside) fun _ _ goesOn => goesOn _ _ _ inside

/-- An action on the engine leads to the same with the gateway around it. -/
theorem onEngine {action : EngineAction α} {answered : α → Engine → Prop}
    (leads : Leads action gateway.engine answered fun _ engine => Engine.Inside thread start.engine globals engine) :
    Leads (onEngine action) gateway
      (fun value after => ∃ engine, answered value engine ∧ after = { gateway with engine })
      (fun _ after => Inside thread start globals files after) := by
  rcases ran : action gateway.engine with ⟨value, engine⟩ | ⟨failure, engine⟩
  · exact .of_ok (onEngine_of_ok ran) ⟨engine, leads.answer ran, rfl⟩
  · exact .of_error (onEngine_of_error ran) (inside.of_engine (leads.failure ran))

theorem referenceArgument (word : UInt64) : Leads (referenceArgument word) gateway
    (fun reference after => word = reference.raw ∧ after = gateway)
    (fun _ after => Inside thread start globals files after) := by
  rw [Gateway.referenceArgument]
  cases found : Reference.ofRaw? word with
  | none => exact .of_error rfl inside
  | some reference => exact .of_ok rfl ⟨(Reference.ofRaw?_eq_some_iff.mp found).symm, rfl⟩

theorem fileSystemArgument (word : UInt64) : Leads (fileSystemArgument word) gateway
    (fun reference after => word = reference.raw ∧ reference.isGlobal = true ∧ after = gateway)
    (fun _ after => Inside thread start globals files after) := by
  have stays := inside.leads (fileSystemArgument_within word)
  rcases ran : Gateway.fileSystemArgument word gateway with ⟨reference, after⟩ | ⟨failure, after⟩
  · obtain ⟨found, isGlobal, same⟩ := fileSystemArgument_ok ran
    exact .of_ok ran ⟨(Reference.ofRaw?_eq_some_iff.mp found).symm, isGlobal, same⟩
  · exact .of_error ran (stays.failure ran)

theorem fileSystem {reference : Reference} (isGlobal : reference.isGlobal = true) :
    Leads (Gateway.onEngine (Engine.fileSystem thread reference)) gateway
      (fun client after => globals.get? reference = some (.fileSystem client) ∧ after = gateway)
      (fun _ after => Inside thread start globals files after) := by
  rcases ran : Gateway.onEngine (Engine.fileSystem thread reference) gateway with ⟨client, after⟩ | ⟨failure, after⟩
  · obtain ⟨found, same⟩ := fileSystem_ok isGlobal ran
    exact .of_ok ran ⟨inside.engine.globals ▸ found, same⟩
  · exact .of_error ran ((inside.leads (cast_within _ _ thread reference)).failure ran)

/-- What is only tried answers, if it fails with nothing but exceptions. -/
theorem attempt_onStorage {action : Action α} (keeps : Storage.Keeps action)
    (raises : Storage.Raises action gateway.engine.storage) :
    ∃ outcome after, attempt (onStorage action) gateway = .ok outcome after ∧
      Inside thread start globals files after ∧ gateway.engine.storage.Kept after.engine.storage := by
  have kept := keeps gateway.engine.storage
  have stays := inside.leads (onStorage_stays keeps)
  rw [attempt_run]
  rcases ran : action gateway.engine.storage with ⟨value, storage⟩ | ⟨failure, storage⟩ <;> rw [ran] at kept
  · have done : onStorage action gateway = .ok value { gateway with engine := { gateway.engine with storage } } :=
      onEngine_of_ok (by rw [Engine.onStorage, ran])
    rw [done]
    exact ⟨_, _, rfl, stays.answer done, kept⟩
  · obtain ⟨exception, rfl⟩ := raises _ _ ran
    have done : onStorage action gateway =
        .error (.failed (.raised exception)) { gateway with engine := { gateway.engine with storage } } :=
      onEngine_of_error (by rw [Engine.onStorage, ran])
    rw [done]
    exact ⟨_, _, rfl, stays.failure done, kept⟩

end Inside

end FileGateway.Gateway
