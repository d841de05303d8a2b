import FileGateway.Gateway.Files
import FileGateway.Gateway.Info
import FileGateway.Proofs.Engine.Effects

/-! # What calls of native code do to references and open files

Every entry point makes one call on the global table at most: it promotes what it made, or gives up what
it was given. Open files stay as they are, apart from the one that a call opens or closes.
-/

namespace FileGateway.Gateway

variable {α : Type} {gateway before after : Gateway} {thread used : Nat} {address : UInt64}
  {fate : UInt64 → Option OpenFile → Prop}

/-- Every address has the file that it had, or one that the fate allows for it. -/
structure Moved (fate : UInt64 → Option OpenFile → Prop) (used : Nat) (before after : Gateway) : Prop where
  engine : Engine.Moved used before.engine after.engine
  files : ∀ address, after.files.get? address = before.files.get? address ∨ fate address (after.files.get? address)

instance : Metered (Moved fate) where
  refl _ := ⟨Metered.refl _, fun _ => .inl rfl⟩
  trans := by
    intro first second before middle after one two
    refine ⟨Metered.trans one.engine two.engine, fun address => ?_⟩
    rcases two.files address with same | fated
    · rw [same]
      exact one.files address
    · exact .inr fated
  weaken one fewer := ⟨Metered.weaken one.engine fewer, one.files⟩

/-- Only the engine has moved. -/
theorem Moved.of_engine (engine : Engine.Moved used before.engine after.engine) (files : after.files = before.files) :
    Moved fate used before after where
  engine := engine
  files address := .inl (by rw [files])

theorem onEngine_moved {action : EngineAction α} (within : Within Engine.Moved used action) :
    Within (Moved fate) used (onEngine action) := by
  intro gateway
  have moved := within gateway.engine
  rw [onEngine]
  rcases ran : action gateway.engine with ⟨value, engine⟩ | ⟨failure, engine⟩ <;> rw [ran] at moved
  · exact .of_engine moved rfl
  · exact .of_engine moved rfl

theorem onStorage_moved (action : Action α) : Within (Moved fate) 0 (onStorage action) :=
  onEngine_moved (Engine.onStorage_moved action)

/-! ## Parts of calls -/

/-- An exception is handed over as a value, and any other failure goes on. -/
theorem attempt_run (inside : CallAction α) (gateway : Gateway) : attempt inside gateway =
    match inside gateway with
    | .ok value after => .ok (.ok value) after
    | .error (.failed (.raised exception)) after => .ok (.error exception) after
    | .error failure after => .error failure after := by
  unfold attempt
  simp only [bind, EStateM.bind, tryCatch, tryCatchThe, MonadExceptOf.tryCatch, EStateM.tryCatch]
  rcases inside gateway with ⟨value, after⟩ | ⟨_ | _ | _ | _ | _, after⟩ <;> rfl

theorem attempt_within {bound : Nat → Gateway → Gateway → Prop} {inside : CallAction α}
    (within : Within bound used inside) : Within bound used (attempt inside) := by
  intro gateway
  have bounded := within gateway
  rw [attempt_run]
  rcases ran : inside gateway with ⟨value, after⟩ | ⟨_ | _ | _ | _ | _, after⟩ <;> rw [ran] at bounded <;>
    exact bounded

section Looking

/-! What only looks stays within every bound. -/

variable {bound : Nat → Gateway → Gateway → Prop} [Metered bound]

theorem refuse_within (error : CallError) : Within bound 0 (refuse error : CallAction α) := .throw _

theorem answerOf_within (outcome : Except Exception α) : Within bound 0 (answerOf outcome) := by
  cases outcome with
  | ok value => exact .pure value
  | error exception => exact .throw _

theorem cast_within (expected : String) (read : Object → Option α) (thread : Nat) (reference : Reference) :
    Within bound 0 (onEngine (Engine.cast expected read thread reference)) := by
  refine .of_same fun gateway => ?_
  have same := Engine.ended_cast expected read thread reference gateway.engine
  rw [onEngine]
  rcases ran : Engine.cast expected read thread reference gateway.engine with ⟨value, engine⟩ | ⟨failure, engine⟩ <;>
    rw [ran] at same <;>
    obtain rfl : engine = gateway.engine := same <;>
    rfl

theorem pathArgument_within (name : String) (path : Option Bytes) : Within bound 0 (pathArgument name path) := by
  cases path with
  | none => exact refuse_within _
  | some bytes =>
    rw [pathArgument]
    split
    · exact .pure _
    · exact refuse_within _

theorem sizeArgument_within (name : String) (value : Int) : Within bound 0 (sizeArgument name value) := by
  rw [sizeArgument]
  split
  · exact refuse_within _
  · exact .pure _

theorem fileSystemArgument_within (word : UInt64) : Within bound 0 (fileSystemArgument word) := by
  rw [fileSystemArgument]
  split
  · exact refuse_within _
  · split
    · exact .pure _
    · exact refuse_within _

theorem clientArgument_within (thread : Nat) (word : UInt64) : Within bound 0 (clientArgument thread word) :=
  .after (fileSystemArgument_within word) fun reference => cast_within _ _ thread reference

theorem referenceArgument_within (word : UInt64) : Within bound 0 (referenceArgument word) := by
  rw [referenceArgument]
  split
  · exact refuse_within _
  · exact .pure _

theorem sizeResult_within (value : Nat) : Within bound 0 (sizeResult value) := by
  rw [sizeResult]
  split
  · exact .pure _
  · exact refuse_within _

theorem offsetResult_within (value : Nat) : Within bound 0 (offsetResult value) := by
  rw [offsetResult]
  split
  · exact .pure _
  · exact refuse_within _

theorem orRefuse_within (outcome : Except CallError α) : Within bound 0 (orRefuse outcome) := by
  cases outcome with
  | ok value => exact .pure value
  | error error => exact refuse_within error

theorem target_within (host : Option Bytes) (port : UInt16) : Within bound 0 (target host port) := by
  rw [target.eq_def]
  split
  · exact .pure _
  · split
    · exact refuse_within _
    · split
      · exact .pure _
      · split
        · exact .pure _
        · exact refuse_within _

theorem lookup_within (address : UInt64) : Within bound 0 (lookup address) := by
  rw [lookup]
  refine .guarded (refuse_within _) (.after .get fun gateway => ?_)
  split
  · exact .pure _
  · exact refuse_within _

theorem streamArgument_within (thread : Nat) (entry : EntryPoint) (fileSystem address : UInt64)
    (expected : Direction) : Within bound 0 (streamArgument thread entry fileSystem address expected) := by
  refine .after (lookup_within address) fun file => ?_
  split
  · exact refuse_within _
  · exact .guarded (refuse_within _) (.after (clientArgument_within thread fileSystem) fun _ => .pure _)

theorem readWith_within {action : Nat → Action ReadResult} (acts : ∀ number, Within bound 0 (onStorage (action number)))
    (thread : Nat) (buffered : Bool) (length : Nat) (stream : Reference) :
    Within bound 0 (readWith thread buffered length stream action) := by
  rw [readWith]
  split
  · exact .pure _
  · exact .guarded (refuse_within _) (.after (cast_within _ _ thread stream) fun number =>
      .after (acts number) fun result => .after (sizeResult_within _) fun _ => .pure _)

theorem closeBy_within (acts : ∀ number, Within bound 0 (onStorage (Storage.closeStream number)))
    (flushes : ∀ number, Within bound 0 (onStorage (Storage.flush number))) (thread : Nat) (stream : Reference)
    (direction : Direction) : Within bound 0 (closeBy thread stream direction) := by
  cases direction with
  | nothing => exact .pure _
  | reading => exact .after (cast_within _ _ thread stream) acts
  | writing =>
    exact .after (cast_within _ _ thread stream) fun number =>
      .after (attempt_within (flushes number)) fun _ => .after (attempt_within (acts number)) fun _ =>
      .after (answerOf_within _) fun _ => answerOf_within _

end Looking

/-! ## Calls -/

/-- The gateway where the inside of a call starts. -/
def pushed (gateway : Gateway) (thread : Nat) : Gateway :=
  { gateway with engine := gateway.engine.setFrames thread (gateway.engine.framesOf thread).push }

/-- The gateway after the frame of a call is popped. -/
def popped (gateway : Gateway) (thread : Nat) : Gateway :=
  ended (onEngine (discard (Engine.popFrame thread none)) gateway)

theorem call_run (thread : Nat) (entry : EntryPoint) (sentinel : α) (inside : CallAction α) (gateway : Gateway) :
    call thread entry sentinel inside gateway =
      match inside (gateway.pushed thread) with
      | .ok value after => (value, after.popped thread)
      | .error failure after => (sentinel, (after.popped thread).record thread (errorOf entry failure)) := by
  have opened : between (onEngine (Engine.pushFrame thread)) (onEngine (discard (Engine.popFrame thread none))) inside
      gateway = endingWith (onEngine (discard (Engine.popFrame thread none))) inside (gateway.pushed thread) := rfl
  rw [call, opened, endingWith]
  rcases inside (gateway.pushed thread) with ⟨value, after⟩ | ⟨failure, after⟩
  all_goals
    simp only [popped]
    rcases onEngine (discard (Engine.popFrame thread none)) after with _ | _ <;> rfl

theorem pushed_moved (thread : Nat) (gateway : Gateway) : Moved fate 0 gateway (gateway.pushed thread) :=
  .of_engine (Engine.pushFrame_moved thread gateway.engine) rfl

theorem popped_moved (thread : Nat) (gateway : Gateway) : Moved fate 0 gateway (gateway.popped thread) :=
  onEngine_moved (.discard (Engine.popFrame_moved thread none)) gateway

/-- A call moves what its inside moves. -/
theorem call_moved {entry : EntryPoint} {sentinel : α} {inside : CallAction α}
    (within : Within (Moved fate) used inside) (gateway : Gateway) :
    Moved fate used gateway (call thread entry sentinel inside gateway).2 := by
  have inner := within (gateway.pushed thread)
  have start : Moved fate (0 + used) gateway (ended (inside (gateway.pushed thread))) :=
    Metered.trans (pushed_moved thread gateway) inner
  rw [Nat.zero_add] at start
  rw [call_run]
  rcases ran : inside (gateway.pushed thread) with ⟨value, after⟩ | ⟨failure, after⟩ <;> rw [ran] at start
  · exact Metered.trans start (popped_moved thread after)
  · have left : Moved fate used gateway (after.popped thread) := Metered.trans start (popped_moved thread after)
    exact ⟨left.engine, left.files⟩

end FileGateway.Gateway
