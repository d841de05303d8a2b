import FileGateway.Proofs.Engine.Histories
import FileGateway.Proofs.Storage.Lifetimes

/-! # Inside a call

A call runs in a frame of its own. While it does, everything that its thread had before stays as it was at the
start of the call: the frames below, and what the references in them resolve to. What the call makes goes into
its frame, and at the end the frame goes. Only the global table keeps what is put there, and loses what is given
up.
-/

namespace FileGateway

theorem Object.isIn_of_plain {object : Object} {storage : Storage} (plain : object.stream? = none) :
    object.IsIn storage := fun _ same => nomatch plain.symm.trans same

namespace Engine

variable {α : Type} {thread : Nat} {start engine : Engine} {globals : ReferenceTable Object} {reference : Reference}
  {object : Object} {storage : Storage}

/-- No address leads to scripted clients. -/
def Unscripted (engine : Engine) : Prop :=
  ∀ authority factory, engine.factories.get? authority = some factory → factory.script = .none

/-- The state of an engine inside a call of a thread, with the global table as the call has left it so far. -/
structure Inside (thread : Nat) (start : Engine) (globals : ReferenceTable Object) (engine : Engine) : Prop where
  tidy : engine.Tidy
  unscripted : engine.Unscripted
  factories : engine.factories = start.factories
  kept : start.storage.Kept engine.storage
  globals : engine.globals = globals
  others : ∀ other, other ≠ thread → engine.framesOf other = start.framesOf other
  /-- One frame is above those of the start. -/
  stack : ∃ own, (engine.framesOf thread).stack = own :: (start.framesOf thread).stack
  found : ∀ reference ∈ (start.framesOf thread).stack.flatten,
    (engine.framesOf thread).table.get? reference = (start.framesOf thread).table.get? reference

/-- The state of an engine after a call of a thread. Its local references are those of the start. -/
structure Settled (thread : Nat) (start : Engine) (globals : ReferenceTable Object) (engine : Engine) : Prop where
  tidy : engine.Tidy
  unscripted : engine.Unscripted
  kept : start.storage.Kept engine.storage
  globals : engine.globals = globals
  others : ∀ other, other ≠ thread → engine.framesOf other = start.framesOf other
  stack : (engine.framesOf thread).stack = (start.framesOf thread).stack
  found : ∀ reference, (engine.framesOf thread).table.get? reference = (start.framesOf thread).table.get? reference

/-- A reference of the call itself. -/
structure Own (thread : Nat) (start : Engine) (reference : Reference) (object : Object) (engine : Engine) : Prop where
  found : (engine.framesOf thread).table.get? reference = some object
  new : reference ∉ (start.framesOf thread).stack.flatten

theorem inside_pushed (tidy : engine.Tidy) (unscripted : engine.Unscripted) (thread : Nat) :
    Inside thread engine engine.globals (engine.pushed thread) := by
  have placed : (engine.pushed thread).framesOf thread = (engine.framesOf thread).push := by
    rw [pushed, framesOf_setFrames, if_pos rfl]
  refine ⟨tidy.pushed thread, unscripted, rfl, .refl _, rfl, fun other different => ?_, ⟨[], ?_⟩, fun reference _ => ?_⟩
  · rw [pushed, framesOf_setFrames, if_neg different]
  · rw [placed]
    rfl
  · rw [placed]
    rfl

theorem settled_refl (tidy : engine.Tidy) (unscripted : engine.Unscripted) (thread : Nat) :
    Settled thread engine engine.globals engine :=
  ⟨tidy, unscripted, .refl _, rfl, fun _ _ => rfl, rfl, fun _ => rfl⟩

namespace Inside

theorem of_storage (inside : Inside thread start globals engine) (kept : engine.storage.Kept storage) :
    Inside thread start globals { engine with storage } where
  tidy := inside.tidy.of_storage kept
  unscripted := inside.unscripted
  factories := inside.factories
  kept := inside.kept.trans kept
  globals := inside.globals
  others := inside.others
  stack := inside.stack
  found := inside.found

theorem of_globals {globals' : ReferenceTable Object} (inside : Inside thread start globals engine)
    (tidy : Tidy { engine with globals := globals' }) :
    Inside thread start globals' { engine with globals := globals' } where
  tidy := tidy
  unscripted := inside.unscripted
  factories := inside.factories
  kept := inside.kept
  globals := rfl
  others := inside.others
  stack := inside.stack
  found := inside.found

/-- The frame of the call changes, and nothing below it. -/
theorem of_frames {frames : Frames Object} (inside : Inside thread start globals engine)
    (tidy : (engine.setFrames thread frames).Tidy)
    (stack : ∃ own, frames.stack = own :: (start.framesOf thread).stack)
    (found : ∀ reference ∈ (start.framesOf thread).stack.flatten,
      frames.table.get? reference = (engine.framesOf thread).table.get? reference) :
    Inside thread start globals (engine.setFrames thread frames) where
  tidy := tidy
  unscripted := inside.unscripted
  factories := inside.factories
  kept := inside.kept
  globals := inside.globals
  others other different := by rw [framesOf_setFrames, if_neg different, inside.others other different]
  stack := by rwa [framesOf_setFrames, if_pos rfl]
  found reference member := by
    rw [framesOf_setFrames, if_pos rfl, found reference member, inside.found reference member]

theorem of_unchanged (inside : Inside thread start globals engine) {after : Engine}
    (unchanged : Unchanged engine after) : Inside thread start globals after where
  tidy := unchanged.tidy inside.tidy
  unscripted := by
    rw [Unscripted, unchanged.factories]
    exact inside.unscripted
  factories := unchanged.factories.trans inside.factories
  kept := unchanged.storage ▸ inside.kept
  globals := unchanged.globals.trans inside.globals
  others other different := (unchanged.frames other).trans (inside.others other different)
  stack := unchanged.frames thread ▸ inside.stack
  found := unchanged.frames thread ▸ inside.found

/-- What the frames of the start mention is still good. -/
theorem exists_of_below (inside : Inside thread start globals engine)
    (below : reference ∈ (start.framesOf thread).stack.flatten) :
    ∃ object, (engine.framesOf thread).table.get? reference = some object := by
  obtain ⟨own, stack⟩ := inside.stack
  refine (inside.tidy.frames thread).mem_iff.mp ?_
  rw [stack, List.flatten_cons]
  exact List.mem_append_right _ below

theorem newLocal (inside : Inside thread start globals engine) (isIn : object.IsIn engine.storage) :
    Leads (newLocal thread object) engine
      (fun reference after => Inside thread start globals after ∧ Own thread start reference object after ∧
        after.storage = engine.storage)
      (fun _ after => Inside thread start globals after) := by
  obtain ⟨own, stack⟩ := inside.stack
  have orderly := inside.tidy.frames thread
  cases inserted : (engine.framesOf thread).table.insert object with
  | none =>
    exact .of_error (newLocal_of_none inserted) (inside.of_unchanged (unchanged_setFrames engine thread))
  | some result =>
    obtain ⟨reference, table⟩ := result
    have stored := (ReferenceTable.insert_stored orderly.consistent inserted).1
    have new : reference ∉ (start.framesOf thread).stack.flatten := by
      intro below
      obtain ⟨held, found⟩ := inside.exists_of_below below
      cases stored.get?_eq_none.symm.trans found
    refine .of_ok (newLocal_of_some stack inserted) ⟨?_, ⟨?_, new⟩, rfl⟩
    · refine inside.of_frames (inside.tidy.stored isIn stack inserted) ⟨own ++ [reference], rfl⟩ fun other below => ?_
      obtain ⟨held, found⟩ := inside.exists_of_below below
      rw [found]
      exact stored.get?_iff.mpr (.inl found)
    · rw [framesOf_setFrames, if_pos rfl]
      exact stored.get?_iff.mpr (.inr ⟨rfl, rfl⟩)

/-- A reference of the call becomes global: the object moves from one table into the other. -/
theorem promote (inside : Inside thread start globals engine) (own : Own thread start reference object engine) :
    Leads (promote thread reference) engine
      (fun global after => ∃ globals', globals.insert object = some (global, globals') ∧
        Inside thread start globals' after ∧ after.storage = engine.storage)
      (fun _ after => Inside thread start globals after) := by
  have orderly := inside.tidy.frames thread
  obtain ⟨top, stack⟩ := inside.stack
  refine (promote_leads inside.tidy thread reference).imp ?_ fun failure after unchanged => unchanged.2 ▸ inside
  rintro global after ⟨held, table, globals', taken, inserted, rfl⟩
  have found : (engine.framesOf thread).table.get? reference = some held := by
    rw [← ReferenceTable.remove_fst, taken]
  obtain rfl : held = object := Option.some.inj (found.symm.trans own.found)
  refine ⟨globals', inside.globals ▸ inserted, ?_, rfl⟩
  have inTop : reference ∈ [top].flatten := by
    have mentioned := orderly.mentioned found
    rw [stack, List.flatten_cons, List.mem_append] at mentioned
    simpa using mentioned.resolve_right own.new
  have split : Frames.forget reference (engine.framesOf thread).stack =
      Frames.forget reference [top] ++ (start.framesOf thread).stack := by
    rw [stack]
    exact Frames.forget_append_of_mem inTop
  obtain ⟨left, single⟩ := List.length_eq_one_iff.mp (Frames.forget_length reference [top])
  have tidyTaken := inside.tidy.taken taken
  have moved := inside.of_frames tidyTaken ⟨left, split.trans (by rw [single]; rfl)⟩ fun other below => by
    obtain ⟨held, found⟩ := inside.exists_of_below below
    rw [found]
    refine (ReferenceTable.remove_taken orderly.consistent taken).1.get?_iff.mpr ⟨found, ?_⟩
    rintro rfl
    exact own.new below
  exact moved.of_globals (tidyTaken.globalStored (inside.tidy.locals_exist found) inserted)

theorem deleteGlobal {globals' : ReferenceTable Object} (inside : Inside thread start globals engine)
    (taken : globals.remove reference = (some object, globals')) :
    ∃ after, deleteGlobal reference engine = .ok () after ∧ Inside thread start globals' after := by
  have removed : engine.globals.remove reference = (some object, globals') := inside.globals ▸ taken
  obtain ⟨storage, ran, kept⟩ := deleteGlobal_of_some inside.tidy removed
  exact ⟨_, ran, (inside.of_globals (inside.tidy.globalTaken removed)).of_storage kept⟩

/-- The call ends: its frame is popped, and all that is left of it is what it did to the global table. -/
theorem popped (inside : Inside thread start globals engine) (tidy : start.Tidy) :
    Settled thread start globals (ended (popFrame thread none engine)) ∧
      engine.storage.Kept (ended (popFrame thread none engine)).storage := by
  obtain ⟨own, stack⟩ := inside.stack
  have before := tidy.frames thread
  have uncovered := popFrame_uncovers inside.tidy stack before.grounded
  refine ⟨⟨uncovered.tidy, ?_, inside.kept.trans uncovered.kept, uncovered.globals.trans inside.globals,
    fun other different => (uncovered.others other different).trans (inside.others other different),
    uncovered.stack, fun reference => Option.ext fun held => (uncovered.found reference held).trans ?_⟩, uncovered.kept⟩
  · rw [Unscripted, uncovered.factories]
    exact inside.unscripted
  · constructor
    · rintro ⟨found, below⟩
      exact (inside.found reference below).symm.trans found
    · intro found
      have below := before.mentioned found
      exact ⟨(inside.found reference below).trans found, below⟩

end Inside

/-- The engine without a local reference of a thread. -/
def retired (engine : Engine) (thread : Nat) (reference : Reference) : Engine :=
  engine.setFrames thread ((engine.framesOf thread).remove reference).2

theorem retired_of_taken {table : ReferenceTable Object}
    (taken : (engine.framesOf thread).table.remove reference = (some object, table)) :
    engine.retired thread reference =
      engine.setFrames thread ⟨table, Frames.forget reference (engine.framesOf thread).stack⟩ := by
  rw [retired, Frames.remove_of_some taken]

theorem Tidy.retired (tidy : engine.Tidy) (found : (engine.framesOf thread).table.get? reference = some object) :
    (engine.retired thread reference).Tidy := by
  obtain ⟨table, taken⟩ := ReferenceTable.remove_of_get? found
  rw [retired_of_taken taken]
  exact tidy.taken taken

/-- A call that promotes a reference from before it takes that one away. -/
theorem promote_pushed (tidy : engine.Tidy) (unscripted : engine.Unscripted) (thread : Nat) (reference : Reference) :
    Leads (promote thread reference) (engine.pushed thread)
      (fun global after => ∃ object globals, (engine.framesOf thread).table.get? reference = some object ∧
        engine.globals.insert object = some (global, globals) ∧
        Inside thread (engine.retired thread reference) globals after)
      (fun _ after => Inside thread engine engine.globals after) := by
  have inside := inside_pushed tidy unscripted thread
  have placed : (engine.pushed thread).framesOf thread = (engine.framesOf thread).push := by
    rw [pushed, framesOf_setFrames, if_pos rfl]
  refine (promote_leads inside.tidy thread reference).imp ?_ fun failure after unchanged => unchanged.2 ▸ inside
  rintro global after ⟨object, left, globals, taken, inserted, rfl⟩
  have removed : (engine.framesOf thread).table.remove reference = (some object, left) := by
    rw [← taken, placed]
    rfl
  have found : (engine.framesOf thread).table.get? reference = some object := by
    rw [← ReferenceTable.remove_fst, removed]
  have isIn : object.IsIn engine.storage := tidy.locals_exist found
  have tidyAfter := (inside.tidy.taken taken).globalStored isIn inserted
  refine ⟨object, globals, found, inserted, ?_⟩
  -- The frame of the call is empty, so what is forgotten was below.
  have stack : Frames.forget reference ((engine.pushed thread).framesOf thread).stack =
      [] :: Frames.forget reference (engine.framesOf thread).stack := by
    rw [placed]
    change Frames.forget reference ([[]] ++ (engine.framesOf thread).stack) = _
    exact Frames.forget_append_of_not_mem List.not_mem_nil
  rw [stack] at tidyAfter ⊢
  rw [retired_of_taken removed]
  refine ⟨tidyAfter, unscripted, rfl, .refl _, rfl, fun other different => ?_, ⟨[], ?_⟩, fun other _ => ?_⟩
  · simp [framesOf, setFrames, pushed, different]
  · simp [framesOf, setFrames]
  · simp [framesOf, setFrames]

/-- What goes on inside a call keeps it going. -/
def Staying (thread : Nat) (_ : Nat) (before after : Engine) : Prop :=
  ∀ start globals, Inside thread start globals before → Inside thread start globals after

instance : Metered (Staying thread) where
  refl _ _ _ := id
  trans one two start globals inside := two start globals (one start globals inside)
  weaken one _ := one

theorem onStorage_stays {action : Action α} (keeps : Storage.Keeps action) :
    Within (Staying thread) 0 (onStorage action) := by
  intro engine start globals inside
  rw [ended_onStorage]
  exact inside.of_storage (keeps engine.storage)

theorem answerOf_stays (outcome : Except Exception α) : Within (Staying thread) 0 (answerOf outcome) := by
  cases outcome with
  | ok value => exact .pure value
  | error exception => exact .throw _

theorem connectRemote_stays (host : String) (port : UInt16) :
    Within (Staying thread) 0 (connectRemote host port) := by
  refine .reading fun engine start globals inside => ?_
  cases found : engine.factories.get? (Target.authority host port) with
  | none => exact inside
  | some factory =>
    have keeps := Storage.connectCluster_keeps factory.cluster (Target.authority host port)
      (inside.unscripted _ factory found)
    exact onStorage_stays keeps engine start globals inside

theorem connect_stays (target : Target) : Within (Staying thread) 0 (connect target) := by
  refine .after .get fun engine => ?_
  cases target <;> refine .after ?_ fun found => ?_
  case default.refine_1 => exact answerOf_stays _
  case local.refine_1 | remote.refine_1 => exact .pure _
  all_goals
    cases found with
    | «local» | default => exact onStorage_stays (Storage.localClient_keeps _)
    | remote host port => exact connectRemote_stays host port

theorem newLocal_stays (plain : object.stream? = none) : Within (Staying thread) 0 (newLocal thread object) := by
  intro engine start globals inside
  have leads := inside.newLocal (Object.isIn_of_plain plain)
  rcases ran : newLocal thread object engine with ⟨reference, after⟩ | ⟨failure, after⟩
  · exact (leads.answer ran).1
  · exact leads.failure ran

theorem Inside.leads (inside : Inside thread start globals engine) {action : EngineAction α}
    (stays : Within (Staying thread) 0 action) :
    Leads action engine (fun _ after => Inside thread start globals after)
      (fun _ after => Inside thread start globals after) :=
  .of_within stays (fun _ _ goesOn => goesOn start globals inside) fun _ _ goesOn => goesOn start globals inside

/-- A client is made, behind a reference of the call. -/
theorem Inside.getFileSystem (inside : Inside thread start globals engine) (target : Target) :
    Leads (getFileSystem thread target) engine
      (fun reference after => Inside thread start globals after ∧
        ∃ client, Own thread start reference (.fileSystem client) after)
      (fun _ after => Inside thread start globals after) := by
  refine (inside.leads (connect_stays target)).bind fun client middle inside => ?_
  refine (inside.newLocal (Object.isIn_of_plain rfl)).imp ?_ fun _ _ => id
  rintro reference after ⟨goesOn, own, -⟩
  exact ⟨goesOn, client, own⟩

theorem cast_stays (expected : String) (read : Object → Option α) (reference : Reference) :
    Within (Staying thread) 0 (cast expected read thread reference) :=
  .of_same fun engine => ended_cast expected read thread reference engine

theorem keep_stays {wrap : α → Object} {action : Nat → Action α} (reference : Reference)
    (plain : ∀ value, (wrap value).stream? = none) (keeps : ∀ client, Storage.Keeps (action client)) :
    Within (Staying thread) 0 (keep thread reference wrap action) :=
  .after (cast_stays _ _ reference) fun client =>
    .after (onStorage_stays (keeps client)) fun value => newLocal_stays (plain value)

/-- A stream that was opened is there, behind a reference of the call. -/
theorem Inside.keep_stream {wrap : Nat → Object} {action : Nat → Action Nat} {writes : Bool}
    (inside : Inside thread start globals engine) (reference : Reference)
    (wraps : ∀ number, (wrap number).stream? = some number) (keeps : ∀ client, Storage.Keeps (action client))
    (opens : ∀ client, Storage.Opens writes (action client)) :
    Leads (keep thread reference wrap action) engine
      (fun answer after => Inside thread start globals after ∧ ∃ number, Own thread start answer (wrap number) after ∧
        ∃ stream : Stream, after.storage.streams[number]? = some stream ∧ stream.channel.writes = writes)
      (fun _ after => Inside thread start globals after) := by
  refine (inside.leads (cast_stays _ _ reference)).bind fun client middle inside => ?_
  have stays := inside.leads (onStorage_stays (keeps client))
  rcases ran : onStorage (action client) middle with ⟨number, after⟩ | ⟨failure, after⟩
  · obtain ⟨stream, present, isWay⟩ : ∃ stream : Stream, after.storage.streams[number]? = some stream ∧
        stream.channel.writes = writes := by
      rw [onStorage] at ran
      rcases done : action client middle.storage with ⟨value, storage⟩ | ⟨failure, storage⟩ <;> rw [done] at ran
      · cases ran
        exact opens client _ _ _ done
      · cases ran
    have isIn : (wrap number).IsIn after.storage := by
      intro other same
      obtain rfl : number = other := Option.some.inj ((wraps number).symm.trans same)
      exact (List.getElem?_eq_some_iff.mp present).1
    refine .after_ok ran ?_
    refine ((stays.answer ran).newLocal isIn).imp ?_ fun _ _ => id
    rintro answer last ⟨insideLast, own, same⟩
    exact ⟨insideLast, number, own, stream, same ▸ present, isWay⟩
  · exact .of_error (bind_of_error ran) (stays.failure ran)

end Engine

end FileGateway
