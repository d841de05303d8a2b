import FileGateway.Proofs.Gateway.Calls

/-! # What holds in every run of native calls

Frames are kept in order, open files have streams, and the global table goes through a run of its own with
one call for each step at most. So a reference that is given up in some step stays dead as long as its
slot is not released a full round, and a file that is closed stays closed as long as its address is not
given out again.
-/

namespace FileGateway

/-- Whatever becomes of a file in a step, it keeps a stream if there is one. -/
theorem GatewayStep.fate_stream {step : GatewayStep} {address : UInt64} {file : OpenFile}
    (fated : step.fate address (some file)) : file.stream ≠ 0 := by
  cases step with
  | native thread call =>
    cases call with
    | openFile =>
      obtain ⟨-, stream, direction, same⟩ := fated
      rw [Option.some.inj same]
      exact stream.nonzero
    | closeFile => exact absurd fated.2 (by simp)
    | _ => exact fated.elim
  | _ => exact fated.elim

theorem GatewayStep.fate_none {step : GatewayStep} {address : UInt64} {file : Option OpenFile}
    (fated : step.fate address file) (unopened : step.opens? ≠ some address) : file = none := by
  cases step with
  | native thread call =>
    cases call with
    | openFile => exact absurd (congrArg some fated.1.symm) unopened
    | closeFile => exact fated.2
    | _ => exact fated.elim
  | _ => exact fated.elim

namespace Gateway

variable {gateway : Gateway} {step : GatewayStep} {address : UInt64} {reference : Reference} {object : Object}
  {index : Nat}

structure Sound (gateway : Gateway) : Prop where
  orderly : gateway.engine.Orderly
  consistent : gateway.engine.globals.Consistent
  scope : gateway.engine.globals.scope = .globals
  /-- Every open file has a stream. -/
  streamed : ∀ {address file}, gateway.files.get? address = some file → file.stream ≠ 0

theorem sound_new (storage : Storage) (conf : Configuration) : (new (.new storage conf)).Sound where
  orderly _ := Frames.orderly_empty
  consistent := ReferenceTable.consistent_empty .globals
  scope := rfl
  streamed found := by simp [new] at found

theorem Sound.grounded (sound : gateway.Sound) : gateway.engine.Grounded := sound.orderly.grounded

theorem Sound.after (sound : gateway.Sound) (step : GatewayStep) : (gateway.after step).Sound := by
  obtain ⟨⟨⟨calls, ran, -⟩, kept⟩, files⟩ := after_moved gateway step
  refine ⟨kept sound.orderly, ran ▸ sound.consistent.run calls, ?_, ?_⟩
  · rw [ran, ReferenceTable.scope_run sound.consistent, sound.scope]
  · intro address file found
    rcases files address with same | fated
    · exact sound.streamed (same ▸ found)
    · exact GatewayStep.fate_stream (found ▸ fated)

theorem run_append (gateway : Gateway) (steps later : List GatewayStep) :
    gateway.run (steps ++ later) = (gateway.run steps).run later := List.foldl_append

theorem Sound.pushed (sound : gateway.Sound) (thread : Nat) : (gateway.pushed thread).Sound :=
  have moved : Moved (fun _ _ => False) 0 gateway (gateway.pushed thread) := pushed_moved thread gateway
  ⟨moved.engine.orderly sound.orderly, sound.consistent, sound.scope, sound.streamed⟩

theorem Sound.run (sound : gateway.Sound) (steps : List GatewayStep) : (gateway.run steps).Sound := by
  induction steps generalizing gateway with
  | nil => exact sound
  | cons step rest ih => exact ih (sound.after step)

/-- Every step of a run is as said in the state that it starts from. -/
def Throughout (holds : Gateway → GatewayStep → Prop) : Gateway → List GatewayStep → Prop
  | _, [] => True
  | gateway, step :: rest => holds gateway step ∧ Throughout holds (gateway.after step) rest

/-- An opened file gets an address that is not null and not the one of an open file. -/
def Placed (gateway : Gateway) (step : GatewayStep) : Prop :=
  ∀ address, step.opens? = some address → address ≠ 0 ∧ gateway.files.get? address = none

/-! ## References that are given up -/

/-- How often a slot of the global table is released in a run, as its generation shows. -/
def releases (index : Nat) : Gateway → List GatewayStep → Nat
  | _, [] => 0
  | gateway, step :: rest =>
    (if ((gateway.after step).engine.globals.slotAt index).generation ≠
      (gateway.engine.globals.slotAt index).generation then 1 else 0) + releases index (gateway.after step) rest

/-- A step makes a call on the global table, or leaves it alone. -/
theorem after_globals (gateway : Gateway) (step : GatewayStep) :
    (gateway.after step).engine.globals = gateway.engine.globals ∨
      ∃ call, (gateway.after step).engine.globals = gateway.engine.globals.after call := by
  obtain ⟨calls, ran, few⟩ := (after_moved gateway step).engine.globals
  match calls, few with
  | [], _ => exact .inl ran
  | [call], _ => exact .inr ⟨call, ran⟩

/-- The run of the global table releases each slot as often as the run of the gateway does. -/
theorem run_globals (consistent : gateway.engine.globals.Consistent) (steps : List GatewayStep) :
    ∃ calls, (gateway.run steps).engine.globals = gateway.engine.globals.run calls ∧
      ∀ index, ReferenceTable.releases index gateway.engine.globals calls = releases index gateway steps := by
  induction steps generalizing gateway with
  | nil => exact ⟨[], rfl, fun _ => rfl⟩
  | cons step rest ih =>
    rcases after_globals gateway step with same | ⟨call, ran⟩
    · have kept : (gateway.after step).engine.globals.Consistent := same ▸ consistent
      obtain ⟨calls, later, counted⟩ := ih kept
      refine ⟨calls, same ▸ later, fun index => ?_⟩
      rw [releases, same, if_neg (not_not.mpr rfl), zero_add, ← counted, same]
    · have kept : (gateway.after step).engine.globals.Consistent := ran ▸ consistent.after call
      obtain ⟨calls, later, counted⟩ := ih kept
      refine ⟨call :: calls, later.trans (by rw [ran]; rfl), fun index => ?_⟩
      simp only [ReferenceTable.releases, releases, ReferenceTable.released?_eq_some_iff consistent, ← ran, counted]

/-- A reference that does not survive a step is dead from then on. -/
theorem get?_of_givenUp {steps : List GatewayStep} (consistent : gateway.engine.globals.Consistent)
    (found : gateway.engine.globals.get? reference = some object)
    (gone : (gateway.after step).engine.globals.get? reference ≠ some object)
    (atPlace : reference.index? = some index)
    (few : releases index gateway (step :: steps) < Reference.generationCount) :
    (gateway.run (step :: steps)).engine.globals.get? reference = none := by
  obtain ⟨calls, ran, counted⟩ := run_globals consistent [step]
  have kept : (gateway.after step).engine.globals.Consistent := ran ▸ consistent.run calls
  obtain ⟨later, ranLater, countedLater⟩ := run_globals kept steps
  -- Only a removal can have ended it, and from then on the generation of its slot is another.
  have removed : .remove reference ∈ calls := by
    by_contra never
    exact gone (ran ▸ ReferenceTable.get?_run_of_not_mem consistent found never)
  have total : (gateway.run (step :: steps)).engine.globals = gateway.engine.globals.run (calls ++ later) := by
    rw [ReferenceTable.run_append, ← ran]
    exact ranLater
  have fewCalls : ReferenceTable.releases index gateway.engine.globals (calls ++ later) <
      Reference.generationCount := by
    rw [ReferenceTable.releases_append, counted, ← ran, releases, releases, add_zero]
    rw [releases] at few
    exact countedLater index ▸ few
  have different := ReferenceTable.generation_ne_of_removed consistent found atPlace
    (List.mem_append_left later removed) fewCalls
  rw [← total] at different
  by_contra resolves
  obtain ⟨held, resolves⟩ := Option.ne_none_iff_exists'.mp resolves
  obtain ⟨-, place, otherPlace, slot⟩ := ReferenceTable.get?_eq_some_iff.mp resolves
  obtain rfl : place = index := Option.some.inj (otherPlace.symm.trans atPlace)
  exact different (by rw [slot])

/-- A word is good as a filesystem: it is a global reference that stands for a client. -/
def Connected (gateway : Gateway) (word : UInt64) : Prop :=
  ∃ reference client, Reference.ofRaw? word = some reference ∧
    gateway.engine.globals.get? reference = some (.fileSystem client)

theorem Sound.isGlobal (sound : gateway.Sound) (resolves : gateway.engine.globals.get? reference = some object) :
    reference.isGlobal = true := by
  have inScope := (ReferenceTable.get?_eq_some_iff.mp resolves).1
  rw [Reference.isGlobal, inScope, sound.scope]
  rfl

/-- A filesystem that is given up in a step is not good again before its slot was released a full round. -/
theorem not_connected_of_givenUp {word : UInt64} {steps : List GatewayStep} (sound : gateway.Sound)
    (connected : gateway.Connected word) (gone : ¬(gateway.after step).Connected word)
    (same : Reference.ofRaw? word = some reference) (atPlace : reference.index? = some index)
    (few : releases index gateway (step :: steps) < Reference.generationCount) :
    ¬(gateway.run (step :: steps)).Connected word := by
  obtain ⟨found, client, isFound, resolves⟩ := connected
  obtain rfl : found = reference := Option.some.inj (isFound.symm.trans same)
  have dead := get?_of_givenUp sound.consistent resolves (fun still => gone ⟨found, client, same, still⟩) atPlace few
  rintro ⟨other, held, isOther, still⟩
  obtain rfl : other = found := Option.some.inj (isOther.symm.trans same)
  rw [dead] at still
  contradiction

theorem fileSystemArgument_ok {word : UInt64} {after : Gateway}
    (ran : fileSystemArgument word gateway = .ok reference after) :
    Reference.ofRaw? word = some reference ∧ reference.isGlobal = true ∧ after = gateway := by
  rw [fileSystemArgument] at ran
  cases isFound : Reference.ofRaw? word with
  | none =>
    rw [isFound] at ran
    cases ran
  | some found =>
    simp only [isFound] at ran
    by_cases isGlobal : found.isGlobal = true
    · rw [if_pos isGlobal] at ran
      cases ran
      exact ⟨rfl, isGlobal, rfl⟩
    · rw [if_neg isGlobal] at ran
      cases ran

theorem fileSystemArgument_of_some {word : UInt64} (isWord : Reference.ofRaw? word = some reference)
    (isGlobal : reference.isGlobal = true) : fileSystemArgument word gateway = .ok reference gateway := by
  simp only [fileSystemArgument, isWord, if_pos isGlobal]
  rfl

/-- A word that is good as a filesystem means its client on every thread. -/
theorem Sound.clientArgument (sound : gateway.Sound) {word : UInt64} {client : Nat}
    (isWord : Reference.ofRaw? word = some reference)
    (resolves : gateway.engine.globals.get? reference = some (.fileSystem client)) (thread : Nat) :
    Gateway.clientArgument thread word gateway = .ok client gateway := by
  have isGlobal := sound.isGlobal resolves
  rw [Gateway.clientArgument, bind_of_ok (fileSystemArgument_of_some isWord isGlobal), onEngine,
    Engine.fileSystem_run isGlobal, resolves]

theorem onEngine_ok {α : Type} {action : EngineAction α} {value : α} {after : Gateway}
    (ran : onEngine action gateway = .ok value after) :
    ∃ engine, action gateway.engine = .ok value engine ∧ after = { gateway with engine } := by
  rw [onEngine] at ran
  split at ran
  · next answer engine done =>
    cases ran
    exact ⟨engine, done, rfl⟩
  · cases ran

theorem fileSystem_ok {client thread : Nat} {after : Gateway} (isGlobal : reference.isGlobal = true)
    (ran : onEngine (Engine.fileSystem thread reference) gateway = .ok client after) :
    gateway.engine.globals.get? reference = some (.fileSystem client) ∧ after = gateway := by
  obtain ⟨engine, done, rfl⟩ := onEngine_ok ran
  obtain ⟨resolves, rfl⟩ := Engine.fileSystem_ok isGlobal done
  exact ⟨resolves, rfl⟩

/-- A handle that `disconnect` answers with zero was good, and is given up. -/
theorem disconnect_gives_up {word : UInt64} (sound : gateway.Sound) (thread : Nat)
    (answered : (disconnect thread word gateway).1 = 0) :
    gateway.Connected word ∧ ¬(disconnect thread word gateway).2.Connected word := by
  rw [disconnect, call_run] at answered ⊢
  split at answered
  case h_2 => exact absurd answered (by decide : (-1 : Int32) ≠ 0)
  case h_1 value after ran =>
  obtain ⟨reference, _, argument, ran⟩ := ok_of_bind ran
  obtain ⟨same, isGlobal, rfl⟩ := fileSystemArgument_ok argument
  obtain ⟨client, _, asked, ran⟩ := ok_of_bind ran
  obtain ⟨resolves, rfl⟩ := fileSystem_ok isGlobal asked
  refine ⟨⟨reference, client, same, resolves⟩, ?_⟩
  obtain ⟨closed, third, attempted, ran⟩ := ok_of_bind ran
  obtain ⟨_, fourth, deleted, ran⟩ := ok_of_bind ran
  obtain ⟨engine, done, rfl⟩ := onEngine_ok deleted
  -- Closing the client leaves the table alone, and so does all that follows the deletion.
  have unchanged : third.engine.globals = gateway.engine.globals := by
    have closing : Within (Moved fun _ _ => False) 0 (attempt (onStorage (Storage.closeClient client))) :=
      attempt_within (onStorage_moved _)
    have moved := closing (gateway.pushed thread)
    rw [attempted] at moved
    exact moved.engine.globals_eq
  have gone := Engine.deleteGlobal_gone (unchanged ▸ sound.consistent) done
  have kept : (after.popped thread).engine.globals = engine.globals := by
    have moved : Within (Moved fun _ _ => False) 0 (do answerOf closed; return (0 : Int32)) :=
      .after (answerOf_within closed) fun _ => .pure _
    have inside := moved { third with engine }
    rw [ran] at inside
    have last : Moved (fun _ _ => False) 0 after (after.popped thread) := popped_moved thread after
    exact last.engine.globals_eq.trans inside.engine.globals_eq
  rintro ⟨other, held, isOther, still⟩
  obtain rfl : other = reference := Option.some.inj (isOther.symm.trans same)
  rw [show (after.popped thread).engine.globals.get? other = none from kept ▸ gone] at still
  contradiction

/-! ## Open files -/

/-- The open file at an address; null is none. -/
def fileAt? (gateway : Gateway) (address : UInt64) : Option OpenFile :=
  if address = 0 then none else gateway.files.get? address

theorem lookup_run (address : UInt64) (gateway : Gateway) :
    lookup address gateway = match gateway.fileAt? address with
      | some file => .ok file gateway
      | none => .error (.refused (if address = 0 then .nullFile else .deadFile)) gateway := by
  rw [lookup, fileAt?]
  split
  · rfl
  · change (match gateway.files.get? address with
      | some file => (pure file : CallAction OpenFile)
      | none => refuse .deadFile) gateway = _
    cases gateway.files.get? address <;> rfl

theorem Moved.fileAt?_eq {used : Nat} {before after : Gateway} (moved : Moved (fun _ _ => False) used before after)
    (address : UInt64) : after.fileAt? address = before.fileAt? address := by
  rw [fileAt?, fileAt?, (moved.files address).resolve_right id]

/-- A closed file stays closed until its address is given out again. -/
theorem fileAt?_run {steps : List GatewayStep} (closed : gateway.fileAt? address = none)
    (unopened : ∀ step ∈ steps, step.opens? ≠ some address) : (gateway.run steps).fileAt? address = none := by
  induction steps generalizing gateway with
  | nil => exact closed
  | cons step rest ih =>
    refine ih ?_ fun step member => unopened step (List.mem_cons_of_mem _ member)
    rcases (after_moved gateway step).files address with same | fated
    · rw [fileAt?, same]
      exact closed
    · rw [fileAt?, GatewayStep.fate_none fated (unopened step List.mem_cons_self), ite_self]

theorem call_fileAt? {α : Type} (thread : Nat) (entry : EntryPoint) (sentinel : α) (inside : CallAction α)
    (gateway : Gateway) (address : UInt64) : (call thread entry sentinel inside gateway).2.fileAt? address =
      (ended (inside (gateway.pushed thread))).fileAt? address := by
  rw [call_run]
  cases inside (gateway.pushed thread) with
  | ok value after => exact (popped_moved thread after).fileAt?_eq address
  | error failure after => exact (popped_moved thread after).fileAt?_eq address

/-- Closing leaves no file at its address, whatever it answers. -/
theorem fileAt?_closeFile (thread : Nat) (address : UInt64) (gateway : Gateway) :
    (closeFile thread address gateway).2.fileAt? address = none := by
  rw [closeFile, call_fileAt?]
  change (ended (EStateM.bind (lookup address) _ (gateway.pushed thread))).fileAt? address = none
  rw [EStateM.bind, lookup_run]
  cases found : (gateway.pushed thread).fileAt? address with
  | none => exact found
  | some file =>
    have kept : Within (Moved fun _ _ => False) 1 _ := closing_moved thread file
    refine ((kept _).fileAt?_eq address).trans ?_
    rw [fileAt?, SortedMap.get?_erase, if_pos rfl, ite_self]

end Gateway

end FileGateway
