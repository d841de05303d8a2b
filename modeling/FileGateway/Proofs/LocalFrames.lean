import FileGateway.Proofs.Engine.Histories

/-! # Frames of local references

After every history each live local reference of a thread is recorded once, in one frame, and nothing else is
recorded. Popping a frame ends what it records and may leave one new reference in the frame below. So what runs
in a frame of its own leaves the references outside of it alone, but for those that it deletes or promotes
itself.
-/

namespace FileGateway.Engine

variable {α : Type} {engine : Engine} {thread : Nat} {step : EngineStep} {steps : List EngineStep}
  {reference : Reference} {object : Object} {inner outer : List (List Reference)}

/-! ## Popping a frame -/

/-- What popping a frame does when it answers. -/
structure Popped (thread : Nat) (kept answer : Option Reference) (before after : Engine) : Prop where
  frames : ∃ top below rest, (before.framesOf thread).stack = top :: below :: rest ∧
    (after.framesOf thread).stack = (below ++ answer.toList) :: rest ∧
    ∀ reference object, (after.framesOf thread).table.get? reference = some object ↔
      ((before.framesOf thread).table.get? reference = some object ∧ reference ∉ top) ∨
      (answer = some reference ∧ ∃ result, kept = some result ∧ before.object? thread result = some object)
  /-- A result to keep is good, and gets a reference that no other has. -/
  result : ∀ result, kept = some result → ∃ object reference, before.object? thread result = some object ∧
    answer = some reference ∧ (before.framesOf thread).table.get? reference = none
  nothing : kept = none → answer = none
  globals : after.globals = before.globals
  others : ∀ other, other ≠ thread → after.framesOf other = before.framesOf other

/-- Why popping a frame fails, and what it leaves. -/
inductive Unpopped (thread : Nat) (kept : Option Reference) (before : Engine) : Failure → Engine → Prop
  | deadResult (result : Reference) (isKept : kept = some result) (dead : before.object? thread result = none) :
    Unpopped thread kept before (.raised (.deadReference result)) before
  | atBase (base : List Reference) (after : Engine) (stack : (before.framesOf thread).stack = [base])
    (unchanged : Unchanged before after) : Unpopped thread kept before (.raised .noFrame) after
  /-- With every slot of the table in use and no reference in the frame, the result finds no place. -/
  | overflowed (result : Reference) (below : List Reference) (rest : List (List Reference))
    (isKept : kept = some result) (stack : (before.framesOf thread).stack = [] :: below :: rest)
    (full : before.liveLocals thread = Reference.maxSlots) :
    Unpopped thread kept before (.raised .localsFull)
      (before.setFrames thread ⟨(before.framesOf thread).table, below :: rest⟩)

theorem popFrame_leads (tidy : engine.Tidy) (thread : Nat) (kept : Option Reference) :
    Leads (popFrame thread kept) engine (fun answer after => Popped thread kept answer engine after)
      (Unpopped thread kept engine) := by
  have orderly := tidy.frames thread
  have done := popFrame_deed tidy thread kept
  have placed (frames : Frames Object) : (engine.setFrames thread frames).framesOf thread = frames := by
    rw [framesOf_setFrames, if_pos rfl]
  have apart (frames : Frames Object) (other : Nat) (different : other ≠ thread) :
      (engine.setFrames thread frames).framesOf other = engine.framesOf other := by
    rw [framesOf_setFrames, if_neg different]
  rcases ran : popFrame thread kept engine with ⟨answer, after⟩ | ⟨failure, after⟩ <;> rw [ran] at done
  · refine .of_ok ran ?_
    cases done with
    | popped top below rest storage stack =>
      refine ⟨⟨top, below, rest, stack, ?_, fun reference object => ?_⟩, nofun, fun _ => rfl, rfl,
        fun other => apart _ other⟩
      · change ((engine.setFrames thread _).framesOf thread).stack = _
        rw [placed, Option.toList_none, List.append_nil]
      · change ((engine.setFrames thread _).framesOf thread).table.get? reference = _ ↔ _
        rw [placed, Frames.get?_removeAll orderly.consistent]
        simp
    | carried result held given table top below rest storage found stack stored =>
      refine ⟨⟨top, below, rest, stack, ?_, fun reference object => ?_⟩, ?_, nofun, rfl, fun other => apart _ other⟩
      · change ((engine.setFrames thread _).framesOf thread).stack = _
        rw [placed, Option.toList_some]
      · change ((engine.setFrames thread _).framesOf thread).table.get? reference = _ ↔ _
        rw [placed, (ReferenceTable.insert_stored (orderly.released stack).consistent stored).1.get?_iff,
          Frames.get?_removeAll orderly.consistent]
        simp [found, eq_comm]
      · rintro _ ⟨⟩
        exact ⟨held, given, found, rfl, orderly.fresh stored⟩
  · refine .of_error ran ?_
    cases done with
    | failed _ _ _ _ noPop => exact absurd rfl (noPop kept)
    | deadResult result dead => exact .deadResult result rfl dead
    | atBase _ base stack => exact .atBase base _ stack (unchanged_setFrames engine thread)
    | overflowed result below rest stack full => exact .overflowed result below rest rfl stack full

/-! ## What runs in a frame -/

theorem withFrame_run (thread : Nat) (body : EngineAction α) (engine : Engine) : withFrame thread body engine =
    leaving (ended (popFrame thread none (ended (body (engine.pushed thread))))) (body (engine.pushed thread)) := by
  have opened : withFrame thread body engine =
      endingWith (discard (popFrame thread none)) body (engine.pushed thread) := rfl
  rw [opened, endingWith_run, ended_discard]

/-- Every frame that a history pops on a thread is one that it has pushed: it never gets down to the frames
that were there, and in the end one frame is left above them. -/
structure Matched (thread floor : Nat) (engine : Engine) (steps : List EngineStep) : Prop where
  above : Throughout (fun engine step => floor < ((engine.after step).framesOf thread).stack.length) engine steps
  settled : ((engine.run steps).framesOf thread).stack.length = floor + 1

/-- Some step of a history deletes a local reference of a thread, or promotes it. -/
def Retired (thread : Nat) (reference : Reference) : Engine → List EngineStep → Prop
  | _, [] => False
  | engine, step :: rest => engine.Retires thread reference step ∨ Retired thread reference (engine.after step) rest

/-- Frames of a thread lie under at least one other, and lack what is gone. -/
def Covers (thread : Nat) (outer : List (List Reference)) (gone : Reference → Prop) (engine : Engine) : Prop :=
  ∃ upper lower, (engine.framesOf thread).stack = upper ++ lower ∧ upper ≠ [] ∧ lower.length = outer.length ∧
    ∀ reference, reference ∈ lower.flatten ↔ reference ∈ outer.flatten ∧ ¬gone reference

namespace Covers

variable {gone : Reference → Prop}

/-- Nothing is gone from frames that are as they were. -/
theorem of_stack {upper : List (List Reference)} (stack : (engine.framesOf thread).stack = upper ++ outer)
    (covered : upper ≠ []) (noneGone : ∀ reference, ¬gone reference) : Covers thread outer gone engine :=
  ⟨upper, outer, stack, covered, rfl, fun reference => by simp [noneGone reference]⟩

/-- What is forgotten is missing in the lower frames exactly if it was there. -/
theorem of_forgotten {forgotten : Reference} (once : (inner ++ outer).flatten.Nodup) (covered : inner ≠ [])
    (stack : (engine.framesOf thread).stack = Frames.forget forgotten (inner ++ outer))
    (isGone : ∀ reference, gone reference ↔ forgotten = reference) : Covers thread outer gone engine := by
  rw [List.flatten_append, List.nodup_append] at once
  obtain ⟨-, onceBelow, apart⟩ := once
  by_cases above : forgotten ∈ inner.flatten
  · refine ⟨_, outer, stack.trans (Frames.forget_append_of_mem above), ?_, rfl, fun reference => ?_⟩
    · rwa [← List.length_pos_iff_ne_nil, Frames.forget_length, List.length_pos_iff_ne_nil]
    · rw [isGone]
      exact ⟨fun member => ⟨member, apart forgotten above reference member⟩, And.left⟩
  · refine ⟨inner, _, stack.trans (Frames.forget_append_of_not_mem above), covered,
      Frames.forget_length forgotten outer, fun reference => ?_⟩
    rw [isGone, Frames.mem_forget_iff onceBelow, ne_comm]

/-- What is popped is an upper frame, as long as one stays above the lower frames. -/
theorem of_popped {top below left : List Reference} {rest : List (List Reference)}
    (popped : top :: below :: rest = inner ++ outer) (covered : inner ≠ [])
    (stack : (engine.framesOf thread).stack = left :: rest)
    (above : outer.length < (engine.framesOf thread).stack.length)
    (noneGone : ∀ reference, ¬gone reference) : Covers thread outer gone engine := by
  obtain ⟨first, innerRest, rfl⟩ := List.exists_cons_of_ne_nil covered
  obtain ⟨-, split⟩ := List.cons.inj popped
  rw [stack] at above
  cases innerRest with
  | nil =>
    have equal : rest.length + 1 = outer.length := congrArg List.length split
    rw [List.length_cons] at above
    omega
  | cons second others =>
    obtain ⟨-, rfl⟩ := List.cons.inj split
    have isLeft : (engine.framesOf thread).stack = (left :: others) ++ outer := stack
    exact of_stack isLeft (List.cons_ne_nil _ _) noneGone

end Covers

/-- A step does not get at the frames below, but for what it deletes or promotes there. -/
theorem stack_after (tidy : engine.Tidy) (stack : (engine.framesOf thread).stack = inner ++ outer)
    (covered : inner ≠ []) (above : outer.length < ((engine.after step).framesOf thread).stack.length) :
    Covers thread outer (engine.Retires thread · step) (engine.after step) := by
  have once := stack ▸ (tidy.frames thread).once
  cases step with
  | request request =>
    refine .of_stack ?_ covered fun reference => by simp [Retires]
    rw [Engine.after, ended_onStorage]
    exact stack
  | references own call =>
    have done := deed tidy own call
    by_cases same : own = thread
    case neg =>
      refine .of_stack ?_ covered fun reference => by simp [Retires, same]
      rw [Engine.after, done.others (Ne.symm same), stack]
    subst same
    generalize ran : call.serve own engine = outcome at done
    have ended : engine.after (.references own call) = ended outcome := by rw [Engine.after, ran]
    rw [ended] at above ⊢
    have placed (frames : Frames Object) : ((engine.setFrames own frames).framesOf own).stack = frames.stack := by
      rw [framesOf_setFrames, if_pos rfl]
    cases done with
    | failed _ _ _ unchanged =>
      refine .of_stack ?_ covered fun reference => by simp [Retires, Succeeds, ran]
      exact (congrArg Frames.stack (unchanged.frames own)).trans stack
    | resolved | deadResult | shared | givenUp => exact .of_stack stack covered fun reference => by simp [Retires]
    | pushed =>
      have above : ((engine.setFrames own (engine.framesOf own).push).framesOf own).stack = ([] :: inner) ++ outer :=
        (placed _).trans (congrArg ([] :: ·) stack)
      exact .of_stack above (List.cons_ne_nil _ _) fun reference => by simp [Retires]
    | atBase => exact .of_stack ((placed _).trans stack) covered fun reference => by simp [Retires]
    | stored put given table top rest isTop stored =>
      obtain ⟨first, innerRest, rfl⟩ := List.exists_cons_of_ne_nil covered
      obtain ⟨rfl, rfl⟩ := List.cons.inj (isTop.symm.trans stack)
      have above : ((engine.setFrames own ⟨table, (top ++ [given]) :: (innerRest ++ outer)⟩).framesOf own).stack =
          ((top ++ [given]) :: innerRest) ++ outer := placed _
      exact .of_stack above (List.cons_ne_nil _ _) fun reference => by simp [Retires]
    | deleted | promoted =>
      exact .of_forgotten once covered ((placed _).trans (congrArg _ stack)) fun reference => by
        simp [Retires, Succeeds, ran]
    | popped _ _ _ _ isTop | overflowed _ _ _ isTop | carried _ _ _ _ _ _ _ _ _ isTop =>
      exact .of_popped (isTop.symm.trans stack) covered (placed _) above fun reference => by simp [Retires]

/-- What is recorded in lower frames goes on resolving to the same objects. -/
theorem outer_after (tidy : engine.Tidy)
    (stack : (engine.framesOf thread).stack = inner ++ outer) (covered : inner ≠ [])
    (above : outer.length < ((engine.after step).framesOf thread).stack.length) :
    ∃ upper lower, ((engine.after step).framesOf thread).stack = upper ++ lower ∧ upper ≠ [] ∧
      lower.length = outer.length ∧
      (∀ reference, reference ∈ lower.flatten ↔ reference ∈ outer.flatten ∧ ¬engine.Retires thread reference step) ∧
      ∀ reference ∈ lower.flatten, ((engine.after step).framesOf thread).table.get? reference =
        (engine.framesOf thread).table.get? reference := by
  obtain ⟨upper, lower, split, stillCovered, sameLength, left⟩ := stack_after tidy stack covered above
  refine ⟨upper, lower, split, stillCovered, sameLength, left, fun reference member => ?_⟩
  obtain ⟨wasBelow, notRetired⟩ := (left reference).mp member
  have orderly := tidy.frames thread
  have flattened : (engine.framesOf thread).stack.flatten = inner.flatten ++ outer.flatten := by
    rw [stack, List.flatten_append]
  obtain ⟨object, found⟩ := orderly.mem_iff.mp (flattened ▸ List.mem_append_right _ wasBelow)
  have notReleased : ¬engine.Releases thread reference step := by
    rintro ⟨kept, top, rest, -, -, isTop, inTop⟩
    obtain ⟨first, others, rfl⟩ := List.exists_cons_of_ne_nil covered
    obtain ⟨rfl, -⟩ := List.cons.inj (isTop.symm.trans stack)
    have apart := (List.nodup_append.mp (flattened ▸ orderly.once)).2.2
    exact apart reference (List.mem_append_left _ inTop) reference wasBelow rfl
  rw [found, get?_after tidy step]
  exact .inl ⟨found, notRetired, notReleased⟩

/-- A history that keeps above some frames leaves them alone, but for what it deletes or promotes there. -/
theorem outer_run (tidy : engine.Tidy) (offered : Throughout Offered engine steps)
    (stack : (engine.framesOf thread).stack = inner ++ outer) (covered : inner ≠ [])
    (above : Throughout (fun engine step => outer.length < ((engine.after step).framesOf thread).stack.length)
      engine steps) :
    ∃ upper lower, ((engine.run steps).framesOf thread).stack = upper ++ lower ∧ upper ≠ [] ∧
      lower.length = outer.length ∧
      (∀ reference, reference ∈ lower.flatten ↔ reference ∈ outer.flatten ∧ ¬Retired thread reference engine steps) ∧
      ∀ reference ∈ lower.flatten, ((engine.run steps).framesOf thread).table.get? reference =
        (engine.framesOf thread).table.get? reference := by
  induction steps generalizing engine inner outer with
  | nil => exact ⟨inner, outer, stack, covered, rfl, fun _ => by simp [Retired], fun _ _ => rfl⟩
  | cons step rest ih =>
    obtain ⟨middle, between, split, stillCovered, sameLength, left, same⟩ :=
      outer_after tidy stack covered above.1
    obtain ⟨upper, lower, finalSplit, finallyCovered, finalLength, finallyLeft, finallySame⟩ :=
      ih (tidy.after offered.1) offered.2 split stillCovered (sameLength ▸ above.2)
    refine ⟨upper, lower, finalSplit, finallyCovered, finalLength.trans sameLength, fun reference => ?_,
      fun reference member => ?_⟩
    · rw [finallyLeft, left, Retired, not_or, and_assoc]
    · exact (finallySame reference member).trans (same reference ((finallyLeft reference).mp member).1)

/-- What runs in a frame of its own leaves exactly the outer references that it did not delete or promote. -/
theorem withFrame_leaves (tidy : engine.Tidy) (body : EngineAction α)
    (ran : ended (body (engine.pushed thread)) = (engine.pushed thread).run steps)
    (offered : Throughout Offered (engine.pushed thread) steps)
    (isMatched : Matched thread (engine.framesOf thread).stack.length (engine.pushed thread) steps) :
    ∃ after, withFrame thread body engine = leaving after (body (engine.pushed thread)) ∧
      (after.framesOf thread).stack.length = (engine.framesOf thread).stack.length ∧
      ∀ reference object, (after.framesOf thread).table.get? reference = some object ↔
        (engine.framesOf thread).table.get? reference = some object ∧
          ¬Retired thread reference (engine.pushed thread) steps := by
  have start : (engine.pushed thread).framesOf thread = (engine.framesOf thread).push := by
    rw [pushed, framesOf_setFrames, if_pos rfl]
  have tidyStart : (engine.pushed thread).Tidy := tidy.pushed thread
  have tidyEnd := tidyStart.run offered
  have covered : ((engine.pushed thread).framesOf thread).stack = [[]] ++ (engine.framesOf thread).stack :=
    congrArg Frames.stack start
  obtain ⟨upper, lower, split, -, sameLength, left, same⟩ :=
    outer_run tidyStart offered covered (List.cons_ne_nil _ _) isMatched.above
  -- Above the outer frames only the frame of the body is left, and it is popped.
  have total := isMatched.settled
  rw [split, List.length_append, sameLength] at total
  obtain ⟨own, rfl⟩ := List.length_eq_one_iff.mp (show upper.length = 1 by omega)
  have grounded : lower ≠ [] := by
    rw [← List.length_pos_iff_ne_nil, sameLength, List.length_pos_iff_ne_nil]
    exact (tidy.frames thread).grounded
  have uncovered := popFrame_uncovers tidyEnd split grounded
  refine ⟨ended (popFrame thread none ((engine.pushed thread).run steps)), ran ▸ withFrame_run thread body engine,
    (congrArg List.length uncovered.stack).trans sameLength, fun reference object => ?_⟩
  have unchanged (member : reference ∈ lower.flatten) :
      (((engine.pushed thread).run steps).framesOf thread).table.get? reference =
        (engine.framesOf thread).table.get? reference :=
    (same reference member).trans (congrArg (·.table.get? reference) start)
  rw [uncovered.found]
  constructor
  · rintro ⟨found, member⟩
    exact ⟨(unchanged member).symm.trans found, ((left reference).mp member).2⟩
  · rintro ⟨found, notRetired⟩
    have member := (left reference).mpr ⟨(tidy.frames thread).mentioned found, notRetired⟩
    exact ⟨(unchanged member).trans found, member⟩

/-- What cannot be deleted changes nothing. -/
theorem deleteLocal_failed {failure : Failure} {after : Engine} (tidy : engine.Tidy)
    (failed : deleteLocal thread reference engine = .error failure after) : after = engine := by
  cases found : (engine.framesOf thread).table.get? reference with
  | some object =>
    obtain ⟨table, taken⟩ := ReferenceTable.remove_of_get? found
    obtain ⟨storage, ran, -⟩ := deleteLocal_of_some tidy taken
    cases ran.symm.trans failed
  | none =>
    cases isGlobal : reference.isGlobal with
    | true =>
      cases (deleteLocal_of_global isGlobal).symm.trans failed
      rfl
    | false =>
      cases (deleteLocal_of_none isGlobal found).symm.trans failed
      rfl

/-- After every history of calls on references a thread's live local references are recorded in its frames, each
once, and nothing else is. Popping a frame ends what it records and leaves all others, and a result gets a new
reference in the frame below. What cannot be popped or deleted changes nothing. And what runs in a frame of its
own, whether it answers or fails, leaves exactly the outer references that it did not delete or promote. -/
theorem live_locals_recorded_once (storage : Storage) (conf : Configuration) (steps : List EngineStep) (thread : Nat)
    (offered : Throughout Offered (new storage conf) steps) :
    let engine := (new storage conf).run steps
    let frames := engine.framesOf thread
    (∀ reference, frames.stack.flatten.count reference = if (frames.table.get? reference).isSome then 1 else 0) ∧
    engine.liveLocals thread = (frames.stack.map List.length).sum ∧
    (∀ kept, Leads (popFrame thread kept) engine (fun answer after => Popped thread kept answer engine after)
      (Unpopped thread kept engine)) ∧
    (∀ reference failure after, deleteLocal thread reference engine = .error failure after → after = engine) ∧
    ∀ {α : Type} (body : EngineAction α) (inside : List EngineStep),
      ended (body (engine.pushed thread)) = (engine.pushed thread).run inside →
      Throughout Offered (engine.pushed thread) inside →
      Matched thread frames.stack.length (engine.pushed thread) inside →
      ∃ after, withFrame thread body engine = leaving after (body (engine.pushed thread)) ∧
        (after.framesOf thread).stack.length = frames.stack.length ∧
        ∀ reference object, (after.framesOf thread).table.get? reference = some object ↔
          frames.table.get? reference = some object ∧ ¬Retired thread reference (engine.pushed thread) inside := by
  intro engine frames
  have tidy : engine.Tidy := (tidy_new storage conf).run offered
  have orderly : frames.Orderly := tidy.frames thread
  refine ⟨fun reference => ?_, ?_, popFrame_leads tidy thread, fun reference failure after => deleteLocal_failed tidy,
    fun body inside => withFrame_leaves tidy body⟩
  · rw [List.Nodup.count orderly.once]
    exact if_congr (orderly.mem_iff.trans Option.isSome_iff_exists.symm) rfl rfl
  · exact orderly.live_eq.trans List.length_flatten

/-- A status list is recorded in the base frame, and a block list in a frame above. -/
def nesting : List EngineStep :=
  [.references 0 (.newLocal (.fileStatuses [])), .references 0 .pushFrame,
    .references 0 (.newLocal (.blockLocations []))]

/-- Puts a status list into a local reference, deletes the first reference of all, and fails. -/
def failingBody : EngineAction Unit := do
  let _ ← newLocal 0 (.fileStatuses [])
  deleteLocal 0 ⟨0x100000000, by decide⟩
  raise .noFrame

/-- Popping the upper frame carries the block list out, and a body that fails has deleted the reference from the
base frame, but leaves the other one. -/
theorem live_locals_recorded_once_nested :
    let engine := (new (.new 0 (.new 0 .root 0 0)) .default).run nesting
    let second : Reference := ⟨0x200000000, by decide⟩
    Throughout Offered (new (.new 0 (.new 0 .root 0 0)) .default) nesting ∧
    (engine.framesOf 0).stack.flatten.count second = 1 ∧ engine.liveLocals 0 = 2 ∧
    (∃ third after, Popped 0 (some second) (some third) engine after) ∧
    ∃ after, withFrame 0 failingBody engine = .error (.raised .noFrame) after ∧
      (after.framesOf 0).table.get? ⟨0x100000000, by decide⟩ = none ∧
      (after.framesOf 0).table.get? second = some (.blockLocations []) := by
  intro engine second
  have offered : Throughout Offered (new (.new 0 (.new 0 .root 0 0)) .default) nesting := by
    refine ⟨?_, nofun, ?_, trivial⟩ <;>
      rintro _ _ ⟨⟩ _ ⟨⟩
  obtain ⟨once, counted, pops, -, framed⟩ :=
    live_locals_recorded_once (.new 0 (.new 0 .root 0 0)) .default nesting 0 offered
  have inside : ended (failingBody (engine.pushed 0)) = (engine.pushed 0).run
      [.references 0 (.newLocal (.fileStatuses [])), .references 0 (.deleteLocal ⟨0x100000000, by decide⟩)] := by
    decide +kernel
  obtain ⟨after, ran, -, left⟩ := framed failingBody _ inside (by
    refine ⟨?_, nofun, trivial⟩
    rintro _ _ ⟨⟩ _ ⟨⟩) ⟨⟨by decide +kernel, by decide +kernel, trivial⟩, by decide +kernel⟩
  refine ⟨offered, (once second).trans (by decide +kernel), counted.trans (by decide +kernel), ?_, after, ?_, ?_, ?_⟩
  · have leads := pops (some second)
    rcases popped : popFrame 0 (some second) engine with ⟨answer, after⟩ | ⟨failure, after⟩
    · have done := leads.answer popped
      obtain ⟨object, third, -, rfl, -⟩ := done.result second rfl
      exact ⟨third, after, done⟩
    · have depth : (engine.framesOf 0).stack.length = 2 := by decide +kernel
      cases leads.failure popped with
      | deadResult result isKept dead =>
        cases isKept
        exact absurd dead (by decide +kernel)
      | atBase base _ stack =>
        rw [stack] at depth
        cases depth
      | overflowed result below rest isKept stack full =>
        exact absurd full (by decide +kernel)
  · have fails : failingBody (engine.pushed 0) = .error (.raised .noFrame) (ended (failingBody (engine.pushed 0))) :=
      rfl
    rw [ran, fails, leaving]
  · refine Option.eq_none_iff_forall_ne_some.mpr fun object found => ((left _ object).mp found).2 ?_
    refine .inr (.inl ⟨_, rfl, .inl rfl, ?_⟩)
    change Option.isSome _ = true
    decide +kernel
  · refine (left second _).mpr ⟨by decide +kernel, ?_⟩
    simp [Retired, Retires, second]

end FileGateway.Engine
