import FileGateway.Proofs.Storage.Channels

/-! # Copying one file

Reading and writing in turn moves all that is left of the source to the target: every turn moves some
of it or fails, so the turns allowed for the size of the file are enough. A file is copied by opening
both ends, moving everything, and closing both ends, whether everything was moved or not. Each of these
can fail, and the copy fails with the first of them; a copy that answers has moved everything.
-/

namespace FileGateway.Storage

variable {storage : Storage} {input output length steps : Nat} {source target : Device}
  {origin goal : Location} {rest written : Bytes}

/-- A reader does not notice a writer of another file. -/
theorem Readable.besides {after : Storage} (readable : Readable storage input source origin rest)
    (streams : after.streams[input]? = storage.streams[input]?) (besides : Besides target goal storage after)
    (apart : source = target → origin ≠ goal) : Readable after input source origin rest := by
  refine readable.frame streams (fun {bytes} seen => ?_) besides.numbers
  by_cases same : source = target
  · subst same
    rwa [besides.look (apart rfl)]
  · rwa [besides.elsewhere same]

/-- Reading and writing in turn moves all that is left, in no more turns than there are bytes and one, or fails. -/
theorem pump_ends (positive : 0 < length) (apart : source = target → origin ≠ goal)
    (enough : rest.length < steps) (readable : Readable storage input source origin rest)
    (writable : Writable storage output target goal written) :
    Ends (pump input output length steps storage) fun _ after =>
      Readable after input source origin [] ∧ Writable after output target goal (written ++ rest) ∧
        Besides target goal storage after := by
  induction steps generalizing storage rest written with
  | zero => omega
  | succ steps ih =>
    have different := readable.ne_of_writable writable
    rw [pump]
    refine (read_ends readable positive).bind ?_
    rintro _ _ ⟨data, later, channel, rfl, rfl, whole, short, atEnd, stillReadable⟩
    have stillWritable : Writable (storage.withChannel input channel) output target goal written :=
      writable.withChannel different.symm channel
    have untouched : Besides target goal storage (storage.withChannel input channel) := .refl ..
    have count : (ReadResult.ofData data).count = data.length := rfl
    have bytes : (ReadResult.ofData data).data = data := rfl
    by_cases nothing : data = []
    · subst nothing
      obtain rfl := atEnd rfl
      obtain rfl : later = [] := whole
      rw [List.append_nil]
      exact ⟨stillReadable, stillWritable, untouched⟩
    · have taken : 0 < data.length := List.length_pos_iff.mpr nothing
      rw [if_neg (by omega), if_neg (by omega), count, bytes, Nat.sub_self, List.replicate_zero, List.append_nil]
      refine (write_ends stillWritable data).bind fun _ middle wrote => ?_
      have fewer : later.length < steps := by
        have total := congrArg List.length whole
        rw [List.length_append] at total
        omega
      have goesOn := ih fewer (stillReadable.besides (wrote.others input different) wrote.besides apart) wrote.writable
      rw [List.append_assoc, whole] at goesOn
      exact goesOn.imp fun _ after ⟨drained, filled, besides⟩ =>
        ⟨drained, filled, untouched.trans (wrote.besides.trans besides)⟩

/-! ## Files -/

/-- An exception that was handed over as a value is an answer. -/
theorem attempt_ends {α : Type} {action : Action α} {answered : α → Storage → Prop}
    (ends : Ends (action storage) answered) :
    Ends (attempt action storage) fun outcome after => ∀ value, outcome = .ok value → answered value after := by
  simp only [attempt, tryCatch, tryCatchThe, MonadExceptOf.tryCatch, EStateM.tryCatch, bind_run]
  rcases ran : action storage with ⟨value, after⟩ | ⟨exception | _ | _ | _, after⟩ <;> rw [ran] at ends
  case ok =>
    rintro other ⟨⟩
    exact ends
  case error.raised => exact fun value same => by contradiction
  all_goals exact ends

/-- Closing a stream comes to an end, whatever the stream is. -/
private theorem closeStream_ends (stream : Nat) : Ends (closeStream stream storage) fun _ _ => True := by
  refine (Ends.streamAt stream).bind fun found _ _ => ?_
  rcases found with ⟨_ | ⟨number, writer⟩ | _ | writer, script⟩
  case clusterWriter => exact .scripted ((Ends.clusterAt number).bind fun _ _ _ => .answerOf_any _)
  case diskWriter => exact .scripted (.answerOf_any _)
  all_goals exact .scripted trivial

/-- Between two open streams everything is moved and both are closed, or something fails. -/
theorem transfer_ends (positive : 0 < length) (apart : source = target → origin ≠ goal)
    (readable : Readable storage input source origin rest) (writable : Writable storage output target goal []) :
    Ends ((do
        let steps ← readsLeft input
        let copied ← attempt (pump input output length steps)
        let closedOutput ← attempt (closeStream output)
        let closedInput ← attempt (closeStream input)
        answerOf copied
        answerOf closedOutput
        answerOf closedInput : Action Unit) storage) fun _ after =>
      ∃ pumped, Besides target goal storage pumped ∧ Closed target goal pumped output rest after := by
  have different := readable.ne_of_writable writable
  obtain ⟨steps, ranSteps, enough⟩ := readsLeft_ok readable
  rw [bind_run, ranSteps]
  refine (attempt_ends (pump_ends positive apart enough readable writable)).bind fun copied pumped moved => ?_
  rcases copied with exception | ⟨⟩
  · -- what could not be moved is reported when both are closed
    refine (attempt_ends (closeStream_ends output)).bind fun closedOutput _ _ => ?_
    refine (attempt_ends (closeStream_ends input)).bind fun closedInput _ _ => ?_
    exact .raise exception
  obtain ⟨drained, filled, pumping⟩ := moved .unit rfl
  refine (attempt_ends (closeWriter_ends filled)).bind fun closedOutput after closing => ?_
  rcases closedOutput with exception | ⟨⟩
  · refine (attempt_ends (closeStream_ends input)).bind fun closedInput _ _ => ?_
    exact .raise exception
  have closed := closing .unit rfl
  have stillReadable := drained.besides (closed.others input different) closed.besides apart
  have closesInput : Ends (closeStream input after) fun _ last => last = after := by
    rw [closeReader_ok stillReadable]
    rfl
  refine (attempt_ends closesInput).bind fun closedInput last same => ?_
  rcases closedInput with exception | ⟨⟩
  · exact .raise exception
  · obtain rfl := same .unit rfl
    exact ⟨pumped, pumping, closed⟩

/-- A copied file holds the bytes of the source and is settled, in directories made for it where they
were missing. -/
theorem copyFile_ends {sourceClient targetClient : Nat} {sourceDirectory targetDirectory : Location}
    (fromSource : storage.Attached sourceClient source sourceDirectory)
    (toTarget : storage.Attached targetClient target targetDirectory)
    (sourcePath targetPath : Path) (conf : Configuration) {bytes : Bytes}
    (file : storage.look source (sourceDirectory.resolve sourcePath) = some (.file bytes))
    (free : storage.look target (targetDirectory.resolve targetPath) = none) :
    Ends (copyFile sourceClient sourcePath targetClient targetPath conf storage) fun _ after =>
      Evolved target none storage after ∧
      ∀ query, after.look target query = if query = targetDirectory.resolve targetPath then some (.file bytes)
        else filled (storage.look target) (targetDirectory.resolve targetPath).dropLast query := by
  have apart : source = target → sourceDirectory.resolve sourcePath ≠ targetDirectory.resolve targetPath := by
    rintro rfl same
    rw [← same, file] at free
    contradiction
  rw [copyFile]
  apply (openReader_ends fromSource sourcePath _ file).bind
  rintro input opened ⟨⟨streams, same⟩, readable⟩
  have opening (draft : Option Location) : Evolved target draft storage opened := same ▸ .of_streams ..
  have unchanged (device : Device) : opened.look device = storage.look device := same ▸ look_withStreams ..
  have toTarget := (opening none).attached toTarget
  obtain ⟨replication, blockSize, ranReplication, ranBlockSize, defaults⟩ := defaults_run toTarget
  rw [bind_run, ranReplication]
  simp only
  rw [bind_run, ranBlockSize]
  simp only
  refine (createWriter_ends toTarget targetPath _ defaults ?_).bind ?_
  · rwa [unchanged]
  · intro output created creating
    have readable : Readable created input source (sourceDirectory.resolve sourcePath) bytes := by
      refine readable.frame (creating.others input readable.lt) (fun {content} seen => ?_) creating.numbers
      by_cases same : source = target
      · subst same
        rw [creating.look, if_neg (apart rfl), filled, seen, Option.some_or]
      · rwa [creating.elsewhere same]
    refine .endingWith ((Ends.checkBuffer _).bind ?_)
    rintro _ _ rfl
    have positive : 0 < max conf.bufferSize.toNat 1 := by omega
    refine (transfer_ends positive apart readable creating.writable).imp ?_
    rintro _ after ⟨pumped, pumping, closed⟩
    obtain ⟨streams, dropped⟩ := closed.dropped
    have besides := pumping.trans (closed.besides.trans (.refl _ _ after streams))
    have evolved := (opening _).trans (creating.toEvolved.trans besides.toEvolved)
    have settled : Settled { after with streams } target (targetDirectory.resolve targetPath) := by
      rw [settled_withStreams]
      exact closed.settled
    refine ⟨_, dropped, evolved.settle settled, fun query => ?_⟩
    by_cases atGoal : query = targetDirectory.resolve targetPath
    · rw [if_pos atGoal, atGoal, look_withStreams, closed.content]
    · rw [besides.look atGoal, creating.look, if_neg atGoal, if_neg atGoal, unchanged]

end FileGateway.Storage
