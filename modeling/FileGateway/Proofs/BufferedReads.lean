import FileGateway.Proofs.Disk.Readers
import FileGateway.Proofs.Storage.Channels
import FileGateway.Proofs.Storage.Run
import FileGateway.Proofs.Storage.Sparing

/-! # Buffered reads

A local reader reads ahead, how much depends on its buffer, and knows its file by number. While the file only grows,
what it answers is nevertheless what its position and the file say at the moment of the call, as if nothing had been
read ahead: neither reads at other places, nor seeks that fail, nor anything that is asked of other streams makes a
difference. A read asks the system once. It gets no more than one transfer moves, and fails where the system has no
number for a place or refuses the transfer; a reader that fails stays where it is.
-/

namespace FileGateway.Storage

variable {storage before : Storage} {stream : Nat} {reader : DiskReader} {request : Request} {more : List Request}

/-- Nothing is done to a file but that bytes are added at its end. -/
def OnlyGrows (file : Nat) : Storage → List Request → Prop
  | _, [] => True
  | storage, request :: rest =>
    storage.disk.fileData file <+: (storage.after request).disk.fileData file ∧
      OnlyGrows file (storage.after request) rest

/-! ## Calls on a reader -/

section Calls

variable (channel : storage.streams[stream]? = some ⟨.diskReader reader, .none⟩)
include channel

theorem position_of_diskReader : position stream storage = .ok reader.position storage := by
  rw [position, bind_run, streamAt_of_some channel]
  rfl

theorem available_of_diskReader : available stream storage = .ok (reader.available storage.disk) storage := by
  rw [available, bind_run, streamAt_of_some channel]
  rfl

theorem readAt_of_diskReader (place count : Nat) : readAt stream place count storage =
    answerOf ((reader.readAt storage.disk place count).1.map .ofData)
      (storage.withChannel stream (.diskReader (reader.readAt storage.disk place count).2)) := by
  rw [readAt, bind_run, streamAt_of_some channel]
  simp only [scripted, Script.reaction?, Script.none, List.lookup_nil, bind_get]
  rcases reader.readAt storage.disk place count with ⟨_ | _, _⟩ <;> rfl

theorem seek_of_diskReader (target : Nat) : seek stream target storage =
    if reader.size storage.disk < target then .error (.raised (.seekPastEnd reader.path target)) storage
    else .ok () (storage.withChannel stream
      (.diskReader { reader with position := target, cursor := target, ahead := [] })) := by
  rw [seek, bind_run, streamAt_of_some channel]
  simp only [scripted, Script.reaction?, Script.none, List.lookup_nil, DiskReader.seek]
  rw [bind_get]
  split
  · exact congrArg (EStateM.Result.error _) (withChannel_of_same channel)
  · rfl

end Calls

/-! ## Reading on while the file grows -/

/-- A stream is a reader of the disk that is tied to its file. -/
structure Following (storage : Storage) (stream : Nat) (reader : DiskReader) : Prop where
  channel : storage.streams[stream]? = some ⟨.diskReader reader, .none⟩
  tied : reader.Tied (storage.disk.fileData reader.file)

/-- A reader that moved in its own storage is still tied to its file. -/
private theorem following_withChannel {moved : DiskReader}
    (channel : storage.streams[stream]? = some ⟨.diskReader reader, .none⟩)
    (tied : moved.Tied (storage.disk.fileData reader.file)) (file : moved.file = reader.file) :
    (storage.withChannel stream (.diskReader moved)).Following stream moved :=
  ⟨withChannel_self channel, file ▸ tied⟩

/-- A read at a place moves nothing, whether it is answered or not. -/
private theorem after_readAt (channel : storage.streams[stream]? = some ⟨.diskReader reader, .none⟩)
    (place count : Nat) : ∃ transfers, transfers <:+ reader.transfers ∧
      storage.after (.readAt stream place count) =
        storage.withChannel stream (.diskReader { reader with transfers }) := by
  have ran : storage.after (.readAt stream place count) = final (readAt stream place count storage) := final_discard _
  rw [ran, readAt_of_diskReader channel, final_answerOf]
  rcases reader.readAt_cases storage.disk place count with ⟨-, data, moved, -⟩ | ⟨error, later, fails, moved⟩ <;>
    rw [moved]
  · exact ⟨_, Transfer.next_suffix _, rfl⟩
  · obtain ⟨suffix, same⟩ := fails.eq
    exact ⟨_, suffix, congrArg (storage.withChannel stream <| .diskReader ·) same⟩

namespace Following

variable (following : storage.Following stream reader)
include following

/-- A reader of which nothing but the transfers changed is tied to its file as before. -/
private theorem spending (transfers : List Transfer) :
    (storage.withChannel stream (.diskReader { reader with transfers })).Following stream { reader with transfers } :=
  following_withChannel following.channel ⟨following.tied.ahead, following.tied.cursor, following.tied.inside⟩ rfl

private theorem after_read (count : Nat) :
    ∃ later, reader.Precedes later ∧ (storage.after (.read stream count)).Following stream later := by
  have ran : storage.after (.read stream count) = final (read stream count storage) := final_discard _
  rw [ran, read_of_diskReader following.channel, final_answerOf]
  rcases reader.read_handout following.tied count with ⟨data, later, moved, handout⟩ | ⟨error, later, fails, moved⟩ <;>
    rw [moved]
  · exact ⟨later, handout.toPrecedes, following_withChannel following.channel handout.tied handout.file⟩
  · obtain ⟨suffix, same⟩ := fails.eq
    rw [same]
    exact ⟨{ reader with transfers := later.transfers }, ⟨rfl, rfl, rfl, suffix⟩, following.spending _⟩

/-- A request to other streams, or none, leaves the reader where it is; and it stays tied to its file whatever the
request, as long as the file only grows. -/
theorem after (grown : storage.disk.fileData reader.file <+: (storage.after request).disk.fileData reader.file) :
    ∃ later, reader.Precedes later ∧ (storage.after request).Following stream later := by
  by_cases own : request.stream? = some stream
  · obtain ⟨called, dropped⟩ := after_of_idle following.channel rfl
    cases request <;> simp only [Request.stream?, Option.some.injEq, reduceCtorEq] at own <;> subst own
    case read other count => exact following.after_read count
    case readAt other place count =>
      obtain ⟨transfers, suffix, ran⟩ := after_readAt following.channel place count
      rw [ran]
      exact ⟨{ reader with transfers }, ⟨rfl, rfl, rfl, suffix⟩, following.spending transfers⟩
    case seek other target =>
      have ran : storage.after (.seek other target) = final (seek other target storage) := rfl
      rw [ran, seek_of_diskReader following.channel]
      split
      · exact ⟨reader, .refl reader, following⟩
      · next within =>
        have tied := DiskReader.Tied.of_place reader (le_of_not_gt within)
        exact ⟨{ reader with position := target, cursor := target, ahead := [] }, ⟨rfl, rfl, rfl, List.suffix_rfl⟩,
          following_withChannel following.channel tied rfl⟩
    case call other asked =>
      rw [called asked]
      exact ⟨reader, .refl reader, following⟩
    case drop other =>
      rw [dropped]
      exact ⟨reader, .refl reader, following⟩
  · have channel : (storage.after request).streams[stream]? = some ⟨.diskReader reader, .none⟩ := by
      rw [Storage.after, final_eq_ended]
      exact serve_spares own storage _ following.channel
    exact ⟨reader, .refl reader, channel, following.tied.of_prefix grown⟩

/-- Only reads and seeks move a reader, whatever becomes of its file. -/
theorem position_after (noRead : ∀ count, request ≠ .read stream count)
    (noSeek : ∀ target, request ≠ .seek stream target) :
    position stream (storage.after request) = .ok reader.position (storage.after request) := by
  by_cases own : request.stream? = some stream
  · obtain ⟨called, dropped⟩ := after_of_idle following.channel rfl
    cases request <;> simp only [Request.stream?, Option.some.injEq, reduceCtorEq] at own <;> subst own
    case read other count => exact absurd rfl (noRead count)
    case readAt other place count =>
      obtain ⟨transfers, -, ran⟩ := after_readAt following.channel place count
      have stays := position_of_diskReader (following.spending transfers).channel
      rw [ran]
      exact stays
    case seek other target => exact absurd rfl (noSeek target)
    case call other asked =>
      rw [called asked]
      exact position_of_diskReader following.channel
    case drop other =>
      rw [dropped]
      exact position_of_diskReader following.channel
  · refine position_of_diskReader ?_
    rw [Storage.after, final_eq_ended]
    exact serve_spares own storage _ following.channel

theorem run (grows : OnlyGrows reader.file storage more) :
    ∃ later, reader.Precedes later ∧ (storage.run more).Following stream later := by
  induction more generalizing storage reader with
  | nil => exact ⟨reader, .refl reader, following⟩
  | cons request rest ih =>
    obtain ⟨middle, precedes, onward⟩ := following.after grows.1
    obtain ⟨later, further, goesOn⟩ := ih onward (precedes.file ▸ grows.2)
    exact ⟨later, precedes.trans further, goesOn⟩

end Following

/-- A local reader begins at the beginning of its file, with nothing read ahead. -/
private theorem Sound.following_of_opened {client : Nat} {path : Path} {bufferSize : UInt64} {opened : Storage}
    (sound : before.Sound) (ran : openReader client path bufferSize before = .ok stream opened)
    (channel : opened.streams[stream]? = some ⟨.diskReader reader, .none⟩) :
    opened.Following stream reader ∧ reader.position = 0 := by
  rcases sound.plain.client_cases client with absent | ⟨number, directory, found, -⟩ | ⟨conf, directory, found⟩
  · rw [openReader, bind_run, clientAt_of_none absent] at ran
    contradiction
  · -- a client of a cluster opens no reader of the disk
    cases present : before.clusters[number]? with
    | none =>
      rw [openReader_of_no_cluster found present] at ran
      contradiction
    | some cluster =>
      rw [openReader_of_cluster found present] at ran
      split at ran <;> cases ran
      rw [List.getElem?_concat_length] at channel
      simp at channel
  · rw [openReader_of_disk found] at ran
    split at ran
    · next fresh done =>
      split at ran <;> cases ran
      rw [List.getElem?_concat_length] at channel
      obtain ⟨file, place, capacity, rfl⟩ := LocalDisk.openReader_start done
      have isReader : Channel.diskReader _ = .diskReader reader := congrArg Stream.channel (Option.some.inj channel)
      obtain rfl := Channel.diskReader.inj isReader
      exact ⟨⟨List.getElem?_concat_length, ⟨List.nil_prefix, rfl, Nat.zero_le _⟩⟩, rfl⟩
    · contradiction

/-- From when a local client opens a file in any run, whatever its buffers, and as long as the file only grows, at every
time: the stream has a position within the file, at first its beginning, which only reads and seeks move. A read hands
out the bytes of the file from there, no more than asked for, and none only if none are asked for or the position is at
the end, and moves the position behind them. A read at some place gives the bytes of the file there, no more than one
transfer moves, none only if none are asked for or none are there, and all that was asked for and is there if it is not
more than one transfer moves and none is cut short. Either fails, on the path of the reader, only if the system has no
number for the place behind what it asks for or refuses a transfer. Reads at some place and reads that fail change
nothing but the transfers to come. The stream can go to every place up to the end, and to no other, which changes
nothing. What is available is what lies behind the position. -/
theorem buffered_reads_follow_position (now : Int) (disk : Disk) (requests : List Request) {client : Nat} {path : Path}
    {bufferSize : UInt64} {opened : Storage}
    (ran : openReader client path bufferSize ((new now disk).run requests) = .ok stream opened)
    (channel : opened.streams[stream]? = some ⟨.diskReader reader, .none⟩)
    (grows : OnlyGrows reader.file opened more) :
    position stream opened = .ok 0 opened ∧
    let storage := opened.run more
    let bytes := storage.disk.fileData reader.file
    ∃ later, reader.Precedes later ∧ storage.streams[stream]? = some ⟨.diskReader later, .none⟩ ∧
      position stream storage = .ok later.position storage ∧ later.position ≤ bytes.length ∧
      (∀ request : Request, (∀ count, request ≠ .read stream count) → (∀ target, request ≠ .seek stream target) →
        position stream (storage.after request) = .ok later.position (storage.after request)) ∧
      (∀ count,
        (∃ data, let after := storage.after (.read stream count)
          read stream count storage = .ok (.ofData data) after ∧ after.disk = storage.disk ∧
          position stream after = .ok (later.position + data.length) after ∧
          data <+: bytes.drop later.position ∧ data.length ≤ count ∧
          (data.length = 0 ↔ count = 0 ∨ bytes.length ≤ later.position)) ∨
        ∃ error left, later.Fails (later.position + max count reader.capacity) error left ∧
          read stream count storage = .error (.raised (.onPath reader.path error))
            (storage.withChannel stream (.diskReader left))) ∧
      (∀ target count,
        (target + count < positionLimit ∧ ∃ data,
          readAt stream target count storage =
            .ok (.ofData data) (storage.withChannel stream (.diskReader later.spent)) ∧
          data <+: bytes.drop target ∧ data.length ≤ min count Transfer.limit ∧
          (data.length = 0 ↔ count = 0 ∨ bytes.length ≤ target) ∧
          ((∀ bound, .moved bound ∈ later.transfers → count ≤ bound) →
            data.length = min (min count Transfer.limit) (bytes.length - target))) ∨
        ∃ error left, later.Fails (target + count) error left ∧
          readAt stream target count storage = .error (.raised (.onPath reader.path error))
            (storage.withChannel stream (.diskReader left))) ∧
      (∀ target, if target ≤ bytes.length then
          let after := storage.after (.seek stream target)
          seek stream target storage = .ok () after ∧ after.disk = storage.disk ∧
            position stream after = .ok target after
        else ∃ exception, seek stream target storage = .error (.raised exception) storage) ∧
      available stream storage = .ok (bytes.length - later.position) storage := by
  have sound := (sound_new now disk).run requests
  obtain ⟨start, atBeginning⟩ := sound.following_of_opened ran channel
  refine ⟨atBeginning ▸ position_of_diskReader channel, ?_⟩
  intro storage bytes
  obtain ⟨later, precedes, following⟩ := start.run grows
  have isFile : storage.disk.fileData later.file = bytes := congrArg storage.disk.fileData precedes.file
  refine ⟨later, precedes, following.channel, position_of_diskReader following.channel,
    isFile ▸ following.tied.position_le, fun request => following.position_after, fun count => ?_,
    fun target count => ?_, fun target => ?_, ?_⟩
  · have done := read_of_diskReader following.channel count
    have after : storage.after (.read stream count) = final (read stream count storage) := final_discard _
    rcases later.read_handout following.tied count with ⟨data, last, moved, handout⟩ | ⟨error, left, fails, moved⟩ <;>
      rw [moved] at done
    · rw [after, done]
      exact .inl ⟨data, rfl, rfl, handout.moved ▸ position_of_diskReader (withChannel_self following.channel),
        isFile ▸ handout.run, handout.short, isFile ▸ handout.atEnd⟩
    · exact .inr ⟨error, left, precedes.capacity ▸ fails, precedes.path ▸ done⟩
  · have done := readAt_of_diskReader following.channel target count
    rcases later.readAt_cases storage.disk target count with
      ⟨near, data, moved, portion, ample⟩ | ⟨error, left, fails, moved⟩ <;> rw [moved] at done
    · rw [isFile] at portion ample
      exact .inl ⟨near, data, done, portion.run, portion.short, portion.length_eq_zero_iff, ample⟩
    · exact .inr ⟨error, left, fails, precedes.path ▸ done⟩
  · have done := seek_of_diskReader following.channel target
    rw [DiskReader.size, isFile] at done
    split
    · rw [if_neg (by omega)] at done
      have after : storage.after (.seek stream target) = final (seek stream target storage) := rfl
      rw [after, done]
      exact ⟨rfl, rfl, position_of_diskReader (withChannel_self following.channel)⟩
    · rw [if_pos (by omega)] at done
      exact ⟨_, done⟩
  · rw [available_of_diskReader following.channel, DiskReader.available, DiskReader.size, isFile]

/-- A file of three bytes that is still being written. -/
def unfinished : List Request :=
  [.joinDisk .default, .createFile 0 ⟨[47, 102]⟩ ⟨false, 1, 1, 1⟩, .call 0 (.write [1, 2, 3])]

/-- A disk that gives the second stream one byte and refuses it more. -/
def grudging : Disk := { Disk.new 0 .root 0 0 with transfers := [[], [.moved 1, .refused (.number 5)]] }

/-- A reader with a buffer of two bytes reads one, and then the file goes on, loses its name, and ends before the place
that the reader is sent to. From a grudging disk the reader gets one byte at another place, and is then refused where it
stands. -/
theorem buffered_reads_follow_position_of_unfinished :
    (let opened := final (openReader 0 ⟨[47, 102]⟩ 2 ((new 0 (.new 0 .root 0 0)).run unfinished))
    let more : List Request := [.read 1 1, .call 0 (.write [4]), .delete 0 ⟨[47, 102]⟩, .seek 1 9]
    let storage := opened.run more
    position 1 storage = .ok 1 storage ∧ available 1 storage = .ok 3 storage ∧
    (∃ data, read 1 9 storage = .ok (.ofData data) (storage.after (.read 1 9)) ∧ data <+: [2, 3, 4] ∧ data ≠ []) ∧
    (∃ exception, seek 1 5 storage = .error (.raised exception) storage) ∧
    readAt 1 positionLimit 1 storage = .error (.raised (.onPath ⟨[47, 102]⟩ .invalidArgument)) storage) ∧
    (let opened := final (openReader 0 ⟨[47, 102]⟩ 2 ((new 0 grudging).run unfinished))
    let storage := opened.run [.readAt 1 1 9]
    (∃ data after, readAt 1 1 9 opened = .ok (.ofData data) after ∧ data <+: [2, 3] ∧ data.length ≠ 0) ∧
    ∃ error after, read 1 1 storage = .error (.raised (.onPath ⟨[47, 102]⟩ error)) after ∧
      position 1 after = .ok 0 after) := by
  constructor
  · intro opened more storage
    have ran : openReader 0 ⟨[47, 102]⟩ 2 ((new 0 (.new 0 .root 0 0)).run unfinished) = .ok 1 opened :=
      ok_of_answer (by decide +kernel)
    have channel : opened.streams[1]? = some ⟨.diskReader (.ofFile 0 ⟨[47, 102]⟩ 2), .none⟩ := by decide +kernel
    have grows : OnlyGrows 0 opened more :=
      ⟨by decide +kernel, by decide +kernel, by decide +kernel, by decide +kernel, trivial⟩
    have content : storage.disk.fileData 0 = [1, 2, 3, 4] := by decide +kernel
    have atOne : answer? (position 1 storage) = some 1 := by decide +kernel
    obtain ⟨-, later, precedes, found, isPosition, -, -, reads, readsAt, seeks, isAvailable⟩ :=
      buffered_reads_follow_position 0 (.new 0 .root 0 0) unfinished ran channel grows
    have here : (opened.run more).disk.fileData (DiskReader.ofFile 0 ⟨[47, 102]⟩ 2).file = [1, 2, 3, 4] := content
    have isOne : later.position = 1 := by
      rw [isPosition] at atOne
      exact Option.some.inj atOne
    have small : 1 + max 9 (DiskReader.ofFile 0 ⟨[47, 102]⟩ 2).capacity < positionLimit := by decide
    clear_value opened
    have noTransfers : later.transfers = [] := List.suffix_nil.mp precedes.transfers
    simp only [here, isOne] at isPosition reads seeks isAvailable
    refine ⟨isPosition, isAvailable, ?_, seeks 5, ?_⟩
    · rcases reads 9 with ⟨data, done, -, -, run, -, atEnd⟩ | ⟨error, left, fails, -⟩
      · refine ⟨data, done, run, fun nothing => ?_⟩
        have := atEnd.mp (by rw [nothing]; rfl)
        simp at this
      · cases fails with
        | beyond far => omega
        | refused _ member => rw [noTransfers] at member; contradiction
    · rcases readsAt positionLimit 1 with ⟨near, -⟩ | ⟨error, left, fails, done⟩
      · omega
      · cases fails with
        | beyond => rwa [withChannel_of_same found] at done
        | refused near => omega
  · intro opened storage
    have ran : openReader 0 ⟨[47, 102]⟩ 2 ((new 0 grudging).run unfinished) = .ok 1 opened :=
      ok_of_answer (by decide +kernel)
    have channel : opened.streams[1]? =
        some ⟨.diskReader ⟨0, ⟨[47, 102]⟩, 0, 0, [], 2, [.moved 1, .refused (.number 5)]⟩, .none⟩ := by decide +kernel
    have content : opened.disk.fileData 0 = [1, 2, 3] := by decide +kernel
    have fails : answer? (read 1 1 storage) = none := by decide +kernel
    have atStart : answer? (position 1 storage) = some 0 := by decide +kernel
    have answers : (answer? (readAt 1 1 9 opened)).isSome := by decide +kernel
    have grows : OnlyGrows 0 opened [.readAt 1 1 9] := ⟨by decide +kernel, trivial⟩
    have still : OnlyGrows 0 opened [] := trivial
    clear_value opened
    obtain ⟨-, first, -, -, -, -, -, -, readsAt, -⟩ :=
      buffered_reads_follow_position 0 grudging unfinished ran channel still
    obtain ⟨-, later, -, found, isPosition, -, -, reads, -⟩ :=
      buffered_reads_follow_position 0 grudging unfinished ran channel grows
    constructor
    · have here : (opened.run []).disk.fileData 0 = [1, 2, 3] := content
      simp only [here] at readsAt
      rcases readsAt 1 9 with ⟨-, data, done, run, -, atEnd, -⟩ | ⟨error, left, -, done⟩
      · exact ⟨data, _, done, run, by simp [atEnd]⟩
      · rw [show readAt 1 1 9 opened = _ from done] at answers
        contradiction
    · rw [isPosition] at atStart
      rcases reads 1 with ⟨data, done, -⟩ | ⟨error, left, refusal, done⟩
      · rw [done] at fails
        contradiction
      · have stays : left.position = 0 := by rw [refusal.eq.2]; exact Option.some.inj atStart
        exact ⟨error, _, done, stays ▸ position_of_diskReader (withChannel_self found)⟩

/-- A disk with one file, and with transfers for the first stream. -/
def holding (bytes : Bytes) (transfers : List Transfer) : Disk :=
  let disk := Disk.new 0 .root 0 0
  { disk with tree := disk.tree.insert [[102]] (.file 0), files := [⟨bytes, 0⟩], transfers := [transfers] }

/-- The file of a disk was opened for reading. -/
def beginning (bytes : Bytes) (transfers : List Transfer) : Storage :=
  (new 0 (holding bytes transfers)).run [.joinDisk .default, .openFile 0 ⟨[47, 102]⟩ 0]

private theorem beginning_channel (bytes : Bytes) (transfers : List Transfer) :
    (beginning bytes transfers).streams[0]? = some ⟨.diskReader ⟨0, ⟨[47, 102]⟩, 0, 0, [], 4096, transfers⟩, .none⟩ :=
  rfl

/-- A read at a place gives all that was asked for and is there. -/
def ReadsInFull (bytes : Bytes) (transfers : List Transfer) (place count : Nat) : Prop :=
  ∃ data after, readAt 0 place count (beginning bytes transfers) = .ok (.ofData data) after ∧
    data.length = min count (bytes.length - place)

/-- Not every read at a place gives all that was asked for and is there, or nothing if nothing is there: one behind the
last place that the system has a number for is refused, one of more bytes than a transfer moves gets fewer, and one
whose transfer the system refuses gets none. -/
theorem reads_fall_short :
    ¬ReadsInFull [1] [] positionLimit 1 ∧
    ¬ReadsInFull (List.replicate (Transfer.limit + 1) 0) [] 0 (Transfer.limit + 1) ∧
    ¬ReadsInFull [1] [.refused (.number 5)] 0 1 := by
  refine ⟨?_, ?_, ?_⟩
  · rintro ⟨data, after, done, -⟩
    rw [readAt_of_diskReader (beginning_channel [1] [])] at done
    rcases DiskReader.readAt_cases _ _ positionLimit 1 with ⟨near, -⟩ | ⟨error, left, -, ran⟩
    · omega
    · rw [ran] at done
      contradiction
  · -- the bytes keep a name, for there are too many of them to look at
    obtain ⟨bytes, isLong⟩ : ∃ bytes : Bytes, bytes = List.replicate (Transfer.limit + 1) 0 := ⟨_, rfl⟩
    rw [← isLong]
    rintro ⟨data, after, done, whole⟩
    rw [isLong, List.length_replicate, Nat.sub_zero, Nat.min_self] at whole
    rw [readAt_of_diskReader (beginning_channel bytes [])] at done
    rcases DiskReader.readAt_cases _ _ 0 (Transfer.limit + 1) with
      ⟨-, given, ran, portion, -⟩ | ⟨error, left, -, ran⟩ <;> rw [ran] at done
    · obtain rfl : given = data := congrArg ReadResult.data (Except.ok.inj (ok_of_answerOf done).1)
      have short := portion.short
      omega
    · contradiction
  · rintro ⟨data, after, done, -⟩
    have fails : answer? (readAt 0 0 1 (beginning [1] [.refused (.number 5)])) = none := by decide +kernel
    rw [done] at fails
    contradiction

end FileGateway.Storage
