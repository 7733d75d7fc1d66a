import ResumableStreams.Disk.OpenFile
import ResumableStreams.Proofs.Delivery
import ResumableStreams.Proofs.Usage

namespace ResumableStreams

/-!
# What a source offers

However a source is reached, it comes to the same in the end: it gives some
bytes, and after them there is its end or a failure.  This is its `Offering`,
and what is read of the source depends on nothing else.

The offering of a file is what the disk holds, and that of an address is what
the network answers.  The network is taken to give the same answer whenever an
address is asked for; how often it may be asked is counted.
-/

/-- What there is to be had from a source: bytes, and after them a failure,
unless the source comes to its end. -/
structure Offering where
  content : Bytes
  failure : Option Fault

namespace Offering

/-- What is raised where so many bytes are wanted and these are all: the error that
carries them, if it can be built. -/
def shortage (size : Nat) (bytes : Bytes) : Fault :=
  if Text.Writable size then
    .reported (.unexpectedEnd (size - bytes.length : Nat) size (.frozen bytes))
  else .overlongInteger

/-- What reading a source comes to, where so many bytes are wanted, or all.
Nothing that comes after the bytes wanted matters. -/
def result (size : Option Nat) (offering : Offering) : Except Fault Bytes :=
  match size, offering.failure with
  | none, none => .ok offering.content
  | none, some fault => .error fault
  | some size, failure =>
    if size ≤ offering.content.length then .ok (offering.content.take size)
    else .error (failure.getD (shortage size offering.content))

theorem result_whole {offering : Offering} (ends : offering.failure = none) :
    offering.result none = .ok offering.content := by
  simp only [result, ends]

theorem result_part {offering : Offering} {wanted rest : Bytes}
    (pieces : offering.content = wanted ++ rest) :
    offering.result (some wanted.length) = .ok wanted := by
  have there : wanted.length ≤ offering.content.length := by
    rw [pieces, List.length_append]
    exact Nat.le_add_right _ _
  rw [result, if_pos there, pieces, List.take_left]

/-- Where not everything is there that is wanted, the failure counts, or the
end. -/
theorem result_short {offering : Offering} {size : Nat}
    (missing : offering.content.length < size) :
    offering.result (some size) =
      .error (offering.failure.getD (shortage size offering.content)) := by
  rw [result, if_neg (Nat.not_le.mpr missing)]

theorem result_failed {offering : Offering} {size : Option Nat} {fault : Fault}
    (fails : offering.failure = some fault)
    (missing : ∀ target, size = some target -> offering.content.length < target) :
    offering.result size = .error fault := by
  cases size with
  | none => simp only [result, fails]
  | some size => rw [result_short (missing size rfl), fails, Option.getD_some]

/-- What reading into a buffer comes to, whether it has failed, and what is
offered after it.  A buffer gets nothing only at the end. -/
inductive Fills (buffer : Bytes) (offering : Offering) :
    Filling -> (failed : Bool) -> Offering -> Prop where
  | bytes {data rest : Bytes} {events : List Event} : offering.content = data ++ rest ->
      data.length ≤ buffer.length -> (data = [] -> rest = [] ∧ offering.failure = none) ->
      Fills buffer offering ⟨Bytes.overStart data buffer, .moved data.length, events⟩ false
        ⟨rest, offering.failure⟩
  | failed {fault : Fault} {events : List Event} {later : Offering} : offering.content = [] ->
      offering.failure = some fault ->
      Fills buffer offering ⟨buffer, .raised fault, events⟩ true later

/-- Taking as much as fits of what comes to its end. -/
theorem fills_put {buffer : Bytes} (room : buffer ≠ []) (content : Bytes) :
    Fills buffer ⟨content, none⟩ ((⟨buffer, true⟩ : Lent).put (content.take buffer.length)) false
      ⟨content.drop buffer.length, none⟩ := by
  refine .bytes (List.take_append_drop _ _).symm (List.length_take_le _ _) fun nothing => ⟨?_, rfl⟩
  rcases List.take_eq_nil_iff.mp nothing with noRoom | noContent
  · exact absurd (List.length_eq_zero_iff.mp noRoom) room
  · rw [noContent, List.drop_nil]

end Offering

/-! ## Open files -/

namespace OpenFile

/-- The file has been opened for reading only, and has not been closed. -/
structure Reads (file : OpenFile) : Prop where
  mode : file.mode = ⟨.reading, false, false⟩
  open_ : file.closes = 0
  saved : file.unsaved = none

/-- What has not been read of the file: the rest of the block, and what the
disk holds behind it. -/
def coming (file : OpenFile) (disk : Disk) : Bytes :=
  file.ahead ++ (disk.contents file.location).drop file.position

theorem reads_start (location : Location) (disk : Disk) :
    (start location ⟨.reading, false, false⟩ disk).Reads ∧
      (start location ⟨.reading, false, false⟩ disk).coming disk = disk.contents location :=
  ⟨⟨rfl, rfl, rfl⟩, rfl⟩

/-- The rest of a block and what is behind the block are what is behind the
bytes taken. -/
theorem drop_block (behind : Bytes) {count size : Nat} (fits : count ≤ size) :
    (behind.take size).drop count ++ behind.drop (behind.take size).length = behind.drop count :=
  calc (behind.take size).drop count ++ behind.drop (behind.take size).length
    _ = (behind.drop count).take (size - count) ++ behind.drop size := by
      rw [List.drop_take, List.length_take, ← List.drop_eq_drop_min]
    _ = (behind.drop count).take (size - count) ++ (behind.drop count).drop (size - count) := by
      rw [List.drop_drop, Nat.add_sub_cancel' fits]
    _ = behind.drop count := List.take_append_drop _ _

/-- The block has been read up, and is dropped for what comes behind it. -/
theorem Reads.readOn {file : OpenFile} (reads : file.Reads) (disk : Disk) {count : Nat}
    (positive : 0 < count) :
    let behind := (disk.contents file.location).drop file.position
    (file.readOn count disk).1 = behind.take count ∧ (file.readOn count disk).2.Reads ∧
      (file.readOn count disk).2.coming disk = behind.drop count := by
  intro behind
  have kept (length : Nat) : (disk.contents file.location).drop (file.position + length) =
      behind.drop length := List.drop_drop.symm
  unfold OpenFile.readOn
  simp only [if_neg (Nat.ne_of_gt positive), dropBlock]
  split
  · refine ⟨rfl, ⟨reads.mode, reads.open_, reads.saved⟩, ?_⟩
    simp only [coming, List.nil_append, kept, List.length_take]
    exact List.drop_eq_drop_min.symm
  · rename_i short
    have fits : count ≤ blockSize := Nat.le_of_not_lt short
    split
    · rename_i nothing
      have ended : behind = [] := by
        rcases List.take_eq_nil_iff.mp nothing with zero | ended
        · cases zero
        · exact ended
      refine ⟨by rw [ended, List.take_nil], ⟨reads.mode, reads.open_, reads.saved⟩, ?_⟩
      rw [ended, List.drop_nil]
      exact ended
    · refine ⟨?_, ⟨reads.mode, reads.open_, reads.saved⟩, ?_⟩
      · rw [List.take_take, Nat.min_eq_left fits]
      · simp only [coming, kept]
        exact drop_block behind fits

/-- A read gives the next bytes, as many as are wanted and there. -/
theorem Reads.next {file : OpenFile} (reads : file.Reads) (disk : Disk) {count : Nat}
    (positive : 0 < count) :
    ∃ after, file.next count disk = ((file.coming disk).take count, after, disk) ∧ after.Reads ∧
      after.coming disk = (file.coming disk).drop count := by
  have readOnly : file.mode.writable = false := by rw [reads.mode]; rfl
  have sized : (file.ahead.take count).length = min count file.ahead.length := List.length_take
  by_cases within : count ≤ file.ahead.length
  · have full : (file.ahead.take count).length = count := by omega
    have ready : (file.ahead.take count).length = count ∧
        0 < (file.ahead.take count).length + (file.ahead.drop count).length := by omega
    refine ⟨{ file with
      passed := file.passed.append (file.ahead.take count), ahead := file.ahead.drop count },
      ?_, ⟨reads.mode, reads.open_, reads.saved⟩, ?_⟩
    · simp only [OpenFile.next, if_pos ready, coming, List.take_append_of_le_length within]
    · simp only [coming, List.drop_append_of_le_length within]
  · have taken : file.ahead.take count = file.ahead := List.take_of_length_le (by omega)
    have notReady : ¬ ((file.ahead.take count).length = count ∧
        0 < (file.ahead.take count).length + (file.ahead.drop count).length) := by
      omega
    let rest : OpenFile :=
      { file with passed := file.passed.append file.ahead, ahead := file.ahead.drop count }
    have behind := @Reads.readOn rest ⟨reads.mode, reads.open_, reads.saved⟩ disk
      (count - file.ahead.length) (by omega)
    refine ⟨_, ?_, behind.2.1, ?_⟩
    · rw [OpenFile.next, if_neg notReady, taken, readOnly]
      simp only [Bool.false_eq_true, if_false]
      rw [behind.1, coming, List.take_append, taken]
    · have nothing : file.ahead.drop count = [] := List.drop_of_length_le (by omega)
      rw [behind.2.2, coming, List.drop_append, nothing]
      rfl

/-- Reading into a buffer takes what fits of what is coming. -/
theorem Reads.readInto {file : OpenFile} (reads : file.Reads) (disk : Disk) {buffer : Bytes}
    (room : buffer ≠ []) :
    ∃ after, OpenFile.readInto ⟨buffer, true⟩ (file, disk) =
        ((⟨buffer, true⟩ : Lent).put ((file.coming disk).take buffer.length), (after, disk)) ∧
      after.Reads ∧ after.coming disk = (file.coming disk).drop buffer.length := by
  rcases reads.next disk (List.length_pos_iff.mpr room) with ⟨after, taken, readsAfter, coming⟩
  refine ⟨after, ?_, readsAfter, coming⟩
  have opened : ¬ file.closes > 0 := Nat.not_lt.mpr (Nat.le_of_eq reads.open_)
  have readable : file.mode.readable = true := by rw [reads.mode]; rfl
  simp only [OpenFile.readInto, Lent.size, taken, if_neg opened, readable, Bool.not_true,
    Bool.false_eq_true, if_false]

end OpenFile

/-- What is offered by the file to which a path leads. -/
def Disk.offering (disk : Disk) (path : String) : Except Fault Offering :=
  if path.toList.contains '\x00' then .error .nullInPath
  else
    match disk.openPath path ⟨.reading, false, false⟩ with
    | .error refusal => .error (.system refusal)
    | .ok (location, _) => .ok ⟨disk.contents location, none⟩

/-- Opening a file for reading leaves the disk as it is. -/
theorem Disk.openPath_reading {disk after : Disk} {path : String} {location : Location}
    (opened : disk.openPath path ⟨.reading, false, false⟩ = .ok (location, after)) :
    after = disk := by
  unfold Disk.openPath at opened
  cases resolved : disk.resolve path with
  | error refusal =>
    rw [resolved] at opened
    cases opened
  | ok target =>
    rw [resolved] at opened
    cases target with
    | file location slashed =>
      cases slashed <;> cases opened
      rfl
    | directory slashed => cases slashed <;> cases opened
    | free location slashed => cases slashed <;> cases opened
    | overlong slashed => cases slashed <;> cases opened

/-! ## Answers from the network -/

/-- Whatever is asked for by the next so many requests, the answer is the one
that `answerOf` tells for the address. -/
def Net.Answers (answerOf : String -> Answer) : (count : Nat) -> List (String × List Answer) -> Prop
  | 0, _ => True
  | count + 1, script =>
    ∀ url, (takeAnswer url script).1 = answerOf url ∧
      Answers answerOf count (takeAnswer url script).2

theorem Net.Answers.fewer {answerOf : String -> Answer} {count : Nat}
    {script : List (String × List Answer)} (answers : Answers answerOf (count + 1) script) :
    Answers answerOf count script := by
  induction count generalizing script with
  | zero => trivial
  | succ count inductionHypothesis =>
    intro url
    exact ⟨(answers url).1, inductionHypothesis (answers url).2⟩

/-- A request that was allowed for need not be made. -/
theorem Net.Answers.unasked {answerOf : String -> Answer} {count : Nat} {asks : Bool}
    {script : List (String × List Answer)}
    (answers : Answers answerOf (count + asks.toNat) script) : Answers answerOf count script := by
  cases asks with
  | false => exact answers
  | true => exact answers.fewer

/-- How the length that a response announces is refused, if it is not
understood. -/
def announcementFault (contentLength : Option String) : Option Fault :=
  match contentLength with
  | none | some "" => none
  | some text =>
    match Text.readInteger text with
    | .value _ => none
    | .malformed => some (.notAnInteger text)
    | .tooManyDigits count => some (.tooManyDigits count)

/-- What the answer to a request offers. -/
def Answer.offering (url : String) : Answer -> Offering
  | .notConnected reason => ⟨[], some (.transport (.notConnected reason))⟩
  | .systemFailure text => ⟨[], some (.systemText text)⟩
  | .response status contentLength chunks =>
    if status ≥ 400 then ⟨[], some (.refused status)⟩
    else
      match announcementFault contentLength with
      | some fault => ⟨[], some fault⟩
      | none => ⟨Chunk.deliverable chunks, Chunk.failure url chunks⟩

namespace Net

/-- A user of the network who received from one response, if any, comes to
receive from another, if any.  It is the same one or a new one, and the others
are as they were. -/
structure Touches (response left : Option Nat) (before after : Net) : Prop where
  size : before.responses.size ≤ after.responses.size
  others : ∀ other, other < before.responses.size -> response ≠ some other ->
    after.responses[other]? = before.responses[other]?
  origin : ∀ index, left = some index ->
    response = some index ∨ before.responses.size ≤ index

variable {response middle left : Option Nat} {before between after : Net}

theorem Touches.trans (first : before.Touches response middle between)
    (second : between.Touches middle left after) : before.Touches response left after where
  size := Nat.le_trans first.size second.size
  others := by
    intro other known apart
    have apart' : middle ≠ some other := by
      intro same
      rcases first.origin other same with old | new
      · exact apart old
      · omega
    exact (second.others other (Nat.lt_of_lt_of_le known first.size) apart').trans
      (first.others other known apart)
  origin := by
    intro index given
    rcases second.origin index given with old | new
    · exact first.origin index old
    · exact .inr (Nat.le_trans first.size new)

theorem Keeps.touches {index : Nat} (keeps : Keeps index before after) :
    before.Touches (some index) (some index) after where
  size := Nat.le_of_eq keeps.size.symm
  others := fun other _ apart => keeps.others other fun same => apart (congrArg some same.symm)
  origin := fun _ => .inl

/-- The responses are the same, and there may be a new one. -/
theorem touches_of_older (size : before.responses.size ≤ after.responses.size)
    (older : ∀ other, other < before.responses.size ->
      after.responses[other]? = before.responses[other]?) : before.Touches none none after :=
  ⟨size, fun other known _ => older other known, nofun⟩

end Net

namespace HttpBody

/-- A length that is understood is taken over, and any other is refused. -/
theorem announcement (contentLength : Option String) :
    (announcementFault contentLength = none -> Announces contentLength) ∧
      ∀ fault, announcementFault contentLength = some fault ->
        ∀ body : HttpBody, body.announced contentLength = .error fault := by
  unfold announcementFault
  split
  · exact ⟨by rintro _ _ ⟨⟩, by rintro _ ⟨⟩⟩
  · exact ⟨by rintro _ _ ⟨⟩; exact .inl rfl, by rintro _ ⟨⟩⟩
  · rename_i text notEmpty
    cases read : Text.readInteger text with
    | value length => exact ⟨by rintro _ _ ⟨⟩; exact .inr ⟨length, read⟩, by rintro _ ⟨⟩⟩
    | malformed =>
      refine ⟨by rintro ⟨⟩, ?_⟩
      rintro _ ⟨⟩ body
      simp only [announced, read]
    | tooManyDigits count =>
      refine ⟨by rintro ⟨⟩, ?_⟩
      rintro _ ⟨⟩ body
      simp only [announced, read]

/-- The body has nothing and has not sent its request, or the request has come
to nothing. -/
structure Unsent (body : HttpBody) : Prop where
  response : body.response = none
  pending : body.pending = []

/-- A request that has been sent brings a new response. -/
theorem Sent.touches {before after : HttpBody × Net} {chunks : List Chunk}
    (sent : Sent before after chunks) :
    before.2.Touches none (some before.2.responses.size) after.2 := by
  rcases sent.receives.body with ⟨response, found, -⟩
  have there : before.2.responses.size < after.2.responses.size :=
    (Array.getElem?_eq_some_iff.mp found).1
  refine ⟨Nat.le_of_lt there, fun other known _ => sent.older other known, ?_⟩
  rintro _ ⟨⟩
  exact .inr (Nat.le_refl _)

/-- What sending the request of a body comes to. -/
inductive Sends (state : HttpBody × Net) : Option Fault × (HttpBody × Net) -> Prop where
  | sent {chunks : List Chunk} {after : HttpBody × Net} : Sent state after chunks ->
      (upcoming state).offering state.1.url =
        ⟨Chunk.deliverable chunks, Chunk.failure state.1.url chunks⟩ ->
      Sends state (none, after)
  | failed {fault : Fault} {after : HttpBody × Net} : after.1.Unsent ->
      (upcoming state).offering state.1.url = ⟨[], some fault⟩ ->
      after.2.script = (state.2.get state.1.url).2.script ->
      state.2.Touches none none after.2 ->
      Sends state (some fault, after)

/-- Closing a body touches no response but its own, and asks for nothing. -/
theorem close_touches (state : HttpBody × Net) :
    (close state).2.script = state.2.script ∧
      state.2.Touches state.1.response none (close state).2 := by
  rcases close_eq state with ⟨client, clients, closes⟩
  rw [closes]
  cases known : state.1.response with
  | none => exact ⟨rfl, Net.touches_of_older (Nat.le_refl _) fun _ _ => rfl⟩
  | some index =>
    refine ⟨rfl, Nat.le_of_eq Array.size_modify.symm, fun other _ apart => ?_, nofun⟩
    have different : index ≠ other := fun same => apart (congrArg some same)
    show (state.2.responses.modify _ _)[other]? = state.2.responses[other]?
    rw [Array.getElem?_modify, if_neg different]

theorem Unsent.after_asked {state : HttpBody × Net} (unsent : state.1.Unsent) :
    (asked state).1.Unsent := by
  rcases asked_eq state with ⟨client, clients, asks⟩
  rw [asks]
  exact ⟨unsent.response, unsent.pending⟩

theorem Unsent.after_giveUp {state : HttpBody × Net} (unsent : state.1.Unsent) :
    (giveUp state).1.Unsent ∧ (giveUp state).2.script = state.2.script ∧
      state.2.Touches none none (giveUp state).2 := by
  rcases giveUp_eq unsent.response with ⟨client, clients, gives⟩
  rw [gives]
  exact ⟨⟨unsent.response, unsent.pending⟩, rfl,
    Net.touches_of_older (Nat.le_refl _) fun _ _ => rfl⟩

theorem touches_asked (state : HttpBody × Net) :
    state.2.Touches none none (asked state).2 :=
  Net.touches_of_older (Nat.le_of_eq (congrArg Array.size (responses_asked state).symm))
    fun other _ => congrArg (fun responses => responses[other]?) (responses_asked state)

/-- A response that is handed out comes after all the others. -/
theorem touches_handed (chunks : List Chunk) (state : HttpBody × Net) :
    state.2.Touches none none (handed chunks state).2 := by
  have responses : (handed chunks state).2.responses =
      state.2.responses.push ⟨chunks, false, 0⟩ := by
    simp only [handed, Net.handOut, responses_asked]
  refine Net.touches_of_older ?_ fun other known => ?_
  · rw [responses, Array.size_push]
    exact Nat.le_succ _
  · rw [responses, Array.getElem?_push, if_neg (Nat.ne_of_lt known)]

/-- So does one that is closed as soon as it has been handed out. -/
theorem touches_turnedDown (chunks : List Chunk) (state : HttpBody × Net) :
    state.2.Touches none none (turnedDown chunks state).2 := by
  have hands := touches_handed chunks state
  refine Net.touches_of_older ?_ fun other known => ?_
  · change _ ≤ ((handed chunks state).2.responses.modify _ _).size
    rw [Array.size_modify]
    exact hands.size
  · change ((handed chunks state).2.responses.modify _ _)[other]? = _
    rw [Array.getElem?_modify, if_neg (Nat.ne_of_gt known)]
    exact hands.others other known nofun

theorem Unsent.sends {state : HttpBody × Net} (unsent : state.1.Unsent) :
    Sends state (send state) := by
  have script : (asked state).2.script = (state.2.get state.1.url).2.script := by
    rcases asked_eq state with ⟨client, clients, asks⟩
    rw [asks]
  rw [send_eq]
  cases answered : upcoming state with
  | notConnected reason =>
    rcases unsent.after_asked.after_giveUp with ⟨closed, same, touches⟩
    exact .failed closed (by rw [answered]; rfl) (same.trans script)
      ((touches_asked state).trans touches)
  | systemFailure text =>
    exact .failed unsent.after_asked (by rw [answered]; rfl) script (touches_asked state)
  | response status contentLength chunks =>
    by_cases refused : status ≥ 400
    · simp only [if_pos refused]
      have unsent' : (turnedDown chunks state).1.Unsent := unsent.after_asked
      rcases unsent'.after_giveUp with ⟨closed, same, touches⟩
      refine .failed closed ?_ (same.trans script) ((touches_turnedDown chunks state).trans touches)
      rw [answered, Answer.offering, if_pos refused]
    · rcases announcement contentLength with ⟨understood, misunderstood⟩
      cases announced : announcementFault contentLength with
      | none =>
        rcases exists_send unsent.pending answered (Int.not_le.mp refused)
          (understood announced) with ⟨after, sends, sent⟩
        simp only [send_eq, answered, if_neg refused] at sends
        simp only [if_neg refused, sends]
        refine .sent sent ?_
        rw [answered, Answer.offering, if_neg refused, announced]
      | some fault =>
        simp only [if_neg refused, misunderstood fault announced]
        refine .failed unsent.after_asked ?_ script (touches_handed chunks state)
        rw [answered, Answer.offering, if_neg refused, announced]

/-- What a body offers: what is still to be received, or what the network will
answer.  Only in the second case it will ask. -/
inductive Offers (answerOf : String -> Answer) (state : HttpBody × Net) :
    (asks : Bool) -> (response : Option Nat) -> Offering -> Prop where
  | unsent : state.1.Unsent ->
      Offers answerOf state true none ((answerOf state.1.url).offering state.1.url)
  | receiving {asks : Bool} {index : Nat} {offering : Offering} :
      Receives state index offering.content offering.failure ->
      Offers answerOf state asks (some index) offering

/-- A delivery, seen as what is offered. -/
theorem Delivers.fills {answerOf : String -> Answer} {index : Nat} {buffer : Bytes}
    {offering : Offering} {before : HttpBody × Net} {read : Filling × (HttpBody × Net)}
    (delivers : Delivers index buffer offering.content offering.failure before read)
    (room : buffer ≠ []) :
    ∃ failed later, offering.Fills buffer read.1 failed later ∧
      Offers answerOf read.2 failed (some index) later := by
  cases delivers with
  | @bytes data left events after pieces fits ended receives read =>
    refine ⟨false, ⟨left, offering.failure⟩, .bytes pieces fits fun nothing => ?_,
      .receiving receives⟩
    rcases ended nothing room with ⟨none_left, silent⟩
    rw [none_left] at pieces
    exact ⟨(List.append_eq_nil_iff.mp pieces.symm).2, silent⟩
  | failed nothing fails receives read =>
    exact ⟨true, ⟨[], none⟩, .failed nothing fails, .receiving receives⟩

/-- A read of a body takes from what it offers.  It asks the network at most
once, and touches no response but its own. -/
theorem Offers.readInto {answerOf : String -> Answer} {state : HttpBody × Net} {asks : Bool}
    {response : Option Nat} {offering : Offering} {count : Nat} {buffer : Bytes}
    (offers : Offers answerOf state asks response offering)
    (answers : Net.Answers answerOf (count + asks.toNat) state.2.script) (room : buffer ≠ []) :
    let read := HttpBody.readInto ⟨buffer, true⟩ state
    ∃ failed left later, offering.Fills buffer read.1 failed later ∧
      Offers answerOf read.2 failed left later ∧ Net.Answers answerOf count read.2.2.script ∧
      state.2.Touches response left read.2.2 := by
  intro read
  cases offers with
  | @receiving asks index offering receives =>
    rcases delivers_readInto receives.ensureResponse receives buffer with ⟨delivers, keeps⟩
    rcases delivers.fills room with ⟨failed, later, fills, offersAfter⟩
    refine ⟨failed, some index, later, fills, offersAfter, ?_, keeps.touches⟩
    rw [keeps.script]
    exact answers.unasked
  | unsent unsent =>
    rcases answers state.1.url with ⟨known, answersAfter⟩
    have sends := unsent.sends
    cases sending : send state with
    | mk fault after =>
      have ensured : ensureResponse state =
          (fault, [.sendingGet state.1.concurrency state.1.url], after) := by
        simp only [ensureResponse, unsent.response, sending]
      rw [sending] at sends
      cases sends with
      | @failed fault _ unsentAfter offered script touches =>
        rw [upcoming, known] at offered
        have fails : read = (⟨buffer, .raised fault, [.sendingGet state.1.concurrency state.1.url]⟩,
            after) := by
          simp only [read, readInto_eq, ensured, Lent.untouched]
        rw [fails]
        refine ⟨true, none, _, .failed (congrArg Offering.content offered)
          (congrArg Offering.failure offered), .unsent unsentAfter, ?_, touches⟩
        rw [script]
        exact answersAfter
      | sent sent offered =>
        rw [upcoming, known] at offered
        rcases delivers_readInto ensured sent.receives buffer with ⟨delivers, keeps⟩
        rw [offered]
        rcases @Delivers.fills answerOf _ buffer ⟨_, _⟩ _ _ delivers room with
          ⟨failed, later, fills, offersAfter⟩
        refine ⟨failed, some _, later, fills, offersAfter, ?_, sent.touches.trans keeps.touches⟩
        rw [keeps.script, sent.script]
        exact answersAfter

theorem Offers.response_eq {answerOf : String -> Answer} {state : HttpBody × Net} {asks : Bool}
    {response : Option Nat} {offering : Offering}
    (offers : Offers answerOf state asks response offering) : state.1.response = response := by
  cases offers with
  | unsent unsent => exact unsent.response
  | receiving receives => exact receives.response

section

variable {answerOf : String -> Answer} {state : HttpBody × Net} {asks : Bool}
  {response : Option Nat} {offering : Offering}

theorem Offers.lt_size (offers : Offers answerOf state asks response offering) {index : Nat}
    (given : response = some index) : index < state.2.responses.size := by
  cases offers with
  | unsent _ => cases given
  | receiving receives =>
    cases given
    rcases receives.body with ⟨_, found, -⟩
    exact (Array.getElem?_eq_some_iff.mp found).1

/-- What a body offers depends on its own response only. -/
theorem Offers.retained (offers : Offers answerOf state asks response offering) {net : Net}
    (same : ∀ index, response = some index -> net.responses[index]? = state.2.responses[index]?) :
    Offers answerOf (state.1, net) asks response offering := by
  cases offers with
  | unsent unsent => exact .unsent unsent
  | receiving receives =>
    rcases receives.body with ⟨found, there, rest⟩
    exact .receiving ⟨receives.response, found, (same _ rfl).trans there, rest⟩

end

end HttpBody

end ResumableStreams
