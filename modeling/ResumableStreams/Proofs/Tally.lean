import ResumableStreams.Proofs.Imitation

namespace ResumableStreams

/-!
# Drives counted by replies

How a drive goes on is decided by what the stream replies, and a stream may
reply anything.  So whatever is to be said of drives on any stream at all is
said by the replies so far.  A `Course` does this: it tells what is the case
when the machine has handed an exchange out after certain replies, and what is
the case when it has brought the drive to its end.

It has to be shown of one round only, that is, of one reply and of the call of
the machine that follows it.  What a whole drive comes to then follows by
induction, in `Course.Kept.driveFrom`.  The stream is a recorded one, so that
the replies can be spoken of.
-/

/-! ## One reply -/

/-- What a reply to a request for this buffer comes to, where this is the
memory after the reply: the answer that the machine gets, or the fault that the
driver stops with. -/
inductive Reply.Gives (direction : Direction) (buffer : Buffer) (memory : Memory) :
    Reply -> Except Fault Exchange -> Prop where
  | blocked : Gives direction buffer memory .wouldBlock (.ok ⟨direction, .request buffer⟩)
  | moved (count : Nat) : count ≤ buffer.size memory ->
      Gives direction buffer memory (.moved count) (.ok ⟨direction, .response ⟨buffer, count⟩⟩)
  | refused (count : Int) : ¬ (0 ≤ count ∧ count ≤ buffer.size memory) ->
      Gives direction buffer memory (.moved count)
        (.error (.countOutOfRange (buffer.size memory) count))
  | raised (fault : Fault) : Gives direction buffer memory (.raised fault) (.error fault)

theorem Exchange.gives_answer (direction : Direction) (buffer : Buffer) (reply : Reply)
    (memory : Memory) :
    reply.Gives direction buffer memory
      (Exchange.answer ⟨direction, .request buffer⟩ buffer reply memory) := by
  cases reply with
  | wouldBlock => exact .blocked
  | raised fault => exact .raised fault
  | moved count =>
    by_cases fits : 0 ≤ count ∧ count ≤ buffer.size memory
    · rcases Int.eq_ofNat_of_zero_le fits.1 with ⟨number, rfl⟩
      have within : number ≤ buffer.size memory := Int.ofNat_le.mp fits.2
      rw [Exchange.answer_moved _ within]
      exact .moved number within
    · have refused : Output.make buffer count memory =
          .error (.countOutOfRange (buffer.size memory) count) := if_neg fits
      simp only [Exchange.answer, refused]
      exact .refused count fits

namespace Stream

variable {State : Type}

/-- This read leaves as many bytes in the buffer as there were. -/
def Fits (stream : Stream State) (concurrency : Concurrency) (lent : Lent) (state : State) : Prop :=
  (stream.fill concurrency lent state).1.contents.length = lent.size

/-- No read of the stream changes the length of a buffer, whatever else it
does. -/
def KeepsLengths (stream : Stream State) (concurrency : Concurrency) : Prop :=
  ∀ contents state, stream.Fits concurrency ⟨contents, true⟩ state

/-- What is known of the memory after an exchange has been performed in this
direction. -/
structure Leaves (stream : Stream State) (concurrency : Concurrency) (direction : Direction)
    (before after : Memory) : Prop where
  holds : ∀ {cell}, before.Holds cell -> after.Holds cell
  written : direction = .write -> after = before
  lengths : stream.KeepsLengths concurrency ->
    ∀ buffer : Buffer, buffer.size after = buffer.size before

theorem size_store {memory : Memory} {cell : Cell} {bytes : Bytes}
    (length : bytes.length = (memory.contents cell).length) (buffer : Buffer) :
    buffer.size (memory.store cell bytes) = buffer.size memory := by
  cases buffer with
  | frozen bytes => rfl
  | shared other =>
    rw [Buffer.size, Buffer.size, Buffer.bytes_shared, Buffer.bytes_shared]
    by_cases same : other = cell
    · subst same
      by_cases held : memory.Holds other
      · rw [Memory.contents_store_self held, length]
      · rw [Memory.store_of_not_holds held]
    · rw [Memory.contents_store_of_ne same]

/-- Performing a request asks the stream for one reply, which decides what
comes of it. -/
theorem exists_reply (stream : Stream State) (concurrency : Concurrency) (direction : Direction)
    (buffer : Buffer) (context : Context (List Reply × State)) :
    let performed := handle concurrency (stream.recorded concurrency)
      ⟨direction, .request buffer⟩ context
    ∃ reply, performed.2.state.1 = context.state.1 ++ [reply] ∧
      reply.Gives direction buffer performed.2.memory performed.1 ∧
      stream.Leaves concurrency direction context.memory performed.2.memory := by
  rcases context with ⟨memory, journal, replies, state⟩
  cases direction with
  | write =>
    simp only [handle, Context.writeFrom, Context.note, offer_recorded]
    exact ⟨_, rfl, Exchange.gives_answer _ _ _ _, id, fun _ => rfl, fun _ _ => rfl⟩
  | read =>
    cases buffer with
    | frozen bytes =>
      simp only [handle, Context.readInto, Context.note, fill_recorded]
      exact ⟨_, rfl, Exchange.gives_answer _ _ _ _, id, by rintro ⟨⟩, fun _ _ => rfl⟩
    | shared cell =>
      simp only [handle, Context.readInto, Context.note, fill_recorded]
      refine ⟨_, rfl, Exchange.gives_answer _ _ _ _, ?_, by rintro ⟨⟩, ?_⟩
      · intro other
        exact (Memory.holds_store_iff _ _ _ _).mpr
      · intro keeps
        exact size_store (keeps (memory.contents cell) state)

end Stream

/-! ## From one round to a whole drive -/

/-- What is the case in a drive, by what the stream has replied so far. -/
structure Course (Machine Value : Type) where
  /-- After these replies the machine, which is now in this state, has handed
  this exchange out in this memory. -/
  Asks : List Reply -> Machine -> Exchange -> Memory -> Prop
  /-- After these replies the machine itself has brought the drive to this
  end. -/
  Rests : List Reply -> Ending Value -> Prop

namespace Course

variable {Machine Value State : Type}

/-- A call of the machine after these replies leads to what the course says. -/
def Leads (course : Course Machine Value) (replies : List Reply) (step : Step Machine Value) :
    Prop :=
  match step.progress with
  | .needs exchange => course.Asks replies step.machine exchange step.memory
  | .finished value => course.Rests replies (.finished value)
  | .endOfStream => course.Rests replies .endOfStream
  | .failed error => course.Rests replies (.failed error)
  | .raised fault => course.Rests replies (.raised fault)

/-- The course is kept by every round on this stream: only requests are handed
out, and whatever answer they get, the machine goes on as the course says. -/
structure Kept [Resumable Machine Value] (course : Course Machine Value) (stream : Stream State)
    (concurrency : Concurrency) : Prop where
  isRequest : ∀ {replies machine exchange memory},
    course.Asks replies machine exchange memory ->
      ∃ direction buffer, exchange = ⟨direction, .request buffer⟩
  blocked : ∀ {replies machine direction buffer before after},
    course.Asks replies machine ⟨direction, .request buffer⟩ before ->
    stream.Leaves concurrency direction before after ->
    course.Leads (replies ++ [.wouldBlock])
      (Resumable.resume machine (some ⟨direction, .request buffer⟩) after)
  moved : ∀ {replies machine direction buffer before after},
    course.Asks replies machine ⟨direction, .request buffer⟩ before ->
    stream.Leaves concurrency direction before after ->
    ∀ count ≤ buffer.size after,
      course.Leads (replies ++ [.moved count])
        (Resumable.resume machine (some ⟨direction, .response ⟨buffer, count⟩⟩) after)

/-- How a drive that began after certain replies has ended after some more. -/
inductive Ends (course : Course Machine Value) (stream : Stream State) (concurrency : Concurrency)
    (limit : Nat) (before : List Reply) : List Reply -> Ending Value -> Prop where
  /-- Every reply has cost one of the calls that the limit allows. -/
  | unfinished {replies : List Reply} : replies.length = limit ->
      Ends course stream concurrency limit before replies .unfinished
  | rested {replies : List Reply} {ending : Ending Value} :
      course.Rests (before ++ replies) ending -> ending ≠ .unfinished ->
      Ends course stream concurrency limit before replies ending
  /-- The last reply was an error, or its count was out of range. -/
  | raised {replies : List Reply} {machine : Machine} {direction : Direction} {buffer : Buffer}
      {memory after : Memory} {reply : Reply} {fault : Fault} :
      course.Asks (before ++ replies) machine ⟨direction, .request buffer⟩ memory ->
      stream.Leaves concurrency direction memory after ->
      reply.Gives direction buffer after (.error fault) ->
      Ends course stream concurrency limit before (replies ++ [reply]) (.raised fault)

/-- What a drive has come to that began after certain replies: whenever the
stream was asked, the course held of the replies before, and the drive has
ended by it. -/
structure Covers (course : Course Machine Value) (stream : Stream State)
    (concurrency : Concurrency) (limit : Nat) (before replies : List Reply)
    (ending : Ending Value) : Prop where
  asked : ∀ earlier reply later, replies = earlier ++ reply :: later ->
    ∃ machine exchange memory, course.Asks (before ++ earlier) machine exchange memory
  ended : course.Ends stream concurrency limit before replies ending

variable {course : Course Machine Value} {stream : Stream State} {concurrency : Concurrency}

/-- One more reply, with the call before it, precedes what the drive then comes
to. -/
theorem Covers.cons {limit : Nat} {before replies : List Reply} {reply : Reply}
    {ending : Ending Value} {machine : Machine} {exchange : Exchange} {memory : Memory}
    (asks : course.Asks before machine exchange memory)
    (covers : course.Covers stream concurrency limit (before ++ [reply]) replies ending) :
    course.Covers stream concurrency (limit + 1) before (reply :: replies) ending where
  asked := by
    intro earlier other later split
    cases earlier with
    | nil =>
      rw [List.append_nil]
      exact ⟨machine, exchange, memory, asks⟩
    | cons first earlier =>
      cases split
      have asked := covers.asked earlier other later rfl
      rw [List.append_assoc] at asked
      exact asked
  ended := by
    cases covers.ended with
    | unfinished length => exact .unfinished (congrArg (· + 1) length)
    | rested rests own =>
      rw [List.append_assoc] at rests
      exact .rested rests own
    | raised asks leaves gives =>
      rw [List.append_assoc] at asks
      exact .raised asks leaves gives

theorem covers_nil {limit : Nat} {before : List Reply} {ending : Ending Value}
    (ended : course.Ends stream concurrency limit before [] ending) :
    course.Covers stream concurrency limit before [] ending where
  asked := by
    intro earlier reply later split
    cases earlier <;> cases split
  ended := ended

/-- The stream stops the drive with the reply to what it was asked last. -/
theorem covers_raised {limit : Nat} {before : List Reply} {machine : Machine}
    {direction : Direction} {buffer : Buffer} {memory after : Memory} {reply : Reply}
    {fault : Fault} (asks : course.Asks before machine ⟨direction, .request buffer⟩ memory)
    (leaves : stream.Leaves concurrency direction memory after)
    (gives : reply.Gives direction buffer after (.error fault)) :
    course.Covers stream concurrency limit before [reply] (.raised fault) where
  asked := by
    intro earlier other later split
    cases earlier with
    | nil =>
      rw [List.append_nil]
      exact ⟨machine, _, memory, asks⟩
    | cons first earlier =>
      have empty := congrArg List.length split
      simp only [List.length_cons, List.length_append, List.length_nil] at empty
      omega
  ended := by
    refine @Ends.raised _ _ _ _ _ _ _ _ [] machine direction buffer memory after reply fault ?_
      leaves gives
    rw [List.append_nil]
    exact asks

variable [Resumable Machine Value]

/-- A drive whose next call of the machine goes by the course goes by it to its
end. -/
theorem Kept.driveFrom (kept : course.Kept stream concurrency) (limit : Nat) (machine : Machine)
    (answer : Option Exchange) (context : Context (List Reply × State)) (turns : List Turn)
    (leads : course.Leads context.state.1 (Resumable.resume machine answer context.memory)) :
    let run := driveFrom (handle concurrency (stream.recorded concurrency)) limit machine answer
      context turns
    ∃ replies, run.context.state.1 = context.state.1 ++ replies ∧
      course.Covers stream concurrency limit context.state.1 replies run.ending := by
  induction limit generalizing machine answer context turns with
  | zero => exact ⟨[], (List.append_nil _).symm, covers_nil (.unfinished rfl)⟩
  | succ limit inductionHypothesis =>
    -- A machine that rests ends the drive, and the stream is asked no more.
    have rested {ending : Ending Value} (rests : course.Rests context.state.1 ending)
        (own : ending ≠ .unfinished) :
        course.Covers stream concurrency (limit + 1) context.state.1 [] ending :=
      covers_nil (.rested ((List.append_nil _).symm ▸ rests) own)
    cases stepped : Resumable.resume machine answer context.memory with
    | mk progress after memory events =>
      rw [stepped] at leads
      cases progress with
      | finished value =>
        rw [driveFrom_finished limit stepped]
        exact ⟨[], (List.append_nil _).symm, rested leads nofun⟩
      | endOfStream =>
        rw [driveFrom_endOfStream limit stepped]
        exact ⟨[], (List.append_nil _).symm, rested leads nofun⟩
      | failed error =>
        rw [driveFrom_failed limit stepped]
        exact ⟨[], (List.append_nil _).symm, rested leads nofun⟩
      | raised fault =>
        rw [driveFrom_of_raised limit stepped]
        exact ⟨[], (List.append_nil _).symm, rested leads nofun⟩
      | needs exchange =>
        have asks : course.Asks context.state.1 after exchange memory := leads
        rcases kept.isRequest asks with ⟨direction, buffer, rfl⟩
        rcases stream.exists_reply concurrency direction buffer (context.after memory events) with
          ⟨reply, noted, gives, leaves⟩
        cases performed : handle concurrency (stream.recorded concurrency)
          ⟨direction, .request buffer⟩ (context.after memory events) with
        | mk result reached =>
          rw [performed] at noted gives leaves
          have heard : reached.state.1 = context.state.1 ++ [reply] := noted
          cases result with
          | error fault =>
            rw [driveFrom_raised limit stepped performed]
            exact ⟨[reply], heard, covers_raised asks leaves gives⟩
          | ok given =>
            have goesOn : course.Leads reached.state.1
                (Resumable.resume after (some given) reached.memory) := by
              rw [heard]
              cases gives with
              | blocked => exact kept.blocked asks leaves
              | moved count fits => exact kept.moved asks leaves count fits
            rw [driveFrom_needs limit stepped performed]
            rcases inductionHypothesis after (some given) reached _ goesOn with
              ⟨replies, noted', covers⟩
            refine ⟨reply :: replies, ?_, ?_⟩
            · rw [noted', heard, List.append_assoc, List.singleton_append]
            · rw [heard] at covers
              exact covers.cons asks

/-- A drive of a machine whose first call goes by the course goes by it to its
end. -/
theorem Kept.drive (kept : course.Kept stream concurrency) (limit : Nat) (machine : Machine)
    (memory : Memory) (journal : Array Event) (state : State)
    (leads : course.Leads [] (Resumable.resume machine none memory)) :
    let run := drive concurrency (stream.recorded concurrency) limit machine
      ⟨memory, journal, ([], state)⟩
    course.Covers stream concurrency limit [] run.context.state.1 run.ending := by
  intro run
  rcases kept.driveFrom limit machine none ⟨memory, journal, ([], state)⟩ [] leads with
    ⟨replies, noted, covers⟩
  have noted : run.context.state.1 = replies := noted
  rw [noted]
  exact covers

end Course

end ResumableStreams
