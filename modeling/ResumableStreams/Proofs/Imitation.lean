import ResumableStreams.Proofs.Driving

namespace ResumableStreams

/-!
# Streams that cannot be told apart

A drive learns of a stream only what its reads and writes reply and what they
leave in the buffers.  So where two streams, each seen by a runtime of its own,
do the same to their callers as long as their states correspond, two drives of
one machine end alike.  The journals may tell them apart.

A first use of this is to watch a stream: a `recorded` stream is imitated by the
one that it records, and what it has replied is part of its state.
-/

section

variable {Machine Value State Other : Type}

/-- Nothing but the journals tells the contexts apart, except that the states
only correspond. -/
structure Context.Beside (related : State -> Other -> Prop) (first : Context State)
    (second : Context Other) : Prop where
  memory : second.memory = first.memory
  state : related first.state second.state

/-- Two runs of one machine that have come to the same, exchange by exchange. -/
structure Run.Beside (related : State -> Other -> Prop) (first : Run Machine Value State)
    (second : Run Machine Value Other) : Prop where
  ending : second.ending = first.ending
  machine : second.machine = first.machine
  context : first.context.Beside related second.context
  turns : second.turns = first.turns

/-- A caller who reads from `other`, or writes to it, gets what a caller of
`stream` gets. -/
structure Stream.Imitates (related : State -> Other -> Prop) (concurrency asked : Concurrency)
    (stream : Stream State) (other : Stream Other) : Prop where
  fill : ∀ {first second}, related first second -> ∀ lent,
    let read := stream.fill concurrency lent first
    let same := other.fill asked lent second
    same.1.contents = read.1.contents ∧ same.1.reply = read.1.reply ∧ related read.2 same.2
  offer : ∀ {first second}, related first second -> ∀ lent,
    let written := stream.offer concurrency lent first
    let same := other.offer asked lent second
    same.1 = written.1 ∧ related written.2 same.2

namespace Stream.Imitates

variable {related : State -> Other -> Prop} {concurrency asked : Concurrency}
  {stream : Stream State} {other : Stream Other}

/-- Performing an exchange comes to the same. -/
theorem handle (imitates : stream.Imitates related concurrency asked other) (exchange : Exchange)
    {first : Context State} {second : Context Other} (beside : first.Beside related second) :
    let performed := ResumableStreams.handle concurrency stream exchange first
    let same := ResumableStreams.handle asked other exchange second
    same.1 = performed.1 ∧ performed.2.Beside related same.2 := by
  rcases second with ⟨_, journal, state⟩
  obtain rfl : _ = first.memory := beside.memory
  have corresponds : related first.state state := beside.state
  rcases exchange with ⟨direction, payload⟩
  cases payload with
  | response output =>
    rw [handle_response, handle_response]
    exact ⟨rfl, rfl, corresponds⟩
  | request buffer =>
    cases direction with
    | read =>
      cases buffer with
      | frozen bytes =>
        rcases imitates.fill corresponds ⟨bytes, false⟩ with ⟨_, reply, after⟩
        refine ⟨?_, rfl, after⟩
        exact congrArg (Exchange.answer _ _ · first.memory) reply
      | shared cell =>
        rcases imitates.fill corresponds ⟨first.memory.contents cell, true⟩ with
          ⟨contents, reply, after⟩
        have memory := congrArg (first.memory.store cell) contents
        refine ⟨?_, memory, after⟩
        exact congr (congrArg (Exchange.answer _ _) reply) memory
    | write =>
      rcases imitates.offer corresponds ⟨buffer.bytes first.memory, buffer.isMutable⟩ with
        ⟨reply, after⟩
      refine ⟨?_, rfl, after⟩
      exact congrArg (Exchange.answer _ _ · first.memory) reply

variable [Resumable Machine Value]

theorem driveFrom (imitates : stream.Imitates related concurrency asked other) (limit : Nat)
    (machine : Machine) (answer : Option Exchange) {first : Context State}
    {second : Context Other} (beside : first.Beside related second) (turns : List Turn) :
    Run.Beside related
      (ResumableStreams.driveFrom (ResumableStreams.handle concurrency stream) limit machine answer
        first turns)
      (ResumableStreams.driveFrom (ResumableStreams.handle asked other) limit machine answer second
        turns) := by
  induction limit generalizing machine answer first second turns with
  | zero => exact ⟨rfl, rfl, beside, rfl⟩
  | succ limit inductionHypothesis =>
    cases stepped : Resumable.resume machine answer first.memory with
    | mk progress after memory events =>
      have stepped' : Resumable.resume machine answer second.memory =
          ⟨progress, after, memory, events⟩ := by
        rw [beside.memory, stepped]
      have besideAfter : (first.after memory events).Beside related (second.after memory events) :=
        ⟨rfl, beside.state⟩
      cases progress with
      | finished value =>
        rw [driveFrom_finished limit stepped, driveFrom_finished limit stepped']
        exact ⟨rfl, rfl, besideAfter, rfl⟩
      | endOfStream =>
        rw [driveFrom_endOfStream limit stepped, driveFrom_endOfStream limit stepped']
        exact ⟨rfl, rfl, besideAfter, rfl⟩
      | failed error =>
        rw [driveFrom_failed limit stepped, driveFrom_failed limit stepped']
        exact ⟨rfl, rfl, besideAfter, rfl⟩
      | raised fault =>
        rw [driveFrom_of_raised limit stepped, driveFrom_of_raised limit stepped']
        exact ⟨rfl, rfl, besideAfter, rfl⟩
      | needs exchange =>
        have same := imitates.handle exchange besideAfter
        cases performed : ResumableStreams.handle concurrency stream exchange
          (first.after memory events) with
        | mk result reached =>
        cases performed' : ResumableStreams.handle asked other exchange
          (second.after memory events) with
        | mk result' reached' =>
        rw [performed, performed'] at same
        rcases same with ⟨rfl, besideReached⟩
        cases result' with
        | error fault =>
          rw [driveFrom_raised limit stepped performed, driveFrom_raised limit stepped' performed']
          exact ⟨rfl, rfl, besideReached, rfl⟩
        | ok reply =>
          rw [driveFrom_needs limit stepped performed, driveFrom_needs limit stepped' performed']
          apply inductionHypothesis
          exact besideReached

/-- Two drives of one machine come to the same. -/
theorem drive (imitates : stream.Imitates related concurrency asked other) (limit : Nat)
    (machine : Machine) {first : Context State} {second : Context Other}
    (beside : first.Beside related second) :
    Run.Beside related (ResumableStreams.drive concurrency stream limit machine first)
      (ResumableStreams.drive asked other limit machine second) :=
  imitates.driveFrom limit machine none beside []

end Stream.Imitates

end

/-! ## Watching a stream -/

namespace Stream

variable {Machine Value State : Type}

/-- The same stream as a runtime sees it, with a record of its replies to reads
and writes, in order. -/
def recorded (stream : Stream State) (concurrency : Concurrency) :
    Stream (List Reply × State) where
  kind := stream.kind
  concurrency := stream.concurrency
  readInto := some fun lent (replies, state) =>
    let (filling, state) := stream.fill concurrency lent state
    (filling, (replies ++ [filling.reply], state))
  write := some fun lent (replies, state) =>
    let (reply, state) := stream.offer concurrency lent state
    (reply, (replies ++ [reply], state))

variable (stream : Stream State) (concurrency : Concurrency)

theorem fill_recorded (lent : Lent) (replies : List Reply) (state : State) :
    (stream.recorded concurrency).fill concurrency lent (replies, state) =
      ((stream.fill concurrency lent state).1,
        (replies ++ [(stream.fill concurrency lent state).1.reply],
          (stream.fill concurrency lent state).2)) := by
  cases concurrency <;> rfl

theorem offer_recorded (lent : Lent) (replies : List Reply) (state : State) :
    (stream.recorded concurrency).offer concurrency lent (replies, state) =
      ((stream.offer concurrency lent state).1,
        (replies ++ [(stream.offer concurrency lent state).1],
          (stream.offer concurrency lent state).2)) := by
  cases concurrency <;> rfl

/-- Nobody notices that a stream is recorded. -/
theorem imitates_recorded :
    stream.Imitates (fun state watched => watched.2 = state) concurrency concurrency
      (stream.recorded concurrency) where
  fill := by
    rintro _ ⟨replies, state⟩ rfl lent
    rw [fill_recorded]
    exact ⟨rfl, rfl, rfl⟩
  offer := by
    rintro _ ⟨replies, state⟩ rfl lent
    rw [offer_recorded]
    exact ⟨rfl, rfl⟩

/-- An error among replies comes last, and whoever has asked for it fails with
it. -/
def ErrorsLast (replies : List Reply) (failsWith : Fault -> Prop) : Prop :=
  ∀ earlier fault later, replies = earlier ++ .raised fault :: later ->
    later = [] ∧ failsWith fault

theorem errorsLast_nil (failsWith : Fault -> Prop) : ErrorsLast [] failsWith := by
  intro earlier fault later split
  cases earlier with
  | nil => cases split
  | cons first earlier => cases split

theorem errorsLast_singleton {reply : Reply} {failsWith : Fault -> Prop}
    (fails : ∀ fault, reply = .raised fault -> failsWith fault) :
    ErrorsLast [reply] failsWith := by
  intro earlier fault later split
  cases earlier with
  | nil =>
    cases split
    exact ⟨rfl, fails fault rfl⟩
  | cons first earlier =>
    have empty := congrArg List.length split
    simp only [List.length_cons, List.length_append, List.length_nil] at empty
    omega

/-- Replies that are no errors may come before. -/
theorem ErrorsLast.append {earlier later : List Reply} {failsWith : Fault -> Prop}
    (calm : ErrorsLast earlier fun _ => False) (last : ErrorsLast later failsWith) :
    ErrorsLast (earlier ++ later) failsWith := by
  intro before fault after split
  rcases List.append_eq_append_iff.mp split with ⟨middle, _, rest⟩ | ⟨middle, whole, rest⟩
  · exact last middle fault after rest
  · cases middle with
    | nil => exact last [] fault after rest.symm
    | cons reply middle =>
      cases rest
      exact (calm before fault middle whole).2.elim

/-- An exchange asks the stream for one reply at most. -/
theorem handle_recorded (exchange : Exchange) (context : Context (List Reply × State)) :
    let performed := handle concurrency (stream.recorded concurrency) exchange context
    ∃ replies, performed.2.state.1 = context.state.1 ++ replies ∧
      ErrorsLast replies fun fault => performed.1 = .error fault := by
  rcases context with ⟨memory, journal, ⟨before, state⟩⟩
  rcases exchange with ⟨direction, payload⟩
  cases payload with
  | response output =>
    rw [handle_response]
    exact ⟨[], (List.append_nil _).symm, errorsLast_nil _⟩
  | request buffer =>
    cases direction with
    | read =>
      cases buffer with
      | frozen bytes =>
        simp only [handle, Context.readInto, Context.note, fill_recorded]
        refine ⟨_, rfl, errorsLast_singleton ?_⟩
        intro fault raised
        rw [raised]
        rfl
      | shared cell =>
        simp only [handle, Context.readInto, Context.note, fill_recorded]
        refine ⟨_, rfl, errorsLast_singleton ?_⟩
        intro fault raised
        rw [raised]
        rfl
    | write =>
      simp only [handle, Context.writeFrom, Context.note, offer_recorded]
      refine ⟨_, rfl, errorsLast_singleton ?_⟩
      intro fault raised
      rw [raised]
      rfl

variable [Resumable Machine Value]

/-- Nothing is asked of a stream any more in a drive in which it has failed, and
the drive fails as the stream has. -/
theorem replies_driveFrom (limit : Nat) (machine : Machine) (answer : Option Exchange)
    (context : Context (List Reply × State)) (turns : List Turn) :
    let run := driveFrom (handle concurrency (stream.recorded concurrency)) limit machine answer
      context turns
    ∃ replies, run.context.state.1 = context.state.1 ++ replies ∧
      ErrorsLast replies fun fault => run.ending = .raised fault := by
  induction limit generalizing machine answer context turns with
  | zero => exact ⟨[], (List.append_nil _).symm, errorsLast_nil _⟩
  | succ limit inductionHypothesis =>
    cases stepped : Resumable.resume machine answer context.memory with
    | mk progress after memory events =>
      cases progress with
      | finished value =>
        rw [driveFrom_finished limit stepped]
        exact ⟨[], (List.append_nil _).symm, errorsLast_nil _⟩
      | endOfStream =>
        rw [driveFrom_endOfStream limit stepped]
        exact ⟨[], (List.append_nil _).symm, errorsLast_nil _⟩
      | failed error =>
        rw [driveFrom_failed limit stepped]
        exact ⟨[], (List.append_nil _).symm, errorsLast_nil _⟩
      | raised fault =>
        rw [driveFrom_of_raised limit stepped]
        exact ⟨[], (List.append_nil _).symm, errorsLast_nil _⟩
      | needs exchange =>
        rcases stream.handle_recorded concurrency exchange (context.after memory events) with
          ⟨replies, noted, last⟩
        cases performed : handle concurrency (stream.recorded concurrency) exchange
          (context.after memory events) with
        | mk result reached =>
          rw [performed] at noted last
          cases result with
          | error fault =>
            rw [driveFrom_raised limit stepped performed]
            refine ⟨replies, noted, ?_⟩
            intro earlier other later split
            rcases last earlier other later split with ⟨ended, same⟩
            cases same
            exact ⟨ended, rfl⟩
          | ok reply =>
            rw [driveFrom_needs limit stepped performed]
            rcases inductionHypothesis after (some reply) reached _ with ⟨further, noted', last'⟩
            refine ⟨replies ++ further, ?_, ErrorsLast.append ?_ last'⟩
            · have noted : reached.state.1 = context.state.1 ++ replies := noted
              rw [noted', noted, List.append_assoc]
            · intro earlier fault later split
              rcases last earlier fault later split with ⟨_, impossible⟩
              cases impossible

end Stream

end ResumableStreams
