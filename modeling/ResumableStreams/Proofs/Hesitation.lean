import ResumableStreams.Proofs.Patience
import ResumableStreams.Stream.MemoryFile

namespace ResumableStreams

/-!
# Streams that keep their callers waiting

From any stream another is made that moves nothing a number of times before
each reply.  The numbers are given in advance, one for each operation that is
performed, and once they are used up the stream waits no more.  So every way of
putting finitely many waits between the replies of a stream is one list of
numbers.

Nothing is assumed about the stream itself.  It may fill a buffer with anything
and shorten or lengthen it, may claim what it has not done, may fail, and may
be unable to move anything of its own accord.
-/

namespace Stream

variable {State : Type}

/-- The number of waits that are left. -/
def waits : List Nat -> Nat
  | [] => 0
  | count :: rest => count + waits rest

/-- Perform an operation only after the number of waits that comes first. -/
def delayed {Answer : Type} (blocked : Answer) (operation : State -> Answer × State) :
    List Nat × State -> Answer × (List Nat × State)
  | ((count + 1) :: pauses, state) => (blocked, (count :: pauses, state))
  | (pauses, state) => ((operation state).1, (pauses.tail, (operation state).2))

/-- The same stream, with waits before its replies.  Flushing and closing are
never put off. -/
def hesitant (stream : Stream State) : Stream (List Nat × State) where
  kind := stream.kind
  concurrency := stream.concurrency
  receive := stream.receive.map fun receive lent =>
    delayed (lent.untouched .wouldBlock) (receive lent)
  send := stream.send.map fun send lent => delayed .wouldBlock (send lent)
  readInto := stream.readInto.map fun readInto lent =>
    delayed (lent.untouched .wouldBlock) (readInto lent)
  fetch := stream.fetch.map fun fetch count => delayed .wouldBlock (fetch count)
  write := stream.write.map fun write lent => delayed .wouldBlock (write lent)
  flush := stream.flush.map fun flush (pauses, state) =>
    ((flush state).1, (pauses, (flush state).2))
  close := stream.close.map fun close (pauses, state) =>
    ((close state).1, (pauses, (close state).2))

/-- Either a wait takes place, or the operation does. -/
inductive Delays {Answer : Type} (blocked : Answer) (acted : Answer × State) (pauses : List Nat)
    (state : State) : Answer × (List Nat × State) -> Prop where
  | waits {count : Nat} {rest : List Nat} : pauses = (count + 1) :: rest ->
      Delays blocked acted pauses state (blocked, (count :: rest, state))
  | acts {left : List Nat} : waits left = waits pauses ->
      Delays blocked acted pauses state (acted.1, (left, acted.2))

theorem delays_delayed {Answer : Type} (blocked : Answer) (operation : State -> Answer × State)
    (pauses : List Nat) (state : State) :
    Delays blocked (operation state) pauses state (delayed blocked operation (pauses, state)) := by
  match pauses with
  | [] => exact .acts rfl
  | 0 :: rest => exact .acts (Nat.zero_add (waits rest)).symm
  | (count + 1) :: rest => exact .waits rfl

/-- What is done with the answer of an operation is also done with the answer
that puts it off. -/
theorem Delays.map {First Second : Type} {blocked : First} {acted : First × State}
    {pauses : List Nat} {state : State} {given : First × (List Nat × State)}
    (delays : Delays blocked acted pauses state given) (change : First -> Second) :
    Delays (change blocked) (change acted.1, acted.2) pauses state (change given.1, given.2) := by
  cases delays with
  | waits enough => exact .waits enough
  | acts same => exact .acts same

theorem delays_fill (stream : Stream State) (concurrency : Concurrency) (lent : Lent)
    (pauses : List Nat) (state : State) :
    Delays (lent.untouched .wouldBlock) (stream.fill concurrency lent state) pauses state
      (stream.hesitant.fill concurrency lent (pauses, state)) := by
  cases concurrency with
  | blocking =>
    cases received : stream.receive with
    | some receive =>
      simp only [fill, hesitant, received, Option.map_some]
      exact delays_delayed _ (receive lent) pauses state
    | none =>
      cases given : stream.readInto with
      | some readInto =>
        simp only [fill, hesitant, received, given, Option.map_some, Option.map_none]
        exact delays_delayed _ (readInto lent) pauses state
      | none =>
        cases fetched : stream.fetch with
        | none =>
          simp only [fill, hesitant, received, given, Option.map_none, fillByFetching, fetched]
          exact .acts rfl
        | some fetch =>
          simp only [fill, hesitant, received, given, Option.map_none, fillByFetching, fetched,
            Option.map_some]
          exact (delays_delayed .wouldBlock (fetch lent.size) pauses state).map
            (Fetch.copyInto lent)
  | asynchronous =>
    cases given : stream.readInto with
    | some readInto =>
      simp only [fill, hesitant, given, Option.map_some]
      exact delays_delayed _ (readInto lent) pauses state
    | none =>
      simp only [fill, hesitant, given, Option.map_none]
      exact .acts rfl

theorem delays_offer (stream : Stream State) (concurrency : Concurrency) (lent : Lent)
    (pauses : List Nat) (state : State) :
    Delays .wouldBlock (stream.offer concurrency lent state) pauses state
      (stream.hesitant.offer concurrency lent (pauses, state)) := by
  have writing : Delays .wouldBlock (stream.offer .asynchronous lent state) pauses state
      (stream.hesitant.offer .asynchronous lent (pauses, state)) := by
    cases taken : stream.write with
    | some write =>
      simp only [offer, hesitant, taken, Option.map_some]
      exact delays_delayed _ (write lent) pauses state
    | none =>
      simp only [offer, hesitant, taken, Option.map_none]
      exact .acts rfl
  cases concurrency with
  | asynchronous => exact writing
  | blocking =>
    cases sent : stream.send with
    | some send =>
      simp only [offer, hesitant, sent, Option.map_some]
      exact delays_delayed _ (send lent) pauses state
    | none =>
      -- Without an operation of its own for sending, a stream is written to in either runtime.
      simp only [offer, hesitant, sent, Option.map_none] at writing ⊢
      exact writing

end Stream

/-! ## One exchange -/

/-- An exchange performed on a hesitant stream either waits, which changes
nothing but what is left to wait, or comes to what it comes to on the stream
itself. -/
inductive Hesitates {State : Type} (exchange : Exchange)
    (plain : Except Fault Exchange × Context State) (before : Context (List Nat × State)) :
    Except Fault Exchange × Context (List Nat × State) -> Prop where
  | waits {count : Nat} {rest : List Nat} {after : Context (List Nat × State)} :
      before.state.1 = (count + 1) :: rest -> after.memory = before.memory ->
      after.state = (count :: rest, before.state.2) ->
      Hesitates exchange plain before (.ok exchange, after)
  | acts {after : Context (List Nat × State)} :
      after.memory = plain.2.memory -> after.state.2 = plain.2.state ->
      Stream.waits after.state.1 = Stream.waits before.state.1 ->
      Hesitates exchange plain before (plain.1, after)

section

variable {Machine Value State : Type}

theorem hesitates_handle (stream : Stream State) (concurrency : Concurrency) (exchange : Exchange)
    {before : Context (List Nat × State)} {plain : Context State}
    (memory : before.memory = plain.memory) (state : before.state.2 = plain.state) :
    Hesitates exchange (handle concurrency stream exchange plain) before
      (handle concurrency stream.hesitant exchange before) := by
  rcases before with ⟨_, journal, ⟨pauses, _⟩⟩
  cases memory
  cases state
  rcases exchange with ⟨direction, payload⟩
  cases payload with
  | response output =>
    rw [handle_response, handle_response]
    exact .acts rfl rfl rfl
  | request buffer =>
    cases direction with
    | read =>
      cases buffer with
      | frozen bytes =>
        have delays := stream.delays_fill concurrency ⟨bytes, false⟩ pauses plain.state
        simp only [handle, Context.readInto, Context.note]
        cases filled : stream.hesitant.fill concurrency ⟨bytes, false⟩ (pauses, plain.state) with
        | mk filling left =>
          rw [filled] at delays
          cases delays with
          | waits enough => exact .waits enough rfl rfl
          | acts same => exact .acts rfl rfl same
      | shared cell =>
        have delays := stream.delays_fill concurrency ⟨plain.memory.contents cell, true⟩ pauses
          plain.state
        simp only [handle, Context.readInto, Context.note]
        cases filled : stream.hesitant.fill concurrency ⟨plain.memory.contents cell, true⟩
          (pauses, plain.state) with
        | mk filling left =>
          rw [filled] at delays
          cases delays with
          | waits enough => exact .waits enough (plain.memory.store_contents cell) rfl
          | acts same => exact .acts rfl rfl same
    | write =>
      have delays := stream.delays_offer concurrency ⟨buffer.bytes plain.memory, buffer.isMutable⟩
        pauses plain.state
      simp only [handle, Context.writeFrom, Context.note]
      cases offered : stream.hesitant.offer concurrency
        ⟨buffer.bytes plain.memory, buffer.isMutable⟩ (pauses, plain.state) with
      | mk reply left =>
        rw [offered] at delays
        cases delays with
        | waits enough => exact .waits enough rfl rfl
        | acts same => exact .acts rfl rfl same

/-! ## A whole drive -/

/-- Two steps that come to the same, whatever they note. -/
structure Step.Agrees (first second : Step Machine Value) : Prop where
  progress : first.progress = second.progress
  machine : first.machine = second.machine
  memory : first.memory = second.memory

/-- Two runs that end alike and leave the machine, the buffers and the stream
alike, where one of the streams was kept waiting. -/
structure Run.Alike (hesitant : Run Machine Value (List Nat × State))
    (plain : Run Machine Value State) : Prop where
  ending : hesitant.ending = plain.ending
  machine : hesitant.machine = plain.machine
  memory : hesitant.context.memory = plain.context.memory
  state : hesitant.context.state.2 = plain.context.state

variable [Resumable Machine Value]

theorem Repeats.agrees {machine : Machine} {exchange : Exchange} {memory : Memory}
    {events : List Event} (repeats : Repeats machine exchange) :
    Step.Agrees (Resumable.resume machine (some exchange) memory)
      ⟨.needs exchange, machine, memory, events⟩ := by
  rcases repeats memory with ⟨noted, resumed⟩
  rw [resumed]
  exact ⟨rfl, rfl, rfl⟩

/-! ## One request after another -/

/-- If a request is to be performed, the machine will repeat it. -/
def Moment.Poised (moment : Moment Machine Value State) : Prop :=
  ∀ exchange, moment.phase = .asking exchange -> Repeats moment.machine exchange

theorem Moment.Poised.repeated
    {perform : Exchange -> Context State -> Except Fault Exchange × Context State}
    {moment : Moment Machine Value State} (poised : moment.Poised) {exchange : Exchange}
    (asking : moment.phase = .asking exchange)
    (givenBack : (moment.next perform).phase = .answered exchange) :
    ((moment.next perform).next perform).phase = .asking exchange ∧
      ((moment.next perform).next perform).machine = moment.machine ∧
      ((moment.next perform).next perform).context.memory =
        (moment.next perform).context.memory ∧
      ((moment.next perform).next perform).context.state = (moment.next perform).context.state := by
  have repeats := poised exchange asking
  rcases moment with ⟨phase, machine, context⟩
  cases asking
  cases performed : perform exchange context with
  | mk result reached =>
    cases result with
    | error fault =>
      simp only [Moment.next, performed] at givenBack
      cases givenBack
    | ok answer =>
      simp only [Moment.next, performed] at givenBack ⊢
      cases givenBack
      rcases repeats reached.memory with ⟨events, resumed⟩
      simp only [Moment.resume, resumed, Phase.ofProgress, Context.state_after, true_and, and_true]
      rfl

variable [Patient Machine]

/-- The limits of two drives, of which only the first has to wait, are such
that the one ends if the other does: one of them has ended, and the other has a
limit that is large enough. -/
def Limits (hesitant : Run Machine Value (List Nat × State)) (plain : Run Machine Value State)
    (waits limit' limit : Nat) : Prop :=
  plain.ending ≠ .unfinished ∧ limit + waits ≤ limit' ∨
    hesitant.ending ≠ .unfinished ∧ limit' ≤ limit

/-- The induction is on the limit of the drive that has to wait.  A wait leaves
the other drive where it is, since the machine will ask for the same again. -/
theorem alike_driveFrom (stream : Stream State) (concurrency : Concurrency) (limit' limit : Nat)
    (machine' machine : Machine) (answer' answer : Option Exchange)
    (context' : Context (List Nat × State)) (context : Context State) (turns' turns : List Turn)
    (agrees : Step.Agrees (Resumable.resume machine' answer' context'.memory)
      (Resumable.resume machine answer context.memory))
    (state : context'.state.2 = context.state)
    (limits : Limits
      (driveFrom (handle concurrency stream.hesitant) limit' machine' answer' context' turns')
      (driveFrom (handle concurrency stream) limit machine answer context turns)
      (Stream.waits context'.state.1) limit' limit) :
    Run.Alike
      (driveFrom (handle concurrency stream.hesitant) limit' machine' answer' context' turns')
      (driveFrom (handle concurrency stream) limit machine answer context turns) := by
  induction limit' generalizing limit machine' machine answer' answer context' context turns'
    turns with
  | zero =>
    rcases limits with ⟨ended, enough⟩ | ⟨ended, _⟩
    · obtain rfl : limit = 0 := by omega
      exact absurd rfl ended
    · exact absurd rfl ended
  | succ limit' inductionHypothesis =>
    cases limit with
    | zero =>
      rcases limits with ⟨ended, _⟩ | ⟨_, enough⟩
      · exact absurd rfl ended
      · omega
    | succ limit =>
      have patient := Patient.repeats machine answer context.memory
      cases stepped' : Resumable.resume machine' answer' context'.memory with
      | mk progress after memory events' =>
      cases stepped : Resumable.resume machine answer context.memory with
      | mk progress₂ after₂ memory₂ events =>
      rw [stepped', stepped] at agrees
      rw [stepped] at patient
      obtain ⟨rfl, rfl, rfl⟩ : progress = progress₂ ∧ after = after₂ ∧ memory = memory₂ :=
        ⟨agrees.progress, agrees.machine, agrees.memory⟩
      cases progress with
      | finished value =>
        rw [driveFrom_finished limit' stepped', driveFrom_finished limit stepped]
        exact ⟨rfl, rfl, rfl, state⟩
      | endOfStream =>
        rw [driveFrom_endOfStream limit' stepped', driveFrom_endOfStream limit stepped]
        exact ⟨rfl, rfl, rfl, state⟩
      | failed error =>
        rw [driveFrom_failed limit' stepped', driveFrom_failed limit stepped]
        exact ⟨rfl, rfl, rfl, state⟩
      | raised fault =>
        rw [driveFrom_of_raised limit' stepped', driveFrom_of_raised limit stepped]
        exact ⟨rfl, rfl, rfl, state⟩
      | needs exchange =>
        have hesitates := @hesitates_handle State stream concurrency exchange
          (context'.after memory events') (context.after memory events) rfl state
        cases performed : handle concurrency stream exchange (context.after memory events) with
        | mk result reached =>
        cases performed' : handle concurrency stream.hesitant exchange
          (context'.after memory events') with
        | mk result' reached' =>
        rw [performed, performed'] at hesitates
        cases hesitates with
        | waits waiting same left =>
          -- Only the hesitant stream has been asked; the other drive is where it was.
          rw [driveFrom_needs limit' stepped' performed'] at limits ⊢
          apply inductionHypothesis
          · rw [stepped, show reached'.memory = memory from same]
            exact (patient exchange rfl).agrees
          · rw [left]
            exact state
          · have before : Stream.waits context'.state.1 = Stream.waits reached'.state.1 + 1 := by
              rw [show context'.state.1 = _ from waiting, left, Stream.waits, Stream.waits]
              omega
            rcases limits with ⟨ended, enough⟩ | ⟨ended, enough⟩
            · exact .inl ⟨ended, by omega⟩
            · exact .inr ⟨ended, by omega⟩
        | acts sameMemory sameState sameWaits =>
          cases result with
          | error fault =>
            rw [driveFrom_raised limit' stepped' performed', driveFrom_raised limit stepped performed]
            exact ⟨rfl, rfl, sameMemory, sameState⟩
          | ok reply =>
            rw [driveFrom_needs limit' stepped' performed', driveFrom_needs limit stepped performed]
              at limits ⊢
            apply inductionHypothesis
            · rw [show reached'.memory = reached.memory from sameMemory]
              exact ⟨rfl, rfl, rfl⟩
            · exact sameState
            · have left : Stream.waits reached'.state.1 = Stream.waits context'.state.1 := sameWaits
              rcases limits with ⟨ended, enough⟩ | ⟨ended, enough⟩
              · exact .inl ⟨ended, by omega⟩
              · exact .inr ⟨ended, by omega⟩

theorem Moment.poised_resume (moment : Moment Machine Value State) (answer : Option Exchange) :
    (moment.resume answer).Poised := by
  intro exchange asking
  have needs : (Resumable.resume moment.machine answer moment.context.memory).progress =
      .needs exchange := by
    cases progress : (Resumable.resume moment.machine answer moment.context.memory).progress with
    | needs other =>
      simp only [Moment.resume, progress, Phase.ofProgress] at asking
      cases asking
      rfl
    | finished value =>
      simp only [Moment.resume, progress, Phase.ofProgress] at asking
      cases asking
    | endOfStream =>
      simp only [Moment.resume, progress, Phase.ofProgress] at asking
      cases asking
    | failed error =>
      simp only [Moment.resume, progress, Phase.ofProgress] at asking
      cases asking
    | raised fault =>
      simp only [Moment.resume, progress, Phase.ofProgress] at asking
      cases asking
  exact Patient.repeats moment.machine answer moment.context.memory exchange needs

theorem Moment.poised_next
    (perform : Exchange -> Context State -> Except Fault Exchange × Context State)
    (moment : Moment Machine Value State) : (moment.next perform).Poised := by
  rcases moment with ⟨phase, machine, context⟩
  cases phase with
  | resting ending => exact Moment.poised_resume _ none
  | answered answer => exact Moment.poised_resume _ (some answer)
  | asking exchange =>
    intro other asking
    simp only [Moment.next] at asking
    cases performed : perform exchange context with
    | mk result reached =>
      rw [performed] at asking
      cases result with
      | ok answer => cases asking
      | error fault => cases asking

end

namespace Machine

variable {State : Type}

/-- Any machine, in any condition, driven on any stream, is not affected by
waits that are put before the replies of the stream.

If the drive ends without waits, then with any finite number of them it ends in
the same way, with the machine, the buffers and the stream as they would have
been; a limit that is larger by the number of waits is large enough.  If the
drive ends with waits, it ends without in the same way.

When a request is given back, the next request is the same, for the same
buffer, and the machine is the same.  If it was given back because of a wait,
then neither a buffer nor the stream has changed meanwhile. -/
theorem drive_ignores_waits (stream : Stream State) (concurrency : Concurrency)
    (machine : Machine) (memory : Memory) (journal : Array Event) (state : State)
    (pauses : List Nat) :
    (∀ limit limit',
      let plain := drive concurrency stream limit machine ⟨memory, journal, state⟩
      let waiting := drive concurrency stream.hesitant limit' machine
        ⟨memory, journal, (pauses, state)⟩
      (plain.ending ≠ .unfinished -> limit + Stream.waits pauses ≤ limit' -> waiting.Alike plain) ∧
        (waiting.ending ≠ .unfinished -> limit' ≤ limit -> waiting.Alike plain)) ∧
    ∀ steps exchange,
      let perform := handle concurrency stream.hesitant
      let moment := (⟨.resting none, machine, ⟨memory, journal, (pauses, state)⟩⟩ :
        Moment Machine Value (List Nat × State)).later perform steps
      let given := moment.next perform
      moment.phase = .asking exchange ->
        (Stream.waits given.context.state.1 < Stream.waits moment.context.state.1 ->
          given.phase = .answered exchange ∧ given.context.memory = moment.context.memory ∧
            given.context.state.2 = moment.context.state.2) ∧
        (given.phase = .answered exchange ->
          (given.next perform).phase = .asking exchange ∧
            (given.next perform).machine = moment.machine ∧
            (given.next perform).context.memory = given.context.memory ∧
            (given.next perform).context.state = given.context.state) := by
  constructor
  · intro limit limit' plain waiting
    have alike := alike_driveFrom stream concurrency limit' limit machine machine none none
      ⟨memory, journal, (pauses, state)⟩ ⟨memory, journal, state⟩ [] [] ⟨rfl, rfl, rfl⟩ rfl
    exact ⟨fun ended enough => alike (.inl ⟨ended, enough⟩),
      fun ended enough => alike (.inr ⟨ended, enough⟩)⟩
  · intro steps exchange perform moment given asking
    have poised : moment.Poised := by
      apply Moment.later_of_next (fun moment _ => moment.poised_next perform)
      intro _ asks
      cases asks
    -- How the moment came about does not matter from here on.
    clear_value moment
    refine ⟨fun waited => ?_, poised.repeated asking⟩
    have hesitates := @hesitates_handle State stream concurrency exchange moment.context
      ⟨moment.context.memory, #[], moment.context.state.2⟩ rfl rfl
    cases performed : handle concurrency stream.hesitant exchange moment.context with
    | mk result reached =>
      rw [performed] at hesitates
      simp only [given, Moment.next, asking, perform, performed] at waited ⊢
      cases hesitates with
      | waits waits same left =>
        refine ⟨rfl, same, ?_⟩
        show reached.state.2 = moment.context.state.2
        rw [left]
      | acts sameMemory sameState sameWaits =>
        -- The operation took place, so no wait was used up.
        cases answered : handle concurrency stream exchange
          ⟨moment.context.memory, #[], moment.context.state.2⟩ with
        | mk answer plain =>
          rw [answered] at waited
          cases answer <;> exact absurd sameWaits (Nat.ne_of_lt waited)

/-- A machine with one of three bytes known reads the other two, though the
stream makes it wait twice before the first read; and after the first wait it
asks for the same again. -/
theorem drive_ignores_waits_of_three :
    let built := ReadExact.create 3 2 .empty
    let machine := Machine.readExact (built.1.extend [9])
    let stream := MemoryFile.stream
    let file := MemoryFile.ofBytes [1, 2, 3]
    let perform := handle .blocking stream.hesitant
    let moment := (⟨.resting none, machine, ⟨built.2, #[], ([2], file)⟩⟩ :
      Moment Machine Value (List Nat × MemoryFile)).later perform 1
    (drive .blocking stream.hesitant 4 machine ⟨built.2, #[], ([2], file)⟩).ending =
        .finished (.bytes [9, 1, 2]) ∧
      ((moment.next perform).next perform).phase =
        .asking ⟨.read, .request (.shared ⟨0⟩)⟩ := by
  intro built machine stream file perform moment
  have plain : (drive .blocking stream 2 machine ⟨built.2, #[], file⟩).ending =
      .finished (.bytes [9, 1, 2]) := by
    rfl
  have unaffected := drive_ignores_waits stream .blocking machine built.2 #[] file [2]
  have alike := (unaffected.1 2 4).1 (by rw [plain]; exact nofun) (by decide)
  have again := unaffected.2 1 ⟨.read, .request (.shared ⟨0⟩)⟩ rfl
  exact ⟨alike.ending.trans plain, (again.2 (again.1 (by decide)).1).1⟩

end Machine

end ResumableStreams
