import Mathlib.Algebra.Order.Floor.Div
import ResumableStreams.Proofs.Acceptance
import ResumableStreams.Proofs.Completeness
import ResumableStreams.Proofs.Exactness

namespace ResumableStreams

/-!
# No request too many

A machine that moves bytes in blocks needs one request for each block, where
every request moves as much as its buffer allows.  The last block may be a
short one.  A reader that looks for the end needs one request more, which finds
nothing.

That no more requests are made hangs on the buffer of the machine, which must
have its full length again after every block.  So what is followed here is the
capacity: it is the one that the machine was built with, up to what is missing.
-/

/-- The first block is as long as it can be, and the others make up the rest. -/
theorem ceilDiv_of_pos {size length : Nat} (positive : 0 < size) (some_left : 0 < length) :
    length ⌈/⌉ size = (length - min size length) ⌈/⌉ size + 1 := by
  rw [Nat.ceilDiv_eq_add_pred_div, Nat.ceilDiv_eq_add_pred_div]
  by_cases fits : size ≤ length
  · have split : length + size - 1 = (length - size + size - 1) + size := by omega
    rw [Nat.min_eq_left fits, split, Nat.add_div_right _ positive]
  · have split : length + size - 1 = (length - 1) + size := by omega
    have last : length - min size length + size - 1 < size := by omega
    rw [split, Nat.add_div_right _ positive, Nat.div_eq_of_lt last, Nat.div_eq_of_lt (by omega)]

/-! ## How long a drive takes -/

section

variable {Machine Value State : Type} [Resumable Machine Value]
  {perform : Exchange -> Context State -> Except Fault Exchange × Context State}

theorem length_le_length_turns (limit : Nat) (machine : Machine) (answer : Option Exchange)
    (context : Context State) (turns : List Turn) :
    turns.length ≤ (driveFrom perform limit machine answer context turns).turns.length := by
  induction limit generalizing machine answer context turns with
  | zero => exact Nat.le_of_eq List.length_reverse.symm
  | succ limit inductionHypothesis =>
    cases stepped : Resumable.resume machine answer context.memory with
    | mk progress after memory events =>
      cases progress with
      | finished value =>
        rw [driveFrom_finished limit stepped, List.length_reverse]
      | endOfStream =>
        rw [driveFrom_endOfStream limit stepped, List.length_reverse]
      | failed error =>
        rw [driveFrom_failed limit stepped, List.length_reverse]
      | raised fault =>
        rw [driveFrom_of_raised limit stepped, List.length_reverse]
      | needs exchange =>
        cases performed : perform exchange (context.after memory events) with
        | mk result reached =>
          cases result with
          | error fault =>
            rw [driveFrom_raised limit stepped performed, List.length_reverse, List.length_cons]
            exact Nat.le_succ _
          | ok reply =>
            rw [driveFrom_needs limit stepped performed]
            exact Nat.le_trans (Nat.le_succ _) (inductionHypothesis _ _ _ (_ :: turns))

/-- A limit above the number of exchanges does not cut a drive off, so any such
limit gives the same run. -/
theorem driveFrom_of_length_lt {limit : Nat} (limit' : Nat) {machine : Machine}
    {answer : Option Exchange} {context : Context State} {turns : List Turn}
    (ended : (driveFrom perform limit machine answer context turns).ending ≠ .unfinished)
    (enough : (driveFrom perform limit machine answer context turns).turns.length <
      turns.length + limit') :
    driveFrom perform limit' machine answer context turns =
      driveFrom perform limit machine answer context turns := by
  induction limit' generalizing limit machine answer context turns with
  | zero =>
    exact absurd enough (Nat.not_lt.mpr (length_le_length_turns limit machine answer context turns))
  | succ limit' inductionHypothesis =>
    cases limit with
    | zero => exact absurd rfl ended
    | succ limit =>
      cases stepped : Resumable.resume machine answer context.memory with
      | mk progress after memory events =>
        cases progress with
        | finished value =>
          rw [driveFrom_finished limit' stepped, driveFrom_finished limit stepped]
        | endOfStream =>
          rw [driveFrom_endOfStream limit' stepped, driveFrom_endOfStream limit stepped]
        | failed error =>
          rw [driveFrom_failed limit' stepped, driveFrom_failed limit stepped]
        | raised fault =>
          rw [driveFrom_of_raised limit' stepped, driveFrom_of_raised limit stepped]
        | needs exchange =>
          cases performed : perform exchange (context.after memory events) with
          | mk result reached =>
            cases result with
            | error fault =>
              rw [driveFrom_raised limit' stepped performed,
                driveFrom_raised limit stepped performed]
            | ok reply =>
              rw [driveFrom_needs limit stepped performed] at ended enough ⊢
              rw [driveFrom_needs limit' stepped performed]
              refine inductionHypothesis ended (Nat.lt_of_lt_of_eq enough ?_)
              rw [List.length_cons, Nat.add_assoc, Nat.add_comm 1]

theorem drive_of_length_lt {concurrency : Concurrency} {stream : Stream State} {limit : Nat}
    (limit' : Nat) {machine : Machine} {context : Context State}
    (ended : (drive concurrency stream limit machine context).ending ≠ .unfinished)
    (enough : (drive concurrency stream limit machine context).turns.length < limit') :
    drive concurrency stream limit' machine context =
      drive concurrency stream limit machine context := by
  refine driveFrom_of_length_lt limit' ended ?_
  rw [List.length_nil, Nat.zero_add]
  exact enough

end

namespace Stream

variable {Machine Value State : Type} {stream : Stream State} {concurrency : Concurrency}

/-! ## Streams that move as much as they can -/

/-- Every read moves as many bytes as there are and fit. -/
def Supply.IsFull (supply : stream.Supply concurrency) : Prop :=
  ∀ contents state, supply.Ready state -> contents ≠ [] ->
    (stream.fill concurrency ⟨contents, true⟩ state).1.reply =
      .moved (min contents.length (supply.rest state).length : Nat)

/-- Every write moves as many bytes as are offered, but at most so many. -/
def Sink.Takes (sink : stream.Sink concurrency) (most : Nat) : Prop :=
  ∀ lent state, sink.Ready state ->
    (stream.offer concurrency lent state).1 = .moved (min most lent.size : Nat)

/-- A count that is answered is the count that the stream has replied. -/
theorem Exchange.count_of_answer {request : Exchange} {buffer : Buffer} {moved : Nat}
    {memory : Memory} {direction : Direction} {output : Output}
    (answered : request.answer buffer (.moved moved) memory =
      .ok ⟨direction, .response output⟩) : output.count = moved := by
  simp only [Exchange.answer, Output.make] at answered
  split at answered
  · cases answered
    exact Int.toNat_natCast moved
  · cases answered

theorem Supply.IsFull.count_eq {supply : stream.Supply concurrency} (full : supply.IsFull)
    {context after : Context State} {cell : Cell} {count : Nat}
    (ready : supply.Ready context.state) (room : context.memory.contents cell ≠ [])
    (handled : handle concurrency stream ⟨.read, .request (.shared cell)⟩ context =
      (.ok ⟨.read, .response ⟨.shared cell, count⟩⟩, after)) :
    count = min (context.memory.contents cell).length (supply.rest context.state).length := by
  cases filled : stream.fill concurrency ⟨context.memory.contents cell, true⟩ context.state with
  | mk filling state =>
    have replied : filling.reply = _ := filled ▸ full _ context.state ready room
    simp only [handle, Context.readInto, Context.note, filled, replied] at handled
    exact Exchange.count_of_answer (congrArg Prod.fst handled)

/-- A machine that asks for bytes is resumed with as many as there are and
fit. -/
theorem Supply.IsFull.exists_driveFrom [Resumable Machine Value]
    {supply : stream.Supply concurrency} (full : supply.IsFull) {machine waiting : Machine}
    {answer : Option Exchange} {context : Context State} {cell : Cell} {memory : Memory}
    {events : List Event} (ready : supply.Ready context.state)
    (resumed : Resumable.resume machine answer context.memory =
      ⟨.needs ⟨.read, .request (.shared cell)⟩, waiting, memory, events⟩)
    (held : memory.Holds cell) (room : memory.contents cell ≠ []) (limit : Nat)
    (turns : List Turn) :
    let count := min (memory.contents cell).length (supply.rest context.state).length
    ∃ turn reached,
      supply.Performed cell (context.after memory events) reached count ∧
      driveFrom (handle concurrency stream) (limit + 1) machine answer context turns =
        driveFrom (handle concurrency stream) limit waiting
          (some ⟨.read, .response ⟨.shared cell, count⟩⟩) reached (turn :: turns) := by
  have readyAfter : supply.Ready (context.after memory events).state := ready
  rcases supply.exists_handle readyAfter held room with ⟨count, reached, handled, performed⟩
  obtain rfl := full.count_eq readyAfter room handled
  exact ⟨_, reached, performed, driveFrom_needs limit resumed handled⟩

/-- What is offered to a stream that takes so many bytes at a time moves up to
that number. -/
theorem Sink.Takes.exists_handle {sink : stream.Sink concurrency} {most : Nat}
    (takes : sink.Takes most) {context : Context State} (buffer : Buffer)
    (ready : sink.Ready context.state) :
    ∃ after, handle concurrency stream ⟨.write, .request buffer⟩ context =
        (.ok ⟨.write, .response ⟨buffer, min most (buffer.size context.memory)⟩⟩, after) ∧
      after.memory = context.memory ∧ sink.Ready after.state := by
  have replied := takes ⟨buffer.bytes context.memory, buffer.isMutable⟩ context.state ready
  have answered : (handle concurrency stream ⟨.write, .request buffer⟩ context).1 =
      .ok ⟨.write, .response ⟨buffer, min most (buffer.size context.memory)⟩⟩ := by
    rw [← Exchange.answer_moved ⟨.write, .request buffer⟩ (Nat.min_le_right most _)]
    exact congrArg (Exchange.answer _ buffer · context.memory) replied
  rcases sink.exists_handle buffer ready with ⟨result, after, handled, kept, readyAfter, -⟩
  rw [handled] at answered
  exact ⟨after, by rw [handled, ← answered], kept, readyAfter⟩

end Stream

/-- An open file in memory gives all that fits. -/
theorem MemoryFile.isFull_supply (concurrency : Concurrency) :
    (MemoryFile.supply concurrency).IsFull := by
  intro contents file isOpen room
  rw [MemoryFile.fill_eq_put concurrency isOpen, Lent.put_mutable, List.length_take]
  rfl

/-! ## Reading an exact number of bytes -/

namespace ReadExact

/-- How many requests it takes to read `missing` bytes in blocks of the given
size, where `available` bytes are there. -/
def requests (size missing available : Nat) : Nat :=
  if missing ≤ available then missing ⌈/⌉ size else available ⌈/⌉ size + 1

theorem requests_of_pos {size missing available : Nat} (positive : 0 < size)
    (some_missing : 0 < missing) (some_available : 0 < available) :
    requests size missing available =
      requests size (missing - min (min size missing) available)
        (available - min (min size missing) available) + 1 := by
  unfold requests
  by_cases enough : missing ≤ available
  · have block : min (min size missing) available = min size missing := by omega
    rw [block, if_pos enough, if_pos (by omega), ceilDiv_of_pos positive some_missing]
  · have block : min (min size missing) available = min size available := by omega
    rw [block, if_neg enough, if_neg (by omega), ceilDiv_of_pos positive some_available]

/-- The buffer is as long as the block size allows, up to what is missing. -/
def Sized (machine : ReadExact) (size : Nat) : Prop :=
  min machine.remaining machine.read.capacity = min size machine.remaining

/-- What is lent is as long as what is missing allows. -/
theorem capacity_resume_none {machine : ReadExact} (incomplete : ¬ machine.Complete)
    (memory : Memory) :
    (Resumable.resume machine none memory).machine.read.capacity =
      min machine.remaining machine.read.capacity := by
  have trimmed := Read.capacity_truncate machine.read machine.remaining memory
  rw [← trimmed_eq_truncate, Int.toNat_natCast] at trimmed
  rw [resume_none, request, if_neg incomplete]
  exact trimmed

variable {State : Type} {stream : Stream State} {concurrency : Concurrency}

/-- A drive takes no more requests than it takes blocks. -/
theorem Ready.length_turns {supply : stream.Supply concurrency} (full : supply.IsFull)
    {size : Nat} (positive : 0 < size) (limit : Nat) {machine : ReadExact}
    {context : Context State} (turns : List Turn) (ready : machine.Ready context.memory)
    (sized : machine.Sized size) (source : supply.Ready context.state)
    (enough : min machine.remaining ((supply.rest context.state).length + 1) < limit) :
    (driveFrom (handle concurrency stream) limit machine none context turns).turns.length =
      turns.length + requests size machine.remaining (supply.rest context.state).length := by
  induction limit generalizing machine context turns with
  | zero => exact absurd enough (Nat.not_lt_zero _)
  | succ limit inductionHypothesis =>
    by_cases complete : machine.Complete
    · have nothing : machine.remaining = 0 := Nat.sub_eq_zero_of_le complete
      rw [driveFrom_finished limit (resume_of_complete complete context.memory), nothing, requests,
        if_pos (Nat.zero_le _), zero_ceilDiv]
      exact List.length_reverse
    · have missing : 0 < machine.remaining := Nat.sub_pos_of_lt (Nat.lt_of_not_le complete)
      have lent := capacity_resume_none complete context.memory
      rcases ready.exists_request complete with
        ⟨cell, waiting, memory, events, asked, waits, target, collected⟩
      have room : memory.contents cell ≠ [] :=
        List.length_pos_iff.mp (waits.length ▸ waits.room)
      have capacity : waiting.read.capacity = min size machine.remaining := by
        rw [asked] at lent
        exact lent.trans sized
      rcases full.exists_driveFrom source asked waits.held room limit turns with
        ⟨turn, reached, performed, driven⟩
      rw [waits.length, capacity] at performed driven
      generalize counted : min (min size machine.remaining) (supply.rest context.state).length =
        count at performed driven
      have waitsAfter := waits.of_length performed.held performed.length
      have rest : supply.rest reached.state = (supply.rest context.state).drop count :=
        performed.rest
      rw [driven]
      cases limit with
      | zero => omega
      | succ limit =>
        by_cases exhausted : supply.rest context.state = []
        · rw [exhausted, List.length_nil, Nat.min_zero] at counted
          subst counted
          rcases waitsAfter.receive_end with ⟨events', taken⟩
          rw [driveFrom_shortage limit taken, requests, exhausted, List.length_nil,
            if_neg (Nat.not_le.mpr missing), zero_ceilDiv, List.length_reverse, List.length_cons]
        · have available : 0 < (supply.rest context.state).length :=
            List.length_pos_iff.mpr exhausted
          have some_moved : 0 < count := by omega
          rcases waitsAfter.receive_bytes some_moved with ⟨events', taken⟩
          have left : (waiting.fed cell count reached.memory).1.remaining =
              machine.remaining - count := by
            have taken := @remaining_of_taken machine (waiting.fed cell count reached.memory).1 _ _
              target (by rw [bytes_fed, collected]; exact congrArg _ performed.start)
              (by omega) (by omega : count ≤ (supply.rest context.state).length)
            omega
          have sizedAfter : (waiting.fed cell count reached.memory).1.Sized size := by
            rw [Sized, waitsAfter.capacity_fed, capacity, left]
            omega
          have counts := fun turns' => @inductionHypothesis _
            (reached.after (waiting.fed cell count reached.memory).2 events') turns'
            (waitsAfter.ready_fed count) sizedAfter performed.ready (by
              rw [Context.state_after, rest, List.length_drop]
              omega)
          rw [driveFrom_of_resume_eq limit _ taken, counts,
            requests_of_pos positive missing available, counted, Context.state_after, rest, left,
            List.length_drop, List.length_cons, Nat.add_assoc, Nat.add_comm 1]

theorem outcome_ne_unfinished (target : Nat) (seed content : Bytes) :
    outcome target seed content ≠ .unfinished := by
  unfold outcome shortage
  split
  · exact nofun
  · split <;> exact nofun

/-- A new machine with seeds takes one request for each block. -/
theorem length_turns_drive {supply : stream.Supply concurrency} (full : supply.IsFull)
    {size : Nat} (positive : 0 < size) (target : Nat) (seeds : List Bytes) (memory : Memory)
    (journal : Array Event) {state : State} (source : supply.Ready state) (limit : Nat)
    (enough : requests size (target - seeds.flatten.length) (supply.rest state).length < limit) :
    let built := create target size memory
    let run := drive concurrency stream limit (seeds.foldl extend built.1)
      ⟨built.2, journal, state⟩
    run.ending = outcome target seeds.flatten (supply.rest state) ∧
      run.turns.length =
        requests size (target - seeds.flatten.length) (supply.rest state).length := by
  intro built run
  have ready : (seeds.foldl extend built.1).Ready built.2 :=
    (ready_create target positive memory).seeded seeds
  have wanted : (seeds.foldl extend built.1).target = target := target_seeded built.1 seeds
  have known : (seeds.foldl extend built.1).collected.bytes = seeds.flatten :=
    Collecting.collected_seeded built.1 seeds
  have missing : (seeds.foldl extend built.1).remaining = target - seeds.flatten.length :=
    remaining_seeded rfl seeds
  have capacity : (seeds.foldl extend built.1).read.capacity = min size target :=
    @Collecting.seeded_of_extend ReadExact _ (fun seeded => seeded.read.capacity = min size target)
      (fun _ _ same => same) built.1 rfl seeds
  have sized : (seeds.foldl extend built.1).Sized size := by
    rw [Sized, capacity, missing]
    omega
  -- A limit that is never reached, whatever the size of the blocks.
  let generous := target + (supply.rest state).length + 2
  have below : min (seeds.foldl extend built.1).remaining ((supply.rest state).length + 1) <
      generous := by omega
  let long := drive concurrency stream generous (seeds.foldl extend built.1)
    ⟨built.2, journal, state⟩
  have ending : long.ending = outcome target seeds.flatten (supply.rest state) := by
    have settled := @Ready.settled State stream concurrency supply generous _
      ⟨built.2, journal, state⟩ [] ready source below
    rw [← wanted, ← known]
    exact settled.ending
  have length : long.turns.length =
      requests size (target - seeds.flatten.length) (supply.rest state).length := by
    have counted := @Ready.length_turns State stream concurrency supply full size positive generous
      _ ⟨built.2, journal, state⟩ [] ready sized source below
    rw [missing, List.length_nil, Nat.zero_add] at counted
    exact counted
  have ended : long.ending ≠ .unfinished := ending ▸ outcome_ne_unfinished _ _ _
  have same : run = long := drive_of_length_lt limit ended (length ▸ enough)
  rw [same]
  exact ⟨ending, length⟩

end ReadExact

/-! ## Reading to the end -/

namespace ReadToEnd

variable {State : Type} {stream : Stream State} {concurrency : Concurrency}

/-- A drive takes no more requests than it takes blocks, and one for the end. -/
theorem Ready.length_turns {supply : stream.Supply concurrency} (full : supply.IsFull)
    (limit : Nat) {machine : ReadToEnd} {context : Context State} (turns : List Turn)
    (ready : machine.Ready context.memory) (source : supply.Ready context.state)
    (enough : (supply.rest context.state).length + 1 < limit) :
    (driveFrom (handle concurrency stream) limit machine none context turns).turns.length =
      turns.length + ((supply.rest context.state).length ⌈/⌉ machine.read.capacity + 1) := by
  induction limit generalizing machine context turns with
  | zero => exact absurd enough (Nat.not_lt_zero _)
  | succ limit inductionHypothesis =>
    rcases exists_lent ready.armed with ⟨cell, memory, asked, held, zeros⟩
    have length : (memory.contents cell).length = machine.read.capacity := by
      rw [zeros, Bytes.length_zeros]
    have room : memory.contents cell ≠ [] := List.length_pos_iff.mp (length ▸ ready.room)
    rcases full.exists_driveFrom source asked held room limit turns with
      ⟨turn, reached, performed, driven⟩
    rw [length] at performed driven
    generalize waits : { machine with read := ⟨machine.read.capacity, none⟩ } = waiting
      at asked driven
    generalize counted : min machine.read.capacity (supply.rest context.state).length = count
      at performed driven
    have positive := ready.room
    have rest : supply.rest reached.state = (supply.rest context.state).drop count :=
      performed.rest
    rw [driven]
    cases limit with
    | zero => omega
    | succ limit =>
      by_cases exhausted : supply.rest context.state = []
      · rw [exhausted, List.length_nil, Nat.min_zero] at counted
        subst counted
        rw [driveFrom_finished limit (resume_end waiting (.shared cell) reached.memory), exhausted,
          List.length_nil, zero_ceilDiv, List.length_reverse, List.length_cons]
      · have available : 0 < (supply.rest context.state).length :=
          List.length_pos_iff.mpr exhausted
        have some_moved : (Output.mk (.shared cell) count).count ≠ 0 := by
          show count ≠ 0
          omega
        have back : (waiting.absorb ⟨.shared cell, count⟩ reached.memory).1.read.capacity =
            machine.read.capacity :=
          (Read.capacity_replace waiting.read (.shared cell) reached.memory).trans
            (performed.length.trans length)
        have roomAfter : reached.memory.contents cell ≠ [] :=
          List.length_pos_iff.mp (performed.length.trans length ▸ positive)
        have readyAfter := waiting.ready_of_replace
          (waiting.absorb ⟨.shared cell, count⟩ reached.memory).1.collected performed.held roomAfter
        have counts := fun turns' events => @inductionHypothesis
          (waiting.absorb ⟨.shared cell, count⟩ reached.memory).1
          (reached.after (waiting.absorb ⟨.shared cell, count⟩ reached.memory).2 events) turns'
          readyAfter performed.ready (by
            rw [Context.state_after, rest, List.length_drop]
            omega)
        rw [driveFrom_of_resume_eq limit _ (waiting.resume_bytes some_moved reached.memory), counts,
          ceilDiv_of_pos positive available, counted, back, Context.state_after, rest,
          List.length_drop, List.length_cons, Nat.add_assoc, Nat.add_comm 1]

/-- A new machine with seeds takes one request for each block, and one for the
end. -/
theorem length_turns_drive {supply : stream.Supply concurrency} (full : supply.IsFull)
    {size : Nat} (positive : 0 < size) (seeds : List Bytes) (memory : Memory)
    (journal : Array Event) {state : State} (source : supply.Ready state) (limit : Nat)
    (enough : (supply.rest state).length ⌈/⌉ size + 1 < limit) :
    let built := create size memory
    let run := drive concurrency stream limit (seeds.foldl extend built.1)
      ⟨built.2, journal, state⟩
    run.ending = .finished (seeds.flatten ++ supply.rest state) ∧
      run.turns.length = (supply.rest state).length ⌈/⌉ size + 1 := by
  intro built run
  have ready : (seeds.foldl extend built.1).Ready built.2 :=
    (ready_create positive memory).seeded seeds
  have known : (seeds.foldl extend built.1).collected.bytes = seeds.flatten :=
    Collecting.collected_seeded built.1 seeds
  have capacity : (seeds.foldl extend built.1).read.capacity = size :=
    @Collecting.seeded_of_extend ReadToEnd _ (fun seeded => seeded.read.capacity = size)
      (fun _ _ same => same) built.1 rfl seeds
  have below : (supply.rest state).length + 1 < (supply.rest state).length + 2 :=
    Nat.lt_succ_self _
  let long := drive concurrency stream ((supply.rest state).length + 2)
    (seeds.foldl extend built.1) ⟨built.2, journal, state⟩
  have ending : long.ending = .finished (seeds.flatten ++ supply.rest state) := by
    have drained := @Ready.drained State stream concurrency supply _ _ ⟨built.2, journal, state⟩ []
      ready source below
    rw [← known]
    exact drained.ending
  have length : long.turns.length = (supply.rest state).length ⌈/⌉ size + 1 := by
    have counted := @Ready.length_turns State stream concurrency supply full _ _
      ⟨built.2, journal, state⟩ [] ready source below
    rw [capacity, List.length_nil, Nat.zero_add] at counted
    exact counted
  have ended : long.ending ≠ .unfinished := ending ▸ nofun
  have same : run = long := drive_of_length_lt limit ended (length ▸ enough)
  rw [same]
  exact ⟨ending, length⟩

end ReadToEnd

/-! ## Writing everything -/

namespace WriteAll

variable {State : Type} {stream : Stream State} {concurrency : Concurrency}

/-- A machine that has in hand as many bytes as remain, and is told that some
were taken, goes on as one that has the others in hand. -/
theorem exists_resume_moved {machine : WriteAll} (left : machine.remaining ≠ 0) (buffer : Buffer)
    {count : Nat} (moved : count ≠ 0) (memory : Memory) :
    ∃ next after events,
      Resumable.resume machine (some ⟨.write, .response ⟨buffer, count⟩⟩) memory =
        (Resumable.resume next none after).after events ∧
      next.total = machine.total ∧ next.remaining = buffer.size memory - count ∧
      next.write.payload.size after = next.remaining := by
  rcases resume_moved left (show (Output.mk buffer count).count ≠ 0 from moved) memory with
    ⟨events, resumed⟩
  rcases machine.remaining_absorb ⟨buffer, count⟩ memory with ⟨remaining, payload⟩
  exact ⟨_, _, events, resumed, rfl, remaining, payload⟩

/-- A drive ends with the whole payload written, and takes no more requests than
it takes blocks. -/
theorem driveFrom_of_takes {sink : stream.Sink concurrency} {most : Nat} (takes : sink.Takes most)
    (positive : 0 < most) (limit : Nat) {machine : WriteAll} {context : Context State}
    (turns : List Turn) (ready : sink.Ready context.state)
    (size : machine.write.payload.size context.memory = machine.remaining)
    (enough : machine.remaining ⌈/⌉ most < limit) :
    let run := driveFrom (handle concurrency stream) limit machine none context turns
    run.ending = .finished machine.total ∧
      run.turns.length = turns.length + machine.remaining ⌈/⌉ most := by
  induction limit generalizing machine context turns with
  | zero => exact absurd enough (Nat.not_lt_zero _)
  | succ limit inductionHypothesis =>
    by_cases done : machine.remaining = 0
    · rw [driveFrom_finished limit (resume_of_done done none context.memory), done, zero_ceilDiv]
      exact ⟨rfl, List.length_reverse⟩
    · have readyNow : sink.Ready (context.after context.memory [.writeRequested]).state := ready
      have sizeNow : machine.write.payload.size
          (context.after context.memory [.writeRequested]).memory = machine.remaining := size
      rcases takes.exists_handle machine.write.payload readyNow with
        ⟨reached, handled, kept, readyAfter⟩
      rw [sizeNow] at handled
      rw [← kept] at sizeNow
      rw [ceilDiv_of_pos positive (Nat.pos_of_ne_zero done)] at enough ⊢
      rw [driveFrom_needs limit (resume_none done context.memory) handled]
      cases limit with
      | zero => omega
      | succ limit =>
        have moved : min most machine.remaining ≠ 0 := by omega
        rcases @exists_resume_moved { machine with write := ⟨.frozen []⟩ } done
          machine.write.payload _ moved reached.memory with
          ⟨next, after, events, resumed, total, remaining, payload⟩
        rw [sizeNow] at remaining
        rcases @inductionHypothesis next (reached.after after events)
          (_ :: turns) readyAfter payload (by rw [remaining]; omega) with ⟨ending, length⟩
        rw [driveFrom_of_resume_eq limit _ resumed]
        refine ⟨ending.trans (congrArg Ending.finished total), length.trans ?_⟩
        rw [remaining, List.length_cons, Nat.add_assoc, Nat.add_comm 1]

end WriteAll

/-! ## All three machines -/

/-- A stream that takes at most so many bytes at a time. -/
def Stream.sipping (most : Nat) : Stream Bytes where
  kind := "Sipping"
  write := some fun lent taken =>
    (.moved (min most lent.size : Nat), taken ++ lent.bytes.take most)

def Stream.sippingSink (most : Nat) (concurrency : Concurrency) :
    (Stream.sipping most).Sink concurrency where
  Ready _ := True
  taken := id
  offer := by
    intro lent taken _
    have offered : (Stream.sipping most).offer concurrency lent taken =
        (.moved (min most lent.size : Nat), taken ++ lent.bytes.take most) := by
      cases concurrency <;> rfl
    rw [offered, List.take_eq_take_min]
    exact ⟨trivial, .moved _ (Nat.min_le_right _ _) rfl⟩

theorem Stream.takes_sippingSink (most : Nat) (concurrency : Concurrency) :
    (Stream.sippingSink most concurrency).Takes most := by
  intro lent taken _
  cases concurrency <;> rfl

/-- Each machine makes exactly as many requests as there are blocks to move, on a
stream that moves as much as it can.

For an exact number of bytes these are the blocks of what is missing, if that
much is there; otherwise those of everything there is, and one request that
finds nothing.  Nothing is asked for where the seeds are enough.  Reading to
the end always takes the request that finds nothing.  Writing takes one request
for each block that the stream can take.  Only a buffer that cannot be allocated
stands in the way of a new machine that reads.

A limit on the requests that is not reached makes no difference. -/
theorem drive_requests_each_block_once {State : Type} {stream : Stream State}
    {concurrency : Concurrency} (memory : Memory) (journal : Array Event) (state : State)
    (size : Nat) (positive : 0 < size) :
    (∀ supply : stream.Supply concurrency, supply.IsFull -> supply.Ready state ->
      ∀ seeds : List Bytes,
      let known := seeds.flatten
      let content := supply.rest state
      (∀ target,
        let missing := target - known.length
        (ReadExact.make target size memory).Gives (min size target) memory.room
          fun machine after =>
            ∀ limit, ReadExact.requests size missing content.length < limit ->
              let run := drive concurrency stream limit (seeds.foldl ReadExact.extend machine)
                ⟨after, journal, state⟩
              run.ending = ReadExact.outcome target known content ∧
              (target ≤ known.length -> run.turns.length = 0) ∧
              (missing ≤ content.length -> run.turns.length = missing ⌈/⌉ size) ∧
              (content.length < missing -> run.turns.length = content.length ⌈/⌉ size + 1)) ∧
      (ReadToEnd.make size memory).Gives size memory.room fun machine after =>
        ∀ limit, content.length ⌈/⌉ size + 1 < limit ->
          let run := drive concurrency stream limit (seeds.foldl ReadToEnd.extend machine)
            ⟨after, journal, state⟩
          run.ending = .finished (known ++ content) ∧
            run.turns.length = content.length ⌈/⌉ size + 1) ∧
    ∀ sink : stream.Sink concurrency, sink.Takes size -> sink.Ready state ->
      ∀ (payload : Buffer) (limit : Nat), payload.size memory ⌈/⌉ size < limit ->
        let run := drive concurrency stream limit (WriteAll.make payload memory).1
          ⟨memory, journal, state⟩
        run.ending = .finished (payload.size memory) ∧
          run.turns.length = payload.size memory ⌈/⌉ size := by
  refine ⟨?_, ?_⟩
  · intro supply full source seeds known content
    refine ⟨?_, ?_⟩
    · intro target missing
      refine (ReadExact.make_gives target positive memory).imp ?_
      rintro _ _ ⟨rfl, rfl⟩ limit enough run
      rcases ReadExact.length_turns_drive full positive target seeds memory journal source limit
        enough with ⟨ending, length⟩
      refine ⟨ending, ?_, ?_, ?_⟩
      · intro reached
        have nothing : missing = 0 := Nat.sub_eq_zero_of_le reached
        rw [length, show target - seeds.flatten.length = 0 from nothing, ReadExact.requests,
          if_pos (Nat.zero_le _), zero_ceilDiv]
      · intro there
        exact length.trans (if_pos there)
      · intro short
        exact length.trans (if_neg (Nat.not_le.mpr short))
    · refine (ReadToEnd.make_gives positive memory).imp ?_
      rintro _ _ ⟨rfl, rfl⟩ limit enough
      exact ReadToEnd.length_turns_drive full positive seeds memory journal source limit enough
  · intro sink takes ready payload limit enough run
    have settled := @WriteAll.driveFrom_of_takes State stream concurrency sink size takes positive
      limit (WriteAll.make payload memory).1 ⟨memory, journal, state⟩ [] ready rfl enough
    rw [List.length_nil, Nat.zero_add] at settled
    exact settled

/-- Five bytes in blocks of two. -/
theorem drive_requests_each_block_once_of_five :
    let file := MemoryFile.ofBytes [1, 2, 3, 4, 5]
    let builtExact := ReadExact.make 5 2 .empty
    let builtToEnd := ReadToEnd.make 2 .empty
    let writeAll := WriteAll.make (.frozen [1, 2, 3, 4, 5]) .empty
    (∃ machine, builtExact.result = .ok machine ∧
        (drive .blocking MemoryFile.stream 3 ([[9]].foldl ReadExact.extend machine)
          ⟨builtExact.memory, #[], file⟩).turns.length = 2) ∧
      (∃ machine, builtToEnd.result = .ok machine ∧
        (drive .blocking MemoryFile.stream 5 machine
          ⟨builtToEnd.memory, #[], file⟩).turns.length = 4) ∧
      (drive .blocking (Stream.sipping 2) 4 writeAll.1 ⟨.empty, #[], []⟩).turns.length = 3 := by
  intro file builtExact builtToEnd writeAll
  have reads := (drive_requests_each_block_once Memory.empty #[] file 2 (by decide)).1
    (MemoryFile.supply .blocking) (MemoryFile.isFull_supply .blocking) rfl
  have writes := (drive_requests_each_block_once Memory.empty #[] [] 2 (by decide)).2
    (Stream.sippingSink 2 .blocking) (Stream.takes_sippingSink 2 .blocking) trivial
    (.frozen [1, 2, 3, 4, 5]) 4 (by decide)
  refine ⟨?_, ?_, ?_⟩
  · rcases ((reads [[9]]).1 5).exists_of_allowed rfl with ⟨machine, built, counts⟩
    exact ⟨machine, built, (counts 3 (by decide)).2.2.1 (by decide)⟩
  · rcases (reads []).2.exists_of_allowed rfl with ⟨machine, built, counts⟩
    exact ⟨machine, built, (counts 5 (by decide)).2.trans (by decide)⟩
  · exact writes.2

/-- No machine is built whose buffer cannot be addressed, so that no request is
made, not even the one that finds nothing. -/
theorem not_requested_of_unaddressable :
    (ReadExact.make Memory.addressable Memory.addressable .empty).result =
        .error .lengthNotAddressable ∧
      (ReadToEnd.make Memory.addressable .empty).result = .error .lengthNotAddressable := by
  constructor
  · exact ReadExact.refused_of_unaddressable .empty
  · exact (ReadToEnd.make_gives (show 0 < Memory.addressable by decide) .empty).unaddressable

end ResumableStreams
