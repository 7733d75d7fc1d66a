import ResumableStreams.Proofs.Lending
import ResumableStreams.Proofs.Patience
import ResumableStreams.Proofs.Session
import ResumableStreams.Proofs.Supply

namespace ResumableStreams

/-!
# Reading exactly the target

Driven on a stream that gives what it holds, a `ReadExact` takes as many bytes
as it misses and not one more, or reports how many were missing.  Neither the
capacity of its buffer nor the sizes of the pieces that the stream chooses
make a difference.

The argument follows the buffer.  What is lent out is never longer than what
is missing, so a piece that comes back never passes the target; and it is
never empty, so a piece without bytes is the end of the stream.
-/

namespace ReadExact

/-! ## Before a request and while it is under way -/

/-- The machine has its buffer in order, and the buffer can hold something
unless there is nothing to read at all. -/
structure Ready (machine : ReadExact) (memory : Memory) : Prop where
  armed : machine.read.Armed memory
  room : 0 < machine.target -> 0 < machine.read.capacity

/-- The machine has lent the buffer `cell` out, which has room for something
but for no more than what is missing. -/
structure Waits (machine : ReadExact) (cell : Cell) (memory : Memory) : Prop where
  incomplete : ¬ machine.Complete
  lent : machine.read.slot = none
  held : memory.Holds cell
  length : (memory.contents cell).length = machine.read.capacity
  room : 0 < machine.read.capacity
  fits : machine.read.capacity ≤ machine.remaining

theorem remaining_eq_sub (machine : ReadExact) :
    machine.remaining = machine.target - machine.collected.bytes.length := by
  rw [Collected.length_bytes, remaining]

theorem ready_create (target : Nat) {capacity : Nat} (positive : 0 < capacity) (memory : Memory) :
    (create target capacity memory).1.Ready (create target capacity memory).2 where
  armed := Read.armed_create (min capacity target) memory
  room := fun wanted => Nat.lt_min.mpr ⟨positive, wanted⟩

theorem Ready.seeded {machine : ReadExact} {memory : Memory} (ready : machine.Ready memory)
    (seeds : List Bytes) : (seeds.foldl extend machine).Ready memory :=
  @Collecting.seeded_of_extend ReadExact _ (Ready · memory)
    (fun _ _ ready' => ⟨ready'.armed, ready'.room⟩) machine ready seeds

theorem target_seeded (machine : ReadExact) (seeds : List Bytes) :
    (seeds.foldl extend machine).target = machine.target :=
  @Collecting.seeded_of_extend ReadExact _ (fun seeded => seeded.target = machine.target)
    (fun _ _ same => same) machine rfl seeds

/-- Of the seeds of a machine that has collected nothing, all count toward the
target. -/
theorem remaining_seeded {machine : ReadExact} (blank : machine.collected = .empty)
    (seeds : List Bytes) :
    (seeds.foldl extend machine).remaining = machine.target - seeds.flatten.length := by
  have known : (seeds.foldl extend machine).collected.bytes =
      machine.collected.bytes ++ seeds.flatten := Collecting.collected_seeded machine seeds
  rw [remaining_eq_sub, target_seeded, known, blank, Collected.bytes_empty, List.nil_append]

/-! ## One request and its answer -/

theorem resume_none (machine : ReadExact) (memory : Memory) :
    Resumable.resume machine none memory = machine.request memory := rfl

theorem resume_some (machine : ReadExact) (exchange : Exchange) (memory : Memory) :
    Resumable.resume machine (some exchange) memory = machine.receive exchange memory := rfl

theorem resume_of_complete {machine : ReadExact} (complete : machine.Complete)
    (memory : Memory) :
    Resumable.resume machine none memory =
      ⟨.finished machine.collected.bytes, { machine with collected := .empty }, memory, []⟩ := by
  rw [resume_none, request, if_pos complete, finish]

/-- A machine with its buffer in order that misses something lends out zeros, no
more than it misses, and waits without a buffer. -/
theorem exists_lent {machine : ReadExact} {memory : Memory} (armed : machine.read.Armed memory)
    (incomplete : ¬ machine.Complete) :
    let size := min machine.remaining machine.read.capacity
    ∃ cell after,
      Resumable.resume machine none memory =
        ⟨.needs ⟨.read, .request (.shared cell)⟩, { machine with read := ⟨size, none⟩ }, after,
          [.remainingToRead machine.remaining, .readRequested]⟩ ∧
      after.Holds cell ∧ after.contents cell = Bytes.zeros size := by
  intro size
  have trimmed : (machine.trimmed memory).1.Armed (machine.trimmed memory).2 ∧
      (machine.trimmed memory).1.capacity = size := by
    rw [trimmed_eq_truncate]
    exact ⟨armed.truncate machine.remaining, Read.capacity_truncate _ _ memory⟩
  rcases trimmed.1.exists_request with ⟨cell, after, asked, held, zeros⟩
  rw [trimmed.2] at asked zeros
  refine ⟨cell, after, ?_, held, zeros⟩
  rw [resume_none, request, if_neg incomplete]
  simp only [asked]

/-- A machine that misses something asks for it. -/
theorem Ready.exists_request {machine : ReadExact} {memory : Memory}
    (ready : machine.Ready memory) (incomplete : ¬ machine.Complete) :
    ∃ cell waiting after events,
      Resumable.resume machine none memory =
        ⟨.needs ⟨.read, .request (.shared cell)⟩, waiting, after, events⟩ ∧
      waiting.Waits cell after ∧ waiting.target = machine.target ∧
      waiting.collected = machine.collected := by
  have missing : 0 < machine.remaining := by
    unfold Complete at incomplete
    unfold remaining
    omega
  have wanted : 0 < machine.target := Nat.lt_of_lt_of_le missing (Nat.sub_le _ _)
  rcases exists_lent ready.armed incomplete with ⟨cell, after, asked, held, zeros⟩
  exact ⟨cell, _, after, _, asked,
    { incomplete := incomplete
      lent := rfl
      held := held
      length := by rw [zeros, Bytes.length_zeros]
      room := Nat.lt_min.mpr ⟨missing, ready.room wanted⟩
      fits := Nat.min_le_left _ _ }, rfl, rfl⟩

/-- Nothing about a request under way hangs on what its buffer holds. -/
theorem Waits.of_length {machine : ReadExact} {cell : Cell} {before after : Memory}
    (waits : machine.Waits cell before) (held : after.Holds cell)
    (length : (after.contents cell).length = (before.contents cell).length) :
    machine.Waits cell after :=
  { waits with held := held, length := length.trans waits.length }

/-- The machine after an answer with `count` bytes, before it goes on. -/
def fed (machine : ReadExact) (cell : Cell) (count : Nat) (memory : Memory) : ReadExact × Memory :=
  machine.absorb ⟨.shared cell, count⟩ memory

/-- A buffer with bytes in it is given back, and the machine goes on as if asked
for more. -/
theorem Fitted.receive_bytes {machine : ReadExact} (fitted : machine.Fitted) (output : Output)
    (moved : output.count ≠ 0) (memory : Memory) :
    ∃ events, Resumable.resume machine (some ⟨.read, .response output⟩) memory =
      (Resumable.resume (machine.absorb output memory).1 none
        (machine.absorb output memory).2).after events := by
  have short : ¬ machine.remaining < machine.read.capacity := Nat.not_lt.mpr fitted.fits
  refine ⟨[.remainingToRead machine.remaining, .readResumed,
    .readCompleted output.count (output.buffer.size memory)], ?_⟩
  rw [resume_some, resume_none, receive, if_neg fitted.incomplete]
  simp only [ReadExact.trimmed, if_neg short, Read.receive, if_neg moved]

/-- A buffer without bytes is an error, which carries everything collected. -/
theorem Fitted.receive_end {machine : ReadExact} (fitted : machine.Fitted) (buffer : Buffer)
    (memory : Memory) :
    ∃ events, Resumable.resume machine (some ⟨.read, .response ⟨buffer, 0⟩⟩) memory =
      ⟨.reporting (.unexpectedEnd machine.remaining machine.target
          (.frozen machine.collected.bytes)),
        { (machine.absorb ⟨buffer, 0⟩ memory).1 with collected := .empty },
        (machine.absorb ⟨buffer, 0⟩ memory).2, events⟩ := by
  have short : ¬ machine.remaining < machine.read.capacity := Nat.not_lt.mpr fitted.fits
  refine ⟨[.remainingToRead machine.remaining, .readResumed], ?_⟩
  rw [resume_some, receive, if_neg fitted.incomplete]
  simp only [ReadExact.trimmed, if_neg short, Read.receive, if_true, absorb]
  rfl

theorem Waits.fitted {machine : ReadExact} {cell : Cell} {memory : Memory}
    (waits : machine.Waits cell memory) : machine.Fitted := ⟨waits.incomplete, waits.fits⟩

/-- An answer with bytes is taken, and the machine goes on as if asked for
more. -/
theorem Waits.receive_bytes {machine : ReadExact} {cell : Cell} {memory : Memory}
    (waits : machine.Waits cell memory) {count : Nat} (positive : 0 < count) :
    ∃ events, Resumable.resume machine (some ⟨.read, .response ⟨.shared cell, count⟩⟩) memory =
      (Resumable.resume (machine.fed cell count memory).1 none
        (machine.fed cell count memory).2).after events :=
  waits.fitted.receive_bytes ⟨.shared cell, count⟩ (Nat.ne_of_gt positive) memory

/-- A buffer that is given back is as long as it was lent. -/
theorem Waits.capacity_fed {machine : ReadExact} {cell : Cell} {memory : Memory}
    (waits : machine.Waits cell memory) (count : Nat) :
    (machine.fed cell count memory).1.read.capacity = machine.read.capacity :=
  (Read.capacity_replace machine.read (.shared cell) memory).trans waits.length

theorem Waits.ready_fed {machine : ReadExact} {cell : Cell} {memory : Memory}
    (waits : machine.Waits cell memory) (count : Nat) :
    (machine.fed cell count memory).1.Ready (machine.fed cell count memory).2 where
  armed := Read.armed_replace machine.read (by rintro _ ⟨⟩; exact waits.held)
  room := fun _ => waits.capacity_fed count ▸ waits.room

theorem bytes_fed (machine : ReadExact) (cell : Cell) (count : Nat) (memory : Memory) :
    (machine.fed cell count memory).1.collected.bytes =
      machine.collected.bytes ++ (memory.contents cell).take count :=
  machine.bytes_absorb ⟨.shared cell, count⟩ memory

/-- An answer without bytes is an error, which carries everything collected. -/
theorem Waits.receive_end {machine : ReadExact} {cell : Cell} {memory : Memory}
    (waits : machine.Waits cell memory) :
    ∃ events, Resumable.resume machine (some ⟨.read, .response ⟨.shared cell, 0⟩⟩) memory =
      ⟨.reporting (.unexpectedEnd machine.remaining machine.target
          (.frozen machine.collected.bytes)),
        { (machine.fed cell 0 memory).1 with collected := .empty },
        (machine.fed cell 0 memory).2, events⟩ :=
  waits.fitted.receive_end (.shared cell) memory

/-! ## A whole drive -/

/-- How reading `target` bytes ends when the stream does, after the given bytes.
An error that shows a target of too many digits cannot be built. -/
def shortage (missing target : Nat) (gathered : Bytes) : Ending Bytes :=
  if Text.Writable target then .failed (.unexpectedEnd missing target (.frozen gathered))
  else .raised .overlongInteger

theorem shortage_of_writable {target : Nat} (writable : Text.Writable target) (missing : Nat)
    (gathered : Bytes) :
    shortage missing target gathered =
      .failed (.unexpectedEnd missing target (.frozen gathered)) :=
  if_pos writable

/-- How reading exactly `target` bytes ends where `seed` is known already and
the stream has `content` to give. -/
def outcome (target : Nat) (seed content : Bytes) : Ending Bytes :=
  if target ≤ seed.length + content.length then
    .finished (seed ++ content.take (target - seed.length))
  else shortage (target - seed.length - content.length) target (seed ++ content)

theorem outcome_of_overlong {target : Nat} (overlong : ¬ Text.Writable target)
    {seed content : Bytes} (short : seed.length + content.length < target) :
    outcome target seed content = .raised .overlongInteger := by
  rw [outcome, if_neg (Nat.not_le.mpr short), shortage, if_neg overlong]

/-- It makes no difference to the outcome whether bytes of the content are
known already, unless they are past the target. -/
theorem outcome_append {target count : Nat} {seed content : Bytes}
    (missing : count ≤ target - seed.length) (there : count ≤ content.length) :
    outcome target (seed ++ content.take count) (content.drop count) =
      outcome target seed content := by
  have size : (seed ++ content.take count).length = seed.length + count := by
    rw [List.length_append, List.length_take, Nat.min_eq_left there]
  have left : (content.drop count).length = content.length - count := List.length_drop
  unfold outcome
  rw [size, left]
  by_cases enough : target ≤ seed.length + content.length
  · have pieces : target - seed.length = count + (target - (seed.length + count)) := by omega
    rw [if_pos (by omega), if_pos enough, List.append_assoc, pieces, List.take_add]
  · have deficit : target - (seed.length + count) - (content.length - count) =
        target - seed.length - content.length := by omega
    rw [if_neg (by omega), if_neg enough, List.append_assoc, List.take_append_drop, deficit]

theorem outcome_of_complete {machine : ReadExact} (complete : machine.Complete) (content : Bytes) :
    outcome machine.target machine.collected.bytes content =
      .finished machine.collected.bytes := by
  have reached : machine.target ≤ machine.collected.bytes.length := by
    rw [Collected.length_bytes]
    exact complete
  rw [outcome, if_pos (Nat.le_trans reached (Nat.le_add_right _ _)),
    Nat.sub_eq_zero_of_le reached, List.take_zero, List.append_nil]

/-- A machine that misses something at the end reports it. -/
theorem outcome_nil {machine : ReadExact} (incomplete : ¬ machine.Complete) :
    outcome machine.target machine.collected.bytes [] =
      shortage machine.remaining machine.target machine.collected.bytes := by
  have short : ¬ machine.target ≤ machine.collected.bytes.length + 0 := by
    rw [Collected.length_bytes]
    exact incomplete
  rw [outcome, List.length_nil, if_neg short, List.append_nil, Nat.sub_zero, ← remaining_eq_sub]

/-- What a machine misses is what it then takes and what it misses after that. -/
theorem remaining_of_taken {machine after : ReadExact} {content : Bytes} {count : Nat}
    (target : after.target = machine.target)
    (bytes : after.collected.bytes = machine.collected.bytes ++ content.take count)
    (fits : count ≤ machine.remaining) (there : count ≤ content.length) :
    machine.remaining = count + after.remaining := by
  rw [remaining_eq_sub] at fits ⊢
  rw [remaining_eq_sub, target, bytes, List.length_append, List.length_take,
    Nat.min_eq_left there]
  omega

variable {State : Type} {stream : Stream State} {concurrency : Concurrency}

/-- The drive of a machine has come to the right end: with the right outcome,
what is past the target unread, and a machine that may be driven again. -/
structure Settled (supply : stream.Supply concurrency) (machine : ReadExact) (content : Bytes)
    (run : Run ReadExact Bytes State) : Prop where
  ending : run.ending = outcome machine.target machine.collected.bytes content
  rest : supply.rest run.context.state = content.drop machine.remaining
  source : supply.Ready run.context.state
  again : run.machine.Ready run.context.memory
  collected : run.machine.collected = .empty
  target : run.machine.target = machine.target

theorem settled_of_complete (supply : stream.Supply concurrency) {machine : ReadExact}
    {context : Context State} (complete : machine.Complete) (ready : machine.Ready context.memory)
    (source : supply.Ready context.state) (turns : List Turn) :
    Settled supply machine (supply.rest context.state)
      ⟨.finished machine.collected.bytes, { machine with collected := .empty },
        context.after context.memory [], turns⟩ where
  ending := (outcome_of_complete complete _).symm
  rest := by
    have nothing : machine.remaining = 0 := Nat.sub_eq_zero_of_le complete
    rw [nothing, List.drop_zero, Context.state_after]
  source := source
  again := ⟨ready.armed, ready.room⟩
  collected := rfl
  target := rfl

/-- A machine that has lent a buffer out settles when it learns of the end. -/
theorem Waits.settled_of_end (supply : stream.Supply concurrency) {machine : ReadExact}
    {cell : Cell} {context : Context State} (waits : machine.Waits cell context.memory)
    (source : supply.Ready context.state) (exhausted : supply.rest context.state = [])
    (events : List Event) (turns : List Turn) :
    Settled supply machine []
      ⟨shortage machine.remaining machine.target machine.collected.bytes,
        { (machine.fed cell 0 context.memory).1 with collected := .empty },
        context.after (machine.fed cell 0 context.memory).2 events, turns⟩ where
  ending := (outcome_nil waits.incomplete).symm
  rest := by rw [Context.state_after, exhausted, List.drop_nil]
  source := source
  again := ⟨(waits.ready_fed 0).armed, (waits.ready_fed 0).room⟩
  collected := rfl
  target := rfl

theorem driveFrom_shortage
    {perform : Exchange -> Context State -> Except Fault Exchange × Context State}
    {machine after : ReadExact} {answer : Option Exchange} {context : Context State}
    {turns : List Turn} {memory : Memory} {events : List Event} (limit : Nat)
    (resumed : Resumable.resume machine answer context.memory =
      ⟨.reporting (.unexpectedEnd machine.remaining machine.target
          (.frozen machine.collected.bytes)), after, memory, events⟩) :
    driveFrom perform (limit + 1) machine answer context turns =
      ⟨shortage machine.remaining machine.target machine.collected.bytes, after,
        context.after memory events, turns.reverse⟩ := by
  rw [reporting_shortage] at resumed
  unfold shortage
  split
  · rename_i writable
    rw [if_pos writable] at resumed
    exact driveFrom_failed limit resumed
  · rename_i overlong
    rw [if_neg overlong] at resumed
    exact driveFrom_of_raised limit resumed

/-- A drive of a machine that has reached its target touches nothing. -/
theorem drive_of_complete (concurrency : Concurrency) (stream : Stream State)
    {machine : ReadExact} (complete : machine.Complete) {limit : Nat} (positive : 0 < limit)
    (context : Context State) :
    drive concurrency stream limit machine context =
      ⟨.finished machine.collected.bytes, { machine with collected := .empty },
        context.after context.memory [], []⟩ := by
  cases limit with
  | zero => exact absurd positive (Nat.lt_irrefl 0)
  | succ limit => exact driveFrom_finished limit (resume_of_complete complete context.memory)

/-- A machine that takes some of the content settles as the machine does that
has taken it. -/
theorem Settled.of_fed {supply : stream.Supply concurrency} {machine after : ReadExact}
    {content : Bytes} {count : Nat} {run : Run ReadExact Bytes State}
    (settled : Settled supply after (content.drop count) run)
    (target : after.target = machine.target)
    (bytes : after.collected.bytes = machine.collected.bytes ++ content.take count)
    (fits : count ≤ machine.remaining) (there : count ≤ content.length) :
    Settled supply machine content run where
  ending := by
    rw [remaining_eq_sub] at fits
    rw [settled.ending, target, bytes, outcome_append fits there]
  rest := by
    rw [settled.rest, List.drop_drop, remaining_of_taken target bytes fits there]
  source := settled.source
  again := settled.again
  collected := settled.collected
  target := settled.target.trans target

/-- A ready machine settles.  The limit leaves room for one request per
missing byte, or for one per byte there is and one for the end. -/
theorem Ready.settled (supply : stream.Supply concurrency) (limit : Nat) {machine : ReadExact}
    {context : Context State} (turns : List Turn) (ready : machine.Ready context.memory)
    (source : supply.Ready context.state)
    (enough : min machine.remaining ((supply.rest context.state).length + 1) < limit) :
    Settled supply machine (supply.rest context.state)
      (driveFrom (handle concurrency stream) limit machine none context turns) := by
  induction limit generalizing machine context turns with
  | zero => exact absurd enough (Nat.not_lt_zero _)
  | succ limit inductionHypothesis =>
    by_cases complete : machine.Complete
    · rw [driveFrom_finished limit (resume_of_complete complete context.memory)]
      exact settled_of_complete supply complete ready source turns.reverse
    · have missing : 0 < machine.remaining := Nat.sub_pos_of_lt (Nat.lt_of_not_le complete)
      rcases ready.exists_request complete with
        ⟨cell, waiting, memory, events, asked, waits, target, collected⟩
      have room : memory.contents cell ≠ [] :=
        List.length_pos_iff.mp (waits.length ▸ waits.room)
      have same : waiting.remaining = machine.remaining := by
        rw [remaining, remaining, target, collected]
      rcases supply.exists_driveFrom source asked waits.held room limit turns with
        ⟨count, reached, performed, driven⟩
      have waitsAfter := waits.of_length performed.held performed.length
      have fits : count ≤ machine.remaining :=
        same ▸ Nat.le_trans performed.count_le_length (waits.length ▸ waits.fits)
      have there : count ≤ (supply.rest context.state).length := performed.count_le_rest
      have rest : supply.rest reached.state = (supply.rest context.state).drop count :=
        performed.rest
      rw [driven]
      -- The answer needs another round, and the limit allows for it.
      cases limit with
      | zero => omega
      | succ limit =>
        by_cases ended : count = 0
        · subst ended
          rcases waitsAfter.receive_end with ⟨events', taken⟩
          have exhausted : supply.rest context.state = [] := performed.exhausted rfl
          rw [driveFrom_shortage limit taken, exhausted]
          have settled := waitsAfter.settled_of_end supply performed.ready
            (by rw [rest, exhausted, List.drop_nil]) events'
          have same : waiting.collected.bytes = machine.collected.bytes ++ List.take 0 [] := by
            rw [collected, List.take_zero, List.append_nil]
          exact (settled _).of_fed target same (Nat.zero_le _) (Nat.zero_le _)
        · rcases waitsAfter.receive_bytes (Nat.pos_of_ne_zero ended) with ⟨events', taken⟩
          have pieces : (waiting.fed cell count reached.memory).1.collected.bytes =
              machine.collected.bytes ++ (supply.rest context.state).take count := by
            rw [bytes_fed, collected]
            exact congrArg _ performed.start
          have left : (waiting.fed cell count reached.memory).1.remaining =
              machine.remaining - count := by
            rw [remaining_eq_sub, remaining_eq_sub, pieces, List.length_append, List.length_take,
              Nat.min_eq_left there]
            exact target ▸ Nat.sub_add_eq _ _ _
          rw [driveFrom_of_resume_eq limit _ taken]
          have settled := fun turns' => @inductionHypothesis _ (reached.after _ events') turns'
            (waitsAfter.ready_fed count) performed.ready (by
              rw [Context.state_after, rest, List.length_drop, left]
              omega)
          rw [Context.state_after, rest] at settled
          exact (settled _).of_fed target pieces fits there

/-! ## New machines -/

/-- Building a machine gives the one that `create` describes. -/
theorem make_gives (target : Nat) {capacity : Nat} (positive : 0 < capacity) (memory : Memory) :
    (make target capacity memory).Gives (min capacity target) memory.room fun machine after =>
      machine = (create target capacity memory).1 ∧ after = (create target capacity memory).2 := by
  have smaller : (min (capacity : Int) target) = (min capacity target : Nat) := by omega
  rw [make, if_neg (by omega), if_neg (by omega), smaller]
  refine ((Read.make_gives (min capacity target) memory).around _ _).imp ?_
  rintro _ _ ⟨_, rfl, rfl, rfl⟩
  exact ⟨rfl, rfl⟩

theorem refused_of_unaddressable (memory : Memory) :
    (make Memory.addressable Memory.addressable memory).result = .error .lengthNotAddressable := by
  have gives := make_gives Memory.addressable (show 0 < Memory.addressable by decide) memory
  rw [Nat.min_self] at gives
  exact gives.unaddressable

/-- A target with too many digits is no reason to refuse a machine. -/
theorem make_overlong :
    (make Text.leastOverlong (1 : Nat) .empty).result =
        .ok (create Text.leastOverlong 1 .empty).1 ∧
      (make Text.leastOverlong (1 : Nat) .empty).memory =
        (create Text.leastOverlong 1 .empty).2 := by
  have gives := make_gives Text.leastOverlong (show 0 < 1 by decide) .empty
  rw [Nat.min_eq_left (Nat.le_of_lt (Text.lt_leastOverlong (by decide)))] at gives
  rcases gives.exists_of_allowed rfl with ⟨_, built, rfl, same⟩
  exact ⟨built, same⟩

/-- A new machine with seeded bytes settles. -/
theorem settled_create (supply : stream.Supply concurrency) (target : Nat) {capacity : Nat}
    (positive : 0 < capacity) (seeds : List Bytes) (memory : Memory) (journal : Array Event)
    {state : State} (source : supply.Ready state) {limit : Nat}
    (enough : min (target - seeds.flatten.length) ((supply.rest state).length + 1) < limit) :
    let built := create target capacity memory
    let run := drive concurrency stream limit (seeds.foldl extend built.1)
      ⟨built.2, journal, state⟩
    Settled supply (seeds.foldl extend built.1) (supply.rest state) run ∧
      run.ending = outcome target seeds.flatten (supply.rest state) ∧
      supply.rest run.context.state =
        (supply.rest state).drop (target - seeds.flatten.length) := by
  intro built run
  have ready : (seeds.foldl extend built.1).Ready built.2 :=
    (ready_create target positive memory).seeded seeds
  have wanted : (seeds.foldl extend built.1).target = target := target_seeded built.1 seeds
  have known : (seeds.foldl extend built.1).collected.bytes = seeds.flatten :=
    Collecting.collected_seeded built.1 seeds
  have missing : (seeds.foldl extend built.1).remaining = target - seeds.flatten.length :=
    remaining_seeded rfl seeds
  have settled : Settled supply (seeds.foldl extend built.1) (supply.rest state) run :=
    @Ready.settled State stream concurrency supply limit _ ⟨built.2, journal, state⟩ [] ready
      source (by rw [missing]; exact enough)
  have ending := settled.ending
  have rest := settled.rest
  rw [wanted, known] at ending
  rw [missing] at rest
  exact ⟨settled, ending, rest⟩

/-- Driving a new machine with seeded bytes reads exactly its target.  Where
the seeds reach the target already, the stream is not touched.  Where seeds
and stream together reach it, the bytes past it stay in the stream.
Otherwise the machine reports how many bytes were missing, with all that came,
if the target has no more digits than can be written.
The result hangs neither on the capacity nor on the sizes of the pieces.  Only
a buffer that cannot be allocated stands in the way of a new machine. -/
theorem drive_takes_exactly_target (supply : stream.Supply concurrency) (target : Nat)
    {capacity : Nat} (positive : 0 < capacity) (seeds : List Bytes) (memory : Memory)
    (journal : Array Event) {state : State} (source : supply.Ready state) {limit : Nat}
    (enough : min (target - seeds.flatten.length) ((supply.rest state).length + 1) < limit) :
    let seed := seeds.flatten
    let content := supply.rest state
    (make target capacity memory).Gives (min capacity target) memory.room fun machine after =>
      let run := drive concurrency stream limit (seeds.foldl extend machine)
        ⟨after, journal, state⟩
      (target ≤ seed.length ->
        run.ending = .finished seed ∧ run.turns = [] ∧ run.context.state = state) ∧
      (seed.length < target -> target ≤ seed.length + content.length ->
        run.ending = .finished (seed ++ content.take (target - seed.length)) ∧
          supply.rest run.context.state = content.drop (target - seed.length)) ∧
      (seed.length + content.length < target ->
        supply.rest run.context.state = [] ∧
          (Text.Writable target ->
            run.ending = .failed (.unexpectedEnd (target - seed.length - content.length : Nat)
              target (.frozen (seed ++ content))))) := by
  intro seed content
  refine (make_gives target positive memory).imp ?_
  rintro _ _ ⟨rfl, rfl⟩ run
  rcases settled_create supply target positive seeds memory journal source enough with
    ⟨-, ending, rest⟩
  rw [outcome] at ending
  refine ⟨?_, ?_, ?_⟩
  · intro reached
    have known : (seeds.foldl extend (create target capacity memory).1).collected.bytes = seed :=
      Collecting.collected_seeded (create target capacity memory).1 seeds
    have complete : (seeds.foldl extend (create target capacity memory).1).Complete := by
      unfold Complete
      rw [← Collected.length_bytes, target_seeded, known]
      exact reached
    have positiveLimit : 0 < limit := Nat.zero_lt_of_lt enough
    have ended := drive_of_complete concurrency stream complete positiveLimit
      ⟨(create target capacity memory).2, journal, state⟩
    rw [known] at ended
    simp only [run, ended, Context.state_after, and_self]
  · intro _ there
    rw [if_pos there] at ending
    exact ⟨ending, rest⟩
  · intro short
    rw [if_neg (Nat.not_le.mpr short)] at ending
    refine ⟨rest.trans (List.drop_eq_nil_of_le (Nat.le_sub_of_add_le' (Nat.le_of_lt short))), ?_⟩
    exact fun writable => ending.trans (shortage_of_writable writable _ _)

/-- Four of six bytes complete a seed of one, from a stream that gives two
bytes, then one, then as many as it is asked for. -/
theorem drive_takes_exactly_target_of_six :
    let start : Scripted := ⟨[1, 2, 3, 4, 5, 6], [.upTo 2, .upTo 1], [], .empty, 0, 0⟩
    let supply := Scripted.supply .blocking .blocking ⟨true, false, false, false⟩ rfl
    let built := make 5 3 .empty
    ∃ machine, built.result = .ok machine ∧
      let run := drive .blocking (Scripted.stream .blocking ⟨true, false, false, false⟩) 5
        ([[9]].foldl extend machine) ⟨built.memory, #[], start⟩
      run.ending = .finished [9, 1, 2, 3, 4] ∧ supply.rest run.context.state = [5, 6] := by
  intro start supply built
  have steady : start.IsSteady := rfl
  have content : supply.rest start = [1, 2, 3, 4, 5, 6] := rfl
  -- What the script says must not be computed with from here on.
  clear_value start
  have reads := @drive_takes_exactly_target _ _ _ supply 5 3 (by decide) [[9]] .empty #[] start
    steady 5
  rw [content] at reads
  rcases (reads (by decide)).exists_of_allowed rfl with ⟨machine, made, -, taken, -⟩
  exact ⟨machine, made, taken (by decide) (by decide)⟩

/-- No machine is built for a buffer that cannot be addressed.  And a machine for
a target of one digit too many does not report that the stream has ended after
two bytes: the error cannot be built. -/
theorem not_taken_of_unaddressable_or_overlong :
    (make Memory.addressable Memory.addressable .empty).result = .error .lengthNotAddressable ∧
      let built := make Text.leastOverlong (1 : Nat) .empty
      ∃ machine, built.result = .ok machine ∧
        (drive .blocking MemoryFile.stream 4 machine
          ⟨built.memory, #[], MemoryFile.ofBytes [1, 2]⟩).ending = .raised .overlongInteger := by
  constructor
  · exact refused_of_unaddressable .empty
  · rcases make_overlong with ⟨built, same⟩
    have short : 2 < Text.leastOverlong := Text.lt_leastOverlong (by decide)
    rcases @settled_create _ _ _ (MemoryFile.supply .blocking) Text.leastOverlong 1 (by decide) []
      .empty #[] (.ofBytes [1, 2]) rfl 4 (Nat.lt_of_le_of_lt (Nat.min_le_right _ _) (by decide))
      with ⟨-, ending, -⟩
    refine ⟨_, built, ?_⟩
    rw [same]
    exact ending.trans (@outcome_of_overlong _ Text.not_writable_leastOverlong [] [1, 2] short)

end ReadExact

end ResumableStreams
