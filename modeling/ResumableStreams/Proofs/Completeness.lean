import ResumableStreams.Proofs.Lending
import ResumableStreams.Proofs.Session
import ResumableStreams.Proofs.Supply

namespace ResumableStreams

/-!
# Reading to the end loses nothing

A `ReadToEnd` takes every byte that it is given, in whatever state it is, and
hands all of them over when it learns of the end.  So in any session, its
results and what it has collected are together what it was given.

On a stream that gives what it holds, a drive therefore ends with everything
there was.  The machine may then be driven again, and finds nothing.
-/

namespace ReadToEnd

/-! ## The answers that a call may bring -/

theorem resume_none (machine : ReadToEnd) (memory : Memory) :
    Resumable.resume machine none memory = machine.request memory := rfl

/-- The machine waits for reads only. -/
theorem resume_write (machine : ReadToEnd) (payload : Payload) (memory : Memory) :
    Resumable.resume machine (some ⟨.write, payload⟩) memory =
      ⟨.failed (.wrap .readToEnd (.invalidArgument "read output" ⟨.write, payload⟩
          (Exchange.describe ⟨.write, payload⟩ memory))), machine, memory, [.readResumed]⟩ := rfl

theorem resume_request (machine : ReadToEnd) (buffer : Buffer) (memory : Memory) :
    Resumable.resume machine (some ⟨.read, .request buffer⟩) memory =
      ⟨.needs ⟨.read, .request buffer⟩, machine, memory, [.readResumed]⟩ := rfl

/-- The end of the stream hands over everything collected, and the buffer is
taken back. -/
theorem resume_end (machine : ReadToEnd) (buffer : Buffer) (memory : Memory) :
    Resumable.resume machine (some ⟨.read, .response ⟨buffer, 0⟩⟩) memory =
      ⟨.finished machine.collected.bytes, ⟨(machine.read.replace buffer memory).1, .empty⟩,
        (machine.read.replace buffer memory).2, [.readResumed]⟩ := rfl

/-- Bytes are taken, and the machine goes on as if asked for more. -/
theorem resume_bytes (machine : ReadToEnd) {output : Output} (some_moved : output.count ≠ 0)
    (memory : Memory) :
    Resumable.resume machine (some ⟨.read, .response output⟩) memory =
      (Resumable.resume (machine.absorb output memory).1 none
        (machine.absorb output memory).2).after
        [.readResumed, .readCompleted output.count (output.buffer.size memory)] := by
  show machine.receive ⟨.read, .response output⟩ memory = _
  simp only [receive, Read.receive, if_neg some_moved]
  rfl

theorem balance_none (machine : ReadToEnd) (memory : Memory) :
    (Resumable.resume machine none memory).progress.value ++
        (Resumable.resume machine none memory).machine.collected.bytes =
      machine.collected.bytes := rfl

/-- One call of the machine hands over or keeps exactly the bytes it had and
the bytes it is given. -/
theorem balance_resume (machine : ReadToEnd) (answer : Option Exchange) (memory : Memory) :
    (Resumable.resume machine answer memory).progress.value ++
        (Resumable.resume machine answer memory).machine.collected.bytes =
      machine.collected.bytes ++ (Call.resume answer).supplied memory := by
  cases answer with
  | none => exact (balance_none machine memory).trans (List.append_nil _).symm
  | some exchange =>
    rcases exchange with ⟨direction, payload⟩
    cases direction with
    | write =>
      rw [resume_write]
      exact (List.append_nil _).symm
    | read =>
      cases payload with
      | request buffer =>
        rw [resume_request]
        exact (List.append_nil _).symm
      | response output =>
        by_cases nothing : output.count = 0
        · rcases output with ⟨buffer, count⟩
          cases nothing
          rw [resume_end]
          rfl
        · rw [resume_bytes machine nothing]
          have kept := balance_none (machine.absorb output memory).1
            (machine.absorb output memory).2
          exact kept.trans (machine.bytes_absorb output memory)

/-- The machine has a result exactly when it learns of the end. -/
theorem finished_iff (machine : ReadToEnd) (answer : Option Exchange) (memory : Memory) :
    (∃ value, (Resumable.resume machine answer memory).progress = .finished value) ↔
      ∃ buffer, answer = some ⟨.read, .response ⟨buffer, 0⟩⟩ := by
  constructor
  · rintro ⟨value, finished⟩
    cases answer with
    | none => cases finished
    | some exchange =>
      rcases exchange with ⟨direction, payload⟩
      cases direction with
      | write => cases finished
      | read =>
        cases payload with
        | request buffer => cases finished
        | response output =>
          by_cases nothing : output.count = 0
          · rcases output with ⟨buffer, count⟩
            cases nothing
            exact ⟨buffer, rfl⟩
          · rw [resume_bytes machine nothing] at finished
            cases finished
  · rintro ⟨buffer, rfl⟩
    exact ⟨machine.collected.bytes, rfl⟩

/-- Every call hands over or keeps exactly what it finds and what it brings. -/
theorem balance_entry (entry : Entry ReadToEnd) :
    entry.value ++ entry.after.collected = entry.before.collected ++ entry.supplied := by
  rcases entry with ⟨⟨machine, memory, outstanding⟩, call⟩
  cases call with
  | extend bytes => exact Collecting.collected_extend machine bytes
  | resume answer => exact balance_resume machine answer memory
  | elsewhere memory => exact (List.append_nil _).symm

theorem finished_entry_iff (entry : Entry ReadToEnd) :
    (∃ value, entry.progress = some (.finished value)) ↔
      ∃ buffer, entry.call = .resume (some ⟨.read, .response ⟨buffer, 0⟩⟩) := by
  rcases entry with ⟨⟨machine, memory, outstanding⟩, call⟩
  cases call with
  | extend bytes => simp only [Entry.progress, reduceCtorEq, exists_false]
  | elsewhere memory => simp only [Entry.progress, reduceCtorEq, exists_false]
  | resume answer =>
    simp only [Entry.progress, Option.some.injEq, Call.resume.injEq]
    exact finished_iff machine answer memory

/-! ## A whole drive -/

/-- The machine has its buffer in order, and the buffer can hold something. -/
structure Ready (machine : ReadToEnd) (memory : Memory) : Prop where
  armed : machine.read.Armed memory
  room : 0 < machine.read.capacity

theorem ready_create {capacity : Nat} (positive : 0 < capacity) (memory : Memory) :
    (create capacity memory).1.Ready (create capacity memory).2 where
  armed := Read.armed_create capacity memory
  room := positive

theorem Ready.seeded {machine : ReadToEnd} {memory : Memory} (ready : machine.Ready memory)
    (seeds : List Bytes) : (seeds.foldl extend machine).Ready memory :=
  @Collecting.seeded_of_extend ReadToEnd _ (Ready · memory)
    (fun _ _ ready' => ⟨ready'.armed, ready'.room⟩) machine ready seeds

/-- A machine with its buffer in order lends out zeros, and waits without a
buffer. -/
theorem exists_lent {machine : ReadToEnd} {memory : Memory} (armed : machine.read.Armed memory) :
    ∃ cell after,
      Resumable.resume machine none memory =
        ⟨.needs ⟨.read, .request (.shared cell)⟩,
          { machine with read := ⟨machine.read.capacity, none⟩ }, after, [.readRequested]⟩ ∧
      after.Holds cell ∧ after.contents cell = Bytes.zeros machine.read.capacity := by
  rcases armed.exists_request with ⟨cell, after, asked, held, zeros⟩
  refine ⟨cell, after, ?_, held, zeros⟩
  rw [resume_none, request]
  simp only [asked]

/-- The machine has lent the buffer `cell` out, which has room for something. -/
structure Waits (machine : ReadToEnd) (cell : Cell) (memory : Memory) : Prop where
  lent : machine.read.slot = none
  capacity : 0 < machine.read.capacity
  held : memory.Holds cell
  room : memory.contents cell ≠ []

/-- Nothing about a request under way hangs on what its buffer holds. -/
theorem Waits.of_length {machine : ReadToEnd} {cell : Cell} {before after : Memory}
    (waits : machine.Waits cell before) (held : after.Holds cell)
    (length : (after.contents cell).length = (before.contents cell).length) :
    machine.Waits cell after :=
  { waits with
    held := held
    room := List.length_pos_iff.mp (length ▸ List.length_pos_iff.mpr waits.room) }

theorem Ready.exists_waits {machine : ReadToEnd} {memory : Memory} (ready : machine.Ready memory) :
    ∃ cell waiting after,
      Resumable.resume machine none memory =
        ⟨.needs ⟨.read, .request (.shared cell)⟩, waiting, after, [.readRequested]⟩ ∧
      waiting.Waits cell after ∧ waiting.collected = machine.collected := by
  rcases exists_lent ready.armed with ⟨cell, after, asked, held, zeros⟩
  refine ⟨cell, _, after, asked, ⟨rfl, ready.room, held, ?_⟩, rfl⟩
  rw [zeros]
  exact Bytes.zeros_ne_nil ready.room

/-- A ready machine asks for bytes, with room for some, and keeps what it
has. -/
theorem Ready.exists_request {machine : ReadToEnd} {memory : Memory}
    (ready : machine.Ready memory) :
    ∃ cell waiting after,
      Resumable.resume machine none memory =
        ⟨.needs ⟨.read, .request (.shared cell)⟩, waiting, after, [.readRequested]⟩ ∧
      after.Holds cell ∧ after.contents cell ≠ [] ∧ waiting.collected = machine.collected := by
  rcases ready.exists_waits with ⟨cell, waiting, after, asked, waits, collected⟩
  exact ⟨cell, waiting, after, asked, waits.held, waits.room, collected⟩

/-- A machine that takes a buffer with room back is ready. -/
theorem ready_of_replace (machine : ReadToEnd) (collected : Collected) {cell : Cell}
    {memory : Memory} (held : memory.Holds cell) (room : memory.contents cell ≠ []) :
    Ready ⟨(machine.read.replace (.shared cell) memory).1, collected⟩
      (machine.read.replace (.shared cell) memory).2 where
  armed := Read.armed_replace machine.read (by rintro _ ⟨⟩; exact held)
  room := by
    rw [Read.capacity_replace]
    exact List.length_pos_iff.mpr room

variable {State : Type} {stream : Stream State} {concurrency : Concurrency}

/-- The drive of a machine has come to the right end: with everything that was
collected and everything that was there, and with a machine that may be driven
again. -/
structure Drained (supply : stream.Supply concurrency) (everything : Bytes)
    (run : Run ReadToEnd Bytes State) : Prop where
  ending : run.ending = .finished everything
  rest : supply.rest run.context.state = []
  source : supply.Ready run.context.state
  again : run.machine.Ready run.context.memory
  collected : run.machine.collected = .empty

/-- A ready machine drains the stream.  The limit leaves room for one request
per byte and one for the end. -/
theorem Ready.drained (supply : stream.Supply concurrency) (limit : Nat) {machine : ReadToEnd}
    {context : Context State} (turns : List Turn) (ready : machine.Ready context.memory)
    (source : supply.Ready context.state)
    (enough : (supply.rest context.state).length + 1 < limit) :
    Drained supply (machine.collected.bytes ++ supply.rest context.state)
      (driveFrom (handle concurrency stream) limit machine none context turns) := by
  induction limit generalizing machine context turns with
  | zero => exact absurd enough (Nat.not_lt_zero _)
  | succ limit inductionHypothesis =>
    rcases ready.exists_request with ⟨cell, waiting, memory, asked, held, room, collected⟩
    rcases supply.exists_driveFrom source asked held room limit turns with
      ⟨count, reached, performed, driven⟩
    have rest : supply.rest reached.state = (supply.rest context.state).drop count :=
      performed.rest
    have there : count ≤ (supply.rest context.state).length := performed.count_le_rest
    have roomAfter : reached.memory.contents cell ≠ [] := by
      have positive := List.length_pos_iff.mpr room
      exact List.length_pos_iff.mp (performed.length ▸ positive)
    rw [driven]
    cases limit with
    | zero => omega
    | succ limit =>
      by_cases ended : count = 0
      · subst ended
        have exhausted : supply.rest context.state = [] := performed.exhausted rfl
        rw [driveFrom_finished limit (resume_end waiting (.shared cell) reached.memory), exhausted,
          List.append_nil, collected]
        exact
          { ending := rfl
            rest := by rw [Context.state_after, rest, exhausted, List.drop_nil]
            source := performed.ready
            again := waiting.ready_of_replace .empty performed.held roomAfter
            collected := rfl }
      · have bytes : (waiting.absorb ⟨.shared cell, count⟩ reached.memory).1.collected.bytes =
            machine.collected.bytes ++ (supply.rest context.state).take count := by
          rw [bytes_absorb, collected]
          exact congrArg _ performed.start
        have readyAfter := waiting.ready_of_replace
          (waiting.absorb ⟨.shared cell, count⟩ reached.memory).1.collected performed.held roomAfter
        rw [driveFrom_of_resume_eq limit _
          (waiting.resume_bytes (show (Output.mk (.shared cell) count).count ≠ 0 from ended)
            reached.memory)]
        have drained := fun turns' events => @inductionHypothesis _
          (reached.after (waiting.absorb ⟨.shared cell, count⟩ reached.memory).2 events) turns'
          readyAfter performed.ready (by
            rw [Context.state_after, rest, List.length_drop]
            omega)
        have everything : machine.collected.bytes ++ supply.rest context.state =
            machine.collected.bytes ++ (supply.rest context.state).take count ++
              (supply.rest context.state).drop count := by
          rw [List.append_assoc, List.take_append_drop]
        rw [everything, ← rest, ← bytes]
        exact drained _ _

/-! ## All sessions and all drives -/

/-- Building a machine gives the one that `create` describes. -/
theorem make_gives {capacity : Nat} (positive : 0 < capacity) (memory : Memory) :
    (make capacity memory).Gives capacity memory.room fun machine after =>
      machine = (create capacity memory).1 ∧ after = (create capacity memory).2 := by
  rw [make, if_neg (by omega)]
  refine ((Read.make_gives capacity memory).around _ _).imp ?_
  rintro _ _ ⟨_, rfl, rfl, rfl⟩
  exact ⟨rfl, rfl⟩

/-- In any session, the results and what is collected are together what was
collected before, what was seeded, and what the responses held when they were
passed.  The calls with a result are those that pass the end of the stream.

So a drive of a new machine ends with the seeds and the whole content of the
stream, whatever its capacity and the sizes of the pieces, and another drive
ends with nothing.  Only a buffer that cannot be allocated stands in the way of
a new machine. -/
theorem conserves_bytes :
    (∀ (session : Session ReadToEnd) (calls : List Call),
      (session.entries calls).flatMap Entry.value ++ (session.afterAll calls).collected =
          session.collected ++ (session.entries calls).flatMap Entry.supplied ∧
        ∀ entry ∈ session.entries calls,
          (∃ value, entry.progress = some (.finished value)) ↔
            ∃ buffer, entry.call = .resume (some ⟨.read, .response ⟨buffer, 0⟩⟩)) ∧
    ∀ {State : Type} {stream : Stream State} {concurrency : Concurrency}
      (supply : stream.Supply concurrency) (capacity : Nat) (seeds : List Bytes) (memory : Memory)
      (journal : Array Event) (state : State) (limit : Nat),
      0 < capacity -> supply.Ready state -> (supply.rest state).length + 1 < limit ->
      (make capacity memory).Gives capacity memory.room fun machine after =>
        let run := drive concurrency stream limit (seeds.foldl extend machine)
          ⟨after, journal, state⟩
        run.ending = .finished (seeds.flatten ++ supply.rest state) ∧
        supply.rest run.context.state = [] ∧
        ∀ limit', 1 < limit' ->
          (drive concurrency stream limit' run.machine run.context).ending = .finished [] := by
  constructor
  · intro session calls
    exact ⟨Session.balance balance_entry session calls, fun entry _ => finished_entry_iff entry⟩
  · intro State stream concurrency supply capacity seeds memory journal state limit positive source
      enough
    refine (make_gives positive memory).imp ?_
    rintro _ _ ⟨rfl, rfl⟩ run
    have ready : (seeds.foldl extend (create capacity memory).1).Ready (create capacity memory).2 :=
      (ready_create positive memory).seeded seeds
    have known : (seeds.foldl extend (create capacity memory).1).collected.bytes = seeds.flatten :=
      Collecting.collected_seeded (create capacity memory).1 seeds
    have drained : Drained supply (seeds.flatten ++ supply.rest state) run :=
      known ▸ @Ready.drained State stream concurrency supply limit _
        ⟨(create capacity memory).2, journal, state⟩ [] ready source enough
    refine ⟨drained.ending, drained.rest, ?_⟩
    intro limit' enough'
    have nothing : (supply.rest run.context.state).length + 1 < limit' := by
      rw [drained.rest]
      exact enough'
    have again := (drained.again.drained supply limit' [] drained.source nothing).ending
    rw [drained.collected, drained.rest] at again
    exact again

/-- A file of three bytes is read into a buffer of two, after a seeded byte. -/
theorem conserves_bytes_of_three :
    let built := make 2 .empty
    ∃ machine, built.result = .ok machine ∧
      let run := drive .blocking MemoryFile.stream 5 ([[9]].foldl extend machine)
        ⟨built.memory, #[], MemoryFile.ofBytes [1, 2, 3]⟩
      run.ending = .finished [9, 1, 2, 3] ∧
        (drive .blocking MemoryFile.stream 2 run.machine run.context).ending = .finished [] := by
  have reads := conserves_bytes.2 (MemoryFile.supply .blocking) 2 [[9]] .empty #[]
    (MemoryFile.ofBytes [1, 2, 3]) 5 (by decide) rfl (by decide)
  rcases reads.exists_of_allowed rfl with ⟨machine, built, ended, -, again⟩
  exact ⟨machine, built, ended, again 2 (by decide)⟩

/-- No machine is built whose buffer cannot be addressed, so that nothing of a
stream is read. -/
theorem not_read_of_unaddressable :
    (make Memory.addressable .empty).result = .error .lengthNotAddressable :=
  (make_gives (show 0 < Memory.addressable by decide) .empty).unaddressable

end ReadToEnd

end ResumableStreams
