import ResumableStreams.Proofs.Completeness
import ResumableStreams.Proofs.Exactness
import ResumableStreams.Proofs.Possession
import ResumableStreams.Proofs.Separation

namespace ResumableStreams

/-!
# Reading a source turn by turn

A runtime that reads a source gives turns to a `Reader`.  In each turn the
reader is resumed, and what it asks for is performed.  Between two turns there
may be any number of turns of other readers.

The invariant is that what has been gathered, what the answer under way has
brought, and what the source still offers are together the whole offering.
From this follows what the reading comes to, and after how many turns at most.
-/

namespace Reader

/-! ## Cells -/

def cells : Reader -> List Cell
  | .exact machine => Confining.cells machine
  | .toEnd machine => Confining.cells machine

instance : Confining Reader where
  cells := cells
  released _ := []
  direction _ := .read
  direction_resume _ _ _ := rfl
  confined := by
    intro reader answer memory held fits
    cases reader with
    | exact machine =>
      exact (Confining.confined machine answer memory held fits).map (fun _ => rfl) fun _ => rfl
    | toEnd machine =>
      exact (Confining.confined machine answer memory held fits).map (fun _ => rfl) fun _ => rfl

/-! ## Before a request and while it is under way -/

/-- How many bytes the reader is to gather, if not all. -/
def size : Reader -> Option Nat
  | .exact machine => some machine.target
  | .toEnd _ => none

def gathered : Reader -> Bytes
  | .exact machine => machine.collected.bytes
  | .toEnd machine => machine.collected.bytes

/-- The reader has its buffer in order. -/
inductive Ready (memory : Memory) : Reader -> Prop where
  | exact {machine : ReadExact} : machine.Ready memory ->
      machine.collected.bytes.length ≤ machine.target -> Ready memory (.exact machine)
  | toEnd {machine : ReadToEnd} : machine.Ready memory -> Ready memory (.toEnd machine)

/-- The reader has lent a buffer out, which has room for something, but for no
more than what is missing. -/
inductive Waits (memory : Memory) (cell : Cell) : Reader -> Prop where
  | exact {machine : ReadExact} : machine.Waits cell memory -> Waits memory cell (.exact machine)
  | toEnd {machine : ReadToEnd} : memory.Holds cell -> memory.contents cell ≠ [] ->
      Waits memory cell (.toEnd machine)

variable {reader : Reader} {memory : Memory} {cell : Cell}

theorem Waits.holds (waits : reader.Waits memory cell) : memory.Holds cell := by
  cases waits with
  | exact waits => exact waits.held
  | toEnd held _ => exact held

theorem Waits.room (waits : reader.Waits memory cell) : memory.contents cell ≠ [] := by
  cases waits with
  | exact waits => exact List.length_pos_iff.mp (waits.length ▸ waits.room)
  | toEnd _ room => exact room

/-- Nothing about a request under way hangs on what its buffer holds. -/
theorem Waits.of_length (waits : reader.Waits memory cell) {after : Memory}
    (held : after.Holds cell)
    (length : (after.contents cell).length = (memory.contents cell).length) :
    reader.Waits after cell := by
  cases waits with
  | exact waits => exact .exact (waits.of_length held length)
  | toEnd _ room =>
    exact .toEnd held (List.length_pos_iff.mp (length ▸ List.length_pos_iff.mpr room))

/-- What resuming a reader comes to that has gathered so much, and may have
been told that there is no more. -/
inductive Steps (size : Option Nat) (gathered : Bytes) (ended : Bool) :
    Step Reader Bytes -> Prop where
  | finished {after : Reader} {memory : Memory} {events : List Event} :
      (size = none ∧ ended = true ∨ size = some gathered.length) ->
      Steps size gathered ended ⟨.finished gathered, after, memory, events⟩
  | short {target : Nat} {after : Reader} {memory : Memory} {events : List Event} :
      size = some target -> gathered.length < target -> ended = true ->
      Steps size gathered ended
        ⟨.reporting (.unexpectedEnd (target - gathered.length : Nat) target (.frozen gathered)),
          after, memory, events⟩
  | asks {waiting : Reader} {cell : Cell} {memory : Memory} {events : List Event} :
      ended = false -> (∀ target, size = some target -> gathered.length < target) ->
      waiting.Waits memory cell -> waiting.gathered = gathered -> waiting.size = size ->
      Steps size gathered ended
        ⟨.needs ⟨.read, .request (.shared cell)⟩, waiting, memory, events⟩

theorem Steps.after {size : Option Nat} {gathered : Bytes} {ended : Bool}
    {step : Step Reader Bytes} (steps : Steps size gathered ended step) (events : List Event) :
    Steps size gathered ended (step.after events) := by
  cases steps with
  | finished done => exact .finished done
  | short wanted missing ended => exact .short wanted missing ended
  | asks going missing waits gathered size => exact .asks going missing waits gathered size

/-- A reader that has its buffer in order asks for more, unless it has all it
is to gather. -/
theorem Ready.steps (ready : reader.Ready memory) :
    Steps reader.size reader.gathered false (Resumable.resume reader none memory) := by
  cases ready with
  | @exact machine ready within =>
    show Steps (some machine.target) machine.collected.bytes false
      ((Resumable.resume machine none memory).map .exact id)
    by_cases complete : machine.Complete
    · have reached : machine.target ≤ machine.collected.bytes.length := by
        rw [Collected.length_bytes]
        exact complete
      rw [ReadExact.resume_of_complete complete]
      exact .finished (.inr (congrArg some (Nat.le_antisymm reached within)))
    · rcases ready.exists_request complete with
        ⟨cell, waiting, after, events, asked, waits, target, collected⟩
      rw [asked]
      refine .asks rfl ?_ (.exact waits) (congrArg Collected.bytes collected) (congrArg some target)
      rintro _ ⟨⟩
      rw [Collected.length_bytes]
      exact Nat.lt_of_not_le complete
  | @toEnd machine ready =>
    show Steps none machine.collected.bytes false
      ((Resumable.resume machine none memory).map .toEnd id)
    rcases ready.exists_request with ⟨cell, waiting, after, asked, held, room, collected⟩
    rw [asked]
    exact .asks rfl nofun (.toEnd held room) (congrArg Collected.bytes collected) rfl

/-- A reader takes what an answer has brought, and learns of the end from an
answer that has brought nothing. -/
theorem Waits.steps (waits : reader.Waits memory cell) {count : Nat}
    (fits : count ≤ (memory.contents cell).length) :
    Steps reader.size (reader.gathered ++ (memory.contents cell).take count) (count = 0)
      (Resumable.resume reader (some ⟨.read, .response ⟨.shared cell, count⟩⟩) memory) := by
  by_cases nothing : count = 0
  · subst nothing
    rw [List.take_zero, List.append_nil]
    cases waits with
    | @exact machine waits =>
      show Steps (some machine.target) machine.collected.bytes true
        ((Resumable.resume machine _ memory).map .exact id)
      rcases waits.receive_end with ⟨events, taken⟩
      have incomplete : machine.collected.bytes.length < machine.target := by
        rw [Collected.length_bytes]
        exact Nat.lt_of_not_le waits.incomplete
      rw [taken, machine.remaining_eq_sub, Step.map, Progress.map_reporting]
      exact .short rfl incomplete rfl
    | @toEnd machine held room =>
      show Steps none machine.collected.bytes true
        ((Resumable.resume machine _ memory).map .toEnd id)
      rw [machine.resume_end]
      exact .finished (.inl ⟨rfl, rfl⟩)
  · rw [decide_eq_false nothing]
    cases waits with
    | @exact machine waits =>
      let fed := machine.fed cell count memory
      have gathered : fed.1.collected.bytes =
          machine.collected.bytes ++ (memory.contents cell).take count :=
        machine.bytes_fed cell count memory
      have within : fed.1.collected.bytes.length ≤ machine.target := by
        have missing := machine.remaining_eq_sub
        have most := waits.fits
        have length := waits.length
        have some_missing : 0 < machine.read.capacity := waits.room
        rw [gathered, List.length_append, List.length_take]
        omega
      have ready : Ready fed.2 (.exact fed.1) := .exact (waits.ready_fed count) within
      rcases waits.receive_bytes (Nat.pos_of_ne_zero nothing) with ⟨events, taken⟩
      show Steps (some machine.target) (machine.collected.bytes ++ _) false
        ((Resumable.resume machine _ memory).map .exact id)
      rw [taken, ← gathered]
      exact ready.steps.after events
    | @toEnd machine held room =>
      let fed := machine.absorb ⟨.shared cell, count⟩ memory
      have gathered : fed.1.collected.bytes =
          machine.collected.bytes ++ (memory.contents cell).take count :=
        machine.bytes_absorb ⟨.shared cell, count⟩ memory
      have ready : Ready fed.2 (.toEnd fed.1) := .toEnd (machine.ready_of_replace _ held room)
      show Steps none (machine.collected.bytes ++ _) false
        ((Resumable.resume machine _ memory).map .toEnd id)
      rw [machine.resume_bytes nothing, ← gathered]
      exact ready.steps.after _

/-- A reader between two turns, with an answer that it has yet to take: what it
has gathered together with the answer, and whether the answer tells of the
end. -/
inductive Between (memory : Memory) :
    Reader -> Option Exchange -> (gathered : Bytes) -> (ended : Bool) -> Prop where
  | ready {reader : Reader} : reader.Ready memory ->
      Between memory reader none reader.gathered false
  | answered {reader : Reader} {cell : Cell} {count : Nat} : reader.Waits memory cell ->
      count ≤ (memory.contents cell).length ->
      Between memory reader (some ⟨.read, .response ⟨.shared cell, count⟩⟩)
        (reader.gathered ++ (memory.contents cell).take count) (count = 0)

variable {answer : Option Exchange} {gathered : Bytes} {ended : Bool}

theorem Between.steps (between : Between memory reader answer gathered ended) :
    Steps reader.size gathered ended (Resumable.resume reader answer memory) := by
  cases between with
  | ready ready => exact ready.steps
  | answered waits fits => exact waits.steps fits

/-- A reader notices nothing but what its own cells hold. -/
theorem Between.retained (between : Between memory reader answer gathered ended) {other : Memory}
    (same : ∀ cell ∈ reader.cells ++ answerCells answer,
      other.Holds cell ∧ other.contents cell = memory.contents cell) :
    Between other reader answer gathered ended := by
  have armed {read : Read} (armed : read.Armed memory)
      (own : ∀ cell ∈ read.cells, other.Holds cell ∧ other.contents cell = memory.contents cell) :
      read.Armed other := by
    intro cell inHand
    rcases own cell (Option.mem_toList.mpr inHand) with ⟨held, kept⟩
    exact ⟨held, kept.trans (armed cell inHand).2⟩
  cases between with
  | ready ready =>
    have own := fun cell member => same cell (List.mem_append_left _ member)
    cases ready with
    | exact ready within => exact .ready (.exact ⟨armed ready.armed own, ready.room⟩ within)
    | toEnd ready => exact .ready (.toEnd ⟨armed ready.armed own, ready.room⟩)
  | @answered cell count waits fits =>
    rcases same cell (List.mem_append_right _ List.mem_cons_self) with ⟨held, kept⟩
    rw [← kept] at fits ⊢
    exact .answered (waits.of_length held (congrArg List.length kept)) fits

/-! ## New readers -/

/-- The length of the buffer through which a source is read. -/
def bufferLength (size : Option Nat) (capacity : Nat) : Nat :=
  match size with
  | none => capacity
  | some size => min capacity size

/-- A reader is refused if its buffer cannot be allocated.  Any other is ready, and
has nothing. -/
theorem make_gives (size : Option Nat) {capacity : Nat} (positive : 0 < capacity)
    (memory : Memory) :
    (make (size.map Nat.cast) capacity memory).Gives (bufferLength size capacity) memory.room
      fun reader after => reader.Ready after ∧ reader.gathered = [] ∧ reader.size = size := by
  cases size with
  | none =>
    refine ((ReadToEnd.make_gives positive memory).around Reader.toEnd _).imp ?_
    rintro _ _ ⟨_, rfl, rfl, rfl⟩
    exact ⟨.toEnd (ReadToEnd.ready_create positive memory), rfl, rfl⟩
  | some size =>
    refine ((ReadExact.make_gives size positive memory).around Reader.exact _).imp ?_
    rintro _ _ ⟨_, rfl, rfl, rfl⟩
    exact ⟨.exact (ReadExact.ready_create size positive memory) (Nat.zero_le _), rfl, rfl⟩

/-- Building a reader touches no buffer that exists. -/
theorem moves_make (size : Option Int) (capacity : Int) (memory : Memory) :
    memory.Moves .read [] (make size capacity memory).memory
      ((make size capacity memory).cells cells) := by
  have moves : memory.Moves .write [] (make size capacity memory).memory
      ((make size capacity memory).cells cells) := by
    cases size with
    | none => exact (ReadToEnd.moves_make capacity memory).map Reader.toEnd fun _ => rfl
    | some size => exact (ReadExact.moves_make size capacity memory).map Reader.exact fun _ => rfl
  exact { moves with contents := fun held _ => moves.contents held nofun }

end Reader

/-! ## Performing a request -/

/-- What performing a request comes to, with the bytes that the buffer held
before. -/
inductive Offering.Performs (offering : Offering) (cell : Cell) (before : Bytes) (memory : Memory) :
    Except Fault Exchange -> (failed : Bool) -> Offering -> Prop where
  | bytes {data rest : Bytes} : offering.content = data ++ rest -> data.length ≤ before.length ->
      (data = [] -> rest = [] ∧ offering.failure = none) ->
      memory.contents cell = Bytes.overStart data before ->
      Performs offering cell before memory
        (.ok ⟨.read, .response ⟨.shared cell, data.length⟩⟩) false
        ⟨rest, offering.failure⟩
  | failed {fault : Fault} {later : Offering} : offering.content = [] ->
      offering.failure = some fault ->
      Performs offering cell before memory (.error fault) true later

/-- Performing a request fills its buffer. -/
theorem Offering.Fills.performs {State : Type} {stream : Stream State} {concurrency : Concurrency}
    {context : Context State} {cell : Cell} {offering later : Offering} {failed : Bool}
    (held : context.memory.Holds cell) :
    let filled := stream.fill concurrency ⟨context.memory.contents cell, true⟩ context.state
    let performed := handle concurrency stream ⟨.read, .request (.shared cell)⟩ context
    offering.Fills (context.memory.contents cell) filled.1 failed later ->
    performed.2.state = filled.2 ∧
      offering.Performs cell (context.memory.contents cell) performed.2.memory performed.1 failed
        later := by
  intro filled performed fills
  refine ⟨rfl, ?_⟩
  cases read : filled with
  | mk filling state =>
    have stored : performed.2.memory.contents cell = filling.contents := by
      have same : performed.2.memory = context.memory.store cell filled.1.contents := rfl
      rw [same, read]
      exact Memory.contents_store_self held _
    have answered : performed.1 = Exchange.answer ⟨.read, .request (.shared cell)⟩ (.shared cell)
        filling.reply performed.2.memory := by
      have same : performed.1 = Exchange.answer ⟨.read, .request (.shared cell)⟩ (.shared cell)
        filled.1.reply performed.2.memory := rfl
      rw [same, read]
    rw [read] at fills
    rw [answered]
    cases fills with
    | @bytes data rest events pieces fits ends =>
      have within : data.length ≤ (Buffer.shared cell).size performed.2.memory := by
        rw [Buffer.size, Buffer.bytes_shared, stored, Bytes.length_overStart_of_le fits]
        exact fits
      have moved := Exchange.answer_moved ⟨.read, .request (.shared cell)⟩ within
      rw [moved]
      exact .bytes pieces fits ends stored
    | failed nothing fails => exact .failed nothing fails

/-! ## A reading under way -/

/-- A source is being read, and so many turns are enough to come to the result. -/
structure Reading (answerOf : String -> Answer) (handle : Handle) (make : Host.Make)
    (total : Offering) (context : Context Host) (reader : Reader) (answer : Option Exchange)
    (asks : Bool) (uses : List Host.Asset) (turns : Nat) : Prop where
  held : ∀ cell ∈ reader.cells ++ answerCells answer, context.memory.Holds cell
  goes : ∀ exchange, answer = some exchange -> exchange.direction = .read ∧ reader.cells = []
  going : ∃ gathered ended rest, reader.Between context.memory answer gathered ended ∧
    context.state.Offers answerOf handle make asks uses ⟨rest, total.failure⟩ ∧
    total.content = gathered ++ rest ∧
    (ended = true -> rest = [] ∧ total.failure = none ∧ 0 < turns) ∧
    (ended = false -> rest.length + 1 < turns)

/-- What a turn of a reader comes to. -/
inductive Turned where
  | concluded (result : Except Fault Bytes)
  /-- The reader has been answered and waits for another turn. -/
  | suspended (reader : Reader) (answer : Exchange)

/-- Resume a reader, and perform what it asks for. -/
def Reader.takeTurn {State : Type} (concurrency : Concurrency) (stream : Stream State)
    (reader : Reader) (answer : Option Exchange) (context : Context State) :
    Turned × Context State :=
  let step := Resumable.resume reader answer context.memory
  let context := context.after step.memory step.events
  match step.progress with
  | .finished bytes => (.concluded (.ok bytes), context)
  | .endOfStream => (.concluded (.error (.lacks "Eof" "value")), context)
  | .failed error => (.concluded (.error (.reported error)), context)
  | .raised fault => (.concluded (.error fault), context)
  | .needs exchange =>
    match handle concurrency stream exchange context with
    | (.ok answer, context) => (.suspended step.machine answer, context)
    | (.error fault, context) => (.concluded (.error fault), context)

namespace Reading

variable {answerOf : String -> Answer} {handle : Handle} {make : Host.Make} {total : Offering}
  {context : Context Host} {reader : Reader} {answer : Option Exchange} {asks : Bool}
  {uses : List Host.Asset} {turns : Nat}

theorem positive
    (reading : Reading answerOf handle make total context reader answer asks uses turns) :
    0 < turns := by
  rcases reading.going with ⟨gathered, ended, rest, -, -, -, last, more⟩
  cases ended with
  | true => exact (last rfl).2.2
  | false => exact Nat.zero_lt_of_lt (more rfl)

theorem more {turns' : Nat} (fewer : turns ≤ turns')
    (reading : Reading answerOf handle make total context reader answer asks uses turns) :
    Reading answerOf handle make total context reader answer asks uses turns' := by
  rcases reading.going with ⟨gathered, ended, rest, between, offers, pieces, last, enough⟩
  refine ⟨reading.held, reading.goes, gathered, ended, rest, between, offers, pieces, ?_, ?_⟩
  · intro told
    rcases last told with ⟨nothing, silent, positive⟩
    exact ⟨nothing, silent, Nat.lt_of_lt_of_le positive fewer⟩
  · exact fun going => Nat.lt_of_lt_of_le (enough going) fewer

/-- Whoever touches neither the cells nor the parts of the host that are in use
goes unnoticed. -/
theorem retained
    (reading : Reading answerOf handle make total context reader answer asks uses turns)
    {other : Context Host}
    (cells : ∀ cell ∈ reader.cells ++ answerCells answer,
      other.memory.Holds cell ∧ other.memory.contents cell = context.memory.contents cell)
    (assets : ∀ asset ∈ uses, asset.Same context.state other.state)
    (disk : other.state.disk = context.state.disk) :
    Reading answerOf handle make total other reader answer asks uses turns := by
  rcases reading.going with ⟨gathered, ended, rest, between, offers, pieces, last, more⟩
  exact ⟨fun cell member => (cells cell member).1, reading.goes, gathered, ended, rest,
    between.retained cells, offers.retained assets disk, pieces, last, more⟩

/-- What a turn has led to: the result of the whole offering, or a reading that
takes one turn less. -/
inductive Leads (answerOf : String -> Answer) (handle : Handle) (make : Host.Make)
    (total : Offering) (size : Option Nat) (turns : Nat) (context : Context Host)
    (uses : List Host.Asset) : List Cell -> Turned -> Prop where
  | concluded {asks : Bool} {later : Offering} :
      context.state.Offers answerOf handle make asks uses later ->
      Leads answerOf handle make total size turns context uses [] (.concluded (total.result size))
  | suspended {reader : Reader} {answer : Exchange} : reader.size = size ->
      Reading answerOf handle make total context reader (some answer) false uses (turns - 1) ->
      Leads answerOf handle make total size turns context uses
        (reader.cells ++ answerCells (some answer)) (.suspended reader answer)

/-- One turn of a reading. -/
theorem leads {first : Host} {asks' : Bool} {uses' : List Host.Asset} {before : Offering}
    {count : Nat}
    (reading : Reading answerOf handle make total context reader answer asks uses turns)
    (made : first.Offers answerOf handle make asks' uses' before)
    (answers : Net.Answers answerOf (count + asks.toNat) context.state.net.script)
    (concurrency : Concurrency) :
    let turned := reader.takeTurn concurrency (first.stream handle) answer context
    ∃ left kept, Leads answerOf handle make total reader.size turns turned.2 left kept turned.1 ∧
      context.state.Moves uses turned.2.state left ∧
      context.memory.Moves .read (reader.cells ++ answerCells answer) turned.2.memory kept ∧
      Net.Answers answerOf count turned.2.state.net.script := by
  intro turned
  rcases reading.going with ⟨gathered, ended, rest, between, offers, pieces, last, more⟩
  have steps := between.steps
  have confined := Confining.confined reader answer context.memory reading.held reading.goes
  have unasked : Net.Answers answerOf count context.state.net.script := answers.unasked
  have unmoved : context.state.Moves uses context.state uses := .refl offers.held
  cases stepped : Resumable.resume reader answer context.memory with
  | mk progress machine memory events =>
    rw [stepped] at steps confined
    cases steps with
    | finished done =>
      have ends : turned = (.concluded (.ok gathered), context.after memory events) := by
        simp only [turned, Reader.takeTurn, stepped]
      have result : total.result reader.size = .ok gathered := by
        rcases done with ⟨all, told⟩ | part
        · rcases last told with ⟨nothing, silent, -⟩
          rw [all, Offering.result_whole silent, pieces, nothing, List.append_nil]
        · rw [part, Offering.result_part pieces]
      rw [ends, ← result]
      exact ⟨uses, [], .concluded offers, unmoved, confined.moves.letGo nofun, unasked⟩
    | @short target _ _ _ wanted missing told =>
      have ends : turned = (.concluded (.error (Offering.shortage target gathered)),
          context.after memory events) := by
        simp only [turned, Reader.takeTurn, stepped, Offering.shortage,
          Progress.reporting_unexpectedEnd (Nat.sub_le target gathered.length)]
        by_cases writable : Text.Writable target
        · simp only [if_pos writable]
        · simp only [if_neg writable]
      have result : total.result reader.size = .error (Offering.shortage target gathered) := by
        rcases last told with ⟨nothing, silent, -⟩
        rw [nothing, List.append_nil] at pieces
        rw [wanted, Offering.result_short (pieces ▸ missing), silent, pieces, Option.getD_none]
      rw [ends, ← result]
      exact ⟨uses, [], .concluded offers, unmoved, confined.moves.letGo nofun, unasked⟩
    | @asks _ cell _ _ going missing waits known size =>
      -- The stream is looked at as it was when the reading began.
      rcases made.fill offers answers waits.room concurrency with
        ⟨failed, left, later, fills, offersAfter, answersAfter, moves⟩
      rcases @Offering.Fills.performs _ _ concurrency (context.after memory events) cell _ later failed
        waits.holds fills with ⟨state, performs⟩
      have lends := confined.moves.letGo fun other (member : other ∈ [cell]) =>
        List.mem_append_right _ member
      have writes := (@moves_handle _ concurrency (first.stream handle)
        ⟨.read, .request (.shared cell)⟩ (context.after memory events) lends.held).1
      have inHand : machine.cells = [] := (confined.goes _ rfl).2
      cases performed : ResumableStreams.handle concurrency (first.stream handle)
          ⟨.read, .request (.shared cell)⟩ (context.after memory events) with
      | mk result reached =>
        rw [performed] at state performs writes
        have state' : reached.state = ((first.stream handle).fill concurrency
          ⟨memory.contents cell, true⟩ context.state).2 := state
        rw [← state'] at offersAfter answersAfter moves
        have wrote := lends.trans writes
        cases performs with
        | @failed fault _ nothing fails =>
          have ends : turned = (.concluded (.error fault), reached) := by
            simp only [turned, Reader.takeTurn, stepped, performed]
          have result : total.result reader.size = .error fault := by
            have nothing' : rest = [] := nothing
            rw [nothing', List.append_nil] at pieces
            exact Offering.result_failed fails (pieces ▸ missing)
          rw [ends, ← result]
          exact ⟨left, [], .concluded offersAfter, moves, wrote.letGo nofun, answersAfter⟩
        | @bytes data later there fits ends stored =>
          have goesOn : turned = (.suspended machine ⟨.read, .response ⟨.shared cell, data.length⟩⟩,
              reached) := by
            simp only [turned, Reader.takeTurn, stepped, performed]
          have held : reached.memory.Holds cell := wrote.held cell List.mem_cons_self
          have length : (reached.memory.contents cell).length = (memory.contents cell).length :=
            (congrArg List.length stored).trans (Bytes.length_overStart_of_le fits)
          have between' := Reader.Between.answered (waits.of_length held length) (length ▸ fits)
          rw [known, stored, Bytes.take_overStart] at between'
          have used : machine.cells ++ [cell] = [cell] := by rw [inHand, List.nil_append]
          have enough := more going
          have there' : rest = data ++ later := there
          rw [there', List.length_append] at enough
          have reading' : Reading answerOf handle make total reached machine
              (some ⟨.read, .response ⟨.shared cell, data.length⟩⟩) false left (turns - 1) := by
            refine ⟨?_, ?_, gathered ++ data, _, later, between', offersAfter, ?_, ?_, ?_⟩
            · intro other member
              exact wrote.held other (used.subst member)
            · rintro _ ⟨⟩
              exact ⟨rfl, inHand⟩
            · rw [pieces, there', List.append_assoc]
            · intro told
              rcases ends (List.length_eq_zero_iff.mp (of_decide_eq_true told)) with
                ⟨nothing, silent⟩
              exact ⟨nothing, silent, by omega⟩
            · intro told
              have some_data : data.length ≠ 0 := of_decide_eq_false told
              omega
          rw [goesOn]
          exact ⟨left, _, .suspended size reading', moves, wrote.letGo fun _ => used.subst,
            answersAfter⟩

end Reading

end ResumableStreams
