import ResumableStreams.Proofs.Exactness
import ResumableStreams.Proofs.Patience
import ResumableStreams.Proofs.Tally
import ResumableStreams.Stream.LocalFile

namespace ResumableStreams

/-!
# Streams that give too much

A runtime checks the count of every read against the length that the buffer
has after the read.  A stream that leaves the length as it was cannot pass this
check with more than the buffer holds.  But bytes that were fetched are put
over the start of the buffer, and too many of them make it grow before it is
measured.  The response then holds more than was asked for.

Whether a read `Stream.Fits` is therefore all that matters.  Streams that read
into the buffer are trusted with its length; for those that only fetch, a read
fits if and only if they return no more than they were asked for.  A local
stream is no protection, since it fetches in the same way.

For a `ReadExact` this means that it returns at least its target, whatever the
stream does, and exactly its target if the reads fit.
-/

/-! ## One read -/

namespace Stream

variable {State : Type} (stream : Stream State)

/-- Of a stream that can only hand bytes out, a read fits if no more of them
come than were asked for. -/
theorem fits_iff_of_fetch {fetch : Nat -> State -> Fetch × State}
    (receives : stream.receive = none) (reads : stream.readInto = none)
    (fetches : stream.fetch = some fetch) (contents : Bytes) (state : State) :
    stream.Fits .blocking ⟨contents, true⟩ state ↔
      ∀ data, (fetch contents.length state).1 = .bytes data -> data.length ≤ contents.length := by
  have filled : (stream.fill .blocking ⟨contents, true⟩ state).1 =
      Fetch.copyInto ⟨contents, true⟩ (fetch contents.length state).1 := by
    simp only [fill, receives, reads, fillByFetching, fetches]
    rfl
  rw [Fits, filled]
  cases (fetch contents.length state).1 with
  | wouldBlock => simp [Fetch.copyInto, Lent.untouched, Lent.size]
  | raised fault => simp [Fetch.copyInto, Lent.untouched, Lent.size]
  | characters count => cases count <;> simp [Fetch.copyInto, Lent.untouched, Lent.size]
  | bytes data =>
    have length : (Fetch.copyInto ⟨contents, true⟩ (.bytes data)).contents.length =
        max data.length contents.length := by
      cases data with
      | nil => exact (Nat.zero_max _).symm
      | cons first data => exact Bytes.length_overStart _ _
    simp only [length, Lent.size, Fetch.bytes.injEq, forall_eq']
    omega

/-- A read of a local stream fits whenever the read of its file does, which is
never taken for a socket. -/
theorem fits_localFile_iff (file : LocalFile) (lent : Lent) (state : State) :
    (LocalFile.stream .blocking stream).Fits .blocking lent (file, state) ↔
      file.forgotten = true ∨
        ({ stream with receive := none } : Stream State).Fits .blocking lent state := by
  have filled : (LocalFile.stream .blocking stream).fill .blocking lent (file, state) =
      LocalFile.readInto stream lent (file, state) := rfl
  rw [Fits, filled]
  cases forgotten : file.forgotten with
  | true => simp [LocalFile.readInto, forgotten, Lent.untouched, Lent.size]
  | false =>
    simp only [LocalFile.readInto, forgotten, Bool.false_eq_true, if_false, false_or, Fits, fill,
      Option.orElse_eq_orElse, Option.orElse_eq_or, Option.none_or]
    rfl

/-- Any reply to a read decides what the runtime hands over, and after the read
the buffer is as long as the stream has left it. -/
theorem gives_handle (concurrency : Concurrency) (buffer : Buffer) (context : Context State) :
    let performed := handle concurrency stream ⟨.read, .request buffer⟩ context
    ∃ reply : Reply, reply.Gives .read buffer performed.2.memory performed.1 := by
  cases buffer with
  | frozen bytes => exact ⟨_, Exchange.gives_answer _ _ _ _⟩
  | shared cell => exact ⟨_, Exchange.gives_answer _ _ _ _⟩

/-- A buffer that can be changed is afterwards as long as before if and only if
the read fits.  Any other keeps its length in any case. -/
theorem size_handle_iff (concurrency : Concurrency) {buffer : Buffer} {context : Context State}
    (held : ∀ cell, buffer = .shared cell -> context.memory.Holds cell) :
    let performed := handle concurrency stream ⟨.read, .request buffer⟩ context
    buffer.size performed.2.memory = buffer.size context.memory ↔
      (buffer.isMutable = true ->
        stream.Fits concurrency ⟨buffer.bytes context.memory, true⟩ context.state) := by
  cases buffer with
  | frozen bytes => exact ⟨fun _ => nofun, fun _ => rfl⟩
  | shared cell =>
    have stored : (Buffer.shared cell).size
        (handle concurrency stream ⟨.read, .request (.shared cell)⟩ context).2.memory =
        (stream.fill concurrency ⟨context.memory.contents cell, true⟩
          context.state).1.contents.length :=
      congrArg List.length (Memory.contents_store_self (held cell rfl) _)
    intro performed
    rw [stored]
    exact ⟨fun same _ => same, fun fits => fits rfl⟩

/-- What a runtime hands over for a read: a fault, the request itself, or a
response on the same buffer with a count that the buffer then holds.  The
response is no more than was asked for, and its buffer as long as it was, if
and only if the read fits. -/
theorem handle_read (concurrency : Concurrency) {buffer : Buffer} {context : Context State}
    (held : ∀ cell, buffer = .shared cell -> context.memory.Holds cell) :
    let performed := handle concurrency stream ⟨.read, .request buffer⟩ context
    (∃ fault, performed.1 = .error fault) ∨ performed.1 = .ok ⟨.read, .request buffer⟩ ∨
      ∃ count, performed.1 = .ok ⟨.read, .response ⟨buffer, count⟩⟩ ∧
        count ≤ buffer.size performed.2.memory ∧
        (count ≤ buffer.size context.memory ∧
            buffer.size performed.2.memory = buffer.size context.memory ↔
          (buffer.isMutable = true ->
            stream.Fits concurrency ⟨buffer.bytes context.memory, true⟩ context.state)) := by
  intro performed
  rcases stream.gives_handle concurrency buffer context with ⟨reply, gives⟩
  have lengths := stream.size_handle_iff concurrency held
  change reply.Gives .read buffer performed.2.memory performed.1 at gives
  change buffer.size performed.2.memory = buffer.size context.memory ↔ _ at lengths
  generalize performed.1 = result at gives ⊢
  cases gives with
  | blocked => exact .inr (.inl rfl)
  | refused count outside => exact .inl ⟨_, rfl⟩
  | raised fault => exact .inl ⟨fault, rfl⟩
  | moved count fits =>
    refine .inr (.inr ⟨count, rfl, fits, ?_⟩)
    rw [← lengths]
    exact ⟨And.right, fun same => ⟨same ▸ fits, same⟩⟩

end Stream

/-- A file in memory puts no more into a buffer than there is room for. -/
theorem MemoryFile.keepsLengths : MemoryFile.stream.KeepsLengths .blocking := by
  intro contents file
  show (file.readInto ⟨contents, true⟩).1.contents.length = contents.length
  unfold MemoryFile.readInto
  cases file.closed with
  | true => rfl
  | false => exact Bytes.length_overStart_of_le (List.length_take_le _ _)

/-! ## What a machine gathers of the replies -/

/-- The number of bytes that replies say have moved. -/
def totalMoved (replies : List Reply) : Int :=
  replies.foldl (fun total reply => total + LocalFile.moved reply) 0

@[simp] theorem totalMoved_append (earlier : List Reply) (reply : Reply) :
    totalMoved (earlier ++ [reply]) = totalMoved earlier + LocalFile.moved reply := by
  simp [totalMoved]

/-- The stream was not blocked when it gave this reply. -/
def Reply.isHeard : Reply -> Bool
  | .wouldBlock => false
  | .moved _ | .raised _ => true

namespace ReadExact

/-- The machine takes as many bytes as the response says have moved. -/
theorem size_absorb (machine : ReadExact) (output : Output) {memory : Memory}
    (fits : output.count ≤ output.buffer.size memory) :
    (machine.absorb output memory).1.collected.size = machine.collected.size + output.count := by
  show machine.collected.size + ((output.buffer.bytes memory).take output.count).length = _
  rw [List.length_take]
  exact congrArg _ (Nat.min_eq_left fits)

/-- With its buffer back the machine is ready for the next request. -/
theorem ready_absorb (machine : ReadExact) (output : Output) {memory : Memory}
    (held : ∀ cell, output.buffer = .shared cell -> memory.Holds cell)
    (fits : output.count ≤ output.buffer.size memory) (moved : output.count ≠ 0) :
    (machine.absorb output memory).1.Ready (machine.absorb output memory).2 where
  armed := Read.armed_replace machine.read held
  room := by
    intro _
    have capacity := Read.capacity_replace machine.read output.buffer memory
    exact capacity ▸ Nat.lt_of_lt_of_le (Nat.pos_of_ne_zero moved) fits

/-- While the stream is asked, the machine has taken what the replies say has
moved, at least one byte with each reply that was not blocked.  Of a stream that
keeps the lengths of buffers it asks for no more than it misses. -/
structure Tallies (start : ReadExact) (keeps : Prop) (replies : List Reply) (machine : ReadExact)
    (exchange : Exchange) (memory : Memory) : Prop where
  lends : ∃ cell, exchange = ⟨.read, .request (.shared cell)⟩ ∧ memory.Holds cell ∧
    (keeps -> (memory.contents cell).length ≤ machine.remaining)
  fitted : machine.Fitted
  target : machine.target = start.target
  gathered : (machine.collected.size : Int) = start.collected.size + totalMoved replies
  heard : (replies.countP Reply.isHeard : Int) ≤ totalMoved replies

/-- A result holds what the replies say has moved.  It reaches the target, and
does not pass it if the stream keeps the lengths of buffers. -/
def TalliesAll (start : ReadExact) (keeps : Prop) (replies : List Reply) (ending : Ending Bytes) :
    Prop :=
  ending ≠ .endOfStream ∧ ∀ value, ending = .finished value ->
    (value.length : Int) = start.collected.size + totalMoved replies ∧
      start.target ≤ value.length ∧
      (keeps -> value.length = start.target)

def tallying (start : ReadExact) (keeps : Prop) : Course ReadExact Bytes :=
  ⟨start.Tallies keeps, start.TalliesAll keeps⟩

/-- A machine that is asked for more, and has not passed its target where this
must not be, hands over what it has or goes on. -/
theorem Ready.leads {start machine : ReadExact} {keeps : Prop} {replies : List Reply}
    {memory : Memory} (ready : machine.Ready memory) (target : machine.target = start.target)
    (gathered : (machine.collected.size : Int) = start.collected.size + totalMoved replies)
    (heard : (replies.countP Reply.isHeard : Int) ≤ totalMoved replies)
    (within : keeps -> machine.collected.size ≤ machine.target) :
    (start.tallying keeps).Leads replies (Resumable.resume machine none memory) := by
  by_cases complete : machine.Complete
  · rw [resume_of_complete complete]
    refine ⟨nofun, ?_⟩
    rintro value ⟨⟩
    rw [Collected.length_bytes]
    have reached : machine.target ≤ machine.collected.size := complete
    refine ⟨gathered, target ▸ reached, fun kept => ?_⟩
    rw [← target]
    exact Nat.le_antisymm (within kept) reached
  · rcases ready.exists_request complete with
      ⟨cell, waiting, after, events, asked, waits, sameTarget, sameCollected⟩
    rw [asked]
    exact
      { lends := ⟨cell, rfl, waits.held, fun _ => waits.length ▸ waits.fits⟩
        fitted := ⟨waits.incomplete, waits.fits⟩
        target := sameTarget.trans target
        gathered := by rw [sameCollected, gathered]
        heard := heard }

theorem kept_tallying {State : Type} {stream : Stream State} {concurrency : Concurrency}
    {keeps : Prop} (start : ReadExact) (lengths : keeps -> stream.KeepsLengths concurrency) :
    (start.tallying keeps).Kept stream concurrency where
  isRequest := by
    intro replies machine exchange memory asks
    rcases asks.lends with ⟨cell, lent, -, -⟩
    exact ⟨.read, .shared cell, lent⟩
  blocked := by
    intro replies machine direction buffer before after asks leaves
    rcases asks.lends with ⟨cell, lent, held, length⟩
    cases lent
    rcases asks.fitted.repeats (.shared cell) after with ⟨events, repeated⟩
    rw [repeated]
    exact
      { lends := by
          refine ⟨cell, rfl, leaves.holds held, fun kept => ?_⟩
          have same := leaves.lengths (lengths kept) (.shared cell)
          exact Nat.le_trans (Nat.le_of_eq same) (length kept)
        fitted := asks.fitted
        target := asks.target
        gathered := by
          rw [totalMoved_append, LocalFile.moved, Int.add_zero, asks.gathered]
        heard := by
          rw [List.countP_append, List.countP_singleton, totalMoved_append, LocalFile.moved,
            Int.add_zero]
          exact asks.heard }
  moved := by
    intro replies machine direction buffer before after asks leaves count fits
    rcases asks.lends with ⟨cell, lent, held, length⟩
    cases lent
    by_cases nothing : count = 0
    · subst nothing
      rcases asks.fitted.receive_end (.shared cell) after with ⟨events, ended⟩
      rw [reporting_shortage] at ended
      by_cases writable : Text.Writable machine.target
      · rw [if_pos writable] at ended
        simp only [Course.Leads, ended]
        exact ⟨nofun, nofun⟩
      · rw [if_neg writable] at ended
        simp only [Course.Leads, ended]
        exact ⟨nofun, nofun⟩
    · rcases asks.fitted.receive_bytes ⟨.shared cell, count⟩ nothing after with ⟨events, received⟩
      rw [received]
      have size : (machine.absorb ⟨.shared cell, count⟩ after).1.collected.size =
          machine.collected.size + count := machine.size_absorb ⟨.shared cell, count⟩ fits
      have ready := machine.ready_absorb ⟨.shared cell, count⟩
        (by rintro _ ⟨⟩; exact leaves.holds held) fits nothing
      apply Ready.leads ready asks.target
      · rw [size, totalMoved_append, LocalFile.moved, Int.natCast_add, asks.gathered]
        omega
      · have heard := asks.heard
        rw [List.countP_append, List.countP_singleton, totalMoved_append, LocalFile.moved]
        simp only [Reply.isHeard, if_true]
        omega
      · intro kept
        have room : (before.contents cell).length ≤ machine.target - machine.collected.size :=
          length kept
        have same : (after.contents cell).length = (before.contents cell).length :=
          leaves.lengths (lengths kept) (.shared cell)
        have within : count ≤ (after.contents cell).length := fits
        have short : ¬ machine.target ≤ machine.collected.size := asks.fitted.incomplete
        rw [size]
        show machine.collected.size + count ≤ machine.target
        omega

/-- A drive of a new machine on any stream whatever gives what the replies of
the stream say has moved, and stops with an error or at the limit otherwise.
It gives at least the target, and exactly the target where no read changes the
length of a buffer. -/
theorem tallies_drive {State : Type} (stream : Stream State) (concurrency : Concurrency)
    (target : Nat) {capacity : Nat} (positive : 0 < capacity) (limit : Nat) (memory : Memory)
    (journal : Array Event) (state : State) :
    let built := create target capacity memory
    let run := drive concurrency stream limit built.1 ⟨built.2, journal, state⟩
    let watched := drive concurrency (stream.recorded concurrency) limit built.1
      ⟨built.2, journal, ([], state)⟩
    run.Beside (fun reached record => record.2 = reached) watched ∧
      run.ending ≠ .endOfStream ∧
      ∀ value, run.ending = .finished value ->
        (value.length : Int) = totalMoved watched.context.state.1 ∧ target ≤ value.length ∧
          (stream.KeepsLengths concurrency -> value.length = target) := by
  intro built run watched
  have beside : run.Beside (fun reached record => record.2 = reached) watched :=
    (stream.imitates_recorded concurrency).drive limit built.1 ⟨rfl, rfl⟩
  have leads : (built.1.tallying (stream.KeepsLengths concurrency)).Leads []
      (Resumable.resume built.1 none built.2) :=
    (ready_create target positive memory).leads rfl rfl (Int.le_refl _) fun _ => Nat.zero_le _
  have ended : (built.1.tallying (stream.KeepsLengths concurrency)).Ends stream concurrency limit
      [] watched.context.state.1 watched.ending :=
    ((built.1.kept_tallying id).drive limit built.1 built.2 journal state leads).ended
  refine ⟨beside, ?_⟩
  rw [← beside.ending]
  generalize watched.context.state.1 = replies at ended ⊢
  generalize watched.ending = ending at ended ⊢
  cases ended with
  | unfinished length => exact ⟨nofun, nofun⟩
  | raised asks leaves gives => exact ⟨nofun, nofun⟩
  | rested rests own =>
    refine ⟨rests.1, ?_⟩
    intro value finished
    rcases rests.2 value finished with ⟨gathered, reached, whole⟩
    refine ⟨?_, reached, whole⟩
    rw [gathered]
    exact Int.zero_add _

end ReadExact

/-! ## What a blocking runtime hands over -/

/-- Whatever a stream does when it is read from, the blocking runtime fails,
gives the request back, or gives a response on the same buffer, with a count
that the buffer holds by then.  The response has no more than was asked for,
and its buffer is as long as it was, if and only if the read fits.  Reading
into the buffer fits if the stream leaves the length as it was; fetching fits
if no more is returned than was asked for; and a local stream before another
makes no difference, but that it never takes the other for a socket.

A new `ReadExact` that is driven without seeds therefore returns at least its
target or stops with an error.  What it returns is what the stream says has
moved, and exactly the target on every stream whose reads fit. -/
theorem hands_over_what_was_asked_iff {State : Type} (stream : Stream State) :
    (∀ (buffer : Buffer) (context : Context State),
      (∀ cell, buffer = .shared cell -> context.memory.Holds cell) ->
      let performed := handle .blocking stream ⟨.read, .request buffer⟩ context
      (∃ fault, performed.1 = .error fault) ∨ performed.1 = .ok ⟨.read, .request buffer⟩ ∨
        ∃ count, performed.1 = .ok ⟨.read, .response ⟨buffer, count⟩⟩ ∧
          count ≤ buffer.size performed.2.memory ∧
          (count ≤ buffer.size context.memory ∧
              buffer.size performed.2.memory = buffer.size context.memory ↔
            (buffer.isMutable = true ->
              stream.Fits .blocking ⟨buffer.bytes context.memory, true⟩ context.state))) ∧
    (∀ (fetch : Nat -> State -> Fetch × State) (contents : Bytes) (state : State),
      stream.receive = none -> stream.readInto = none -> stream.fetch = some fetch ->
      (stream.Fits .blocking ⟨contents, true⟩ state ↔
        ∀ data, (fetch contents.length state).1 = .bytes data ->
          data.length ≤ contents.length)) ∧
    (∀ (file : LocalFile) (lent : Lent) (state : State),
      (LocalFile.stream .blocking stream).Fits .blocking lent (file, state) ↔
        file.forgotten = true ∨
          ({ stream with receive := none } : Stream State).Fits .blocking lent state) ∧
    ∀ (target capacity : Nat), 0 < capacity ->
      ∀ (limit : Nat) (memory : Memory) (journal : Array Event) (state : State),
        (ReadExact.make target capacity memory).Gives (min capacity target) memory.room
          fun machine after =>
            let run := drive .blocking stream limit machine ⟨after, journal, state⟩
            let watched := drive .blocking (stream.recorded .blocking) limit machine
              ⟨after, journal, ([], state)⟩
            run.Beside (fun reached record => record.2 = reached) watched ∧
              run.ending ≠ .endOfStream ∧
              ∀ value, run.ending = .finished value ->
                (value.length : Int) = totalMoved watched.context.state.1 ∧
                  target ≤ value.length ∧
                  (stream.KeepsLengths .blocking -> value.length = target) := by
  refine ⟨?_, ?_, ?_, ?_⟩
  · intro buffer context held
    exact stream.handle_read .blocking held
  · intro fetch contents state receives reads fetches
    exact stream.fits_iff_of_fetch receives reads fetches contents state
  · intro file lent state
    exact stream.fits_localFile_iff file lent state
  · intro target capacity positive limit memory journal state
    refine (ReadExact.make_gives target positive memory).imp ?_
    rintro _ _ ⟨rfl, rfl⟩
    exact ReadExact.tallies_drive stream .blocking target positive limit memory journal state

/-- Of the five bytes of a file in memory three are handed over where three are
asked for. -/
theorem hands_over_what_was_asked_iff_of_three :
    let built := ReadExact.make 3 2 .empty
    ∃ machine, built.result = .ok machine ∧
      let run := drive .blocking MemoryFile.stream 4 machine
        ⟨built.memory, #[], MemoryFile.ofBytes [1, 2, 3, 4, 5]⟩
      ∃ value, run.ending = .finished value ∧ value.length = 3 := by
  have gives := (hands_over_what_was_asked_iff MemoryFile.stream).2.2.2 3 2 (by decide) 4 .empty
    #[] (MemoryFile.ofBytes [1, 2, 3, 4, 5])
  rcases gives.exists_of_allowed rfl with ⟨machine, built, -, -, tallies⟩
  cases built
  have ended := (@ReadExact.settled_create _ _ _ (MemoryFile.supply .blocking) 3 2 (by decide) []
    .empty #[] (.ofBytes [1, 2, 3, 4, 5]) rfl 4 (by decide)).2.1
  exact ⟨_, rfl, _, ended, (tallies _ ended).2.2 MemoryFile.keepsLengths⟩

/-- A stream that returns three bytes where two were asked for.  The runtime
hands all three over, in a buffer that has grown, and a `ReadExact` returns them,
also with a local stream in between. -/
theorem hands_over_more_than_was_asked :
    let stream := Scripted.stream .blocking ⟨false, true, false, false⟩
    let start : Scripted := ⟨[], [.surplus [97, 98, 99]], [], .empty, 0, 0⟩
    let lent := Memory.empty.allocate (Bytes.zeros 2)
    let performed := handle .blocking stream ⟨.read, .request (.shared lent.1)⟩
      ⟨lent.2, #[], start⟩
    let built := ReadExact.create 2 2 .empty
    performed.1 = .ok ⟨.read, .response ⟨.shared lent.1, 3⟩⟩ ∧
      performed.2.memory.contents lent.1 = [97, 98, 99] ∧
      (drive .blocking stream 3 built.1 ⟨built.2, #[], start⟩).ending =
        .finished [97, 98, 99] ∧
      (drive .blocking (LocalFile.stream .blocking stream) 3 built.1
        ⟨built.2, #[], (LocalFile.fresh false, start)⟩).ending = .finished [97, 98, 99] :=
  ⟨rfl, rfl, rfl, rfl⟩

end ResumableStreams
